import PegKit.Files.Host
import PegKit.Files.PathName

/-!
# File trees

The files below one directory as a value. Paths are followed part by part: every part but the last
has to lead to a directory, a single dot stays, and two dots go up. Outside of the directory nothing
is found.
-/

namespace PegKit

inductive FileEntry
  | directory
  | file (content : ByteArray)

/-- Files and directories by the names on the way to them. A directory with something in it need not
be listed itself. -/
structure FileTree where
  entries : List (List String × FileEntry)

namespace FileTree

def empty : FileTree := ⟨[]⟩

/-- What lies at the end of `names`. -/
def find? (tree : FileTree) (names : List String) : Option FileEntry :=
  match tree.entries.lookup names with
  | some entry => some entry
  | none =>
    if names.isEmpty || tree.entries.any (fun entry ↦ names.isPrefixOf entry.1) then
      some .directory
    else none

/-- Puts `entry` at the end of `names`, in place of what was there. -/
def insert (tree : FileTree) (names : List String) (entry : FileEntry) : FileTree :=
  if tree.entries.any (·.1 == names) then
    ⟨tree.entries.map fun old ↦ if old.1 == names then (names, entry) else old⟩
  else ⟨tree.entries ++ [(names, entry)]⟩

/-- Where a path leads. -/
inductive Target
  /-- To something that exists. -/
  | found (names : List String) (entry : FileEntry)
  /-- To a name that is free in an existing directory. -/
  | free (names : List String)
  /-- To a directory outside of the tree. -/
  | outside

/-- The longest name, in bytes. -/
def longestName : Nat := 255

/-- The longest path, in bytes. -/
def longestPath : Nat := 4095

/-- Follows parts of a path outside of the tree. -/
def followOutside : List String → Except FileError Target
  | [] => .ok .outside
  | part :: rest =>
    if part = "" || part = "." || part = ".." then followOutside rest else .error .notFound

/-- Follows parts of a path from where `names` lead. -/
def follow (tree : FileTree) (names : List String) : List String → Except FileError Target
  | [] =>
    match tree.find? names with
    | some entry => .ok (.found names entry)
    | none => .error .notFound
  | part :: rest =>
    match tree.find? names with
    | some .directory =>
      if part = "" || part = "." then follow tree names rest
      else if part = ".." then
        if names.isEmpty then followOutside rest else follow tree names.dropLast rest
      else if longestName < part.utf8ByteSize then .error .nameTooLong
      else if (tree.find? (names ++ [part])).isSome then follow tree (names ++ [part]) rest
      else if rest.isEmpty then .ok (.free (names ++ [part]))
      else if rest.all (· == "") then .error .isADirectory
      else .error .notFound
    | some (.file _) => .error .notADirectory
    | none => .error .notFound

/-- Where `path` leads. -/
def target (tree : FileTree) (path : String) : Except FileError Target :=
  if path.contains '\x00' then .error .nulInName
  else if path.isEmpty then .error .notFound
  else if longestPath < path.utf8ByteSize then .error .nameTooLong
  else
    let parts := (PathName.segments path.toList).map String.ofList
    if path.startsWith "/" then followOutside parts else tree.follow [] parts

def isFile (tree : FileTree) (path : String) : Bool :=
  match tree.target path with
  | .ok (.found _ (.file _)) => true
  | _ => false

def readBytes (tree : FileTree) (path : String) : Except FileError ByteArray := do
  match ← tree.target path with
  | .found _ (.file content) => return content
  | .found _ .directory => throw .isADirectory
  | .outside => throw .isADirectory
  | .free _ => throw .notFound

def write (tree : FileTree) (path : String) (text : String) : Except FileError FileTree := do
  match ← tree.target path with
  | .found names (.file _) => return tree.insert names (.file text.toUTF8)
  | .free names => return tree.insert names (.file text.toUTF8)
  | .found _ .directory => throw .isADirectory
  | .outside => throw .isADirectory

/-- Whether `tree` has a file of just this content at the end of `names`. -/
def holds (tree : FileTree) (names : List String) (content : ByteArray) : Bool :=
  match tree.find? names with
  | some (.file found) => found.data == content.data
  | _ => false

/-- The files of `tree` that `before` does not have, or has with other content. -/
def changesSince (tree before : FileTree) : List (List String × ByteArray) :=
  tree.entries.filterMap fun entry ↦
    match entry.2 with
    | .directory => none
    | .file content =>
      if before.holds entry.1 content then none else some (entry.1, content)

end FileTree

/-- A file tree, and the standard input that is still to be read. -/
structure Site where
  files : FileTree
  input : ByteArray

instance : Host (StateM Site) where
  isFile path := return (← get).files.isFile path
  readFile path := return ((← get).files.readBytes path) >>= decodeText
  writeFile path text := modifyGet fun site ↦
    match site.files.write path text with
    | .ok files => (.ok (), { site with files })
    | .error error => (.error error, site)
  readInput := modifyGet fun site ↦ (decodeText site.input, { site with input := ByteArray.empty })

end PegKit
