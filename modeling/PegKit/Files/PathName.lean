import PegKit.Text.Offset

/-!
# Path names

The name of a file inside its path, and the extension of that name. Slashes and single dots at the
end of a path count for nothing; a path that then ends with two dots, or is used up, names no file.
A dot at the start of a name starts no extension.
-/

namespace PegKit.PathName

/-- The parts of a path between slashes. There is always one. -/
def segments : List Char → List (List Char)
  | [] => [[]]
  | c :: cs =>
    match segments cs with
    | [] => [[c]]
    | segment :: rest => if c = '/' then [] :: segment :: rest else (c :: segment) :: rest

def join (parts : List (List Char)) : List Char :=
  ['/'].intercalate parts

/-- A path that names a file: the parts before the name, and the name. -/
structure Split where
  folders : List (List Char)
  name : List Char
  deriving DecidableEq, Repr

/-- Whether a part at the end of a path counts for nothing. -/
def isIdle (part : List Char) : Bool := part == [] || part == ['.']

def split? (path : List Char) : Option Split :=
  match (segments path).reverse.dropWhile isIdle with
  | [] => none
  | name :: folders => if name = ['.', '.'] then none else some ⟨folders.reverse, name⟩

/-- The name without its extension, and the extension. -/
def nameParts (name : List Char) : List Char × Option (List Char) :=
  match name.reverse.dropWhile (· != '.') with
  | [] => (name, none)
  | [_] => (name, none)
  | _ :: stem => (stem.reverse, some ((name.reverse.takeWhile (· != '.')).reverse))

def extension? (path : List Char) : Option (List Char) :=
  (split? path).bind fun split ↦ (nameParts split.name).2

/-- The path up to the stem of its name, with `extension` after it. A path that names no file
stays. -/
def setExtension (path extension : List Char) : List Char :=
  match split? path with
  | none => path
  | some split => join (split.folders ++ [(nameParts split.name).1]) ++ '.' :: extension

/-- The path with `extension` in place of its own. As much is cut off the end of the path as its own
extension is long, and what is left gets the new one. -/
def withExtension (path extension : List Char) : List Char :=
  match extension? path with
  | none => setExtension path extension
  | some old => setExtension (path.take (path.length - old.length)) extension

def appendExtension (path extension : List Char) : List Char :=
  path ++ '.' :: extension

end PegKit.PathName
