/-!
# Identifier casing

Names of generated items. Rule and grammar names become type names in Pascal case, function and
module names in snake case, and module names that collide with a keyword of the generated code are
written as raw identifiers. Only ASCII letters have case here.
-/

namespace PegKit.Text.Casing

def isSeparator (c : Char) : Bool :=
  c == '_' || c == '-' || c == '.'

/-- The maximal runs of characters that are no separators; a run between two adjacent separators is
empty. -/
def pieces : List Char → List (List Char)
  | [] => [[]]
  | c :: cs =>
    if isSeparator c then [] :: pieces cs
    else match pieces cs with
      | [] => [[c]]
      | word :: words => (c :: word) :: words

/-- Capital first letter, small other letters. -/
def capitalize : List Char → List Char
  | [] => []
  | c :: cs => c.toUpper :: cs.map Char.toLower

/-- A capital first letter, some small letter and no separator. -/
def isPascal (name : List Char) : Bool :=
  (name.head?.any Char.isUpper) && name.any Char.isLower && !name.any isSeparator

/-- Joins the separated words of a name, each capitalized. A name already in Pascal case stays. -/
def pascal (name : List Char) : List Char :=
  if isPascal name then name else (pieces name).flatMap capitalize

/-- Writes `c` after the text `written`, which is held in reverse. -/
def snakeStep (written : List Char) (c : Char) : List Char :=
  if c.isUpper then
    if written.isEmpty || written.head? == some '_' then c.toLower :: written
    else c.toLower :: '_' :: written
  else c :: written

/-- Makes capitals small, each set off by an underscore from what stands before it. -/
def snake (name : List Char) : List Char :=
  (name.foldl snakeStep []).reverse

/-- Words that the generated language keeps for itself, and lets an item use in raw form. -/
def keywords : List String :=
  ["abstract", "as", "async", "await", "become", "box", "break", "const", "continue", "do",
    "dyn", "else", "enum", "extern", "false", "final", "fn", "for", "gen", "if", "impl", "in",
    "let", "loop", "macro", "match", "mod", "move", "mut", "override", "priv", "pub", "ref",
    "return", "static", "struct", "trait", "true", "try", "type", "typeof", "unsafe", "unsized",
    "use", "virtual", "where", "while", "yield"]

/-- Words that have no raw form. -/
def pathWords : List String :=
  ["self", "super", "crate", "Self"]

/-- An identifier for an item called `name`: keywords are written raw, and a path word gets an
underscore at its end. -/
def identifier (name : String) : String :=
  if pathWords.contains name then name ++ "_"
  else if keywords.contains name then "r#" ++ name
  else name

def pascalName (name : String) : String := String.ofList (pascal name.toList)

def snakeName (name : String) : String := String.ofList (snake name.toList)

end PegKit.Text.Casing
