import PegKit.Diagnostic.Kind

/-!
# Canvas

A grid of characters with inks that snippets are drawn on. A stroke puts one character into a cell;
a later stroke covers an earlier one, and cells left of a stroke that nothing was put into are
blank.
-/

namespace PegKit.Snippet

/-- What a character is drawn with. -/
inductive Ink
  | plain
  | bold
  /-- The color of the report's severity. -/
  | severity
  /-- The color of line numbers, borders and secondary marks. -/
  | margin
  deriving DecidableEq, Repr, Inhabited

structure Cell where
  char : Char
  ink : Ink
  deriving DecidableEq, Repr, Inhabited

/-- One character at a row and column. -/
structure Stroke where
  row : Nat
  column : Nat
  cell : Cell
  deriving DecidableEq, Repr

namespace Stroke

/-- `stroke`, so many rows further down. -/
def lower (rows : Nat) (stroke : Stroke) : Stroke :=
  { stroke with row := stroke.row + rows }

end Stroke

/-- A single character. -/
def dot (row column : Nat) (char : Char) (ink : Ink) : List Stroke :=
  [⟨row, column, ⟨char, ink⟩⟩]

/-- A text from a column on, one cell to a character. -/
def write (row column : Nat) (text : List Char) (ink : Ink) : List Stroke :=
  text.zipIdx.map fun entry ↦ ⟨row, column + entry.2, ⟨entry.1, ink⟩⟩

/-- One character in all columns from `start` up to `stop`. -/
def across (row start stop : Nat) (char : Char) (ink : Ink) : List Stroke :=
  (List.range' start (stop - start)).map fun column ↦ ⟨row, column, ⟨char, ink⟩⟩

/-- One character in all rows from `start` up to `stop`. -/
def down (start stop column : Nat) (char : Char) (ink : Ink) : List Stroke :=
  (List.range' start (stop - start)).map fun row ↦ ⟨row, column, ⟨char, ink⟩⟩

namespace Canvas

def putCell (row : Array Cell) (column : Nat) (cell : Cell) : Array Cell :=
  if column < row.size then row.modify column fun _ ↦ cell
  else (row ++ Array.replicate (column - row.size) (Cell.mk ' ' .plain)).push cell

/-- `height` rows with `strokes` drawn in order. -/
def draw (height : Nat) (strokes : List Stroke) : Array (Array Cell) :=
  strokes.foldl (fun rows stroke ↦ rows.modify stroke.row fun row ↦
    putCell row stroke.column stroke.cell) (Array.replicate height #[])

end Canvas

/-- The escape sequence that switches to an ink; empty for the plain one. -/
def Ink.escape (severity : Severity) : Ink → String
  | .plain => ""
  | .bold => "\x1b[1m"
  | .severity =>
    match severity with
    | .error => "\x1b[1m\x1b[91m"
    | .warning => "\x1b[1m\x1b[33m"
  | .margin => "\x1b[1m\x1b[94m"

def Ink.ending (ink : Ink) : String :=
  if ink = .plain then "" else "\x1b[0m"

/-- The text of a row in color, after cells drawn with `current`. -/
def coloredRow (severity : Severity) (current : Ink) : List Cell → String
  | [] => current.ending
  | cell :: rest =>
    if cell.ink = current then String.singleton cell.char ++ coloredRow severity current rest
    else
      current.ending ++ cell.ink.escape severity ++ String.singleton cell.char ++
        coloredRow severity cell.ink rest

def plainRow (row : List Cell) : String :=
  String.ofList (row.map (·.char))

/-- The rows of a drawing, joined by newlines. -/
def paint (color : Bool) (severity : Severity) (height : Nat) (strokes : List Stroke) : String :=
  "\n".intercalate ((Canvas.draw height strokes).toList.map fun row ↦
    if color then coloredRow severity .plain row.toList else plainRow row.toList)

end PegKit.Snippet
