import PegKit.Palette
import PegKit.Program
import PegKit.Text.Quoted

/-!
# Program dumps

The tables of a program as text: the grammar's name and root, comments, symbols, rules and, one to a
line, the operations with their numbers padded to one width.
-/

namespace PegKit.Program

def opName (id : OpId) : String := s!"E{id.index}"

def ruleNumber (id : RuleId) : String := s!"R{id.index}"

def symbolNumber (symbol : Symbol) : String := s!"S{symbol.index}"

def opNames (ids : List OpId) : String :=
  " ".intercalate (ids.map opName)

/-- What an operation refers to by number, shown dim after it. -/
def gloss (palette : Palette) (text : String) : String :=
  palette.paint palette.dim ("  ; " ++ text)

/-- One operation, without its number. -/
def dumpOp (program : Program) (palette : Palette) (op : Op) : String :=
  match op with
  | .sequence items => "seq " ++ opNames items
  | .choice alternatives => "choice " ++ opNames alternatives
  | .repetition inner least => s!"repeat {opName inner} min={least}"
  | .optional inner => "opt " ++ opName inner
  | .lookahead inner => "and " ++ opName inner
  | .negativeLookahead inner => "not " ++ opName inner
  | .predicate hook negated =>
    "pred" ++ (if negated then "!" else "&") ++ " " ++ symbolNumber hook ++
      gloss palette (program.symbolText hook)
  | .label name inner =>
    s!"label {symbolNumber name} {opName inner}" ++ gloss palette (program.symbolText name)
  | .call rule => "call " ++ ruleNumber rule ++ gloss palette (program.ruleName rule)
  | .terminal _ => palette.paint palette.green (op.describe?.getD "")
  | .charClass _ => palette.paint palette.green (op.describe?.getD "")
  | .anyChar => palette.paint palette.green (op.describe?.getD "")

/-- The digits of the greatest place in a table of `count` entries, and one for an empty table. -/
def placeWidth (count : Nat) : Nat :=
  (toString (count - 1)).length

/-- `text` with spaces after it, up to `width` characters. -/
def padRight (width : Nat) (text : String) : String :=
  text ++ String.ofList (List.replicate (width - text.length) ' ')

def dumpLines (program : Program) (palette : Palette) : List String :=
  let root := match program.root? with
    | some rule => program.ruleName rule
    | none => "-"
  let comments :=
    if program.comments.isEmpty then []
    else "" :: "[comments]" :: program.comments.map (palette.paint palette.dim)
  let symbols :=
    if program.symbols.entries.isEmpty then []
    else "" :: "[symbols]" :: program.symbols.entries.map fun entry ↦
      symbolNumber entry.1 ++ " " ++ Text.Quoted.quote entry.2
  let rules := program.rules.toList.zipIdx.map fun (rule, i) ↦
    ruleNumber ⟨i⟩ ++ " " ++ palette.paint palette.blue rule.name ++ " = " ++ opName rule.body
  let ops := program.ops.toList.zipIdx.map fun (op, i) ↦
    padRight (placeWidth program.ops.size + 1) (opName ⟨i⟩) ++ "  " ++ program.dumpOp palette op
  ["[grammar]", "name = " ++ palette.paint palette.blue program.name, "root = " ++ root] ++
    comments ++ symbols ++ ["", "[rules]"] ++ rules ++ ["", "[code]"] ++ ops

/-- The dump of `program`, each line ended by a newline. -/
def dump (program : Program) (palette : Palette) : String :=
  String.join (program.dumpLines palette |>.map (· ++ "\n"))

end PegKit.Program
