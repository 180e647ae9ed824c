import PegKit.Machine
import PegKit.Palette
import PegKit.Text.Quoted

/-!
# Traces

A trace tells a run line by line. A line has the byte offset, padded to the width of the longest
offset, a symbol for what happened, and what it happened to, indented by the number of rules that
are open.
-/

namespace PegKit

/-- How much a trace tells. -/
inductive Verbosity
  /-- Rules entered and left, and alternatives given up. -/
  | rules
  /-- Also literals, classes and predicates. -/
  | terminals
  /-- Also the text that they and the rules matched. -/
  | texts
  deriving DecidableEq, Repr

/-- What the lines of a trace depend on. -/
structure TraceStyle where
  input : List Char
  program : Program
  verbosity : Verbosity
  palette : Palette

structure Trace where
  lines : Array String
  /-- The number of open rules. -/
  depth : Nat
  deriving DecidableEq, Repr, Inhabited

namespace Trace

def empty : Trace := ⟨#[], 0⟩

/-- `n` in decimal, with zeros before it up to `width` digits. -/
def padded (width n : Nat) : String :=
  let digits := toString n
  String.ofList (List.replicate (width - digits.length) '0') ++ digits

/-- The longest text shown in full. -/
def textBudget : Nat := 32

/-- `cs`, cut to the budget with an ellipsis in the last place. -/
def cut (cs : List Char) : List Char :=
  if cs.length ≤ textBudget then cs else cs.take (textBudget - 1) ++ ['…']

/-- Adds a line. -/
def write (style : TraceStyle) (trace : Trace) (offset : Nat) (symbol content : String) : Trace :=
  let width := (toString (Text.byteLength style.input)).length
  let place := style.palette.paint style.palette.dim (padded width offset)
  let line := "  " ++ place ++ " " ++ symbol ++ " " ++
    String.ofList (List.replicate (2 * trace.depth) ' ') ++ content
  { trace with
    lines := trace.lines.push (String.ofList (Unicode.trimBlanksRight line.toList)) }

def ruleText (style : TraceStyle) (rule : RuleId) : String :=
  "(" ++ style.palette.paint style.palette.blue (style.program.ruleName rule) ++ ")"

/-- `content`, followed by the text from `start` to `stop` where texts are told. -/
def withText (style : TraceStyle) (content : String) (start stop : Nat) : String :=
  if style.verbosity = .texts then
    let text := String.ofList (cut (Text.slice style.input start stop))
    content ++ " " ++ style.palette.paint style.palette.green (Text.Quoted.quote text)
  else content

/-- What the operation at `id` is called in a trace. -/
def opText (style : TraceStyle) (id : OpId) : String :=
  match style.program.ops[id.index]? with
  | some (.predicate hook negated) =>
    (if negated then "!" else "&") ++ r"{ " ++ style.program.symbolText hook ++ r" }"
  | some op => op.describe?.getD s!"E{id.index}"
  | none => s!"E{id.index}"

/-- What `event` adds to a trace. -/
def record (style : TraceStyle) (trace : Trace) : Machine.Event → Trace
  | .call rule start =>
    let written := trace.write style start "▶" (ruleText style rule)
    { written with depth := trace.depth + 1 }
  | .leave rule start stop =>
    let left := { trace with depth := trace.depth - 1 }
    match stop with
    | some stop =>
      let range := style.palette.paint style.palette.dim s!"{start}..{stop}"
      left.write style stop "◀" (withText style (ruleText style rule ++ " " ++ range) start stop)
    | none => left.write style start "○" (ruleText style rule)
  | .hit op start stop =>
    if style.verbosity = .rules then trace
    else trace.write style start "●" (withText style (opText style op) start stop)
  | .miss op start =>
    if style.verbosity = .rules then trace else trace.write style start "○" (opText style op)
  | .decided op start passed =>
    if style.verbosity = .rules then trace
    else trace.write style start (if passed then "●" else "○") (opText style op)
  | .backtrack start => trace.write style start "❮❮❮" ""
  | .ask _ _ => trace

/-- The lines of a trace, joined by newlines. -/
def text (trace : Trace) : String :=
  "\n".intercalate trace.lines.toList

end Trace

end PegKit
