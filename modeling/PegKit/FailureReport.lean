import PegKit.Program
import PegKit.Text.Json
import PegKit.Text.Position

/-!
# Failure reports

Why a parse failed is told by the failures furthest to the right: one further right displaces all
before it, and one further left is ignored. A report names what was expected there, each thing once
and in the order it was first missed.
-/

namespace PegKit

open Text (Json Position)

/-- What was expected where something failed. -/
inductive Expected
  | op (id : OpId)
  | endOfInput
  deriving DecidableEq, Repr

/-- The furthest failures so far. -/
structure FailureSet where
  index : Option Nat
  expected : List Expected
  deriving DecidableEq, Repr

namespace FailureSet

def empty : FailureSet := ⟨none, []⟩

/-- Adds what was missed at the furthest place, unless it is there. -/
def add (set : FailureSet) (expected : Expected) : FailureSet :=
  if set.expected.contains expected then set
  else { set with expected := set.expected ++ [expected] }

/-- Takes a failure at byte `index` into account. -/
def record (set : FailureSet) (index : Nat) (expected : Expected) : FailureSet :=
  match set.index with
  | none => ⟨some index, [expected]⟩
  | some furthest =>
    if index < furthest then set
    else if index = furthest then set.add expected
    else ⟨some index, [expected]⟩

end FailureSet

/-- How `expected` is described. -/
def Expected.describe (program : Program) : Expected → String
  | .endOfInput => "end of input"
  | .op id => ((program.ops[id.index]?).bind Op.describe?).getD s!"E{id.index}"

/-- One thing that was expected, and where. -/
structure TerminalFailure where
  index : Nat
  expected : String
  deriving DecidableEq, Repr

structure FailureReport where
  failures : List TerminalFailure
  position : Option Position
  deriving DecidableEq, Repr

namespace FailureReport

def empty : FailureReport := ⟨[], none⟩

def isEmpty (report : FailureReport) : Bool := report.failures.isEmpty

/-- The different texts among `texts`, in the order of first occurrence. -/
def distinct (texts : List String) : List String :=
  texts.foldl (fun kept text ↦ if kept.contains text then kept else kept ++ [text]) []

/-- The report on the failures of a run over `input`. -/
def ofFailures (program : Program) (input : List Char) (set : FailureSet) : FailureReport :=
  match set.index with
  | none => empty
  | some index =>
    ⟨(distinct (set.expected.map (Expected.describe program))).map (⟨index, ·⟩),
      some (Text.positionOf input index)⟩

/-- The byte index of the furthest failure. -/
def index? (report : FailureReport) : Option Nat := report.failures.head?.map (·.index)

def line? (report : FailureReport) : Option Nat := report.position.map (·.line)

def column? (report : FailureReport) : Option Nat := report.position.map (·.column)

/-- The failure in words. What was expected is sorted, and the byte is counted from one. -/
def reason? (report : FailureReport) : Option String := do
  let index ← report.index?
  let position ← report.position
  let what := match (report.failures.map (·.expected)).mergeSort fun a b ↦ decide (a ≤ b) with
    | [single] => single
    | several => "one of " ++ ", ".intercalate several
  return s!"Expected {what} at line {position.line}, column {position.column} (byte {index + 1})"

def json (report : FailureReport) : Json :=
  let number (n : Option Nat) : Json := (n.map Json.number).getD .null
  .object [
    ("reason", (report.reason?.map Json.string).getD .null),
    ("index", number report.index?),
    ("line", number report.line?),
    ("column", number report.column?),
    ("expected", .array (report.failures.map fun failure ↦
      .object [("index", .number failure.index), ("expected_string", .string failure.expected)]))]

end FailureReport

end PegKit
