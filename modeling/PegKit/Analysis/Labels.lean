import PegKit.Cst.View
import PegKit.Diagnostic

/-!
# Labels

A label may name at most one of the items of a sequence. Labels inside an item belong to that item.
-/

namespace PegKit.Labels

open Text (Span)

/-- Enters the label of an item, or reports that the sequence has used it. -/
def enter (found : List (String × Span) × Diagnostics) (item : Cst) :
    List (String × Span) × Diagnostics :=
  if item.kind ≠ .labelNode then found
  else
    match item.name? with
    | none => found
    | some name =>
      match found.1.lookup name.text with
      | some first =>
        let report := (Diagnostic.detailed .duplicateLabel name.span name.text).relatedTo
          "first used here" first
        (found.1, found.2 ++ [report])
      | none => (found.1 ++ [(name.text, name.span)], found.2)

/-- The reports on the items of one sequence. -/
def checkSequence (sequence : Cst) : Diagnostics :=
  (sequence.expressions.foldl enter ([], [])).2

/-- The reports on all sequences of a text. -/
def check (root : Cst) : Diagnostics :=
  (root.nodes.filter (·.kind == .seqNode)).flatMap checkSequence

end PegKit.Labels
