import PegKit.Cst.View
import PegKit.Diagnostic

/-!
# Declared rules

Finds the rules a grammar declares and checks that every reference names one. Of two rules with one
name the first counts, and the second is reported.
-/

namespace PegKit

/-- The first declaration of every rule, in order. -/
abbrev RuleTable := List (String × Cst)

namespace RuleTable

def declares (table : RuleTable) (name : String) : Bool :=
  (table.lookup name).isSome

/-- Where a rule is named; the whole rule when it has no name. -/
def nameSpan (rule : Cst) : Text.Span :=
  (rule.name?.map Token.span).getD rule.span

/-- Enters a rule into the table, or reports that its name is taken. A rule without a name is left
out. -/
def declare (found : RuleTable × Diagnostics) (rule : Cst) : RuleTable × Diagnostics :=
  match rule.name? with
  | none => found
  | some name =>
    match found.1.lookup name.text with
    | some first =>
      let report := (Diagnostic.detailed .duplicateRule name.span name.text).relatedTo
        "first defined here" (nameSpan first)
      (found.1, found.2 ++ [report])
    | none => (found.1 ++ [(name.text, rule)], found.2)

/-- The report on a reference to a rule that the table lacks. -/
def undefined? (table : RuleTable) (reference : Cst) : Option Diagnostic :=
  match reference.name? with
  | none => none
  | some name =>
    if table.declares name.text then none
    else some (.detailed .undefinedRule name.span name.text)

/-- The declared rules of a text, with reports on repeated declarations and then on undefined
references. -/
def ofRoot (root : Cst) : RuleTable × Diagnostics :=
  match root.grammar? with
  | none => ([], [])
  | some grammar =>
    let (table, repeated) := grammar.rules.foldl declare ([], [])
    let references := root.nodes.filter (·.kind == .refNode)
    (table, repeated ++ references.filterMap table.undefined?)

end RuleTable

end PegKit
