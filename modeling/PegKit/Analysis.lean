import PegKit.Analysis.Labels
import PegKit.Analysis.Meaning
import PegKit.Grammar.LeftRecursion

/-!
# Analysis

What is said about a grammar text that reads without error: its declared rules, its meaning, and the
reports of every check in order. They are repeated rules, undefined references, repeated labels,
malformed escapes and classes, a grammar without rules, and left recursion.
-/

namespace PegKit

structure Analysis where
  table : RuleTable
  grammar : Grammar
  diagnostics : Diagnostics

namespace Analysis

/-- The warning about a grammar without rules. -/
def emptyGrammar (root : Cst) (grammar : Grammar) : Diagnostics :=
  if grammar.rules.isEmpty then
    match root.grammar?.bind (·.childToken? .keywordGrammar) with
    | some keyword => [.plain .emptyGrammar keyword.span]
    | none => []
  else []

/-- The warnings about left-recursive rules. -/
def leftRecursion (table : RuleTable) (grammar : Grammar) : Diagnostics :=
  grammar.leftRecursiveRules.filterMap fun name ↦
    (table.lookup name).map fun rule ↦
      .detailed .leftRecursion (RuleTable.nameSpan rule) name

def ofRoot (root : Cst) : Analysis :=
  let (table, names) := RuleTable.ofRoot root
  let labels := Labels.check root
  let (grammar, faults) := (Meaning.grammar root table).run []
  { table, grammar
    diagnostics :=
      names ++ labels ++ faults ++ emptyGrammar root grammar ++ leftRecursion table grammar }

end Analysis

end PegKit
