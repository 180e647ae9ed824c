import PegKit.Grammar
import PegKit.Program.Builder

/-!
# From grammars to programs

All rules are declared before the first body is added, so rule numbers follow the order of
declaration and every reference finds its rule.
-/

namespace PegKit

/-- Declares the rules of a grammar, in order. -/
def Builder.declareAll : List Rule → Builder.Step (List RuleId)
  | [] => return []
  | rule :: rest => return (← declare rule.name) :: (← declareAll rest)

/-- Adds the bodies of rules under their numbers. -/
def Builder.defineAll : List (Rule × RuleId) → Builder.Step Unit
  | [] => return ()
  | (rule, id) :: rest => do
    define id (← addExpr rule.body)
    defineAll rest

def Builder.addGrammar (grammar : Grammar) : Builder.Step Unit := do
  for line in grammar.comments do
    comment line
  let ids ← declareAll grammar.rules
  defineAll (grammar.rules.zip ids)

/-- The program of `grammar`. It fails only on a reference to a rule that is not declared. -/
def Grammar.toProgram (grammar : Grammar) : Except BuildError Program :=
  ((Builder.addGrammar grammar).run (Builder.new grammar.name)).2.finish

end PegKit
