import PegKit.Expr
import PegKit.Text.NestedName

/-!
# Grammars

A grammar is a name, rules in the order of their declaration, no two of one name, and the comment
lines that generated code carries at its top.
-/

namespace PegKit

structure Rule where
  name : String
  body : Expr
  deriving Repr, Inhabited

structure Grammar where
  /-- May be nested, as in `Outer::Inner`. -/
  name : String
  rules : List Rule
  comments : List String
  deriving Repr, Inhabited

namespace Grammar

def empty (name : String) : Grammar := ⟨name, [], []⟩

/-- Adds `rule` at the end. A rule of the same name keeps its place and gets the new body. -/
def addRule (grammar : Grammar) (rule : Rule) : Grammar :=
  { grammar with
    rules :=
      if grammar.rules.any (·.name == rule.name) then
        grammar.rules.map fun old ↦ if old.name == rule.name then rule else old
      else grammar.rules ++ [rule] }

def rule? (grammar : Grammar) (name : String) : Option Rule :=
  grammar.rules.find? (·.name == name)

/-- The first declared rule. -/
def root? (grammar : Grammar) : Option Rule :=
  grammar.rules.head?

/-- The nonempty segments of the grammar's name. -/
def segments (grammar : Grammar) : List String :=
  (Text.nameSegments grammar.name).filter (· != "")

def ruleNames (grammar : Grammar) : List String :=
  grammar.rules.map (·.name)

end Grammar

end PegKit
