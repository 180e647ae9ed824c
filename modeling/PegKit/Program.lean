import PegKit.Expr
import PegKit.Interner

/-!
# Programs

A program is a grammar made ready to run: a flat table of operations that refer to each other, to
rules and to names by number. It is immutable, so any number of parsers can share one.
-/

namespace PegKit

/-- A place in the table of operations. -/
structure OpId where
  index : Nat
  deriving DecidableEq, Repr, Inhabited

/-- A place in the table of rules. -/
structure RuleId where
  index : Nat
  deriving DecidableEq, Repr, Inhabited

/-- One operation: a parsing expression with its parts, rules and names given by number. -/
inductive Op
  | terminal (text : String)
  | charClass (cls : CharClass)
  | anyChar
  | sequence (items : List OpId)
  | choice (alternatives : List OpId)
  | repetition (inner : OpId) (least : Nat)
  | optional (inner : OpId)
  | lookahead (inner : OpId)
  | negativeLookahead (inner : OpId)
  | predicate (hook : Symbol) (negated : Bool)
  | label (name : Symbol) (inner : OpId)
  | call (rule : RuleId)
  deriving DecidableEq, Repr

namespace Op

/-- What a failure at this operation is reported to have expected. -/
def describe? : Op → Option String
  | .terminal text => some (Terminal.quote text)
  | .charClass cls => some cls.describe
  | .anyChar => some "any character"
  | _ => none

/-- The operations that this one refers to. -/
def children : Op → List OpId
  | .sequence items => items
  | .choice alternatives => alternatives
  | .repetition inner _ => [inner]
  | .optional inner => [inner]
  | .lookahead inner => [inner]
  | .negativeLookahead inner => [inner]
  | .label _ inner => [inner]
  | .terminal _ => []
  | .charClass _ => []
  | .anyChar => []
  | .predicate _ _ => []
  | .call _ => []

end Op

structure RuleEntry where
  name : String
  body : OpId
  deriving DecidableEq, Repr

structure Program where
  name : String
  comments : List String
  ops : Array Op
  rules : Array RuleEntry
  symbols : Interner
  deriving DecidableEq, Repr

namespace Program

def ruleNamed? (program : Program) (name : String) : Option RuleId :=
  (program.rules.findIdx? (·.name == name)).map RuleId.mk

/-- The first declared rule, if there is one. -/
def root? (program : Program) : Option RuleId :=
  if program.rules.isEmpty then none else some ⟨0⟩

/-- The name of `rule`; empty for a number out of range. -/
def ruleName (program : Program) (rule : RuleId) : String :=
  (program.rules[rule.index]?.map (·.name)).getD ""

/-- The text of a label or hook. -/
def symbolText (program : Program) (symbol : Symbol) : String :=
  program.symbols.resolve symbol

/-- Adds the hook of a predicate to `hooks` unless it is there. -/
def collectHook (program : Program) (hooks : List String) : Op → List String
  | .predicate hook _ =>
    let text := program.symbolText hook
    if hooks.contains text then hooks else hooks ++ [text]
  | _ => hooks

/-- The hooks that the program can evaluate, in the order of first use. -/
def hooks (program : Program) : List String :=
  program.ops.toList.foldl program.collectHook []

end Program

end PegKit
