import PegKit.CharClass
import PegKit.Terminal

/-!
# Parsing expressions

A rule body is a tree of parsing expressions. References to rules are plain names that are resolved
only when a program is built, so a rule may refer to one declared later.
-/

namespace PegKit

inductive Expr
  /-- Literal text. -/
  | terminal (text : String)
  | charClass (cls : CharClass)
  | anyChar
  | sequence (items : List Expr)
  /-- The first alternative that succeeds wins. -/
  | choice (alternatives : List Expr)
  /-- Greedy, at least `least` times, without upper bound. -/
  | repetition (inner : Expr) (least : Nat)
  | optional (inner : Expr)
  | lookahead (inner : Expr)
  | negativeLookahead (inner : Expr)
  /-- A condition that the host decides, named by the text between its braces. -/
  | predicate (hook : String) (negated : Bool)
  | label (name : String) (inner : Expr)
  | ruleRef (name : String)
  deriving Repr, Inhabited

namespace Expr

def zeroOrMore (inner : Expr) : Expr := .repetition inner 0

def oneOrMore (inner : Expr) : Expr := .repetition inner 1

/-- What a failure at this expression is reported to have expected. Only expressions that read a
character or a text of their own fail by themselves. -/
def describe? : Expr → Option String
  | .terminal text => some (Terminal.quote text)
  | .charClass cls => some cls.describe
  | .anyChar => some "any character"
  | _ => none

mutual

/-- The rule names that `expr` refers to, in the order of writing. -/
def refs : Expr → List String
  | .ruleRef name => [name]
  | .sequence items => refsOfList items
  | .choice alternatives => refsOfList alternatives
  | .repetition inner _ => inner.refs
  | .optional inner => inner.refs
  | .lookahead inner => inner.refs
  | .negativeLookahead inner => inner.refs
  | .label _ inner => inner.refs
  | .terminal _ => []
  | .charClass _ => []
  | .anyChar => []
  | .predicate _ _ => []

def refsOfList : List Expr → List String
  | [] => []
  | expr :: rest => expr.refs ++ refsOfList rest

end

end Expr

end PegKit
