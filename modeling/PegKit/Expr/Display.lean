import PegKit.Expr

/-!
# Expressions in grammar form

Writes an expression the way a grammar does. Operators bind in five strengths: choice, sequence,
lookahead and label, repetition, and operands; an expression stands in parentheses where it binds
less than its place asks for.
-/

namespace PegKit.Expr

mutual

/-- How strongly the outermost operator binds. A sequence or choice of one is as strong as its only
member. -/
def strength : Expr → Nat
  | .choice alternatives => strengthOfList 0 alternatives
  | .sequence items => strengthOfList 1 items
  | .lookahead _ => 2
  | .negativeLookahead _ => 2
  | .label _ _ => 2
  | .repetition _ _ => 3
  | .optional _ => 3
  | _ => 4

def strengthOfList (several : Nat) : List Expr → Nat
  | [] => 4
  | [only] => only.strength
  | _ :: _ :: _ => several

end

/-- `text` in parentheses when `strength` is less than `needed`. -/
def enclose (needed strength : Nat) (text : List Char) : List Char :=
  if strength < needed then '(' :: text ++ [')'] else text

/-- The mark after a repeated operand. -/
def repetitionMark (least : Nat) : List Char :=
  match least with
  | 0 => ['*']
  | 1 => ['+']
  | _ => '{' :: (toString least).toList ++ [',', '}']

mutual

/-- The characters of `expr` in grammar form. -/
def displayChars : Expr → List Char
  | .terminal text => Terminal.quoteChars text.toList
  | .charClass cls => cls.describe.toList
  | .anyChar => ['.']
  | .sequence items => if items.isEmpty then ['\'', '\''] else displayJoined [' '] 2 items
  | .choice alternatives =>
    if alternatives.isEmpty then ['\'', '\'']
    else displayJoined [' ', '/', ' '] 1 alternatives
  | .repetition inner least =>
    enclose 4 inner.strength inner.displayChars ++ repetitionMark least
  | .optional inner => enclose 4 inner.strength inner.displayChars ++ ['?']
  | .lookahead inner => '&' :: enclose 2 inner.strength inner.displayChars
  | .negativeLookahead inner => '!' :: enclose 2 inner.strength inner.displayChars
  | .predicate hook negated =>
    (if negated then '!' else '&') :: '{' :: ' ' :: hook.toList ++ [' ', '}']
  | .label name inner => name.toList ++ ':' :: enclose 2 inner.strength inner.displayChars
  | .ruleRef name => name.toList

/-- Members of strength `needed` at least, with `separator` between them. -/
def displayJoined (separator : List Char) (needed : Nat) : List Expr → List Char
  | [] => []
  | [only] => enclose needed only.strength only.displayChars
  | expr :: next :: rest =>
    enclose needed expr.strength expr.displayChars ++ separator ++
      displayJoined separator needed (next :: rest)

end

/-- `expr` in grammar form. -/
def display (expr : Expr) : String :=
  String.ofList expr.displayChars

end PegKit.Expr
