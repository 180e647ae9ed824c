import PegKit.Grammar

/-!
# Left recursion

A rule is left-recursive when it can reach itself through calls made before any input is consumed.
Which calls those are depends on the rules that may succeed without consuming: they form the least
set closed under the rule bodies, reached by sweeping over the rules as often as there are rules.
-/

namespace PegKit

mutual

/-- Whether `expr` may succeed without consuming input, when the rules of `nullable` may. -/
def Expr.isNullable (nullable : List String) : Expr → Bool
  | .terminal text => text.isEmpty
  | .charClass _ => false
  | .anyChar => false
  | .sequence items => Expr.allNullable nullable items
  | .choice alternatives => Expr.anyNullable nullable alternatives
  | .repetition inner least => least == 0 || inner.isNullable nullable
  | .optional _ => true
  | .lookahead _ => true
  | .negativeLookahead _ => true
  | .predicate _ _ => true
  | .label _ inner => inner.isNullable nullable
  | .ruleRef name => nullable.contains name

def Expr.allNullable (nullable : List String) : List Expr → Bool
  | [] => true
  | expr :: rest => expr.isNullable nullable && Expr.allNullable nullable rest

def Expr.anyNullable (nullable : List String) : List Expr → Bool
  | [] => false
  | expr :: rest => expr.isNullable nullable || Expr.anyNullable nullable rest

end

mutual

/-- The rules that `expr` may call at the place where it starts. -/
def Expr.leftmostCalls (nullable : List String) : Expr → List String
  | .terminal _ => []
  | .charClass _ => []
  | .anyChar => []
  | .predicate _ _ => []
  | .sequence items => Expr.leftmostOfSequence nullable items
  | .choice alternatives => Expr.leftmostOfChoice nullable alternatives
  | .repetition inner _ => inner.leftmostCalls nullable
  | .optional inner => inner.leftmostCalls nullable
  | .lookahead inner => inner.leftmostCalls nullable
  | .negativeLookahead inner => inner.leftmostCalls nullable
  | .label _ inner => inner.leftmostCalls nullable
  | .ruleRef name => [name]

/-- Calls of the items up to and including the first that has to consume. -/
def Expr.leftmostOfSequence (nullable : List String) : List Expr → List String
  | [] => []
  | expr :: rest =>
    expr.leftmostCalls nullable ++
      if expr.isNullable nullable then Expr.leftmostOfSequence nullable rest else []

def Expr.leftmostOfChoice (nullable : List String) : List Expr → List String
  | [] => []
  | expr :: rest => expr.leftmostCalls nullable ++ Expr.leftmostOfChoice nullable rest

end

namespace Grammar

/-- Adds the rules, in order, whose bodies are nullable over the set so far. -/
def sweep (rules : List Rule) (nullable : List String) : List String :=
  rules.foldl
    (fun found rule ↦
      if !found.contains rule.name && rule.body.isNullable found then found ++ [rule.name]
      else found)
    nullable

/-- The rules that may succeed without consuming input, in the order they were found. -/
def nullableRules (grammar : Grammar) : List String :=
  Nat.repeat (sweep grammar.rules) grammar.rules.length []

/-- Leftmost calls of every rule, found once. -/
def callGraph (grammar : Grammar) : List (String × List String) :=
  let nullable := grammar.nullableRules
  grammar.rules.map fun rule ↦ (rule.name, rule.body.leftmostCalls nullable)

/-- Adds to `reached` those of `names` that it lacks. -/
def adjoin (reached names : List String) : List String :=
  reached ++ names.filter (!reached.contains ·)

/-- `names` and their direct successors. -/
def spread (graph : List (String × List String)) (names : List String) : List String :=
  names.foldl (fun reached name ↦ adjoin reached ((graph.lookup name).getD [])) names

/-- Whether a path of at least one edge leads from `name` back to it. -/
def isOnCycle (graph : List (String × List String)) (name : String) : Bool :=
  (Nat.repeat (spread graph) graph.length ((graph.lookup name).getD [])).contains name

/-- The left-recursive rules, in the order of declaration. -/
def leftRecursiveRules (grammar : Grammar) : List String :=
  let graph := grammar.callGraph
  grammar.ruleNames.filter (isOnCycle graph)

end Grammar

end PegKit
