import PegKit.Grammar
import PegKit.Machine

/-!
# The meaning of parsing expressions

The big-step semantics of a grammar, told by its expressions alone. From the trees already matched
by the innermost sequence of the same rule and a place in the input, an expression yields a tree and
the place after it, or it fails. Rules, labels and predicates go by their names.

An expression may also yield nothing at all: rules may recurse without end, and a predicate may be
unbound or end in an error.
-/

namespace PegKit.Peg

/-- A tree whose rules and labels are names. -/
inductive Tree
  | node (kind : NodeKind) (span : Text.Span) (rule label : Option String) (elements : List Tree)

namespace Tree

/-- A tree from `start` to `stop`, without rule and label. -/
def spanning (kind : NodeKind) (start stop : Cursor) (elements : List Tree) : Tree :=
  .node kind ⟨start.offset, stop.offset⟩ none none elements

/-- The tree as matched for the rule `name`, over any rule it was matched for before. -/
def withRule (name : String) : Tree → Tree
  | .node kind span _ label elements => .node kind span (some name) label elements

/-- The tree under the label `name`, over any label it had before. -/
def withLabel (name : String) : Tree → Tree
  | .node kind span rule _ elements => .node kind span rule (some name) elements

end Tree

/-- What decides a predicate: a function of the input, the place and the trees matched so far. It
may end the parse with a message. -/
abbrev Hook := List Char → Nat → List Tree → Except String Bool

/-- A tree and the place after it, or no match. -/
abbrev Yield := Option (Tree × Cursor)

/-- The empty match at `cursor`. -/
def emptyYield (cursor : Cursor) : Yield :=
  some (.spanning .empty cursor cursor [], cursor)

/-- What a repetition from `start` yields when it stops at `cursor` with the matches `found`. -/
def repetitionYield (least : Nat) (start : Cursor) (found : List Tree) (cursor : Cursor) : Yield :=
  if found.length < least then none
  else some (.spanning .repetition start cursor found, cursor)

/-- What is matched at a place. -/
inductive Task
  | expr (expr : Expr)
  /-- The items of a sequence from `start` on that are left; the others are the trees so far. -/
  | items (exprs : List Expr) (start : Cursor)
  /-- The alternatives of a choice that are left. -/
  | alternatives (exprs : List Expr)
  /-- A repetition from `start` on after the matches `found`. -/
  | iterations (inner : Expr) (least : Nat) (start : Cursor) (found : List Tree)

/-- What a task yields, given the trees matched so far and the place. -/
inductive Derives (grammar : Grammar) (hooks : String → Option Hook) (input : List Char) :
    Task → List Tree → Cursor → Yield → Prop
  | terminalHit {text : String} {siblings : List Tree} {cursor : Cursor} {rest : List Char}
      (lead : cursor.rest = text.toList ++ rest) :
      Derives grammar hooks input (.expr (.terminal text)) siblings cursor
        (some (.spanning .terminal cursor (cursor.after text.toList rest) [],
          cursor.after text.toList rest))
  | terminalMiss {text : String} {siblings : List Tree} {cursor : Cursor}
      (lead : ∀ rest, cursor.rest ≠ text.toList ++ rest) :
      Derives grammar hooks input (.expr (.terminal text)) siblings cursor none
  | classHit {cls : CharClass} {siblings : List Tree} {cursor : Cursor} {c : Char}
      {rest : List Char} (lead : cursor.rest = c :: rest) (accepted : cls.contains c = true) :
      Derives grammar hooks input (.expr (.charClass cls)) siblings cursor
        (some (.spanning .terminal cursor (cursor.after [c] rest) [], cursor.after [c] rest))
  | classMiss {cls : CharClass} {siblings : List Tree} {cursor : Cursor}
      (lead : ∀ c rest, cursor.rest = c :: rest → cls.contains c = false) :
      Derives grammar hooks input (.expr (.charClass cls)) siblings cursor none
  | anyHit {siblings : List Tree} {cursor : Cursor} {c : Char} {rest : List Char}
      (lead : cursor.rest = c :: rest) :
      Derives grammar hooks input (.expr .anyChar) siblings cursor
        (some (.spanning .terminal cursor (cursor.after [c] rest) [], cursor.after [c] rest))
  | anyMiss {siblings : List Tree} {cursor : Cursor} (lead : cursor.rest = []) :
      Derives grammar hooks input (.expr .anyChar) siblings cursor none
  | sequence {exprs : List Expr} {siblings : List Tree} {cursor : Cursor} {yield : Yield}
      (parts : Derives grammar hooks input (.items exprs cursor) [] cursor yield) :
      Derives grammar hooks input (.expr (.sequence exprs)) siblings cursor yield
  | itemsDone {start : Cursor} {elements : List Tree} {cursor : Cursor} :
      Derives grammar hooks input (.items [] start) elements cursor
        (some (.spanning .sequence start cursor elements, cursor))
  | itemsFail {item : Expr} {rest : List Expr} {start : Cursor} {elements : List Tree}
      {cursor : Cursor} (first : Derives grammar hooks input (.expr item) elements cursor none) :
      Derives grammar hooks input (.items (item :: rest) start) elements cursor none
  | itemsNext {item : Expr} {rest : List Expr} {start : Cursor} {elements : List Tree}
      {cursor next : Cursor} {tree : Tree} {yield : Yield}
      (first : Derives grammar hooks input (.expr item) elements cursor (some (tree, next)))
      (others : Derives grammar hooks input (.items rest start) (elements ++ [tree]) next yield) :
      Derives grammar hooks input (.items (item :: rest) start) elements cursor yield
  | choice {exprs : List Expr} {siblings : List Tree} {cursor : Cursor} {yield : Yield}
      (parts : Derives grammar hooks input (.alternatives exprs) siblings cursor yield) :
      Derives grammar hooks input (.expr (.choice exprs)) siblings cursor yield
  | alternativesNone {siblings : List Tree} {cursor : Cursor} :
      Derives grammar hooks input (.alternatives []) siblings cursor none
  | alternativesHit {alternative : Expr} {rest : List Expr} {siblings : List Tree}
      {cursor next : Cursor} {tree : Tree}
      (first : Derives grammar hooks input (.expr alternative) siblings cursor
        (some (tree, next))) :
      Derives grammar hooks input (.alternatives (alternative :: rest)) siblings cursor
        (some (tree, next))
  | alternativesNext {alternative : Expr} {rest : List Expr} {siblings : List Tree}
      {cursor : Cursor} {yield : Yield}
      (first : Derives grammar hooks input (.expr alternative) siblings cursor none)
      (others : Derives grammar hooks input (.alternatives rest) siblings cursor yield) :
      Derives grammar hooks input (.alternatives (alternative :: rest)) siblings cursor yield
  | repetition {inner : Expr} {least : Nat} {siblings : List Tree} {cursor : Cursor}
      {yield : Yield}
      (parts : Derives grammar hooks input (.iterations inner least cursor []) siblings cursor
        yield) :
      Derives grammar hooks input (.expr (.repetition inner least)) siblings cursor yield
  | iterationsStop {inner : Expr} {least : Nat} {start : Cursor} {found siblings : List Tree}
      {cursor : Cursor} (last : Derives grammar hooks input (.expr inner) siblings cursor none) :
      Derives grammar hooks input (.iterations inner least start found) siblings cursor
        (repetitionYield least start found cursor)
  /-- A match that consumes nothing is kept and is the last. -/
  | iterationsStay {inner : Expr} {least : Nat} {start : Cursor} {found siblings : List Tree}
      {cursor next : Cursor} {tree : Tree}
      (last : Derives grammar hooks input (.expr inner) siblings cursor (some (tree, next)))
      (stays : ¬ cursor.offset < next.offset) :
      Derives grammar hooks input (.iterations inner least start found) siblings cursor
        (repetitionYield least start (found ++ [tree]) next)
  | iterationsNext {inner : Expr} {least : Nat} {start : Cursor} {found siblings : List Tree}
      {cursor next : Cursor} {tree : Tree} {yield : Yield}
      (first : Derives grammar hooks input (.expr inner) siblings cursor (some (tree, next)))
      (moves : cursor.offset < next.offset)
      (others : Derives grammar hooks input (.iterations inner least start (found ++ [tree]))
        siblings next yield) :
      Derives grammar hooks input (.iterations inner least start found) siblings cursor yield
  | optionalHit {inner : Expr} {siblings : List Tree} {cursor next : Cursor} {tree : Tree}
      (part : Derives grammar hooks input (.expr inner) siblings cursor (some (tree, next))) :
      Derives grammar hooks input (.expr (.optional inner)) siblings cursor (some (tree, next))
  | optionalMiss {inner : Expr} {siblings : List Tree} {cursor : Cursor}
      (part : Derives grammar hooks input (.expr inner) siblings cursor none) :
      Derives grammar hooks input (.expr (.optional inner)) siblings cursor (emptyYield cursor)
  | lookaheadHit {inner : Expr} {siblings : List Tree} {cursor next : Cursor} {tree : Tree}
      (part : Derives grammar hooks input (.expr inner) siblings cursor (some (tree, next))) :
      Derives grammar hooks input (.expr (.lookahead inner)) siblings cursor (emptyYield cursor)
  | lookaheadMiss {inner : Expr} {siblings : List Tree} {cursor : Cursor}
      (part : Derives grammar hooks input (.expr inner) siblings cursor none) :
      Derives grammar hooks input (.expr (.lookahead inner)) siblings cursor none
  | negativeLookaheadHit {inner : Expr} {siblings : List Tree} {cursor next : Cursor}
      {tree : Tree}
      (part : Derives grammar hooks input (.expr inner) siblings cursor (some (tree, next))) :
      Derives grammar hooks input (.expr (.negativeLookahead inner)) siblings cursor none
  | negativeLookaheadMiss {inner : Expr} {siblings : List Tree} {cursor : Cursor}
      (part : Derives grammar hooks input (.expr inner) siblings cursor none) :
      Derives grammar hooks input (.expr (.negativeLookahead inner)) siblings cursor
        (emptyYield cursor)
  | predicate {name : String} {negated holds : Bool} {siblings : List Tree} {cursor : Cursor}
      {hook : Hook} (bound : hooks name = some hook)
      (decided : hook input cursor.offset siblings = .ok holds) :
      Derives grammar hooks input (.expr (.predicate name negated)) siblings cursor
        (if holds != negated then emptyYield cursor else none)
  | label {name : String} {inner : Expr} {siblings : List Tree} {cursor : Cursor} {yield : Yield}
      (part : Derives grammar hooks input (.expr inner) siblings cursor yield) :
      Derives grammar hooks input (.expr (.label name inner)) siblings cursor
        (yield.map fun found ↦ (found.1.withLabel name, found.2))
  /-- The body of a rule sees no trees of its caller. -/
  | ruleRef {name : String} {rule : Rule} {siblings : List Tree} {cursor : Cursor} {yield : Yield}
      (found : grammar.rule? name = some rule)
      (body : Derives grammar hooks input (.expr rule.body) [] cursor yield) :
      Derives grammar hooks input (.expr (.ruleRef name)) siblings cursor
        (yield.map fun found ↦ (found.1.withRule name, found.2))

/-- A task yields one thing at most. -/
theorem Derives.unique {grammar : Grammar} {hooks : String → Option Hook} {input : List Char}
    {task : Task} {siblings : List Tree} {cursor : Cursor} {yield yield' : Yield}
    (h : Derives grammar hooks input task siblings cursor yield)
    (h' : Derives grammar hooks input task siblings cursor yield') : yield = yield' := by
  induction h generalizing yield' with
  | terminalHit lead =>
    cases h' with
    | terminalHit lead' =>
      rw [lead, List.append_cancel_left_eq] at lead'
      rw [lead']
    | terminalMiss lead' => exact absurd lead (lead' _)
  | terminalMiss lead =>
    cases h' with
    | terminalHit lead' => exact absurd lead' (lead _)
    | terminalMiss => rfl
  | classHit lead accepted =>
    cases h' with
    | classHit lead' =>
      rw [lead, List.cons.injEq] at lead'
      rw [lead'.1, lead'.2]
    | classMiss lead' =>
      rw [lead' _ _ lead] at accepted
      cases accepted
  | classMiss lead =>
    cases h' with
    | classHit lead' accepted =>
      rw [lead _ _ lead'] at accepted
      cases accepted
    | classMiss => rfl
  | anyHit lead =>
    cases h' with
    | anyHit lead' =>
      rw [lead, List.cons.injEq] at lead'
      rw [lead'.1, lead'.2]
    | anyMiss lead' =>
      rw [lead] at lead'
      cases lead'
  | anyMiss lead =>
    cases h' with
    | anyHit lead' =>
      rw [lead] at lead'
      cases lead'
    | anyMiss => rfl
  | sequence parts ih =>
    cases h' with
    | sequence parts' => exact ih parts'
  | itemsDone =>
    cases h' with
    | itemsDone => rfl
  | itemsFail first ih =>
    cases h' with
    | itemsFail => rfl
    | itemsNext first' => cases ih first'
  | itemsNext first others ihfirst ihothers =>
    cases h' with
    | itemsFail first' => cases ihfirst first'
    | itemsNext first' others' =>
      cases ihfirst first'
      exact ihothers others'
  | choice parts ih =>
    cases h' with
    | choice parts' => exact ih parts'
  | alternativesNone =>
    cases h' with
    | alternativesNone => rfl
  | alternativesHit first ih =>
    cases h' with
    | alternativesHit first' => exact ih first'
    | alternativesNext first' => cases ih first'
  | alternativesNext first others ihfirst ihothers =>
    cases h' with
    | alternativesHit first' => cases ihfirst first'
    | alternativesNext _ others' => exact ihothers others'
  | repetition parts ih =>
    cases h' with
    | repetition parts' => exact ih parts'
  | iterationsStop last ih =>
    cases h' with
    | iterationsStop => rfl
    | iterationsStay last' => cases ih last'
    | iterationsNext first' => cases ih first'
  | iterationsStay last stays ih =>
    cases h' with
    | iterationsStop last' => cases ih last'
    | iterationsStay last' =>
      cases ih last'
      rfl
    | iterationsNext first' moves' =>
      cases ih first'
      exact absurd moves' stays
  | iterationsNext first moves others ihfirst ihothers =>
    cases h' with
    | iterationsStop last' => cases ihfirst last'
    | iterationsStay last' stays' =>
      cases ihfirst last'
      exact absurd moves stays'
    | iterationsNext first' _ others' =>
      cases ihfirst first'
      exact ihothers others'
  | optionalHit part ih =>
    cases h' with
    | optionalHit part' => exact ih part'
    | optionalMiss part' => cases ih part'
  | optionalMiss part ih =>
    cases h' with
    | optionalHit part' => cases ih part'
    | optionalMiss => rfl
  | lookaheadHit part ih =>
    cases h' with
    | lookaheadHit => rfl
    | lookaheadMiss part' => cases ih part'
  | lookaheadMiss part ih =>
    cases h' with
    | lookaheadHit part' => cases ih part'
    | lookaheadMiss => rfl
  | negativeLookaheadHit part ih =>
    cases h' with
    | negativeLookaheadHit => rfl
    | negativeLookaheadMiss part' => cases ih part'
  | negativeLookaheadMiss part ih =>
    cases h' with
    | negativeLookaheadHit part' => cases ih part'
    | negativeLookaheadMiss => rfl
  | predicate bound decided =>
    cases h' with
    | predicate bound' decided' =>
      rw [bound, Option.some.injEq] at bound'
      rw [← bound', decided, Except.ok.injEq] at decided'
      rw [decided']
  | label part ih =>
    cases h' with
    | label part' => rw [ih part']
  | ruleRef found body ih =>
    cases h' with
    | ruleRef found' body' =>
      rw [found, Option.some.injEq] at found'
      rw [ih (found' ▸ body')]

end PegKit.Peg
