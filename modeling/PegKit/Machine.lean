import PegKit.FailureReport
import PegKit.Predicate

/-!
# The matching machine

Runs a program over an input by plain descent with backtracking. Every evaluation that fails leaves
the array of nodes as it found it, so nothing of a failed attempt gets into the tree of the one that
succeeds.

What a run leaves behind is kept apart from the stacks that surround the evaluation in progress.
`Machine.step` evaluates one operation with the evaluation of its parts given, and `Machine.eval`
closes the recursion over the levels of nesting that are left.
-/

namespace PegKit

/-- What ends a parse early. A failed match does not: it is an answer. -/
inductive RuntimeError
  | unknownRule (grammar rule : String)
  | noRules (grammar : String)
  /-- The start lies past the end of the input or inside a character. -/
  | invalidIndex (index length : Nat)
  /-- A predicate was reached that nothing is bound to. -/
  | unboundPredicate (hook : String)
  | predicate (hook message : String)
  | execFuelExhausted
  | recursionLimitExceeded
  /-- A number in the program refers past the end of its table. -/
  | danglingReference
  deriving DecidableEq, Repr

def RuntimeError.message : RuntimeError → String
  | .unknownRule grammar rule => s!"grammar `{grammar}` has no rule named `{rule}`"
  | .noRules grammar => s!"grammar `{grammar}` has no rules"
  | .invalidIndex index length =>
    s!"start index {index} is not a character boundary of input of length {length}"
  | .unboundPredicate hook => s!"no predicate bound for `{hook}`"
  | .predicate hook message => s!"predicate `{hook}` failed: {message}"
  | .execFuelExhausted => "runtime execution limit exceeded"
  | .recursionLimitExceeded => "runtime recursion limit exceeded"
  | .danglingReference => "program refers past the end of its tables"

/-- A place in the input, with the text from there on. -/
structure Cursor where
  offset : Nat
  rest : List Char
  deriving DecidableEq, Repr

namespace Cursor

/-- The place after a character or text that the rest begins with. -/
def after (cursor : Cursor) (matched rest : List Char) : Cursor :=
  ⟨cursor.offset + Text.byteLength matched, rest⟩

end Cursor

namespace Machine

/-- What happens in the course of a run. -/
inductive Event
  | call (rule : RuleId) (start : Nat)
  /-- A rule is left; without an end when it failed. -/
  | leave (rule : RuleId) (start : Nat) (stop : Option Nat)
  /-- A literal, class or any character matched. -/
  | hit (op : OpId) (start stop : Nat)
  /-- A literal, class or any character failed. -/
  | miss (op : OpId) (start : Nat)
  /-- A predicate was decided, its negation included. -/
  | decided (op : OpId) (start : Nat) (passed : Bool)
  /-- An alternative failed and the next one is tried. -/
  | backtrack (start : Nat)
  /-- The condition bound under `key` is about to be asked. -/
  | ask (key : String) (env : MatchEnv)

/-- What a run does not change. -/
structure Setting (τ : Type) where
  program : Program
  input : List Char
  /-- What is bound to each symbol of the program, by its number. -/
  predicates : Array (Option Binding)
  /-- How deep evaluations may nest. -/
  depthLimit : Nat
  /-- What an event makes of the trace kept so far. -/
  observe : τ → Event → τ

/-- What a run leaves behind, however it ends. -/
structure Store (τ : Type) where
  nodes : Arena
  failures : FailureSet
  /-- Evaluations that may still be made; unlimited when absent. -/
  fuel : Option Nat
  trace : τ

/-- What surrounds the evaluation in progress. -/
structure Stacks where
  /-- Elements matched so far by the sequences that are open, the innermost one's last. -/
  matched : Array NodeId
  /-- Where the elements of each open sequence begin in `matched`, the innermost one's first. Rule
  calls open a frame too, so predicates never see the elements of a caller. -/
  frames : List Nat
  /-- The number of negative lookaheads that are open. -/
  suppressed : Nat
  depth : Nat
  deriving DecidableEq, Repr

namespace Stacks

def empty : Stacks := ⟨#[], [], 0, 0⟩

/-- Elements matched so far by the innermost sequence of the same rule. -/
def visible (around : Stacks) : List NodeId :=
  match around.frames with
  | [] => []
  | base :: _ => around.matched.toList.drop base

/-- Whether failures are not recorded, as inside a negative lookahead. -/
def quiet (around : Stacks) : Bool := around.suppressed != 0

end Stacks

/-- Actions on what is left behind. -/
abbrev Work (τ : Type) := ExceptT RuntimeError (StateM (Store τ))

abbrev Run (τ : Type) := StateT Stacks (Work τ)

/-- A node and the place after what it matched. -/
structure Match where
  node : NodeId
  after : Cursor
  deriving DecidableEq, Repr

/-- The evaluation of an operation at a place. -/
abbrev Evaluator (τ : Type) := OpId → Cursor → Run τ (Option Match)

variable {τ : Type}

/-! ## Actions on what is left behind -/

def observe (setting : Setting τ) (event : Event) : Work τ Unit :=
  modify fun store ↦ { store with trace := setting.observe store.trace event }

def arenaSize : Work τ Nat :=
  return (← get).nodes.size

/-- Adds a node; returns its place. -/
def push (node : Node) : Work τ NodeId :=
  modifyGet fun store ↦ (⟨store.nodes.size⟩, { store with nodes := store.nodes.push node })

def pushEmpty (cursor : Cursor) : Work τ Match := do
  return ⟨← push (.bare .empty (.emptyAt cursor.offset)), cursor⟩

def adopt (nodes : Arena) (id : NodeId) (elements : List NodeId) : Arena :=
  elements.foldl (fun nodes element ↦
    nodes.modify element.index fun node ↦ { node with parent := some id }) nodes

def pushOwner (kind : NodeKind) (start stop : Cursor) (elements : List NodeId) : Work τ Match := do
  modify fun store ↦ { store with nodes := adopt store.nodes ⟨store.nodes.size⟩ elements }
  let node := { Node.bare kind ⟨start.offset, stop.offset⟩ with elements }
  return ⟨← push node, stop⟩

/-- Drops the nodes from place `mark` on. -/
def truncate (mark : Nat) : Work τ Unit :=
  modify fun store ↦ { store with nodes := store.nodes.take mark }

def changeNode (id : NodeId) (change : Node → Node) : Work τ Unit :=
  modify fun store ↦ { store with nodes := store.nodes.modify id.index change }

def spendFuel : Work τ Unit := do
  match (← get).fuel with
  | none => return ()
  | some 0 => throw .execFuelExhausted
  | some (fuel + 1) => modify fun store ↦ { store with fuel := some fuel }

/-- An operation that reads text of its own succeeded. -/
def succeed (setting : Setting τ) (id : OpId) (start stop : Cursor) : Work τ (Option Match) := do
  observe setting (.hit id start.offset stop.offset)
  return some ⟨← push (.bare .terminal ⟨start.offset, stop.offset⟩), stop⟩

def recordFailure (offset : Nat) (expected : Expected) : Work τ Unit :=
  modify fun store ↦ { store with failures := store.failures.record offset expected }

/-- An operation that reads text of its own failed, which is recorded unless `quiet`. -/
def failAt (setting : Setting τ) (id : OpId) (quiet : Bool) (cursor : Cursor) :
    Work τ (Option Match) := do
  observe setting (.miss id cursor.offset)
  if !quiet then recordFailure cursor.offset (.op id)
  return none

def literal (setting : Setting τ) (id : OpId) (text : List Char) (quiet : Bool)
    (cursor : Cursor) : Work τ (Option Match) :=
  match Text.stripLead? text cursor.rest with
  | some rest => succeed setting id cursor (cursor.after text rest)
  | none => failAt setting id quiet cursor

def character (setting : Setting τ) (id : OpId) (accepts : Char → Bool) (quiet : Bool)
    (cursor : Cursor) : Work τ (Option Match) :=
  match cursor.rest with
  | c :: rest =>
    if accepts c then succeed setting id cursor (cursor.after [c] rest)
    else failAt setting id quiet cursor
  | [] => failAt setting id quiet cursor

/-- Asks the condition bound to `hook`, which sees the elements `visible`. -/
def consult (setting : Setting τ) (hook : Symbol) (visible : List NodeId) (cursor : Cursor) :
    Work τ Bool := do
  match setting.predicates[hook.index]?.join with
  | none => throw (.unboundPredicate (setting.program.symbolText hook))
  | some binding =>
    let env : MatchEnv :=
      ⟨setting.program, setting.input, (← get).nodes, visible, cursor.offset, cursor.rest⟩
    observe setting (.ask binding.key env)
    match binding.condition env with
    | .ok holds => return holds
    | .error message => throw (.predicate (setting.program.symbolText hook) message)

/-- A condition in its place: an empty match when it is decided as wanted. -/
def predicate (setting : Setting τ) (id : OpId) (hook : Symbol) (negated : Bool)
    (visible : List NodeId) (cursor : Cursor) : Work τ (Option Match) := do
  let passed := (← consult setting hook visible cursor) != negated
  observe setting (.decided id cursor.offset passed)
  if passed then return some (← pushEmpty cursor) else return none

/-! ## Operations with parts -/

def onStore {α : Type} (action : Work τ α) : Run τ α := StateT.lift action

def openFrame : Run τ Unit :=
  modify fun around ↦ { around with frames := around.matched.size :: around.frames }

def closeFrame : Run τ Unit :=
  modify fun around ↦ { around with frames := around.frames.tail }

/-- The items of a sequence one after the other, each match added to the elements of the innermost
frame; returns the place after them. -/
def items (eval : Evaluator τ) : List OpId → Cursor → Run τ (Option Cursor)
  | [], cursor => return some cursor
  | item :: rest, cursor => do
    match ← eval item cursor with
    | none => return none
    | some found =>
      modify fun around ↦ { around with matched := around.matched.push found.node }
      items eval rest found.after

def sequence (eval : Evaluator τ) (ids : List OpId) (cursor : Cursor) : Run τ (Option Match) := do
  let base := (← get).matched.size
  openFrame
  let stop ← items eval ids cursor
  let elements := (← get).matched.toList.drop base
  modify fun around ↦ { around with matched := around.matched.take base }
  closeFrame
  match stop with
  | none => return none
  | some stop => return some (← onStore (pushOwner .sequence cursor stop elements))

def choice (setting : Setting τ) (eval : Evaluator τ) (cursor : Cursor) :
    List OpId → Run τ (Option Match)
  | [] => return none
  | [last] => eval last cursor
  | alternative :: next :: rest => do
    match ← eval alternative cursor with
    | some found => return some found
    | none =>
      onStore (observe setting (.backtrack cursor.offset))
      choice setting eval cursor (next :: rest)

/-- Matches `inner` again and again, ending after a match that consumes nothing. Each match but the
last consumes a character, so one more than there are characters is enough. -/
def iterations (eval : Evaluator τ) (inner : OpId) :
    Nat → List NodeId → Cursor → Run τ (List NodeId × Cursor)
  | 0, elements, cursor => return (elements, cursor)
  | bound + 1, elements, cursor => do
    match ← eval inner cursor with
    | none => return (elements, cursor)
    | some found =>
      let elements := elements ++ [found.node]
      if cursor.offset < found.after.offset then
        iterations eval inner bound elements found.after
      else return (elements, found.after)

def repetition (eval : Evaluator τ) (inner : OpId) (least : Nat) (cursor : Cursor) :
    Run τ (Option Match) := do
  let (elements, stop) ← iterations eval inner (cursor.rest.length + 1) [] cursor
  if elements.length < least then return none
  return some (← onStore (pushOwner .repetition cursor stop elements))

/-- The body of `rule`, which sees no elements of its caller. The node it makes is marked as the
rule's, over any rule that it was made for. -/
def call (setting : Setting τ) (eval : Evaluator τ) (rule : RuleId) (cursor : Cursor) :
    Run τ (Option Match) := do
  match setting.program.rules[rule.index]? with
  | none => throw .danglingReference
  | some entry =>
    onStore (observe setting (.call rule cursor.offset))
    openFrame
    let found ← eval entry.body cursor
    closeFrame
    match found with
    | some found =>
      onStore (changeNode found.node fun node ↦ { node with rule := some rule })
      onStore (observe setting (.leave rule cursor.offset (some found.after.offset)))
    | none => onStore (observe setting (.leave rule cursor.offset none))
    return found

/-- One operation, whose parts are evaluated by `eval`. -/
def step (setting : Setting τ) (eval : Evaluator τ) (id : OpId) (op : Op) (cursor : Cursor) :
    Run τ (Option Match) := do
  match op with
  | .terminal text => onStore (literal setting id text.toList (← get).quiet cursor)
  | .charClass cls => onStore (character setting id cls.contains (← get).quiet cursor)
  | .anyChar => onStore (character setting id (fun _ ↦ true) (← get).quiet cursor)
  | .sequence items => sequence eval items cursor
  | .choice alternatives => choice setting eval cursor alternatives
  | .repetition inner least => repetition eval inner least cursor
  | .optional inner =>
    match ← eval inner cursor with
    | some found => return some found
    | none => return some (← onStore (pushEmpty cursor))
  | .lookahead inner =>
    let mark ← onStore arenaSize
    match ← eval inner cursor with
    | none => return none
    | some _ =>
      onStore (truncate mark)
      return some (← onStore (pushEmpty cursor))
  | .negativeLookahead inner =>
    modify fun around ↦ { around with suppressed := around.suppressed + 1 }
    let found ← eval inner cursor
    modify fun around ↦ { around with suppressed := around.suppressed - 1 }
    match found with
    | some _ => return none
    | none => return some (← onStore (pushEmpty cursor))
  | .predicate hook negated =>
    onStore (predicate setting id hook negated (← get).visible cursor)
  | .label name inner =>
    let found ← eval inner cursor
    if let some found := found then
      onStore (changeNode found.node fun node ↦ { node with label := some name })
    return found
  | .call rule => call setting eval rule cursor

/-- An operation, with at most `levels` evaluations inside each other, itself included. A failure
drops the nodes made on the way. From a depth of zero, as many levels as the limit allows are never
used up before the limit is reached. -/
def eval (setting : Setting τ) : Nat → Evaluator τ
  | 0, _, _ => do
    onStore spendFuel
    throw .recursionLimitExceeded
  | levels + 1, id, cursor => do
    onStore spendFuel
    if setting.depthLimit ≤ (← get).depth then throw .recursionLimitExceeded
    match setting.program.ops[id.index]? with
    | none => throw .danglingReference
    | some op =>
      modify fun around ↦ { around with depth := around.depth + 1 }
      let mark ← onStore arenaSize
      let found ← step setting (eval setting levels) id op cursor
      modify fun around ↦ { around with depth := around.depth - 1 }
      if found.isNone then onStore (truncate mark)
      return found

/-- Matches `rule` at `cursor`. Where all input has to be consumed, a match that ends earlier is a
failure for want of the end of input. -/
def matchRule (setting : Setting τ) (rule : RuleId) (consumeAll : Bool) (cursor : Cursor) :
    Run τ (Option Match) := do
  match ← call setting (eval setting setting.depthLimit) rule cursor with
  | none => return none
  | some found =>
    if consumeAll && !found.after.rest.isEmpty then
      onStore (recordFailure found.after.offset .endOfInput)
      return none
    return some found

structure Outcome where
  nodes : Arena
  root : Option Match
  failures : FailureSet

/-- A whole run, which matches `rule` at `cursor` with nothing in progress. -/
def run (setting : Setting τ) (fuel : Option Nat) (trace : τ) (rule : RuleId) (consumeAll : Bool)
    (cursor : Cursor) : Except RuntimeError Outcome × τ :=
  let (result, store) :=
    ((matchRule setting rule consumeAll cursor).run .empty).run.run ⟨#[], .empty, fuel, trace⟩
  (result.map fun (root, _) ↦ ⟨store.nodes, root, store.failures⟩, store.trace)

end Machine

end PegKit
