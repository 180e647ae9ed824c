import PegKit.Cst
import PegKit.Diagnostic

/-!
# Reading trees from tokens

The state of reading a grammar text and the steps on tokens that the productions are made of. Trivia
is held back until the next node or token is added, so it lands before or inside what follows it.
Reading never fails on malformed text: what is missing is reported, and what is not expected is
wrapped in error nodes. Only a spent limit makes it fail.

There are two ways of reading, and the productions are the same for both. A text is read to the end
of what was begun even where a limit is spent on the way: no more is begun then, and the limit is
told last. Where only the tree matters, reading may as well stop at the limit.
-/

namespace PegKit.Cst

open Text (Span)

/-- Why reading failed. The last three would be faults of the productions and never arise. -/
inductive Fault
  /-- More tokens were consumed than allowed. -/
  | execFuelExhausted
  /-- Expressions nest deeper than allowed. -/
  | recursionLimitExceeded
  /-- Too many looks at the next token without consuming one. -/
  | stuck
  /-- A token was to be consumed where none is left. -/
  | endOfTokens
  /-- A production began at a token that is not its first, a node was to begin at a place that the
  open node does not have, or there is not one tree at the end. -/
  | misplaced
  deriving DecidableEq, Repr

/-- The looks ahead allowed between two consumed tokens. -/
def lookaheadBudget : Nat := 256

structure State where
  /-- The tokens from the current place on. -/
  remaining : List Token
  /-- Trivia passed but not yet added to the tree. -/
  pending : List Token
  /-- The children added so far to the node that is open. -/
  built : Array Cst
  diagnostics : Diagnostics
  /-- Tokens that may still be consumed; unlimited when absent. -/
  fuel : Option Nat
  /-- Tokens consumed so far. -/
  consumed : Nat
  lookaheads : Nat
  /-- Where the last report was made; a second one at the same place only follows from it. -/
  lastErrorAt : Option Nat
  /-- The length of the text in bytes. -/
  textLength : Nat
  /-- The first limit that was spent, where reading goes on after it. -/
  exhausted : Option Fault

/-- Reading that stops at a spent limit. -/
abbrev Parse := StateT State (Except Fault)

/-- Reading that goes on after a spent limit, and keeps the limit in mind. -/
def Lasting (α : Type) : Type := Parse α

/-- Ways of reading. -/
class Reading (m : Type → Type) extends Monad m, MonadStateOf State m, MonadExceptOf Fault m where
  /-- A limit is spent. -/
  giveUp : Fault → m Unit
  /-- Whether there is nothing more to begin. -/
  isOver : State → Bool
  /-- Makes sure that the open node has place `start`. -/
  checkPlace : Nat → m Unit

@[default_instance]
instance : Reading Parse where
  giveUp fault := throw fault
  isOver state := state.remaining.isEmpty
  checkPlace _ := return ()

namespace Lasting

instance : Monad Lasting := inferInstanceAs (Monad Parse)

instance : MonadStateOf State Lasting := inferInstanceAs (MonadStateOf State Parse)

instance : MonadExceptOf Fault Lasting := inferInstanceAs (MonadExceptOf Fault Parse)

instance : Reading Lasting where
  giveUp fault := modify fun state ↦
    { state with exhausted := state.exhausted.or (some fault) }
  isOver state := state.remaining.isEmpty || state.exhausted.isSome
  checkPlace start := do
    if (← get).built.size < start then throw .misplaced

def run {α : Type} (part : Lasting α) (state : State) : Except Fault (α × State) :=
  StateT.run (part : Parse α) state

theorem run_bind {α β : Type} (part : Lasting α) (next : α → Lasting β) (state : State) :
    (part >>= next).run state =
      part.run state >>= fun result ↦ (next result.1).run result.2 := rfl

theorem run_get_bind {α : Type} (next : State → Lasting α) (state : State) :
    (get >>= next).run state = (next state).run state := rfl

end Lasting

namespace Parse

variable {m : Type → Type} [Reading m]

/-- The state before the first of `tokens`. -/
def start (tokens : List Token) (textLength : Nat) (fuel : Option Nat) : State where
  remaining := tokens
  pending := []
  built := #[]
  diagnostics := []
  fuel := fuel
  consumed := 0
  lookaheads := lookaheadBudget
  lastErrorAt := none
  textLength := textLength
  exhausted := none

/-- Repeats `step` on a value until it says that nothing is left to do. Every step but the last
consumes a token, or spends a limit in front of one, so one more step than there are tokens is
enough. -/
def iterate {α : Type} (step : α → m (Option α)) : Nat → α → m α
  | 0, _ => throw .stuck
  | bound + 1, value => do
    match ← step value with
    | none => return value
    | some next => iterate step bound next

def untilDone {α : Type} (step : α → m (Option α)) (value : α) : m α := do
  iterate step ((← get).remaining.length + 1) value

/-! ## Looking -/

/-- Passes the trivia at the current place. -/
def passTrivia : m Unit :=
  modify fun state ↦
    { state with
      pending := state.pending ++ state.remaining.takeWhile Token.isTrivia
      remaining := state.remaining.dropWhile Token.isTrivia }

def countLookahead : m Unit := do
  let state ← get
  if state.lookaheads = 0 then throw .stuck
  set { state with lookaheads := state.lookaheads - 1 }

def restoreLookaheads : m Unit :=
  modify fun state ↦ { state with lookaheads := lookaheadBudget }

/-- The kind of the current token; an error at the end. -/
def current : m Kind := do
  passTrivia
  countLookahead
  return ((← get).remaining.head?.map (·.kind)).getD .error

/-- Where the current token is; the end of the text at the end. -/
def currentSpan : m Span := do
  passTrivia
  let state ← get
  return (state.remaining.head?.map Token.span).getD (.emptyAt state.textLength)

def currentIs (kind : Kind) : m Bool :=
  return (← current) == kind

def currentIsIn (set : KindSet) : m Bool :=
  return set.contains (← current)

/-- Whether the token after the current one, trivia aside, is of `kind`. -/
def nextIs (kind : Kind) : m Bool := do
  passTrivia
  countLookahead
  match (← get).remaining with
  | [] => return false
  | _ :: rest => return (rest.find? fun token ↦ !token.isTrivia).any (·.kind == kind)

/-- Whether there is nothing more to begin at the very front. -/
def isOver : m Bool :=
  return Reading.isOver m (← get)

def atEnd : m Bool := do
  passTrivia
  isOver

/-- Makes sure that a production starts at its first token. -/
def expect (kind : Kind) : m Unit := do
  if (← current) ≠ kind then throw .misplaced

/-! ## Building -/

/-- Adds the trivia held back to the open node. -/
def addTrivia : m Unit :=
  modify fun state ↦
    { state with
      pending := []
      built := state.built ++ (state.pending.map Cst.leaf).toArray }

/-- A node of `kind` around what `body` adds. -/
def node (kind : Kind) (body : m Unit) : m Unit := do
  addTrivia
  let outer := (← get).built
  modify fun state ↦ { state with built := #[] }
  body
  modify fun state ↦ { state with built := outer.push (.node kind state.built.toList) }

/-- The place in the open node after the trivia held back. -/
def mark : m Nat := do
  addTrivia
  return (← get).built.size

/-- Puts what the open node holds from place `start` on into a node of `kind`. -/
def wrapFrom (start : Nat) (kind : Kind) : m Unit := do
  Reading.checkPlace start
  modify fun state ↦
    { state with
      built := (state.built.take start).push (.node kind (state.built.toList.drop start)) }

/-- Consumes the token at the very front, even when it is trivia. -/
def bump : m Unit := do
  restoreLookaheads
  match (← get).remaining with
  | [] => throw .endOfTokens
  | token :: rest =>
    if (← get).fuel == some 0 then Reading.giveUp .execFuelExhausted
    addTrivia
    modify fun state ↦
      { state with
        remaining := rest
        built := state.built.push (.leaf token)
        fuel := state.fuel.map (· - 1)
        consumed := state.consumed + 1 }

/-- Consumes the current token if it is of `kind`. -/
def eat (kind : Kind) : m Bool := do
  if ← currentIs kind then
    bump
    return true
  return false

/-! ## Reporting -/

/-- Whether the last report was made elsewhere than at byte `offset`, which counts as the place of
the last report from now on. -/
def freshPlace (offset : Nat) : m Bool := do
  let fresh := (← get).lastErrorAt ≠ some offset
  modify fun state ↦ { state with lastErrorAt := some offset }
  return fresh

def report (diagnostic : Diagnostic) : m Unit :=
  modify fun state ↦ { state with diagnostics := state.diagnostics ++ [diagnostic] }

/-- Reports at the current token, unless the last report was made there. -/
def reportHere (wording : Span → Diagnostic) : m Unit := do
  let span ← currentSpan
  if ← freshPlace span.start then report (wording span)

def error (kind : DiagnosticKind) : m Unit :=
  reportHere (.plain kind)

def errorDetailed (kind : DiagnosticKind) (detail : String) : m Unit :=
  reportHere fun span ↦ .detailed kind span detail

/-- Reports the current token and puts it into an error node. -/
def errorAndBump (kind : DiagnosticKind) (detail : String) : m Unit := do
  errorDetailed kind detail
  if !(← get).remaining.isEmpty then node .error bump

/-- Whether recovery stops: at a token of `recovery`, and where nothing more is to begin. -/
def stopsAt (recovery : KindSet) : m Bool := do
  if ← currentIsIn recovery then return true
  atEnd

def skipToken (recovery : KindSet) (u : Unit) : m (Option Unit) := do
  if ← stopsAt recovery then return none
  bump
  return some u

/-- Reports, and puts everything up to a token of `recovery` into an error node. -/
def errorAndRecover (kind : DiagnosticKind) (detail : String) (recovery : KindSet) :
    m Unit := do
  if ← stopsAt recovery then errorDetailed kind detail
  else
    node .error do
      errorDetailed kind detail
      untilDone (skipToken recovery) ()

def takeToken (u : Unit) : m (Option Unit) := do
  if ← isOver then return none
  bump
  return some u

/-- Puts all remaining tokens into one error node. -/
def bumpRest : m Unit :=
  node .error (untilDone takeToken ())

/-- Reports that what opened at `opening` was not closed before the current token. -/
def errorUnclosed (kind : DiagnosticKind) (note : String) (opening : Span) : m Unit := do
  let here ← currentSpan
  if ← freshPlace here.start then
    report ((Diagnostic.plain kind ⟨opening.start, here.stop⟩).relatedTo note opening)

end Parse

end PegKit.Cst
