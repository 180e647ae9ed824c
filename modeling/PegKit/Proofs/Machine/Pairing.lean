import PegKit.Proofs.Machine.Scoped

/-!
# Runs side by side

Two runs of a program over the same text go the same way. The second may stand further right, by the
same number of bytes at every place: then it makes the same nodes and records the same failures,
that many bytes further right. It may also end early, for want of a limit. What is known of the
first run from there on is a part of the pairing, and so is what holds between the budgets and the
traces of the two.

Each action on what is left behind keeps the two runs together, and an operation does so when the
evaluations of its parts do. How evaluations nest is left open here.
-/

namespace PegKit

/-! ## Moving to the right -/

/-- The span `k` bytes further right. -/
def Text.Span.shift (span : Text.Span) (k : Nat) : Text.Span := ⟨span.start + k, span.stop + k⟩

/-- The same node, `k` bytes further right. -/
def Node.shift (node : Node) (k : Nat) : Node := { node with span := node.span.shift k }

@[simp]
theorem Node.shift_zero (node : Node) : node.shift 0 = node := rfl

namespace Arena

/-- The same nodes, `k` bytes further right. -/
def shift (arena : Arena) (k : Nat) : Arena := arena.map (·.shift k)

variable (arena : Arena) (k : Nat)

@[simp]
theorem size_shift : (arena.shift k).size = arena.size := Array.size_map

@[simp]
theorem shift_push (node : Node) :
    shift (arena.push node) k = (arena.shift k).push (node.shift k) := Array.map_push

@[simp]
theorem shift_take (mark : Nat) : shift (arena.take mark) k = (arena.shift k).take mark := by
  simp [shift, Array.take_eq_extract]

theorem shift_modify (index : Nat) {change : Node → Node}
    (h : ∀ node, change (node.shift k) = (change node).shift k) :
    shift (arena.modify index change) k = (arena.shift k).modify index change := by
  have hcomm : (fun node ↦ node.shift k) ∘ change = change ∘ fun node ↦ node.shift k :=
    funext fun node ↦ (h node).symm
  apply Array.ext_getElem?
  intro place
  by_cases hplace : index = place <;> simp [shift, Array.getElem?_modify, hplace, hcomm]

@[simp]
theorem shift_zero : arena.shift 0 = arena := by simp [shift]

end Arena

namespace FailureSet

/-- The same failures, `k` bytes further right. -/
def shift (set : FailureSet) (k : Nat) : FailureSet := { set with index := set.index.map (· + k) }

@[simp]
theorem shift_zero (set : FailureSet) : set.shift 0 = set := by simp [shift]

theorem shift_record (set : FailureSet) (index : Nat) (expected : Expected) (k : Nat) :
    (set.record index expected).shift k = (set.shift k).record (index + k) expected := by
  obtain ⟨furthest, missed⟩ := set
  cases furthest with
  | none => rfl
  | some furthest =>
    rcases Nat.lt_trichotomy index furthest with hless | rfl | hbeyond
    · simp [record, shift, hless]
    · simp [record, shift, add, apply_ite]
    · simp [record, shift, Nat.not_lt_of_gt hbeyond, Nat.ne_of_gt hbeyond]

end FailureSet

/-- The place `k` bytes further right, with the same text after it. -/
def Cursor.shift (cursor : Cursor) (k : Nat) : Cursor := ⟨cursor.offset + k, cursor.rest⟩

@[simp]
theorem Cursor.shift_zero (cursor : Cursor) : cursor.shift 0 = cursor := rfl

@[simp]
theorem Cursor.shift_after (cursor : Cursor) (matched rest : List Char) (k : Nat) :
    (cursor.after matched rest).shift k = (cursor.shift k).after matched rest := by
  simp [shift, after, Nat.add_right_comm]

namespace Machine

/-- The same node, with a place after it `k` bytes further right. -/
def Match.shift (found : Match) (k : Nat) : Match := ⟨found.node, found.after.shift k⟩

@[simp]
theorem Match.shift_zero (found : Match) : found.shift 0 = found := rfl

theorem adopt_shift (arena : Arena) (id : NodeId) (elements : List NodeId) (k : Nat) :
    Arena.shift (adopt arena id elements) k = adopt (arena.shift k) id elements := by
  unfold adopt
  induction elements generalizing arena with
  | nil => rfl
  | cons element rest ih =>
    rw [List.foldl_cons, List.foldl_cons, ih]
    congr 1
    exact Arena.shift_modify arena k element.index fun _ ↦ rfl

end Machine

/-- The error says that a limit was reached. -/
def RuntimeError.IsLimit (error : RuntimeError) : Prop :=
  error = .execFuelExhausted ∨ error = .recursionLimitExceeded

namespace Machine

/-! ## Pairings -/

variable {τ τ' α β γ δ : Type}

/-- What a run leaves behind besides nodes and failures: its budget and its trace. -/
def Store.account (store : Store τ) : Option Nat × τ := (store.fuel, store.trace)

/-- What holds between two runs. -/
structure Pairing (τ τ' : Type) where
  /-- How many bytes further right the second run is. -/
  shift : Nat
  /-- What holds between their budgets and traces. -/
  meets : Option Nat × τ → Option Nat × τ' → Prop
  /-- What holds of the first run where the second has ended for want of a limit. -/
  past : Option Nat × τ → Prop

namespace Pairing

variable (pair : Pairing τ τ')

/-- The two runs have left the same behind. -/
structure Joins (store : Store τ) (store' : Store τ') : Prop where
  nodes : store'.nodes = store.nodes.shift pair.shift
  failures : store'.failures = store.failures.shift pair.shift
  account : pair.meets store.account store'.account

/-- With nothing left behind yet. -/
theorem Joins.start {fuel fuel' : Option Nat} {trace : τ} {trace' : τ'}
    (h : pair.meets (fuel, trace) (fuel', trace')) :
    pair.Joins ⟨#[], .empty, fuel, trace⟩ ⟨#[], .empty, fuel', trace'⟩ :=
  ⟨by simp [Arena.shift], rfl, h⟩

/-- The two runs end in the same way, with values that `carry` takes to each other, or the second
has ended for want of a limit. -/
inductive Ends (carry : α → β) :
    Except RuntimeError α × Store τ → Except RuntimeError β × Store τ' → Prop
  | ok {value : α} {store : Store τ} {store' : Store τ'} (joins : pair.Joins store store') :
      Ends carry (.ok value, store) (.ok (carry value), store')
  | error {error : RuntimeError} {store : Store τ} {store' : Store τ'}
      (joins : pair.Joins store store') : Ends carry (.error error, store) (.error error, store')
  | cut {outcome : Except RuntimeError α × Store τ} {error : RuntimeError} {store' : Store τ'}
      (limit : error.IsLimit) (past : pair.past outcome.2.account) :
      Ends carry outcome (.error error, store')

end Pairing

/-- Two actions that keep the runs together. -/
structure Paired (pair : Pairing τ τ') (carry : α → β) (action : Work τ α) (action' : Work τ' β) :
    Prop where
  past : ∀ store, pair.past store.account → pair.past (action.run.run store).2.account
  ends : ∀ store store', pair.Joins store store' →
    pair.Ends carry (action.run.run store) (action'.run.run store')

namespace Paired

variable {pair : Pairing τ τ'} {carry : α → β} {further : γ → δ} {action : Work τ α}
  {action' : Work τ' β} {next : α → Work τ γ} {next' : β → Work τ' δ}

theorem pure (carry : α → β) (value : α) :
    Paired pair carry (Pure.pure value) (Pure.pure (carry value)) :=
  ⟨fun _ hpast ↦ hpast, fun _ _ hjoins ↦ .ok hjoins⟩

theorem throw (error : RuntimeError) :
    Paired pair carry (MonadExcept.throw error) (MonadExcept.throw error) :=
  ⟨fun _ hpast ↦ hpast, fun _ _ hjoins ↦ .error hjoins⟩

theorem bind (h : Paired pair carry action action')
    (hnext : ∀ value, Paired pair further (next value) (next' (carry value))) :
    Paired pair further (action >>= next) (action' >>= next') := by
  have hpast (store : Store τ) (hstore : pair.past (action.run.run store).2.account) :
      pair.past ((action >>= next).run.run store).2.account := by
    rw [ExceptT.run_bind, StateT.run_bind]
    cases hrun : action.run.run store with
    | mk result between =>
      rw [hrun] at hstore
      cases result with
      | error error => exact hstore
      | ok value => exact (hnext value).past between hstore
  refine ⟨fun store hstore ↦ hpast store (h.past store hstore), fun store store' hjoins ↦ ?_⟩
  have hfirst := h.ends store store' hjoins
  have hcut := hpast store
  rw [ExceptT.run_bind, StateT.run_bind] at hcut ⊢
  rw [ExceptT.run_bind, StateT.run_bind]
  cases hrun : action.run.run store with
  | mk result between =>
    cases hrun' : action'.run.run store' with
    | mk result' between' =>
      rw [hrun] at hcut
      rw [hrun, hrun'] at hfirst
      cases hfirst with
      | ok hjoins => exact (hnext _).ends between between' hjoins
      | error hjoins => exact .error hjoins
      | cut hlimit hpast => exact .cut hlimit (hcut hpast)

/-- A change of what is left behind. -/
theorem modifyGet {change : Store τ → α × Store τ} {change' : Store τ' → β × Store τ'}
    (hpast : ∀ store, pair.past store.account → pair.past (change store).2.account)
    (h : ∀ store store', pair.Joins store store' →
      (change' store').1 = carry (change store).1 ∧
        pair.Joins (change store).2 (change' store').2) :
    Paired pair carry (MonadStateOf.modifyGet change) (MonadStateOf.modifyGet change') := by
  refine ⟨hpast, fun store store' hjoins ↦ ?_⟩
  obtain ⟨hvalue, hafter⟩ := h store store' hjoins
  have hrun' : (MonadStateOf.modifyGet change' : Work τ' β).run.run store' =
      (.ok (carry (change store).1), (change' store').2) := by
    rw [← hvalue]
    rfl
  rw [hrun']
  exact .ok hafter

theorem modify {change : Store τ → Store τ} {change' : Store τ' → Store τ'}
    (hpast : ∀ store, pair.past store.account → pair.past (change store).account)
    (h : ∀ store store', pair.Joins store store' → pair.Joins (change store) (change' store')) :
    Paired pair id (modify change : Work τ Unit) (modify change' : Work τ' Unit) :=
  .modifyGet hpast fun store store' hjoins ↦ ⟨rfl, h store store' hjoins⟩

/-- What is read of what is left behind is the nodes. -/
theorem getNodes_bind (next : Arena → Work τ γ) (next' : Arena → Work τ' δ)
    (hnext : ∀ nodes : Arena, Paired pair further (next nodes) (next' (nodes.shift pair.shift))) :
    Paired pair further ((get : Work τ (Store τ)) >>= fun store ↦ next store.nodes)
      ((get : Work τ' (Store τ')) >>= fun store ↦ next' store.nodes) := by
  refine ⟨fun store ↦ (hnext store.nodes).past store, fun store store' hjoins ↦ ?_⟩
  have hends := (hnext store.nodes).ends store store' hjoins
  rw [← hjoins.nodes] at hends
  exact hends

end Paired

/-- Two settings under which runs stay together: they are for one program, and observing events and
asking predicates keeps the runs together. -/
structure Alongside (pair : Pairing τ τ') (setting : Setting τ) (setting' : Setting τ') : Prop where
  program : setting'.program = setting.program
  /-- The events are the same where the second run is no further right. -/
  observed : ∀ event event', (pair.shift = 0 → event' = event) →
    Paired pair id (observe setting event) (observe setting' event')
  consulted : ∀ {place : OpId} {hook negated},
    setting.program.ops[place.index]? = some (.predicate hook negated) → ∀ visible cursor,
      Paired pair id (consult setting hook visible cursor)
        (consult setting' hook visible (cursor.shift pair.shift))

/-! ## Actions on what is left behind -/

section Actions

variable (pair : Pairing τ τ')

theorem push_paired (node : Node) : Paired pair id (push node) (push (node.shift pair.shift)) := by
  refine .modifyGet (fun _ hpast ↦ hpast) fun store store' hjoins ↦ ⟨?_, ?_, hjoins.2, hjoins.3⟩
  · rw [hjoins.nodes, Arena.size_shift]
    rfl
  · rw [hjoins.nodes, Arena.shift_push]

theorem pushEmpty_paired (cursor : Cursor) : Paired pair (Match.shift · pair.shift)
    (pushEmpty cursor) (pushEmpty (cursor.shift pair.shift)) :=
  (push_paired pair _).bind fun node ↦ .pure (Match.shift · pair.shift) ⟨node, cursor⟩

theorem pushOwner_paired (kind : NodeKind) (start stop : Cursor) (elements : List NodeId) :
    Paired pair (Match.shift · pair.shift) (pushOwner kind start stop elements)
      (pushOwner kind (start.shift pair.shift) (stop.shift pair.shift) elements) := by
  have hadopt : Paired pair id
      (modify fun store ↦
        { store with nodes := adopt store.nodes ⟨store.nodes.size⟩ elements } : Work τ Unit)
      (modify fun store ↦
        { store with nodes := adopt store.nodes ⟨store.nodes.size⟩ elements } : Work τ' Unit) := by
    refine .modify (fun _ hpast ↦ hpast) fun store store' hjoins ↦ ⟨?_, hjoins.2, hjoins.3⟩
    rw [hjoins.nodes, adopt_shift, Arena.size_shift]
  exact hadopt.bind fun _ ↦ (push_paired pair _).bind fun node ↦
    .pure (Match.shift · pair.shift) ⟨node, stop⟩

theorem arenaSize_paired : Paired pair id (arenaSize : Work τ Nat) (arenaSize : Work τ' Nat) := by
  refine @Paired.modifyGet _ _ _ _ _ _ (fun store ↦ (store.nodes.size, store))
    (fun store ↦ (store.nodes.size, store)) (fun _ hpast ↦ hpast) fun store store' hjoins ↦ ?_
  exact ⟨by rw [hjoins.nodes, Arena.size_shift]; rfl, hjoins⟩

theorem truncate_paired (mark : Nat) :
    Paired pair id (truncate mark : Work τ Unit) (truncate mark : Work τ' Unit) := by
  refine .modify (fun _ hpast ↦ hpast) fun store store' hjoins ↦ ⟨?_, hjoins.2, hjoins.3⟩
  rw [hjoins.nodes, Arena.shift_take]

theorem changeNode_paired (node : NodeId) {change : Node → Node}
    (h : ∀ node, change (node.shift pair.shift) = (change node).shift pair.shift) :
    Paired pair id (changeNode node change : Work τ Unit)
      (changeNode node change : Work τ' Unit) := by
  refine .modify (fun _ hpast ↦ hpast) fun store store' hjoins ↦ ⟨?_, hjoins.2, hjoins.3⟩
  rw [hjoins.nodes, Arena.shift_modify _ _ _ h]

theorem recordFailure_paired (offset : Nat) (expected : Expected) :
    Paired pair id (recordFailure offset expected : Work τ Unit)
      (recordFailure (offset + pair.shift) expected : Work τ' Unit) := by
  refine .modify (fun _ hpast ↦ hpast) fun store store' hjoins ↦ ⟨hjoins.1, ?_, hjoins.3⟩
  rw [hjoins.failures, FailureSet.shift_record]

/-- Where both budgets are the same, and the second run never ends early, both spend alike. -/
theorem spendFuel_paired (hpast : ∀ account, ¬pair.past account)
    (hsame : ∀ account account', pair.meets account account' → account'.1 = account.1)
    (hspent : ∀ account account' fuel, pair.meets account account' →
      pair.meets (fuel, account.2) (fuel, account'.2)) :
    Paired pair id (spendFuel : Work τ Unit) (spendFuel : Work τ' Unit) := by
  refine ⟨fun store hstore ↦ absurd hstore (hpast store.account), ?_⟩
  intro store store' hjoins
  obtain ⟨nodes, failures, fuel, trace⟩ := store
  obtain ⟨nodes', failures', fuel', trace'⟩ := store'
  obtain rfl : fuel' = fuel := hsame _ _ hjoins.account
  match fuel', hjoins with
  | none, hjoins => exact @Pairing.Ends.ok _ _ _ _ _ id () _ _ hjoins
  | some 0, hjoins => exact .error hjoins
  | some (fuel + 1), hjoins =>
    have hspared := hspent _ _ (some fuel) hjoins.account
    exact @Pairing.Ends.ok _ _ _ _ _ id () _ _ ⟨hjoins.nodes, hjoins.failures, hspared⟩

end Actions

/-- Carries an answer over to the second run. -/
abbrev Pairing.answer (pair : Pairing τ τ') : Option Match → Option Match :=
  Option.map (Match.shift · pair.shift)

section Operations

variable {pair : Pairing τ τ'} {setting : Setting τ} {setting' : Setting τ'}
  (h : Alongside pair setting setting')

/-- An empty match as the answer. -/
theorem emptyMatch_paired (cursor : Cursor) : Paired pair pair.answer
    (do return some (← pushEmpty cursor))
    (do return some (← pushEmpty (cursor.shift pair.shift))) :=
  (pushEmpty_paired pair cursor).bind fun found ↦ .pure pair.answer (some found)

include h

theorem succeed_paired (id : OpId) (start stop : Cursor) : Paired pair pair.answer
    (succeed setting id start stop)
    (succeed setting' id (start.shift pair.shift) (stop.shift pair.shift)) := by
  apply (h.observed _ _ fun hshift ↦ by simp [hshift]).bind
  intro _
  apply (push_paired pair _).bind
  intro node
  exact .pure pair.answer (some ⟨node, stop⟩)

theorem failAt_paired (id : OpId) (quiet : Bool) (cursor : Cursor) : Paired pair pair.answer
    (failAt setting id quiet cursor) (failAt setting' id quiet (cursor.shift pair.shift)) := by
  apply (h.observed _ _ fun hshift ↦ by simp [hshift]).bind
  intro _
  cases quiet with
  | true => exact .pure pair.answer none
  | false => exact (recordFailure_paired pair _ _).bind fun _ ↦ .pure pair.answer none

theorem literal_paired (id : OpId) (text : List Char) (quiet : Bool) (cursor : Cursor) :
    Paired pair pair.answer (literal setting id text quiet cursor)
      (literal setting' id text quiet (cursor.shift pair.shift)) := by
  unfold literal
  rw [show (cursor.shift pair.shift).rest = cursor.rest from rfl]
  cases Text.stripLead? text cursor.rest with
  | none => exact failAt_paired h id quiet cursor
  | some rest =>
    dsimp only
    rw [← Cursor.shift_after]
    exact succeed_paired h id cursor _

theorem character_paired (id : OpId) (accepts : Char → Bool) (quiet : Bool) (cursor : Cursor) :
    Paired pair pair.answer (character setting id accepts quiet cursor)
      (character setting' id accepts quiet (cursor.shift pair.shift)) := by
  unfold character
  rw [show (cursor.shift pair.shift).rest = cursor.rest from rfl]
  cases cursor.rest with
  | nil => exact failAt_paired h id quiet cursor
  | cons c rest =>
    dsimp only
    split
    · rw [← Cursor.shift_after]
      exact succeed_paired h id cursor _
    · exact failAt_paired h id quiet cursor

theorem predicate_paired {place : OpId} {hook : Symbol} {negated : Bool}
    (hop : setting.program.ops[place.index]? = some (.predicate hook negated))
    (visible : List NodeId) (cursor : Cursor) : Paired pair pair.answer
      (predicate setting place hook negated visible cursor)
      (predicate setting' place hook negated visible (cursor.shift pair.shift)) := by
  apply (h.consulted hop visible cursor).bind
  intro holds
  apply (h.observed _ _ fun hshift ↦ by simp [hshift]).bind
  intro _
  dsimp only [id]
  split
  · exact emptyMatch_paired cursor
  · exact .pure pair.answer none

end Operations

/-! ## Operations with parts -/

/-- Evaluations that keep the runs together. -/
def EvalPaired (pair : Pairing τ τ') (eval : Scoped.Evaluator τ) (eval' : Scoped.Evaluator τ') :
    Prop :=
  ∀ id scope cursor, Paired pair pair.answer (eval id scope cursor)
    (eval' id scope (cursor.shift pair.shift))

section Parts

variable {pair : Pairing τ τ'} {setting : Setting τ} {setting' : Setting τ'}
  {eval : Scoped.Evaluator τ} {eval' : Scoped.Evaluator τ'} (heval : EvalPaired pair eval eval')

include heval

theorem items_paired (quiet : Bool) (ids : List OpId) (elements : List NodeId) (cursor : Cursor) :
    Paired pair (Prod.map id (Option.map (Cursor.shift · pair.shift)))
      (Scoped.items eval quiet ids elements cursor)
      (Scoped.items eval' quiet ids elements (cursor.shift pair.shift)) := by
  induction ids generalizing elements cursor with
  | nil => exact .pure (Prod.map id (Option.map (Cursor.shift · pair.shift))) (elements, some cursor)
  | cons item rest ih =>
    apply (heval item ⟨elements, quiet⟩ cursor).bind
    rintro (_ | found)
    · exact .pure (Prod.map id (Option.map (Cursor.shift · pair.shift))) (elements, none)
    · exact ih _ _

theorem sequence_paired (quiet : Bool) (ids : List OpId) (cursor : Cursor) :
    Paired pair pair.answer (Scoped.sequence eval quiet ids cursor)
      (Scoped.sequence eval' quiet ids (cursor.shift pair.shift)) := by
  apply (items_paired heval quiet ids [] cursor).bind
  rintro ⟨elements, _ | stop⟩
  · exact .pure pair.answer none
  · exact (pushOwner_paired pair _ _ _ _).bind fun found ↦ .pure pair.answer (some found)

theorem iterations_paired (inner : OpId) (scope : Scope) (bound : Nat) (elements : List NodeId)
    (cursor : Cursor) : Paired pair (Prod.map id (Cursor.shift · pair.shift))
      (Scoped.iterations eval inner scope bound elements cursor)
      (Scoped.iterations eval' inner scope bound elements (cursor.shift pair.shift)) := by
  induction bound generalizing elements cursor with
  | zero => exact .pure (Prod.map id (Cursor.shift · pair.shift)) (elements, cursor)
  | succ bound ih =>
    apply (heval inner scope cursor).bind
    rintro (_ | found)
    · exact .pure (Prod.map id (Cursor.shift · pair.shift)) (elements, cursor)
    · have hmoves : (cursor.shift pair.shift).offset < (found.shift pair.shift).after.offset ↔
          cursor.offset < found.after.offset := Nat.add_lt_add_iff_right
      simp only [Option.map_some, hmoves]
      split
      · exact ih _ _
      · exact .pure (Prod.map id (Cursor.shift · pair.shift)) (elements ++ [found.node], found.after)

theorem repetition_paired (inner : OpId) (least : Nat) (scope : Scope) (cursor : Cursor) :
    Paired pair pair.answer (Scoped.repetition eval inner least scope cursor)
      (Scoped.repetition eval' inner least scope (cursor.shift pair.shift)) := by
  apply (iterations_paired heval inner scope _ [] cursor).bind
  rintro ⟨elements, stop⟩
  dsimp only [Prod.map, id]
  split
  · exact .pure pair.answer none
  · exact (pushOwner_paired pair _ _ _ _).bind fun found ↦ .pure pair.answer (some found)

variable (h : Alongside pair setting setting')

include h

theorem choice_paired (scope : Scope) (ids : List OpId) (cursor : Cursor) :
    Paired pair pair.answer (Scoped.choice setting eval scope cursor ids)
      (Scoped.choice setting' eval' scope (cursor.shift pair.shift) ids) := by
  induction ids with
  | nil => exact .pure pair.answer none
  | cons id rest ih =>
    cases rest with
    | nil => exact heval id scope cursor
    | cons next rest =>
      apply (heval id scope cursor).bind
      rintro (_ | found)
      · exact (h.observed _ _ fun hshift ↦ by simp [hshift]).bind fun _ ↦ ih
      · exact .pure pair.answer (some found)

theorem call_paired (rule : RuleId) (quiet : Bool) (cursor : Cursor) :
    Paired pair pair.answer (Scoped.call setting eval rule quiet cursor)
      (Scoped.call setting' eval' rule quiet (cursor.shift pair.shift)) := by
  unfold Scoped.call
  rw [h.program]
  cases setting.program.rules[rule.index]? with
  | none => exact .throw _
  | some entry =>
    apply (h.observed _ _ fun hshift ↦ by simp [hshift]).bind
    intro _
    apply (heval entry.body ⟨[], quiet⟩ cursor).bind
    rintro (_ | found)
    · exact (h.observed _ _ fun hshift ↦ by simp [hshift]).bind fun _ ↦ .pure pair.answer none
    · apply (changeNode_paired pair found.node fun _ ↦ rfl).bind
      intro _
      exact (h.observed _ _ fun hshift ↦ by simp [hshift]).bind fun _ ↦
        .pure pair.answer (some found)

/-- An operation keeps the runs together when its parts do. -/
theorem step_paired {id : OpId} {op : Op} (hop : setting.program.ops[id.index]? = some op)
    (scope : Scope) (cursor : Cursor) : Paired pair pair.answer
      (Scoped.step setting eval id op scope cursor)
      (Scoped.step setting' eval' id op scope (cursor.shift pair.shift)) := by
  cases op with
  | terminal text => exact literal_paired h id text.toList scope.quiet cursor
  | charClass cls => exact character_paired h id cls.contains scope.quiet cursor
  | anyChar => exact character_paired h id _ scope.quiet cursor
  | sequence ids => exact sequence_paired heval scope.quiet ids cursor
  | choice ids => exact choice_paired heval h scope ids cursor
  | repetition inner least => exact repetition_paired heval inner least scope cursor
  | optional inner =>
    apply (heval inner scope cursor).bind
    rintro (_ | found)
    · exact emptyMatch_paired cursor
    · exact .pure pair.answer (some found)
  | lookahead inner =>
    apply (arenaSize_paired pair).bind
    intro mark
    apply (heval inner scope cursor).bind
    rintro (_ | found)
    · exact .pure pair.answer none
    · exact (truncate_paired pair mark).bind fun _ ↦ emptyMatch_paired cursor
  | negativeLookahead inner =>
    apply (heval inner { scope with quiet := true } cursor).bind
    rintro (_ | found)
    · exact emptyMatch_paired cursor
    · exact .pure pair.answer none
  | predicate hook negated => exact predicate_paired h hop scope.siblings cursor
  | label name inner =>
    apply (heval inner scope cursor).bind
    rintro (_ | found)
    · exact .pure pair.answer none
    · exact (changeNode_paired pair found.node fun _ ↦ rfl).bind fun _ ↦
        .pure pair.answer (some found)
  | call rule => exact call_paired heval h rule scope.quiet cursor

end Parts

/-! ## Nesting -/

namespace Scoped

/-- An operation whose parts are evaluated by `eval`, with nothing counted. A failure drops the nodes
made on the way. -/
def attempt (setting : Setting τ) (eval : Evaluator τ) : Evaluator τ := fun id scope cursor ↦ do
  match setting.program.ops[id.index]? with
  | none => throw .danglingReference
  | some op =>
    let mark ← arenaSize
    let found ← step setting eval id op scope cursor
    if found.isNone then truncate mark
    return found

theorem eval_succ (setting : Setting τ) (levels : Nat) (id : OpId) (scope : Scope)
    (cursor : Cursor) : eval setting (levels + 1) id scope cursor = (do
      spendFuel
      attempt setting (eval setting levels) id scope cursor) := rfl

def matchWith (setting : Setting τ) (eval : Evaluator τ) (rule : RuleId) (consumeAll : Bool)
    (cursor : Cursor) : Work τ (Option Match) := do
  match ← call setting eval rule false cursor with
  | none => return none
  | some found =>
    if consumeAll && !found.after.rest.isEmpty then
      recordFailure found.after.offset .endOfInput
      return none
    return some found

theorem matchRule_eq (setting : Setting τ) (rule : RuleId) (consumeAll : Bool) (cursor : Cursor) :
    matchRule setting rule consumeAll cursor =
      matchWith setting (eval setting setting.depthLimit) rule consumeAll cursor := rfl

end Scoped

section Nesting

variable {pair : Pairing τ τ'} {setting : Setting τ} {setting' : Setting τ'}
  (h : Alongside pair setting setting')

include h

theorem attempt_paired {eval : Scoped.Evaluator τ} {eval' : Scoped.Evaluator τ'}
    (heval : EvalPaired pair eval eval') :
    EvalPaired pair (Scoped.attempt setting eval) (Scoped.attempt setting' eval') := by
  intro id scope cursor
  unfold Scoped.attempt
  rw [h.program]
  cases hop : setting.program.ops[id.index]? with
  | none => exact .throw _
  | some op =>
    apply (arenaSize_paired pair).bind
    intro mark
    apply (step_paired heval h hop scope cursor).bind
    rintro (_ | found)
    · exact (truncate_paired pair mark).bind fun _ ↦ .pure pair.answer none
    · exact .pure pair.answer (some found)

theorem matchWith_paired {eval : Scoped.Evaluator τ} {eval' : Scoped.Evaluator τ'}
    (heval : EvalPaired pair eval eval') (rule : RuleId) (consumeAll : Bool) (cursor : Cursor) :
    Paired pair pair.answer (Scoped.matchWith setting eval rule consumeAll cursor)
      (Scoped.matchWith setting' eval' rule consumeAll (cursor.shift pair.shift)) := by
  apply (call_paired heval h rule false cursor).bind
  rintro (_ | found)
  · exact .pure pair.answer none
  · have hrest : (found.shift pair.shift).after.rest = found.after.rest := rfl
    simp only [Option.map_some, hrest]
    split
    · exact (recordFailure_paired pair _ _).bind fun _ ↦ .pure pair.answer none
    · exact .pure pair.answer (some found)

/-- Where both runs spend alike, evaluations keep them together at any number of levels. -/
theorem eval_paired (hspend : Paired pair id spendFuel spendFuel) (levels : Nat) :
    EvalPaired pair (Scoped.eval setting levels) (Scoped.eval setting' levels) := by
  induction levels with
  | zero =>
    intro id scope cursor
    exact hspend.bind fun _ ↦ .throw _
  | succ levels ih =>
    intro id scope cursor
    rw [Scoped.eval_succ, Scoped.eval_succ]
    exact hspend.bind fun _ ↦ attempt_paired h ih id scope cursor

/-- Where both runs spend alike and may nest as deep, they stay together to the end. -/
theorem matchRule_paired (hspend : Paired pair id spendFuel spendFuel)
    (hlimit : setting'.depthLimit = setting.depthLimit) (rule : RuleId) (consumeAll : Bool)
    (cursor : Cursor) :
    Paired pair pair.answer (Scoped.matchRule setting rule consumeAll cursor)
      (Scoped.matchRule setting' rule consumeAll (cursor.shift pair.shift)) := by
  rw [Scoped.matchRule_eq, Scoped.matchRule_eq, hlimit]
  exact matchWith_paired h (eval_paired h hspend setting.depthLimit) rule consumeAll cursor

end Nesting

/-- Asks the condition of `binding` in `env`. -/
def ask (setting : Setting τ) (hook : Symbol) (binding : Binding) (env : MatchEnv) :
    Work τ Bool := do
  observe setting (.ask binding.key env)
  match binding.condition env with
  | .ok holds => return holds
  | .error message => throw (.predicate (setting.program.symbolText hook) message)

/-- Where the second run is no further right, both ask the same. -/
theorem consult_paired {pair : Pairing τ τ'} {setting : Setting τ} {setting' : Setting τ'}
    (hshift : pair.shift = 0) (hprogram : setting'.program = setting.program)
    (hinput : setting'.input = setting.input) {hook : Symbol}
    (hbound : setting'.predicates[hook.index]?.join = setting.predicates[hook.index]?.join)
    (hobserved : ∀ event, Paired pair id (observe setting event) (observe setting' event))
    (visible : List NodeId) (cursor : Cursor) :
    Paired pair id (consult setting hook visible cursor)
      (consult setting' hook visible (cursor.shift pair.shift)) := by
  unfold consult
  rw [hbound, hprogram, hinput, hshift, Cursor.shift_zero]
  cases setting.predicates[hook.index]?.join with
  | none => exact .throw _
  | some binding =>
    let env (nodes : Arena) : MatchEnv :=
      ⟨setting.program, setting.input, nodes, visible, cursor.offset, cursor.rest⟩
    have hask (nodes : Arena) : Paired pair id (ask setting hook binding (env nodes))
        (ask setting' hook binding (env (nodes.shift pair.shift))) := by
      unfold ask
      rw [hshift, Arena.shift_zero, hprogram]
      apply (hobserved _).bind
      intro _
      cases binding.condition (env nodes) with
      | ok holds => exact .pure id holds
      | error message => exact .throw _
    have hreads := Paired.getNodes_bind (fun nodes ↦ ask setting hook binding (env nodes))
      (fun nodes ↦ ask setting' hook binding (env nodes)) hask
    unfold ask at hreads
    rw [hprogram] at hreads
    exact hreads

end Machine

end PegKit
