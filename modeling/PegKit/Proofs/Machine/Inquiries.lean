import PegKit.Proofs.Machine.Scoped

/-!
# Inquiries of predicates

However a run backtracks, its events tell of every predicate that it comes to. The question is asked
of what is bound to the predicate's own text, and the decision on it comes next. A run ends with an
error about a predicate only for want of a binding to its text, or because the condition bound to it
failed.
-/

namespace PegKit

/-- Some operation of the program is a predicate with the text `hook`. -/
def Program.Asks (program : Program) (hook : String) : Prop :=
  ∃ symbol negated, .predicate symbol negated ∈ program.ops ∧ program.symbolText symbol = hook

/-- The predicate that the error is about. -/
def RuntimeError.hook? : RuntimeError → Option String
  | .unboundPredicate hook => some hook
  | .predicate hook _ => some hook
  | _ => none

namespace Machine

variable {τ α β : Type}

/-! ## A single predicate -/

/-- What asking the predicate `hook` in front of `env` comes to, and what it leaves, where `bound?`
is bound to it. -/
def asked (observe : τ → Event → τ) (hook : String) (bound? : Option Binding) (env : MatchEnv)
    (store : Store τ) : Except RuntimeError Bool × Store τ :=
  match bound? with
  | none => (.error (.unboundPredicate hook), store)
  | some binding =>
    ((binding.condition env).mapError (RuntimeError.predicate hook),
      { store with trace := observe store.trace (.ask binding.key env) })

/-- What the predicate at `op` comes to at `cursor`, and what it leaves, when it has been asked: the
decision is told, and an empty match is made where it passed. -/
def judged (observe : τ → Event → τ) (op : OpId) (negated : Bool) (cursor : Cursor) :
    Except RuntimeError Bool × Store τ → Except RuntimeError (Option Match) × Store τ
  | (.error error, store) => (.error error, store)
  | (.ok holds, store) =>
    let passed := holds != negated
    let told := { store with trace := observe store.trace (.decided op cursor.offset passed) }
    if passed then
      (.ok (some ⟨⟨store.nodes.size⟩, cursor⟩),
        { told with nodes := store.nodes.push (.bare .empty (.emptyAt cursor.offset)) })
    else (.ok none, told)

/-- What is left behind when one evaluation has been counted. -/
def Store.spent (store : Store τ) : Store τ :=
  { store with fuel := store.fuel.map (· - 1) }

section Predicate

variable (setting : Setting τ) (hook : Symbol) (cursor : Cursor) (store : Store τ)

theorem consult_run (visible : List NodeId) :
    (consult setting hook visible cursor).run.run store =
      asked setting.observe (setting.program.symbolText hook)
        setting.predicates[hook.index]?.join
        ⟨setting.program, setting.input, store.nodes, visible, cursor.offset, cursor.rest⟩
        store := by
  have hget : (get : Work τ (Store τ)).run.run store = (.ok store, store) := rfl
  have hobserve (event : Event) : (observe setting event).run.run store =
      (.ok (), { store with trace := setting.observe store.trace event }) := rfl
  unfold consult
  cases setting.predicates[hook.index]?.join with
  | none => rfl
  | some binding =>
    dsimp only
    rw [run_bind_ok hget, run_bind_ok (hobserve _), asked]
    generalize binding.condition _ = answer
    cases answer <;> rfl

theorem predicate_run (op : OpId) (negated : Bool) (visible : List NodeId) :
    (predicate setting op hook negated visible cursor).run.run store =
      judged setting.observe op negated cursor
        (asked setting.observe (setting.program.symbolText hook)
          setting.predicates[hook.index]?.join
          ⟨setting.program, setting.input, store.nodes, visible, cursor.offset, cursor.rest⟩
          store) := by
  have hconsult := consult_run setting hook cursor store visible
  unfold predicate
  generalize asked _ _ _ _ _ = answered at hconsult ⊢
  obtain ⟨answer, store'⟩ := answered
  cases answer with
  | error error => rw [run_bind_error hconsult, judged]
  | ok holds =>
    have hobserve (event : Event) : (observe setting event).run.run store' =
        (.ok (), { store' with trace := setting.observe store'.trace event }) := rfl
    rw [run_bind_ok hconsult, run_bind_ok (hobserve _), judged]
    split <;> rfl

theorem spendFuel_run (h : store.fuel ≠ some 0) :
    (spendFuel : Work τ Unit).run.run store = (.ok (), store.spent) := by
  obtain ⟨nodes, failures, fuel, trace⟩ := store
  match fuel with
  | none => rfl
  | some 0 => exact absurd rfl h
  | some (fuel + 1) => rfl

theorem asked_nodes (observe : τ → Event → τ) (hook : String) (bound? : Option Binding)
    (env : MatchEnv) (store : Store τ) :
    (asked observe hook bound? env store).2.nodes = store.nodes := by
  cases bound? <;> rfl

/-- A predicate is evaluated by asking what is bound to its own symbol. -/
theorem scopedEval_predicate {op : OpId} {negated : Bool}
    (hop : setting.program.ops[op.index]? = some (.predicate hook negated)) (levels : Nat)
    (scope : Scope) (hfuel : store.fuel ≠ some 0) :
    (Scoped.eval setting (levels + 1) op scope cursor).run.run store =
      judged setting.observe op negated cursor
        (asked setting.observe (setting.program.symbolText hook)
          setting.predicates[hook.index]?.join
          ⟨setting.program, setting.input, store.nodes, scope.siblings, cursor.offset,
            cursor.rest⟩
          store.spent) := by
  have hpredicate := predicate_run setting hook cursor store.spent op negated scope.siblings
  have hsize : (arenaSize : Work τ Nat).run.run store.spent = (.ok store.nodes.size, store.spent) :=
    rfl
  have hnodes : (asked setting.observe _ _ _ store.spent).2.nodes = store.nodes :=
    asked_nodes setting.observe (setting.program.symbolText hook)
      setting.predicates[hook.index]?.join
      ⟨setting.program, setting.input, store.spent.nodes, scope.siblings, cursor.offset,
        cursor.rest⟩ store.spent
  rw [Scoped.eval, run_bind_ok (spendFuel_run store hfuel), hop]
  dsimp only
  rw [run_bind_ok hsize, Scoped.step]
  change _ = judged _ _ _ _ (asked _ _ _ ⟨_, _, store.spent.nodes, _, _, _⟩ _)
  generalize asked _ _ _ _ _ = answered at hpredicate hnodes ⊢
  obtain ⟨answer, told⟩ := answered
  cases answer with
  | error error => exact run_bind_error hpredicate
  | ok holds =>
    unfold judged at hpredicate ⊢
    dsimp only at hpredicate hnodes ⊢
    split at hpredicate
    · rw [if_pos ‹_›]
      exact run_bind_ok hpredicate
    · rw [if_neg ‹_›, run_bind_ok hpredicate]
      have hkept : told.nodes.take store.nodes.size = told.nodes := by
        rw [← hnodes, Array.take_eq_extract, Array.extract_size]
      refine (run_bind_ok rfl).trans ?_
      dsimp only
      rw [hkept]
      rfl

/-- The machine evaluates a predicate by asking what is bound to its own symbol, whatever surrounds
it and whatever was left behind before. -/
theorem eval_predicate {op : OpId} {negated : Bool}
    (hop : setting.program.ops[op.index]? = some (.predicate hook negated)) (levels : Nat)
    {around : Stacks} (hdepth : around.depth < setting.depthLimit) (hfuel : store.fuel ≠ some 0) :
    ((eval setting (levels + 1) op cursor).run around).run.run store =
      Prod.map (Except.map (·, around)) id
        (judged setting.observe op negated cursor
          (asked setting.observe (setting.program.symbolText hook)
            setting.predicates[hook.index]?.join
            ⟨setting.program, setting.input, store.nodes, around.visible, cursor.offset,
              cursor.rest⟩
            store.spent)) := by
  obtain ⟨left, hleft⟩ : ∃ left, min (levels + 1) (setting.depthLimit - around.depth) = left + 1 :=
    ⟨min (levels + 1) (setting.depthLimit - around.depth) - 1, by omega⟩
  have hflat := scopedEval_predicate setting hook cursor store hop left around.scope hfuel
  rw [eval_run, hleft, ExceptT.run_map, StateT.run_map, hflat]
  rfl

end Predicate

/-! ## Events of a run -/

/-- The event asks or decides a predicate. -/
def Event.isInquiry : Event → Bool
  | .ask _ _ => true
  | .decided _ _ _ => true
  | _ => false

/-- The predicate at `id`, with the text `hook`, asks in front of `env` what is bound to this
text. -/
structure Asking (program : Program) (input : List Char) (bound? : String → Option Binding)
    (id : OpId) (hook : String) (negated : Bool) (binding : Binding) (env : MatchEnv) : Prop where
  op : ∃ symbol, program.ops[id.index]? = some (.predicate symbol negated) ∧
    program.symbolText symbol = hook
  bound : bound? hook = some binding
  program : env.program = program
  input : env.input = input

/-- The events of a run and how it ends, as far as predicates go, where `bound?` says what is bound
to their texts. Next after a question comes the decision on it, or the run ends with the message of
the condition that failed. -/
inductive Inquiry (program : Program) (input : List Char) (bound? : String → Option Binding) :
    List Event → Except RuntimeError α → Prop
  | done (value : α) : Inquiry program input bound? [] (.ok value)
  | fault {error : RuntimeError} (h : error.hook? = none) :
      Inquiry program input bound? [] (.error error)
  | unbound {hook : String} (asks : program.Asks hook) (hnone : bound? hook = none) :
      Inquiry program input bound? [] (.error (.unboundPredicate hook))
  | refused {id : OpId} {hook : String} {negated : Bool} {binding : Binding} {env : MatchEnv}
      {message : String} (asking : Asking program input bound? id hook negated binding env)
      (answer : binding.condition env = .error message) :
      Inquiry program input bound? [.ask binding.key env] (.error (.predicate hook message))
  | decided {id : OpId} {hook : String} {negated : Bool} {binding : Binding} {env : MatchEnv}
      {holds : Bool} {events : List Event} {result : Except RuntimeError α}
      (asking : Asking program input bound? id hook negated binding env)
      (answer : binding.condition env = .ok holds)
      (others : Inquiry program input bound? events result) :
      Inquiry program input bound?
        (.ask binding.key env :: .decided id env.position (holds != negated) :: events) result
  | other {event : Event} {events : List Event} {result : Except RuntimeError α}
      (plain : event.isInquiry = false) (others : Inquiry program input bound? events result) :
      Inquiry program input bound? (event :: events) result

namespace Inquiry

variable {program : Program} {input : List Char} {bound? : String → Option Binding}
  {events more : List Event} {result : Except RuntimeError α}

theorem append {value : β}
    (h : Inquiry program input bound? events (.ok value : Except RuntimeError β))
    (hmore : Inquiry program input bound? more result) :
    Inquiry program input bound? (events ++ more) result := by
  generalize hended : (.ok value : Except RuntimeError β) = ended at h
  induction h with
  | done => exact hmore
  | fault => cases hended
  | unbound => cases hended
  | refused => cases hended
  | decided asking answer _ ih => exact .decided asking answer (ih hended)
  | other plain _ ih => exact .other plain (ih hended)

theorem error {error : RuntimeError}
    (h : Inquiry program input bound? events (.error error : Except RuntimeError β)) :
    Inquiry program input bound? events (.error error : Except RuntimeError α) := by
  generalize hended : (.error error : Except RuntimeError β) = ended at h
  induction h with
  | done => cases hended
  | fault h =>
    cases hended
    exact .fault h
  | unbound asks hnone =>
    cases hended
    exact .unbound asks hnone
  | refused asking answer =>
    cases hended
    exact .refused asking answer
  | decided asking answer _ ih => exact .decided asking answer (ih hended)
  | other plain _ ih => exact .other plain (ih hended)

theorem map (h : Inquiry program input bound? events result) (change : α → β) :
    Inquiry program input bound? events (result.map change) := by
  cases result with
  | error error => exact h.error
  | ok value => exact List.append_nil events ▸ h.append (.done (change value))

/-- A run that ends with an error about a predicate came to one that is not bound, or asked one whose
condition failed. -/
theorem error_cases {error : RuntimeError}
    (h : Inquiry program input bound? events (.error error : Except RuntimeError α)) :
    error.hook? = none ∨
      (∃ hook, error = .unboundPredicate hook ∧ program.Asks hook ∧ bound? hook = none) ∨
      ∃ id hook negated binding env message, error = .predicate hook message ∧
        Asking program input bound? id hook negated binding env ∧
          binding.condition env = .error message := by
  generalize hended : (.error error : Except RuntimeError α) = ended at h
  induction h with
  | done => cases hended
  | fault h =>
    cases hended
    exact .inl h
  | unbound asks hnone =>
    cases hended
    exact .inr (.inl ⟨_, rfl, asks, hnone⟩)
  | refused asking answer =>
    cases hended
    exact .inr (.inr ⟨_, _, _, _, _, _, rfl, asking, answer⟩)
  | decided _ _ _ ih => exact ih hended
  | other _ _ ih => exact ih hended

/-- A run ends for want of a binding at a predicate whose text has none. -/
theorem unbound_hook {hook : String} (h : Inquiry program input bound? events
    (.error (.unboundPredicate hook) : Except RuntimeError α)) :
    program.Asks hook ∧ bound? hook = none := by
  rcases h.error_cases with hplain | ⟨_, ⟨⟩, hasks, hnone⟩ | ⟨_, _, _, _, _, _, ⟨⟩, _⟩
  · cases hplain
  · exact ⟨hasks, hnone⟩

/-- A run ends with the message of a condition that failed when it was asked. -/
theorem refused_hook {hook message : String} (h : Inquiry program input bound? events
    (.error (.predicate hook message) : Except RuntimeError α)) :
    ∃ id negated binding env, Asking program input bound? id hook negated binding env ∧
      binding.condition env = .error message := by
  rcases h.error_cases with hplain | ⟨_, ⟨⟩, _⟩ | ⟨_, _, _, _, _, _, ⟨⟩, hasking, hanswer⟩
  · cases hplain
  · exact ⟨_, _, _, _, hasking, hanswer⟩

end Inquiry

/-- The binding that the setting has for a predicate is what `bound?` says of its text. -/
def Setting.Binds (setting : Setting τ) (bound? : String → Option Binding) : Prop :=
  ∀ symbol negated, .predicate symbol negated ∈ setting.program.ops →
    setting.predicates[symbol.index]?.join = bound? (setting.program.symbolText symbol)

/-- Whatever was left behind before, the action adds events that go with how it ends. -/
def Inquires (setting : Setting τ) (bound? : String → Option Binding) (action : Work τ α) : Prop :=
  ∀ store : Store τ, ∃ events,
    (action.run.run store).2.trace = events.foldl setting.observe store.trace ∧
      Inquiry setting.program setting.input bound? events (action.run.run store).1

namespace Inquires

variable {setting : Setting τ} {bound? : String → Option Binding} {action : Work τ α}
  {next : α → Work τ β}

theorem pure (value : α) : Inquires setting bound? (Pure.pure value : Work τ α) :=
  fun _ ↦ ⟨[], rfl, .done value⟩

theorem throw {error : RuntimeError} (h : error.hook? = none) :
    Inquires setting bound? (MonadExcept.throw error : Work τ α) :=
  fun _ ↦ ⟨[], rfl, .fault h⟩

/-- A change of what is left behind that keeps the trace. -/
theorem modifyGet {change : Store τ → α × Store τ}
    (h : ∀ store, (change store).2.trace = store.trace) :
    Inquires setting bound? (MonadStateOf.modifyGet change : Work τ α) :=
  fun store ↦ ⟨[], h store, .done _⟩

theorem bind (h : Inquires setting bound? action)
    (hnext : ∀ value, Inquires setting bound? (next value)) :
    Inquires setting bound? (action >>= next) := by
  intro store
  obtain ⟨events, htrace, hevents⟩ := h store
  cases hrun : action.run.run store with
  | mk result store' =>
    rw [hrun] at htrace hevents
    cases result with
    | error error =>
      rw [run_bind_error hrun]
      exact ⟨events, htrace, hevents.error⟩
    | ok value =>
      obtain ⟨more, htrace', hmore⟩ := hnext value store'
      rw [run_bind_ok hrun]
      refine ⟨events ++ more, ?_, hevents.append hmore⟩
      rw [List.foldl_append, htrace', htrace]

end Inquires

/-! ## Actions on what is left behind -/

section Actions

variable {setting : Setting τ} {bound? : String → Option Binding}

theorem observe_inquires {event : Event} (h : event.isInquiry = false) :
    Inquires setting bound? (observe setting event) :=
  fun _ ↦ ⟨[event], rfl, .other h (.done ())⟩

theorem recordFailure_inquires (offset : Nat) (expected : Expected) :
    Inquires setting bound? (recordFailure offset expected) := .modifyGet fun _ ↦ rfl

theorem truncate_inquires (mark : Nat) : Inquires setting bound? (truncate mark) :=
  .modifyGet fun _ ↦ rfl

theorem changeNode_inquires (id : NodeId) (change : Node → Node) :
    Inquires setting bound? (changeNode id change) := .modifyGet fun _ ↦ rfl

theorem push_inquires (node : Node) : Inquires setting bound? (push node) :=
  .modifyGet fun _ ↦ rfl

theorem arenaSize_inquires : Inquires setting bound? arenaSize :=
  fun store ↦ ⟨[], rfl, .done store.nodes.size⟩

theorem spendFuel_inquires : Inquires setting bound? spendFuel := by
  intro store
  by_cases hfuel : store.fuel = some 0
  · obtain ⟨nodes, failures, fuel, trace⟩ := store
    cases hfuel
    exact ⟨[], rfl, .fault rfl⟩
  · rw [spendFuel_run store hfuel]
    exact ⟨[], rfl, .done ()⟩

theorem pushOwner_inquires (kind : NodeKind) (start stop : Cursor) (elements : List NodeId) :
    Inquires setting bound? (pushOwner kind start stop elements) :=
  Inquires.bind (.modifyGet fun _ ↦ rfl) fun _ ↦ (push_inquires _).bind fun _ ↦ .pure _

theorem emptyMatch_inquires (cursor : Cursor) :
    Inquires setting bound? (do return some (← pushEmpty cursor) : Work τ (Option Match)) :=
  Inquires.bind ((push_inquires _).bind fun _ ↦ .pure _) fun _ ↦ .pure _

theorem succeed_inquires (id : OpId) (start stop : Cursor) :
    Inquires setting bound? (succeed setting id start stop) :=
  (observe_inquires rfl).bind fun _ ↦ (push_inquires _).bind fun _ ↦ .pure _

theorem failAt_inquires (id : OpId) (quiet : Bool) (cursor : Cursor) :
    Inquires setting bound? (failAt setting id quiet cursor) := by
  apply (observe_inquires rfl).bind
  intro _
  cases quiet with
  | true => exact .pure none
  | false => exact (recordFailure_inquires _ _).bind fun _ ↦ .pure none

theorem literal_inquires (id : OpId) (text : List Char) (quiet : Bool) (cursor : Cursor) :
    Inquires setting bound? (literal setting id text quiet cursor) := by
  obtain ⟨rest, -, hhit⟩ | ⟨-, hmiss⟩ := literal_cases setting id text quiet cursor
  · exact hhit ▸ succeed_inquires _ _ _
  · exact hmiss ▸ failAt_inquires _ _ _

theorem character_inquires (id : OpId) (accepts : Char → Bool) (quiet : Bool) (cursor : Cursor) :
    Inquires setting bound? (character setting id accepts quiet cursor) := by
  obtain ⟨c, rest, -, -, hhit⟩ | ⟨-, hmiss⟩ := character_cases setting id accepts quiet cursor
  · exact hhit ▸ succeed_inquires _ _ _
  · exact hmiss ▸ failAt_inquires _ _ _

/-- A predicate of the program asks what is bound to its text and tells the decision. -/
theorem predicate_inquires (hbinds : setting.Binds bound?) {id : OpId} {hook : Symbol}
    {negated : Bool} (hop : setting.program.ops[id.index]? = some (.predicate hook negated))
    (visible : List NodeId) (cursor : Cursor) :
    Inquires setting bound? (predicate setting id hook negated visible cursor) := by
  intro store
  have hmem := Array.mem_of_getElem? hop
  have hbound := hbinds hook negated hmem
  rw [predicate_run, hbound]
  cases hbinding : bound? (setting.program.symbolText hook) with
  | none => exact ⟨[], rfl, .unbound ⟨hook, negated, hmem, rfl⟩ hbinding⟩
  | some binding =>
    let env : MatchEnv :=
      ⟨setting.program, setting.input, store.nodes, visible, cursor.offset, cursor.rest⟩
    have hasking : Asking setting.program setting.input bound? id
        (setting.program.symbolText hook) negated binding env :=
      ⟨⟨hook, hop, rfl⟩, hbinding, rfl, rfl⟩
    dsimp only [asked]
    cases hanswer : binding.condition env with
    | error message => exact ⟨[.ask binding.key env], rfl, .refused hasking hanswer⟩
    | ok holds =>
      refine ⟨[.ask binding.key env, .decided id cursor.offset (holds != negated)], ?_, ?_⟩ <;>
        dsimp only [Except.mapError, judged]
      · split <;> rfl
      · split <;> exact .decided hasking hanswer (.done _)

end Actions

/-! ## Operations with parts -/

section Parts

variable {setting : Setting τ} {bound? : String → Option Binding} {eval : Scoped.Evaluator τ}
  (heval : ∀ id scope cursor, Inquires setting bound? (eval id scope cursor))

include heval

theorem items_inquires (quiet : Bool) (ids : List OpId) (elements : List NodeId)
    (cursor : Cursor) : Inquires setting bound? (Scoped.items eval quiet ids elements cursor) := by
  induction ids generalizing elements cursor with
  | nil => exact .pure _
  | cons item rest ih =>
    apply (heval item ⟨elements, quiet⟩ cursor).bind
    intro found
    cases found with
    | none => exact .pure _
    | some hit => exact ih _ _

theorem sequence_inquires (quiet : Bool) (ids : List OpId) (cursor : Cursor) :
    Inquires setting bound? (Scoped.sequence eval quiet ids cursor) := by
  apply (items_inquires heval quiet ids [] cursor).bind
  intro result
  obtain ⟨elements, stop⟩ := result
  cases stop with
  | none => exact .pure none
  | some stop => exact (pushOwner_inquires _ _ _ _).bind fun _ ↦ .pure _

theorem choice_inquires (scope : Scope) (cursor : Cursor) (ids : List OpId) :
    Inquires setting bound? (Scoped.choice setting eval scope cursor ids) := by
  induction ids with
  | nil => exact .pure none
  | cons id rest ih =>
    cases rest with
    | nil => exact heval id scope cursor
    | cons next rest =>
      apply (heval id scope cursor).bind
      intro found
      cases found with
      | none => exact (observe_inquires rfl).bind fun _ ↦ ih
      | some hit => exact .pure _

theorem iterations_inquires (inner : OpId) (scope : Scope) (bound : Nat) (elements : List NodeId)
    (cursor : Cursor) :
    Inquires setting bound? (Scoped.iterations eval inner scope bound elements cursor) := by
  induction bound generalizing elements cursor with
  | zero => exact .pure _
  | succ bound ih =>
    apply (heval inner scope cursor).bind
    intro found
    cases found with
    | none => exact .pure _
    | some hit =>
      dsimp only
      split
      · exact ih _ _
      · exact .pure _

theorem repetition_inquires (inner : OpId) (least : Nat) (scope : Scope) (cursor : Cursor) :
    Inquires setting bound? (Scoped.repetition eval inner least scope cursor) := by
  apply (iterations_inquires heval inner scope _ [] cursor).bind
  intro result
  obtain ⟨elements, stop⟩ := result
  dsimp only
  split
  · exact .pure none
  · exact (pushOwner_inquires _ _ _ _).bind fun _ ↦ .pure _

theorem call_inquires (rule : RuleId) (quiet : Bool) (cursor : Cursor) :
    Inquires setting bound? (Scoped.call setting eval rule quiet cursor) := by
  unfold Scoped.call
  cases setting.program.rules[rule.index]? with
  | none => exact .throw rfl
  | some entry =>
    apply (observe_inquires rfl).bind
    intro _
    apply (heval entry.body ⟨[], quiet⟩ cursor).bind
    intro found
    cases found with
    | none => exact (observe_inquires rfl).bind fun _ ↦ .pure _
    | some hit =>
      exact (changeNode_inquires _ _).bind fun _ ↦ (observe_inquires rfl).bind fun _ ↦ .pure _

/-- One operation of the program, when its parts add events that go with how they end. -/
theorem step_inquires (hbinds : setting.Binds bound?) {id : OpId} {op : Op}
    (hop : setting.program.ops[id.index]? = some op) (scope : Scope) (cursor : Cursor) :
    Inquires setting bound? (Scoped.step setting eval id op scope cursor) := by
  cases op with
  | terminal text => exact literal_inquires _ _ _ _
  | charClass cls => exact character_inquires _ _ _ _
  | anyChar => exact character_inquires _ _ _ _
  | sequence ids => exact sequence_inquires heval scope.quiet ids cursor
  | choice ids => exact choice_inquires heval scope cursor ids
  | repetition inner least => exact repetition_inquires heval inner least scope cursor
  | optional inner =>
    apply (heval inner scope cursor).bind
    intro found
    cases found with
    | none => exact emptyMatch_inquires cursor
    | some hit => exact .pure _
  | lookahead inner =>
    apply arenaSize_inquires.bind
    intro mark
    apply (heval inner scope cursor).bind
    intro found
    cases found with
    | none => exact .pure none
    | some hit => exact (truncate_inquires mark).bind fun _ ↦ emptyMatch_inquires cursor
  | negativeLookahead inner =>
    apply (heval inner { scope with quiet := true } cursor).bind
    intro found
    cases found with
    | none => exact emptyMatch_inquires cursor
    | some hit => exact .pure none
  | predicate hook negated => exact predicate_inquires hbinds hop scope.siblings cursor
  | label name inner =>
    apply (heval inner scope cursor).bind
    intro found
    cases found with
    | none => exact .pure none
    | some hit => exact (changeNode_inquires _ _).bind fun _ ↦ .pure _
  | call rule => exact call_inquires heval rule scope.quiet cursor

end Parts

/-! ## Whole runs -/

section Runs

variable {setting : Setting τ} {bound? : String → Option Binding}
  (hbinds : setting.Binds bound?)

include hbinds

theorem eval_inquires (levels : Nat) (id : OpId) (scope : Scope) (cursor : Cursor) :
    Inquires setting bound? (Scoped.eval setting levels id scope cursor) := by
  induction levels generalizing id scope cursor with
  | zero => exact spendFuel_inquires.bind fun _ ↦ .throw rfl
  | succ levels ih =>
    apply spendFuel_inquires.bind
    intro _
    cases hop : setting.program.ops[id.index]? with
    | none => exact .throw rfl
    | some op =>
      apply arenaSize_inquires.bind
      intro mark
      apply (step_inquires ih hbinds hop scope cursor).bind
      intro found
      cases found with
      | none => exact (truncate_inquires mark).bind fun _ ↦ .pure none
      | some hit => exact .pure _

theorem matchRule_inquires (rule : RuleId) (consumeAll : Bool) (cursor : Cursor) :
    Inquires setting bound? (Scoped.matchRule setting rule consumeAll cursor) := by
  apply (call_inquires (eval_inquires hbinds setting.depthLimit) rule false cursor).bind
  intro found
  cases found with
  | none => exact .pure none
  | some hit =>
    dsimp only
    split
    · exact (recordFailure_inquires _ _).bind fun _ ↦ .pure none
    · exact .pure _

/-- The events of a run go with how it ends. -/
theorem run_inquires (fuel : Option Nat) (trace : τ) (rule : RuleId) (consumeAll : Bool)
    (cursor : Cursor) :
    ∃ events, (run setting fuel trace rule consumeAll cursor).2 =
        events.foldl setting.observe trace ∧
      Inquiry setting.program setting.input bound? events
        (run setting fuel trace rule consumeAll cursor).1 := by
  obtain ⟨events, htrace, hevents⟩ :=
    matchRule_inquires hbinds rule consumeAll cursor ⟨#[], .empty, fuel, trace⟩
  rw [run_eq]
  exact ⟨events, htrace, hevents.map _⟩

end Runs

end Machine

end PegKit
