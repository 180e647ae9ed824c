import PegKit.Proofs.Machine.Failures
import PegKit.Proofs.Machine.Termination

/-!
# Calls and returns in the events of a run

The events of a run as a word of brackets: each return closes the call made last that is still
open, names its rule and its place, and tells where the match of that rule ends. An evaluation that
comes to an answer adds a word in which every call is closed; one that ends with an error leaves
calls open.
-/

namespace PegKit.Machine

open Program (Passes)

variable {τ α β : Type}

/-! ## Words of brackets -/

/-- A rule entered at a place. -/
structure Visit where
  rule : RuleId
  start : Nat
  deriving DecidableEq, Repr

/-- The event enters or leaves a rule. -/
def Event.isBracket : Event → Bool
  | .call _ _ => true
  | .leave _ _ _ => true
  | _ => false

/-- From the visits that are open at first, the innermost one's first, the events lead to those that
are open at last. A return closes the innermost one, and `concludes` holds of what it tells. -/
inductive Brackets (concludes : Visit → Option Nat → Prop) :
    List Visit → List Event → List Visit → Prop
  | done (visits : List Visit) : Brackets concludes visits [] visits
  | call {rule : RuleId} {start : Nat} {visits left : List Visit} {events : List Event}
      (others : Brackets concludes (⟨rule, start⟩ :: visits) events left) :
      Brackets concludes visits (.call rule start :: events) left
  | leave {rule : RuleId} {start : Nat} {stop : Option Nat} {visits left : List Visit}
      {events : List Event} (ends : concludes ⟨rule, start⟩ stop)
      (others : Brackets concludes visits events left) :
      Brackets concludes (⟨rule, start⟩ :: visits) (.leave rule start stop :: events) left
  | other {event : Event} {visits left : List Visit} {events : List Event}
      (plain : event.isBracket = false) (others : Brackets concludes visits events left) :
      Brackets concludes visits (event :: events) left

namespace Brackets

variable {concludes concludes' : Visit → Option Nat → Prop} {visits between left : List Visit}
  {events more : List Event}

theorem append (h : Brackets concludes visits events between)
    (hmore : Brackets concludes between more left) :
    Brackets concludes visits (events ++ more) left := by
  induction h with
  | done => exact hmore
  | call _ ih => exact .call (ih hmore)
  | leave ends _ ih => exact .leave ends (ih hmore)
  | other plain _ ih => exact .other plain (ih hmore)

/-- Any beginning of a word is one. -/
theorem split (h : Brackets concludes visits (events ++ more) left) :
    ∃ between, Brackets concludes visits events between ∧ Brackets concludes between more left := by
  induction events generalizing visits with
  | nil => exact ⟨visits, .done visits, h⟩
  | cons event events ih =>
    cases h with
    | call others =>
      obtain ⟨between, hevents, hmore⟩ := ih others
      exact ⟨between, .call hevents, hmore⟩
    | leave ends others =>
      obtain ⟨between, hevents, hmore⟩ := ih others
      exact ⟨between, .leave ends hevents, hmore⟩
    | other plain others =>
      obtain ⟨between, hevents, hmore⟩ := ih others
      exact ⟨between, .other plain hevents, hmore⟩

/-- Visits further out stay open. -/
theorem within (h : Brackets concludes visits events left) (outer : List Visit) :
    Brackets concludes (visits ++ outer) events (left ++ outer) := by
  induction h with
  | done => exact .done _
  | call _ ih => exact .call ih
  | leave ends _ ih => exact .leave ends ih
  | other plain _ ih => exact .other plain ih

theorem mono (h : Brackets concludes visits events left)
    (hconcludes : ∀ visit stop, concludes visit stop → concludes' visit stop) :
    Brackets concludes' visits events left := by
  induction h with
  | done => exact .done _
  | call _ ih => exact .call ih
  | leave ends _ ih => exact .leave (hconcludes _ _ ends) ih
  | other plain _ ih => exact .other plain ih

/-- Every word can be completed. -/
theorem complete (h : Brackets concludes visits events left) :
    ∃ rest, Brackets (fun _ _ ↦ True) visits (events ++ rest) [] := by
  have hclosing : ∀ visits : List Visit, Brackets (fun _ _ ↦ True) visits
      (visits.map fun visit ↦ .leave visit.rule visit.start none) [] := by
    intro visits
    induction visits with
    | nil => exact .done []
    | cons visit visits ih => exact .leave trivial ih
  exact ⟨_, (h.mono fun _ _ _ ↦ trivial).append (hclosing left)⟩

end Brackets

/-! ## Actions -/

/-- What a return tells of a visit is where the match of its rule ends, with no end where it
failed. -/
def Setting.Concludes (setting : Setting τ) (visit : Visit) (stop : Option Nat) : Prop :=
  ∃ cursor scene yield misses, cursor.LiesIn setting.input ∧ cursor.offset = visit.start ∧
    Tries setting (.rule visit.rule) scene cursor yield misses ∧ stop = yield.map (·.2.offset)

/-- The events of the action are a word that opens `left` at most, and nothing without an error. -/
def Narrates (setting : Setting τ) (action : Work τ α) : Prop :=
  ∀ store : Store τ, ∃ events left,
    (action.run.run store).2.trace = events.foldl setting.observe store.trace ∧
      Brackets setting.Concludes [] events left ∧
        ∀ value, (action.run.run store).1 = .ok value → left = []

/-- The events of a call that comes to `result`: it is recorded first, and its return last, which
tells where the match that was found ends. A call that ends with an error has no return. -/
inductive Surrounds (setting : Setting τ) (visit : Visit) :
    Except RuntimeError (Option Match) → List Event → Prop
  | returns {found : Option Match} {events : List Event}
      (closed : Brackets setting.Concludes [] events []) :
      Surrounds setting visit (.ok found) (.call visit.rule visit.start ::
        (events ++ [.leave visit.rule visit.start (found.map fun hit ↦ hit.after.offset)]))
  | breaks {error : RuntimeError} {events : List Event} {left : List Visit}
      (word : Brackets setting.Concludes [] events left) :
      Surrounds setting visit (.error error) (.call visit.rule visit.start :: events)

variable {setting : Setting τ} {action : Work τ α} {next : α → Work τ β}

namespace Narrates

/-- An action without events. -/
theorem silent (h : ∀ store, (action.run.run store).2.trace = store.trace) :
    Narrates setting action := by
  intro store
  exact ⟨[], [], h store, .done [], fun _ _ ↦ rfl⟩

theorem pure (value : α) : Narrates setting (Pure.pure value : Work τ α) := silent fun _ ↦ rfl

theorem throw (error : RuntimeError) :
    Narrates setting (MonadExcept.throw error : Work τ α) := silent fun _ ↦ rfl

theorem bind (h : Narrates setting action)
    (hnext : ∀ value, Returns action value → Narrates setting (next value)) :
    Narrates setting (action >>= next) := by
  intro store
  obtain ⟨events, left, htrace, hevents, hleft⟩ := h store
  cases hrun : action.run.run store with
  | mk result store' =>
    rw [hrun] at htrace hleft
    cases result with
    | error error =>
      rw [run_bind_error hrun]
      exact ⟨events, left, htrace, hevents, fun _ hok ↦ nomatch hok⟩
    | ok value =>
      obtain ⟨more, left', htrace', hmore, hleft'⟩ := hnext value ⟨store, by rw [hrun]⟩ store'
      rw [hleft value rfl] at hevents
      rw [run_bind_ok hrun]
      refine ⟨events ++ more, left', ?_, hevents.append hmore, hleft'⟩
      rw [List.foldl_append, htrace', htrace]

theorem andThen (h : Narrates setting action) (hnext : ∀ value, Narrates setting (next value)) :
    Narrates setting (action >>= next) := h.bind fun value _ ↦ hnext value

end Narrates

theorem observe_narrates {event : Event} (h : event.isBracket = false) :
    Narrates setting (observe setting event) := by
  intro store
  exact ⟨[event], [], rfl, .other h (.done []), fun _ _ ↦ rfl⟩

theorem push_narrates (node : Node) : Narrates setting (push node) := .silent fun _ ↦ rfl

theorem arenaSize_narrates : Narrates setting arenaSize := .silent fun _ ↦ rfl

theorem truncate_narrates (mark : Nat) : Narrates setting (truncate mark) := .silent fun _ ↦ rfl

theorem changeNode_narrates (id : NodeId) (change : Node → Node) :
    Narrates setting (changeNode id change) := .silent fun _ ↦ rfl

theorem recordFailure_narrates (offset : Nat) (expected : Expected) :
    Narrates setting (recordFailure offset expected) := .silent fun _ ↦ rfl

theorem spendFuel_narrates : Narrates setting spendFuel := by
  apply Narrates.silent
  intro store
  obtain ⟨nodes, failures, fuel, trace⟩ := store
  match fuel with
  | none => rfl
  | some 0 => rfl
  | some (fuel + 1) => rfl

theorem emptyMatch_narrates (cursor : Cursor) :
    Narrates setting (do return some (← pushEmpty cursor) : Work τ (Option Match)) :=
  .silent fun _ ↦ rfl

theorem owner_narrates (kind : NodeKind) (start stop : Cursor) (elements : List NodeId) :
    Narrates setting
      (do return some (← pushOwner kind start stop elements) : Work τ (Option Match)) :=
  .silent fun _ ↦ rfl

theorem succeed_narrates (id : OpId) (start stop : Cursor) :
    Narrates setting (succeed setting id start stop) :=
  (observe_narrates rfl).andThen fun _ ↦ (push_narrates _).andThen fun _ ↦ .pure _

theorem failAt_narrates (id : OpId) (quiet : Bool) (cursor : Cursor) :
    Narrates setting (failAt setting id quiet cursor) := by
  apply (observe_narrates rfl).andThen
  intro _
  cases quiet with
  | true => exact .pure none
  | false => exact (recordFailure_narrates _ _).andThen fun _ ↦ .pure none

theorem literal_narrates (id : OpId) (text : List Char) (quiet : Bool) (cursor : Cursor) :
    Narrates setting (literal setting id text quiet cursor) := by
  obtain ⟨rest, -, hhit⟩ | ⟨-, hmiss⟩ := literal_cases setting id text quiet cursor
  · exact hhit ▸ succeed_narrates _ _ _
  · exact hmiss ▸ failAt_narrates _ _ _

theorem character_narrates (id : OpId) (accepts : Char → Bool) (quiet : Bool) (cursor : Cursor) :
    Narrates setting (character setting id accepts quiet cursor) := by
  obtain ⟨c, rest, -, -, hhit⟩ | ⟨-, hmiss⟩ := character_cases setting id accepts quiet cursor
  · exact hhit ▸ succeed_narrates _ _ _
  · exact hmiss ▸ failAt_narrates _ _ _

theorem consult_narrates (hook : Symbol) (visible : List NodeId) (cursor : Cursor) :
    Narrates setting (consult setting hook visible cursor) := by
  unfold consult
  split
  · exact .throw _
  · apply Narrates.andThen (.silent fun _ ↦ rfl)
    intro store
    apply (observe_narrates rfl).andThen
    intro _
    split
    · exact .pure _
    · exact .throw _

theorem predicate_narrates (id : OpId) (hook : Symbol) (negated : Bool) (visible : List NodeId)
    (cursor : Cursor) : Narrates setting (predicate setting id hook negated visible cursor) := by
  apply (consult_narrates hook visible cursor).andThen
  intro holds
  apply (observe_narrates rfl).andThen
  intro _
  split
  · exact emptyMatch_narrates cursor
  · exact .pure none

/-! ## Calls -/

/-- The match ends where what should be yielded does. -/
theorem Leaves.stop {yields : Program.Yield → Prop} {nodes nodes' : Arena} {found : Option Match}
    (h : Leaves yields nodes found nodes') :
    ∃ yield, yields yield ∧
      (found.map fun hit ↦ hit.after.offset) = yield.map fun hit ↦ hit.2.offset := by
  cases found with
  | none => exact ⟨none, h.1, rfl⟩
  | some hit =>
    obtain ⟨tree, hyields, -⟩ := h
    exact ⟨some (tree, hit.after), hyields, rfl⟩

section Calls

variable {setting : Setting τ} {eval : Scoped.Evaluator τ} {rule : RuleId} {entry : RuleEntry}
  {quiet : Bool} {cursor : Cursor} {store after : Store τ}

/-- What is left behind when `rule` has just been entered. -/
def entered (setting : Setting τ) (rule : RuleId) (cursor : Cursor) (store : Store τ) : Store τ :=
  { store with trace := setting.observe store.trace (.call rule cursor.offset) }

/-- What is left behind when `rule`, entered at `cursor`, has returned what it found. -/
def returned (setting : Setting τ) (rule : RuleId) (cursor : Cursor) (found : Option Match)
    (store : Store τ) : Store τ :=
  { store with
    nodes := match found with
      | none => store.nodes
      | some hit => store.nodes.modify hit.node.index ({ · with rule := some rule })
    trace := setting.observe store.trace
      (.leave rule cursor.offset (found.map fun hit ↦ hit.after.offset)) }

/-- A call whose body ends with an error has no return; any other return tells where the match of
the body ends. -/
theorem call_run_eq (hentry : setting.program.rules[rule.index]? = some entry)
    {result : Except RuntimeError (Option Match)}
    (hbody : (eval entry.body ⟨[], quiet⟩ cursor).run.run (entered setting rule cursor store) =
      (result, after)) :
    (Scoped.call setting eval rule quiet cursor).run.run store =
      match result with
      | .error error => (.error error, after)
      | .ok found => (.ok found, returned setting rule cursor found after) := by
  have hobserve : (observe setting (.call rule cursor.offset)).run.run store =
      (.ok (), entered setting rule cursor store) := rfl
  unfold Scoped.call
  rw [hentry]
  dsimp only
  rw [run_bind_ok hobserve]
  cases result with
  | error error => rw [run_bind_error hbody]
  | ok found =>
    rw [run_bind_ok hbody]
    cases found <;> rfl

end Calls

/-! ## Operations with parts -/

/-- What an evaluation of operations has to do: its events are a word of brackets, and what it
yields is what it should yield. -/
structure Narrator (setting : Setting τ) (eval : Scoped.Evaluator τ) : Prop where
  narrates : ∀ id scope {cursor}, cursor.LiesIn setting.input →
    Narrates setting (eval id scope cursor)
  accounts : Accounts setting eval
  passes : ∀ {id scope cursor hit}, Returns (eval id scope cursor) (some hit) →
    Passes cursor hit.after

section Parts

variable {eval : Scoped.Evaluator τ} (heval : Narrator setting eval) {cursor : Cursor}

include heval

theorem items_narrates (quiet : Bool) (ids : List OpId) (elements : List NodeId)
    (hcursor : cursor.LiesIn setting.input) :
    Narrates setting (Scoped.items eval quiet ids elements cursor) := by
  induction ids generalizing elements cursor with
  | nil => exact .pure _
  | cons item rest ih =>
    apply (heval.narrates item ⟨elements, quiet⟩ hcursor).bind
    intro found hfound
    cases found with
    | none => exact .pure _
    | some hit => exact ih _ ((heval.passes hfound).liesIn hcursor)

theorem sequence_narrates (quiet : Bool) (ids : List OpId)
    (hcursor : cursor.LiesIn setting.input) :
    Narrates setting (Scoped.sequence eval quiet ids cursor) := by
  apply (items_narrates heval quiet ids [] hcursor).andThen
  intro result
  obtain ⟨elements, stop⟩ := result
  cases stop with
  | none => exact .pure none
  | some stop => exact owner_narrates _ _ _ _

theorem choice_narrates (scope : Scope) (ids : List OpId) (hcursor : cursor.LiesIn setting.input) :
    Narrates setting (Scoped.choice setting eval scope cursor ids) := by
  induction ids with
  | nil => exact .pure none
  | cons id rest ih =>
    cases rest with
    | nil => exact heval.narrates id scope hcursor
    | cons next rest =>
      apply (heval.narrates id scope hcursor).andThen
      intro found
      cases found with
      | none => exact (observe_narrates rfl).andThen fun _ ↦ ih
      | some hit => exact .pure _

theorem iterations_narrates (inner : OpId) (scope : Scope) (bound : Nat) (elements : List NodeId)
    (hcursor : cursor.LiesIn setting.input) :
    Narrates setting (Scoped.iterations eval inner scope bound elements cursor) := by
  induction bound generalizing elements cursor with
  | zero => exact .pure _
  | succ bound ih =>
    apply (heval.narrates inner scope hcursor).bind
    intro found hfound
    cases found with
    | none => exact .pure _
    | some hit =>
      dsimp only
      split
      · exact ih _ ((heval.passes hfound).liesIn hcursor)
      · exact .pure _

theorem repetition_narrates (inner : OpId) (least : Nat) (scope : Scope)
    (hcursor : cursor.LiesIn setting.input) :
    Narrates setting (Scoped.repetition eval inner least scope cursor) := by
  apply (iterations_narrates heval inner scope _ [] hcursor).andThen
  intro result
  obtain ⟨elements, stop⟩ := result
  dsimp only
  split
  · exact .pure none
  · exact owner_narrates _ _ _ _

/-- What a call comes to is what its rule comes to there. -/
theorem call_concludes {rule : RuleId} {quiet : Bool} {store after : Store τ} {found : Option Match}
    (hcursor : cursor.LiesIn setting.input)
    (h : (Scoped.call setting eval rule quiet cursor).run.run store = (.ok found, after)) :
    setting.Concludes ⟨rule, cursor.offset⟩ (found.map fun hit ↦ hit.after.offset) := by
  let scene : Scene := ⟨store.nodes, 0, []⟩
  have hleads : Leads scene.nodes store.failures (Scoped.call setting eval rule quiet cursor)
      (Reports (Tries setting (.rule rule) scene cursor) quiet scene.nodes store.failures) :=
    call_leads heval.accounts rule cursor
  have hreports := hleads store rfl rfl found
  rw [h] at hreports
  obtain ⟨misses, hleaves, -⟩ := hreports rfl
  obtain ⟨yield, htries, hstop⟩ := hleaves.stop
  exact ⟨cursor, scene, yield, misses, hcursor, rfl, htries, hstop⟩

/-- A call adds its two brackets around the word of the body. -/
theorem call_surrounds {rule : RuleId} {entry : RuleEntry}
    (hentry : setting.program.rules[rule.index]? = some entry) (quiet : Bool)
    (hcursor : cursor.LiesIn setting.input) (store : Store τ) :
    ∃ events, ((Scoped.call setting eval rule quiet cursor).run.run store).2.trace =
        events.foldl setting.observe store.trace ∧
      Surrounds setting ⟨rule, cursor.offset⟩
        ((Scoped.call setting eval rule quiet cursor).run.run store).1 events := by
  have hnarrates := heval.narrates entry.body ⟨[], quiet⟩ hcursor
  obtain ⟨inner, left, htrace, hinner, hleft⟩ := hnarrates (entered setting rule cursor store)
  generalize hbody : (eval entry.body ⟨[], quiet⟩ cursor).run.run _ = ended at htrace hleft
  obtain ⟨result, after⟩ := ended
  rw [call_run_eq hentry hbody]
  cases result with
  | error error => exact ⟨.call rule cursor.offset :: inner, htrace, .breaks hinner⟩
  | ok found =>
    rw [hleft found rfl] at hinner
    refine ⟨_, ?_, .returns hinner⟩
    rw [List.foldl_cons, List.foldl_concat]
    exact congrArg (setting.observe · _) htrace

theorem call_narrates (rule : RuleId) (quiet : Bool) (hcursor : cursor.LiesIn setting.input) :
    Narrates setting (Scoped.call setting eval rule quiet cursor) := by
  intro store
  cases hentry : setting.program.rules[rule.index]? with
  | none =>
    unfold Scoped.call
    rw [hentry]
    exact Narrates.throw _ store
  | some entry =>
    have hconcludes := @call_concludes _ _ _ heval cursor rule quiet store
    obtain ⟨events, htrace, hevents⟩ := call_surrounds heval hentry quiet hcursor store
    generalize (Scoped.call setting eval rule quiet cursor).run.run store = ended
      at hconcludes htrace hevents
    obtain ⟨result, after⟩ := ended
    cases hevents with
    | @returns found inner closed =>
      have hreturn := hconcludes hcursor rfl
      have hopened := closed.within [⟨rule, cursor.offset⟩]
      exact ⟨_, [], htrace, .call (hopened.append (.leave hreturn (.done []))), fun _ _ ↦ rfl⟩
    | @breaks error inner left word =>
      have hopened := word.within [⟨rule, cursor.offset⟩]
      exact ⟨_, _, htrace, .call hopened, fun _ hok ↦ nomatch hok⟩

/-- An operation's events are a word of brackets when its parts' are. -/
theorem step_narrates (id : OpId) (op : Op) (scope : Scope)
    (hcursor : cursor.LiesIn setting.input) :
    Narrates setting (Scoped.step setting eval id op scope cursor) := by
  cases op with
  | terminal text => exact literal_narrates id text.toList scope.quiet cursor
  | charClass cls => exact character_narrates id cls.contains scope.quiet cursor
  | anyChar => exact character_narrates id _ scope.quiet cursor
  | sequence ids => exact sequence_narrates heval scope.quiet ids hcursor
  | choice ids => exact choice_narrates heval scope ids hcursor
  | repetition inner least => exact repetition_narrates heval inner least scope hcursor
  | optional inner =>
    apply (heval.narrates inner scope hcursor).andThen
    intro found
    cases found with
    | none => exact emptyMatch_narrates cursor
    | some hit => exact .pure (some hit)
  | lookahead inner =>
    apply arenaSize_narrates.andThen
    intro mark
    apply (heval.narrates inner scope hcursor).andThen
    intro found
    cases found with
    | none => exact .pure none
    | some hit => exact (truncate_narrates mark).andThen fun _ ↦ emptyMatch_narrates cursor
  | negativeLookahead inner =>
    apply (heval.narrates inner { scope with quiet := true } hcursor).andThen
    intro found
    cases found with
    | none => exact emptyMatch_narrates cursor
    | some hit => exact .pure none
  | predicate hook negated => exact predicate_narrates id hook negated scope.siblings cursor
  | label name inner =>
    apply (heval.narrates inner scope hcursor).andThen
    intro found
    cases found with
    | none => exact .pure none
    | some hit => exact (changeNode_narrates _ _).andThen fun _ ↦ .pure (some hit)
  | call rule => exact call_narrates heval rule scope.quiet hcursor

end Parts

/-! ## Whole runs -/

theorem eval_narrator (setting : Setting τ) (levels : Nat) :
    Narrator setting (Scoped.eval setting levels) := by
  refine ⟨?_, eval_accounts setting levels, scopedEval_passes⟩
  induction levels with
  | zero =>
    intro id scope cursor _
    exact spendFuel_narrates.andThen fun _ ↦ .throw _
  | succ levels ih =>
    intro id scope cursor hcursor
    have hparts : Narrator setting (Scoped.eval setting levels) :=
      ⟨ih, eval_accounts setting levels, scopedEval_passes⟩
    rw [Scoped.eval]
    apply spendFuel_narrates.andThen
    intro _
    cases setting.program.ops[id.index]? with
    | none => exact .throw _
    | some op =>
      apply arenaSize_narrates.andThen
      intro mark
      apply (step_narrates hparts id op scope hcursor).andThen
      intro found
      cases found with
      | none => exact (truncate_narrates mark).andThen fun _ ↦ .pure none
      | some hit => exact .pure (some hit)

/-- Every call that the machine makes adds its own brackets, whatever surrounds it and whatever was
left behind before. -/
theorem machineCall_surrounds (setting : Setting τ) (levels : Nat) {rule : RuleId}
    (hrule : rule.index < setting.program.rules.size) {cursor : Cursor}
    (hcursor : cursor.LiesIn setting.input) (around : Stacks) (store : Store τ) :
    let ended := ((call setting (eval setting levels) rule cursor).run around).run.run store
    ∃ events, ended.2.trace = events.foldl setting.observe store.trace ∧
      Surrounds setting ⟨rule, cursor.offset⟩ (ended.1.map Prod.fst) events := by
  let flat := Scoped.eval setting (min levels (setting.depthLimit - around.depth))
  have hagrees : Agrees around.depth (eval setting levels) flat := by
    intro id cursor inner hdepth
    rw [eval_run, hdepth]
  have hnarrator : Narrator setting flat := eval_narrator setting _
  have hevents := call_surrounds hnarrator (Array.getElem?_eq_getElem hrule) around.quiet hcursor
    store
  dsimp only
  rw [call_run hagrees setting rule cursor around rfl, ExceptT.run_map, StateT.run_map]
  generalize (Scoped.call setting flat rule around.quiet cursor).run.run store = ended at hevents ⊢
  obtain ⟨result, after⟩ := ended
  cases result with
  | error error => exact hevents
  | ok found => exact hevents

theorem matchRule_narrates (setting : Setting τ) (rule : RuleId) (consumeAll : Bool)
    {cursor : Cursor} (hcursor : cursor.LiesIn setting.input) :
    Narrates setting (Scoped.matchRule setting rule consumeAll cursor) := by
  apply (call_narrates (eval_narrator setting setting.depthLimit) rule false hcursor).andThen
  intro found
  cases found with
  | none => exact .pure none
  | some hit =>
    dsimp only
    split
    · exact (recordFailure_narrates _ _).andThen fun _ ↦ .pure none
    · exact .pure (some hit)

/-- What a run makes of its trace are events that open `left` at most, and nothing without an
error. -/
theorem run_narrates (setting : Setting τ) (fuel : Option Nat) (trace : τ) (rule : RuleId)
    (consumeAll : Bool) {cursor : Cursor} (hcursor : cursor.LiesIn setting.input) :
    ∃ events left,
      (run setting fuel trace rule consumeAll cursor).2 = events.foldl setting.observe trace ∧
        Brackets setting.Concludes [] events left ∧
          ∀ outcome, (run setting fuel trace rule consumeAll cursor).1 = .ok outcome →
            left = [] := by
  obtain ⟨events, left, htrace, hevents, hleft⟩ :=
    matchRule_narrates setting rule consumeAll hcursor ⟨#[], .empty, fuel, trace⟩
  rw [run_eq]
  generalize (Scoped.matchRule setting rule consumeAll cursor).run.run _ = ended at htrace hleft ⊢
  obtain ⟨result, store⟩ := ended
  refine ⟨events, left, htrace, hevents, ?_⟩
  intro outcome hok
  cases result with
  | error error => cases hok
  | ok found => exact hleft found rfl

end PegKit.Machine
