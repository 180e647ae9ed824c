import Mathlib.Data.List.MinMax
import PegKit.Proofs.Machine.Backtracking

/-!
# Runs end

The machine descends over levels of nesting and bounds every repetition by the characters that are
left. Neither bound ever decides how a run goes: beyond the limit on nesting one more level changes
nothing, and a repetition always ends by itself, after a failure or after a match that consumes
nothing. How many evaluations a run takes is told by its budget, which every evaluation spends one
unit of. It is bounded by the table of operations, the limit on nesting and the characters left.
-/

namespace PegKit

/-! ## The bound -/

/-- The most parts that are evaluated for an operation where `left` characters are left. -/
def Op.breadth (left : Nat) : Op → Nat
  | .sequence items => items.length
  | .choice alternatives => alternatives.length
  | .repetition _ _ => left + 1
  | .optional _ => 1
  | .lookahead _ => 1
  | .negativeLookahead _ => 1
  | .label _ _ => 1
  | .call _ => 1
  | .terminal _ => 0
  | .charClass _ => 0
  | .anyChar => 0
  | .predicate _ _ => 0

namespace Program

/-- The most parts that are evaluated for any operation of the table. -/
def breadth (program : Program) (left : Nat) : Nat :=
  (program.ops.toList.map (Op.breadth left)).foldr max 0

/-- The most evaluations where `levels` of them may nest: one, and those of its parts. -/
def evaluationBound (program : Program) (left : Nat) : Nat → Nat
  | 0 => 1
  | levels + 1 => 1 + program.breadth left * evaluationBound program left levels

theorem breadth_le {program : Program} {id : OpId} {op : Op}
    (h : program.ops[id.index]? = some op) (left : Nat) :
    op.breadth left ≤ program.breadth left := by
  have hmem : op ∈ program.ops.toList := Array.mem_toList_iff.mpr (Array.mem_of_getElem? h)
  exact List.le_max_of_le' 0 (List.mem_map_of_mem hmem) (Nat.le_refl _)

theorem evaluationBound_pos (program : Program) (left levels : Nat) :
    1 ≤ program.evaluationBound left levels := by
  cases levels with
  | zero => exact Nat.le_refl 1
  | succ levels => exact Nat.le_add_right 1 _

end Program

namespace Machine

open Program (Passes)

variable {τ α β : Type}

/-! ## Counting evaluations -/

/-- From `store`, which has no limit, the action spends `count` units of the budget: with as many or
more it does the same, and with fewer it ends for want of them. -/
structure Counted (action : Work τ α) (store : Store τ) (count : Nat) : Prop where
  unlimited : (action.run.run store).2.fuel = none
  spared : (action.run.run store).1 ≠ .error .execFuelExhausted
  enough : ∀ left, action.run.run { store with fuel := some (count + left) } =
    ((action.run.run store).1, { (action.run.run store).2 with fuel := some left })
  short : ∀ fuel < count,
    (action.run.run { store with fuel := some fuel }).1 = .error .execFuelExhausted

/-- The action always spends at most `most` units of the budget. -/
def Spends (most : Nat) (action : Work τ α) : Prop :=
  ∀ store : Store τ, store.fuel = none → ∃ count ≤ most, Counted action store count

/-- The action may return `value`. -/
def Returns (action : Work τ α) (value : α) : Prop :=
  ∃ store : Store τ, (action.run.run store).1 = .ok value

namespace Spends

variable {most most' : Nat} {action : Work τ α} {next : α → Work τ β}

theorem mono (h : Spends most action) (hle : most ≤ most') : Spends most' action := by
  intro store hstore
  obtain ⟨count, hcount, hcounted⟩ := h store hstore
  exact ⟨count, hcount.trans hle, hcounted⟩

theorem pure (value : α) : Spends most (Pure.pure value : Work τ α) := by
  intro store hstore
  refine ⟨0, Nat.zero_le _, hstore, by rintro ⟨⟩, fun left ↦ ?_, by rintro _ ⟨⟩⟩
  rw [Nat.zero_add]
  rfl

theorem throw {error : RuntimeError} (h : error ≠ .execFuelExhausted) :
    Spends most (MonadExcept.throw error : Work τ α) := by
  intro store hstore
  refine ⟨0, Nat.zero_le _, hstore, ?_, fun left ↦ ?_, by rintro _ ⟨⟩⟩
  · rintro ⟨⟩
    exact h rfl
  · rw [Nat.zero_add]
    rfl

/-- A change of what is left behind that does not see the budget. -/
theorem modifyGet {change : Store τ → α × Store τ}
    (h : ∀ store fuel, change { store with fuel } =
      ((change store).1, { (change store).2 with fuel })) :
    Spends most (MonadStateOf.modifyGet change : Work τ α) := by
  intro store hstore
  refine ⟨0, Nat.zero_le _, ?_, by rintro ⟨⟩, fun left ↦ ?_, by rintro _ ⟨⟩⟩
  · exact (congrArg (·.2.fuel) (h store store.fuel)).trans hstore
  · rw [Nat.zero_add]
    exact congrArg (fun result ↦ (Except.ok result.1, result.2)) (h store (some left))

theorem bind (h : Spends most action)
    (hnext : ∀ value, Returns action value → Spends most' (next value)) :
    Spends (most + most') (action >>= next) := by
  intro store hstore
  obtain ⟨count, hcount, hunlimited, hspared, henough, hshort⟩ := h store hstore
  have hfewer : ∀ fuel < count,
      ((action >>= next).run.run { store with fuel := some fuel }).1 =
        .error .execFuelExhausted := by
    intro fuel hfuel
    have hfirst := hshort fuel hfuel
    cases hlimited : action.run.run { store with fuel := some fuel } with
    | mk result store' =>
      rw [hlimited] at hfirst
      obtain rfl : result = .error .execFuelExhausted := hfirst
      rw [run_bind_error hlimited]
  cases hrun : action.run.run store with
  | mk result store' =>
    rw [hrun] at hunlimited hspared henough
    cases result with
    | error error =>
      have hwhole : (action >>= next).run.run store = (.error error, store') :=
        run_bind_error hrun
      refine ⟨count, hcount.trans (Nat.le_add_right _ _), ?_, ?_, fun left ↦ ?_, hfewer⟩
      · rw [hwhole]
        exact hunlimited
      · rw [hwhole]
        rintro ⟨⟩
        exact hspared rfl
      · rw [hwhole, run_bind_error (henough left)]
    | ok value =>
      have hwhole : (action >>= next).run.run store = (next value).run.run store' :=
        run_bind_ok hrun
      obtain ⟨more, hmore, hunlimited', hspared', henough', hshort'⟩ :=
        hnext value ⟨store, by rw [hrun]⟩ store' hunlimited
      refine ⟨count + more, Nat.add_le_add hcount hmore, ?_, ?_, fun left ↦ ?_, fun fuel hfuel ↦ ?_⟩
      · rw [hwhole]
        exact hunlimited'
      · rw [hwhole]
        exact hspared'
      · rw [hwhole, Nat.add_assoc, run_bind_ok (henough (more + left))]
        exact henough' left
      -- Short of the first count the first action fails; beyond it, what is left is short of the
      -- second count.
      · rcases Nat.lt_or_ge fuel count with hless | hmany
        · exact hfewer fuel hless
        · obtain ⟨rest, rfl⟩ := Nat.exists_eq_add_of_le hmany
          rw [run_bind_ok (henough rest)]
          exact hshort' rest (Nat.lt_of_add_lt_add_left hfuel)

/-- What is read of what is left behind is not the budget. -/
theorem get_bind {next : Store τ → Work τ α}
    (hblind : ∀ store fuel, next { store with fuel } = next store)
    (hnext : ∀ store, Spends most (next store)) :
    Spends most ((get : Work τ (Store τ)) >>= next) := by
  intro store hstore
  have hread (store : Store τ) :
      ((get : Work τ (Store τ)) >>= next).run.run store = (next store).run.run store := rfl
  obtain ⟨count, hcount, hunlimited, hspared, henough, hshort⟩ := hnext store store hstore
  refine ⟨count, hcount, hunlimited, hspared, fun left ↦ ?_, fun fuel hfuel ↦ ?_⟩
  · rw [hread, hread, hblind]
    exact henough left
  · rw [hread, hblind]
    exact hshort fuel hfuel

/-- An action that spends nothing comes first. -/
theorem andThen (h : Spends 0 action) (hnext : ∀ value, Spends most (next value)) :
    Spends most (action >>= next) :=
  (h.bind fun value _ ↦ hnext value).mono (Nat.zero_add _).le

end Spends

theorem observe_spends (setting : Setting τ) (event : Event) :
    Spends 0 (observe setting event) := Spends.modifyGet fun _ _ ↦ rfl

theorem recordFailure_spends (offset : Nat) (expected : Expected) :
    Spends 0 (recordFailure offset expected : Work τ Unit) := Spends.modifyGet fun _ _ ↦ rfl

theorem truncate_spends (mark : Nat) : Spends 0 (truncate mark : Work τ Unit) :=
  Spends.modifyGet fun _ _ ↦ rfl

theorem changeNode_spends (id : NodeId) (change : Node → Node) :
    Spends 0 (changeNode id change : Work τ Unit) := Spends.modifyGet fun _ _ ↦ rfl

theorem push_spends (node : Node) : Spends 0 (push node : Work τ NodeId) :=
  Spends.modifyGet fun _ _ ↦ rfl

theorem arenaSize_spends : Spends 0 (arenaSize : Work τ Nat) :=
  @Spends.modifyGet _ _ _ (fun store ↦ (store.nodes.size, store)) fun _ _ ↦ rfl

theorem spendFuel_spends : Spends 1 (spendFuel : Work τ Unit) := by
  rintro ⟨nodes, failures, _, trace⟩ rfl
  refine ⟨1, Nat.le_refl _, rfl, by rintro ⟨⟩, fun left ↦ ?_, fun fuel hfuel ↦ ?_⟩
  · rw [Nat.add_comm]
    rfl
  · obtain rfl : fuel = 0 := Nat.lt_one_iff.mp hfuel
    rfl

theorem pushEmpty_spends (cursor : Cursor) : Spends 0 (pushEmpty cursor : Work τ Match) :=
  (push_spends _).andThen fun _ ↦ Spends.pure _

theorem pushOwner_spends (kind : NodeKind) (start stop : Cursor) (elements : List NodeId) :
    Spends 0 (pushOwner kind start stop elements : Work τ Match) :=
  Spends.andThen (Spends.modifyGet fun _ _ ↦ rfl) fun _ ↦
    (push_spends _).andThen fun _ ↦ Spends.pure _

theorem emptyMatch_spends (cursor : Cursor) :
    Spends 0 (do return some (← pushEmpty cursor) : Work τ (Option Match)) :=
  (pushEmpty_spends cursor).andThen fun _ ↦ Spends.pure _

theorem succeed_spends (setting : Setting τ) (id : OpId) (start stop : Cursor) :
    Spends 0 (succeed setting id start stop) :=
  (observe_spends _ _).andThen fun _ ↦ (push_spends _).andThen fun _ ↦ Spends.pure _

theorem failAt_spends (setting : Setting τ) (id : OpId) (quiet : Bool) (cursor : Cursor) :
    Spends 0 (failAt setting id quiet cursor) := by
  apply (observe_spends _ _).andThen
  intro _
  cases quiet with
  | true => exact Spends.pure none
  | false => exact (recordFailure_spends _ _).andThen fun _ ↦ Spends.pure none

theorem literal_spends (setting : Setting τ) (id : OpId) (text : List Char) (quiet : Bool)
    (cursor : Cursor) : Spends 0 (literal setting id text quiet cursor) := by
  obtain ⟨rest, -, hhit⟩ | ⟨-, hmiss⟩ := literal_cases setting id text quiet cursor
  · exact hhit ▸ succeed_spends _ _ _ _
  · exact hmiss ▸ failAt_spends _ _ _ _

theorem character_spends (setting : Setting τ) (id : OpId) (accepts : Char → Bool) (quiet : Bool)
    (cursor : Cursor) : Spends 0 (character setting id accepts quiet cursor) := by
  obtain ⟨c, rest, -, -, hhit⟩ | ⟨-, hmiss⟩ := character_cases setting id accepts quiet cursor
  · exact hhit ▸ succeed_spends _ _ _ _
  · exact hmiss ▸ failAt_spends _ _ _ _

/-- Conditions do not see the budget. -/
theorem consult_spends (setting : Setting τ) (hook : Symbol) (visible : List NodeId)
    (cursor : Cursor) : Spends 0 (consult setting hook visible cursor) := by
  unfold consult
  cases setting.predicates[hook.index]?.join with
  | none => exact Spends.throw (by rintro ⟨⟩)
  | some binding =>
    apply Spends.get_bind fun _ _ ↦ rfl
    intro store
    apply (observe_spends _ _).andThen
    intro _
    split
    · exact Spends.pure _
    · exact Spends.throw (by rintro ⟨⟩)

theorem predicate_spends (setting : Setting τ) (id : OpId) (hook : Symbol) (negated : Bool)
    (visible : List NodeId) (cursor : Cursor) :
    Spends 0 (predicate setting id hook negated visible cursor) := by
  apply (consult_spends setting hook visible cursor).andThen
  intro holds
  apply (observe_spends _ _).andThen
  intro _
  split
  · exact emptyMatch_spends cursor
  · exact Spends.pure none

/-! ## Operations with parts -/

/-- Where at most `left` characters are left, an evaluation spends at most `most`. Its matches only
read forward. -/
structure Thrifty (left most : Nat) (eval : Scoped.Evaluator τ) : Prop where
  spends : ∀ id scope cursor, cursor.rest.length ≤ left → Spends most (eval id scope cursor)
  passes : ∀ {id scope cursor hit}, Returns (eval id scope cursor) (some hit) →
    Passes cursor hit.after

section Parts

variable {eval : Scoped.Evaluator τ} {left most : Nat} {cursor : Cursor}

theorem items_spends (heval : Thrifty left most eval) (quiet : Bool) (ids : List OpId)
    (elements : List NodeId) (hleft : cursor.rest.length ≤ left) :
    Spends (ids.length * most) (Scoped.items eval quiet ids elements cursor) := by
  induction ids generalizing elements cursor with
  | nil => exact Spends.pure _
  | cons item rest ih =>
    rw [List.length_cons, Nat.add_one_mul, Nat.add_comm]
    apply (heval.spends item ⟨elements, quiet⟩ cursor hleft).bind
    rintro (_ | hit) hhit
    · exact Spends.pure _
    · exact ih _ ((heval.passes hhit).length_le.trans hleft)

theorem sequence_spends (heval : Thrifty left most eval) (quiet : Bool) (ids : List OpId)
    (hleft : cursor.rest.length ≤ left) :
    Spends (ids.length * most) (Scoped.sequence eval quiet ids cursor) := by
  apply ((items_spends heval quiet ids [] hleft).bind _).mono (Nat.add_zero _).le
  rintro ⟨elements, _ | stop⟩ _
  · exact Spends.pure none
  · exact (pushOwner_spends _ _ _ _).andThen fun _ ↦ Spends.pure _

theorem choice_spends (heval : Thrifty left most eval) (setting : Setting τ) (scope : Scope)
    (ids : List OpId) (hleft : cursor.rest.length ≤ left) :
    Spends (ids.length * most) (Scoped.choice setting eval scope cursor ids) := by
  induction ids with
  | nil => exact Spends.pure none
  | cons id rest ih =>
    cases rest with
    | nil =>
      rw [List.length_singleton, Nat.one_mul]
      exact heval.spends id scope cursor hleft
    | cons next rest =>
      rw [List.length_cons, Nat.add_one_mul, Nat.add_comm]
      apply (heval.spends id scope cursor hleft).bind
      rintro (_ | hit) _
      · exact (observe_spends _ _).andThen fun _ ↦ ih
      · exact Spends.pure _

theorem iterations_spends (heval : Thrifty left most eval) (inner : OpId) (scope : Scope)
    (bound : Nat) (elements : List NodeId) (hleft : cursor.rest.length ≤ left) :
    Spends (bound * most) (Scoped.iterations eval inner scope bound elements cursor) := by
  induction bound generalizing elements cursor with
  | zero => exact Spends.pure _
  | succ bound ih =>
    rw [Nat.add_one_mul, Nat.add_comm]
    apply (heval.spends inner scope cursor hleft).bind
    rintro (_ | hit) hhit
    · exact Spends.pure _
    · dsimp only
      split
      · exact ih _ ((heval.passes hhit).length_le.trans hleft)
      · exact Spends.pure _

theorem repetition_spends (heval : Thrifty left most eval) (inner : OpId) (least : Nat)
    (scope : Scope) (hleft : cursor.rest.length ≤ left) :
    Spends ((left + 1) * most) (Scoped.repetition eval inner least scope cursor) := by
  have hloop : Spends ((left + 1) * most)
      (Scoped.iterations eval inner scope (cursor.rest.length + 1) [] cursor) :=
    (iterations_spends heval inner scope _ [] hleft).mono
      (Nat.mul_le_mul_right _ (Nat.succ_le_succ hleft))
  apply (hloop.bind _).mono (Nat.add_zero _).le
  rintro ⟨elements, stop⟩ _
  dsimp only
  split
  · exact Spends.pure none
  · exact (pushOwner_spends _ _ _ _).andThen fun _ ↦ Spends.pure _

theorem call_spends (heval : Thrifty left most eval) (setting : Setting τ) (rule : RuleId)
    (quiet : Bool) (hleft : cursor.rest.length ≤ left) :
    Spends most (Scoped.call setting eval rule quiet cursor) := by
  unfold Scoped.call
  cases setting.program.rules[rule.index]? with
  | none => exact Spends.throw (by rintro ⟨⟩)
  | some entry =>
    apply (observe_spends _ _).andThen
    intro _
    apply ((heval.spends entry.body ⟨[], quiet⟩ cursor hleft).bind _).mono (Nat.add_zero _).le
    rintro (_ | hit) _
    · exact (observe_spends _ _).andThen fun _ ↦ Spends.pure _
    · exact (changeNode_spends _ _).andThen fun _ ↦ (observe_spends _ _).andThen fun _ ↦
        Spends.pure _

/-- An operation spends what its parts do. -/
theorem step_spends (heval : Thrifty left most eval) (setting : Setting τ) (id : OpId) (op : Op)
    (scope : Scope) (hleft : cursor.rest.length ≤ left) :
    Spends (op.breadth left * most) (Scoped.step setting eval id op scope cursor) := by
  have hpart (inner : OpId) (scope : Scope) :
      Spends (1 * most) (eval inner scope cursor) := by
    rw [Nat.one_mul]
    exact heval.spends inner scope cursor hleft
  cases op with
  | terminal text => exact (literal_spends _ _ _ _ _).mono (Nat.zero_le _)
  | charClass cls => exact (character_spends _ _ _ _ _).mono (Nat.zero_le _)
  | anyChar => exact (character_spends _ _ _ _ _).mono (Nat.zero_le _)
  | sequence ids => exact sequence_spends heval scope.quiet ids hleft
  | choice ids => exact choice_spends heval setting scope ids hleft
  | repetition inner least => exact repetition_spends heval inner least scope hleft
  | optional inner =>
    apply ((hpart inner scope).bind _).mono (Nat.add_zero _).le
    rintro (_ | hit) _
    · exact emptyMatch_spends cursor
    · exact Spends.pure _
  | lookahead inner =>
    apply arenaSize_spends.andThen
    intro mark
    apply ((hpart inner scope).bind _).mono (Nat.add_zero _).le
    rintro (_ | hit) _
    · exact Spends.pure none
    · exact (truncate_spends mark).andThen fun _ ↦ emptyMatch_spends cursor
  | negativeLookahead inner =>
    apply ((hpart inner { scope with quiet := true }).bind _).mono (Nat.add_zero _).le
    rintro (_ | hit) _
    · exact emptyMatch_spends cursor
    · exact Spends.pure none
  | predicate hook negated => exact (predicate_spends _ _ _ _ _ _).mono (Nat.zero_le _)
  | label name inner =>
    apply ((hpart inner scope).bind _).mono (Nat.add_zero _).le
    rintro (_ | hit) _
    · exact Spends.pure none
    · exact (changeNode_spends _ _).andThen fun _ ↦ Spends.pure _
  | call rule =>
    rw [Op.breadth, Nat.one_mul]
    exact call_spends heval setting rule scope.quiet hleft

end Parts

/-- A match only reads forward. -/
theorem scopedEval_passes {setting : Setting τ} {levels : Nat} {id : OpId} {scope : Scope}
    {cursor : Cursor} {hit : Match}
    (h : Returns (Scoped.eval setting levels id scope cursor) (some hit)) :
    Passes cursor hit.after := by
  obtain ⟨store, hrun⟩ := h
  have hleaves := (eval_ensures (Watch.blind setting) levels id scope cursor [] store.nodes trivial
    store rfl trivial).2 (some hit) hrun
  obtain ⟨tree, hyields, _⟩ := hleaves.1
  exact hyields.passes

/-- An evaluation is thrifty at any number of levels. -/
theorem eval_thrifty (setting : Setting τ) (levels left : Nat) :
    Thrifty left (setting.program.evaluationBound left levels) (Scoped.eval setting levels) := by
  refine ⟨?_, scopedEval_passes⟩
  induction levels with
  | zero =>
    intro id scope cursor _
    rw [Scoped.eval]
    exact spendFuel_spends.bind fun _ _ ↦ @Spends.throw _ _ 0 _ (by rintro ⟨⟩)
  | succ levels ih =>
    intro id scope cursor hleft
    cases hop : setting.program.ops[id.index]? with
    | none =>
      rw [Scoped.eval, hop]
      exact (spendFuel_spends.bind fun _ _ ↦ @Spends.throw _ _ 0 _ (by rintro ⟨⟩)).mono
        (setting.program.evaluationBound_pos left _)
    | some op =>
      have hparts : op.breadth left * setting.program.evaluationBound left levels ≤
          setting.program.breadth left * setting.program.evaluationBound left levels :=
        Nat.mul_le_mul_right _ (Program.breadth_le hop left)
      rw [Scoped.eval, hop]
      apply (spendFuel_spends.bind _).mono (Nat.add_le_add_left hparts 1)
      intro _ _
      apply arenaSize_spends.andThen
      intro mark
      apply ((step_spends ⟨ih, scopedEval_passes⟩ setting id op scope hleft).bind _).mono
        (Nat.add_zero _).le
      rintro (_ | hit) _
      · exact (truncate_spends mark).andThen fun _ ↦ Spends.pure none
      · exact Spends.pure _

theorem matchRule_spends (setting : Setting τ) (rule : RuleId) (consumeAll : Bool)
    (cursor : Cursor) :
    Spends (setting.program.evaluationBound cursor.rest.length setting.depthLimit)
      (Scoped.matchRule setting rule consumeAll cursor) := by
  have hcall := call_spends (eval_thrifty setting setting.depthLimit cursor.rest.length) setting
    rule false (Nat.le_refl _)
  apply (hcall.bind _).mono (Nat.add_zero _).le
  rintro (_ | hit) _
  · exact Spends.pure none
  · dsimp only
    split
    · exact (recordFailure_spends _ _).andThen fun _ ↦ Spends.pure none
    · exact Spends.pure _

/-! ## Repetitions -/

/-- A repetition of `inner` that goes on until `inner` fails, ends the run or matches without
progress, with the number of evaluations of `inner`. Nothing else ends it. -/
inductive Repeats (eval : Evaluator τ) (inner : OpId) : Nat → List NodeId → Cursor → Stacks →
    Store τ → Except RuntimeError ((List NodeId × Cursor) × Stacks) × Store τ → Prop
  | failed {elements : List NodeId} {cursor : Cursor} {around around' : Stacks}
      {store store' : Store τ}
      (last : ((eval inner cursor).run around).run.run store = (.ok (none, around'), store')) :
      Repeats eval inner 1 elements cursor around store
        (.ok ((elements, cursor), around'), store')
  | ended {elements : List NodeId} {cursor : Cursor} {around : Stacks} {store store' : Store τ}
      {error : RuntimeError}
      (last : ((eval inner cursor).run around).run.run store = (.error error, store')) :
      Repeats eval inner 1 elements cursor around store (.error error, store')
  | stayed {elements : List NodeId} {cursor : Cursor} {around around' : Stacks}
      {store store' : Store τ} {hit : Match}
      (last : ((eval inner cursor).run around).run.run store = (.ok (some hit, around'), store'))
      (stays : ¬ cursor.offset < hit.after.offset) :
      Repeats eval inner 1 elements cursor around store
        (.ok ((elements ++ [hit.node], hit.after), around'), store')
  | again {count : Nat} {elements : List NodeId} {cursor : Cursor} {around around' : Stacks}
      {store store' : Store τ} {hit : Match}
      {outcome : Except RuntimeError ((List NodeId × Cursor) × Stacks) × Store τ}
      (first : ((eval inner cursor).run around).run.run store = (.ok (some hit, around'), store'))
      (moves : cursor.offset < hit.after.offset)
      (others : Repeats eval inner count (elements ++ [hit.node]) hit.after around' store'
        outcome) :
      Repeats eval inner (count + 1) elements cursor around store outcome

theorem eval_passes {setting : Setting τ} {levels : Nat} {id : OpId} {cursor : Cursor}
    {around around' : Stacks} {store store' : Store τ} {hit : Match}
    (h : ((eval setting levels id cursor).run around).run.run store =
      (.ok (some hit, around'), store')) : Passes cursor hit.after := by
  rw [eval_run, ExceptT.run_map, StateT.run_map] at h
  have hreturns : Returns (Scoped.eval setting (min levels (setting.depthLimit - around.depth)) id
      around.scope cursor) (some hit) := by
    refine ⟨store, ?_⟩
    cases hrun : (Scoped.eval setting (min levels (setting.depthLimit - around.depth)) id
        around.scope cursor).run.run store with
    | mk result after =>
      rw [hrun] at h
      cases result <;> cases h
      rfl
  exact scopedEval_passes hreturns

/-- More evaluations than characters are left are never needed. -/
theorem iterations_repeats (setting : Setting τ) (levels : Nat) (inner : OpId) {bound : Nat}
    (elements : List NodeId) {cursor : Cursor} (around : Stacks) (store : Store τ)
    (hbound : cursor.rest.length < bound) :
    ∃ count ≤ cursor.rest.length + 1,
      Repeats (eval setting levels) inner count elements cursor around store
        (((iterations (eval setting levels) inner bound elements cursor).run around).run.run
          store) := by
  induction bound generalizing elements cursor around store with
  | zero => exact absurd hbound (Nat.not_lt_zero _)
  | succ bound ih =>
    rw [iterations, StateT.run_bind]
    cases hrun : ((eval setting levels inner cursor).run around).run.run store with
    | mk result store' =>
      rcases result with error | ⟨_ | hit, around'⟩
      · rw [run_bind_error hrun]
        exact ⟨1, Nat.le_add_left _ _, .ended hrun⟩
      · rw [run_bind_ok hrun]
        exact ⟨1, Nat.le_add_left _ _, .failed hrun⟩
      · rw [run_bind_ok hrun]
        by_cases hmoves : cursor.offset < hit.after.offset
        · have hshorter := (eval_passes hrun).length_lt hmoves
          obtain ⟨count, hcount, hothers⟩ := ih (elements ++ [hit.node]) around' store'
            (hshorter.trans_le (Nat.le_of_lt_succ hbound))
          dsimp only
          rw [if_pos hmoves]
          exact ⟨count + 1, Nat.succ_le_succ (hcount.trans hshorter), .again hrun hmoves hothers⟩
        · dsimp only
          rw [if_neg hmoves]
          exact ⟨1, Nat.le_add_left _ _, .stayed hrun hmoves⟩

/-! ## Levels -/

/-- Where the levels reach the limit on nesting, one more changes nothing. -/
theorem eval_levels (setting : Setting τ) {levels : Nat} (id : OpId) (cursor : Cursor)
    {around : Stacks} (h : setting.depthLimit ≤ levels + around.depth) :
    (eval setting (levels + 1) id cursor).run around =
      (eval setting levels id cursor).run around := by
  have hmin : setting.depthLimit - around.depth ≤ levels := Nat.sub_le_of_le_add h
  rw [eval_run, eval_run, Nat.min_eq_right hmin, Nat.min_eq_right (hmin.trans (Nat.le_succ _))]

/-! ## Whole runs -/

/-- A run ends with the error that the match of its rule ends with. -/
theorem run_error_iff (setting : Setting τ) (fuel : Option Nat) (trace : τ) (rule : RuleId)
    (consumeAll : Bool) (cursor : Cursor) (error : RuntimeError) :
    (run setting fuel trace rule consumeAll cursor).1 = .error error ↔
      ((Scoped.matchRule setting rule consumeAll cursor).run.run
        ⟨#[], .empty, fuel, trace⟩).1 = .error error := by
  rw [run_eq]
  rcases (Scoped.matchRule setting rule consumeAll cursor).run.run ⟨#[], .empty, fuel, trace⟩ with
    ⟨error | root, store⟩
  · simp [Except.map]
  · simp [Except.map]

/-- A run without a limit takes `count` evaluations: with a budget of as many or more it goes the
same way, and with fewer it ends for want of them. -/
structure Takes (setting : Setting τ) (trace : τ) (rule : RuleId) (consumeAll : Bool)
    (cursor : Cursor) (count : Nat) : Prop where
  spared : (run setting none trace rule consumeAll cursor).1 ≠ .error .execFuelExhausted
  enough : ∀ fuel ≥ count, run setting (some fuel) trace rule consumeAll cursor =
    run setting none trace rule consumeAll cursor
  short : ∀ fuel < count,
    (run setting (some fuel) trace rule consumeAll cursor).1 = .error .execFuelExhausted

theorem run_takes (setting : Setting τ) (trace : τ) (rule : RuleId) (consumeAll : Bool)
    (cursor : Cursor) :
    ∃ count ≤ setting.program.evaluationBound cursor.rest.length setting.depthLimit,
      Takes setting trace rule consumeAll cursor count := by
  obtain ⟨count, hcount, _, hspared, henough, hshort⟩ :=
    matchRule_spends setting rule consumeAll cursor ⟨#[], .empty, none, trace⟩ rfl
  refine ⟨count, hcount, ?_, fun fuel hfuel ↦ ?_, fun fuel hfuel ↦ ?_⟩
  · rwa [ne_eq, run_error_iff]
  · obtain ⟨left, rfl⟩ := Nat.exists_eq_add_of_le hfuel
    rw [run_eq, run_eq, henough left]
    rfl
  · rw [run_error_iff]
    exact hshort fuel hfuel

/-- Every run ends, after as many evaluations at most as the table of operations, the limit on
nesting and the characters left allow. The levels of nesting and the bound of a repetition have no
part in it: one level more changes nothing, and a repetition ends by itself, after one evaluation
more than characters are left at most. -/
theorem runs_end (setting : Setting τ) (trace : τ) (rule : RuleId) (consumeAll : Bool)
    (cursor : Cursor) :
    (∃ count ≤ setting.program.evaluationBound cursor.rest.length setting.depthLimit,
      Takes setting trace rule consumeAll cursor count) ∧
    (∀ levels id place around, setting.depthLimit ≤ levels + around.depth →
      (eval setting (levels + 1) id place).run around =
        (eval setting levels id place).run around) ∧
    ∀ levels inner place around store, ∃ count ≤ place.rest.length + 1,
      Repeats (eval setting levels) inner count [] place around store
        (((iterations (eval setting levels) inner (place.rest.length + 1) [] place).run
          around).run.run store) := by
  refine ⟨run_takes setting trace rule consumeAll cursor, ?_, ?_⟩
  · intro levels id place around henough
    exact eval_levels setting id place henough
  · intro levels inner place around store
    exact iterations_repeats setting levels inner [] around store (Nat.lt_succ_self _)

/-- A repetition of a repetition of what may be empty. -/
def nullable : Setting Unit where
  program := ⟨"nullable", [],
    #[.terminal "x", .optional ⟨0⟩, .repetition ⟨1⟩ 0, .repetition ⟨2⟩ 0],
    #[⟨"start", ⟨3⟩⟩], ⟨#[]⟩⟩
  input := ['x', 'x']
  predicates := #[]
  depthLimit := 4
  observe _ _ := ()

theorem runs_end_nullable :
    (run nullable (some 10) () ⟨0⟩ true ⟨0, ['x', 'x']⟩).1 = .error .execFuelExhausted ∧
    (run nullable (some 11) () ⟨0⟩ true ⟨0, ['x', 'x']⟩).1.toOption.isSome = true ∧
    (∃ count ≤ nullable.program.evaluationBound 2 4,
      Takes nullable () ⟨0⟩ true ⟨0, ['x', 'x']⟩ count) ∧
    ∃ count ≤ 3, Repeats (eval nullable 3) ⟨1⟩ count [] ⟨0, ['x', 'x']⟩ .empty
      ⟨#[], .empty, none, ()⟩
      (((iterations (eval nullable 3) ⟨1⟩ 3 [] ⟨0, ['x', 'x']⟩).run .empty).run.run
        ⟨#[], .empty, none, ()⟩) := by
  obtain ⟨htakes, _, hrepeats⟩ := runs_end nullable () ⟨0⟩ true ⟨0, ['x', 'x']⟩
  exact ⟨rfl, rfl, htakes, hrepeats 3 ⟨1⟩ ⟨0, ['x', 'x']⟩ .empty ⟨#[], .empty, none, ()⟩⟩

end Machine

end PegKit
