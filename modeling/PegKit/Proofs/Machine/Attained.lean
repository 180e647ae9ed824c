import PegKit.Proofs.Machine.Failures
import PegKit.Proofs.Machine.Termination

/-!
# What is tried is attained

The big-step account of attempts says what evaluations come to and knows no limits. The machine
comes to the same: for all that is tried there are a number of evaluations and a number of levels
that are enough for the machine to return, and where limits allow these, it returns whatever
surrounds the evaluation.
-/

namespace PegKit.Machine

open ParseTree (rootPlaces sizeOfList)
open Program (Yield)

variable {τ α β : Type}

/-! ## Actions that return -/

/-- The budget is enough for `count` evaluations. -/
def Store.Affords (store : Store τ) (count : Nat) : Prop := ∀ fuel ∈ store.fuel, count ≤ fuel

/-- From `nodes` and with a budget for `cost` evaluations, whatever the rest is, the action returns
and spends no more than these. -/
def Completes (cost : Nat) (nodes : Arena) (action : Work τ α) (post : α → Arena → Prop) : Prop :=
  ∀ (store : Store τ) (spare : Nat), store.nodes = nodes → store.Affords (cost + spare) →
    ∃ value store', action.run.run store = (.ok value, store') ∧ store'.Affords spare ∧
      post value store'.nodes

/-- From `nodes` and with such a budget, the action returns. -/
abbrev Finishes (cost : Nat) (nodes : Arena) (action : Work τ α) : Prop :=
  Completes cost nodes action fun _ _ ↦ True

/-- The action returns from anywhere and takes no evaluations. -/
def Free (action : Work τ α) : Prop := ∀ nodes, Finishes 0 nodes action

namespace Completes

variable {cost cost' : Nat} {nodes : Arena} {action : Work τ α} {next : α → Work τ β}
  {mid post : α → Arena → Prop} {last : β → Arena → Prop}

theorem pure {value : α} (h : post value nodes) :
    Completes 0 nodes (Pure.pure value : Work τ α) post := by
  intro store spare hnodes hbudget
  rw [Nat.zero_add] at hbudget
  rw [← hnodes] at h
  exact ⟨value, store, rfl, hbudget, h⟩

theorem bind (h : Completes cost nodes action mid)
    (hnext : ∀ value nodes', mid value nodes' → Completes cost' nodes' (next value) last) :
    Completes (cost + cost') nodes (action >>= next) last := by
  intro store spare hnodes hbudget
  rw [Nat.add_assoc] at hbudget
  obtain ⟨value, between, hrun, hleft, hmid⟩ := h store (cost' + spare) hnodes hbudget
  obtain ⟨value', store', hrun', hleft', hlast⟩ :=
    hnext value between.nodes hmid between spare rfl hleft
  exact ⟨value', store', (run_bind_ok hrun).trans hrun', hleft', hlast⟩

/-- After the action nothing more is spent. -/
theorem bindFree (h : Completes cost nodes action mid)
    (hnext : ∀ value nodes', mid value nodes' → Finishes 0 nodes' (next value)) :
    Finishes cost nodes (action >>= next) := h.bind hnext

theorem andFree (h : Completes cost nodes action mid) (hnext : ∀ value, Free (next value)) :
    Finishes cost nodes (action >>= next) :=
  h.bindFree fun value nodes' _ ↦ hnext value nodes'

/-- An action that returns does so with what it leads to. -/
theorem of_leads (h : Finishes cost nodes action)
    (hleads : ∀ failures, Leads nodes failures action fun value nodes' _ ↦ post value nodes') :
    Completes cost nodes action post := by
  intro store spare hnodes hbudget
  obtain ⟨value, store', hrun, hleft, _⟩ := h store spare hnodes hbudget
  have hpost := hleads store.failures store hnodes rfl value
  rw [hrun] at hpost
  exact ⟨value, store', hrun, hleft, hpost rfl⟩

/-- A larger budget does too. -/
theorem raised (h : Completes cost nodes action post) (hle : cost ≤ cost') :
    Completes cost' nodes action post := by
  intro store spare hnodes hbudget
  exact h store spare hnodes fun fuel hfuel ↦
    (Nat.add_le_add_right hle spare).trans (hbudget fuel hfuel)

end Completes

namespace Free

variable {cost : Nat} {nodes : Arena} {action : Work τ α} {next : α → Work τ β}

theorem pure (value : α) : Free (Pure.pure value : Work τ α) := fun _ ↦ Completes.pure trivial

theorem bind (h : Free action) (hnext : ∀ value, Free (next value)) : Free (action >>= next) :=
  fun nodes ↦ (h nodes).andFree hnext

/-- A change of what is left behind that keeps the budget. -/
theorem modifyGet {change : Store τ → α × Store τ}
    (h : ∀ store, (change store).2.fuel = store.fuel) :
    Free (MonadStateOf.modifyGet change : Work τ α) := by
  intro nodes store spare _ hbudget
  rw [Nat.zero_add] at hbudget
  refine ⟨(change store).1, (change store).2, rfl, ?_, trivial⟩
  rwa [Store.Affords, h store]

/-- A free action that leaves the nodes alone comes first. -/
theorem andThen (h : Free action)
    (hsame : ∀ failures, Leads nodes failures action fun _ nodes' _ ↦ nodes' = nodes)
    (hnext : ∀ value, Finishes cost nodes (next value)) :
    Finishes cost nodes (action >>= next) := by
  have hwhole : Finishes (0 + cost) nodes (action >>= next) :=
    ((h nodes).of_leads hsame).bind fun value nodes' hnodes ↦ hnodes ▸ hnext value
  rwa [Nat.zero_add] at hwhole

end Free

theorem observe_free (setting : Setting τ) (event : Event) : Free (observe setting event) :=
  Free.modifyGet fun _ ↦ rfl

theorem observe_keeps (setting : Setting τ) (event : Event) {nodes : Arena}
    (failures : FailureSet) :
    Leads nodes failures (observe setting event) fun _ nodes' _ ↦ nodes' = nodes :=
  (observe_leads setting event).mono fun _ _ _ hsame ↦ hsame.1

theorem recordFailure_free (offset : Nat) (expected : Expected) :
    Free (recordFailure offset expected : Work τ Unit) := Free.modifyGet fun _ ↦ rfl

theorem truncate_free (mark : Nat) : Free (truncate mark : Work τ Unit) :=
  Free.modifyGet fun _ ↦ rfl

theorem changeNode_free (id : NodeId) (change : Node → Node) :
    Free (changeNode id change : Work τ Unit) := Free.modifyGet fun _ ↦ rfl

theorem push_free (node : Node) : Free (push node : Work τ NodeId) := Free.modifyGet fun _ ↦ rfl

theorem arenaSize_free : Free (arenaSize : Work τ Nat) :=
  @Free.modifyGet _ _ (fun store ↦ (store.nodes.size, store)) fun _ ↦ rfl

theorem arenaSize_keeps {nodes : Arena} (failures : FailureSet) :
    Leads nodes failures (arenaSize : Work τ Nat) fun _ nodes' _ ↦ nodes' = nodes :=
  arenaSize_leads.mono fun _ _ _ hsize ↦ hsize.2.1

theorem get_free : Free (get : Work τ (Store τ)) :=
  @Free.modifyGet _ _ (fun store ↦ (store, store)) fun _ ↦ rfl

theorem emptyMatch_free (cursor : Cursor) :
    Free (do return some (← pushEmpty cursor) : Work τ (Option Match)) :=
  ((push_free _).bind fun _ ↦ .pure _).bind fun _ ↦ .pure _

theorem ownerMatch_free (kind : NodeKind) (start stop : Cursor) (elements : List NodeId) :
    Free (do return some (← pushOwner kind start stop elements) : Work τ (Option Match)) :=
  Free.bind (Free.bind (Free.modifyGet fun _ ↦ rfl) fun _ ↦ (push_free _).bind fun _ ↦ .pure _)
    fun _ ↦ .pure _

theorem succeed_free (setting : Setting τ) (id : OpId) (start stop : Cursor) :
    Free (succeed setting id start stop) :=
  (observe_free _ _).bind fun _ ↦ (push_free _).bind fun _ ↦ .pure _

theorem failAt_free (setting : Setting τ) (id : OpId) (quiet : Bool) (cursor : Cursor) :
    Free (failAt setting id quiet cursor) := by
  apply (observe_free _ _).bind
  intro _
  cases quiet with
  | true => exact .pure none
  | false => exact (recordFailure_free _ _).bind fun _ ↦ .pure none

theorem literal_free (setting : Setting τ) (id : OpId) (text : List Char) (quiet : Bool)
    (cursor : Cursor) : Free (literal setting id text quiet cursor) := by
  obtain ⟨rest, -, hhit⟩ | ⟨-, hmiss⟩ := literal_cases setting id text quiet cursor
  · exact hhit ▸ succeed_free _ _ _ _
  · exact hmiss ▸ failAt_free _ _ _ _

theorem character_free (setting : Setting τ) (id : OpId) (accepts : Char → Bool) (quiet : Bool)
    (cursor : Cursor) : Free (character setting id accepts quiet cursor) := by
  obtain ⟨c, rest, -, -, hhit⟩ | ⟨-, hmiss⟩ := character_cases setting id accepts quiet cursor
  · exact hhit ▸ succeed_free _ _ _ _
  · exact hmiss ▸ failAt_free _ _ _ _

theorem spendFuel_finishes (nodes : Arena) : Finishes 1 nodes (spendFuel : Work τ Unit) := by
  rintro ⟨_, failures, fuel, trace⟩ spare rfl hbudget
  match fuel with
  | none => exact ⟨(), _, rfl, by rintro _ ⟨⟩, trivial⟩
  | some 0 =>
    have hnone : 1 + spare ≤ 0 := hbudget 0 rfl
    omega
  | some (fuel + 1) =>
    have hmore : 1 + spare ≤ fuel + 1 := hbudget (fuel + 1) rfl
    refine ⟨(), _, rfl, ?_, trivial⟩
    rintro _ ⟨⟩
    omega

/-! ## Operations -/

section Operations

variable {setting : Setting τ} {scene : Scene} {cursor : Cursor}

/-- A condition that answers is consulted for free. -/
theorem consult_finishes {hook : Symbol} {holds : Bool}
    (hanswer : setting.answer? hook scene cursor = some holds) :
    Finishes 0 scene.nodes (consult setting hook scene.visible cursor) := by
  obtain ⟨binding, hbinding, hholds⟩ := Option.bind_eq_some_iff.mp hanswer
  have hget : Completes 0 scene.nodes (get : Work τ (Store τ)) fun store nodes' ↦
      store.nodes = scene.nodes ∧ nodes' = scene.nodes :=
    (get_free scene.nodes).of_leads fun _ ↦ get_leads.mono fun _ _ _ hstore ↦
      ⟨hstore.1, hstore.2.1⟩
  unfold consult
  rw [hbinding]
  refine hget.bindFree ?_
  rintro store _ ⟨hstore, rfl⟩
  refine (observe_free _ _).bind (fun _ ↦ ?_) _
  rw [hstore]
  cases hcondition : binding.condition ⟨setting.program, setting.input, scene.nodes,
      scene.visible, cursor.offset, cursor.rest⟩ with
  | ok holds => exact .pure holds
  | error message =>
    rw [hcondition] at hholds
    cases hholds

theorem predicate_finishes (id : OpId) {hook : Symbol} {holds : Bool} (negated : Bool)
    (hanswer : setting.answer? hook scene cursor = some holds) :
    Finishes 0 scene.nodes (predicate setting id hook negated scene.visible cursor) := by
  apply (consult_finishes hanswer).andFree
  intro holds
  apply (observe_free _ _).bind
  intro _
  split
  · exact emptyMatch_free cursor
  · exact .pure none

/-- With a budget for `cost` evaluations, `eval` returns from all that the trial asks of it. Where
items of a sequence are left, the elements before them are the last nodes there are. -/
def Answered (setting : Setting τ) (scene : Scene) (cursor : Cursor) (cost : Nat)
    (eval : Scoped.Evaluator τ) : Trial → Prop
  | .eval id => ∀ quiet, Finishes cost scene.nodes (eval id ⟨scene.visible, quiet⟩ cursor)
  | .op id op => ∀ quiet,
    Finishes cost scene.nodes (Scoped.step setting eval id op ⟨scene.visible, quiet⟩ cursor)
  | .rule rule => ∀ quiet,
    Finishes cost scene.nodes (Scoped.call setting eval rule quiet cursor)
  | .items rest _ => ∀ quiet, scene.nodes.size = scene.base + sizeOfList scene.siblings →
    Finishes cost scene.nodes (Scoped.items eval quiet rest scene.visible cursor)
  | .alternatives rest => ∀ quiet,
    Finishes cost scene.nodes (Scoped.choice setting eval ⟨scene.visible, quiet⟩ cursor rest)
  | .iterations inner _ _ _ => ∀ quiet bound elements,
    Finishes cost scene.nodes
      (Scoped.iterations eval inner ⟨scene.visible, quiet⟩ bound elements cursor)

/-- Some number of evaluations and some number of levels are enough. -/
def Enough (setting : Setting τ) (finishes : Nat → Scoped.Evaluator τ → Prop) : Prop :=
  ∃ cost least, ∀ levels, least ≤ levels → finishes cost (Scoped.eval setting levels)

namespace Enough

variable {finishes finishes' both : Nat → Scoped.Evaluator τ → Prop}

theorem free (h : ∀ eval, finishes 0 eval) : Enough setting finishes := ⟨0, 0, fun _ _ ↦ h _⟩

theorem map (h : Enough setting finishes)
    (hmap : ∀ cost eval, Accounts setting eval → finishes cost eval → finishes' cost eval) :
    Enough setting finishes' := by
  obtain ⟨cost, least, henough⟩ := h
  exact ⟨cost, least, fun levels hlevels ↦
    hmap cost _ (eval_accounts setting levels) (henough levels hlevels)⟩

/-- What is enough for one part and what is enough for the next are enough together. -/
theorem andThen (h : Enough setting finishes) (h' : Enough setting finishes')
    (hboth : ∀ cost cost' eval, Accounts setting eval → finishes cost eval →
      finishes' cost' eval → both (cost + cost') eval) : Enough setting both := by
  obtain ⟨cost, least, henough⟩ := h
  obtain ⟨cost', least', henough'⟩ := h'
  refine ⟨cost + cost', max least least', fun levels hlevels ↦ ?_⟩
  exact hboth cost cost' _ (eval_accounts setting levels)
    (henough levels ((Nat.le_max_left _ _).trans hlevels))
    (henough' levels ((Nat.le_max_right _ _).trans hlevels))

/-- An evaluation takes one evaluation and one level more than its operation. -/
theorem eval {id : OpId} {op : Op} (hop : setting.program.ops[id.index]? = some op)
    (h : Enough setting fun cost eval ↦ Answered setting scene cursor cost eval (.op id op)) :
    Enough setting fun cost eval ↦ Answered setting scene cursor cost eval (.eval id) := by
  obtain ⟨cost, least, henough⟩ := h
  refine ⟨1 + cost, least + 1, fun levels hlevels quiet ↦ ?_⟩
  obtain ⟨levels, rfl⟩ := Nat.exists_eq_add_of_le' (Nat.one_le_of_lt hlevels)
  have hstep := henough levels (Nat.le_of_succ_le_succ hlevels) quiet
  rw [Scoped.eval, hop]
  apply ((spendFuel_finishes scene.nodes).of_leads fun _ ↦ spendFuel_leads.mono fun _ _ _ hsame ↦
    hsame.1).bind
  rintro _ _ rfl
  apply arenaSize_free.andThen arenaSize_keeps
  intro mark
  apply hstep.andFree
  rintro (_ | hit)
  · exact (truncate_free mark).bind fun _ ↦ .pure none
  · exact .pure _

end Enough

/-! ## Parts one after the other -/

section Parts

variable {eval : Scoped.Evaluator τ} (haccounts : Accounts setting eval) {cost cost' : Nat}
  {start next : Cursor} {tree : ParseTree} {yield : Yield} {misses : List Miss}

include haccounts

/-- An evaluation that returns leaves what it yields. -/
theorem Answered.leaves {id : OpId} (h : Answered setting scene cursor cost eval (.eval id))
    (htries : Tries setting (.eval id) scene cursor yield misses) (quiet : Bool) :
    Completes cost scene.nodes (eval id ⟨scene.visible, quiet⟩ cursor)
      (LeavesClean (· = yield) scene.nodes) := by
  apply (h quiet).of_leads
  intro failures
  refine (haccounts id quiet cursor scene failures).mono ?_
  rintro found nodes' failures' ⟨⟨misses', hleaves, _⟩, hclean⟩
  exact ⟨hleaves.mono fun yield' htries' ↦ (htries'.unique htries).1, hclean⟩

theorem Answered.itemsFail {item : OpId} {rest : List OpId}
    (h : Answered setting scene cursor cost eval (.eval item))
    (htries : Tries setting (.eval item) scene cursor none misses) :
    Answered setting scene cursor cost eval (.items (item :: rest) start) := by
  intro quiet _
  refine (h.leaves haccounts htries quiet).bindFree ?_
  rintro (_ | hit) nodes' ⟨hleaves, _⟩
  · exact Free.pure _ _
  · obtain ⟨_, hnone, _⟩ := hleaves
    cases hnone

theorem Answered.itemsNext {item : OpId} {rest : List OpId}
    (h : Answered setting scene cursor cost eval (.eval item))
    (htries : Tries setting (.eval item) scene cursor (some (tree, next)) misses)
    (hothers : Answered setting (scene.joined tree) next cost' eval (.items rest start)) :
    Answered setting scene cursor (cost + cost') eval (.items (item :: rest) start) := by
  intro quiet hlast
  refine (h.leaves haccounts htries quiet).bind ?_
  rintro (_ | hit) nodes' ⟨hleaves, _⟩
  · cases hleaves.1
  · obtain ⟨_, hsome, hplace, rfl⟩ := hleaves
    cases hsome
    have hrest := hothers quiet (by simp [Scene.joined, sizeOfList, hlast, Nat.add_assoc])
    have hvisible : (scene.joined tree).visible = scene.visible ++ [hit.node] := by
      rw [hplace, hlast]
      simp [Scene.joined, Scene.visible, rootPlaces]
    rwa [hvisible] at hrest

theorem Answered.alternativesHit {alternative : OpId} {rest : List OpId}
    (h : Answered setting scene cursor cost eval (.eval alternative))
    (htries : Tries setting (.eval alternative) scene cursor (some (tree, next)) misses) :
    Answered setting scene cursor cost eval (.alternatives (alternative :: rest)) := by
  intro quiet
  cases rest with
  | nil => exact h quiet
  | cons second rest =>
    refine (h.leaves haccounts htries quiet).bindFree ?_
    rintro (_ | hit) nodes' ⟨hleaves, _⟩
    · cases hleaves.1
    · exact Free.pure _ _

theorem Answered.alternativesNext {alternative : OpId} {rest : List OpId}
    (h : Answered setting scene cursor cost eval (.eval alternative))
    (htries : Tries setting (.eval alternative) scene cursor none misses)
    (hothers : Answered setting scene cursor cost' eval (.alternatives rest)) :
    Answered setting scene cursor (cost + cost') eval (.alternatives (alternative :: rest)) := by
  intro quiet
  cases rest with
  | nil => exact (h quiet).raised (Nat.le_add_right _ _)
  | cons second rest =>
    refine (h.leaves haccounts htries quiet).bind ?_
    rintro (_ | hit) nodes' ⟨hleaves, hclean⟩
    · rw [hclean rfl]
      exact (observe_free _ _).andThen (observe_keeps _ _) fun _ ↦ hothers quiet
    · obtain ⟨_, hnone, _⟩ := hleaves
      cases hnone

variable {inner : OpId} {least : Nat} {found : List ParseTree}

/-- Iterations that end with the next evaluation. -/
theorem Answered.iterationsLast
    (h : Answered setting scene cursor cost eval (.eval inner))
    (htries : Tries setting (.eval inner) scene cursor yield misses)
    (hlast : ∀ tree next, yield = some (tree, next) → ¬ cursor.offset < next.offset) :
    Answered setting scene cursor cost eval (.iterations inner least start found) := by
  intro quiet bound elements
  cases bound with
  | zero => exact (Free.pure _ _).raised (Nat.zero_le _)
  | succ bound =>
    refine (h.leaves haccounts htries quiet).bindFree ?_
    rintro (_ | hit) nodes' ⟨hleaves, _⟩
    · exact Free.pure _ _
    · obtain ⟨tree, hsome, _⟩ := hleaves
      simp only [hlast tree hit.after hsome.symm, if_false]
      exact Free.pure _ _

theorem Answered.iterationsNext
    (h : Answered setting scene cursor cost eval (.eval inner))
    (htries : Tries setting (.eval inner) scene cursor (some (tree, next)) misses)
    (hmoves : cursor.offset < next.offset)
    (hothers : Answered setting (scene.grown tree) next cost' eval
      (.iterations inner least start (found ++ [tree]))) :
    Answered setting scene cursor (cost + cost') eval (.iterations inner least start found) := by
  intro quiet bound elements
  cases bound with
  | zero => exact (Free.pure _ _).raised (Nat.zero_le _)
  | succ bound =>
    refine (h.leaves haccounts htries quiet).bind ?_
    rintro (_ | hit) nodes' ⟨hleaves, _⟩
    · cases hleaves.1
    · obtain ⟨_, hsome, hplace, rfl⟩ := hleaves
      cases hsome
      simp only [hmoves, if_true]
      exact hothers quiet bound (elements ++ [hit.node])

end Parts

/-! ## Operations with parts -/

section Steps

variable {eval : Scoped.Evaluator τ} {cost least : Nat} {id inner : OpId} {ids : List OpId}

theorem Answered.sequence
    (h : Answered setting scene.opened cursor cost eval (.items ids cursor)) :
    Answered setting scene cursor cost eval (.op id (.sequence ids)) := by
  intro quiet
  apply (h quiet rfl).andFree
  rintro ⟨elements, _ | stop⟩
  · exact .pure none
  · exact ownerMatch_free _ _ _ _

theorem Answered.repetition
    (h : Answered setting scene cursor cost eval (.iterations inner least cursor [])) :
    Answered setting scene cursor cost eval (.op id (.repetition inner least)) := by
  intro quiet
  apply (h quiet (cursor.rest.length + 1) []).andFree
  rintro ⟨elements, stop⟩
  dsimp only
  split
  · exact .pure none
  · exact ownerMatch_free _ _ _ _

theorem Answered.optional (h : Answered setting scene cursor cost eval (.eval inner)) :
    Answered setting scene cursor cost eval (.op id (.optional inner)) := by
  intro quiet
  apply (h quiet).andFree
  rintro (_ | hit)
  · exact emptyMatch_free cursor
  · exact .pure _

theorem Answered.lookahead (h : Answered setting scene cursor cost eval (.eval inner)) :
    Answered setting scene cursor cost eval (.op id (.lookahead inner)) := by
  intro quiet
  apply arenaSize_free.andThen arenaSize_keeps
  intro mark
  apply (h quiet).andFree
  rintro (_ | hit)
  · exact .pure none
  · exact (truncate_free mark).bind fun _ ↦ emptyMatch_free cursor

theorem Answered.negativeLookahead (h : Answered setting scene cursor cost eval (.eval inner)) :
    Answered setting scene cursor cost eval (.op id (.negativeLookahead inner)) := by
  intro quiet
  apply (h true).andFree
  rintro (_ | hit)
  · exact emptyMatch_free cursor
  · exact .pure none

theorem Answered.label {name : Symbol} (h : Answered setting scene cursor cost eval (.eval inner)) :
    Answered setting scene cursor cost eval (.op id (.label name inner)) := by
  intro quiet
  apply (h quiet).andFree
  rintro (_ | hit)
  · exact .pure none
  · exact (changeNode_free _ _).bind fun _ ↦ .pure _

theorem Answered.rule {rule : RuleId} {entry : RuleEntry}
    (hentry : setting.program.rules[rule.index]? = some entry)
    (h : Answered setting scene.opened cursor cost eval (.eval entry.body)) :
    Answered setting scene cursor cost eval (.rule rule) := by
  intro quiet
  unfold Scoped.call
  rw [hentry]
  apply (observe_free _ _).andThen (observe_keeps _ _)
  intro _
  apply (h quiet).andFree
  rintro (_ | hit)
  · exact (observe_free _ _).bind fun _ ↦ .pure none
  · exact (changeNode_free _ _).bind fun _ ↦ (observe_free _ _).bind fun _ ↦ .pure _

end Steps

/-- Whatever is tried, there are limits within which the machine returns from it. -/
theorem Tries.enough {trial : Trial} {yield : Yield} {misses : List Miss}
    (h : Tries setting trial scene cursor yield misses) :
    Enough setting fun cost eval ↦ Answered setting scene cursor cost eval trial := by
  induction h with
  | eval found acts ih => exact .eval found ih
  | terminalHit => exact .free fun _ _ ↦ literal_free _ _ _ _ _ _
  | terminalMiss => exact .free fun _ _ ↦ literal_free _ _ _ _ _ _
  | classHit => exact .free fun _ _ ↦ character_free _ _ _ _ _ _
  | classMiss => exact .free fun _ _ ↦ character_free _ _ _ _ _ _
  | anyHit => exact .free fun _ _ ↦ character_free _ _ _ _ _ _
  | anyMiss => exact .free fun _ _ ↦ character_free _ _ _ _ _ _
  | sequence parts ih => exact ih.map fun _ _ _ hitems ↦ hitems.sequence
  | itemsDone => exact .free fun _ _ _ ↦ Free.pure _ _
  | itemsFail first ih => exact ih.map fun _ _ haccounts hfirst ↦ hfirst.itemsFail haccounts first
  | itemsNext first others ihfirst ihothers =>
    exact ihfirst.andThen ihothers fun _ _ _ haccounts hfirst hothers ↦
      hfirst.itemsNext haccounts first hothers
  | choice parts ih => exact ih
  | alternativesNone => exact .free fun _ _ ↦ Free.pure _ _
  | alternativesHit first ih =>
    exact ih.map fun _ _ haccounts hfirst ↦ hfirst.alternativesHit haccounts first
  | alternativesNext first others ihfirst ihothers =>
    exact ihfirst.andThen ihothers fun _ _ _ haccounts hfirst hothers ↦
      hfirst.alternativesNext haccounts first hothers
  | repetition parts ih => exact ih.map fun _ _ _ hloop ↦ hloop.repetition
  | iterationsStop last ih =>
    exact ih.map fun _ _ haccounts hlast ↦ hlast.iterationsLast haccounts last nofun
  | iterationsStay last stays ih =>
    refine ih.map fun _ _ haccounts hlast ↦ hlast.iterationsLast haccounts last ?_
    rintro _ _ ⟨⟩
    exact stays
  | iterationsNext first moves others ihfirst ihothers =>
    exact ihfirst.andThen ihothers fun _ _ _ haccounts hfirst hothers ↦
      hfirst.iterationsNext haccounts first moves hothers
  | optionalHit part ih => exact ih.map fun _ _ _ hpart ↦ hpart.optional
  | optionalMiss part ih => exact ih.map fun _ _ _ hpart ↦ hpart.optional
  | lookaheadHit part ih => exact ih.map fun _ _ _ hpart ↦ hpart.lookahead
  | lookaheadMiss part ih => exact ih.map fun _ _ _ hpart ↦ hpart.lookahead
  | negativeLookaheadHit part ih => exact ih.map fun _ _ _ hpart ↦ hpart.negativeLookahead
  | negativeLookaheadMiss part ih => exact ih.map fun _ _ _ hpart ↦ hpart.negativeLookahead
  | predicate answer => exact .free fun _ _ ↦ predicate_finishes _ _ answer
  | label part ih => exact ih.map fun _ _ _ hpart ↦ hpart.label
  | call callee ih => exact ih
  | rule found body ih => exact ih.map fun _ _ _ hbody ↦ hbody.rule found

end Operations

end PegKit.Machine
