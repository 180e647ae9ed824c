import PegKit.Machine
import PegKit.Proofs.SyntaxTree.Layout

/-!
# What actions ensure

Of what a run leaves behind, the syntax tree only depends on the nodes. `Ensures keeps nodes action
post` speaks of these: started from `nodes`, whatever the rest is, the action ends with an error or
with a result and nodes that `post` holds of. On both ways out the trace keeps the property `keeps`
if it had it before.
-/

namespace PegKit.Machine

variable {τ α β : Type} {keeps : τ → Prop} {nodes : Arena}

def Ensures (keeps : τ → Prop) (nodes : Arena) (action : Work τ α) (post : α → Arena → Prop) :
    Prop :=
  ∀ store : Store τ, store.nodes = nodes → keeps store.trace →
    keeps (action.run.run store).2.trace ∧
      ∀ value, (action.run.run store).1 = .ok value → post value (action.run.run store).2.nodes

namespace Ensures

theorem pure {value : α} {post : α → Arena → Prop} (h : post value nodes) :
    Ensures keeps nodes (Pure.pure value : Work τ α) post := by
  intro store hnodes htrace
  refine ⟨htrace, ?_⟩
  rintro _ ⟨⟩
  rw [← hnodes] at h
  exact h

theorem throw {error : RuntimeError} {post : α → Arena → Prop} :
    Ensures keeps nodes (MonadExcept.throw error : Work τ α) post := by
  intro store _ htrace
  refine ⟨htrace, ?_⟩
  rintro _ ⟨⟩

theorem bind {action : Work τ α} {next : α → Work τ β} {mid : α → Arena → Prop}
    {post : β → Arena → Prop} (h : Ensures keeps nodes action mid)
    (hnext : ∀ value nodes', mid value nodes' → Ensures keeps nodes' (next value) post) :
    Ensures keeps nodes (action >>= next) post := by
  intro store hnodes htrace
  obtain ⟨htrace', hmid⟩ := h store hnodes htrace
  rw [ExceptT.run_bind, StateT.run_bind]
  cases hrun : action.run.run store with
  | mk result store' =>
    rw [hrun] at htrace' hmid
    cases result with
    | error error =>
      refine ⟨htrace', ?_⟩
      rintro _ ⟨⟩
    | ok value => exact hnext value store'.nodes (hmid value rfl) store' rfl htrace'

/-- An action that leaves the nodes alone comes first. -/
theorem andThen {action : Work τ α} {next : α → Work τ β} {post : β → Arena → Prop}
    (h : Ensures keeps nodes action fun _ nodes' ↦ nodes' = nodes)
    (hnext : ∀ value, Ensures keeps nodes (next value) post) :
    Ensures keeps nodes (action >>= next) post := by
  refine h.bind fun value nodes' hsame ↦ ?_
  rw [hsame]
  exact hnext value

theorem mono {action : Work τ α} {post post' : α → Arena → Prop}
    (h : Ensures keeps nodes action post)
    (hpost : ∀ value nodes', post value nodes' → post' value nodes') :
    Ensures keeps nodes action post' := by
  intro store hnodes htrace
  obtain ⟨htrace', hvalue⟩ := h store hnodes htrace
  exact ⟨htrace', fun value hok ↦ hpost _ _ (hvalue value hok)⟩

/-- A change of what is left behind that keeps the trace. -/
theorem modify {change : Store τ → Store τ} (post : Unit → Arena → Prop)
    (htrace : ∀ store, (change store).trace = store.trace)
    (hpost : ∀ store : Store τ, store.nodes = nodes → post () (change store).nodes) :
    Ensures keeps nodes (MonadStateOf.modifyGet fun store ↦ ((), change store) : Work τ Unit)
      post := by
  intro store hnodes hkeeps
  refine ⟨?_, ?_⟩
  · exact (htrace store).symm ▸ hkeeps
  · rintro _ ⟨⟩
    exact hpost store hnodes

end Ensures

/-! ## Actions on what is left behind -/

theorem arenaSize_ensures :
    Ensures keeps nodes (arenaSize : Work τ Nat)
      fun size nodes' ↦ size = nodes.size ∧ nodes' = nodes := by
  intro store hnodes htrace
  refine ⟨htrace, ?_⟩
  rintro _ ⟨⟩
  exact ⟨congrArg Array.size hnodes, hnodes⟩

theorem observe_ensures (setting : Setting τ) (event : Event)
    (h : ∀ trace, keeps trace → keeps (setting.observe trace event)) :
    Ensures keeps nodes (observe setting event) fun _ nodes' ↦ nodes' = nodes := by
  intro store hnodes htrace
  refine ⟨h store.trace htrace, ?_⟩
  rintro _ ⟨⟩
  exact hnodes

theorem recordFailure_ensures (offset : Nat) (expected : Expected) :
    Ensures keeps nodes (recordFailure offset expected : Work τ Unit)
      fun _ nodes' ↦ nodes' = nodes :=
  Ensures.modify _ (fun _ ↦ rfl) fun _ hnodes ↦ hnodes

theorem truncate_ensures (mark : Nat) :
    Ensures keeps nodes (truncate mark : Work τ Unit)
      fun _ nodes' ↦ nodes' = nodes.take mark :=
  Ensures.modify _ (fun _ ↦ rfl) fun _ hnodes ↦ by rw [hnodes]

theorem changeNode_ensures (id : NodeId) (change : Node → Node) :
    Ensures keeps nodes (changeNode id change : Work τ Unit)
      fun _ nodes' ↦ nodes' = nodes.modify id.index change :=
  Ensures.modify _ (fun _ ↦ rfl) fun _ hnodes ↦ by rw [hnodes]

theorem spendFuel_ensures :
    Ensures keeps nodes (spendFuel : Work τ Unit) fun _ nodes' ↦ nodes' = nodes := by
  intro store hnodes htrace
  obtain ⟨_, failures, fuel, trace⟩ := store
  cases fuel with
  | none =>
    refine ⟨htrace, ?_⟩
    rintro _ ⟨⟩
    exact hnodes
  | some fuel =>
    cases fuel with
    | zero =>
      refine ⟨htrace, ?_⟩
      rintro _ ⟨⟩
    | succ fuel =>
      refine ⟨htrace, ?_⟩
      rintro _ ⟨⟩
      exact hnodes

theorem push_ensures (node : Node) :
    Ensures keeps nodes (push node : Work τ NodeId)
      fun id nodes' ↦ id = ⟨nodes.size⟩ ∧ nodes' = nodes.push node := by
  intro store hnodes htrace
  refine ⟨htrace, ?_⟩
  rintro _ ⟨⟩
  rw [← hnodes]
  exact ⟨rfl, rfl⟩

end PegKit.Machine
