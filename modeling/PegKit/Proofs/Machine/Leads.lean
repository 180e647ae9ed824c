import PegKit.Proofs.Machine.Backtracking

/-!
# Where actions lead

What a run reports depends on its failures besides the nodes. `Leads nodes failures action post`
speaks of both: started from `nodes` and `failures`, whatever the rest is, the action ends with an
error, or with a result, nodes and failures that `post` holds of. Most actions leave the failures
alone, and for these it is enough to know what they ensure of the nodes.
-/

namespace PegKit.Machine

variable {τ α β : Type}

/-- The action leaves the failures alone. -/
def Spares (action : Work τ α) : Prop :=
  ∀ store : Store τ, (action.run.run store).2.failures = store.failures

namespace Spares

theorem bind {action : Work τ α} {next : α → Work τ β} (h : Spares action)
    (hnext : ∀ value, Spares (next value)) : Spares (action >>= next) := by
  intro store
  have hfirst := h store
  rw [ExceptT.run_bind, StateT.run_bind]
  cases hrun : action.run.run store with
  | mk result store' =>
    rw [hrun] at hfirst
    cases result with
    | error error => exact hfirst
    | ok value => exact (hnext value store').trans hfirst

theorem pure (value : α) : Spares (Pure.pure value : Work τ α) := fun _ ↦ rfl

theorem observe (setting : Setting τ) (event : Event) : Spares (observe setting event) :=
  fun _ ↦ rfl

theorem push (node : Node) : Spares (push node : Work τ NodeId) := fun _ ↦ rfl

theorem pushEmpty (cursor : Cursor) : Spares (pushEmpty cursor : Work τ Match) :=
  (push _).bind fun _ ↦ pure _

theorem pushOwner (kind : NodeKind) (start stop : Cursor) (elements : List NodeId) :
    Spares (pushOwner kind start stop elements : Work τ Match) :=
  bind (fun _ ↦ rfl) fun _ ↦ (push _).bind fun _ ↦ pure _

theorem succeed (setting : Setting τ) (id : OpId) (start stop : Cursor) :
    Spares (succeed setting id start stop) :=
  (observe _ _).bind fun _ ↦ (push _).bind fun _ ↦ pure _

end Spares

/-- Started from `nodes` and `failures`, the action ends with an error, or with a result, nodes and
failures that `post` holds of. -/
def Leads (nodes : Arena) (failures : FailureSet) (action : Work τ α)
    (post : α → Arena → FailureSet → Prop) : Prop :=
  ∀ store : Store τ, store.nodes = nodes → store.failures = failures →
    ∀ value, (action.run.run store).1 = .ok value →
      post value (action.run.run store).2.nodes (action.run.run store).2.failures

variable {nodes : Arena} {failures : FailureSet}

namespace Leads

theorem pure {value : α} {post : α → Arena → FailureSet → Prop} (h : post value nodes failures) :
    Leads nodes failures (Pure.pure value : Work τ α) post := by
  rintro store rfl rfl _ ⟨⟩
  exact h

theorem throw {error : RuntimeError} {post : α → Arena → FailureSet → Prop} :
    Leads nodes failures (MonadExcept.throw error : Work τ α) post := by
  rintro _ _ _ _ ⟨⟩

theorem bind {action : Work τ α} {next : α → Work τ β} {mid : α → Arena → FailureSet → Prop}
    {post : β → Arena → FailureSet → Prop} (h : Leads nodes failures action mid)
    (hnext : ∀ value nodes' failures', mid value nodes' failures' →
      Leads nodes' failures' (next value) post) :
    Leads nodes failures (action >>= next) post := by
  intro store hnodes hfailures
  have hmid := h store hnodes hfailures
  rw [ExceptT.run_bind, StateT.run_bind]
  cases hrun : action.run.run store with
  | mk result store' =>
    rw [hrun] at hmid
    cases result with
    | error error => rintro _ ⟨⟩
    | ok value =>
      exact hnext value store'.nodes store'.failures (hmid value rfl) store' rfl rfl

theorem mono {action : Work τ α} {post post' : α → Arena → FailureSet → Prop}
    (h : Leads nodes failures action post)
    (hpost : ∀ value nodes' failures', post value nodes' failures' →
      post' value nodes' failures') :
    Leads nodes failures action post' := by
  intro store hnodes hfailures value hok
  exact hpost _ _ _ (h store hnodes hfailures value hok)

/-- What an action does to the nodes, when it leaves the failures alone. -/
theorem framed {setting : Setting τ} {action : Work τ α} {post : α → Arena → Prop}
    (h : Ensures (Watch.blind setting).keeps nodes action post) (hspares : Spares action) :
    Leads nodes failures action fun value nodes' failures' ↦
      post value nodes' ∧ failures' = failures := by
  intro store hnodes hfailures value hok
  exact ⟨(h store hnodes trivial).2 value hok, (hspares store).trans hfailures⟩

/-- An action that leaves nodes and failures alone comes first. -/
theorem andThen {action : Work τ α} {next : α → Work τ β} {post : β → Arena → FailureSet → Prop}
    (h : Leads nodes failures action fun _ nodes' failures' ↦
      nodes' = nodes ∧ failures' = failures)
    (hnext : ∀ value, Leads nodes failures (next value) post) :
    Leads nodes failures (action >>= next) post := by
  refine h.bind ?_
  rintro value _ _ ⟨rfl, rfl⟩
  exact hnext value

end Leads

/-! ## Actions on what is left behind -/

theorem observe_leads (setting : Setting τ) (event : Event) :
    Leads nodes failures (observe setting event) fun _ nodes' failures' ↦
      nodes' = nodes ∧ failures' = failures := by
  rintro store rfl rfl _ ⟨⟩
  exact ⟨rfl, rfl⟩

theorem spendFuel_leads :
    Leads nodes failures (spendFuel : Work τ Unit) fun _ nodes' failures' ↦
      nodes' = nodes ∧ failures' = failures := by
  rintro ⟨_, _, fuel, trace⟩ rfl rfl
  cases fuel with
  | none =>
    rintro _ ⟨⟩
    exact ⟨rfl, rfl⟩
  | some fuel =>
    cases fuel with
    | zero => rintro _ ⟨⟩
    | succ fuel =>
      rintro _ ⟨⟩
      exact ⟨rfl, rfl⟩

theorem arenaSize_leads :
    Leads nodes failures (arenaSize : Work τ Nat) fun size nodes' failures' ↦
      size = nodes.size ∧ nodes' = nodes ∧ failures' = failures := by
  rintro store rfl rfl _ ⟨⟩
  exact ⟨rfl, rfl, rfl⟩

theorem truncate_leads (mark : Nat) :
    Leads nodes failures (truncate mark : Work τ Unit) fun _ nodes' failures' ↦
      nodes' = nodes.take mark ∧ failures' = failures := by
  rintro store rfl rfl _ ⟨⟩
  exact ⟨rfl, rfl⟩

theorem changeNode_leads (id : NodeId) (change : Node → Node) :
    Leads nodes failures (changeNode id change : Work τ Unit) fun _ nodes' failures' ↦
      nodes' = nodes.modify id.index change ∧ failures' = failures := by
  rintro store rfl rfl _ ⟨⟩
  exact ⟨rfl, rfl⟩

theorem recordFailure_leads (offset : Nat) (expected : Expected) :
    Leads nodes failures (recordFailure offset expected : Work τ Unit) fun _ nodes' failures' ↦
      nodes' = nodes ∧ failures' = failures.record offset expected := by
  rintro store rfl rfl _ ⟨⟩
  exact ⟨rfl, rfl⟩

theorem get_leads :
    Leads nodes failures (get : Work τ (Store τ)) fun store nodes' failures' ↦
      store.nodes = nodes ∧ nodes' = nodes ∧ failures' = failures := by
  rintro store rfl rfl _ ⟨⟩
  exact ⟨rfl, rfl, rfl⟩

end PegKit.Machine
