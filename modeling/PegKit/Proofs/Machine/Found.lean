import PegKit.Proofs.Machine.Attained
import PegKit.Proofs.Machine.Limits
import PegKit.Proofs.Machine.Loops

/-!
# What is found under large limits

`Finds` says what the machine comes to under limits that are large enough, whatever surrounds the
evaluation. This is what the big-step account of attempts says and nothing else, and a single
evaluation that returns tells it.
-/

namespace PegKit.Machine

open Program (Yield)

variable {τ : Type}

/-- Where an evaluation begins. -/
structure Stage where
  scene : Scene
  place : Cursor

/-- Under all limits that are large enough, the operation comes to `result`, whatever surrounds its
evaluation and however deep it is: a failure, or a match that leaves these nodes and that place. -/
def Finds (setting : Setting τ) (id : OpId) : Attempt Stage := fun stage result ↦
  ∃ evaluations nesting, ∀ (limits : RunLimits) (around : Stacks),
    limits.Allow ⟨evaluations, around.depth + nesting⟩ →
      around.visible = stage.scene.visible → ∀ failures trace, ∃ hit store,
        ((eval { setting with depthLimit := limits.recursionFuel } limits.recursionFuel id
            stage.place).run around).run.run
          ⟨stage.scene.nodes, failures, limits.execFuel, trace⟩ = (.ok (hit, around), store) ∧
        hit.map (fun hit ↦ ⟨{ stage.scene with nodes := store.nodes }, hit.after⟩) = result

/-- Under all limits that are large enough, the operation ends at `stop`, or fails. -/
def Reaches (setting : Setting τ) (id : OpId) (stage : Stage) (stop : Option Cursor) : Prop :=
  ∃ result, Finds setting id stage result ∧ result.map (·.place) = stop

namespace Scoped

/-- Without stacks, the limit on nesting is not looked at. -/
theorem eval_depthLimit (setting : Setting τ) (depthLimit levels : Nat) :
    eval { setting with depthLimit } levels = eval setting levels := by
  induction levels with
  | zero => rfl
  | succ levels ih =>
    have hchoice (scope : Scope) (cursor : Cursor) (ids : List OpId) :
        choice { setting with depthLimit } (eval setting levels) scope cursor ids =
          choice setting (eval setting levels) scope cursor ids := by
      induction ids with
      | nil => rfl
      | cons id rest ihrest =>
        cases rest with
        | nil => rfl
        | cons next rest =>
          simp only [choice, ihrest]
          rfl
    have hstep (id : OpId) (op : Op) (scope : Scope) (cursor : Cursor) :
        step { setting with depthLimit } (eval setting levels) id op scope cursor =
          step setting (eval setting levels) id op scope cursor := by
      cases op with
      | choice ids => exact hchoice scope cursor ids
      | _ => rfl
    funext id scope cursor
    simp only [eval, ih, hstep]

end Scoped

/-- An evaluation under limits, from what it comes to without stacks. -/
theorem eval_within (setting : Setting τ) (limits : RunLimits) (id : OpId) (cursor : Cursor)
    (around : Stacks) :
    (eval { setting with depthLimit := limits.recursionFuel } limits.recursionFuel id cursor).run
        around =
      (fun found ↦ (found, around)) <$>
        Scoped.eval setting (limits.recursionFuel - around.depth) id around.scope cursor := by
  rw [eval_run, Scoped.eval_depthLimit, Nat.min_eq_right (Nat.sub_le _ _)]

section Finds

variable {setting : Setting τ} {id : OpId} {scene : Scene} {cursor : Cursor} {stage : Stage}
  {result : Option Stage} {stop : Option Cursor}

/-- What one evaluation comes to is what is tried. -/
theorem tries_of_eval {limits : RunLimits} {around around' : Stacks} {store store' : Store τ}
    {hit : Option Match} (hvisible : around.visible = scene.visible)
    (hnodes : store.nodes = scene.nodes)
    (hrun : ((eval { setting with depthLimit := limits.recursionFuel } limits.recursionFuel id
      cursor).run around).run.run store = (.ok (hit, around'), store')) :
    ∃ yield misses, Tries setting (.eval id) scene cursor yield misses ∧
      yield.map (fun found ↦ Stage.mk (scene.grown found.1) found.2) =
        hit.map (fun hit ↦ ⟨{ scene with nodes := store'.nodes }, hit.after⟩) := by
  rw [eval_within, ExceptT.run_map, StateT.run_map] at hrun
  have hscope : around.scope = ⟨scene.visible, around.quiet⟩ := by
    rw [← hvisible]
    rfl
  have haccounts := eval_accounts setting (limits.recursionFuel - around.depth) id around.quiet
    cursor scene store.failures store hnodes rfl
  rw [← hscope] at haccounts
  cases hscoped : (Scoped.eval setting (limits.recursionFuel - around.depth) id around.scope
      cursor).run.run store with
  | mk answer between =>
    rw [hscoped] at hrun haccounts
    cases answer with
    | error error => cases hrun
    | ok hit' =>
      cases hrun
      obtain ⟨⟨misses, hleaves, _⟩, _⟩ := haccounts hit rfl
      cases hit with
      | none => exact ⟨none, misses, hleaves.1, rfl⟩
      | some hit =>
        obtain ⟨tree, htries, _, hwritten⟩ := hleaves
        refine ⟨_, misses, htries, ?_⟩
        rw [Option.map_some, Option.map_some, Scene.grown, ← hwritten]

/-- What is tried is found. -/
theorem Finds.of_tries {yield : Yield} {misses : List Miss}
    (h : Tries setting (.eval id) stage.scene stage.place yield misses) :
    Finds setting id stage
      (yield.map fun found ↦ ⟨stage.scene.grown found.1, found.2⟩) := by
  obtain ⟨cost, least, henough⟩ := h.enough
  refine ⟨cost, least, fun limits around hallow hvisible failures trace ↦ ?_⟩
  have hscope : around.scope = ⟨stage.scene.visible, around.quiet⟩ := by
    rw [← hvisible]
    rfl
  obtain ⟨hit, store, hrun, _⟩ := henough _ (Nat.le_sub_of_add_le' hallow.recursion) around.quiet
    ⟨stage.scene.nodes, failures, limits.execFuel, trace⟩ 0 rfl hallow.fuel
  have hwhole : ((eval { setting with depthLimit := limits.recursionFuel } limits.recursionFuel id
      stage.place).run around).run.run ⟨stage.scene.nodes, failures, limits.execFuel, trace⟩ =
        (.ok (hit, around), store) := by
    rw [eval_within, ExceptT.run_map, StateT.run_map, hscope, hrun]
    rfl
  obtain ⟨yield', misses', htries', hends⟩ := tries_of_eval hvisible rfl hwhole
  refine ⟨hit, store, hwhole, ?_⟩
  rw [← hends, (h.unique htries').1]

/-- Stacks in which the elements of one open sequence are those of the scene. -/
def Stacks.around (scene : Scene) : Stacks := ⟨scene.visible.toArray, [0], 0, 0⟩

theorem Stacks.visible_around (scene : Scene) : (Stacks.around scene).visible = scene.visible := by
  simp [around, visible]

/-- The machine finds under large limits what is tried, and nothing else. -/
theorem finds_iff [Inhabited τ] : Finds setting id stage result ↔
    ∃ yield misses, Tries setting (.eval id) stage.scene stage.place yield misses ∧
      yield.map (fun found ↦ ⟨stage.scene.grown found.1, found.2⟩) = result := by
  constructor
  · rintro ⟨evaluations, nesting, hfinds⟩
    have hallow : (⟨none, nesting⟩ : RunLimits).Allow
        ⟨evaluations, (Stacks.around stage.scene).depth + nesting⟩ :=
      ⟨by rintro _ ⟨⟩, (Nat.zero_add nesting).le⟩
    have hvisible := Stacks.visible_around stage.scene
    obtain ⟨hit, store, hrun, rfl⟩ := hfinds _ _ hallow hvisible .empty default
    exact tries_of_eval hvisible rfl hrun
  · rintro ⟨yield, misses, htries, rfl⟩
    exact .of_tries htries

theorem reaches_iff [Inhabited τ] : Reaches setting id stage stop ↔
    ∃ yield misses, Tries setting (.eval id) stage.scene stage.place yield misses ∧
      yield.map (·.2) = stop := by
  constructor
  · rintro ⟨_, hfinds, rfl⟩
    obtain ⟨yield, misses, htries, rfl⟩ := finds_iff.mp hfinds
    exact ⟨yield, misses, htries, by rw [Option.map_map]; rfl⟩
  · rintro ⟨yield, misses, htries, rfl⟩
    exact ⟨_, .of_tries htries, by rw [Option.map_map]; rfl⟩

theorem finds_definite [Inhabited τ] : (Finds setting id).Definite := by
  intro stage result result' hresult hresult'
  obtain ⟨yield, _, htries, rfl⟩ := finds_iff.mp hresult
  obtain ⟨yield', _, htries', rfl⟩ := finds_iff.mp hresult'
  rw [(htries.unique htries').1]

theorem finds_none_iff [Inhabited τ] : Finds setting id stage none ↔
    ∃ misses, Tries setting (.eval id) stage.scene stage.place none misses := by
  rw [finds_iff]
  constructor
  · rintro ⟨yield, misses, htries, hnone⟩
    obtain rfl := Option.map_eq_none_iff.mp hnone
    exact ⟨misses, htries⟩
  · rintro ⟨misses, htries⟩
    exact ⟨none, misses, htries, rfl⟩

theorem finds_some_iff [Inhabited τ] {next : Stage} : Finds setting id stage (some next) ↔
    ∃ tree misses, next.scene = stage.scene.grown tree ∧
      Tries setting (.eval id) stage.scene stage.place (some (tree, next.place)) misses := by
  rw [finds_iff]
  constructor
  · rintro ⟨yield, misses, htries, hsome⟩
    obtain ⟨⟨tree, place⟩, rfl, rfl⟩ := Option.map_eq_some_iff.mp hsome
    exact ⟨tree, misses, rfl, htries⟩
  · rintro ⟨tree, misses, hscene, htries⟩
    exact ⟨_, misses, htries, by rw [Option.map_some, ← hscene]⟩

/-- One evaluation tells what is reached under larger limits too. -/
theorem Reaches.of_eval {limits : RunLimits} {around : Stacks} {store : Store τ}
    (hvisible : around.visible = stage.scene.visible) (hnodes : store.nodes = stage.scene.nodes)
    (hends : (((eval { setting with depthLimit := limits.recursionFuel } limits.recursionFuel id
      stage.place).run around).run.run store).1.toOption.map (·.1.map (·.after)) = some stop) :
    Reaches setting id stage stop := by
  obtain ⟨answer, hanswer, rfl⟩ := Option.map_eq_some_iff.mp hends
  cases hrun : ((eval { setting with depthLimit := limits.recursionFuel } limits.recursionFuel id
      stage.place).run around).run.run store with
  | mk result store' =>
    rw [hrun] at hanswer
    cases result with
    | error error => cases hanswer
    | ok answer' =>
      cases hanswer
      obtain ⟨yield, misses, htries, hfound⟩ := tries_of_eval hvisible hnodes hrun
      refine ⟨_, .of_tries htries, ?_⟩
      rw [hfound, Option.map_map]
      rfl

/-- At the start, an evaluation without a limit on evaluations tells what is reached. -/
theorem Reaches.of_start {setting : Setting Unit} {place : Cursor} (levels : Nat)
    (hends : (((eval { setting with depthLimit := levels } levels id place).run .empty).run.run
      ⟨#[], .empty, none, ()⟩).1.toOption.map (·.1.map (·.after)) = some stop) :
    Reaches setting id ⟨.start, place⟩ stop :=
  @Reaches.of_eval _ _ _ _ _ ⟨none, levels⟩ .empty ⟨#[], .empty, none, ()⟩ rfl rfl hends

theorem Reaches.unique [Inhabited τ] {stop' : Option Cursor} (h : Reaches setting id stage stop)
    (h' : Reaches setting id stage stop') : stop = stop' := by
  obtain ⟨result, hresult, rfl⟩ := h
  obtain ⟨result', hresult', rfl⟩ := h'
  rw [finds_definite _ _ _ hresult hresult']

end Finds

end PegKit.Machine
