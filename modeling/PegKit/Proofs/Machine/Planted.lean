import PegKit.Proofs.Machine.Realization

/-!
# What predicates see

In a run that begins without nodes, the nodes are at any time those of trees written one after the
other, and the elements that a predicate sees are the roots of some that follow each other.
-/

namespace PegKit.Machine

open ParseTree (rootPlaces sizeOfList)

variable {τ : Type}

/-- The nodes are those of trees written from the start, and `ids` stand for some of these trees
that follow each other. -/
def Planted (nodes : Arena) (ids : List NodeId) (trees : List ParseTree) : Prop :=
  ∃ before after, nodes = Arena.write #[] (before ++ trees ++ after) ∧
    ids = rootPlaces (sizeOfList before) trees

namespace Planted

variable {nodes : Arena} {ids : List NodeId} {trees : List ParseTree}

theorem empty : Planted #[] [] [] := ⟨[], [], by simp, rfl⟩

theorem opened (h : Planted nodes ids trees) (elements : List ParseTree) :
    Planted (nodes.write elements) (rootPlaces nodes.size elements) elements := by
  obtain ⟨before, after, rfl, _⟩ := h
  exact ⟨before ++ trees ++ after, [], by simp, by simp⟩

theorem grown (h : Planted nodes ids trees) (more : List ParseTree) :
    Planted (nodes.write more) ids trees := by
  obtain ⟨before, after, rfl, hids⟩ := h
  exact ⟨before, after ++ more, by simp, hids⟩

theorem holds (h : Planted nodes ids trees) :
    ∃ base, ids = rootPlaces base trees ∧
      nodes.Holds base (ParseTree.nodesOfList base none trees) := by
  obtain ⟨before, after, rfl, rfl⟩ := h
  have hheld := Arena.holds_write #[] (before ++ trees ++ after)
  rw [ParseTree.nodesOfList_append, ParseTree.nodesOfList_append] at hheld
  have hmiddle := hheld.append_left.append_right
  simp only [ParseTree.length_nodesOfList, Array.size_empty, Nat.zero_add] at hmiddle
  exact ⟨_, rfl, hmiddle⟩

end Planted

/-- Predicates are decided by what is bound to them, where they see trees among the nodes. -/
def Setting.decides (setting : Setting τ) : Program.Decision :=
  fun hook trees cursor holds ↦ ∃ binding nodes ids,
    setting.predicates[hook.index]?.join = some binding ∧ Planted nodes ids trees ∧
      binding.condition ⟨setting.program, setting.input, nodes, ids, cursor.offset, cursor.rest⟩ =
        .ok holds

/-- In a run that begins without nodes, predicates see trees. -/
def Watch.planted (setting : Setting τ) (keeps : τ → Prop)
    (observed : ∀ trace event, keeps trace → (∀ key env, event ≠ .ask key env) →
      keeps (setting.observe trace event))
    (asked : ∀ trace key env, keeps trace →
      (∃ trees, Planted env.nodes env.elements trees) →
        keeps (setting.observe trace (.ask key env))) : Watch setting where
  sees := Planted
  keeps := keeps
  decides := setting.decides
  opened h elements := h.opened elements
  grown h more := h.grown more
  observed htrace hevent := observed _ _ htrace hevent
  asked htrace h key _ _ := asked _ key _ htrace ⟨_, h⟩
  decided h _ _ _ _ hbinding hcondition := ⟨_, _, _, hbinding, h, hcondition⟩

end PegKit.Machine
