import PegKit.SyntaxTree
import Mathlib.Data.List.Perm.Basic

/-!
# Trees laid out in post-order

A tree can be written into an array of nodes with every element before its owner, the subtrees of a
node from left to right, and the root last. `ParseTree.nodes` lists the nodes of a tree written this
way from a given place on. Such an array can be read in several ways, and each gives back what the
tree determines: unfolding gives the tree, a walk in post-order gives consecutive places, and the
links between elements and owners agree in both directions.
-/

namespace PegKit

namespace ParseTree

mutual

/-- The number of nodes of a tree. -/
def size : ParseTree → Nat
  | .node _ _ _ _ elements => sizeOfList elements + 1

def sizeOfList : List ParseTree → Nat
  | [] => 0
  | tree :: rest => tree.size + sizeOfList rest

end

theorem size_pos (tree : ParseTree) : 0 < tree.size := by
  cases tree
  simp [size]

@[simp]
theorem sizeOfList_append (left right : List ParseTree) :
    sizeOfList (left ++ right) = sizeOfList left + sizeOfList right := by
  induction left with
  | nil => simp [sizeOfList]
  | cons tree rest ih => simp [sizeOfList, ih, Nat.add_assoc]

def rootPlace (base : Nat) (tree : ParseTree) : NodeId := ⟨base + tree.size - 1⟩

/-- The places of the roots of trees written one after the other from `base` on. -/
def rootPlaces (base : Nat) : List ParseTree → List NodeId
  | [] => []
  | tree :: rest => tree.rootPlace base :: rootPlaces (base + tree.size) rest

@[simp]
theorem rootPlaces_append (base : Nat) (left right : List ParseTree) :
    rootPlaces base (left ++ right) =
      rootPlaces base left ++ rootPlaces (base + sizeOfList left) right := by
  induction left generalizing base with
  | nil => simp [rootPlaces, sizeOfList]
  | cons tree rest ih => simp [rootPlaces, sizeOfList, ih, Nat.add_assoc]

@[simp]
theorem length_rootPlaces (base : Nat) (trees : List ParseTree) :
    (rootPlaces base trees).length = trees.length := by
  induction trees generalizing base with
  | nil => rfl
  | cons tree rest ih => simp [rootPlaces, ih]

mutual

/-- The nodes of a tree written from `base` on, whose root belongs to `owner`. -/
def nodes (base : Nat) (owner : Option NodeId) : ParseTree → List Node
  | .node kind span rule label elements =>
    nodesOfList base (some ⟨base + sizeOfList elements⟩) elements ++
      [⟨kind, span, rootPlaces base elements, owner, rule, label⟩]

def nodesOfList (base : Nat) (owner : Option NodeId) : List ParseTree → List Node
  | [] => []
  | tree :: rest => tree.nodes base owner ++ nodesOfList (base + tree.size) owner rest

end

mutual

@[simp]
theorem length_nodes (base : Nat) (owner : Option NodeId) :
    (tree : ParseTree) → (tree.nodes base owner).length = tree.size
  | .node _ _ _ _ elements => by simp [nodes, size, length_nodesOfList]

@[simp]
theorem length_nodesOfList (base : Nat) (owner : Option NodeId) :
    (trees : List ParseTree) → (nodesOfList base owner trees).length = sizeOfList trees
  | [] => rfl
  | tree :: rest => by simp [nodesOfList, sizeOfList, length_nodes, length_nodesOfList]

end

@[simp]
theorem nodesOfList_append (base : Nat) (owner : Option NodeId) (left right : List ParseTree) :
    nodesOfList base owner (left ++ right) =
      nodesOfList base owner left ++ nodesOfList (base + sizeOfList left) owner right := by
  induction left generalizing base with
  | nil => simp [nodesOfList, sizeOfList]
  | cons tree rest ih => simp [nodesOfList, sizeOfList, ih, Nat.add_assoc]

/-! ## Changes at the root -/

/-- The tree marked as produced for `rule`, in place of any rule it was marked with. -/
def withRule (id : RuleId) : ParseTree → ParseTree
  | .node kind span _ label elements => .node kind span (some id) label elements

/-- The tree under the label `name`, in place of any label it had. -/
def withLabel (name : Symbol) : ParseTree → ParseTree
  | .node kind span rule _ elements => .node kind span rule (some name) elements

@[simp]
theorem size_withRule (id : RuleId) (tree : ParseTree) : (tree.withRule id).size = tree.size := by
  cases tree
  simp [withRule, size]

@[simp]
theorem size_withLabel (name : Symbol) (tree : ParseTree) :
    (tree.withLabel name).size = tree.size := by
  cases tree
  simp [withLabel, size]

/-- A change of the element after `before`. -/
theorem modify_append_cons {α : Type} (before after : List α) (value : α) (change : α → α) :
    (before ++ value :: after).modify before.length change = before ++ change value :: after := by
  induction before with
  | nil => rfl
  | cons first rest ih => simpa using ih

/-- A change of the root of a tree that stands at the end. -/
theorem modify_root (before after : List Node) (base : Nat) (owner : Option NodeId)
    (tree changed : ParseTree) (owner' : Option NodeId) (change : Node → Node)
    (hbase : before.length = base)
    (hchange : ∀ kind span rule label elements,
      tree = .node kind span rule label elements →
        changed.nodes base owner' =
          nodesOfList base (some ⟨base + sizeOfList elements⟩) elements ++
            [change ⟨kind, span, rootPlaces base elements, owner, rule, label⟩]) :
    (before ++ tree.nodes base owner ++ after).modify (tree.rootPlace base).index change =
      before ++ changed.nodes base owner' ++ after := by
  obtain ⟨kind, span, rule, label, elements⟩ := tree
  have hplace : (rootPlace base (.node kind span rule label elements)).index =
      (before ++ nodesOfList base (some ⟨base + sizeOfList elements⟩) elements).length := by
    simp [rootPlace, size, hbase]
  rw [hchange kind span rule label elements rfl, hplace]
  simpa [nodes, List.append_assoc] using
    modify_append_cons (before ++ nodesOfList base (some ⟨base + sizeOfList elements⟩) elements)
      after ⟨kind, span, rootPlaces base elements, owner, rule, label⟩ change

theorem modify_root_rule (before : List Node) (owner : Option NodeId) (tree : ParseTree)
    (id : RuleId) :
    (before ++ tree.nodes before.length owner).modify (tree.rootPlace before.length).index
        (fun node ↦ { node with rule := some id }) =
      before ++ (tree.withRule id).nodes before.length owner := by
  simpa using modify_root before [] before.length owner tree (tree.withRule id) owner
    (fun node ↦ { node with rule := some id }) rfl
    (by rintro kind span rule label elements rfl; simp [withRule, nodes])

theorem modify_root_label (before : List Node) (owner : Option NodeId) (tree : ParseTree)
    (name : Symbol) :
    (before ++ tree.nodes before.length owner).modify (tree.rootPlace before.length).index
        (fun node ↦ { node with label := some name }) =
      before ++ (tree.withLabel name).nodes before.length owner := by
  simpa using modify_root before [] before.length owner tree (tree.withLabel name) owner
    (fun node ↦ { node with label := some name }) rfl
    (by rintro kind span rule label elements rfl; simp [withLabel, nodes])

/-- Giving an owner to the roots of trees that stand one after the other. -/
theorem foldl_modify_owner (before after : List Node) (base : Nat) (hbase : before.length = base)
    (owner owner' : Option NodeId) (trees : List ParseTree) :
    (rootPlaces base trees).foldl
        (fun nodes element ↦
          nodes.modify element.index fun node ↦ { node with parent := owner' })
        (before ++ nodesOfList base owner trees ++ after) =
      before ++ nodesOfList base owner' trees ++ after := by
  induction trees generalizing before base with
  | nil => simp [rootPlaces, nodesOfList]
  | cons tree rest ih =>
    have hfirst := modify_root before (nodesOfList (base + tree.size) owner rest ++ after) base
      owner tree tree owner' (fun node ↦ { node with parent := owner' }) hbase
      (by rintro kind span rule label elements rfl; simp [nodes])
    have hrest := ih (before ++ tree.nodes base owner') (base + tree.size) (by simp [hbase])
    simp only [rootPlaces, nodesOfList, List.foldl_cons, List.append_assoc] at hfirst hrest ⊢
    rw [hfirst, hrest]

end ParseTree

namespace Arena

open ParseTree

/-- The nodes `written` stand in the array from `base` on. -/
def Holds (arena : Arena) (base : Nat) (written : List Node) : Prop :=
  ∃ before after, arena.toList = before ++ written ++ after ∧ before.length = base

namespace Holds

variable {arena : Arena} {base : Nat} {left right : List Node}

theorem append_left (h : arena.Holds base (left ++ right)) : arena.Holds base left := by
  obtain ⟨before, after, harena, hbase⟩ := h
  exact ⟨before, right ++ after, by simpa [List.append_assoc] using harena, hbase⟩

theorem append_right (h : arena.Holds base (left ++ right)) :
    arena.Holds (base + left.length) right := by
  obtain ⟨before, after, harena, hbase⟩ := h
  exact ⟨before ++ left, after, by simpa [List.append_assoc] using harena, by simp [hbase]⟩

theorem getElem? {node : Node} (h : arena.Holds base (left ++ [node])) :
    arena[base + left.length]? = some node := by
  obtain ⟨before, after, harena, hbase⟩ := h.append_right
  rw [← Array.getElem?_toList, harena, ← hbase]
  simp

end Holds

/-! ## Writing trees at the end -/

/-- Adds trees without owner after the nodes there are. -/
def write (arena : Arena) (trees : List ParseTree) : Arena :=
  arena ++ (nodesOfList arena.size none trees).toArray

@[simp]
theorem toList_write (arena : Arena) (trees : List ParseTree) :
    (arena.write trees).toList = arena.toList ++ nodesOfList arena.size none trees := by
  simp [write]

@[simp]
theorem size_write (arena : Arena) (trees : List ParseTree) :
    (arena.write trees).size = arena.size + sizeOfList trees := by
  simp [write]

/-- The root of a tree that is written after others. -/
theorem rootPlaces_concat (arena : Arena) (trees : List ParseTree) (tree : ParseTree) :
    rootPlaces arena.size (trees ++ [tree]) =
      rootPlaces arena.size trees ++ [tree.rootPlace (arena.write trees).size] := by
  simp [rootPlaces]

@[simp]
theorem write_nil (arena : Arena) : arena.write [] = arena := by
  simp [write, nodesOfList]

@[simp]
theorem write_write (arena : Arena) (trees more : List ParseTree) :
    (arena.write trees).write more = arena.write (trees ++ more) := by
  apply Array.toList_inj.mp
  simp [write]

@[simp]
theorem take_write (arena : Arena) (trees : List ParseTree) :
    (arena.write trees).take arena.size = arena := by
  apply Array.toList_inj.mp
  simp

theorem holds_write (arena : Arena) (trees : List ParseTree) :
    (arena.write trees).Holds arena.size (nodesOfList arena.size none trees) :=
  ⟨arena.toList, [], by simp, by simp⟩

theorem holds_write_root (arena : Arena) (tree : ParseTree) :
    (arena.write [tree]).Holds arena.size (tree.nodes arena.size none) := by
  simpa [nodesOfList] using arena.holds_write [tree]

theorem push_bare (arena : Arena) (kind : NodeKind) (span : Text.Span) :
    arena.push (.bare kind span) = arena.write [.node kind span none none []] := by
  apply Array.toList_inj.mp
  simp [nodesOfList, nodes, rootPlaces, Node.bare]

theorem modify_rule (arena : Arena) (tree : ParseTree) (id : RuleId) :
    (arena.write [tree]).modify (tree.rootPlace arena.size).index
        (fun node ↦ { node with rule := some id }) =
      arena.write [tree.withRule id] := by
  apply Array.toList_inj.mp
  have hchange := modify_root_rule arena.toList none tree id
  simpa [nodesOfList] using hchange

theorem modify_label (arena : Arena) (tree : ParseTree) (name : Symbol) :
    (arena.write [tree]).modify (tree.rootPlace arena.size).index
        (fun node ↦ { node with label := some name }) =
      arena.write [tree.withLabel name] := by
  apply Array.toList_inj.mp
  have hchange := modify_root_label arena.toList none tree name
  simpa [nodesOfList] using hchange

/-! ## Unfolding -/

mutual

theorem unfoldTo_rootPlace (arena : Arena) (base : Nat) (owner : Option NodeId) (depth : Nat) :
    (tree : ParseTree) → arena.Holds base (tree.nodes base owner) → tree.size ≤ depth →
      arena.unfoldTo depth (tree.rootPlace base) = tree
  | .node kind span rule label elements, h, hdepth => by
    rw [nodes] at h
    rw [size] at hdepth
    obtain ⟨left, rfl⟩ : ∃ left, depth = left + 1 := ⟨depth - 1, by omega⟩
    have hroot : arena[base + sizeOfList elements]? = some
        ⟨kind, span, rootPlaces base elements, owner, rule, label⟩ := by
      simpa using h.getElem?
    have helements := unfoldTo_rootPlaces arena base _ left elements h.append_left (by omega)
    simp [rootPlace, size, unfoldTo, hroot, helements]

theorem unfoldTo_rootPlaces (arena : Arena) (base : Nat) (owner : Option NodeId) (depth : Nat) :
    (trees : List ParseTree) → arena.Holds base (nodesOfList base owner trees) →
      sizeOfList trees ≤ depth →
        (rootPlaces base trees).map (arena.unfoldTo depth) = trees
  | [], _, _ => rfl
  | tree :: rest, h, hdepth => by
    rw [nodesOfList] at h
    rw [sizeOfList] at hdepth
    have hfirst := unfoldTo_rootPlace arena base owner depth tree h.append_left (by omega)
    have hrest := unfoldTo_rootPlaces arena (base + tree.size) owner depth rest
      (by simpa using h.append_right) (by omega)
    simp [rootPlaces, hfirst, hrest]

end

/-- A tree written into an array is what its root unfolds to. -/
theorem unfold_rootPlace {arena : Arena} {base : Nat} {owner : Option NodeId} {tree : ParseTree}
    (h : arena.Holds base (tree.nodes base owner)) : arena.unfold (tree.rootPlace base) = tree := by
  have hpos := tree.size_pos
  exact unfoldTo_rootPlace arena base owner _ tree h (by simp only [rootPlace]; omega)

theorem unfold_write (arena : Arena) (tree : ParseTree) :
    (arena.write [tree]).unfold (tree.rootPlace arena.size) = tree :=
  unfold_rootPlace (arena.holds_write_root tree)

/-- The same for trees one after the other. -/
theorem map_unfold_rootPlaces {arena : Arena} {base : Nat} {owner : Option NodeId}
    {trees : List ParseTree} (h : arena.Holds base (nodesOfList base owner trees)) :
    (rootPlaces base trees).map arena.unfold = trees := by
  induction trees generalizing base with
  | nil => rfl
  | cons tree rest ih =>
    rw [nodesOfList] at h
    have hrest := @ih (base + tree.size) (by simpa using h.append_right)
    simp [rootPlaces, unfold_rootPlace h.append_left, hrest]

/-! ## Walks -/

/-- `id` and the nodes below it, each after its elements, at most `depth` levels of them. -/
def postorderTo (arena : Arena) : Nat → NodeId → List NodeId
  | 0, _ => []
  | depth + 1, id =>
    ((arena[id.index]?.map (·.elements)).getD []).flatMap (arena.postorderTo depth) ++ [id]

def postorder (arena : Arena) (id : NodeId) : List NodeId :=
  arena.postorderTo (id.index + 1) id

mutual

theorem postorderTo_rootPlace (arena : Arena) (base : Nat) (owner : Option NodeId)
    (depth : Nat) :
    (tree : ParseTree) → arena.Holds base (tree.nodes base owner) → tree.size ≤ depth →
      arena.postorderTo depth (tree.rootPlace base) = (List.range' base tree.size).map NodeId.mk
  | .node kind span rule label elements, h, hdepth => by
    rw [nodes] at h
    rw [size] at hdepth
    obtain ⟨left, rfl⟩ : ∃ left, depth = left + 1 := ⟨depth - 1, by omega⟩
    have hroot : arena[base + sizeOfList elements]? = some
        ⟨kind, span, rootPlaces base elements, owner, rule, label⟩ := by
      simpa using h.getElem?
    have helements := postorderTo_rootPlaces arena base _ left elements h.append_left (by omega)
    simp [rootPlace, size, postorderTo, hroot, helements, List.range'_concat]

theorem postorderTo_rootPlaces (arena : Arena) (base : Nat) (owner : Option NodeId)
    (depth : Nat) :
    (trees : List ParseTree) → arena.Holds base (nodesOfList base owner trees) →
      sizeOfList trees ≤ depth →
        (rootPlaces base trees).flatMap (arena.postorderTo depth) =
          (List.range' base (sizeOfList trees)).map NodeId.mk
  | [], _, _ => rfl
  | tree :: rest, h, hdepth => by
    rw [nodesOfList] at h
    rw [sizeOfList] at hdepth
    have hfirst := postorderTo_rootPlace arena base owner depth tree h.append_left (by omega)
    have hrest := postorderTo_rootPlaces arena (base + tree.size) owner depth rest
      (by simpa using h.append_right) (by omega)
    rw [rootPlaces, List.flatMap_cons, hfirst, hrest, sizeOfList, ← List.map_append,
      List.range'_append_1]

end

/-- The places of a written tree in post-order are consecutive. -/
theorem postorder_rootPlace {arena : Arena} {base : Nat} {owner : Option NodeId}
    {tree : ParseTree} (h : arena.Holds base (tree.nodes base owner)) :
    arena.postorder (tree.rootPlace base) = (List.range' base tree.size).map NodeId.mk := by
  have hpos := tree.size_pos
  exact postorderTo_rootPlace arena base owner _ tree h (by simp only [rootPlace]; omega)

/-- Both walks visit the same nodes equally often. -/
theorem preorderTo_perm_postorderTo (arena : Arena) (depth : Nat) (id : NodeId) :
    (arena.preorderTo depth id).Perm (arena.postorderTo depth id) := by
  induction depth generalizing id with
  | zero => exact .refl _
  | succ depth ih =>
    rw [preorderTo, postorderTo]
    have helements := List.Perm.flatMap_left
      ((arena[id.index]?.map (·.elements)).getD []) fun element _ ↦ ih element
    exact (helements.cons id).trans (List.perm_append_singleton id _).symm

/-! ## Links between elements and owners -/

section Links

variable {arena : Arena}

/-- The roots of written trees lie where they were written and belong to the owner given. -/
theorem rootPlaces_owned {base : Nat} {owner : Option NodeId} {trees : List ParseTree}
    (h : arena.Holds base (nodesOfList base owner trees)) {id : NodeId}
    (hid : id ∈ rootPlaces base trees) :
    base ≤ id.index ∧ id.index < base + sizeOfList trees ∧
      ∃ node, arena[id.index]? = some node ∧ node.parent = owner := by
  induction trees generalizing base with
  | nil => simp [rootPlaces] at hid
  | cons tree rest ih =>
    rw [nodesOfList] at h
    rw [rootPlaces, List.mem_cons] at hid
    rw [sizeOfList]
    rcases hid with rfl | hid
    · obtain ⟨kind, span, rule, label, elements⟩ := tree
      have hroot := h.append_left
      rw [nodes] at hroot
      refine ⟨by simp [rootPlace, size], by simp [rootPlace, size]; omega, ?_⟩
      exact ⟨_, by simpa [rootPlace, size] using hroot.getElem?, rfl⟩
    · obtain ⟨hlow, hhigh, hnode⟩ := @ih (base + tree.size)
        (by simpa using h.append_right) hid
      exact ⟨by omega, by omega, hnode⟩

/-- The elements of the node at `place` come before it, not before `base`, and belong to it. -/
def LinksDown (arena : Arena) (base place : Nat) : Prop :=
  ∀ node, arena[place]? = some node → ∀ element ∈ node.elements,
    base ≤ element.index ∧ element.index < place ∧
      ∃ child, arena[element.index]? = some child ∧ child.parent = some ⟨place⟩

/-- The node at `place` belongs to a later one before `bound`, of which it is an element. -/
def LinksUp (arena : Arena) (bound place : Nat) : Prop :=
  ∃ node id owner, arena[place]? = some node ∧ node.parent = some id ∧ place < id.index ∧
    id.index < bound ∧ arena[id.index]? = some owner ∧ ⟨place⟩ ∈ owner.elements

theorem LinksDown.mono {base base' place : Nat} (h : arena.LinksDown base' place)
    (hbase : base ≤ base') : arena.LinksDown base place := by
  intro node hnode element helement
  obtain ⟨hlow, hrest⟩ := h node hnode element helement
  exact ⟨Nat.le_trans hbase hlow, hrest⟩

theorem LinksUp.mono {bound bound' place : Nat} (h : arena.LinksUp bound place)
    (hbound : bound ≤ bound') : arena.LinksUp bound' place := by
  obtain ⟨node, id, owner, hnode, hparent, hlater, hid, hrest⟩ := h
  exact ⟨node, id, owner, hnode, hparent, hlater, Nat.lt_of_lt_of_le hid hbound, hrest⟩

mutual

theorem nodes_linksDown (base : Nat) (owner : Option NodeId) :
    (tree : ParseTree) → arena.Holds base (tree.nodes base owner) →
      ∀ place, base ≤ place → place < base + tree.size → arena.LinksDown base place
  | .node kind span rule label elements, h, place, hlow, hhigh => by
    rw [nodes] at h
    rw [size] at hhigh
    by_cases hroot : place = base + sizeOfList elements
    · subst hroot
      intro node hnode element helement
      have hwritten := h.getElem?
      rw [length_nodesOfList, hnode, Option.some.injEq] at hwritten
      subst hwritten
      obtain ⟨hfirst, hlast, hchild⟩ := rootPlaces_owned h.append_left helement
      exact ⟨hfirst, hlast, hchild⟩
    · exact nodesOfList_linksDown base _ elements h.append_left place hlow (by omega)

theorem nodesOfList_linksDown (base : Nat) (owner : Option NodeId) :
    (trees : List ParseTree) → arena.Holds base (nodesOfList base owner trees) →
      ∀ place, base ≤ place → place < base + sizeOfList trees → arena.LinksDown base place
  | [], _, place, hlow, hhigh => by
    rw [sizeOfList] at hhigh
    omega
  | tree :: rest, h, place, hlow, hhigh => by
    rw [nodesOfList] at h
    rw [sizeOfList] at hhigh
    by_cases hfirst : place < base + tree.size
    · exact nodes_linksDown base owner tree h.append_left place hlow hfirst
    · have hrest := nodesOfList_linksDown (base + tree.size) owner rest
        (by simpa using h.append_right) place (by omega) (by omega)
      exact hrest.mono (by omega)

end

mutual

theorem nodes_linksUp (base : Nat) (owner : Option NodeId) :
    (tree : ParseTree) → arena.Holds base (tree.nodes base owner) →
      ∀ place, base ≤ place → place < base + tree.size - 1 →
        arena.LinksUp (base + tree.size) place
  | .node kind span rule label elements, h, place, hlow, hhigh => by
    rw [nodes] at h
    rw [size] at hhigh ⊢
    have hroot := h.getElem?
    rw [length_nodesOfList] at hroot
    rcases nodesOfList_linksUp base _ elements h.append_left place hlow (by omega) with
      ⟨hmember, node, hnode, hparent⟩ | hup
    · exact ⟨node, _, _, hnode, hparent, by simpa using by omega, by simp, hroot, hmember⟩
    · exact hup.mono (by omega)

theorem nodesOfList_linksUp (base : Nat) (owner : Option NodeId) :
    (trees : List ParseTree) → arena.Holds base (nodesOfList base owner trees) →
      ∀ place, base ≤ place → place < base + sizeOfList trees →
        (⟨place⟩ ∈ rootPlaces base trees ∧
            ∃ node, arena[place]? = some node ∧ node.parent = owner) ∨
          arena.LinksUp (base + sizeOfList trees) place
  | [], _, place, hlow, hhigh => by
    rw [sizeOfList] at hhigh
    omega
  | tree :: rest, h, place, hlow, hhigh => by
    have hall := h
    rw [nodesOfList] at h
    rw [sizeOfList] at hhigh ⊢
    have hpos := tree.size_pos
    by_cases hfirst : place < base + tree.size
    · by_cases hroot : place = base + tree.size - 1
      · have hmember : ⟨place⟩ ∈ rootPlaces base (tree :: rest) := by
          simp [rootPlaces, rootPlace, hroot]
        obtain ⟨_, _, hnode⟩ := rootPlaces_owned hall hmember
        exact .inl ⟨hmember, hnode⟩
      · have hup := nodes_linksUp base owner tree h.append_left place hlow (by omega)
        exact .inr (hup.mono (by omega))
    · rcases nodesOfList_linksUp (base + tree.size) owner rest (by simpa using h.append_right)
        place (by omega) (by omega) with ⟨hmember, hnode⟩ | hup
      · exact .inl ⟨List.mem_cons_of_mem _ hmember, hnode⟩
      · exact .inr (hup.mono (by omega))

end

end Links

end Arena

end PegKit
