import PegKit.Proofs.Cst.Means
import PegKit.Analysis

/-!
# References and the rules they name

References are checked on the tree of a text, and programs are built from its meaning. Every name
that the meaning of a complete tree refers to is the name of a reference node in the tree, so what
the check has passed has no reference to a missing rule. Of two rules with one name the table of
rules has only the first.
-/

namespace PegKit.Cst

/-- A reference node with the name is among the nodes. -/
def RefersTo (found : List Cst) (name : String) : Prop :=
  ∃ tree ∈ found, tree.kind = .refNode ∧ ∃ token, tree.name? = some token ∧ token.text = name

theorem RefersTo.mono {found found' : List Cst} {name : String} (hsub : found ⊆ found')
    (h : RefersTo found name) : RefersTo found' name := by
  obtain ⟨tree, htree, hrefers⟩ := h
  exact ⟨tree, hsub htree, hrefers⟩

theorem nodes_subset {trees : List Cst} {tree : Cst} (h : tree ∈ trees) :
    tree.nodes ⊆ nodesOfList trees := by
  intro found hfound
  rw [nodesOfList_eq_flatMap]
  exact List.mem_flatMap.mpr ⟨tree, h, hfound⟩

theorem nodesOfList_children_subset (tree : Cst) : nodesOfList tree.children ⊆ tree.nodes := by
  cases tree with
  | leaf token => exact List.nil_subset _
  | node kind children => exact List.subset_cons_self _ _

/-- The nodes of a child are nodes of the tree. -/
theorem nodes_subset_of_mem_children {tree child : Cst} (h : child ∈ tree.children) :
    child.nodes ⊆ tree.nodes :=
  List.Subset.trans (nodes_subset h) (nodesOfList_children_subset tree)

theorem Entire.child {tree child : Cst} (h : tree.Entire) (hchild : child ∈ tree.children) :
    child.Entire :=
  fun found hfound ↦ h found (nodes_subset_of_mem_children hchild hfound)

section Inherited

variable {P : Cst → Prop}

mutual

/-- What every child takes over from its parent holds of all nodes. -/
theorem of_mem_nodes (hinherited : ∀ {tree child : Cst}, P tree → child ∈ tree.children → P child) :
    (tree : Cst) → P tree → ∀ found ∈ tree.nodes, P found
  | .leaf _, _ => by rintro _ ⟨⟩
  | .node kind children, h => by
    intro found hfound
    rcases List.mem_cons.mp hfound with rfl | hbelow
    · exact h
    · have hchildren : ∀ tree ∈ children, P tree := fun _ hchild ↦ hinherited h hchild
      exact of_mem_nodesOfList hinherited children hchildren found hbelow

theorem of_mem_nodesOfList
    (hinherited : ∀ {tree child : Cst}, P tree → child ∈ tree.children → P child) :
    (trees : List Cst) → (∀ tree ∈ trees, P tree) → ∀ found ∈ nodesOfList trees, P found
  | [], _ => by rintro _ ⟨⟩
  | tree :: rest, h => by
    obtain ⟨hfirst, hrest⟩ := List.forall_mem_cons.mp h
    intro found hfound
    rcases List.mem_append.mp hfound with hfound | hfound
    · exact of_mem_nodes hinherited tree hfirst found hfound
    · exact of_mem_nodesOfList hinherited rest hrest found hfound

end

end Inherited

end PegKit.Cst

namespace PegKit.Meaning

open Cst (RefersTo)

@[simp]
theorem quantify_refs (mark : Option Kind) (inner : Expr) :
    (quantify mark inner).refs = inner.refs := by
  unfold quantify
  split <;> rfl

mutual

/-- What the meaning of a complete tree refers to is named in the tree. -/
theorem expr_refs : (tree : Cst) → tree.Entire → (reports : Diagnostics) →
    ∀ name ∈ ((expr tree).run reports).1.refs, RefersTo tree.nodes name
  | .leaf _, _, _ => by
    rintro name ⟨⟩
  | .node kind children, hentire, reports => by
    intro name hname
    have hinner : ∀ child ∈ children, child.Entire := fun _ hchild ↦ hentire.child hchild
    have hlift := fun (h : RefersTo (Cst.nodesOfList children) name) ↦
      h.mono (List.subset_cons_self (Cst.node kind children) _)
    cases kind <;> rw [expr] at hname
    case choiceNode => exact hlift (exprs_refs children hinner reports name hname)
    case seqNode => exact hlift (exprs_refs children hinner reports name hname)
    case groupNode => exact hlift (operand_refs children hinner reports name hname)
    case labelNode => exact hlift (operand_refs children hinner reports name hname)
    case quantifierNode =>
      refine hlift (operand_refs children hinner reports name ?_)
      rw [← quantify_refs]
      exact hname
    case lookaheadNode =>
      refine hlift (operand_refs children hinner reports name ?_)
      revert hname
      change name ∈ Expr.refs (if _ then _ else _) → _
      split <;> exact id
    case refNode =>
      have hself := hentire _ List.mem_cons_self
      obtain ⟨token, htoken⟩ := Option.isSome_iff_exists.mp hself
      refine ⟨_, List.mem_cons_self, rfl, token, htoken, ?_⟩
      change name ∈ [nameText (Cst.node .refNode children)] at hname
      rw [List.mem_singleton.mp hname, nameText, htoken]
      rfl
    case charClassNode =>
      exfalso
      revert hname
      change name ∈ Expr.refs ((charClass _).run reports).1 → False
      rw [charClass]
      split
      · rintro ⟨⟩
      · split <;> rintro ⟨⟩
    all_goals cases hname

theorem exprs_refs : (trees : List Cst) → (∀ tree ∈ trees, tree.Entire) → (reports : Diagnostics) →
    ∀ name ∈ Expr.refsOfList ((exprs trees).run reports).1, RefersTo (Cst.nodesOfList trees) name
  | [], _, _ => by rintro name ⟨⟩
  | tree :: rest, hentire, reports => by
    intro name hname
    have htail := fun tree htree ↦ hentire tree (List.mem_cons_of_mem _ htree)
    have hlift := fun (h : RefersTo (Cst.nodesOfList rest) name) ↦
      h.mono (List.subset_append_right tree.nodes _)
    rw [exprs] at hname
    split at hname
    · rcases List.mem_append.mp hname with hfirst | hrest
      · exact (expr_refs tree (hentire tree List.mem_cons_self) reports name hfirst).mono
          (List.subset_append_left _ _)
      · exact hlift (exprs_refs rest htail _ name hrest)
    · exact hlift (exprs_refs rest htail reports name hname)

theorem operand_refs : (trees : List Cst) → (∀ tree ∈ trees, tree.Entire) →
    (reports : Diagnostics) →
    ∀ name ∈ ((operand trees).run reports).1.refs, RefersTo (Cst.nodesOfList trees) name
  | [], _, _ => by rintro name ⟨⟩
  | tree :: rest, hentire, reports => by
    intro name hname
    have htail := fun tree htree ↦ hentire tree (List.mem_cons_of_mem _ htree)
    rw [operand] at hname
    split at hname
    · exact (expr_refs tree (hentire tree List.mem_cons_self) reports name hname).mono
        (List.subset_append_left _ _)
    · exact (operand_refs rest htail reports name hname).mono
        (List.subset_append_right tree.nodes _)

end

/-- The rules of a table have its names, and the meanings of its trees as bodies. -/
theorem rules_of_table (table : RuleTable) (reports : Diagnostics) :
    ((rules table).run reports).1.map (·.name) = table.map Prod.fst ∧
      ∀ rule ∈ ((rules table).run reports).1, ∃ entry ∈ table, ∃ reports',
        rule.body = ((operand entry.2.children).run reports').1 := by
  induction table generalizing reports with
  | nil => exact ⟨rfl, by rintro _ ⟨⟩⟩
  | cons entry rest ih =>
    obtain ⟨hnames, hbodies⟩ := ih ((operand entry.2.children).run reports).2
    refine ⟨congrArg (entry.1 :: ·) hnames, fun rule hrule ↦ ?_⟩
    rcases List.mem_cons.mp hrule with rfl | hrule
    · exact ⟨entry, List.mem_cons_self, reports, rfl⟩
    · obtain ⟨entry', hentry, hbody⟩ := hbodies rule hrule
      exact ⟨entry', List.mem_cons_of_mem _ hentry, hbody⟩

end PegKit.Meaning

namespace PegKit.RuleTable

/-- The entries have different names, and their trees are among `trees`. -/
structure Of (table : RuleTable) (trees : List Cst) : Prop where
  distinct : (table.map Prod.fst).Nodup
  trees : ∀ entry ∈ table, entry.2 ∈ trees

theorem Of.declare {table : RuleTable} {trees : List Cst} {reports : Diagnostics} {tree : Cst}
    (h : table.Of trees) (htree : tree ∈ trees) :
    (RuleTable.declare (table, reports) tree).1.Of trees := by
  rw [RuleTable.declare]
  split
  · exact h
  · next name hname =>
    split
    · exact h
    · next hlookup =>
      have hnew : name.text ∉ table.map Prod.fst := by
        intro hmem
        obtain ⟨entry, hentry, hsame⟩ := List.mem_map.mp hmem
        have hother := List.lookup_eq_none_iff.mp hlookup entry hentry
        rw [hsame, bne_self_eq_false] at hother
        cases hother
      refine ⟨?_, ?_⟩
      · rw [List.map_append]
        refine List.nodup_append.mpr ⟨h.distinct, by simp, ?_⟩
        rintro old hold _ hlast rfl
        exact hnew ((List.mem_singleton.mp hlast : old = name.text) ▸ hold)
      · intro entry hentry
        rcases List.mem_append.mp hentry with hold | hlast
        · exact h.trees entry hold
        · rw [List.mem_singleton.mp hlast]
          exact htree

theorem Of.foldl {table : RuleTable} {trees trees' : List Cst} {reports : Diagnostics}
    (h : table.Of trees) (hsub : trees' ⊆ trees) :
    (trees'.foldl RuleTable.declare (table, reports)).1.Of trees := by
  induction trees' generalizing table reports with
  | nil => exact h
  | cons tree rest ih =>
    obtain ⟨htree, hrest⟩ := List.cons_subset.mp hsub
    exact ih (h.declare htree) hrest

/-- The entries are rules of the grammar in the text. -/
theorem ofRoot_of {root grammar : Cst} (hgrammar : root.grammar? = some grammar) :
    (ofRoot root).1.Of grammar.rules := by
  rw [ofRoot, hgrammar]
  exact Of.foldl ⟨List.nodup_nil, by rintro _ ⟨⟩⟩ (List.Subset.refl _)

theorem declares_iff {table : RuleTable} {name : String} :
    table.declares name = true ↔ name ∈ table.map Prod.fst := by
  rw [declares, ← Option.ne_none_iff_isSome, Ne, List.lookup_eq_none_iff, List.mem_map]
  constructor
  · intro h
    by_contra hnone
    refine h fun entry hentry ↦ bne_iff_ne.mpr fun hsame ↦ hnone ⟨entry, hentry, hsame.symm⟩
  · rintro ⟨entry, hentry, hsame⟩ h
    exact bne_iff_ne.mp (h entry hentry) hsame.symm

end PegKit.RuleTable
