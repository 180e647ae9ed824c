import PegKit.Analysis
import PegKit.Proofs.Cst.References
import PegKit.Proofs.Expr.Written

/-!
# Trees without faults

Trees on which no check of the analysis reports anything: their strings and classes have a meaning,
their references name declared rules, and no sequence in them uses a label twice. Of a node this is
to be shown of its own kind only, when its parts are without faults.
-/

namespace PegKit.Cst

/-- No check of a single node reports on it, where `names` are those of the declared rules. -/
def Checked (names : List String) (tree : Cst) : Prop :=
  match tree.kind with
  | .refNode => ∃ token, tree.name? = some token ∧ token.text ∈ names
  | .seqNode => Labels.checkSequence tree = []
  | _ => True

/-- No report is made on the meaning of the tree. -/
def Quiet (tree : Cst) : Prop := ∀ reports, ((Meaning.expr tree).run reports).2 = reports

/-- No check reports on the tree or on a node in it. -/
structure Faultless (names : List String) (tree : Cst) : Prop where
  quiet : tree.Quiet
  checked : ∀ found ∈ tree.nodes, found.Checked names

variable {names : List String} {kind : Kind} {children trees : List Cst}

theorem leaf_quiet (token : Token) : (leaf token).Quiet := fun _ ↦ rfl

theorem leaf_faultless (token : Token) : (leaf token).Faultless names :=
  ⟨leaf_quiet token, by rintro _ ⟨⟩⟩

/-- The children that are not significant are trivia. -/
theorem quiet_of_significant (h : ∀ tree ∈ significant children, tree.Quiet) :
    ∀ tree ∈ children, tree.Quiet := by
  intro tree htree
  cases tree with
  | leaf token => exact leaf_quiet token
  | node kind inner => exact h _ (List.mem_filter.mpr ⟨htree, rfl⟩)

theorem node_faultless (hchildren : significant children = trees)
    (hquiet : (node kind children).Quiet) (hself : (node kind children).Checked names)
    (hparts : ∀ tree ∈ trees, tree.Faultless names) : (node kind children).Faultless names := by
  refine ⟨hquiet, fun found hfound ↦ ?_⟩
  rcases List.mem_cons.mp hfound with rfl | hfound
  · exact hself
  · obtain ⟨tree, htree, hfound⟩ := mem_nodesOfList_significant.mp hfound
    exact (hparts tree (hchildren ▸ htree)).checked found hfound

end PegKit.Cst

namespace PegKit.Meaning

variable {kind : Kind} {children trees : List Cst}

theorem exprs_quiet (h : ∀ tree ∈ trees, tree.Quiet) (reports : Diagnostics) :
    ((exprs trees).run reports).2 = reports := by
  induction trees generalizing reports with
  | nil => rfl
  | cons tree rest ih =>
    obtain ⟨hfirst, hrest⟩ := List.forall_mem_cons.mp h
    rw [exprs]
    split
    · change ((exprs rest).run ((expr tree).run reports).2).2 = reports
      rw [hfirst reports]
      exact ih hrest reports
    · exact ih hrest reports

theorem operand_quiet (h : ∀ tree ∈ trees, tree.Quiet) (reports : Diagnostics) :
    ((operand trees).run reports).2 = reports := by
  induction trees with
  | nil => rfl
  | cons tree rest ih =>
    obtain ⟨hfirst, hrest⟩ := List.forall_mem_cons.mp h
    rw [operand]
    split
    · exact hfirst reports
    · exact ih hrest

/-- Only strings and classes are reported on themselves. -/
theorem node_quiet (hstring : kind ≠ .strNode) (hclass : kind ≠ .charClassNode)
    (h : ∀ tree ∈ children, tree.Quiet) : (Cst.node kind children).Quiet := by
  intro reports
  have hexprs := exprs_quiet h reports
  have hoperand := operand_quiet h reports
  cases kind <;> rw [expr] <;> first
    | exact hexprs
    | exact hoperand
    | rfl
    | contradiction
    | rintro ⟨⟩

end PegKit.Meaning

namespace PegKit.Cst

variable {names : List String} {kind : Kind} {children trees : List Cst}

/-- A node that no check looks at by itself. -/
theorem operator_faultless (hchildren : significant children = trees)
    (hkind : kind ∉ [Kind.strNode, .charClassNode, .refNode, .seqNode])
    (hparts : ∀ tree ∈ trees, tree.Faultless names) : (node kind children).Faultless names := by
  simp only [List.mem_cons, List.not_mem_nil, or_false, not_or] at hkind
  obtain ⟨hstring, hclass, hreference, hsequence⟩ := hkind
  have hquiet : ∀ tree ∈ children, tree.Quiet :=
    quiet_of_significant fun tree htree ↦ (hparts tree (hchildren ▸ htree)).quiet
  apply node_faultless hchildren (Meaning.node_quiet hstring hclass hquiet) _ hparts
  unfold Checked
  split
  · exact absurd ‹_› hreference
  · exact absurd ‹_› hsequence
  · trivial

theorem reference_faultless {token : Token} (hchildren : significant children = [.leaf token])
    (hname : token.kind = .identifier) (hdeclared : token.text ∈ names) :
    (node .refNode children).Faultless names := by
  have hview : (node .refNode children).name? = some token := by
    rw [name?, childToken?_eq hchildren rfl, childToken?_leaf hname]
  have hleaves : ∀ tree ∈ [leaf token], tree.Faultless names := by
    simpa using leaf_faultless token
  have hself : (node .refNode children).Checked names := ⟨token, hview, hdeclared⟩
  apply node_faultless hchildren _ hself hleaves
  apply Meaning.node_quiet (by decide) (by decide)
  exact quiet_of_significant fun tree htree ↦ (hleaves tree (hchildren ▸ htree)).quiet

theorem charClass_faultless {token : Token} {cls : CharClass}
    (hchildren : significant children = [.leaf token]) (hclass : token.kind = .charClass)
    (htext : CharClass.ofBrackets token.text = .ok cls) :
    (node .charClassNode children).Faultless names := by
  have hview : (node .charClassNode children).classToken? = some token := by
    rw [classToken?, childToken?_eq hchildren rfl, childToken?_leaf hclass]
  have hself : (node .charClassNode children).Checked names := trivial
  apply node_faultless hchildren _ hself (by simpa using leaf_faultless token)
  intro reports
  rw [Meaning.expr, Meaning.charClass, hview]
  simp only [htext]
  rfl

theorem string_faultless {value : String} (hchildren : significant children = trees)
    (hleaves : ∀ tree ∈ trees, ∃ token, tree = .leaf token)
    (hraw : Terminal.unescape (node .strNode trees).rawValue = .ok value) :
    (node .strNode children).Faultless names := by
  have hparts : ∀ tree ∈ trees, tree.Faultless names := by
    intro tree htree
    obtain ⟨token, rfl⟩ := hleaves tree htree
    exact leaf_faultless token
  have hself : (node .strNode children).Checked names := trivial
  apply node_faultless hchildren _ hself hparts
  have hview : (node .strNode children).rawValue = (node .strNode trees).rawValue := by
    rw [rawValue, childToken?_eq hchildren rfl]
    rfl
  intro reports
  rw [Meaning.expr, Meaning.string, hview, hraw]
  rfl

/-! ## Labels -/

def labelText? (tree : Cst) : Option String :=
  if tree.kind = .labelNode then tree.name?.map (·.text) else none

theorem Means.label? {tree : Cst} {expr : Expr} (h : tree.Means expr) {label : String}
    (hlabel : tree.labelText? = some label) : expr.label? = some label := by
  obtain ⟨kind, inner, rfl, _⟩ := h.node
  unfold labelText? at hlabel
  split at hlabel
  · next hkind =>
    obtain rfl : kind = .labelNode := hkind
    obtain ⟨name, hname, rfl⟩ := Option.map_eq_some_iff.mp hlabel
    have hvalue := h.value []
    rw [Meaning.expr, Meaning.nameText, hname] at hvalue
    rw [← hvalue]
    rfl
  · cases hlabel

theorem means_isExpression {exprs : List Expr} (h : List.Forall₂ Means trees exprs) :
    ∀ tree ∈ trees, tree.isExpression = true := by
  induction h with
  | nil => rintro _ ⟨⟩
  | cons hmeans _ ih => exact List.forall_mem_cons.mpr ⟨hmeans.isExpression, ih⟩

theorem labels_sublist {exprs : List Expr} (h : List.Forall₂ Means trees exprs) :
    (trees.filterMap labelText?).Sublist (exprs.filterMap Expr.label?) := by
  induction h with
  | nil => exact List.Sublist.refl _
  | @cons tree expr trees exprs hmeans _ ih =>
    cases hlabel : tree.labelText? with
    | none =>
      rw [List.filterMap_cons_none hlabel]
      cases hexpr : expr.label? with
      | none => rwa [List.filterMap_cons_none hexpr]
      | some label =>
        rw [List.filterMap_cons_some hexpr]
        exact ih.cons label
    | some label =>
      rw [List.filterMap_cons_some hlabel, List.filterMap_cons_some (hmeans.label? hlabel)]
      exact ih.cons_cons label

/-- New labels are entered, and nothing is reported. -/
theorem enter_fresh (found : List (String × Text.Span))
    (h : (found.map Prod.fst ++ trees.filterMap labelText?).Nodup) :
    (trees.foldl Labels.enter (found, [])).2 = [] := by
  induction trees generalizing found with
  | nil => rfl
  | cons tree rest ih =>
    rw [List.foldl_cons, Labels.enter]
    split
    · next hother =>
      have hlabel : tree.labelText? = none := if_neg hother
      rw [List.filterMap_cons_none hlabel] at h
      exact ih found h
    next hkind =>
    have hlabel : tree.labelText? = tree.name?.map (·.text) := if_pos (not_not.mp hkind)
    cases hname : tree.name? with
    | none =>
      rw [hname] at hlabel
      rw [List.filterMap_cons_none hlabel] at h
      exact ih found h
    | some name =>
      rw [hname] at hlabel
      rw [List.filterMap_cons_some hlabel] at h
      have hnew : found.lookup name.text = none := by
        rw [List.lookup_eq_none_iff]
        intro entry hentry
        rw [bne_iff_ne]
        exact ((List.nodup_append.mp h).2.2 _ (List.mem_map_of_mem hentry) _
          List.mem_cons_self).symm
      simp only [hnew]
      apply ih
      rwa [List.map_append, List.append_assoc]

theorem sequence_faultless {exprs : List Expr} (hchildren : significant children = trees)
    (hmeans : List.Forall₂ Means trees exprs) (hlabels : (exprs.filterMap Expr.label?).Nodup)
    (hparts : ∀ tree ∈ trees, tree.Faultless names) : (node .seqNode children).Faultless names := by
  have hself : (node .seqNode children).Checked names := by
    change Labels.checkSequence _ = []
    rw [Labels.checkSequence, expressions_eq hchildren]
    have hall : (node .seqNode trees).expressions = trees :=
      List.filter_eq_self.mpr (means_isExpression hmeans)
    rw [hall]
    exact enter_fresh [] (hlabels.sublist (labels_sublist hmeans))
  apply node_faultless hchildren _ hself hparts
  apply Meaning.node_quiet (by decide) (by decide)
  exact quiet_of_significant fun tree htree ↦ (hparts tree (hchildren ▸ htree)).quiet

/-! ## Trees of expressions -/

/-- The tree stands for the expression, and no check reports on it. -/
structure Conveys (names : List String) (tree : Cst) (expr : Expr) : Prop where
  means : tree.Means expr
  faultless : tree.Faultless names

theorem conveys_faultless {exprs : List Expr} (h : List.Forall₂ (Conveys names) trees exprs) :
    ∀ tree ∈ trees, tree.Faultless names :=
  ((List.forall₂_and_left trees exprs).mp (h.imp fun _ _ h ↦ ⟨h.faultless, h⟩)).1

end PegKit.Cst
