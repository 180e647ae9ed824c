import PegKit.Proofs.Analysis.Repeats
import PegKit.Proofs.Compilation.Legible
import PegKit.Proofs.Cst.Faultless

/-!
# Labels of accepted sequences

A sequence of an accepted grammar was a sequence of the text, item by item, and no two of the items
there were labelled alike. Parentheses around an item leave no trace in the grammar, but the check
does not look into them: an item with a label in parentheses may repeat a label of the sequence that
it becomes an item of.
-/

namespace PegKit

namespace Cst

/-- The tree stands for the expression, whatever was reported before. -/
def Denotes (tree : Cst) (expr : Expr) : Prop :=
  ∀ reports, ((Meaning.expr tree).run reports).1 = expr

/-- The part, if it is a sequence, was written as one of `nodes`. -/
def Wrote (nodes : List Cst) (part : Expr) : Prop :=
  ∀ items, part = .sequence items → ∃ sequence ∈ nodes, sequence.kind = .seqNode ∧
    List.Forall₂ Denotes sequence.expressions items

theorem Wrote.mono {nodes nodes' : List Cst} {part : Expr} (h : nodes ⊆ nodes')
    (hwrote : Wrote nodes part) : Wrote nodes' part := by
  intro items hpart
  obtain ⟨sequence, hsequence, hitems⟩ := hwrote items hpart
  exact ⟨sequence, h hsequence, hitems⟩

end Cst

namespace Meaning

open Cst (Denotes Wrote nodesOfList)
open PegKit.Expr (Everywhere)

theorem wrote_mono {nodes nodes' : List Cst} {expr : Expr} (h : nodes ⊆ nodes')
    (hwrote : expr.Everywhere (Wrote nodes)) : expr.Everywhere (Wrote nodes') := by
  intro part hpart
  exact (hwrote part hpart).mono h

/-- An expression that is no sequence was written where its operands were. -/
theorem wrote_intro {nodes : List Cst} {expr : Expr} (hself : ∀ items, expr ≠ .sequence items)
    (hchildren : ∀ child ∈ expr.children, child.Everywhere (Wrote nodes)) :
    expr.Everywhere (Wrote nodes) := by
  apply everywhere_intro _ hchildren
  intro items hitems
  exact absurd hitems (hself items)

theorem quantify_wrote {nodes : List Cst} {inner : Expr} (mark : Option Kind)
    (h : inner.Everywhere (Wrote nodes)) : (quantify mark inner).Everywhere (Wrote nodes) := by
  have hinner : ∀ child ∈ [inner], child.Everywhere (Wrote nodes) := List.forall_mem_singleton.mpr h
  unfold quantify
  split <;> exact wrote_intro (by rintro _ ⟨⟩) hinner

/-- A single character, or a class of them. -/
theorem charClass_denotes (tree : Cst) : ∃ expr : Expr,
    (∀ reports, ((charClass tree).run reports).1 = expr) ∧ expr.children = [] ∧
      expr.label? = none ∧ ∀ items, expr ≠ .sequence items := by
  unfold charClass
  cases tree.classToken? with
  | none => exact ⟨.anyChar, fun _ ↦ rfl, rfl, rfl, by rintro _ ⟨⟩⟩
  | some token =>
    dsimp only
    cases CharClass.ofBrackets token.text with
    | ok cls => exact ⟨.charClass cls, fun _ ↦ rfl, rfl, rfl, by rintro _ ⟨⟩⟩
    | error reason => exact ⟨.charClass _, fun _ ↦ rfl, rfl, rfl, by rintro _ ⟨⟩⟩

section Trees

variable {names : List String}

mutual

/-- A complete tree stands for an expression whose sequences are sequences in the tree. -/
theorem expr_wrote : (tree : Cst) → tree.Sound names → tree.isExpression = true →
    ∃ expr, tree.Denotes expr ∧ expr.Everywhere (Wrote tree.nodes)
  | .leaf token, hsound, hexpression => by
    have hother := (hsound.formed token (List.mem_singleton_self _)).not_isExpression
    exact absurd (hexpression.symm.trans hother) (by decide)
  | .node kind children, hsound, hexpression => by
    have hself := hsound.entire _ List.mem_cons_self
    have hchildren : ∀ child ∈ children, child.Sound names := fun _ hchild ↦ hsound.child hchild
    have hbelow : nodesOfList children ⊆ (Cst.node kind children).nodes :=
      Cst.nodesOfList_children_subset (Cst.node kind children)
    cases kind
    case choiceNode =>
      obtain ⟨items, hvalue, _, hwrote⟩ := exprs_wrote children hchildren
      refine ⟨.choice items, fun reports ↦ congrArg Expr.choice (hvalue reports), ?_⟩
      apply wrote_intro (by rintro _ ⟨⟩)
      intro item hitem
      exact wrote_mono hbelow (hwrote item hitem)
    case seqNode =>
      obtain ⟨items, hvalue, hitems, hwrote⟩ := exprs_wrote children hchildren
      refine ⟨.sequence items, fun reports ↦ congrArg Expr.sequence (hvalue reports), ?_⟩
      apply everywhere_intro
      · rintro _ ⟨⟩
        exact ⟨.node .seqNode children, List.mem_cons_self, rfl, hitems⟩
      · intro item hitem
        exact wrote_mono hbelow (hwrote item hitem)
    case quantifierNode =>
      obtain ⟨inner, hvalue, hwrote⟩ := operand_wrote children hchildren hself.2
      exact ⟨_, fun reports ↦ congrArg (quantify _) (hvalue reports),
        quantify_wrote _ (wrote_mono hbelow hwrote)⟩
    case lookaheadNode =>
      obtain ⟨inner, hvalue, hwrote⟩ := operand_wrote children hchildren hself
      have hinner : ∀ child ∈ [inner], child.Everywhere (Wrote _) :=
        List.forall_mem_singleton.mpr (wrote_mono hbelow hwrote)
      refine ⟨_, fun reports ↦ congrArg (fun inner ↦
        if (Cst.node .lookaheadNode children).isNegative then Expr.negativeLookahead inner
          else .lookahead inner) (hvalue reports), ?_⟩
      split <;> exact wrote_intro (by rintro _ ⟨⟩) hinner
    case predicateNode =>
      exact ⟨_, fun _ ↦ rfl, wrote_intro (by rintro _ ⟨⟩) (by rintro _ ⟨⟩)⟩
    case labelNode =>
      obtain ⟨inner, hvalue, hwrote⟩ := operand_wrote children hchildren hself.2
      exact ⟨_, fun reports ↦ congrArg (Expr.label _) (hvalue reports),
        wrote_intro (by rintro _ ⟨⟩) (List.forall_mem_singleton.mpr (wrote_mono hbelow hwrote))⟩
    case refNode =>
      exact ⟨_, fun _ ↦ rfl, wrote_intro (by rintro _ ⟨⟩) (by rintro _ ⟨⟩)⟩
    case strNode =>
      have hvalue (reports : Diagnostics) :=
        congrArg Prod.fst (Cst.string_run (.node .strNode children) reports)
      exact ⟨_, fun reports ↦ congrArg Expr.terminal (hvalue reports),
        wrote_intro (by rintro _ ⟨⟩) (by rintro _ ⟨⟩)⟩
    case charClassNode =>
      obtain ⟨expr, hvalue, hleaf, _, hother⟩ := charClass_denotes (.node .charClassNode children)
      refine ⟨expr, hvalue, wrote_intro hother ?_⟩
      rw [hleaf]
      rintro _ ⟨⟩
    case anyNode =>
      exact ⟨_, fun _ ↦ rfl, wrote_intro (by rintro _ ⟨⟩) (by rintro _ ⟨⟩)⟩
    case groupNode =>
      obtain ⟨inner, hvalue, hwrote⟩ := operand_wrote children hchildren hself
      exact ⟨inner, hvalue, wrote_mono hbelow hwrote⟩
    all_goals cases hexpression

theorem exprs_wrote : (trees : List Cst) → (∀ tree ∈ trees, tree.Sound names) →
    ∃ items, (∀ reports, ((exprs trees).run reports).1 = items) ∧
      List.Forall₂ Denotes (trees.filter Cst.isExpression) items ∧
      ∀ item ∈ items, item.Everywhere (Wrote (nodesOfList trees))
  | [], _ => ⟨[], fun _ ↦ rfl, .nil, by rintro _ ⟨⟩⟩
  | tree :: rest, hsound => by
    obtain ⟨hfirst, hrest⟩ := List.forall_mem_cons.mp hsound
    obtain ⟨items, hvalue, hitems, hwrote⟩ := exprs_wrote rest hrest
    have hlater : ∀ item ∈ items, item.Everywhere (Wrote (nodesOfList (tree :: rest))) :=
      fun item hitem ↦ wrote_mono (List.subset_append_right _ _) (hwrote item hitem)
    rw [exprs]
    split
    · next hexpression =>
      obtain ⟨first, hdenotes, horigin⟩ := expr_wrote tree hfirst hexpression
      rw [List.filter_cons_of_pos hexpression]
      refine ⟨first :: items, fun reports ↦ ?_, .cons hdenotes hitems, ?_⟩
      · change ((expr tree).run reports).1 :: ((exprs rest).run ((expr tree).run reports).2).1 = _
        rw [hdenotes, hvalue]
      · exact List.forall_mem_cons.mpr
          ⟨wrote_mono (List.subset_append_left _ _) horigin, hlater⟩
    · next hother =>
      rw [List.filter_cons_of_neg hother]
      exact ⟨items, hvalue, hitems, hlater⟩

theorem operand_wrote : (trees : List Cst) → (∀ tree ∈ trees, tree.Sound names) →
    (trees.find? Cst.isExpression).isSome = true →
      ∃ inner, (∀ reports, ((operand trees).run reports).1 = inner) ∧
        inner.Everywhere (Wrote (nodesOfList trees))
  | [], _, hsome => by cases hsome
  | tree :: rest, hsound, hsome => by
    obtain ⟨hfirst, hrest⟩ := List.forall_mem_cons.mp hsound
    rw [operand]
    split
    · next hexpression =>
      obtain ⟨inner, hdenotes, hwrote⟩ := expr_wrote tree hfirst hexpression
      exact ⟨inner, hdenotes, wrote_mono (List.subset_append_left _ _) hwrote⟩
    · next hother =>
      rw [List.find?_cons_of_neg hother] at hsome
      obtain ⟨inner, hvalue, hwrote⟩ := operand_wrote rest hrest hsome
      exact ⟨inner, hvalue, wrote_mono (List.subset_append_right _ _) hwrote⟩

end

end Trees

end Meaning

/-! ## Items and their labels -/

namespace Cst

variable {names : List String} {tree : Cst} {expr : Expr}

/-- The label of an item that is not in parentheses. -/
theorem Denotes.label?_eq (h : tree.Denotes expr) (hsound : tree.Sound names)
    (hexpression : tree.isExpression = true) (hbare : tree.kind ≠ .groupNode) :
    expr.label? = tree.labelName?.map (·.text) := by
  cases tree with
  | leaf token =>
    have hother := (hsound.formed token (List.mem_singleton_self _)).not_isExpression
    exact absurd (hexpression.symm.trans hother) (by decide)
  | node kind children =>
    have hvalue := h []
    rw [← hvalue]
    cases kind
    case labelNode =>
      have hself := hsound.entire _ List.mem_cons_self
      obtain ⟨name, hname⟩ := Option.isSome_iff_exists.mp hself.1
      change some (Meaning.nameText _) = _
      rw [Meaning.nameText, labelName?, hname]
      rfl
    case quantifierNode =>
      change (Meaning.quantify _ _).label? = none
      unfold Meaning.quantify
      split <;> rfl
    case lookaheadNode =>
      change (if _ then Expr.negativeLookahead _ else Expr.lookahead _).label? = none
      split <;> rfl
    case charClassNode =>
      obtain ⟨cls, hcls, _, hlabel, _⟩ := Meaning.charClass_denotes (.node .charClassNode children)
      change ((Meaning.charClass _).run []).1.label? = none
      rw [hcls, hlabel]
    case groupNode => exact absurd rfl hbare
    all_goals rfl

/-- The labels of the items of a sequence that are not in parentheses. -/
def bareLabels (trees : List Cst) (items : List Expr) : List String :=
  ((trees.zip items).filter (·.1.kind != .groupNode)).filterMap (·.2.label?)

theorem bareLabels_eq {trees : List Cst} {items : List Expr}
    (h : List.Forall₂ Denotes trees items)
    (htrees : ∀ tree ∈ trees, tree.Sound names ∧ tree.isExpression = true) :
    bareLabels trees items = (trees.filterMap labelName?).map (·.text) := by
  induction h with
  | nil => rfl
  | @cons tree item trees items hdenotes _ ih =>
    obtain ⟨⟨hsound, hexpression⟩, hrest⟩ := List.forall_mem_cons.mp htrees
    have hlater := ih hrest
    unfold bareLabels at hlater ⊢
    by_cases hgroup : tree.kind = .groupNode
    · have hnone : tree.labelName? = none := by
        rw [labelName?, hgroup]
        rfl
      simpa [hgroup, hnone] using hlater
    · have hlabel := hdenotes.label?_eq hsound hexpression hgroup
      cases hname : tree.labelName? with
      | none => simpa [hgroup, hlabel, hname] using hlater
      | some name => simpa [hgroup, hlabel, hname] using hlater

/-- Where no item in parentheses is a label, these are all labels of the sequence. -/
theorem bareLabels_of_no_group {trees : List Cst} {items : List Expr}
    (hlength : trees.length = items.length)
    (hgroups : ∀ entry ∈ trees.zip items, entry.1.kind = .groupNode → entry.2.label? = none) :
    bareLabels trees items = items.filterMap Expr.label? := by
  induction trees generalizing items with
  | nil =>
    obtain rfl := List.length_eq_zero_iff.mp hlength.symm
    rfl
  | cons tree trees ih =>
    cases items with
    | nil => cases hlength
    | cons item items =>
      obtain ⟨hfirst, hrest⟩ := List.forall_mem_cons.mp hgroups
      have hlater := ih (Nat.succ.inj hlength) hrest
      unfold bareLabels at hlater ⊢
      by_cases hgroup : tree.kind = .groupNode
      · simpa [hgroup, hfirst hgroup] using hlater
      · cases hlabel : item.label? <;> simpa [hgroup, hlabel] using hlater

end Cst

namespace Labels

/-- Where no label is reported, none is used twice outside parentheses. -/
theorem labelNames_nodup {root sequence : Cst} (hclean : (check root).hasErrors = false)
    (hsequence : sequence ∈ root.nodes) (hkind : sequence.kind = .seqNode) :
    (sequence.labelNames.map (·.text)).Nodup := by
  rw [← @Analysis.repeated_eq_nil_iff .duplicateLabel "first used here",
    ← checkSequence_eq]
  rw [List.eq_nil_iff_forall_not_mem]
  intro report hreport
  have hchecked : report ∈ check root := by
    apply List.mem_flatMap.mpr
    exact ⟨sequence, List.mem_filter.mpr ⟨hsequence, beq_iff_eq.mpr hkind⟩, hreport⟩
  have hquiet := List.any_eq_false.mp hclean report hchecked
  rw [checkSequence_eq] at hreport
  have herror : report.isError = true := by
    rw [Diagnostic.isError, Diagnostic.severity, Analysis.kind_of_mem_repeated hreport]
    rfl
  exact hquiet herror

end Labels

namespace Compilation

open Cst (Denotes bareLabels)

/-- The labels of a sequence of an accepted grammar, apart from those that its items have in
parentheses, are pairwise distinct. So are all of them when no item in parentheses is a label. -/
theorem labels_differ_outside_parentheses {limits : Cst.Limits} {source : String}
    {grammar : Grammar} (h : compileWithin limits source = .ok grammar) :
    ∃ parsed, Cst.parse source limits = .ok parsed ∧ ∀ rule ∈ grammar.rules, ∀ items,
      .sequence items ∈ rule.body.parts → ∃ sequence ∈ parsed.root.nodes,
        sequence.kind = .seqNode ∧ List.Forall₂ Denotes sequence.expressions items ∧
        (bareLabels sequence.expressions items).Nodup ∧
        ((∀ entry ∈ sequence.expressions.zip items,
            entry.1.kind = .groupNode → entry.2.label? = none) →
          (items.filterMap Expr.label?).Nodup) := by
  obtain ⟨parsed, hparse, hclean, hanalysis, rfl⟩ := compileWithin_eq_ok h
  refine ⟨parsed, hparse, ?_⟩
  intro rule hrule items hitems
  obtain ⟨_, tree, _, _, _, _, hgrammar⟩ := Cst.parse_grammar hparse hclean
  have hsound := root_sound hparse hclean hanalysis hgrammar
  have hmem : tree ∈ parsed.root.children := List.mem_of_find?_eq_some hgrammar
  obtain ⟨entry, hentry, reports, hbody⟩ :=
    (Meaning.rules_of_table (RuleTable.ofRoot parsed.root).1 []).2 rule hrule
  have hdeclared := (RuleTable.ofRoot_of hgrammar).trees entry hentry
  obtain ⟨hruleSound, _, hsome⟩ := (hsound.child hmem).rule hdeclared
  obtain ⟨inner, hvalue, hwrote⟩ := Meaning.operand_wrote entry.2.children
    (fun _ hchild ↦ hruleSound.child hchild) hsome
  rw [hbody, hvalue reports] at hitems
  obtain ⟨sequence, hsequence, hkind, hdenotes⟩ := hwrote _ hitems items rfl
  have hwithin : Cst.nodesOfList entry.2.children ⊆ parsed.root.nodes := by
    calc
      Cst.nodesOfList entry.2.children ⊆ entry.2.nodes := Cst.nodesOfList_children_subset _
      _ ⊆ tree.nodes := Cst.nodes_subset_of_mem_children (List.mem_of_mem_filter hdeclared)
      _ ⊆ parsed.root.nodes := Cst.nodes_subset_of_mem_children hmem
  have hitemTrees : ∀ item ∈ sequence.expressions,
      item.Sound (Analysis.ofRoot parsed.root).grammar.ruleNames ∧ item.isExpression = true := by
    intro item hitem
    obtain ⟨hchild, hexpression⟩ := List.mem_filter.mp hitem
    exact ⟨(Cst.of_mem_nodes Cst.Sound.child _ hsound sequence (hwithin hsequence)).child hchild,
      hexpression⟩
  have hnodup := Labels.labelNames_nodup (Analysis.ofRoot_clean hanalysis).2.1
    (hwithin hsequence) hkind
  rw [Cst.labelNames, ← Cst.bareLabels_eq hdenotes hitemTrees] at hnodup
  refine ⟨sequence, hwithin hsequence, hkind, hdenotes, hnodup, ?_⟩
  intro hgroups
  rwa [← Cst.bareLabels_of_no_group hdenotes.length_eq hgroups]

theorem labels_differ_outside_parentheses_nested : ∃ grammar parsed,
    compile "grammar g rule r a:. (b:. a:.) end end" = .ok grammar ∧
      Cst.parse "grammar g rule r a:. (b:. a:.) end end" {} = .ok parsed ∧
      ∀ rule ∈ grammar.rules, ∀ items, .sequence items ∈ rule.body.parts →
        ∃ sequence ∈ parsed.root.nodes,
          sequence.kind = .seqNode ∧ List.Forall₂ Denotes sequence.expressions items ∧
          (bareLabels sequence.expressions items).Nodup ∧
          ((∀ entry ∈ sequence.expressions.zip items,
              entry.1.kind = .groupNode → entry.2.label? = none) →
            (items.filterMap Expr.label?).Nodup) := by
  have haccepted :
      (compile "grammar g rule r a:. (b:. a:.) end end").toOption.isSome = true := by
    decide +kernel
  cases hcompile : compile "grammar g rule r a:. (b:. a:.) end end" with
  | error cause =>
    rw [hcompile] at haccepted
    cases haccepted
  | ok grammar =>
    obtain ⟨parsed, hparse, hlabels⟩ := labels_differ_outside_parentheses hcompile
    exact ⟨grammar, parsed, rfl, hparse, hlabels⟩

/-- A label in parentheses may repeat the label of another item. -/
theorem labels_repeat_in_parentheses : ∃ grammar,
    compile "grammar G rule r (a:.) a:. end end" = .ok grammar ∧
      ∃ rule ∈ grammar.rules, ∃ items, .sequence items ∈ rule.body.parts ∧
        ¬ (items.filterMap Expr.label?).Nodup := by
  have hfound : (compile "grammar G rule r (a:.) a:. end end").toOption.any (fun grammar ↦
      grammar.rules.any fun rule ↦ rule.body.parts.any fun
        | .sequence items => decide (¬ (items.filterMap Expr.label?).Nodup)
        | _ => false) = true := by
    decide +kernel
  cases hcompile : compile "grammar G rule r (a:.) a:. end end" with
  | error cause =>
    rw [hcompile] at hfound
    cases hfound
  | ok grammar =>
    rw [hcompile] at hfound
    obtain ⟨rule, hrule, hparts⟩ := List.any_eq_true.mp hfound
    obtain ⟨part, hpart, hrepeats⟩ := List.any_eq_true.mp hparts
    refine ⟨grammar, rfl, rule, hrule, ?_⟩
    split at hrepeats
    · next items => exact ⟨items, hpart, of_decide_eq_true hrepeats⟩
    · cases hrepeats

end Compilation

end PegKit
