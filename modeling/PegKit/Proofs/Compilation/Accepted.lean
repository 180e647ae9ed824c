import PegKit.Loading
import PegKit.Proofs.Cst.Acceptance
import PegKit.Proofs.Cst.References
import PegKit.Proofs.Program.Declared

/-!
# Accepted grammars have programs

What was accepted passed two rounds of checks: it was read without an error, so its tree is complete,
and its analysis found no repeated and no undefined rule. The grammar that comes out refers to its
own rules only, so building its program cannot fail.
-/

namespace PegKit

theorem Diagnostics.hasErrors_append {diagnostics diagnostics' : Diagnostics} :
    (diagnostics ++ diagnostics').hasErrors = false ↔
      diagnostics.hasErrors = false ∧ diagnostics'.hasErrors = false := by
  rw [Diagnostics.hasErrors, List.any_append, Bool.or_eq_false_iff]
  rfl

namespace RuleTable

/-- Where no name is reported as undefined, all references name entries of the table. -/
theorem declares_of_refersTo {root grammar : Cst} {name : String}
    (hgrammar : root.grammar? = some grammar) (hclean : (ofRoot root).2.hasErrors = false)
    (hrefers : Cst.RefersTo root.nodes name) :
    name ∈ (ofRoot root).1.map Prod.fst := by
  obtain ⟨tree, htree, hkind, token, htoken, rfl⟩ := hrefers
  rw [← declares_iff]
  by_contra hmissing
  rw [Bool.not_eq_true] at hmissing
  have hundefined : (ofRoot root).1.undefined? tree =
      some (.detailed .undefinedRule token.span token.text) := by
    rw [undefined?, htoken]
    simp only [hmissing, Bool.false_eq_true, if_false]
  have hreported : Diagnostic.detailed .undefinedRule token.span token.text ∈ (ofRoot root).2 := by
    rw [ofRoot, hgrammar] at hundefined ⊢
    refine List.mem_append_right _ (List.mem_filterMap.mpr ⟨tree, ?_, hundefined⟩)
    exact List.mem_filter.mpr ⟨htree, beq_iff_eq.mpr hkind⟩
  have herror := List.any_eq_false.mp hclean _ hreported
  exact herror rfl

end RuleTable

namespace Analysis

/-- Where an analysis has no error, none of its checks made one. -/
theorem ofRoot_clean {root : Cst} (h : (ofRoot root).diagnostics.hasErrors = false) :
    (RuleTable.ofRoot root).2.hasErrors = false ∧ (Labels.check root).hasErrors = false ∧
      ((Meaning.grammar root (RuleTable.ofRoot root).1).run []).2.hasErrors = false := by
  obtain ⟨hwarned, _⟩ := Diagnostics.hasErrors_append.mp h
  obtain ⟨hchecked, _⟩ := Diagnostics.hasErrors_append.mp hwarned
  obtain ⟨hlabelled, hfaults⟩ := Diagnostics.hasErrors_append.mp hchecked
  obtain ⟨hnames, hlabels⟩ := Diagnostics.hasErrors_append.mp hlabelled
  exact ⟨hnames, hlabels, hfaults⟩

/-- The rules of the grammar are those of the table. -/
theorem grammar_ruleNames (root : Cst) :
    (ofRoot root).grammar.ruleNames = (RuleTable.ofRoot root).1.map Prod.fst :=
  (Meaning.rules_of_table (RuleTable.ofRoot root).1 []).1

/-- The grammar of a tree, whose rules are entered in a table under their names. -/
def distinctGrammar (root : Cst) : DistinctGrammar where
  toGrammar := (ofRoot root).grammar
  distinct := by
    rw [grammar_ruleNames]
    cases hgrammar : root.grammar? with
    | none =>
      rw [RuleTable.ofRoot, hgrammar]
      exact List.nodup_nil
    | some grammar => exact (RuleTable.ofRoot_of hgrammar).distinct

/-- The grammar of a complete tree without errors refers to its own rules only. -/
theorem grammar_closed {root : Cst} (hentire : root.Entire)
    (hclean : (ofRoot root).diagnostics.hasErrors = false) :
    (distinctGrammar root).Closed := by
  have hnames := (ofRoot_clean hclean).1
  have hlisted : (distinctGrammar root).ruleNames = _ := grammar_ruleNames root
  obtain ⟨-, hbodies⟩ := Meaning.rules_of_table (RuleTable.ofRoot root).1 []
  intro rule hrule name hname
  cases hgrammar : root.grammar? with
  | none =>
    have hmem : rule.name ∈ (distinctGrammar root).ruleNames := List.mem_map_of_mem hrule
    rw [hlisted, RuleTable.ofRoot, hgrammar] at hmem
    cases hmem
  | some grammar =>
    have htable := RuleTable.ofRoot_of hgrammar
    obtain ⟨entry, hentry, reports, hbody⟩ := hbodies rule hrule
    have hgrammar' : grammar ∈ root.children := List.mem_of_find?_eq_some hgrammar
    have htree : entry.2 ∈ grammar.children := List.mem_of_mem_filter (htable.trees entry hentry)
    rw [hbody] at hname
    have hrefers := Meaning.operand_refs _ (fun child ↦
      ((hentire.child hgrammar').child htree).child) reports name hname
    rw [hlisted]
    refine RuleTable.declares_of_refersTo hgrammar hnames (hrefers.mono ?_)
    calc
      Cst.nodesOfList entry.2.children ⊆ entry.2.nodes := Cst.nodesOfList_children_subset _
      _ ⊆ grammar.nodes := Cst.nodes_subset_of_mem_children htree
      _ ⊆ root.nodes := Cst.nodes_subset_of_mem_children hgrammar'

end Analysis

namespace Compilation

/-- An accepted text was read without an error, and so was its analysis. -/
theorem compileWithin_eq_ok {limits : Cst.Limits} {source : String} {grammar : Grammar}
    (h : compileWithin limits source = .ok grammar) :
    ∃ parsed, Cst.parse source limits = .ok parsed ∧ parsed.diagnostics.hasErrors = false ∧
      (Analysis.ofRoot parsed.root).diagnostics.hasErrors = false ∧
      grammar = (Analysis.ofRoot parsed.root).grammar := by
  rw [compileWithin, parse] at h
  cases hparse : Cst.parse source limits with
  | error fault =>
    rw [hparse] at h
    cases h
  | ok parsed =>
    rw [hparse] at h
    change (analyze parsed >>= Analyzed.accept) = .ok grammar at h
    rw [analyze] at h
    split at h
    · cases h
    next hclean =>
    change Analyzed.accept _ = .ok grammar at h
    rw [Analyzed.accept] at h
    split at h
    · next hvalid =>
      cases h
      rw [Analyzed.isValid, Bool.not_eq_true', Diagnostics.hasErrors_append] at hvalid
      exact ⟨parsed, rfl, hvalid.1, hvalid.2, rfl⟩
    · cases h

theorem toProgram_ok {limits : Cst.Limits} {source : String} {grammar : Grammar}
    (h : compileWithin limits source = .ok grammar) :
    ∃ program, grammar.toProgram = .ok program := by
  obtain ⟨parsed, hparse, hclean, hanalysis, rfl⟩ := compileWithin_eq_ok h
  have hclosed := Analysis.grammar_closed (Cst.parse_entire hparse hclean) hanalysis
  exact DistinctGrammar.toProgram_ok hclosed

end Compilation

end PegKit
