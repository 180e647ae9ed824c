import PegKit.Proofs.Compilation.Accepted
import PegKit.Proofs.Cst.Restating

/-!
# Written grammars compile

A text that spells the words of a grammar compiles to it: it is read as that grammar, and since its
rules have different names and its references name them, no check reports an error.
-/

namespace PegKit

open Cst (Restates Restores Entered Declares)

namespace Syntax

theorem not_any_of_nodup {found rest : List Rule} {rule : Rule}
    (h : ((found ++ rule :: rest).map (·.name)).Nodup) :
    ¬found.any (·.name == rule.name) = true := by
  intro hany
  obtain ⟨other, hother, hsame⟩ := List.any_eq_true.mp hany
  rw [List.map_append, List.map_cons] at h
  exact (List.nodup_append.mp h).2.2 _ (List.mem_map_of_mem hother) _ List.mem_cons_self
    (beq_iff_eq.mp hsame)

/-- Where all names are different, the first rule of every name is every rule. -/
theorem firstRules_of_nodup {rules : List Rule} (h : (rules.map (·.name)).Nodup) :
    firstRules rules = rules := by
  have hfold (rules found : List Rule) (h : ((found ++ rules).map (·.name)).Nodup) :
      rules.foldl (fun found rule ↦
        if found.any (·.name == rule.name) then found else found ++ [rule]) found =
        found ++ rules := by
    induction rules generalizing found with
    | nil => rw [List.foldl_nil, List.append_nil]
    | cons rule rest ih =>
      rw [List.foldl_cons, if_neg (not_any_of_nodup h)]
      rw [List.append_cons] at h
      rw [ih _ h, List.append_assoc]
      rfl
  exact hfold rules [] h

end Syntax

namespace RuleTable

variable {names : List String} {table : RuleTable} {trees : List Cst} {found rules : List Rule}

/-- Rules with different names are entered without a report. -/
theorem declare_distinct (h : List.Forall₂ Entered table found)
    (htrees : List.Forall₂ Declares trees rules)
    (hdistinct : ((found ++ rules).map (·.name)).Nodup) :
    (trees.foldl declare (table, [])).2 = [] := by
  induction htrees generalizing table found with
  | nil => rfl
  | @cons tree rule trees rules htree _ ih =>
    obtain ⟨name, hname, htext⟩ := htree.name
    have hnew : table.lookup name.text = none := by
      rw [← Option.not_isSome_iff_eq_none, htext, Cst.lookup_isSome h]
      exact Syntax.not_any_of_nodup hdistinct
    rw [List.foldl_cons, declare, hname]
    simp only [hnew]
    rw [List.append_cons] at hdistinct
    exact ih (List.rel_append h (.cons ⟨htext, htree⟩ .nil)) hdistinct

/-- References to declared rules are not reported. -/
theorem undefined_none (h : List.Forall₂ Entered table rules) {reference : Cst}
    (hkind : reference.kind = .refNode) (hchecked : reference.Checked (rules.map (·.name))) :
    table.undefined? reference = none := by
  unfold Cst.Checked at hchecked
  rw [hkind] at hchecked
  obtain ⟨token, hname, hmem⟩ := hchecked
  have hdeclared : table.declares token.text = true := by
    rw [declares, Cst.lookup_isSome h, List.any_eq_true]
    obtain ⟨rule, hrule, hsame⟩ := List.mem_map.mp hmem
    exact ⟨rule, hrule, beq_iff_eq.mpr hsame⟩
  rw [undefined?, hname]
  exact if_pos hdeclared

end RuleTable

namespace Labels

theorem check_clean {names : List String} {root : Cst}
    (h : ∀ found ∈ root.nodes, found.Checked names) : check root = [] := by
  rw [check, List.flatMap_eq_nil_iff]
  intro sequence hmem
  obtain ⟨hmem, hkind⟩ := List.mem_filter.mp hmem
  have hchecked := h sequence hmem
  unfold Cst.Checked at hchecked
  rwa [beq_iff_eq.mp hkind] at hchecked

end Labels

namespace Meaning

theorem rules_quiet {table : RuleTable}
    (h : ∀ entry ∈ table, ∀ reports, ((operand entry.2.children).run reports).2 = reports)
    (reports : Diagnostics) : ((rules table).run reports).2 = reports := by
  induction table generalizing reports with
  | nil => rfl
  | cons entry rest ih =>
    obtain ⟨hfirst, hrest⟩ := List.forall_mem_cons.mp h
    change ((rules rest).run ((operand entry.2.children).run reports).2).2 = reports
    rw [hfirst reports]
    exact ih hrest reports

end Meaning

namespace Analysis

theorem emptyGrammar_warns (root : Cst) (grammar : Grammar) :
    (emptyGrammar root grammar).hasErrors = false := by
  unfold emptyGrammar
  split
  · split <;> rfl
  · rfl

theorem leftRecursion_warns (table : RuleTable) (grammar : Grammar) :
    (leftRecursion table grammar).hasErrors = false := by
  rw [Diagnostics.hasErrors, List.any_eq_false]
  intro diagnostic hmem
  obtain ⟨name, _, hname⟩ := List.mem_filterMap.mp hmem
  obtain ⟨rule, _, rfl⟩ := Option.map_eq_some_iff.mp hname
  exact Bool.false_ne_true

section Restored

variable {names : List String} {tree : Cst} {contents : Syntax.Contents} {children : List Cst}

theorem root_checked (htree : tree.Restores names contents)
    (hchildren : Cst.significant children = [tree]) :
    ∀ found ∈ (Cst.node .rootNode children).nodes, found.Checked names :=
  (Cst.operator_faultless hchildren (by decide)
    (List.forall_mem_singleton.mpr htree.faultless)).checked

/-- All rules are declared once, and all references are declared. -/
theorem names_clean (htree : tree.Restores (contents.rules.map (·.name)) contents)
    (hchildren : Cst.significant children = [tree])
    (hdistinct : (contents.rules.map (·.name)).Nodup) :
    (RuleTable.ofRoot (.node .rootNode children)).2 = [] := by
  have htable := Cst.ofRoot_entered htree.gives hchildren
  rw [Syntax.firstRules_of_nodup hdistinct] at htable
  rw [RuleTable.ofRoot, Cst.grammar?_eq htree.gives hchildren] at htable ⊢
  refine List.append_eq_nil_iff.mpr ⟨RuleTable.declare_distinct .nil htree.gives.rules hdistinct, ?_⟩
  rw [List.filterMap_eq_nil_iff]
  intro reference hmem
  obtain ⟨hmem, hkind⟩ := List.mem_filter.mp hmem
  exact RuleTable.undefined_none htable (beq_iff_eq.mp hkind)
    (root_checked htree hchildren reference hmem)

theorem meaning_clean (htree : tree.Restores names contents)
    (hchildren : Cst.significant children = [tree]) :
    ((Meaning.grammar (.node .rootNode children)
      (RuleTable.ofRoot (.node .rootNode children)).1).run []).2 = [] := by
  have hquiet := ((List.forall₂_and_left tree.rules contents.rules).mp
    (htree.rules.imp fun _ _ h ↦ ⟨h.quiet, h⟩)).1
  have htable := RuleTable.ofRoot_of (Cst.grammar?_eq htree.gives hchildren)
  exact Meaning.rules_quiet (fun entry hentry ↦ hquiet entry.2 (htable.trees entry hentry)) []

/-- No check reports an error on a tree that gives the grammar. -/
theorem ofRoot_restored (htree : tree.Restores (contents.rules.map (·.name)) contents)
    (hchildren : Cst.significant children = [tree])
    (hdistinct : (contents.rules.map (·.name)).Nodup) :
    (ofRoot (.node .rootNode children)).diagnostics.hasErrors = false := by
  obtain ⟨root, hroot⟩ : ∃ root, root = Cst.node .rootNode children := ⟨_, rfl⟩
  have hdiagnostics : (ofRoot root).diagnostics = (RuleTable.ofRoot root).2 ++ Labels.check root ++
      ((Meaning.grammar root (RuleTable.ofRoot root).1).run []).2 ++
      emptyGrammar root (ofRoot root).grammar ++
      leftRecursion (RuleTable.ofRoot root).1 (ofRoot root).grammar := rfl
  rw [← hroot, hdiagnostics, Diagnostics.hasErrors_append, Diagnostics.hasErrors_append, hroot,
    names_clean htree hchildren hdistinct, Labels.check_clean (root_checked htree hchildren),
    meaning_clean htree hchildren]
  exact ⟨⟨rfl, emptyGrammar_warns _ _⟩, leftRecursion_warns _ _⟩

end Restored

end Analysis

namespace Compilation

/-- A text that is read and analysed without an error is accepted. -/
theorem compileWithin_ok {limits : Cst.Limits} {source : String} {parsed : Cst.Parsed}
    (hparse : Cst.parse source limits = .ok parsed) (hclean : parsed.diagnostics.hasErrors = false)
    (hanalysis : (Analysis.ofRoot parsed.root).diagnostics.hasErrors = false) :
    compileWithin limits source = .ok (Analysis.ofRoot parsed.root).grammar := by
  rw [compileWithin, parse, hparse]
  change (analyze parsed >>= Analyzed.accept) = _
  rw [analyze, if_neg (by rw [hclean]; exact Bool.false_ne_true)]
  change Analyzed.accept _ = _
  rw [Analyzed.accept, if_pos]
  rw [Analyzed.isValid, Bool.not_eq_true']
  exact Diagnostics.hasErrors_append.mpr ⟨hclean, hanalysis⟩

/-- A text that spells a grammar with bodies that are read again compiles to it. -/
theorem compileWithin_spelled {spell : Expr → List (Kind × String)} {source : String}
    {limits : Cst.Limits} {first : String} {others : List String} {rules : List Rule}
    (hspelled : Token.Spelled source.toList (Grammar.wordsAs spell first others rules))
    (hfuel : ∀ fuel ∈ limits.execFuel, (Grammar.wordsAs spell first others rules).length ≤ fuel)
    (hrules : Cst.Parse.Rewritable spell (rules.map (·.name))
      (limits.recursionFuel.getD ((Token.lex source.toList).length + 1)) rules)
    (hdistinct : (rules.map (·.name)).Nodup) : ∃ grammar,
      compileWithin limits source = .ok grammar ∧
        grammar.name = "::".intercalate (first :: others) ∧ grammar.rules = rules := by
  obtain ⟨parsed, tree, children, hparse, hclean, hroot, hchildren, htree⟩ :=
    Cst.parse_restores hspelled hfuel hrules
  have hanalysis :=
    @Analysis.ofRoot_restored tree ⟨first :: others, rules⟩ children htree hchildren hdistinct
  obtain ⟨hname, hvalue, _⟩ := Cst.analysis_of_gives htree.gives hchildren
  rw [Syntax.firstRules_of_nodup hdistinct] at hvalue
  rw [← hroot] at hanalysis hname hvalue
  refine ⟨_, compileWithin_ok hparse ?_ hanalysis, hname, hvalue⟩
  rw [hclean]
  rfl

end Compilation

end PegKit
