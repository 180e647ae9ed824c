import Mathlib.Data.List.Nodup
import PegKit.Grammar

/-!
# Grammars with distinct rule names

A rule that is added to a grammar takes the place of an older one of its name. So a grammar that is
made rule by rule never has two rules of one name, and what is shown of such grammars need not ask
for it.
-/

namespace PegKit

/-- Adding rules keeps their names distinct. -/
theorem Grammar.addRule_distinct {grammar : Grammar} (h : grammar.ruleNames.Nodup) (rule : Rule) :
    (grammar.addRule rule).ruleNames.Nodup := by
  by_cases hknown : grammar.rules.any (·.name == rule.name)
  · have hkept : (grammar.addRule rule).ruleNames = grammar.ruleNames := by
      rw [ruleNames, addRule, if_pos hknown, List.map_map, ruleNames]
      apply List.map_congr_left
      intro old _
      by_cases hsame : old.name = rule.name <;> simp [hsame]
    rwa [hkept]
  · have hadded : (grammar.addRule rule).ruleNames = grammar.ruleNames ++ [rule.name] := by
      simp [ruleNames, addRule, hknown]
    have hnew : rule.name ∉ grammar.ruleNames := by
      intro hmem
      obtain ⟨old, hold, hname⟩ := List.mem_map.mp hmem
      exact hknown (List.any_eq_true.mpr ⟨old, hold, by simpa using hname⟩)
    rw [hadded, List.nodup_append]
    refine ⟨h, List.nodup_singleton _, ?_⟩
    rintro name hname _ hlast rfl
    exact hnew (List.mem_singleton.mp hlast ▸ hname)

/-- A grammar of whose rules no two have one name. -/
structure DistinctGrammar extends Grammar where
  distinct : toGrammar.ruleNames.Nodup

namespace DistinctGrammar

def empty (name : String) : DistinctGrammar := ⟨.empty name, List.nodup_nil⟩

def addRule (grammar : DistinctGrammar) (rule : Rule) : DistinctGrammar :=
  ⟨grammar.toGrammar.addRule rule, Grammar.addRule_distinct grammar.distinct rule⟩

end DistinctGrammar

end PegKit
