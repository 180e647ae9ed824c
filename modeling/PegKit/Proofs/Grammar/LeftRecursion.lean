import Mathlib.Data.Finset.Card
import Mathlib.Logic.Relation
import PegKit.Grammar.LeftRecursion

/-!
# The analysis of left recursion

Both sets that the analysis iterates grow towards one that is closed, and there are as many steps as
there are names to add, so the iteration gets there: the nullable rules are closed under the rule
bodies, and a rule that is not reported lies on no cycle of leftmost calls. Without a cycle, rules can
be ranked so that leftmost calls go down.
-/

namespace PegKit

/-! ## Iteration -/

section Iteration

variable {step : List String → List String} (hgrow : ∀ names, names ⊆ step names)

include hgrow

theorem repeat_subset {steps steps' : Nat} (hle : steps ≤ steps') (start : List String) :
    Nat.repeat step steps start ⊆ Nat.repeat step steps' start := by
  induction hle with
  | refl => exact List.Subset.refl _
  | step _ ih => exact List.Subset.trans ih (hgrow _)

def foundOf (keys : List String) (names : List String) : Finset String :=
  keys.toFinset.filter (· ∈ names)

/-- Each step finds one more name at least, until one finds none. -/
theorem le_card_or_stable (keys : List String) (start : List String) (steps : Nat) :
    steps ≤ (foundOf keys (Nat.repeat step steps start)).card ∨
      ∃ steps' < steps, ∀ key ∈ keys, key ∈ Nat.repeat step (steps' + 1) start →
        key ∈ Nat.repeat step steps' start := by
  induction steps with
  | zero => exact .inl (Nat.zero_le _)
  | succ steps ih =>
    rcases ih with hle | ⟨steps', hlt, hstable⟩
    · by_cases hmore : ∀ key ∈ keys, key ∈ Nat.repeat step (steps + 1) start →
          key ∈ Nat.repeat step steps start
      · exact .inr ⟨steps, Nat.lt_succ_self _, hmore⟩
      · left
        push Not at hmore
        obtain ⟨key, hkey, hnew, hold⟩ := hmore
        have hsubset : foundOf keys (Nat.repeat step steps start) ⊂
            foundOf keys (Nat.repeat step (steps + 1) start) := by
          rw [Finset.ssubset_iff_of_subset]
          · exact ⟨key, by simp [foundOf, hkey, hnew], by simp [foundOf, hold]⟩
          · intro name hname
            simp only [foundOf, Finset.mem_filter] at hname ⊢
            exact ⟨hname.1, hgrow _ hname.2⟩
        calc
          steps + 1 ≤ (foundOf keys (Nat.repeat step steps start)).card + 1 :=
            Nat.succ_le_succ hle
          _ ≤ (foundOf keys (Nat.repeat step (steps + 1) start)).card :=
            Finset.card_lt_card hsubset
    · exact .inr ⟨steps', Nat.lt_succ_of_lt hlt, hstable⟩

/-- After as many steps as there are keys, all of them are found or some step found none. -/
theorem repeat_settles (keys : List String) (start : List String) :
    keys ⊆ Nat.repeat step keys.length start ∨
      ∃ steps < keys.length, ∀ key ∈ keys, key ∈ Nat.repeat step (steps + 1) start →
        key ∈ Nat.repeat step steps start := by
  rcases le_card_or_stable hgrow keys start keys.length with hle | hstable
  · left
    have hall : foundOf keys (Nat.repeat step keys.length start) = keys.toFinset := by
      apply Finset.eq_of_subset_of_card_le (Finset.filter_subset _ _)
      exact (List.toFinset_card_le keys).trans hle
    intro key hkey
    have hfound : key ∈ foundOf keys (Nat.repeat step keys.length start) := by
      rw [hall]
      exact List.mem_toFinset.mpr hkey
    exact (Finset.mem_filter.mp hfound).2
  · exact .inr hstable

end Iteration

/-! ## Nullable rules -/

namespace Expr

variable {names names' : List String}

mutual

theorem isNullable_mono (hsub : names ⊆ names') : (expr : Expr) → expr.isNullable names = true →
    expr.isNullable names' = true
  | .terminal _, h => h
  | .charClass _, h => h
  | .anyChar, h => h
  | .sequence items, h => allNullable_mono hsub items h
  | .choice alternatives, h => anyNullable_mono hsub alternatives h
  | .repetition inner least, h => by
    rw [isNullable, Bool.or_eq_true] at h ⊢
    exact h.imp_right (isNullable_mono hsub inner)
  | .optional _, h => h
  | .lookahead _, h => h
  | .negativeLookahead _, h => h
  | .predicate _ _, h => h
  | .label _ inner, h => isNullable_mono hsub inner h
  | .ruleRef name, h => by
    rw [isNullable, List.contains_iff_mem] at h ⊢
    exact hsub h

theorem allNullable_mono (hsub : names ⊆ names') :
    (exprs : List Expr) → allNullable names exprs = true → allNullable names' exprs = true
  | [], h => h
  | expr :: rest, h => by
    rw [allNullable, Bool.and_eq_true] at h ⊢
    exact ⟨isNullable_mono hsub expr h.1, allNullable_mono hsub rest h.2⟩

theorem anyNullable_mono (hsub : names ⊆ names') :
    (exprs : List Expr) → anyNullable names exprs = true → anyNullable names' exprs = true
  | [], h => h
  | expr :: rest, h => by
    rw [anyNullable, Bool.or_eq_true] at h ⊢
    exact h.imp (isNullable_mono hsub expr) (anyNullable_mono hsub rest)

end

end Expr

namespace Grammar

theorem subset_sweep (rules : List Rule) (names : List String) : names ⊆ sweep rules names := by
  unfold sweep
  induction rules generalizing names with
  | nil => exact List.Subset.refl _
  | cons rule rest ih =>
    rw [List.foldl_cons]
    apply List.Subset.trans _ (ih _)
    split
    · exact List.subset_append_left _ _
    · exact List.Subset.refl _

/-- A sweep finds every rule whose body was nullable before. -/
theorem mem_sweep {rules : List Rule} {rule : Rule} {names : List String} (hrule : rule ∈ rules)
    (hbody : rule.body.isNullable names = true) : rule.name ∈ sweep rules names := by
  unfold sweep
  induction rules generalizing names with
  | nil => cases hrule
  | cons first rest ih =>
    rw [List.foldl_cons]
    rcases List.mem_cons.mp hrule with rfl | hrest
    · apply subset_sweep rest
      by_cases hfound : rule.name ∈ names
      · simp [hfound]
      · simp [hfound, hbody]
    · apply ih hrest
      apply Expr.isNullable_mono _ _ hbody
      split
      · exact List.subset_append_left _ _
      · exact List.Subset.refl _

/-- Every rule whose body is nullable over `names` is one of them. -/
def NullClosed (rules : List Rule) (names : List String) : Prop :=
  ∀ rule ∈ rules, rule.body.isNullable names = true → rule.name ∈ names

theorem NullClosed.sweep_subset {rules : List Rule} {names names' : List String}
    (h : NullClosed rules names) (hsub : names' ⊆ names) : sweep rules names' ⊆ names := by
  have hfold : ∀ swept ⊆ rules, ∀ found ⊆ names, sweep swept found ⊆ names := by
    intro swept hswept
    induction swept with
    | nil => exact fun found hfound ↦ hfound
    | cons rule rest ih =>
      intro found hfound
      obtain ⟨hrule, hrest⟩ := List.cons_subset.mp hswept
      unfold sweep
      rw [List.foldl_cons]
      apply ih hrest
      split
      · next hadded =>
        rw [Bool.and_eq_true] at hadded
        have hname := h rule hrule (Expr.isNullable_mono hfound _ hadded.2)
        exact List.append_subset.mpr ⟨hfound, by simpa using hname⟩
      · exact hfound
  exact hfold rules (List.Subset.refl _) names' hsub

/-- The rules that may succeed without consuming input are closed under the rule bodies. -/
theorem nullableRules_closed (grammar : Grammar) :
    NullClosed grammar.rules grammar.nullableRules := by
  have hgrow := subset_sweep grammar.rules
  have hlength : grammar.ruleNames.length = grammar.rules.length := List.length_map _
  unfold nullableRules
  rw [← hlength]
  rcases repeat_settles hgrow grammar.ruleNames [] with hall | ⟨steps, hlt, hstable⟩
  · intro rule hrule _
    exact hall (List.mem_map_of_mem hrule)
  · have hclosed : NullClosed grammar.rules (Nat.repeat (sweep grammar.rules) steps []) := by
      intro rule hrule hbody
      exact hstable rule.name (List.mem_map_of_mem hrule) (mem_sweep hrule hbody)
    have hsettled : ∀ more, Nat.repeat (sweep grammar.rules) (steps + more) [] ⊆
        Nat.repeat (sweep grammar.rules) steps [] := by
      intro more
      induction more with
      | zero => exact List.Subset.refl _
      | succ more ih => exact hclosed.sweep_subset ih
    have hback := hsettled (grammar.ruleNames.length - steps)
    rw [Nat.add_sub_of_le hlt.le] at hback
    intro rule hrule hbody
    apply repeat_subset hgrow hlt.le
    exact hclosed rule hrule (Expr.isNullable_mono hback _ hbody)

/-! ## Cycles -/

/-- `name` has a direct path to `name'`. -/
def Edge (graph : List (String × List String)) (name name' : String) : Prop :=
  name' ∈ (graph.lookup name).getD []

variable {graph : List (String × List String)}

theorem Edge.mem_keys {name name' : String} (h : Edge graph name name') :
    name ∈ graph.map Prod.fst := by
  unfold Edge at h
  by_contra hmissing
  have hnone : graph.lookup name = none := by
    rw [List.lookup_eq_none_iff]
    intro entry hentry
    apply bne_iff_ne.mpr
    rintro rfl
    exact hmissing (List.mem_map_of_mem hentry)
  rw [hnone] at h
  cases h

theorem mem_adjoin {reached names : List String} {name : String} :
    name ∈ adjoin reached names ↔ name ∈ reached ∨ name ∈ names := by
  unfold adjoin
  by_cases hold : name ∈ reached <;> simp [hold]

/-- Spreading adds the direct successors. -/
theorem mem_spread {names : List String} {name : String} :
    name ∈ spread graph names ↔ name ∈ names ∨ ∃ source ∈ names, Edge graph source name := by
  have hfold : ∀ sources reached : List String,
      name ∈ sources.foldl (fun reached source ↦
          adjoin reached ((graph.lookup source).getD [])) reached ↔
        name ∈ reached ∨ ∃ source ∈ sources, Edge graph source name := by
    intro sources
    induction sources with
    | nil => simp
    | cons source rest ih =>
      intro reached
      rw [List.foldl_cons, ih, mem_adjoin]
      simp only [List.mem_cons, exists_eq_or_imp, or_assoc]
      rfl
  exact hfold names names

theorem subset_spread (names : List String) : names ⊆ spread graph names :=
  fun _ hname ↦ mem_spread.mpr (.inl hname)

/-- What is reached from `name` over one edge at least is found, unless `name` itself is. -/
theorem isOnCycle_of_path {name : String} (h : Relation.TransGen (Edge graph) name name) :
    isOnCycle graph name = true := by
  have hgrow : ∀ names, names ⊆ spread graph names := subset_spread
  have hlength : (graph.map Prod.fst).length = graph.length := List.length_map _
  have hkey : name ∈ graph.map Prod.fst := by
    obtain ⟨_, hedge, _⟩ := Relation.TransGen.head'_iff.mp h
    exact hedge.mem_keys
  unfold isOnCycle
  rw [List.contains_iff_mem, ← hlength]
  rcases repeat_settles hgrow (graph.map Prod.fst) ((graph.lookup name).getD []) with
    hall | ⟨steps, hlt, hstable⟩
  · exact hall hkey
  · apply repeat_subset hgrow (Nat.succ_le_of_lt hlt)
    have hreached : ∀ target, Relation.TransGen (Edge graph) name target →
        target ∈ Nat.repeat (spread graph) (steps + 1) ((graph.lookup name).getD []) := by
      intro target hpath
      induction hpath with
      | single hedge => exact repeat_subset hgrow (Nat.zero_le _) _ hedge
      | tail _ hedge ih =>
        apply mem_spread.mpr
        exact .inr ⟨_, hstable _ hedge.mem_keys ih, hedge⟩
    exact hreached name h

open Classical in
/-- The keys that paths from `name` lead to, `name` included. -/
noncomputable def reachable (graph : List (String × List String)) (name : String) :
    Finset String :=
  (graph.map Prod.fst).toFinset.filter (Relation.ReflTransGen (Edge graph) name)

theorem mem_reachable {name target : String} :
    target ∈ reachable graph name ↔
      target ∈ graph.map Prod.fst ∧ Relation.ReflTransGen (Edge graph) name target := by
  simp only [reachable, Finset.mem_filter, List.mem_toFinset]

/-- Without cycles, an edge leads to a name that reaches less. -/
theorem card_reachable_lt {name name' : String} (h : Edge graph name name')
    (hfree : ¬ Relation.TransGen (Edge graph) name name) :
    (reachable graph name').card < (reachable graph name).card := by
  apply Finset.card_lt_card
  rw [Finset.ssubset_iff_of_subset]
  · refine ⟨name, mem_reachable.mpr ⟨h.mem_keys, .refl⟩, ?_⟩
    intro hback
    exact hfree (Relation.TransGen.head' h (mem_reachable.mp hback).2)
  · intro target htarget
    rw [mem_reachable] at htarget ⊢
    exact ⟨htarget.1, .head h htarget.2⟩

theorem card_reachable_le (name : String) : (reachable graph name).card ≤ graph.length := by
  calc
    (reachable graph name).card ≤ (graph.map Prod.fst).toFinset.card := by
      apply Finset.card_le_card
      intro target htarget
      exact List.mem_toFinset.mpr (mem_reachable.mp htarget).1
    _ ≤ (graph.map Prod.fst).length := List.toFinset_card_le _
    _ = graph.length := List.length_map _

/-! ## Ranks of rules -/

/-- Ranks of rules that leftmost calls go down. -/
structure Ranks (grammar : Grammar) (rank : String → Nat) : Prop where
  bound : ∀ name, rank name ≤ grammar.rules.length
  descends : ∀ {name callee : String} {rule : Rule}, grammar.rule? name = some rule →
    callee ∈ rule.body.leftmostCalls grammar.nullableRules → rank callee < rank name

theorem lookup_callGraph (grammar : Grammar) (name : String) :
    grammar.callGraph.lookup name =
      (grammar.rule? name).map fun rule ↦ rule.body.leftmostCalls grammar.nullableRules := by
  have hlookup : ∀ rules : List Rule,
      (rules.map fun rule ↦
          (rule.name, rule.body.leftmostCalls grammar.nullableRules)).lookup name =
        (rules.find? (·.name == name)).map fun rule ↦
          rule.body.leftmostCalls grammar.nullableRules := by
    intro rules
    induction rules with
    | nil => rfl
    | cons rule rest ih =>
      rw [List.map_cons, List.lookup_cons, List.find?_cons, BEq.comm, ih]
      cases rule.name == name <;> rfl
  exact hlookup grammar.rules

/-- Where no rule is reported as left-recursive, rules can be ranked. -/
theorem exists_ranks {grammar : Grammar} (h : grammar.leftRecursiveRules = []) :
    ∃ rank, grammar.Ranks rank := by
  have hlength : grammar.callGraph.length = grammar.rules.length := List.length_map _
  refine ⟨fun name ↦ (reachable grammar.callGraph name).card, fun name ↦ ?_, ?_⟩
  · rw [← hlength]
    exact card_reachable_le name
  · intro name callee rule hrule hcallee
    have hedge : Edge grammar.callGraph name callee := by
      unfold Edge
      rw [lookup_callGraph, hrule]
      exact hcallee
    have hname : name ∈ grammar.ruleNames := by
      have hsame : rule.name = name := by simpa using List.find?_some hrule
      rw [← hsame]
      exact List.mem_map_of_mem (List.mem_of_find?_eq_some hrule)
    apply card_reachable_lt hedge
    intro hcycle
    exact List.filter_eq_nil_iff.mp h name hname (isOnCycle_of_path hcycle)

end Grammar

end PegKit
