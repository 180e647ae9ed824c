import PegKit.Proofs.Grammar.Cycles

/-!
# The nullable rules

The nullable rules are found in rounds over the rules. A rule that a round finds counts at once for
the rules after it, so the order of the rules decides which round finds one. It does not decide what
is found in the end: the rounds stop by themselves, and they stop at the least set of rules that
holds a rule exactly when its body is nullable over the set.
-/

namespace PegKit.Grammar

variable {rules : List Rule} {names : List String}

/-! ## Rounds -/

/-- One round over the rules, with a mark of whether it has found one. -/
def round (rules : List Rule) (names : List String) : List String × Bool :=
  rules.foldl
    (fun state rule ↦
      if !state.1.contains rule.name && rule.body.isNullable state.1 then
        (state.1 ++ [rule.name], true)
      else state)
    (names, false)

theorem sweep_cons (rule : Rule) (rules : List Rule) (names : List String) :
    sweep (rule :: rules) names =
      sweep rules (if !names.contains rule.name && rule.body.isNullable names then
        names ++ [rule.name] else names) := List.foldl_cons

/-- A sweep appends names of rules that were not found before, each once. -/
theorem sweep_eq_append (rules : List Rule) (names : List String) :
    ∃ added, sweep rules names = names ++ added ∧ added ⊆ rules.map (·.name) ∧
      added.Disjoint names ∧ added.Nodup := by
  induction rules generalizing names with
  | nil => exact ⟨[], (List.append_nil names).symm, by simp, by simp, List.nodup_nil⟩
  | cons rule rest ih =>
    rw [sweep_cons]
    by_cases hnew : (!names.contains rule.name && rule.body.isNullable names) = true
    · rw [if_pos hnew]
      obtain ⟨added, hsweep, hrules, hfresh, hnodup⟩ := ih (names ++ [rule.name])
      rw [List.disjoint_append_right, List.disjoint_singleton] at hfresh
      have hunknown : rule.name ∉ names := by
        simp only [Bool.and_eq_true, Bool.not_eq_true', List.contains_eq_mem,
          decide_eq_false_iff_not] at hnew
        exact hnew.1
      refine ⟨rule.name :: added, ?_, ?_, ?_, ?_⟩
      · rw [hsweep, List.append_assoc, List.singleton_append]
      · rw [List.map_cons]
        exact List.cons_subset_cons rule.name hrules
      · exact List.disjoint_cons_left.mpr ⟨hunknown, hfresh.1⟩
      · exact List.nodup_cons.mpr ⟨hfresh.2, hnodup⟩
    · rw [if_neg hnew]
      obtain ⟨added, hsweep, hrules, hfresh⟩ := ih names
      refine ⟨added, hsweep, ?_, hfresh⟩
      exact List.Subset.trans hrules (List.subset_cons_self _ _)

/-- A round sweeps, and is marked when the sweep has found a rule. -/
theorem round_eq (rules : List Rule) (names : List String) :
    round rules names = (sweep rules names, decide (names.length < (sweep rules names).length)) := by
  have hfold : ∀ (rules : List Rule) (names : List String) (found : Bool),
      rules.foldl
          (fun state rule ↦
            if !state.1.contains rule.name && rule.body.isNullable state.1 then
              (state.1 ++ [rule.name], true)
            else state)
          (names, found) =
        (sweep rules names, found || decide (names.length < (sweep rules names).length)) := by
    intro rules
    induction rules with
    | nil =>
      intro names found
      simp [sweep]
    | cons rule rest ih =>
      intro names found
      rw [List.foldl_cons, sweep_cons]
      split
      · obtain ⟨added, hsweep, -⟩ := sweep_eq_append rest (names ++ [rule.name])
        have hlonger : names.length < (sweep rest (names ++ [rule.name])).length := by
          rw [hsweep, List.length_append, List.length_append, List.length_singleton]
          omega
        rw [ih, decide_eq_true hlonger, Bool.true_or, Bool.or_true]
      · rw [ih]
  exact hfold rules names false

/-- The names of rules that were not found. -/
def missing (rules : List Rule) (names : List String) : Finset String :=
  (rules.map (·.name)).toFinset.filter (· ∉ names)

theorem card_missing_sweep_lt (h : names.length < (sweep rules names).length) :
    (missing rules (sweep rules names)).card < (missing rules names).card := by
  obtain ⟨added, hsweep, hrules, hfresh, -⟩ := sweep_eq_append rules names
  rw [hsweep] at h ⊢
  obtain ⟨name, hname⟩ : ∃ name, name ∈ added := by
    apply List.exists_mem_of_length_pos
    rw [List.length_append] at h
    omega
  apply Finset.card_lt_card
  rw [Finset.ssubset_iff_of_subset]
  · refine ⟨name, ?_, by simp [missing, hname]⟩
    rw [missing, Finset.mem_filter, List.mem_toFinset]
    exact ⟨hrules hname, hfresh hname⟩
  · intro other hother
    simp only [missing, Finset.mem_filter, List.mem_append, not_or] at hother ⊢
    exact ⟨hother.1, hother.2.1⟩

/-- Rounds until one finds no rule. -/
def saturate (rules : List Rule) (names : List String) : List String :=
  if (round rules names).2 then saturate rules (round rules names).1 else (round rules names).1
termination_by (missing rules names).card
decreasing_by
  next hfound =>
    rw [round_eq] at hfound ⊢
    exact card_missing_sweep_lt (of_decide_eq_true hfound)

theorem saturate_sweep (rules : List Rule) (names : List String) :
    saturate rules (sweep rules names) = saturate rules names := by
  obtain ⟨added, hsweep, -⟩ := sweep_eq_append rules names
  conv_rhs => rw [saturate, round_eq]
  by_cases hlonger : names.length < (sweep rules names).length
  · rw [decide_eq_true hlonger, if_pos rfl]
  · have hnone : added = [] := by
      rw [hsweep, List.length_append] at hlonger
      exact List.eq_nil_of_length_eq_zero (by omega)
    rw [hnone, List.append_nil] at hsweep
    rw [decide_eq_false hlonger, if_neg Bool.false_ne_true, hsweep, saturate, round_eq,
      decide_eq_false hlonger, if_neg Bool.false_ne_true, hsweep]

/-- Nothing is found once the names are closed. -/
theorem NullClosed.sweep_eq (h : NullClosed rules names) : sweep rules names = names := by
  obtain ⟨added, hsweep, -, hfresh, -⟩ := sweep_eq_append rules names
  have hknown : names ++ added ⊆ names := by
    rw [← hsweep]
    exact h.sweep_subset (List.Subset.refl _)
  have hnone : added = [] := by
    apply List.eq_nil_iff_forall_not_mem.mpr
    intro name hname
    exact hfresh hname (hknown (List.mem_append_right _ hname))
  rw [hsweep, hnone, List.append_nil]

theorem NullClosed.saturate_eq (h : NullClosed rules names) : saturate rules names = names := by
  rw [saturate, round_eq, h.sweep_eq, decide_eq_false (Nat.lt_irrefl _),
    if_neg Bool.false_ne_true]

/-- What holds of no names, and after a sweep where it held before, holds of the nullable rules. -/
theorem nullableRules_of_sweep {grammar : Grammar} {holds : List String → Prop} (hnone : holds [])
    (hsweep : ∀ names, holds names → holds (sweep grammar.rules names)) :
    holds grammar.nullableRules := by
  have hsteps : ∀ steps, holds (Nat.repeat (sweep grammar.rules) steps []) := by
    intro steps
    induction steps with
    | zero => exact hnone
    | succ steps ih => exact hsweep _ ih
  exact hsteps grammar.rules.length

/-- The rounds stop by themselves, with the rules that as many rounds as there are rules find. -/
theorem saturate_nil (grammar : Grammar) : saturate grammar.rules [] = grammar.nullableRules := by
  have hsweeps : saturate grammar.rules grammar.nullableRules = saturate grammar.rules [] := by
    let Same (names : List String) := saturate grammar.rules names = saturate grammar.rules []
    apply @nullableRules_of_sweep grammar Same rfl
    intro names ih
    exact (saturate_sweep _ names).trans ih
  calc
    saturate grammar.rules [] = saturate grammar.rules grammar.nullableRules := hsweeps.symm
    _ = grammar.nullableRules := (nullableRules_closed grammar).saturate_eq

/-! ## The least solution -/

/-- `names` are those of the rules whose bodies are nullable over `names`. -/
structure NullFixed (grammar : Grammar) (names : List String) : Prop where
  declared : names ⊆ grammar.ruleNames
  body : ∀ rule ∈ grammar.rules, rule.name ∈ names ↔ rule.body.isNullable names = true

theorem NullFixed.closed {grammar : Grammar} (h : grammar.NullFixed names) :
    NullClosed grammar.rules names :=
  fun rule hrule hbody ↦ (h.body rule hrule).mpr hbody

/-- Every name is that of a rule whose body is nullable over the names. -/
def NullFounded (rules : List Rule) (names : List String) : Prop :=
  ∀ name ∈ names, ∃ rule ∈ rules, rule.name = name ∧ rule.body.isNullable names = true

theorem NullFounded.sweep {swept : List Rule} (hswept : swept ⊆ rules)
    (h : NullFounded rules names) : NullFounded rules (sweep swept names) := by
  induction swept generalizing names with
  | nil => exact h
  | cons rule rest ih =>
    obtain ⟨hrule, hrest⟩ := List.cons_subset.mp hswept
    rw [sweep_cons]
    apply ih hrest
    split
    · next hnew =>
      rw [Bool.and_eq_true] at hnew
      have hmore : names ⊆ names ++ [rule.name] := List.subset_append_left _ _
      intro name hname
      rcases List.mem_append.mp hname with hold | hlast
      · obtain ⟨found, hfound, hsame, hbody⟩ := h name hold
        exact ⟨found, hfound, hsame, Expr.isNullable_mono hmore _ hbody⟩
      · refine ⟨rule, hrule, (List.mem_singleton.mp hlast).symm, ?_⟩
        exact Expr.isNullable_mono hmore _ hnew.2
    · exact h

theorem nullableRules_founded (grammar : Grammar) :
    NullFounded grammar.rules grammar.nullableRules := by
  apply nullableRules_of_sweep
  · intro name hname
    cases hname
  · intro names ih
    exact ih.sweep (List.Subset.refl _)

theorem nullableRules_nodup (grammar : Grammar) : grammar.nullableRules.Nodup := by
  apply nullableRules_of_sweep
  · exact List.nodup_nil
  · intro names ih
    obtain ⟨added, hsweep, -, hfresh, hnodup⟩ := sweep_eq_append grammar.rules names
    rw [hsweep]
    exact ih.append hnodup hfresh.symm

theorem nullableRules_fixed (grammar : DistinctGrammar) :
    grammar.NullFixed grammar.nullableRules := by
  have hfounded := nullableRules_founded grammar.toGrammar
  constructor
  · intro name hname
    obtain ⟨rule, hrule, rfl, -⟩ := hfounded name hname
    exact List.mem_map_of_mem hrule
  · intro rule hrule
    constructor
    · intro hname
      obtain ⟨found, hfound, hsame, hbody⟩ := hfounded rule.name hname
      rwa [List.inj_on_of_nodup_map grammar.distinct hfound hrule hsame] at hbody
    · exact nullableRules_closed grammar.toGrammar rule hrule

/-- Which rules are nullable does not depend on their order. -/
theorem nullableRules_subset_of_perm {grammar other : Grammar}
    (h : grammar.rules.Perm other.rules) : grammar.nullableRules ⊆ other.nullableRules := by
  apply (nullableRules_least grammar).least
  intro rule hrule
  exact nullableRules_closed other rule (h.mem_iff.mp hrule)

end PegKit.Grammar
