import PegKit.Proofs.Grammar.Distinct
import PegKit.Proofs.Program.Encoding

/-!
# Grammars that have programs

A grammar whose rules have different names, and whose references all name rules, has a program. All
rules are declared before the first body is added, so bodies declare nothing, and every rule gets its
only body.
-/

namespace PegKit.Builder

/-! ## Bodies without new names -/

theorem declare_known {name : String} {builder : Builder} (h : name ∈ builder.tables.rules) :
    ((declare name).run builder).2 = builder := by
  obtain ⟨rule, hrule, hname⟩ := List.mem_map.mp h
  have hfound : (builder.rules.findIdx? (·.name == name)).isSome := by
    rw [Array.findIdx?_isSome, Array.any_eq_true']
    exact ⟨rule, Array.mem_toList_iff.mp hrule, beq_iff_eq.mpr hname⟩
  obtain ⟨place, hplace⟩ := Option.isSome_iff_exists.mp hfound
  rw [declare_run, hplace]

mutual

/-- An expression whose references are declared leaves the rules as they are. -/
theorem addExpr_rules :
    (expr : Expr) → (builder : Builder) → (∀ name ∈ expr.refs, name ∈ builder.tables.rules) →
      ((addExpr expr).run builder).2.rules = builder.rules
  | .terminal _, _, _ => rfl
  | .charClass _, _, _ => rfl
  | .anyChar, _, _ => rfl
  | .predicate _ _, _, _ => rfl
  | .sequence items, builder, h => addExprs_rules items builder h
  | .choice alternatives, builder, h => addExprs_rules alternatives builder h
  | .repetition inner _, builder, h => addExpr_rules inner builder h
  | .optional inner, builder, h => addExpr_rules inner builder h
  | .lookahead inner, builder, h => addExpr_rules inner builder h
  | .negativeLookahead inner, builder, h => addExpr_rules inner builder h
  | .label _ inner, builder, h => addExpr_rules inner builder h
  | .ruleRef name, builder, h => by
    change ((declare name).run builder).2.rules = builder.rules
    rw [declare_known (h name List.mem_cons_self)]

theorem addExprs_rules :
    (exprs : List Expr) → (builder : Builder) →
      (∀ name ∈ Expr.refsOfList exprs, name ∈ builder.tables.rules) →
        ((addExprs exprs).run builder).2.rules = builder.rules
  | [], _, _ => rfl
  | expr :: rest, builder, h => by
    have hfirst := addExpr_rules expr builder fun name hname ↦
      h name (List.mem_append_left _ hname)
    have hothers := addExprs_rules rest ((addExpr expr).run builder).2 fun name hname ↦ by
      rw [tables, hfirst]
      exact h name (List.mem_append_right _ hname)
    exact hothers.trans hfirst

end

/-! ## Declaring and defining all rules -/

theorem declare_names {name other : String} {builder : Builder}
    (h : other ∈ ((declare name).run builder).2.tables.rules) :
    other ∈ builder.tables.rules ∨ other = name := by
  rw [declare_run] at h
  cases hfound : builder.rules.findIdx? (·.name == name) with
  | some place =>
    rw [hfound] at h
    exact .inl h
  | none =>
    rw [hfound] at h
    simpa [tables] using h

/-- Declaring rules makes no other names. -/
theorem declareAll_names {rules : List Rule} {name : String} {builder : Builder}
    (h : name ∈ ((declareAll rules).run builder).2.tables.rules) :
    name ∈ builder.tables.rules ∨ name ∈ rules.map (·.name) := by
  induction rules generalizing builder with
  | nil => exact .inl h
  | cons rule rest ih =>
    change name ∈ ((declareAll rest).run ((declare rule.name).run builder).2).2.tables.rules at h
    rcases ih h with hbefore | hrest
    · rcases declare_names hbefore with hbefore | rfl
      · exact .inl hbefore
      · exact .inr List.mem_cons_self
    · exact .inr (List.mem_cons_of_mem _ hrest)

/-- The rules without a body are those of `entries`, each under its number, and no rule was refused
so far. -/
structure Open (builder : Builder) (entries : List (Rule × RuleId)) : Prop where
  accepted : builder.duplicate = none
  named : ∀ entry ∈ entries, builder.rules[entry.2.index]? = some ⟨entry.1.name, none⟩
  listed : ∀ {i : Nat} {name : String}, builder.rules[i]? = some ⟨name, none⟩ →
    ∃ entry ∈ entries, entry.2.index = i

/-- The bodies of `entries` refer to declared rules only. -/
def Known (builder : Builder) (entries : List (Rule × RuleId)) : Prop :=
  ∀ entry ∈ entries, ∀ name ∈ entry.1.body.refs, name ∈ builder.tables.rules

theorem entries_ok {rules : List DeclaredRule} (h : ∀ rule ∈ rules, rule.body ≠ none) :
    ∃ found, entries rules = .ok found := by
  induction rules with
  | nil => exact ⟨[], rfl⟩
  | cons rule rest ih =>
    obtain ⟨found, hfound⟩ := ih fun rule hrule ↦ h rule (List.mem_cons_of_mem _ hrule)
    obtain ⟨body, hbody⟩ := Option.ne_none_iff_exists'.mp (h rule List.mem_cons_self)
    refine ⟨⟨rule.name, body⟩ :: found, ?_⟩
    rw [entries, hbody, hfound]
    rfl

theorem Open.finish_ok {builder : Builder} (h : builder.Open []) :
    ∃ program, builder.finish = .ok program := by
  have hbodies : ∀ rule ∈ builder.rules.toList, rule.body ≠ none := by
    rintro ⟨name, body⟩ hrule rfl
    obtain ⟨i, hi⟩ := List.getElem?_of_mem hrule
    rw [Array.getElem?_toList] at hi
    obtain ⟨_, hmem, _⟩ := h.listed hi
    cases hmem
  obtain ⟨found, hfound⟩ := entries_ok hbodies
  rw [finish, h.accepted, hfound]
  exact ⟨_, rfl⟩

/-- Giving the next rule its body leaves the other ones open. -/
theorem Open.define {builder : Builder} {rule : Rule} {id : RuleId}
    {rest : List (Rule × RuleId)} (h : builder.Open ((rule, id) :: rest)) (body : OpId)
    (hnew : rule.name ∉ rest.map (·.1.name)) :
    ((Builder.define id body).run builder).2.Open rest ∧
      ((Builder.define id body).run builder).2.tables.rules = builder.tables.rules := by
  have hrule := h.named (rule, id) List.mem_cons_self
  have hrun := define_run id body builder hrule
  simp only [Option.isSome_none, Bool.false_eq_true, if_false] at hrun
  have hother : ∀ entry ∈ rest, id.index ≠ entry.2.index := by
    intro entry hentry hsame
    have hentry' := h.named entry (List.mem_cons_of_mem _ hentry)
    rw [← hsame, hrule, Option.some.injEq, DeclaredRule.mk.injEq] at hentry'
    exact hnew (hentry'.1 ▸ List.mem_map_of_mem hentry)
  rw [hrun]
  refine ⟨⟨h.accepted, fun entry hentry ↦ ?_, fun {i name} hopen ↦ ?_⟩, ?_⟩
  · rw [Array.getElem?_setIfInBounds_ne (hother entry hentry)]
    exact h.named entry (List.mem_cons_of_mem _ hentry)
  · have hplace : id.index ≠ i := by
      rintro rfl
      obtain ⟨hlt, _⟩ := Array.getElem?_eq_some_iff.mp hrule
      simp [hlt] at hopen
    rw [Array.getElem?_setIfInBounds_ne hplace] at hopen
    obtain ⟨entry, hentry, hindex⟩ := h.listed hopen
    rcases List.mem_cons.mp hentry with rfl | hentry
    · exact absurd hindex hplace
    · exact ⟨entry, hentry, hindex⟩
  · exact names_setIfInBounds hrule (some body)

theorem defineAll_ok {entries : List (Rule × RuleId)} {builder : Builder}
    (hopen : builder.Open entries) (hnames : (entries.map (·.1.name)).Nodup)
    (hknown : builder.Known entries) :
    ∃ program, ((defineAll entries).run builder).2.finish = .ok program := by
  induction entries generalizing builder with
  | nil => exact hopen.finish_ok
  | cons entry rest ih =>
    obtain ⟨rule, id⟩ := entry
    obtain ⟨hnew, hrest⟩ := List.nodup_cons.mp hnames
    have hrules := addExpr_rules rule.body builder (hknown (rule, id) List.mem_cons_self)
    have hduplicate := (addExpr_adds rule.body builder).1.duplicate
    rw [defineAll_cons]
    generalize ((addExpr rule.body).run builder).1 = body
    generalize ((addExpr rule.body).run builder).2 = added at hrules hduplicate ⊢
    have hadded : added.Open ((rule, id) :: rest) :=
      ⟨hduplicate.trans hopen.accepted, hrules ▸ hopen.named, hrules ▸ hopen.listed⟩
    obtain ⟨hleft, hsame⟩ := hadded.define body hnew
    refine ih hleft hrest fun entry hentry name hname ↦ ?_
    rw [hsame, tables, hrules]
    exact hknown entry (List.mem_cons_of_mem _ hentry) name hname

end PegKit.Builder

namespace PegKit

open Builder (declareAll ofHeader)

/-- All references in the rules of a grammar name rules of the grammar. -/
def Grammar.Closed (grammar : Grammar) : Prop :=
  ∀ rule ∈ grammar.rules, ∀ name ∈ rule.body.refs, name ∈ grammar.ruleNames

theorem DistinctGrammar.toProgram_ok {grammar : DistinctGrammar} (h : grammar.Closed) :
    ∃ program, grammar.toProgram = .ok program := by
  rw [Grammar.toProgram, Builder.addGrammar_run]
  obtain ⟨hrules, hnamed⟩ := Builder.declareAll_named grammar.rules (ofHeader grammar.toGrammar)
  have hgrows := Builder.declareAll_grows grammar.rules (ofHeader grammar.toGrammar)
  have hdeclared (name : String) :
      name ∈ ((declareAll grammar.rules).run (ofHeader grammar.toGrammar)).2.tables.rules →
        name ∈ (ofHeader grammar.toGrammar).tables.rules ∨ name ∈ grammar.ruleNames :=
    Builder.declareAll_names
  generalize grammar.rules.zip ((declareAll grammar.rules).run (ofHeader grammar.toGrammar)).1 = entries
    at hrules hnamed ⊢
  generalize ((declareAll grammar.rules).run (ofHeader grammar.toGrammar)).2 = declared
    at hnamed hgrows hdeclared ⊢
  have hfresh : ∀ {i : Nat} {rule : DeclaredRule}, declared.rules[i]? = some rule →
      rule.body = none := by
    intro i rule hrule
    obtain ⟨fresh, hfresh⟩ := hgrows.rules
    rw [← Array.getElem?_toList, hfresh] at hrule
    obtain ⟨name, _, rfl⟩ := List.mem_map.mp (List.mem_of_getElem? hrule)
    rfl
  have hlisted : entries.map (·.1.name) = grammar.ruleNames := by
    rw [Grammar.ruleNames, ← hrules, List.map_map]
    rfl
  have hentry {name : String} (hname : name ∈ grammar.ruleNames) : ∃ entry ∈ entries,
      declared.tables.rules[entry.2.index]? = some name := by
    rw [← hlisted] at hname
    obtain ⟨entry, hentry, rfl⟩ := List.mem_map.mp hname
    exact ⟨entry, hentry, hnamed entry hentry⟩
  -- What is left to show: each entry waits for its body, each waiting rule has an entry, and the
  -- bodies use declared names only.
  refine Builder.defineAll_ok ⟨hgrows.duplicate, fun entry hmem ↦ ?_, fun {i name} hopen ↦ ?_⟩
    (hlisted ▸ grammar.distinct) fun entry hmem name hname ↦ ?_
  · have hplace := hnamed entry hmem
    rw [Builder.tables_rules, Option.map_eq_some_iff] at hplace
    obtain ⟨⟨name, body⟩, hrule, hname⟩ := hplace
    obtain rfl := hfresh hrule
    rw [hrule, ← hname]
  · have hplace : declared.tables.rules[i]? = some name := by
      rw [Builder.tables_rules, hopen, Option.map_some]
    have hname : name ∈ grammar.ruleNames := by
      rcases hdeclared name (List.mem_of_getElem? hplace) with hold | hname
      · simp [Builder.tables, ofHeader, Builder.new] at hold
      · exact hname
    obtain ⟨entry, hmem, hindex⟩ := hentry hname
    obtain ⟨hlt, _⟩ := List.getElem?_eq_some_iff.mp hindex
    exact ⟨entry, hmem, (List.getElem?_inj hlt (hgrows.distinct List.nodup_nil)).mp
      (hindex.trans hplace.symm)⟩
  · have hrule : entry.1 ∈ grammar.rules := hrules ▸ List.mem_map_of_mem hmem
    obtain ⟨_, _, hindex⟩ := hentry (h entry.1 hrule name hname)
    exact List.mem_of_getElem? hindex

end PegKit
