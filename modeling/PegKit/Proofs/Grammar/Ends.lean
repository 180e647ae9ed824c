import PegKit.Proofs.Grammar.Cycles

/-!
# Ends of rules

How the evaluation of an expression may end, whatever its terminals, classes and predicates answer:
the finite ways through the rule bodies. A rule that lies on a cycle of first calls has none, while
one that is reported as left-recursive may have some, by an alternative before the one that calls
it, or past a part that reads.
-/

namespace PegKit

/-- The evaluation of `expr` may end: with a match, if `matches`, or without one. -/
inductive Grammar.Ends (grammar : Grammar) : Expr → Bool → Prop
  | terminal (text : String) : Ends grammar (.terminal text) true
  | terminalMiss {text : String} (htext : text ≠ "") : Ends grammar (.terminal text) false
  | charClass (cls : CharClass) (matched : Bool) : Ends grammar (.charClass cls) matched
  | anyChar (matched : Bool) : Ends grammar .anyChar matched
  | predicate (hook : String) (negated matched : Bool) :
      Ends grammar (.predicate hook negated) matched
  | sequence {items : List Expr} (hitems : ∀ item ∈ items, Ends grammar item true) :
      Ends grammar (.sequence items) true
  | sequenceMiss {before after : List Expr} {item : Expr}
      (hbefore : ∀ expr ∈ before, Ends grammar expr true) (hitem : Ends grammar item false) :
      Ends grammar (.sequence (before ++ item :: after)) false
  | choice {before after : List Expr} {alternative : Expr}
      (hbefore : ∀ expr ∈ before, Ends grammar expr false)
      (halternative : Ends grammar alternative true) :
      Ends grammar (.choice (before ++ alternative :: after)) true
  | choiceMiss {alternatives : List Expr}
      (halternatives : ∀ alternative ∈ alternatives, Ends grammar alternative false) :
      Ends grammar (.choice alternatives) false
  | repetition {inner : Expr} (least : Nat) (hinner : Ends grammar inner true) :
      Ends grammar (.repetition inner least) true
  | repetitionNone {inner : Expr} (hinner : Ends grammar inner false) :
      Ends grammar (.repetition inner 0) true
  | repetitionMiss {inner : Expr} {least : Nat} (hleast : 0 < least)
      (hinner : Ends grammar inner false) : Ends grammar (.repetition inner least) false
  /-- A match that reads nothing is the last one, even where more are needed. -/
  | repetitionStay {inner : Expr} {least : Nat} (hleast : 1 < least)
      (hinner : Ends grammar inner true) : Ends grammar (.repetition inner least) false
  | optional {inner : Expr} {matched : Bool} (hinner : Ends grammar inner matched) :
      Ends grammar (.optional inner) true
  | lookahead {inner : Expr} {matched : Bool} (hinner : Ends grammar inner matched) :
      Ends grammar (.lookahead inner) matched
  | negativeLookahead {inner : Expr} {matched : Bool} (hinner : Ends grammar inner matched) :
      Ends grammar (.negativeLookahead inner) (!matched)
  | label (tag : String) {inner : Expr} {matched : Bool} (hinner : Ends grammar inner matched) :
      Ends grammar (.label tag inner) matched
  | ruleRef {name : String} {rule : Rule} {matched : Bool}
      (hrule : grammar.rule? name = some rule) (hbody : Ends grammar rule.body matched) :
      Ends grammar (.ruleRef name) matched

/-! ## First calls -/

/-- Whatever else `expr` does, it calls the rule `name` first. -/
inductive Expr.CallsFirst : Expr → String → Prop
  | ruleRef (name : String) : CallsFirst (.ruleRef name) name
  | sequence {first : Expr} (rest : List Expr) {name : String} (hfirst : CallsFirst first name) :
      CallsFirst (.sequence (first :: rest)) name
  | choice {first : Expr} (rest : List Expr) {name : String} (hfirst : CallsFirst first name) :
      CallsFirst (.choice (first :: rest)) name
  | repetition {inner : Expr} (least : Nat) {name : String} (hinner : CallsFirst inner name) :
      CallsFirst (.repetition inner least) name
  | optional {inner : Expr} {name : String} (hinner : CallsFirst inner name) :
      CallsFirst (.optional inner) name
  | lookahead {inner : Expr} {name : String} (hinner : CallsFirst inner name) :
      CallsFirst (.lookahead inner) name
  | negativeLookahead {inner : Expr} {name : String} (hinner : CallsFirst inner name) :
      CallsFirst (.negativeLookahead inner) name
  | label (tag : String) {inner : Expr} {name : String} (hinner : CallsFirst inner name) :
      CallsFirst (.label tag inner) name

/-- What is called first may be called. -/
theorem Expr.CallsFirst.mayCall {expr : Expr} {name : String} (h : expr.CallsFirst name)
    (nullable : List String) : expr.MayCall nullable name := by
  induction h with
  | ruleRef name => exact .ruleRef name
  | sequence rest _ ih =>
    have hnone : ∀ expr ∈ ([] : List Expr), expr.isNullable nullable = true := by
      intro expr hexpr
      cases hexpr
    exact .sequence hnone ih
  | choice rest _ ih => exact .choice List.mem_cons_self ih
  | repetition least _ ih => exact .repetition ih
  | optional _ ih => exact .optional ih
  | lookahead _ ih => exact .lookahead ih
  | negativeLookahead _ ih => exact .negativeLookahead ih
  | label tag _ ih => exact .label ih

namespace Grammar

/-- The body of the rule `caller` calls the rule `callee` first. -/
def FirstCall (grammar : Grammar) (caller callee : String) : Prop :=
  ∃ rule, grammar.rule? caller = some rule ∧ rule.body.CallsFirst callee

variable {grammar : Grammar}

/-- An expression that ends does not begin an endless chain of first calls. -/
theorem Ends.acc {expr : Expr} {matched : Bool} (h : grammar.Ends expr matched) {name : String}
    (hfirst : expr.CallsFirst name) : Acc (Function.swap grammar.FirstCall) name := by
  induction h generalizing name with
  | terminal => cases hfirst
  | terminalMiss => cases hfirst
  | charClass => cases hfirst
  | anyChar => cases hfirst
  | predicate => cases hfirst
  | sequence _ ih =>
    cases hfirst with
    | sequence rest hitem => exact ih _ List.mem_cons_self hitem
  | @sequenceMiss before after item _ _ ihbefore ihitem =>
    cases before with
    | nil =>
      cases hfirst with
      | sequence rest hitem => exact ihitem hitem
    | cons first before =>
      cases hfirst with
      | sequence rest hitem => exact ihbefore first List.mem_cons_self hitem
  | @choice before after alternative _ _ ihbefore ihalternative =>
    cases before with
    | nil =>
      cases hfirst with
      | choice rest hitem => exact ihalternative hitem
    | cons first before =>
      cases hfirst with
      | choice rest hitem => exact ihbefore first List.mem_cons_self hitem
  | choiceMiss _ ih =>
    cases hfirst with
    | choice rest hitem => exact ih _ List.mem_cons_self hitem
  | repetition _ _ ih =>
    cases hfirst with
    | repetition _ hinner => exact ih hinner
  | repetitionNone _ ih =>
    cases hfirst with
    | repetition _ hinner => exact ih hinner
  | repetitionMiss _ _ ih =>
    cases hfirst with
    | repetition _ hinner => exact ih hinner
  | repetitionStay _ _ ih =>
    cases hfirst with
    | repetition _ hinner => exact ih hinner
  | optional _ ih =>
    cases hfirst with
    | optional hinner => exact ih hinner
  | lookahead _ ih =>
    cases hfirst with
    | lookahead hinner => exact ih hinner
  | negativeLookahead _ ih =>
    cases hfirst with
    | negativeLookahead hinner => exact ih hinner
  | label _ _ ih =>
    cases hfirst with
    | label _ hinner => exact ih hinner
  | @ruleRef called rule _ hrule _ ih =>
    cases hfirst with
    | ruleRef =>
      constructor
      intro callee hcall
      obtain ⟨rule', hrule', hbody⟩ := hcall
      have hsame : rule' = rule := Option.some.inj (hrule'.symm.trans hrule)
      rw [hsame] at hbody
      exact ih hbody

theorem not_cycle_of_acc {name : String} (h : Acc (Function.swap grammar.FirstCall) name) :
    ¬Relation.TransGen grammar.FirstCall name name := by
  rw [← Relation.transGen_swap]
  have hacc := h.transGen
  clear h
  induction hacc with
  | intro name _ ih =>
    intro hcycle
    exact ih name hcycle hcycle

/-- A rule on a cycle of first calls has no end, neither with a match nor without. -/
theorem not_ends_of_cycle {name : String} (h : Relation.TransGen grammar.FirstCall name name)
    (matched : Bool) : ¬grammar.Ends (.ruleRef name) matched := by
  intro hends
  exact not_cycle_of_acc (hends.acc (.ruleRef name)) h

/-- It is one of those reported. -/
theorem mem_leftRecursiveRules_of_cycle {name : String}
    (h : Relation.TransGen grammar.FirstCall name name) : name ∈ grammar.leftRecursiveRules := by
  apply mem_leftRecursiveRules_iff.mpr
  apply Relation.TransGen.mono _ name name h
  intro caller callee hcall
  obtain ⟨rule, hrule, hbody⟩ := hcall
  exact ⟨rule, hrule, hbody.mayCall grammar.nullableRules⟩

end Grammar

end PegKit
