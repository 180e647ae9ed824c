import PegKit.Proofs.Compilation.Legible
import PegKit.Proofs.Compilation.Restored
import PegKit.Proofs.Cst.Rereading

/-!
# Displayed grammars compile

The rule bodies of an accepted grammar, in grammar form, are accepted again and stand for the same
expressions, with three exceptions. A predicate loses its parentheses under a mark, and what is left
is no operand. A label loses them beside another label of its name. Marks upon marks are read in a
loop, but displayed with a pair of parentheses for each, which may be too many for the limits.
-/

namespace PegKit

open PegKit.Expr (Everywhere Legible Restorable)

namespace Grammar

/-- The grammar with any character for the rules that are not shown. -/
def showing (grammar : Grammar) (shown : Rule → Bool) : Grammar :=
  { grammar with
    rules := grammar.rules.map fun rule ↦
      if shown rule then rule else { rule with body := .anyChar } }

/-- The text of the grammar is within the limits: so many tokens are consumed, on so many levels. -/
structure Fits (grammar : Grammar) (limits : Cst.Limits) : Prop where
  tokens : ∀ fuel ∈ limits.execFuel,
    (Token.significant (Token.lex grammar.text.toList)).length ≤ fuel
  levels : ∀ fuel ∈ limits.recursionFuel, ∀ rule ∈ grammar.rules, rule.body.depth ≤ fuel

variable {grammar : Grammar} {shown : Rule → Bool}

theorem showing_forall {P : Rule → Prop} (hshown : ∀ rule ∈ grammar.rules, shown rule = true → P rule)
    (hother : ∀ rule ∈ grammar.rules, P { rule with body := .anyChar }) :
    ∀ rule ∈ (grammar.showing shown).rules, P rule := by
  intro rule hrule
  obtain ⟨rule, hmem, rfl⟩ := List.mem_map.mp hrule
  split
  · next hrule => exact hshown rule hmem hrule
  · exact hother rule hmem

theorem showing_ruleNames (grammar : Grammar) (shown : Rule → Bool) :
    (grammar.showing shown).ruleNames = grammar.ruleNames := by
  rw [ruleNames, ruleNames, showing, List.map_map]
  apply List.map_congr_left
  intro rule _
  dsimp only [Function.comp_apply]
  split <;> rfl

/-- Whatever bodies are shown, the grammar can be written. -/
theorem Writable.showing (h : grammar.Writable) (shown : Rule → Bool) :
    (grammar.showing shown).Writable where
  segments := h.segments
  distinct := by
    rw [showing_ruleNames]
    exact h.distinct
  names := showing_forall (fun rule hrule _ ↦ h.names rule hrule) h.names
  bodies := by
    rw [showing_ruleNames]
    exact showing_forall (fun rule hrule _ ↦ h.bodies rule hrule) fun _ _ ↦
      Meaning.everywhere_intro trivial (by rintro _ ⟨⟩)

end Grammar

namespace Compilation

/-- A grammar that can be written, and is read as it is written, compiles to itself. -/
theorem compileWithin_text {limits : Cst.Limits} {grammar : Grammar} (hwritable : grammar.Writable)
    (hrestorable : ∀ rule ∈ grammar.rules, rule.body.Everywhere Restorable)
    (hfits : grammar.Fits limits) : ∃ again, compileWithin limits grammar.text = .ok again ∧
      again.name = grammar.name ∧ again.rules = grammar.rules := by
  obtain ⟨first, others, hname, hsegments⟩ := hwritable.segments
  have hspelled := Grammar.text_spelled hname hsegments hwritable.names hwritable.bodies
  have hwords : (Token.significant (Token.lex grammar.text.toList)).length =
      (Grammar.words first others grammar.rules).length := by
    rw [← hspelled.words 0, List.length_map]
    rfl
  have hlevels : ∀ rule ∈ grammar.rules, rule.body.depth ≤
      limits.recursionFuel.getD ((Token.lex grammar.text.toList).length + 1) := by
    intro rule hrule
    cases hfuel : limits.recursionFuel with
    | some fuel => exact hfits.levels fuel hfuel rule hrule
    | none =>
      calc rule.body.depth
        _ ≤ (Grammar.words first others grammar.rules).length :=
          Grammar.depth_le_length hrule (hwritable.bodies rule hrule)
        _ = (Token.significant (Token.lex grammar.text.toList)).length := hwords.symm
        _ ≤ (Token.lex grammar.text.toList).length := List.length_filter_le _ _
        _ ≤ (Token.lex grammar.text.toList).length + 1 := Nat.le_succ _
  have hrules : Cst.Parse.Rewritable Expr.words grammar.ruleNames _ grammar.rules :=
    ⟨fun rule hrule ↦ Cst.Parse.body_recovers (hwritable.bodies rule hrule)
      (hrestorable rule hrule) (hlevels rule hrule),
    fun rule hrule ↦ Cst.Parse.display_begins (hwritable.bodies rule hrule)⟩
  obtain ⟨again, hagain, hsame, hbodies⟩ := compileWithin_spelled hspelled
    (fun fuel hfuel ↦ hwords ▸ hfits.tokens fuel hfuel) hrules hwritable.distinct
  exact ⟨again, hagain, hsame.trans hname.symm, hbodies⟩

/-- The bodies of an accepted grammar are accepted again where they are displayed, all of them or
some, and stand for the same expressions. No mark may stand right after a predicate, no label twice
in a sequence, and the text must be within the limits. -/
theorem displayed_bodies_compile {source : String} {grammar : Grammar} (shown : Rule → Bool)
    (h : compile source = .ok grammar)
    (hrestorable : ∀ rule ∈ grammar.rules, shown rule = true → rule.body.Everywhere Restorable)
    (hfits : (grammar.showing shown).Fits {}) : ∃ again,
      compile (grammar.showing shown).text = .ok again ∧ again.name = grammar.name ∧
        again.rules = (grammar.showing shown).rules := by
  apply compileWithin_text ((compileWithin_writable h).showing shown) _ hfits
  exact Grammar.showing_forall hrestorable fun _ _ ↦
    Meaning.everywhere_intro trivial (by rintro _ ⟨⟩)

theorem displayed_bodies_compile_nested : ∃ grammar again,
    compile r"grammar g rule a (b / 'c')+ !{x} n:[a-z]* end rule b &(. !.)? end end" =
      .ok grammar ∧
    (∀ rule ∈ grammar.rules, rule.body.Everywhere Restorable) ∧
    (grammar.showing fun _ ↦ true).Fits {} ∧
    compile (grammar.showing fun _ ↦ true).text = .ok again ∧ again.name = grammar.name ∧
      again.rules = (grammar.showing fun _ ↦ true).rules := by
  have haccepted : (compile
      r"grammar g rule a (b / 'c')+ !{x} n:[a-z]* end rule b &(. !.)? end end").toOption.any
        (fun grammar ↦ decide ((∀ rule ∈ grammar.rules, rule.body.Everywhere Restorable) ∧
          (Token.significant (Token.lex (grammar.showing fun _ ↦ true).text.toList)).length ≤
            1000000 ∧
          ∀ rule ∈ (grammar.showing fun _ ↦ true).rules, rule.body.depth ≤ 4096)) = true := by
    decide +kernel
  cases hcompile : compile
      r"grammar g rule a (b / 'c')+ !{x} n:[a-z]* end rule b &(. !.)? end end" with
  | error cause =>
    rw [hcompile] at haccepted
    cases haccepted
  | ok grammar =>
    rw [hcompile] at haccepted
    obtain ⟨hrestorable, htokens, hlevels⟩ := of_decide_eq_true haccepted
    have hfits : (grammar.showing fun _ ↦ true).Fits {} := by
      constructor
      · rintro _ ⟨⟩
        exact htokens
      · rintro _ ⟨⟩
        exact hlevels
    obtain ⟨again, hagain⟩ := displayed_bodies_compile (fun _ ↦ true) hcompile
      (fun rule hrule _ ↦ hrestorable rule hrule) hfits
    exact ⟨grammar, again, rfl, hrestorable, hfits, hagain⟩

/-- Displayed bodies that are not accepted: a mark after a predicate, a label beside another of its
name, and more levels than marks upon marks took. -/
theorem displayed_bodies_not_read :
    ((compile r"grammar G rule r (&{ x })* end end").toOption.map Grammar.text =
        some r"grammar G rule r &{ x }* end end" ∧
      (compile r"grammar G rule r &{ x }* end end").toOption.isNone = true) ∧
    ((compile "grammar G rule r (a:.) a:. end end").toOption.map Grammar.text =
        some "grammar G rule r a:. a:. end end" ∧
      (compile "grammar G rule r a:. a:. end end").toOption.isNone = true) ∧
    (compileWithin ⟨none, some 3⟩ "grammar G rule r .**** end end").toOption.map Grammar.text =
        some "grammar G rule r (((.*)*)*)* end end" ∧
      (compileWithin ⟨none, some 3⟩ "grammar G rule r (((.*)*)*)* end end").toOption.isNone =
        true := by
  decide +kernel

end Compilation

end PegKit
