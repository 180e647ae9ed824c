import PegKit.Proofs.Cst.Totality
import PegKit.Proofs.Cst.Twins

/-!
# Trivia does not matter, almost

Two texts whose tokens say the same are read alike, whatever blanks, newlines and comments stand
between the tokens, as long as trivia parts the same pairs of tokens that are consumed together. A
label's name and its colon, and a predicate's mark and its block, are such pairs: with trivia
between them the colon or the block is not consumed, and an error is reported.
-/

namespace PegKit

theorem Diagnostics.hasErrors_eq (diagnostics : Diagnostics) : diagnostics.hasErrors =
    (diagnostics.map Diagnostic.wording).any (·.1.severity == .error) := by
  rw [List.any_map]
  rfl

namespace Cst

open Token (word parted)

theorem Outlined.outline {tree tree' : Cst} (h : Outlined [tree] [tree']) :
    tree.outline = tree'.outline := by
  have hlines := h 0
  simp only [outlineLinesOfList, List.append_nil] at hlines
  rw [Cst.outline, hlines, Cst.outline]

/-- Before reading, alike tokens are related. -/
theorem Parse.start_twin {place : Nat → Nat → Prop} {tokens tokens' : List Token}
    {length length' : Nat} (htokens : Token.Alike place tokens tokens')
    (hlength : place length length') (fuel fuel' : Option Nat) :
    Parse.Twin place (Token.Alike place) [] [] (Parse.start tokens length fuel)
      (Parse.start tokens' length' fuel') where
  ahead := htokens
  pending := rfl
  pending' := rfl
  built := ⟨[], [], rfl, rfl, fun _ ↦ rfl⟩
  reports := rfl
  lastErrors := .none
  lengths := hlength

/-- Texts that say the same and part the same pairs of tokens have trees of the same outline and
reports in the same words. -/
theorem parse_ignores_trivia {source source' : String}
    (hwords : (Token.significant (Token.lex source.toList)).map word =
      (Token.significant (Token.lex source'.toList)).map word)
    (hparted : parted (Token.lex source.toList) = parted (Token.lex source'.toList)) :
    ∃ parsed parsed', parse source .unlimited = .ok parsed ∧
      parse source' .unlimited = .ok parsed' ∧
      parsed.root.outline = parsed'.root.outline ∧
      parsed.diagnostics.map Diagnostic.wording = parsed'.diagnostics.map Diagnostic.wording ∧
      parsed.diagnostics.hasErrors = parsed'.diagnostics.hasErrors := by
  obtain ⟨parsed, hparsed⟩ := parse_unlimited source
  obtain ⟨parsed', hparsed'⟩ := parse_unlimited source'
  obtain ⟨s, hrun, ⟨_, _, hroot⟩, hreports⟩ := parse_run hparsed
  obtain ⟨s', hrun', ⟨_, _, hroot'⟩, hreports'⟩ := parse_run hparsed'
  obtain ⟨halike, hends⟩ := Token.lex_alike hwords hparted
  have htwin := (Parse.root_agrees Token.Corresponding.eq_iff _ _).holds
    (Parse.start_twin halike hends none none) hrun hrun'
  have hwording : parsed.diagnostics.map Diagnostic.wording =
      parsed'.diagnostics.map Diagnostic.wording := by
    rw [hreports, hreports', htwin.reports]
  refine ⟨parsed, parsed', hparsed, hparsed', ?_, hwording, ?_⟩
  · obtain ⟨added, added', hadded, hadded', houtlined⟩ := htwin.built
    rw [hroot] at hadded
    rw [hroot'] at hadded'
    obtain rfl : [parsed.root] = added := hadded
    obtain rfl : [parsed'.root] = added' := hadded'
    exact houtlined.outline
  · rw [Diagnostics.hasErrors_eq, hwording, ← Diagnostics.hasErrors_eq]

/-- A grammar of one rule, with a predicate and a label. -/
def tightSource : String := r"grammar g rule a !{x} n:'b'* end end"

/-- The same grammar, with a comment and more blanks. -/
def looseSource : String := r"grammar g rule a !{x} n: # c" ++ "\n 'b' * end end"

theorem parse_ignores_trivia_labelled :
    (Token.significant (Token.lex tightSource.toList)).map word =
        (Token.significant (Token.lex looseSource.toList)).map word ∧
      parted (Token.lex tightSource.toList) = parted (Token.lex looseSource.toList) ∧
      ∃ parsed parsed', parse tightSource .unlimited = .ok parsed ∧
        parse looseSource .unlimited = .ok parsed' ∧
        parsed.root.outline = parsed'.root.outline ∧
        parsed.diagnostics.map Diagnostic.wording = parsed'.diagnostics.map Diagnostic.wording ∧
        parsed.diagnostics.hasErrors = parsed'.diagnostics.hasErrors := by
  have hwords : (Token.significant (Token.lex tightSource.toList)).map word =
      (Token.significant (Token.lex looseSource.toList)).map word := by decide +kernel
  have hparted : parted (Token.lex tightSource.toList) = parted (Token.lex looseSource.toList) := by
    decide +kernel
  exact ⟨hwords, hparted, parse_ignores_trivia hwords hparted⟩

/-- Blanks around a label's colon make an error. -/
theorem parse_minds_parted_labels :
    (Token.significant (Token.lex "grammar G rule r a:. end end".toList)).map word =
        (Token.significant (Token.lex "grammar G rule r a : . end end".toList)).map word ∧
      (parse "grammar G rule r a:. end end" .unlimited).toOption.map
        (·.diagnostics.hasErrors) = some false ∧
      (parse "grammar G rule r a : . end end" .unlimited).toOption.map
        (·.diagnostics.hasErrors) = some true := by
  decide +kernel

end Cst

end PegKit
