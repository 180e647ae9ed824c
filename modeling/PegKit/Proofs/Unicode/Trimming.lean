import Mathlib.Data.List.DropRight
import Mathlib.Data.List.TakeWhile
import PegKit.Unicode.Blank

/-!
# Trimmed text

Trimming takes blank characters away at both ends until there are none: nothing else is lost, and
blanks that are put around a trimmed text are taken away again.
-/

namespace PegKit.Unicode

theorem trimBlanks_eq (cs : List Char) :
    trimBlanks cs = (cs.dropWhile isBlank).rdropWhile isBlank := rfl

/-- Trimming takes blanks away and nothing else. -/
theorem trimBlanks_split (cs : List Char) : ∃ before after, cs = before ++ trimBlanks cs ++ after ∧
    (∀ c ∈ before, isBlank c = true) ∧ ∀ c ∈ after, isBlank c = true := by
  refine ⟨cs.takeWhile isBlank, (cs.dropWhile isBlank).rtakeWhile isBlank, ?_,
    fun c hc ↦ List.mem_takeWhile_imp hc, fun c hc ↦ List.mem_rtakeWhile_imp hc⟩
  rw [trimBlanks_eq, List.append_assoc, List.rdropWhile_append_rtakeWhile,
    List.takeWhile_append_dropWhile]

/-- A trimmed text is trimmed no further. -/
theorem trimBlanks_idempotent (cs : List Char) : trimBlanks (trimBlanks cs) = trimBlanks cs := by
  have hfront : (trimBlanks cs).dropWhile isBlank = trimBlanks cs := by
    rw [List.dropWhile_eq_self_iff]
    intro hpos
    have hprefix : trimBlanks cs <+: cs.dropWhile isBlank := List.rdropWhile_prefix isBlank _
    have hhead := List.head?_dropWhile_not isBlank cs
    rw [List.head?_eq_getElem?, List.getElem?_eq_getElem (hpos.trans_le hprefix.length_le),
      ← hprefix.getElem hpos] at hhead
    simpa using hhead
  rw [trimBlanks_eq (trimBlanks cs), hfront, trimBlanks_eq cs]
  exact List.rdropWhile_idempotent isBlank _

/-- Blanks around a text are taken away. -/
theorem trimBlanks_padded {before after : Char} (hbefore : isBlank before = true)
    (hafter : isBlank after = true) (cs : List Char) :
    trimBlanks (before :: cs ++ [after]) = trimBlanks cs := by
  rw [trimBlanks_eq, trimBlanks_eq, List.cons_append, List.dropWhile_cons_of_pos hbefore,
    List.dropWhile_append]
  split
  · next hnone =>
    rw [List.isEmpty_iff.mp hnone, List.dropWhile_cons_of_pos hafter, List.dropWhile_nil]
  · exact List.rdropWhile_concat_pos isBlank _ after hafter

end PegKit.Unicode
