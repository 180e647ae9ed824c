import Mathlib
import PegKit.Text.Casing

/-!
# Capitals and small letters

Which characters a change of case leaves as they are: a capital has a small letter and the other way
round, and separators have neither. What is known of the case of ASCII letters is part of Mathlib as
a whole and of none of its modules, so it is imported here, for the modules on names.
-/

namespace PegKit.Text.Casing

theorem isLower_toLower {c : Char} (h : c.isUpper = true) : c.toLower.isLower = true := by
  rw [Char.isLower_toLower_eq_isAlpha, Char.isAlpha, h, Bool.true_or]

theorem isSeparator_of_isAlpha {c : Char} (h : c.isAlpha = true) : isSeparator c = false := by
  rw [← Bool.not_eq_true]
  intro hseparator
  simp only [isSeparator, Bool.or_eq_true, beq_iff_eq] at hseparator
  rcases hseparator with (rfl | rfl) | rfl <;> cases h

@[simp]
theorem isSeparator_toUpper (c : Char) : isSeparator c.toUpper = isSeparator c := by
  by_cases halpha : c.isAlpha = true
  · have hupper : c.toUpper.isAlpha = true := by rw [Char.isAlpha_toUpper_eq_isAlpha, halpha]
    rw [isSeparator_of_isAlpha halpha, isSeparator_of_isAlpha hupper]
  · have hlower : ¬c.isLower = true := by
      intro hlower
      exact halpha (by rw [Char.isAlpha, hlower, Bool.or_true])
    rw [Char.toUpper_eq_of_not_isLower hlower]

@[simp]
theorem isSeparator_toLower (c : Char) : isSeparator c.toLower = isSeparator c := by
  rw [← isSeparator_toUpper c.toLower, Char.toUpper_toLower_eq_toUpper, isSeparator_toUpper]

theorem toUpper_eq_self_iff {c : Char} : c.toUpper = c ↔ c.isLower = false := by
  constructor
  · intro h
    rw [← h, Char.isLower_toUpper_eq_false]
  · intro h
    exact Char.toUpper_eq_of_not_isLower (by rw [h]; exact Bool.false_ne_true)

theorem toLower_eq_self_iff {c : Char} : c.toLower = c ↔ c.isUpper = false := by
  constructor
  · intro h
    rw [← h, Char.isUpper_toLower_eq_false]
  · intro h
    exact Char.toLower_eq_of_not_isUpper (by rw [h]; exact Bool.false_ne_true)

end PegKit.Text.Casing
