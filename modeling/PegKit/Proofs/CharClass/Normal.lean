import PegKit.CharClass
import Mathlib.Data.List.Chain

/-!
# Normal forms of range lists

Normalizing ranges a second time changes nothing, reversed ranges included. The normal form is
sorted, and no range begins inside the one before it, so neither the sorting nor the merging finds
anything to do. A class is therefore rebuilt by the ranges that it stores.
-/

namespace PegKit

namespace CharRange

theorem precedes_iff {left right : CharRange} :
    precedes left right = true ↔ left.first.toNat < right.first.toNat ∨
      left.first = right.first ∧ left.last.toNat ≤ right.last.toNat := by
  simp [precedes]

theorem first_le_of_precedes {left right : CharRange} (h : precedes left right = true) :
    left.first.toNat ≤ right.first.toNat := by
  rcases precedes_iff.mp h with hless | ⟨hsame, _⟩
  · exact Nat.le_of_lt hless
  · rw [hsame]

theorem precedes_trans {first second third : CharRange} (h : precedes first second = true)
    (h' : precedes second third = true) : precedes first third = true := by
  rw [precedes_iff] at h h' ⊢
  rcases h with h | ⟨hfirst, hlast⟩
  · rcases h' with h' | ⟨hfirst', _⟩
    · exact .inl (Nat.lt_trans h h')
    · exact .inl (hfirst' ▸ h)
  · rcases h' with h' | ⟨hfirst', hlast'⟩
    · exact .inl (hfirst ▸ h')
    · exact .inr ⟨hfirst.trans hfirst', Nat.le_trans hlast hlast'⟩

theorem precedes_total (left right : CharRange) :
    (precedes left right || precedes right left) = true := by
  rw [Bool.or_eq_true, precedes_iff, precedes_iff, ← Char.toNat_inj, ← Char.toNat_inj]
  omega

theorem precedes_antisymm {left right : CharRange} (h : precedes left right = true)
    (h' : precedes right left = true) : left = right := by
  rw [precedes_iff] at h h'
  obtain ⟨first, last⟩ := left
  obtain ⟨first', last'⟩ := right
  simp only [CharRange.mk.injEq, ← Char.toNat_inj] at h h' ⊢
  omega

theorem toNat_later (a b : Char) : (later a b).toNat = max a.toNat b.toNat := by
  unfold later
  split <;> omega

/-! ## Merging -/

/-- No range begins inside the one before it. -/
def Apart (ranges : List CharRange) : Prop :=
  ranges.IsChain fun left right ↦ left.last.toNat < right.first.toNat

structure Normal (ranges : List CharRange) : Prop where
  sorted : ranges.Pairwise fun left right ↦ precedes left right = true
  apart : Apart ranges

/-- The first range keeps its beginning. -/
theorem absorb_eq_cons (range : CharRange) (rest : List CharRange) :
    ∃ merged others, absorb range rest = merged :: others ∧ merged.first = range.first := by
  induction rest generalizing range with
  | nil => exact ⟨range, [], rfl, rfl⟩
  | cons next rest ih =>
    rw [absorb]
    split
    · exact ih ⟨range.first, later range.last next.last⟩
    · exact ⟨range, _, rfl, rfl⟩

theorem absorb_apart (range : CharRange) (rest : List CharRange) : Apart (absorb range rest) := by
  induction rest generalizing range with
  | nil => exact .singleton range
  | cons next rest ih =>
    rw [absorb]
    split
    · exact ih _
    · rename_i hafter
      have hrest := ih next
      obtain ⟨merged, others, hcons, hfirst⟩ := absorb_eq_cons next rest
      rw [hcons] at hrest ⊢
      refine .cons_cons ?_ hrest
      rw [hfirst]
      omega

/-- A merged range begins where some given range begins, and ends no earlier than that one. -/
theorem exists_of_mem_absorb {range merged : CharRange} {rest : List CharRange}
    (h : merged ∈ absorb range rest) :
    ∃ given ∈ range :: rest, given.first = merged.first ∧
      given.last.toNat ≤ merged.last.toNat := by
  induction rest generalizing range with
  | nil =>
    rw [absorb, List.mem_singleton] at h
    exact ⟨range, List.mem_singleton_self range, by rw [h], by rw [h]⟩
  | cons next rest ih =>
    rw [absorb] at h
    split at h
    · obtain ⟨given, hgiven, hfirst, hlast⟩ := ih h
      rcases List.mem_cons.mp hgiven with rfl | hgiven
      · refine ⟨range, List.mem_cons_self, hfirst, ?_⟩
        rw [toNat_later] at hlast
        omega
      · exact ⟨given, List.mem_cons_of_mem _ (List.mem_cons_of_mem _ hgiven), hfirst, hlast⟩
    · rcases List.mem_cons.mp h with rfl | h
      · exact ⟨merged, List.mem_cons_self, rfl, Nat.le_refl _⟩
      · obtain ⟨given, hgiven, hends⟩ := ih h
        exact ⟨given, List.mem_cons_of_mem _ hgiven, hends⟩

/-- The first two ranges of a sorted list, made into one, still come first. -/
theorem merge_sorted {range next : CharRange} {rest : List CharRange}
    (h : (range :: next :: rest).Pairwise fun left right ↦ precedes left right = true) :
    (⟨range.first, later range.last next.last⟩ :: rest).Pairwise
      fun left right ↦ precedes left right = true := by
  obtain ⟨hrange, hrest⟩ := List.pairwise_cons.mp h
  obtain ⟨hnext, hothers⟩ := List.pairwise_cons.mp hrest
  refine List.pairwise_cons.mpr ⟨fun other hother ↦ ?_, hothers⟩
  have hfirst := precedes_iff.mp (hrange next List.mem_cons_self)
  have hall := precedes_iff.mp (hrange other (List.mem_cons_of_mem _ hother))
  have hafter := precedes_iff.mp (hnext other hother)
  rw [precedes_iff, toNat_later]
  simp only [← Char.toNat_inj] at hfirst hall hafter ⊢
  omega

theorem absorb_sorted {range : CharRange} {rest : List CharRange}
    (h : (range :: rest).Pairwise fun left right ↦ precedes left right = true) :
    (absorb range rest).Pairwise fun left right ↦ precedes left right = true := by
  induction rest generalizing range with
  | nil => exact h
  | cons next rest ih =>
    obtain ⟨hrange, hrest⟩ := List.pairwise_cons.mp h
    rw [absorb]
    split
    · exact ih (merge_sorted h)
    · refine List.pairwise_cons.mpr ⟨fun merged hmerged ↦ ?_, ih hrest⟩
      obtain ⟨given, hgiven, hfirst, hlast⟩ := exists_of_mem_absorb hmerged
      have hbefore := precedes_iff.mp (hrange given hgiven)
      rw [precedes_iff, ← hfirst]
      exact hbefore.imp_right fun hsame ↦ ⟨hsame.1, Nat.le_trans hsame.2 hlast⟩

theorem mergeSort_sorted (ranges : List CharRange) :
    (ranges.mergeSort precedes).Pairwise fun left right ↦ precedes left right = true :=
  List.pairwise_mergeSort (fun first second third ↦ @precedes_trans first second third)
    precedes_total ranges

theorem normalize_normal (ranges : List CharRange) : Normal (normalize ranges) := by
  have hsorted := mergeSort_sorted ranges
  unfold normalize
  cases hsort : ranges.mergeSort precedes with
  | nil => exact ⟨.nil, .nil⟩
  | cons range rest =>
    rw [hsort] at hsorted
    exact ⟨absorb_sorted hsorted, absorb_apart range rest⟩

/-- A stored range begins where some given range begins, and ends no earlier than that one. -/
theorem exists_of_mem_normalize {ranges : List CharRange} {merged : CharRange}
    (h : merged ∈ normalize ranges) :
    ∃ given ∈ ranges, given.first = merged.first ∧ given.last.toNat ≤ merged.last.toNat := by
  unfold normalize at h
  cases hsort : ranges.mergeSort precedes with
  | nil =>
    rw [hsort] at h
    cases h
  | cons range rest =>
    rw [hsort] at h
    obtain ⟨given, hgiven, hends⟩ := exists_of_mem_absorb h
    rw [← hsort, List.mem_mergeSort] at hgiven
    exact ⟨given, hgiven, hends⟩

/-- Nothing is merged in ranges that are apart. -/
theorem absorb_of_apart {range : CharRange} {rest : List CharRange} (h : Apart (range :: rest)) :
    absorb range rest = range :: rest := by
  induction rest generalizing range with
  | nil => rfl
  | cons next rest ih =>
    obtain ⟨hfirst, hrest⟩ := List.isChain_cons_cons.mp h
    rw [absorb, if_neg (by omega), ih hrest]

theorem normalize_of_normal {ranges : List CharRange} (h : Normal ranges) :
    normalize ranges = ranges := by
  unfold normalize
  rw [List.mergeSort_of_pairwise h.sorted]
  cases ranges with
  | nil => rfl
  | cons range rest => exact absorb_of_apart h.apart

theorem normalize_normalize (ranges : List CharRange) :
    normalize (normalize ranges) = normalize ranges :=
  normalize_of_normal (normalize_normal ranges)

end CharRange

/-- A class is the class of the ranges that it stores. -/
theorem CharClass.ofRangesAs_ranges (cls : CharClass) :
    ofRangesAs cls.text cls.ranges.toList cls.negated = cls := by
  obtain ⟨text, ranges, negated, given, hgiven⟩ := cls
  have hsame : (CharRange.normalize ranges.toList).toArray = ranges := by
    rw [hgiven, CharRange.normalize_normalize, ← hgiven]
  simp only [ofRangesAs, hsame]

end PegKit
