import PegKit.Proofs.CharClass.Membership

/-!
# Reversed ranges

A range whose first character comes after its last one holds no character, and merging leaves the
other ranges as they are. Where it begins inside an earlier range it is taken in without a trace;
elsewhere it is stored among the others. Halving then meets it as a range that lies before every
character after its last one, though it begins after some of them: in front of these characters the
search turns right and may miss the range that holds them. All other characters are found as if the
reversed range were not there.
-/

namespace PegKit

namespace CharRange

variable {range reversed : CharRange}

/-- The ranges are `others`, perhaps with `range` at some place. -/
inductive Joins (range : CharRange) (others : List CharRange) : List CharRange → Prop
  | absent : Joins range others others
  | present (left right : List CharRange) (split : others = left ++ right) :
      Joins range others (left ++ range :: right)

theorem Joins.cons {others ranges : List CharRange} (h : Joins reversed others ranges)
    (first : CharRange) : Joins reversed (first :: others) (first :: ranges) := by
  cases h with
  | absent => exact .absent
  | present left right hsplit =>
    exact .present (first :: left) right (by rw [hsplit, List.cons_append])

theorem Joins.subset {others ranges : List CharRange} (h : Joins range others ranges) :
    others ⊆ ranges := by
  cases h with
  | absent => exact List.Subset.refl others
  | present left right hsplit =>
    rw [hsplit]
    exact (List.Sublist.append_left (List.sublist_cons_self range right) left).subset

theorem contains_of_not_proper (h : ¬ range.Proper) (c : Char) : range.contains c = false := by
  have hreversed : ¬ range.first.toNat ≤ range.last.toNat := h
  rw [Bool.eq_false_iff, ne_eq, contains_iff]
  omega

/-! ## Merging -/

/-- Nothing after a reversed range begins inside it. -/
theorem absorb_of_not_proper (hreversed : ¬ reversed.Proper) {next : CharRange}
    {rest : List CharRange} (hafter : precedes reversed next = true) :
    absorb reversed (next :: rest) = reversed :: absorb next rest := by
  have hwide : ¬ reversed.first.toNat ≤ reversed.last.toNat := hreversed
  have hfirst := first_le_of_precedes hafter
  rw [absorb, if_neg (by omega)]

theorem absorb_joins (hreversed : ¬ reversed.Proper) {left right : List CharRange}
    (h : (range :: (left ++ reversed :: right)).Pairwise
      fun left right ↦ precedes left right = true) :
    Joins reversed (absorb range (left ++ right)) (absorb range (left ++ reversed :: right)) := by
  have hwide : ¬ reversed.first.toNat ≤ reversed.last.toNat := hreversed
  induction left generalizing range with
  | nil =>
    rw [List.nil_append] at h ⊢
    obtain ⟨hrange, hrest⟩ := List.pairwise_cons.mp h
    rw [List.nil_append, absorb]
    split
    · have hsame : later range.last reversed.last = range.last := by
        rw [← Char.toNat_inj, toNat_later]
        omega
      rw [hsame]
      exact .absent
    · next houtside =>
      cases right with
      | nil => exact .present [range] [] rfl
      | cons next rest =>
        have hnext := (List.pairwise_cons.mp hrest).1 next List.mem_cons_self
        have hfirst := first_le_of_precedes hnext
        have hapart : absorb range (next :: rest) = [range] ++ absorb next rest := by
          rw [absorb, if_neg (by omega), List.singleton_append]
        rw [absorb_of_not_proper hreversed hnext]
        exact .present [range] _ hapart
  | cons next left ih =>
    rw [List.cons_append, List.cons_append, absorb, absorb]
    split
    · exact ih (merge_sorted h)
    · exact (ih (List.pairwise_cons.mp h).2).cons range

/-- Of a reversed range nothing is stored but, perhaps, itself. -/
theorem normalize_joins (hreversed : ¬ reversed.Proper) (before after : List CharRange) :
    Joins reversed (normalize (before ++ after)) (normalize (before ++ reversed :: after)) := by
  have hpermuted := List.mergeSort_perm (before ++ reversed :: after) precedes
  obtain ⟨left, right, hsort⟩ : ∃ left right,
      (before ++ reversed :: after).mergeSort precedes = left ++ reversed :: right :=
    List.append_of_mem (hpermuted.mem_iff.mpr (by simp))
  have hsorted := hsort ▸ mergeSort_sorted (before ++ reversed :: after)
  have hothers : (left ++ right).Pairwise fun left right ↦ precedes left right = true :=
    hsorted.sublist (List.Sublist.append_left (List.sublist_cons_self reversed right) left)
  have hperm : (left ++ right).Perm (before ++ after) := by
    rw [hsort] at hpermuted
    exact (List.perm_middle.symm.trans (hpermuted.trans List.perm_middle)).cons_inv
  rw [← normalize_perm hperm, normalize, normalize, hsort, List.mergeSort_of_pairwise hothers]
  cases left with
  | cons first left => exact absorb_joins hreversed hsorted
  | nil =>
    cases right with
    | nil => exact .present [] [] rfl
    | cons next rest =>
      have hnext := (List.pairwise_cons.mp hsorted).1 next List.mem_cons_self
      rw [List.nil_append, List.nil_append]
      dsimp only
      rw [absorb_of_not_proper hreversed hnext]
      exact .present [] _ rfl

end CharRange

namespace CharClass

open CharRange (Joins)

/-- A reversed range put among others, at whatever place, leaves what is stored of them as it is.
It changes nothing for the characters that no stored range straddles, nor for those that none of the
other ranges holds. -/
theorem reversed_inert {reversed : CharRange} (hreversed : ¬ reversed.Proper) (text : String)
    (before after : List CharRange) (negated : Bool) :
    let others := before ++ after
    let ranges := before ++ reversed :: after
    Joins reversed (ofRangesAs text others negated).ranges.toList
      (ofRangesAs text ranges negated).ranges.toList ∧
    ∀ c, (∀ stored ∈ (ofRangesAs text ranges negated).ranges.toList, ¬ stored.Straddles c) ∨
        others.any (·.contains c) = false →
      (ofRangesAs text ranges negated).contains c = (ofRangesAs text others negated).contains c ∧
      (ofRanges ranges negated).contains c = (ofRanges others negated).contains c ∧
      (ofRanges others negated).contains c = (others.any (·.contains c) != negated) := by
  intro others ranges
  have hjoins := CharRange.normalize_joins hreversed before after
  refine ⟨hjoins, fun c hc ↦ ?_⟩
  have hsame : ranges.any (·.contains c) = others.any (·.contains c) := by
    simp [ranges, others, CharRange.contains_of_not_proper hreversed c]
  have hwith (text : String) : (ofRangesAs text ranges negated).contains c =
      (others.any (·.contains c) != negated) := by
    rw [← hsame]
    exact contains_eq_any (hc.imp_right hsame.trans) text negated
  have hwithout (text : String) : (ofRangesAs text others negated).contains c =
      (others.any (·.contains c) != negated) :=
    contains_eq_any (hc.imp_left fun hclear stored hstored ↦
      hclear stored (hjoins.subset hstored)) text negated
  exact ⟨(hwith text).trans (hwithout text).symm, (hwith _).trans (hwithout _).symm, hwithout _⟩

theorem reversed_inert_trailing : ¬ CharRange.Proper ⟨'z', 'm'⟩ ∧
    (∀ stored ∈ (ofRangesAs "" [⟨'a', 'f'⟩, ⟨'z', 'm'⟩, ⟨'k', 'p'⟩] true).ranges.toList,
      ¬ stored.Straddles 'l') ∧
    (ofRanges [⟨'a', 'f'⟩, ⟨'z', 'm'⟩, ⟨'k', 'p'⟩] true).contains 'l' =
      (ofRanges [⟨'a', 'f'⟩, ⟨'k', 'p'⟩] true).contains 'l' := by
  have hreversed : ¬ CharRange.Proper ⟨'z', 'm'⟩ := by decide
  have hsort : [⟨'a', 'f'⟩, ⟨'z', 'm'⟩, ⟨'k', 'p'⟩].mergeSort CharRange.precedes =
      [⟨'a', 'f'⟩, ⟨'k', 'p'⟩, ⟨'z', 'm'⟩] := by
    simp [List.mergeSort, List.MergeSort.Internal.splitInTwo, CharRange.precedes]
  have hclear : ∀ stored ∈
      (ofRangesAs "" [⟨'a', 'f'⟩, ⟨'z', 'm'⟩, ⟨'k', 'p'⟩] true).ranges.toList,
      ¬ stored.Straddles 'l' := by
    simp only [ofRangesAs, CharRange.normalize, hsort]
    decide
  obtain ⟨_, hinert⟩ := reversed_inert hreversed "" [⟨'a', 'f'⟩] [⟨'k', 'p'⟩] true
  exact ⟨hreversed, hclear, (hinert 'l' (.inl hclear)).2.1⟩

/-- In front of `a` through `f`, the reversed range from `z` through `b` hides `c`. -/
theorem reversed_hides : ¬ ∀ (reversed : CharRange) (before after : List CharRange)
    (negated : Bool) (c : Char), ¬ reversed.Proper →
      (ofRanges (before ++ reversed :: after) negated).contains c =
        (ofRanges (before ++ after) negated).contains c := by
  intro hinert
  have hlost := hinert ⟨'z', 'b'⟩ [⟨'a', 'f'⟩] [] false 'c' (by decide)
  have hsort : [⟨'a', 'f'⟩, ⟨'z', 'b'⟩].mergeSort CharRange.precedes =
      [⟨'a', 'f'⟩, ⟨'z', 'b'⟩] := by
    simp [List.mergeSort, List.MergeSort.Internal.splitInTwo, CharRange.precedes]
  have hstored : CharRange.normalize [⟨'a', 'f'⟩, ⟨'z', 'b'⟩] = [⟨'a', 'f'⟩, ⟨'z', 'b'⟩] := by
    rw [CharRange.normalize, hsort]
    decide
  have hwith : (ofRanges [⟨'a', 'f'⟩, ⟨'z', 'b'⟩] false).contains 'c' = false := by
    simp [ofRanges, ofRangesAs, contains, listed, hstored, settle, CharRange.contains]
  have hwithout : (ofRanges [⟨'a', 'f'⟩] false).contains 'c' = true := by
    simp [ofRanges, ofRangesAs, contains, listed, CharRange.normalize, CharRange.absorb, settle,
      CharRange.contains]
  exact Bool.false_ne_true (hwith.symm.trans (hlost.trans hwithout))

end CharClass

end PegKit
