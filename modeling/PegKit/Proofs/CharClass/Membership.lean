import PegKit.Proofs.CharClass.Normal

/-!
# Which characters a class holds

Merging keeps the characters of sorted ranges, and ranges that are given the right way round come
out with room between them. Among these, halving leads to the one range that holds a character, if
there is one. So a class holds the characters of the ranges that it was built from, or all the
others, and how these ranges were ordered cannot be told from it. Of ranges of which some may be
reversed this is still so for a character that none of the stored ones straddles.
-/

namespace PegKit

namespace CharRange

/-- The range is given the right way round. -/
def Proper (range : CharRange) : Prop := range.first.toNat ≤ range.last.toNat

instance (range : CharRange) : Decidable range.Proper :=
  inferInstanceAs (Decidable (range.first.toNat ≤ range.last.toNat))

theorem contains_iff {range : CharRange} {c : Char} :
    range.contains c = true ↔ range.first.toNat ≤ c.toNat ∧ c.toNat ≤ range.last.toNat := by
  simp [contains]

/-! ## The characters of merged ranges -/

/-- Two ranges of which the second begins inside the first make up one. -/
theorem contains_merge {range next : CharRange} (hfirst : range.first.toNat ≤ next.first.toNat)
    (hinside : next.first.toNat ≤ range.last.toNat) (c : Char) :
    contains ⟨range.first, later range.last next.last⟩ c =
      (range.contains c || next.contains c) := by
  rw [Bool.eq_iff_iff, Bool.or_eq_true, contains_iff, contains_iff, contains_iff]
  dsimp only
  rw [toNat_later]
  omega

theorem any_absorb {range : CharRange} {rest : List CharRange}
    (h : (range :: rest).Pairwise fun left right ↦ precedes left right = true) (c : Char) :
    (absorb range rest).any (·.contains c) = (range :: rest).any (·.contains c) := by
  induction rest generalizing range with
  | nil => rfl
  | cons next rest ih =>
    obtain ⟨hrange, hrest⟩ := List.pairwise_cons.mp h
    have hfirst := first_le_of_precedes (hrange next List.mem_cons_self)
    rw [absorb]
    split
    · next hinside =>
      have hmerged := merge_sorted h
      rw [ih hmerged, List.any_cons, contains_merge hfirst hinside, List.any_cons, List.any_cons,
        Bool.or_assoc]
    · simp only [List.any_cons, ih hrest]

/-- Normalizing keeps the characters. -/
theorem any_normalize (ranges : List CharRange) (c : Char) :
    (normalize ranges).any (·.contains c) = ranges.any (·.contains c) := by
  have hsorted := mergeSort_sorted ranges
  have hperm := List.mergeSort_perm ranges precedes
  rw [← hperm.any_eq]
  unfold normalize
  cases hsort : ranges.mergeSort precedes with
  | nil => rfl
  | cons range rest =>
    rw [hsort] at hsorted
    exact any_absorb hsorted c

/-- The order in which ranges are given does not matter. -/
theorem normalize_perm {ranges ranges' : List CharRange} (h : ranges'.Perm ranges) :
    normalize ranges' = normalize ranges := by
  have hperm : (ranges'.mergeSort precedes).Perm (ranges.mergeSort precedes) :=
    ((List.mergeSort_perm ranges' precedes).trans h).trans
      (List.mergeSort_perm ranges precedes).symm
  have hsame : ranges'.mergeSort precedes = ranges.mergeSort precedes :=
    hperm.eq_of_pairwise (fun _ _ _ _ hle hge ↦ precedes_antisymm hle hge)
      (mergeSort_sorted ranges') (mergeSort_sorted ranges)
  rw [normalize, hsame, normalize]

/-! ## Room between ranges -/

/-- Ranges the right way round, each of which ends before the next ones begin. -/
structure Separated (ranges : List CharRange) : Prop where
  proper : ∀ range ∈ ranges, range.Proper
  apart : ranges.Pairwise fun left right ↦ left.last.toNat < right.first.toNat

theorem Apart.pairwise {ranges : List CharRange} (h : Apart ranges)
    (hproper : ∀ range ∈ ranges, range.Proper) :
    ranges.Pairwise fun left right ↦ left.last.toNat < right.first.toNat := by
  induction ranges with
  | nil => exact .nil
  | cons range rest ih =>
    obtain ⟨hnext, hrest⟩ := List.isChain_cons.mp h
    obtain ⟨_, hothers⟩ := List.forall_mem_cons.mp hproper
    have hpairs := ih hrest hothers
    refine List.pairwise_cons.mpr ⟨fun other hother ↦ ?_, hpairs⟩
    cases rest with
    | nil => cases hother
    | cons next rest =>
      have hnear := hnext next rfl
      rcases List.mem_cons.mp hother with rfl | hlater
      · exact hnear
      · have hfar := (List.pairwise_cons.mp hpairs).1 other hlater
        have hwide : next.first.toNat ≤ next.last.toNat := hothers next List.mem_cons_self
        omega

theorem normalize_separated {ranges : List CharRange} (h : ∀ range ∈ ranges, range.Proper) :
    Separated (normalize ranges) := by
  have hproper : ∀ range ∈ normalize ranges, range.Proper := by
    intro merged hmerged
    obtain ⟨given, hgiven, hfirst, hlast⟩ := exists_of_mem_normalize hmerged
    have hwide : given.first.toNat ≤ given.last.toNat := h given hgiven
    rw [Proper, ← hfirst]
    exact hwide.trans hlast
  exact ⟨hproper, (normalize_normal ranges).apart.pairwise hproper⟩

/-! ## Halving -/

/-- The character lies between the two ends, the last one first, so the range is reversed. -/
def Straddles (range : CharRange) (c : Char) : Prop :=
  range.last.toNat < c.toNat ∧ c.toNat < range.first.toNat

instance (range : CharRange) (c : Char) : Decidable (range.Straddles c) :=
  inferInstanceAs (Decidable (_ ∧ _))

theorem Proper.not_straddles {range : CharRange} (h : range.Proper) (c : Char) :
    ¬ range.Straddles c := by
  rintro ⟨hlast, hfirst⟩
  have hwide : range.first.toNat ≤ range.last.toNat := h
  omega

theorem Separated.normal {ranges : List CharRange} (h : Separated ranges) : Normal ranges := by
  refine ⟨?_, h.apart.isChain⟩
  refine h.apart.imp_of_mem fun {left _} hleft _ hapart ↦ precedes_iff.mpr (.inl ?_)
  have hwide : left.first.toNat ≤ left.last.toNat := h.proper left hleft
  exact hwide.trans_lt hapart

namespace Normal

variable {ranges : List CharRange} {i j : Nat} {left right : CharRange}

theorem first_le (h : Normal ranges) (hleft : ranges[i]? = some left)
    (hright : ranges[j]? = some right) (hij : i ≤ j) :
    left.first.toNat ≤ right.first.toNat := by
  rcases Nat.eq_or_lt_of_le hij with rfl | hless
  · rw [Option.some.inj (hleft.symm.trans hright)]
  · obtain ⟨hi, rfl⟩ := List.getElem?_eq_some_iff.mp hleft
    obtain ⟨hj, rfl⟩ := List.getElem?_eq_some_iff.mp hright
    exact first_le_of_precedes (List.pairwise_iff_getElem.mp h.sorted i j hi hj hless)

theorem last_lt (h : Normal ranges) (hleft : ranges[i]? = some left)
    (hright : ranges[j]? = some right) (hij : i < j) : left.last.toNat < right.first.toNat := by
  obtain ⟨hj, _⟩ := List.getElem?_eq_some_iff.mp hright
  obtain ⟨hi, rfl⟩ := List.getElem?_eq_some_iff.mp hleft
  have hnext : i + 1 < ranges.length := by omega
  have hnear := List.isChain_iff_getElem.mp h.apart i hnext
  exact hnear.trans_le (h.first_le (List.getElem?_eq_getElem hnext) hright hij)

end Normal

end CharRange

namespace CharClass

open CharRange (Normal Separated)

/-- Halving ends at the last range that does not lie after the character. -/
theorem settle_eq {ranges : Array CharRange} {c : Char} {i : Nat}
    (hbefore : ∀ {j : Nat} {range : CharRange}, ranges[j]? = some range → j ≤ i →
      range.first.toNat ≤ c.toNat)
    (hafter : ∀ {j : Nat} {range : CharRange}, ranges[j]? = some range → i < j →
      c.toNat ≤ range.last.toNat ∧ c.toNat < range.first.toNat)
    {base size : Nat} (hbase : base ≤ i) (hsize : i < base + size)
    (hend : base + size ≤ ranges.size) : settle ranges c base size = i := by
  induction size using Nat.strong_induction_on generalizing base with
  | _ size ih =>
    rw [settle]
    split
    · omega
    · next hmany =>
      have hmiddle : base + size / 2 < ranges.size := by omega
      have hat := Array.getElem?_eq_getElem hmiddle
      simp only [hat]
      rcases Nat.lt_or_ge i (base + size / 2) with hleft | hright
      · obtain ⟨hlast, hfirst⟩ := hafter hat hleft
        have hgreater : (decide (c.toNat ≤ ranges[base + size / 2].last.toNat) &&
            decide (c.toNat < ranges[base + size / 2].first.toNat)) = true := by
          simp [hlast, hfirst]
        rw [if_pos hgreater]
        exact ih _ (by omega) hbase (by omega) (by omega)
      · have hreached := hbefore hat hright
        have hnot : ¬ (decide (c.toNat ≤ ranges[base + size / 2].last.toNat) &&
            decide (c.toNat < ranges[base + size / 2].first.toNat)) = true := by
          simp only [Bool.and_eq_true, decide_eq_true_eq]
          omega
        rw [if_neg hnot]
        exact ih _ (by omega) hright (by omega) (by omega)

/-- What halving finds is there. -/
theorem any_of_listed {ranges : Array CharRange} {c : Char} (h : listed ranges c = true) :
    ranges.toList.any (·.contains c) = true := by
  unfold listed at h
  split at h
  · next range hrange =>
    have hmem : range ∈ ranges.toList := Array.mem_toList_iff.mpr (Array.mem_of_getElem? hrange)
    exact List.any_eq_true.mpr ⟨range, hmem, h⟩
  · cases h

/-- Halving finds the range that holds the character, unless a reversed one leads it astray. -/
theorem listed_eq_any_of_normal {ranges : Array CharRange} (h : Normal ranges.toList) {c : Char}
    (hclear : ∀ range ∈ ranges.toList, ¬ range.Straddles c) :
    listed ranges c = ranges.toList.any (·.contains c) := by
  rw [Bool.eq_iff_iff]
  refine ⟨any_of_listed, fun hany ↦ ?_⟩
  obtain ⟨range, hmem, hc⟩ := List.any_eq_true.mp hany
  obtain ⟨i, hi⟩ := List.getElem?_of_mem hmem
  have hrange : ranges[i]? = some range := by simpa using hi
  obtain ⟨hfirst, hlast⟩ := CharRange.contains_iff.mp hc
  have hbefore {j : Nat} {other : CharRange} (hother : ranges[j]? = some other) (hj : j ≤ i) :
      other.first.toNat ≤ c.toNat :=
    (h.first_le (by simpa using hother) hi hj).trans hfirst
  have hafter {j : Nat} {other : CharRange} (hother : ranges[j]? = some other) (hj : i < j) :
      c.toNat ≤ other.last.toNat ∧ c.toNat < other.first.toNat := by
    have hother' : ranges.toList[j]? = some other := by simpa using hother
    have hlater := h.last_lt hi hother' hj
    have hstraight := hclear other (List.mem_of_getElem? hother')
    unfold CharRange.Straddles at hstraight
    omega
  obtain ⟨hlt, _⟩ := Array.getElem?_eq_some_iff.mp hrange
  rw [listed, settle_eq hbefore hafter (Nat.zero_le i) (by omega) (by omega), hrange]
  exact hc

theorem listed_eq_any {ranges : Array CharRange} (h : Separated ranges.toList) (c : Char) :
    listed ranges c = ranges.toList.any (·.contains c) :=
  listed_eq_any_of_normal h.normal fun range hrange ↦ (h.proper range hrange).not_straddles c

/-- A class says rightly of a character whether some given range holds it, unless one does and a
stored range straddles it. -/
theorem contains_eq_any {ranges : List CharRange} {c : Char}
    (h : (∀ stored ∈ CharRange.normalize ranges, ¬ stored.Straddles c) ∨
      ranges.any (·.contains c) = false) (text : String) (negated : Bool) :
    (ofRangesAs text ranges negated).contains c = (ranges.any (·.contains c) != negated) := by
  have hmerged := CharRange.any_normalize ranges c
  suffices hlisted : listed (CharRange.normalize ranges).toArray c = ranges.any (·.contains c) by
    rw [contains, ← hlisted]
    rfl
  rcases h with hclear | hnone
  · have hsearched := @listed_eq_any_of_normal (CharRange.normalize ranges).toArray
      (CharRange.normalize_normal ranges) c hclear
    exact hsearched.trans hmerged
  · rw [hnone] at hmerged ⊢
    exact Bool.eq_false_iff.mpr fun hlisted ↦ Bool.eq_false_iff.mp hmerged (any_of_listed hlisted)

theorem contains_of_proper {ranges : List CharRange} (h : ∀ range ∈ ranges, range.Proper)
    (text : String) (negated : Bool) (c : Char) :
    (ofRangesAs text ranges negated).contains c = (ranges.any (·.contains c) != negated) :=
  contains_eq_any (.inl fun stored hstored ↦
    ((CharRange.normalize_separated h).proper stored hstored).not_straddles c) text negated

/-- A class holds the characters of its ranges, or all others when it is negated, if the ranges are
given the right way round. Those that are stored end before the next ones begin, do not depend on
the order of those given, and make the same class again. -/
theorem membership_exact (text : String) {ranges : List CharRange}
    (h : ∀ range ∈ ranges, range.Proper) (negated : Bool) :
    let cls := ofRangesAs text ranges negated
    (∀ c, cls.contains c = (ranges.any (·.contains c) != negated)) ∧
    Separated cls.ranges.toList ∧
    (∀ ranges', ranges'.Perm ranges → ofRangesAs text ranges' negated = cls) ∧
    ofRangesAs text cls.ranges.toList negated = cls := by
  have hstored := CharRange.normalize_separated h
  refine ⟨fun c ↦ ?_, hstored, fun ranges' hperm ↦ ?_, ?_⟩
  · have hlisted : listed (ofRangesAs text ranges negated).ranges c =
        (CharRange.normalize ranges).any (·.contains c) := listed_eq_any hstored c
    rw [contains, hlisted, CharRange.any_normalize]
    rfl
  · simp only [ofRangesAs, CharRange.normalize_perm hperm]
  · exact ofRangesAs_ranges (ofRangesAs text ranges negated)

/-- Ranges out of order, that overlap, touch and lie inside each other. -/
def scatteredRanges : List CharRange :=
  [⟨'m', 'p'⟩, ⟨'d', 'k'⟩, ⟨'a', 'f'⟩, ⟨'e', 'e'⟩, ⟨'l', 'l'⟩, ⟨'x', 'z'⟩]

theorem membership_exact_scattered : (∀ range ∈ scatteredRanges, range.Proper) ∧
    (ofRangesAs "" scatteredRanges true).ranges.toList =
      [⟨'a', 'k'⟩, ⟨'l', 'l'⟩, ⟨'m', 'p'⟩, ⟨'x', 'z'⟩] ∧
    (ofRangesAs "" scatteredRanges true).contains 'p' = false ∧
    ofRangesAs "" scatteredRanges.reverse true = ofRangesAs "" scatteredRanges true := by
  have hproper : ∀ range ∈ scatteredRanges, range.Proper := by decide
  obtain ⟨hcontains, _, hperm, _⟩ := membership_exact "" hproper true
  have hsort : scatteredRanges.mergeSort CharRange.precedes =
      [⟨'a', 'f'⟩, ⟨'d', 'k'⟩, ⟨'e', 'e'⟩, ⟨'l', 'l'⟩, ⟨'m', 'p'⟩, ⟨'x', 'z'⟩] := by
    simp [scatteredRanges, List.mergeSort, List.MergeSort.Internal.splitInTwo, CharRange.precedes]
  refine ⟨hproper, ?_, ?_, hperm _ (List.reverse_perm _)⟩
  · simp only [ofRangesAs, CharRange.normalize, hsort]
    decide
  · rw [hcontains]
    decide

end CharClass

end PegKit
