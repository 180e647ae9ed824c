import PegKit.Unicode.RangeTable.Algebra

/-!
# Unions of range tables

Sorting a table and joining the ranges that meet or touch keeps the code points that it holds. The
ends of the joined ranges are ends of given ones, so a table of characters stays one.
-/

namespace PegKit.Unicode.RangeTable

theorem holds_iff {table : RangeTable} {n : Nat} :
    table.holds n = true ↔ ∃ range ∈ table, range.1 ≤ n ∧ n ≤ range.2 := by
  simp [holds]

theorem precedes_iff {left right : Nat × Nat} :
    precedes left right = true ↔ left.1 < right.1 ∨ left.1 = right.1 ∧ left.2 ≤ right.2 := by
  simp [precedes]

theorem mergeSort_firsts (ranges : List (Nat × Nat)) :
    (ranges.mergeSort precedes).Pairwise fun left right ↦ left.1 ≤ right.1 := by
  have htrans (first second third : Nat × Nat) (h : precedes first second = true)
      (h' : precedes second third = true) : precedes first third = true := by
    rw [precedes_iff] at h h' ⊢
    omega
  have htotal (left right : Nat × Nat) : (precedes left right || precedes right left) = true := by
    rw [Bool.or_eq_true, precedes_iff, precedes_iff]
    omega
  refine (List.pairwise_mergeSort htrans htotal ranges).imp fun {left right} h ↦ ?_
  rw [precedes_iff] at h
  omega

/-! ## Code points -/

/-- Joining ranges that meet or touch adds no code point between them. -/
theorem holds_absorb {range : Nat × Nat} {rest : List (Nat × Nat)}
    (h : (range :: rest).Pairwise fun left right ↦ left.1 ≤ right.1) (n : Nat) :
    (absorb range rest).holds n = holds (range :: rest) n := by
  induction rest generalizing range with
  | nil => rfl
  | cons other rest ih =>
    obtain ⟨hrange, hrest⟩ := List.pairwise_cons.mp h
    have hfirst : range.1 ≤ other.1 := hrange other List.mem_cons_self
    rw [absorb]
    split
    · next hjoined =>
      have hmerged : ((range.1, max range.2 other.2) :: rest).Pairwise
          fun left right ↦ left.1 ≤ right.1 :=
        List.pairwise_cons.mpr
          ⟨fun later hlater ↦ hrange later (List.mem_cons_of_mem _ hlater),
            (List.pairwise_cons.mp hrest).2⟩
      rw [ih hmerged, Bool.eq_iff_iff]
      simp only [holds, List.any_cons, Bool.or_eq_true, Bool.and_eq_true, decide_eq_true_eq]
      rw [← or_assoc]
      refine or_congr_left ?_
      omega
    · simp only [holds, List.any_cons]
      congr 1
      exact ih hrest

theorem holds_normalize (ranges : List (Nat × Nat)) (n : Nat) :
    (normalize ranges).holds n = holds ranges n := by
  have hsorted := mergeSort_firsts ranges
  have hperm : holds (ranges.mergeSort precedes) n = holds ranges n :=
    (List.mergeSort_perm ranges precedes).any_eq
  rw [← hperm]
  unfold normalize
  cases hsort : ranges.mergeSort precedes with
  | nil => rfl
  | cons range rest =>
    rw [hsort] at hsorted
    exact holds_absorb hsorted n

theorem holds_union (left right : RangeTable) (n : Nat) :
    (left.union right).holds n = (left.holds n || right.holds n) := by
  rw [union, holds_normalize, holds, List.any_append]
  rfl

/-! ## Ends -/

/-- The ranges go from a character to the same one or a later one. -/
def OfChars (table : RangeTable) : Prop :=
  ∀ range ∈ table, ∃ first last : Char, range = (first.toNat, last.toNat) ∧
    first.toNat ≤ last.toNat

theorem OfChars.absorb {range : Nat × Nat} {rest : List (Nat × Nat)}
    (h : OfChars (range :: rest)) : OfChars (absorb range rest) := by
  induction rest generalizing range with
  | nil => exact h
  | cons other rest ih =>
    obtain ⟨hrange, hothers⟩ := List.forall_mem_cons.mp h
    obtain ⟨⟨first', last', hother, _⟩, hrest⟩ := List.forall_mem_cons.mp hothers
    rw [RangeTable.absorb]
    split
    · obtain ⟨first, last, rfl, hwide⟩ := hrange
      refine ih (List.forall_mem_cons.mpr ⟨?_, hrest⟩)
      rw [hother]
      rcases Nat.le_total last.toNat last'.toNat with hless | hless
      · exact ⟨first, last', by simp [Nat.max_eq_right hless], Nat.le_trans hwide hless⟩
      · exact ⟨first, last, by simp [Nat.max_eq_left hless], hwide⟩
    · exact List.forall_mem_cons.mpr ⟨hrange, ih hothers⟩

theorem OfChars.union {left right : RangeTable} (h : OfChars left) (h' : OfChars right) :
    OfChars (left.union right) := by
  have hsorted : OfChars ((left ++ right).mergeSort precedes) := by
    intro range hrange
    rcases List.mem_append.mp (List.mem_mergeSort.mp hrange) with hleft | hright
    · exact h range hleft
    · exact h' range hright
  unfold RangeTable.union normalize
  cases hsort : (left ++ right).mergeSort precedes with
  | nil => exact List.forall_mem_nil _
  | cons range rest =>
    rw [hsort] at hsorted
    exact hsorted.absorb

end PegKit.Unicode.RangeTable
