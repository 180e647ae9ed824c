import PegKit.Unicode.RangeTable

/-!
# Algebra of range tables

Set operations on characters. A sorted table whose ranges neither meet nor touch is the normal form
of its set, and `union` and `normalize` return it. The surrogates are no characters, so complements
and differences pass over them: the character after U+D7FF is U+E000. No operation joins the ranges
on the two sides of that gap.
-/

namespace PegKit.Unicode.RangeTable

/-- The code point of the character after that of `n`. -/
def next (n : Nat) : Nat :=
  if n = 0xD7FF then 0xE000 else n + 1

/-- The code point of the character before that of `n`. -/
def previous (n : Nat) : Nat :=
  if n = 0xE000 then 0xD7FF else n - 1

/-- Order by first code point, then by last. -/
def precedes (left right : Nat × Nat) : Bool :=
  left.1 < right.1 || (left.1 == right.1 && left.2 ≤ right.2)

/-- Lets `range` take in the ranges that meet or touch it, from the left of a sorted list. -/
def absorb (range : Nat × Nat) : List (Nat × Nat) → RangeTable
  | [] => [range]
  | other :: rest =>
    if other.1 ≤ range.2 + 1 then absorb (range.1, max range.2 other.2) rest
    else range :: absorb other rest

/-- The normal form of the set of the code points in any of `ranges`. -/
def normalize (ranges : List (Nat × Nat)) : RangeTable :=
  match ranges.mergeSort precedes with
  | [] => []
  | range :: rest => absorb range rest

def union (left right : RangeTable) : RangeTable :=
  normalize (left ++ right)

/-- The range with these two ends, the lower one first. -/
def between (one other : Nat) : Nat × Nat :=
  (min one other, max one other)

/-- The ranges between those of a table, and the one after its last. Nothing lies between a range
that ends with U+D7FF and one that starts with U+E000, and there the two ends themselves are
returned. -/
def gaps : RangeTable → RangeTable
  | [] => []
  | [last] => if last.2 < 0x10FFFF then [(next last.2, 0x10FFFF)] else []
  | range :: after :: rest =>
    between (next range.2) (previous after.1) :: gaps (after :: rest)

/-- The characters that the table leaves out. -/
def complement (table : RangeTable) : RangeTable :=
  match table with
  | [] => [(0, 0x10FFFF)]
  | range :: _ => (if 0 < range.1 then [(0, previous range.1)] else []) ++ gaps table

/-- The ranges where two tables meet. Of two ranges, the one that ends first meets no later one. -/
def intersection : RangeTable → RangeTable → RangeTable
  | [], _ => []
  | _, [] => []
  | a :: as, b :: bs =>
    let shared := if max a.1 b.1 ≤ min a.2 b.2 then [(max a.1 b.1, min a.2 b.2)] else []
    if a.2 < b.2 then shared ++ intersection as (b :: bs) else shared ++ intersection (a :: as) bs
termination_by left right => left.length + right.length

/-- What the second table leaves of the first. -/
def difference : RangeTable → RangeTable → RangeTable
  | [], _ => []
  | as, [] => as
  | a :: as, b :: bs =>
    if b.2 < a.1 then difference (a :: as) bs
    else if a.2 < b.1 then a :: difference as (b :: bs)
    else
      let before := if a.1 < b.1 then [(a.1, previous b.1)] else []
      if b.2 < a.2 then before ++ difference ((next b.2, a.2) :: as) bs
      else before ++ difference as (b :: bs)
termination_by left right => left.length + right.length

def symmetricDifference (left right : RangeTable) : RangeTable :=
  difference (union left right) (intersection left right)

end PegKit.Unicode.RangeTable
