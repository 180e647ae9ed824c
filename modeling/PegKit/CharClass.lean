/-!
# Character classes

A class is a set of characters, given by inclusive ranges or their complement, together with the
bracket body it was written as. The stored ranges are sorted and overlapping ones are merged, so
membership is a search by halving.
-/

namespace PegKit

/-- The characters from `first` through `last`; none when `last` comes before `first`. -/
structure CharRange where
  first : Char
  last : Char
  deriving DecidableEq, Repr, Inhabited

namespace CharRange

/-- Whether `range` holds `c`. -/
def contains (range : CharRange) (c : Char) : Bool :=
  range.first.toNat ≤ c.toNat && c.toNat ≤ range.last.toNat

/-- Order by first character, then by last. -/
def precedes (left right : CharRange) : Bool :=
  left.first.toNat < right.first.toNat ||
    (left.first == right.first && left.last.toNat ≤ right.last.toNat)

/-- The later of two characters. -/
def later (a b : Char) : Char :=
  if a.toNat ≤ b.toNat then b else a

/-- Lets `range` take in the ranges that begin inside it, from the left of a sorted list. -/
def absorb (range : CharRange) : List CharRange → List CharRange
  | [] => [range]
  | next :: rest =>
    if next.first.toNat ≤ range.last.toNat then
      absorb ⟨range.first, later range.last next.last⟩ rest
    else range :: absorb next rest

/-- Sorted, with ranges that begin inside an earlier one merged into it. -/
def normalize (ranges : List CharRange) : List CharRange :=
  match ranges.mergeSort precedes with
  | [] => []
  | range :: rest => absorb range rest

end CharRange

structure CharClass where
  /-- The bracket body, without the brackets and the caret of a negated class. -/
  text : String
  ranges : Array CharRange
  negated : Bool
  /-- Ranges are only stored in normal form. -/
  normal : ∃ given, ranges.toList = CharRange.normalize given
  deriving DecidableEq, Repr

namespace CharClass

/-- The class of `ranges`, written `text`. -/
def ofRangesAs (text : String) (ranges : List CharRange) (negated : Bool) : CharClass :=
  ⟨text, (CharRange.normalize ranges).toArray, negated, ranges, rfl⟩

/-- How `c` is written inside brackets. -/
def bracketChar (c : Char) : List Char :=
  if c = ']' || c = '\\' || c = '^' || c = '-' || c = '[' then ['\\', c]
  else if c = '\n' then ['\\', 'n']
  else if c = '\t' then ['\\', 't']
  else if c = '\r' then ['\\', 'r']
  else [c]

/-- How `range` is written inside brackets. -/
def bracketRange (range : CharRange) : List Char :=
  if range.first = range.last then bracketChar range.first
  else bracketChar range.first ++ '-' :: bracketChar range.last

/-- The class of `ranges`, with a bracket body that lists them as given. -/
def ofRanges (ranges : List CharRange) (negated : Bool) : CharClass :=
  ofRangesAs (String.ofList (ranges.flatMap bracketRange)) ranges negated

/-- The place where a search by halving for `c` ends, among the `size` ranges from place `base`.
A range that lies after `c` sends the search to the left half. -/
def settle (ranges : Array CharRange) (c : Char) (base size : Nat) : Nat :=
  if size ≤ 1 then base
  else
    let middle := base + size / 2
    let isAfter := match ranges[middle]? with
      | some range => c.toNat ≤ range.last.toNat && c.toNat < range.first.toNat
      | none => true
    settle ranges c (if isAfter then base else middle) (size - size / 2)
termination_by size
decreasing_by omega

/-- Whether some range holds `c`, found by halving. -/
def listed (ranges : Array CharRange) (c : Char) : Bool :=
  match ranges[settle ranges c 0 ranges.size]? with
  | some range => range.contains c
  | none => false

/-- Whether the class holds `c`. -/
def contains (cls : CharClass) (c : Char) : Bool :=
  listed cls.ranges c != cls.negated

/-- The bracket form. -/
def describe (cls : CharClass) : String :=
  (if cls.negated then "[^" else "[") ++ cls.text ++ "]"

end CharClass

end PegKit
