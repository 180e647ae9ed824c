/-!
# Range tables

A property of characters is written down as the sorted list of the inclusive ranges of code points
that have it. Long tables are kept as text, in hexadecimal.
-/

namespace PegKit.Unicode

/-- Inclusive ranges of code points, in increasing order and disjoint. -/
abbrev RangeTable := List (Nat × Nat)

namespace RangeTable

/-- Whether some range of the table holds the code point `n`. -/
def holds (table : RangeTable) (n : Nat) : Bool :=
  table.any fun range ↦ range.1 ≤ n && n ≤ range.2

/-- Whether some range of the table holds the code point of `c`. -/
def contains (table : RangeTable) (c : Char) : Bool :=
  table.holds c.toNat

/-- The number that upper case hexadecimal digits write. -/
def hexNumber (digits : List Char) : Nat :=
  digits.foldl (fun n c ↦ 16 * n + (c.toNat - (if c.isDigit then 0x30 else 0x37))) 0

/-- The range written `41-5A`, or `41` for one code point by itself. -/
def ofWord (word : List Char) : Nat × Nat :=
  let first := word.takeWhile (· != '-')
  match word.dropWhile (· != '-') with
  | [] => (hexNumber first, hexNumber first)
  | _ :: last => (hexNumber first, hexNumber last)

/-- The table whose ranges are written in `text` with blanks between them. -/
def ofText (text : String) : RangeTable :=
  ((text.splitToList Char.isWhitespace).filter (!·.isEmpty)).map fun word ↦ ofWord word.toList

end RangeTable

end PegKit.Unicode
