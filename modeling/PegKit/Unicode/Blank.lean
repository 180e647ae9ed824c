import PegKit.Unicode.RangeTable

/-!
# Blank characters

The 25 characters with the property White_Space. Trimming a text removes these and no others.
-/

namespace PegKit.Unicode

/-- The property White_Space. -/
def blankRanges : RangeTable :=
  [(0x9, 0xD), (0x20, 0x20), (0x85, 0x85), (0xA0, 0xA0), (0x1680, 0x1680), (0x2000, 0x200A),
    (0x2028, 0x2029), (0x202F, 0x202F), (0x205F, 0x205F), (0x3000, 0x3000)]

/-- Whether `c` has the property White_Space. -/
def isBlank (c : Char) : Bool :=
  blankRanges.contains c

/-- Removes the blank characters at both ends. -/
def trimBlanks (cs : List Char) : List Char :=
  ((cs.dropWhile isBlank).reverse.dropWhile isBlank).reverse

/-- Removes the blank characters at the end. -/
def trimBlanksRight (cs : List Char) : List Char :=
  (cs.reverse.dropWhile isBlank).reverse

end PegKit.Unicode
