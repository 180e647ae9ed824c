import PegKit.Unicode.Extender
import PegKit.Unicode.Unprintable

/-!
# Quoted texts

Texts and characters as literals of dumps, traces and generated code: between quotes, with an escape
for the quote, the backslash and whatever would not show. Characters without a glyph and characters
that join the one before them are written by their code point in hexadecimal.
-/

namespace PegKit.Text.Quoted

/-- The small hexadecimal digits of `n`, without leading zeros. -/
def hexDigits (n : Nat) : List Char :=
  Nat.toDigits 16 n

/-- Whether `c` shows in a quoted text as itself. -/
def isVisible (c : Char) : Bool :=
  if c.toNat < 0x7F then 0x20 ≤ c.toNat
  else !Unicode.extenderRanges.contains c && !Unicode.unprintableRanges.contains c

/-- The form of `c` between two marks `mark`. -/
def escape (mark c : Char) : List Char :=
  if c = '\n' then ['\\', 'n']
  else if c = '\r' then ['\\', 'r']
  else if c = '\t' then ['\\', 't']
  else if c = '\x00' then ['\\', '0']
  else if c = '\\' then ['\\', '\\']
  else if c = mark then ['\\', c]
  else if isVisible c then [c]
  else ['\\', 'u', '{'] ++ hexDigits c.toNat ++ ['}']

def encode (mark : Char) (cs : List Char) : List Char :=
  mark :: cs.flatMap (escape mark) ++ [mark]

/-- `s` between double quotes. -/
def quote (s : String) : String :=
  String.ofList (encode '"' s.toList)

/-- `c` between single quotes. -/
def quoteChar (c : Char) : String :=
  String.ofList (encode '\'' [c])

end PegKit.Text.Quoted
