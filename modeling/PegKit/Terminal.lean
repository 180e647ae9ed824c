import PegKit.Text.Offset
import PegKit.Text.Span

/-!
# Terminal literals

How literal text is written in a grammar: quoting writes it between single quotes, and unescaping
reads what stands between quotes back. Escapes are a backslash before `n`, `t`, `r`, `0`, a
backslash or a quote, and `\u` before a code point in hexadecimal between braces.
-/

namespace PegKit.Terminal

open Text (Span byteLength)

/-- How `c` is written between single quotes. -/
def quoteChar (c : Char) : List Char :=
  if c = '\'' || c = '\\' then ['\\', c]
  else if c = '\n' then ['\\', 'n']
  else if c = '\t' then ['\\', 't']
  else if c = '\r' then ['\\', 'r']
  else if c = '\x00' then ['\\', '0']
  else [c]

def quoteChars (cs : List Char) : List Char :=
  '\'' :: cs.flatMap quoteChar ++ ['\'']

/-- `text` between single quotes. -/
def quote (text : String) : String :=
  String.ofList (quoteChars text.toList)

/-- The character that a backslash before `c` stands for, unless more has to follow. -/
def escapedChar? (c : Char) : Option Char :=
  if c = 'n' then some '\n'
  else if c = 't' then some '\t'
  else if c = 'r' then some '\r'
  else if c = '0' then some '\x00'
  else if c = '\\' || c = '\'' || c = '"' then some c
  else none

/-- The value of a hexadecimal digit of either case. -/
def hexDigit? (c : Char) : Option Nat :=
  if c.isDigit then some (c.toNat - '0'.toNat)
  else if 'a' ≤ c && c ≤ 'f' then some (c.toNat - 'a'.toNat + 10)
  else if 'A' ≤ c && c ≤ 'F' then some (c.toNat - 'A'.toNat + 10)
  else none

/-- The number that hexadecimal digits write after `value`. -/
def hexNumber? (value : Nat) : List Char → Option Nat
  | [] => some value
  | c :: cs => (hexDigit? c).bind fun digit ↦ hexNumber? (16 * value + digit) cs

/-- The character whose code point `body` writes: one or more hexadecimal digits, which a plus sign
may precede. -/
def codePoint? (body : List Char) : Option Char :=
  let digits := if body.head? = some '+' then body.tail else body
  if digits.isEmpty then none
  else (hexNumber? 0 digits).bind fun n ↦ if n.isValidChar then some (Char.ofNat n) else none

/-- Reads the escapes of a text that starts at byte `offset`; fails with the span of the first
escape that stands for nothing. -/
def unescapeFrom (offset : Nat) : List Char → Except Span (List Char)
  | [] => .ok []
  | c :: cs =>
    if c ≠ '\\' then return c :: (← unescapeFrom (offset + c.utf8Size) cs)
    else
      match cs with
      | [] => .error ⟨offset, offset + 1⟩
      | e :: rest =>
        let stop := offset + 1 + e.utf8Size
        if e = 'u' then
          match rest with
          | [] => .error ⟨offset, stop⟩
          | brace :: body =>
            if brace ≠ '{' then .error ⟨offset, stop⟩
            else
              let digits := body.takeWhile (· != '}')
              match h : body.dropWhile (· != '}') with
              | [] => .error ⟨offset, stop + 1 + byteLength body⟩
              | _ :: after =>
                let stop := stop + 1 + byteLength digits + 1
                match codePoint? digits with
                | none => .error ⟨offset, stop⟩
                | some value => return value :: (← unescapeFrom stop after)
        else
          match escapedChar? e with
          | none => .error ⟨offset, stop⟩
          | some value => return value :: (← unescapeFrom stop rest)
termination_by cs => cs.length
decreasing_by
  · simp
  · have := (List.dropWhile_suffix (l := body) (· != '}')).length_le
    simp_all
    omega
  · simp only [List.length_cons]
    omega

/-- The text that `raw` stands for, or the span of its first escape that stands for nothing. -/
def unescape (raw : String) : Except Span String :=
  String.ofList <$> unescapeFrom 0 raw.toList

end PegKit.Terminal
