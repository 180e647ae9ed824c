import PegKit.CharClass.Pattern
import PegKit.CharClass.Pattern.Spacing

/-!
# Escapes

What follows a backslash, in brackets and outside. A reader takes the rest of the text and returns
what follows the part it read. The main function is `Pattern.readEscape`.
-/

namespace PegKit.CharClass.Pattern

/-- What an escape or a plain character stands for. -/
inductive Primitive
  | literal (literal : Literal)
  | dot
  | place
  | set (set : ClassSet)

/-- The character `c`, standing for itself. -/
def Primitive.char (c : Char) : Primitive :=
  .literal ⟨c, false⟩

def isHexDigit (c : Char) : Bool :=
  c.isDigit || ('a' ≤ c && c ≤ 'f') || ('A' ≤ c && c ≤ 'F')

def hexDigitValue (c : Char) : Nat :=
  if c.isDigit then c.toNat - '0'.toNat
  else if 'a' ≤ c then c.toNat - 'a'.toNat + 10
  else c.toNat - 'A'.toNat + 10

def hexValue (digits : List Char) : Nat :=
  digits.foldl (fun value digit ↦ 16 * value + hexDigitValue digit) 0

/-- The character whose code point the digits write. -/
def scalarOfHex (digits : List Char) : Except PatternError Char :=
  if (hexValue digits).isValidChar then .ok (Char.ofNat (hexValue digits))
  else .error .escapeHexInvalid

/-- Exactly `count` hexadecimal digits. -/
def readFixedHex (spaced : Bool) : Nat → List Char → Except PatternError (List Char × List Char)
  | 0, cs => .ok ([], cs)
  | count + 1, cs =>
    match skipSpace spaced cs with
    | [] => .error .escapeUnexpectedEnd
    | c :: cs =>
      if isHexDigit c then do
        let (digits, rest) ← readFixedHex spaced count cs
        return (c :: digits, rest)
      else .error .escapeHexInvalidDigit

/-- What stands before the closing brace, and the text after it. -/
def readBraced (spaced : Bool) (cs : List Char) : List Char × Option (List Char) :=
  match takeSpaced spaced (· != '}') false cs with
  | (inside, []) => (inside, none)
  | (inside, _ :: rest) => (inside, some rest)

/-- Hexadecimal digits up to a closing brace. -/
def readBracedHex (spaced : Bool) (cs : List Char) :
    Except PatternError (List Char × List Char) :=
  let (digits, rest) := readBraced spaced cs
  if !digits.all isHexDigit then .error .escapeHexInvalidDigit
  else
    match rest with
    | none => .error .escapeUnexpectedEnd
    | some rest => if digits.isEmpty then .error .escapeHexEmpty else .ok (digits, rest)

/-- A code point after an escape letter that takes `count` digits when there are no braces. -/
def readHex (spaced : Bool) (count : Nat) (cs : List Char) :
    Except PatternError (Primitive × List Char) := do
  match skipSpace spaced cs with
  | [] => throw .escapeUnexpectedEnd
  | c :: rest =>
    if c = '{' then
      let (digits, rest) ← readBracedHex spaced rest
      return (.char (← scalarOfHex digits), rest)
    let (digits, rest) ← readFixedHex spaced count (c :: rest)
    return (.literal ⟨← scalarOfHex digits, count == 2⟩, rest)

/-- Splits `name` at the first place where `mark` stands, leaving the mark out. -/
def splitAtMark (mark : List Char) : List Char → Option (List Char × List Char)
  | [] => none
  | c :: cs =>
    if mark.isPrefixOf (c :: cs) then some ([], (c :: cs).drop mark.length)
    else (splitAtMark mark cs).map fun parts ↦ (c :: parts.1, parts.2)

/-- The name between the braces of a property escape. The mark between a property and its value does
not matter, not even one that looks like a negation. -/
def propertyName (name : List Char) : PropertyName :=
  let parts := (splitAtMark ['!', '='] name).or
    ((splitAtMark [':'] name).or (splitAtMark ['='] name))
  match parts with
  | some (name, value) => .valued (String.ofList name) (String.ofList value)
  | none => .binary (String.ofList name)

/-- A property name, in braces or of one letter. -/
def readProperty (spaced negated : Bool) (cs : List Char) :
    Except PatternError (Primitive × List Char) :=
  let found (name : PropertyName) : Primitive :=
    .set (if negated then .complement (.property name) else .property name)
  match skipSpace spaced cs with
  | [] => .error .escapeUnexpectedEnd
  | c :: cs =>
    if c = '{' then
      match readBraced spaced cs with
      | (_, none) => .error .escapeUnexpectedEnd
      | (name, some rest) => .ok (found (propertyName name), rest)
    else if c = '\\' then .error .propertyEscapeInvalid
    else .ok (found (.binary (String.singleton c)), cs)

def isBoundaryChar (c : Char) : Bool :=
  c.isAlpha || c == '-'

/-- What may follow a word boundary in braces: the name of a special one. Braces that hold no name
are left for a counted repetition. -/
def readWordBoundary (spaced : Bool) (cs : List Char) :
    Except PatternError (Primitive × List Char) :=
  if cs.head? == some '{' then
    match skipSpace spaced cs.tail with
    | [] => .error .wordBoundaryUnexpectedEnd
    | first :: inner =>
      if !isBoundaryChar first then .ok (.place, cs)
      else
        match takeSpaced spaced isBoundaryChar false (first :: inner) with
        | (_, []) => .error .wordBoundaryUnclosed
        | (name, close :: rest) =>
          if close ≠ '}' then .error .wordBoundaryUnclosed
          else if ["start", "end", "start-half", "end-half"].contains (String.ofList name) then
            .ok (.place, rest)
          else .error .wordBoundaryUnrecognized
  else .ok (.place, cs)

/-- ASCII characters that an escape writes as themselves: all but letters, digits and the two angle
brackets. -/
def isEscapable (c : Char) : Bool :=
  c.toNat < 0x80 && !c.isAlphanum && c != '<' && c != '>'

/-- What follows a backslash. -/
def readEscape (spaced : Bool) : List Char → Except PatternError (Primitive × List Char)
  | [] => .error .escapeUnexpectedEnd
  | c :: cs =>
    if c.isDigit then .error .backreference
    else if c = 'x' then readHex spaced 2 cs
    else if c = 'u' then readHex spaced 4 cs
    else if c = 'U' then readHex spaced 8 cs
    else if c = 'p' then readProperty spaced false cs
    else if c = 'P' then readProperty spaced true cs
    else if c = 'd' then .ok (.set (.shorthand .digit), cs)
    else if c = 's' then .ok (.set (.shorthand .space), cs)
    else if c = 'w' then .ok (.set (.shorthand .word), cs)
    else if c = 'D' then .ok (.set (.complement (.shorthand .digit)), cs)
    else if c = 'S' then .ok (.set (.complement (.shorthand .space)), cs)
    else if c = 'W' then .ok (.set (.complement (.shorthand .word)), cs)
    else if isEscapable c then .ok (.char c, cs)
    else if c = 'a' then .ok (.char '\x07', cs)
    else if c = 'f' then .ok (.char '\x0c', cs)
    else if c = 't' then .ok (.char '\t', cs)
    else if c = 'n' then .ok (.char '\n', cs)
    else if c = 'r' then .ok (.char '\r', cs)
    else if c = 'v' then .ok (.char '\x0b', cs)
    else if c = 'b' then readWordBoundary spaced cs
    else if ['A', 'z', 'B', '<', '>'].contains c then .ok (.place, cs)
    else .error .escapeUnrecognized

end PegKit.CharClass.Pattern
