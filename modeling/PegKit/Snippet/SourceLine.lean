import PegKit.Text.Offset
import PegKit.Text.Span
import PegKit.Unicode.Blank
import PegKit.Unicode.Width

/-!
# Lines of a source

The lines that a snippet shows, and where in them an offset lies. Positions count terminal columns:
a tab takes four, a wide character two, and a control is shown as a picture of itself.
-/

namespace PegKit.Snippet

/-- Whether `c` turns the direction of text. -/
def isDirectional (c : Char) : Bool :=
  (0x202A ≤ c.toNat && c.toNat ≤ 0x202E) || (0x2066 ≤ c.toNat && c.toNat ≤ 0x2069)

def shown (c : Char) : List Char :=
  if c = '\t' then List.replicate 4 ' '
  else if c = '\n' then [c]
  else if c.toNat < 0x20 then [Char.ofNat (0x2400 + c.toNat)]
  else if c.toNat = 0x7F then [Char.ofNat 0x2421]
  else if c.toNat = 0x200D then []
  else if isDirectional c then [Char.ofNat 0xFFFD]
  else [c]

/-- The columns that what is shown for `c` takes. -/
def shownWidth (c : Char) : Nat :=
  if c = '\t' then 4 else if isDirectional c then 1 else Unicode.columns c

structure SourceLine where
  /-- The number of the line, from one on. -/
  number : Nat
  /-- The line without its end. -/
  text : List Char
  /-- The offset of its first byte. -/
  start : Nat
  /-- The bytes of the line end. -/
  ending : Nat
  deriving DecidableEq, Repr, Inhabited

namespace SourceLine

/-- The offset after the text. -/
def textStop (line : SourceLine) : Nat := line.start + Text.byteLength line.text

def stop (line : SourceLine) : Nat := line.textStop + line.ending

/-- The line with `text` before its newline, which may be preceded by a carriage return. -/
def ended (number start : Nat) (text : List Char) : SourceLine :=
  if text.getLast? = some '\r' then ⟨number, text.dropLast, start, 2⟩ else ⟨number, text, start, 1⟩

/-- The lines of `cs`, the first of which has the characters `before` already, in reverse. -/
def linesFrom (number start : Nat) (before : List Char) : List Char → List SourceLine
  | [] => if before.isEmpty then [] else [⟨number, before.reverse, start, 0⟩]
  | c :: cs =>
    if c = '\n' then
      let line := ended number start before.reverse
      line :: linesFrom (number + 1) line.stop [] cs
    else linesFrom number start (c :: before) cs

/-- The lines of a text. The empty text has one empty line, and a newline at the end starts no
line. -/
def ofText (cs : List Char) : List SourceLine :=
  if cs.isEmpty then [⟨1, [], 0, 0⟩] else linesFrom 1 0 [] cs

/-- The line that byte `offset` is on; the last one for an offset past all of them. -/
def holding (lines : List SourceLine) (offset : Nat) : SourceLine :=
  (lines.find? fun line ↦ line.start ≤ offset && offset < line.stop).getD
    (lines.getLast?.getD default)

/-- The characters of a line before byte `offset` of the source. -/
def before (line : SourceLine) (offset : Nat) : List Char :=
  Text.slice line.text 0 (offset - line.start)

/-- The columns of blanks that the line starts with; none where it holds only blanks. -/
def indentation? (line : SourceLine) : Option Nat :=
  if line.text.all Unicode.isBlank then none
  else
    let blanks := line.text.takeWhile Unicode.isBlank
    some (blanks.foldl (fun n c ↦ n + if c = '\t' then 4 else 1) 0)

end SourceLine

/-- A place on a line. -/
structure Place where
  line : Nat
  /-- Characters before it on its line. -/
  char : Nat
  /-- Columns before it on its line. -/
  column : Nat
  byte : Nat
  deriving DecidableEq, Repr, Inhabited

namespace Place

/-- Where byte `offset` is, without regard to line ends. -/
def onLine (line : SourceLine) (offset : Nat) : Place :=
  let passed := line.before offset
  ⟨line.number, passed.length, passed.foldl (fun n c ↦ n + shownWidth c) 0, offset⟩

/-- Where a span starts. Inside a line end it is one character past the text. -/
def ofStart (lines : List SourceLine) (offset : Nat) : Place :=
  let line := SourceLine.holding lines offset
  let place := onLine line offset
  if line.textStop < offset then { place with char := place.char + 1 } else place

/-- Where a span that starts at `start` stops. Inside the end of a later line it is one column past
the text. -/
def ofStop (lines : List SourceLine) (start : Place) (offset : Nat) : Place :=
  let line := SourceLine.holding lines offset
  let place := onLine line offset
  if start.line ≠ line.number ∧ line.textStop < offset then
    { place with char := place.char + 1, column := place.column + 1 }
  else place

/-- Both ends of a span. A span that takes no column takes one. -/
def ofSpan (lines : List SourceLine) (span : Text.Span) : Place × Place :=
  let start := ofStart lines span.start
  let stop := if span.isEmpty then start else ofStop lines start span.stop
  if start.line = stop.line ∧ start.column = stop.column then
    (start, { stop with column := stop.column + 1 })
  else (start, stop)

end Place

end PegKit.Snippet
