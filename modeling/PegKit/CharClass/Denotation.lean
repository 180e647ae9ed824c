import PegKit.CharClass.PropertyName
import PegKit.Unicode.Word

/-!
# What a pattern denotes

A bracketed set denotes a set of characters. A pattern that comes down to one set, or to one fixed
text, stands for the set of its characters; every other pattern is beyond what a class can say.
Flags hold from where they are set to the end of their group.
-/

namespace PegKit.CharClass

open PegKit.Unicode (RangeTable)

def AsciiSet.ranges : AsciiSet → RangeTable
  | .alnum => [(0x30, 0x39), (0x41, 0x5A), (0x61, 0x7A)]
  | .alpha => [(0x41, 0x5A), (0x61, 0x7A)]
  | .ascii => [(0x00, 0x7F)]
  | .blank => [(0x09, 0x09), (0x20, 0x20)]
  | .cntrl => [(0x00, 0x1F), (0x7F, 0x7F)]
  | .digit => [(0x30, 0x39)]
  | .graph => [(0x21, 0x7E)]
  | .lower => [(0x61, 0x7A)]
  | .print => [(0x20, 0x7E)]
  | .punct => [(0x21, 0x2F), (0x3A, 0x40), (0x5B, 0x60), (0x7B, 0x7E)]
  | .space => [(0x09, 0x0D), (0x20, 0x20)]
  | .upper => [(0x41, 0x5A)]
  | .word => [(0x30, 0x39), (0x41, 0x5A), (0x5F, 0x5F), (0x61, 0x7A)]
  | .xdigit => [(0x30, 0x39), (0x41, 0x46), (0x61, 0x66)]

namespace Shorthand

def ranges : Shorthand → RangeTable
  | .digit => Unicode.digitRanges
  | .space => Unicode.blankRanges
  | .word => Unicode.wordRanges

/-- What the shorthand stands for in patterns of bytes. -/
def asciiRanges : Shorthand → RangeTable
  | .digit => AsciiSet.ranges .digit
  | .space => AsciiSet.ranges .space
  | .word => AsciiSet.ranges .word

end Shorthand

/-- The flags that bear on what a pattern denotes. -/
structure Modes where
  caseless : Bool
  dotAll : Bool
  crlf : Bool
  unicode : Bool
  deriving DecidableEq, Repr

namespace Modes

/-- The modes at the start of a pattern. -/
def initial : Modes :=
  ⟨false, false, false, true⟩

def change (modes : Modes) : Flag × Bool → Modes
  | (.caseless, value) => { modes with caseless := value }
  | (.dotAll, value) => { modes with dotAll := value }
  | (.crlf, value) => { modes with crlf := value }
  | (.unicode, value) => { modes with unicode := value }
  | (.multiLine, _) => modes
  | (.swapGreed, _) => modes
  | (.spaced, _) => modes

def changeAll (modes : Modes) (changes : FlagChanges) : Modes :=
  changes.foldl change modes

/-- The set that `table` stands for: in caseless patterns with the other cases of its letters. -/
def caseClosed (modes : Modes) (table : RangeTable) : RangeTable :=
  if !modes.caseless then table
  else table.closeUnder (if modes.unicode then Unicode.foldings else Unicode.asciiFoldings)

/-- The set of the other characters. In patterns of bytes it would hold parts of characters. -/
def complemented (modes : Modes) (table : RangeTable) : Except PatternError RangeTable :=
  if modes.unicode then .ok table.complement else .error .invalidUtf8

/-- The code point of a member of a bracketed set. Patterns of bytes have ASCII members only. -/
def memberCode (modes : Modes) (member : Literal) : Except PatternError Nat :=
  if modes.unicode || member.char.toNat < 0x80 then .ok member.char.toNat
  else .error (if member.byte then .invalidUtf8 else .unicodeNotAllowed)

end Modes

/-- The characters of a set. What lists or joins members is in normal form, what leaves them out
need not be. -/
def ClassSet.codes (modes : Modes) : ClassSet → Except PatternError RangeTable
  | .empty => .ok []
  | .range first last => do
    let first ← modes.memberCode first
    let last ← modes.memberCode last
    return modes.caseClosed [(first, last)]
  | .ascii set => .ok (modes.caseClosed set.ranges)
  | .shorthand set => .ok (if modes.unicode then set.ranges else set.asciiRanges)
  | .property name => do
    unless modes.unicode do throw .unicodeNotAllowed
    return modes.caseClosed (← name.ranges)
  | .union left right => do
    let left ← left.codes modes
    let right ← right.codes modes
    return left.union right
  | .intersection left right => do
    let left ← left.codes modes
    let right ← right.codes modes
    return .normalize (left.intersection right)
  | .difference left right => do
    let left ← left.codes modes
    let right ← right.codes modes
    return .normalize (left.difference right)
  | .symmetricDifference left right => do
    let left ← left.codes modes
    let right ← right.codes modes
    return .normalize (left.symmetricDifference right)
  | .complement set => do modes.complemented (← set.codes modes)

/-- What a pattern comes down to. -/
inductive Shape
  /-- One fixed text. -/
  | text (cs : List Char)
  /-- One character out of several. -/
  | set (codes : RangeTable)
  /-- One byte out of several ASCII ones, or out of none. -/
  | bytes (codes : RangeTable)
  | other

namespace Shape

/-- The shape of one character out of `codes`, which are bytes unless `unicode` holds. -/
def ofCodes (unicode : Bool) (codes : RangeTable) : Shape :=
  let several : Shape := if unicode then .set codes else .bytes codes
  match codes with
  | [] => .bytes []
  | [(first, last)] => if first = last then .text [Char.ofNat first] else several
  | _ => several

def sequence : Shape → Shape → Shape
  | .text cs, .text ds => .text (cs ++ ds)
  | .text [], right => right
  | left, .text [] => left
  | _, _ => .other

def letter? : Shape → Option (Nat × Nat)
  | .text [c] => some (c.toNat, c.toNat)
  | _ => none

def members? : Shape → Option RangeTable
  | .set codes => some codes
  | .bytes codes => some codes
  | _ => none

/-- The shape of a choice. Several branches come down to a set if all are single characters, or if
all are sets. -/
def ofBranches (branches : List Shape) : Shape :=
  match branches with
  | [only] => only
  | _ =>
    match branches.mapM letter?, branches.mapM members? with
    | some letters, _ => ofCodes true (.normalize letters)
    | none, some sets => ofCodes true (.normalize sets.flatten)
    | none, none => .other

/-- A text repeated exactly once is itself, and nothing is left of one repeated exactly zero times.
Repeating the empty text beyond once adds nothing. -/
def repeated (body : Shape) (least : Nat) (most : Option Nat) : Shape :=
  let isEmpty := match body with
    | .text [] => true
    | _ => false
  let least := if isEmpty then min least 1 else least
  let most := if isEmpty then some (min (most.getD 1) 1) else most
  if least = 0 ∧ most = some 0 then .text []
  else if least = 1 ∧ most = some 1 then body
  else .other

end Shape

namespace Modes

/-- The shape of a character that stands for itself. -/
def literalShape (modes : Modes) (written : Literal) : Except PatternError Shape :=
  let c := written.char
  let codes := modes.caseClosed [(c.toNat, c.toNat)]
  if !modes.unicode && written.byte && 0x80 ≤ c.toNat then .error .invalidUtf8
  else if codes = [(c.toNat, c.toNat)] then .ok (.text [c])
  else .ok (.ofCodes modes.unicode codes)

/-- The shape of a dot. In patterns of bytes it would match parts of characters. -/
def dotShape (modes : Modes) : Except PatternError Shape :=
  if !modes.unicode then .error .invalidUtf8
  else if modes.dotAll then .ok (.set [(0, 0x10FFFF)])
  else if modes.crlf then .ok (.set (RangeTable.complement [(0x0A, 0x0A), (0x0D, 0x0D)]))
  else .ok (.set (RangeTable.complement [(0x0A, 0x0A)]))

end Modes

namespace Pattern

/-- The shapes of the branches of a pattern, which is one branch unless it is a choice, and the
modes after it. -/
def branches (modes : Modes) : Pattern → Except PatternError (List Shape × Modes)
  | .empty => .ok ([.text []], modes)
  | .flags changes => .ok ([.text []], modes.changeAll changes)
  | .literal written => return ([← modes.literalShape written], modes)
  | .dot => return ([← modes.dotShape], modes)
  | .place => .ok ([.other], modes)
  | .set members => return ([.ofCodes modes.unicode (← members.codes modes)], modes)
  | .capture body => do
    let _ ← body.branches modes
    return ([.other], modes)
  | .group changes body => do
    let (inside, _) ← body.branches (modes.changeAll changes)
    return ([.ofBranches inside], modes)
  | .repeated body least most => do
    let (inside, modes) ← body.branches modes
    return ([(Shape.ofBranches inside).repeated least most], modes)
  | .sequence left right => do
    let (first, modes) ← left.branches modes
    let (second, modes) ← right.branches modes
    return ([.sequence (.ofBranches first) (.ofBranches second)], modes)
  | .choice left right => do
    let (first, modes) ← left.branches modes
    let (others, modes) ← right.branches modes
    return (first ++ others, modes)

/-- What a pattern comes down to. -/
def shape (pattern : Pattern) : Except PatternError Shape :=
  return .ofBranches (← pattern.branches .initial).1

end Pattern

end PegKit.CharClass
