import PegKit.CharClass.Pattern.BracketedSet
import PegKit.Unicode.Alphanumeric

/-!
# Reading patterns

From the text of a pattern to its tree. Groups nest and are read with those still open held on a
stack, each with the spacing that holds outside it. The main function is `Pattern.read`.
-/

namespace PegKit.CharClass.Pattern

/-- The deepest nesting a pattern may have. -/
def nestingLimit : Nat := 250

/-! ## Counted repetitions -/

/-- Blanks, a decimal number, blanks. The number may be missing or too large. -/
def readDecimal (spaced : Bool) (cs : List Char) : Except PatternError Nat × List Char :=
  let (digits, rest) := takeSpaced spaced Char.isDigit false (cs.dropWhile Unicode.isBlank)
  let value := digits.foldl (fun n d ↦ 10 * n + (d.toNat - '0'.toNat)) 0
  let number :=
    if digits.isEmpty then .error .repetitionCountDecimalEmpty
    else if value ≤ 0xFFFFFFFF then .ok value
    else .error .decimalInvalid
  (number, rest.dropWhile Unicode.isBlank)

/-- The bounds of a counted repetition, after its opening brace. That a bound is no number matters
only once what follows it is known to go on. -/
def readBounds (spaced : Bool) (cs : List Char) :
    Except PatternError ((Nat × Option Nat) × List Char) := do
  let cs := skipSpace spaced cs
  if cs.isEmpty then throw .repetitionCountUnclosed
  let (least, rest) := readDecimal spaced cs
  if rest.isEmpty then throw .repetitionCountUnclosed
  let (bounds, rest) ←
    if rest.head? == some ',' then
      let rest := skipSpace spaced rest.tail
      if rest.isEmpty then throw .repetitionCountUnclosed
      else if rest.head? == some '}' then pure ((← least, none), rest)
      else do
        let least ← least
        let (most, rest) := readDecimal spaced rest
        pure ((least, some (← most)), rest)
    else do
      let exact ← least
      pure ((exact, some exact), rest)
  if rest.head? ≠ some '}' then throw .repetitionCountUnclosed
  if bounds.2.any (· < bounds.1) then throw .repetitionCountInvalid
  return (bounds, skipSpace spaced rest.tail)

/-- The rest after a mark that makes a repetition lazy, if it stands there. -/
def skipLazyMark (cs : List Char) : List Char :=
  if cs.head? == some '?' then cs.tail else cs

/-! ## Flags -/

def flag? (c : Char) : Option Flag :=
  [('i', Flag.caseless), ('m', .multiLine), ('s', .dotAll), ('U', .swapGreed), ('u', .unicode),
    ('R', .crlf), ('x', .spaced)].lookup c

/-- The changes that `letters` write: those before the dash set their flags, those after it clear
them. -/
def flagChanges (letters : List Char) : FlagChanges :=
  let changes (value : Bool) (letters : List Char) : FlagChanges :=
    (letters.filterMap flag?).map (·, value)
  changes true (letters.takeWhile (· != '-')) ++ changes false (letters.dropWhile (· != '-'))

/-- Flags up to the colon or parenthesis that ends them, which is returned first. -/
def readFlags (seen : List Char) :
    List Char → Except PatternError ((Char × FlagChanges) × List Char)
  | [] => .error .flagUnexpectedEnd
  | c :: cs =>
    if c = ':' || c = ')' then
      if seen.head? == some '-' then .error .flagDanglingNegation
      else .ok ((c, flagChanges seen.reverse), cs)
    else if c = '-' then
      if seen.contains '-' then .error .flagRepeatedNegation else readFlags (c :: seen) cs
    else if (flag? c).isSome then
      if seen.contains c then .error .flagDuplicate else readFlags (c :: seen) cs
    else .error .flagUnrecognized

def spacedAfter (changes : FlagChanges) (spaced : Bool) : Bool :=
  (changes.lookup .spaced).getD spaced

/-! ## Groups -/

def isNameChar (first : Bool) (c : Char) : Bool :=
  c == '_' ||
    if first then Unicode.isAlphabetic c
    else Unicode.isAlphanumeric c || ['.', '[', ']'].contains c

/-- The name of a group, up to the closing angle bracket. -/
def readGroupName (names : List (List Char)) (cs : List Char) :
    Except PatternError (List Char × List Char) :=
  let name := cs.takeWhile (· != '>')
  let isValid := match name with
    | [] => true
    | c :: rest => isNameChar true c && rest.all (isNameChar false)
  if cs.isEmpty then .error .groupNameUnexpectedEnd
  else if !isValid then .error .groupNameInvalid
  else
    match cs.dropWhile (· != '>') with
    | [] => .error .groupNameUnexpectedEnd
    | _ :: rest =>
      if name.isEmpty then .error .groupNameEmpty
      else if names.contains name then .error .groupNameDuplicate
      else .ok (name, rest)

/-- How what a parenthesis opens goes on. -/
inductive Opening
  | flags (changes : FlagChanges)
  | capture (name : Option (List Char))
  | group (changes : FlagChanges)

/-- What follows an opening parenthesis. -/
def readOpeningMark (names : List (List Char)) (cs : List Char) :
    Except PatternError (Opening × List Char) :=
  let named (rest : List Char) : Except PatternError (Opening × List Char) := do
    let (name, rest) ← readGroupName names rest
    return (.capture (some name), rest)
  match cs with
  | '?' :: '=' :: _ => .error .lookAround
  | '?' :: '!' :: _ => .error .lookAround
  | '?' :: '<' :: '=' :: _ => .error .lookAround
  | '?' :: '<' :: '!' :: _ => .error .lookAround
  | '?' :: 'P' :: '<' :: rest => named rest
  | '?' :: '<' :: rest => named rest
  | '?' :: [] => .error .groupUnclosed
  | '?' :: rest => do
    let ((stop, changes), rest) ← readFlags [] rest
    if stop = ':' then return (.group changes, rest)
    if changes.isEmpty then throw .repetitionMissing
    return (.flags changes, rest)
  | _ => .ok (.capture none, cs)

/-- Alternatives and items read so far at one level of grouping, the latest first. -/
structure Branches where
  finished : List (Nested Pattern)
  items : List (Nested Pattern)

namespace Branches

def none : Branches := ⟨[], []⟩

def add (branches : Branches) (item : Pattern) (depth : Nat) : Branches :=
  { branches with items := ⟨item, depth⟩ :: branches.items }

/-- Several patterns joined by `join`; one alone stays as it is. -/
def joined (join : Pattern → Pattern → Pattern) : List (Nested Pattern) → Nested Pattern
  | [] => ⟨.empty, 0⟩
  | [only] => only
  | last :: earlier =>
    ⟨earlier.foldl (fun right left ↦ join left.value right) last.value,
      earlier.foldl (fun depth item ↦ max depth item.depth) last.depth + 1⟩

def alternative (branches : Branches) : Nested Pattern :=
  joined .sequence branches.items

def divide (branches : Branches) : Branches :=
  ⟨branches.alternative :: branches.finished, []⟩

def close (branches : Branches) : Nested Pattern :=
  joined .choice (branches.alternative :: branches.finished)

end Branches

structure OpenGroup where
  /-- The flags that differ inside, or none for a group that captures. -/
  changes : Option FlagChanges
  /-- Whether the pattern is spaced out before the group and after it. -/
  spaced : Bool
  /-- What stands before the group. -/
  before : Branches

/-- What stands before the group, and then the group around `body`. -/
def OpenGroup.close (opened : OpenGroup) (body : Nested Pattern) : Branches :=
  let group := match opened.changes with
    | none => Pattern.capture body.value
    | some changes => Pattern.group changes body.value
  opened.before.add group (body.depth + 1)

/-- The item before a repetition mark, and what stands before that item. -/
def repeatable (branches : Branches) : Except PatternError (Nested Pattern × Branches) :=
  match branches.items with
  | [] => .error .repetitionMissing
  | ⟨.flags _, _⟩ :: _ => .error .repetitionMissing
  | item :: items => .ok (item, { branches with items := items })

def Primitive.toPattern : Primitive → Pattern
  | .literal written => .literal written
  | .dot => .dot
  | .place => .place
  | .set members => .set members

/-- The rest of a pattern inside the open groups of `outer`. Each step reads at least one character,
so `fuel` is the length of the text. -/
def readGroups (fuel : Nat) (spaced : Bool) (names : List (List Char)) (branches : Branches)
    (outer : List OpenGroup) (cs : List Char) : Except PatternError (Nested Pattern) :=
  match fuel, skipSpace spaced cs with
  | 0, _ => .error .groupUnclosed
  | _ + 1, [] => if outer.isEmpty then .ok branches.close else .error .groupUnclosed
  | fuel + 1, c :: rest => do
    let repeated (least : Nat) (most : Option Nat) (rest : List Char) := do
      let (item, branches) ← repeatable branches
      let repetition := Pattern.repeated item.value least most
      readGroups fuel spaced names (branches.add repetition (item.depth + 1)) outer
        (skipLazyMark rest)
    if c = '(' then
      match ← readOpeningMark names (skipSpace spaced rest) with
      | (.flags changes, rest) =>
        readGroups fuel (spacedAfter changes spaced) names (branches.add (.flags changes) 0) outer
          rest
      | (.capture name, rest) =>
        readGroups fuel spaced (name.toList ++ names) .none (⟨none, spaced, branches⟩ :: outer) rest
      | (.group changes, rest) =>
        readGroups fuel (spacedAfter changes spaced) names .none
          (⟨some changes, spaced, branches⟩ :: outer) rest
    else if c = ')' then
      match outer with
      | [] => throw .groupUnopened
      | opened :: outer =>
        readGroups fuel opened.spaced names (opened.close branches.close) outer rest
    else if c = '|' then readGroups fuel spaced names branches.divide outer rest
    else if c = '[' then
      let (members, rest) ← readSet spaced rest
      readGroups fuel spaced names (branches.add (.set members.value) members.depth) outer rest
    else if c = '?' then repeated 0 (some 1) rest
    else if c = '*' then repeated 0 none rest
    else if c = '+' then repeated 1 none rest
    else if c = '{' then
      let _ ← repeatable branches
      let ((least, most), rest) ← readBounds spaced rest
      repeated least most rest
    else if c = '\\' then
      let (item, rest) ← readEscape spaced rest
      readGroups fuel spaced names (branches.add item.toPattern 0) outer rest
    else if c = '.' then readGroups fuel spaced names (branches.add .dot 0) outer rest
    else if c = '^' || c = '$' then
      readGroups fuel spaced names (branches.add .place 0) outer rest
    else readGroups fuel spaced names (branches.add (.literal ⟨c, false⟩) 0) outer rest

/-- The pattern written `cs`. -/
def read (cs : List Char) : Except PatternError Pattern := do
  let pattern ← readGroups (cs.length + 1) false [] .none [] cs
  if nestingLimit < pattern.depth then throw (.nestingTooDeep nestingLimit)
  return pattern.value

end PegKit.CharClass.Pattern
