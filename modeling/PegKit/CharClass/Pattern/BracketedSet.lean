import PegKit.CharClass.Pattern.Escape

/-!
# Bracketed sets

Brackets list members, nest, and join sets by doubled marks. They are read with the levels still
open held on a stack. The main function is `Pattern.readSet`.
-/

namespace PegKit.CharClass

/-- A tree and how deep its brackets, groups and other composites nest. -/
structure Nested (α : Type) where
  value : α
  depth : Nat

namespace Pattern

inductive SetOperator
  | intersection | difference | symmetricDifference

def SetOperator.apply : SetOperator → ClassSet → ClassSet → ClassSet
  | .intersection => .intersection
  | .difference => .difference
  | .symmetricDifference => .symmetricDifference

/-- The doubled character that `c` and its follower may be. -/
def setOperator? (c : Char) : List Char → Option SetOperator
  | [] => none
  | d :: _ =>
    if c ≠ d then none
    else if c = '&' then some .intersection
    else if c = '-' then some .difference
    else if c = '~' then some .symmetricDifference
    else none

/-- The members listed so far at one level of brackets. -/
structure Members where
  set : ClassSet
  count : Nat
  depth : Nat

namespace Members

def none : Members := ⟨.empty, 0, 0⟩

def add (members : Members) (set : ClassSet) (depth : Nat) : Members :=
  ⟨.union members.set set, members.count + 1, max members.depth depth⟩

/-- The members as one set; a list of several is one level deeper. -/
def close (members : Members) : Nested ClassSet :=
  ⟨members.set, if members.count ≤ 1 then members.depth else members.depth + 1⟩

end Members

/-- A pair of brackets that is still open. -/
structure Level where
  negated : Bool
  /-- A left side and the operator after it. -/
  pending : Option (Nested ClassSet × SetOperator)
  members : Members

namespace Level

/-- The set written so far at this level: operators of one level group to the left. -/
def current (level : Level) : Nested ClassSet :=
  let right := level.members.close
  match level.pending with
  | none => right
  | some (left, operator) =>
    ⟨operator.apply left.value right.value, max left.depth right.depth + 1⟩

def operate (level : Level) (operator : SetOperator) : Level :=
  { level with pending := some (level.current, operator), members := .none }

def add (level : Level) (set : ClassSet) (depth : Nat) : Level :=
  { level with members := level.members.add set depth }

/-- The set between the brackets, with the brackets one level deeper. -/
def close (level : Level) : Nested ClassSet :=
  let set := level.current
  ⟨if level.negated then .complement set.value else set.value, set.depth + 1⟩

end Level

def literalSet (literal : Literal) : ClassSet :=
  .range literal literal

/-- What may stand first between brackets: a caret, then dashes or one closing bracket, which are
members there. -/
def readOpening (spaced : Bool) (cs : List Char) : Except PatternError (Level × List Char) := do
  let cs := skipSpace spaced cs
  let negated := cs.head? == some '^'
  let (dashes, rest) := takeSpaced spaced (· == '-') false (if negated then cs.tail else cs)
  let members := dashes.foldl (fun members c ↦ members.add (literalSet ⟨c, false⟩) 0) .none
  let level : Level := ⟨negated, none, members⟩
  match rest with
  | [] => throw .classUnclosed
  | c :: after =>
    if c = ']' && dashes.isEmpty then
      let after := skipSpace spaced after
      if after.isEmpty then throw .classUnclosed
      return (level.add (literalSet ⟨c, false⟩) 0, after)
    return (level, rest)

def asciiSet? (name : String) : Option AsciiSet :=
  [("alnum", AsciiSet.alnum), ("alpha", .alpha), ("ascii", .ascii), ("blank", .blank),
    ("cntrl", .cntrl), ("digit", .digit), ("graph", .graph), ("lower", .lower), ("print", .print),
    ("punct", .punct), ("space", .space), ("upper", .upper), ("word", .word),
    ("xdigit", .xdigit)].lookup name

/-- A named ASCII set, after its opening bracket: the name between colons, with a caret for the
complement. -/
def asciiMember? (cs : List Char) : Option (ClassSet × List Char) := do
  guard (cs.head? == some ':')
  let negated := cs.tail.head? == some '^'
  let named := if negated then cs.tail.tail else cs.tail
  let members ← asciiSet? (String.ofList (named.takeWhile (· != ':')))
  match named.dropWhile (· != ':') with
  | ':' :: ']' :: rest =>
    some (if negated then .complement (.ascii members) else .ascii members, rest)
  | _ => none

/-- One end of a range, or a member by itself. -/
def readMember (spaced : Bool) : List Char → Except PatternError (Primitive × List Char)
  | [] => .error .classUnclosed
  | c :: cs => if c = '\\' then readEscape spaced cs else .ok (.char c, cs)

def Primitive.toSet : Primitive → Except PatternError ClassSet
  | .literal written => .ok (literalSet written)
  | .set members => .ok members
  | .dot => .error .classEscapeInvalid
  | .place => .error .classEscapeInvalid

def Primitive.toEnd : Primitive → Except PatternError Literal
  | .literal written => .ok written
  | _ => .error .classRangeLiteral

/-- A member or a range of characters. A dash before a closing bracket or another dash makes no
range. -/
def readRange (spaced : Bool) (cs : List Char) : Except PatternError (ClassSet × List Char) := do
  let (start, rest) ← readMember spaced cs
  match skipSpace spaced rest with
  | [] => throw .classUnclosed
  | c :: after =>
    let follower := afterDash spaced after
    if c ≠ '-' || follower == some ']' || follower == some '-' then
      return (← start.toSet, c :: after)
    let (stop, rest) ← readMember spaced (skipSpace spaced after)
    let first ← start.toEnd
    let last ← stop.toEnd
    if last.char < first.char then throw .classRangeInvalid
    return (.range first last, rest)

/-- The rest of a set whose innermost open brackets are `level`, inside those of `outer`. Each step
reads at least one character, so `fuel` is the length of the text. -/
def readLevels (spaced : Bool) (fuel : Nat) (level : Level) (outer : List Level) (cs : List Char) :
    Except PatternError (Nested ClassSet × List Char) :=
  match fuel, skipSpace spaced cs with
  | 0, _ => .error .classUnclosed
  | _ + 1, [] => .error .classUnclosed
  | fuel + 1, c :: rest =>
    if c = '[' then
      match asciiMember? rest with
      | some (members, rest) => readLevels spaced fuel (level.add members 0) outer rest
      | none => do
        let (inner, rest) ← readOpening spaced rest
        readLevels spaced fuel inner (level :: outer) rest
    else if c = ']' then
      match outer with
      | [] => .ok (level.close, rest)
      | enclosing :: outer =>
        readLevels spaced fuel (enclosing.add level.close.value level.close.depth) outer rest
    else
      match setOperator? c rest with
      | some operator => readLevels spaced fuel (level.operate operator) outer rest.tail
      | none => do
        let (members, rest) ← readRange spaced (c :: rest)
        readLevels spaced fuel (level.add members 0) outer rest

/-- A bracketed set, after its opening bracket. -/
def readSet (spaced : Bool) (cs : List Char) :
    Except PatternError (Nested ClassSet × List Char) := do
  let (level, rest) ← readOpening spaced cs
  readLevels spaced (rest.length + 1) level [] rest

end Pattern

end PegKit.CharClass
