import PegKit.Snippet.SourceLine

/-!
# Marks

What is drawn at the lines of a snippet. A span on one line is one mark. A span over several lines
is a mark where it opens and one where it closes, joined by a bar left of the code; bars that would
meet get different depths, and so columns of their own. Of a long span only the first lines and the
last one are shown.
-/

namespace PegKit.Snippet

/-- A span to be marked. The primary one says where a report is about. -/
structure Highlight where
  span : Text.Span
  primary : Bool
  label : Option String
  deriving DecidableEq, Repr

inductive MarkShape
  /-- A span on one line. -/
  | single
  /-- The first line of a span over several lines. -/
  | opening (depth : Nat)
  /-- A line inside such a span, which only the bar passes. -/
  | passing (depth : Nat)
  /-- The last line of such a span. -/
  | closing (depth : Nat)
  deriving DecidableEq, Repr

structure Mark where
  start : Place
  stop : Place
  primary : Bool
  label : Option String
  shape : MarkShape
  deriving DecidableEq, Repr

namespace Mark

def hasLabel (mark : Mark) : Bool :=
  mark.label.any fun text ↦ text ≠ ""

/-- Whether a line runs from the mark to the bar of its span. -/
def reachesBar (mark : Mark) : Bool :=
  match mark.shape with
  | .opening _ => true
  | .closing _ => true
  | .single => false
  | .passing _ => false

def isPassing (mark : Mark) : Bool :=
  match mark.shape with
  | .passing _ => true
  | _ => false

def isOpening (mark : Mark) : Bool :=
  match mark.shape with
  | .opening _ => true
  | _ => false

/-- The columns between both ends. -/
def width (mark : Mark) : Nat :=
  (mark.stop.column - mark.start.column) + (mark.start.column - mark.stop.column)

end Mark

/-- Whether one of two intervals starts inside the other. -/
def meets (start stop otherStart otherStop : Nat) : Bool :=
  (otherStart ≤ start && start < otherStop) || (start ≤ otherStart && otherStart < stop)

/-- Whether two marks share columns when `first` is made wider by `padding`. -/
def Mark.overlaps (first second : Mark) (padding : Nat) : Bool :=
  meets first.start.column (first.stop.column + padding) second.start.column second.stop.column

/-- A span over several lines. -/
structure Stretch where
  start : Place
  stop : Place
  primary : Bool
  label : Option String
  /-- The column of its bar, counted from one. -/
  depth : Nat
  /-- Whether another stretch has the same ends. -/
  twinned : Bool
  deriving DecidableEq, Repr

namespace Stretch

def sameEnds (a b : Stretch) : Bool := a.start == b.start && a.stop == b.stop

/-- Whether two stretches have a line in common. -/
def sharesLine (a b : Stretch) : Bool :=
  meets a.start.line (a.stop.line + 1) b.start.line (b.stop.line + 1)

/-- Moves the others that share a line with `stretch`, at place `outer`, one column on, up to the
first one that does not. -/
def makeRoom (stretch : Stretch) (outer : Nat) (primaries : List (Place × Place)) :
    Nat → List Stretch → List Stretch
  | _, [] => []
  | inner, other :: rest =>
    if !stretch.sameEnds other && stretch.sharesLine other then
      { other with depth := other.depth + 1 } :: makeRoom stretch outer primaries (inner + 1) rest
    else if stretch.sameEnds other && outer ≠ inner then
      { other with twinned := true } :: makeRoom stretch outer primaries (inner + 1) rest
    else
      { other with primary := other.primary || primaries.contains (other.start, other.stop) } ::
        rest

/-- By first line, and of those with one first line the longest first. -/
def precedes (a b : Stretch) : Bool :=
  a.start.line < b.start.line || (a.start.line == b.start.line && b.stop.line ≤ a.stop.line)

/-- Gives each stretch the depth of its bar. Returns the depths in use as well. -/
def arrange (stretches : List Stretch) : Nat × List Stretch :=
  let sorted := stretches.mergeSort precedes
  let moved := sorted.zipIdx.foldl (fun moved entry ↦
    let primaries := ((sorted.take (entry.2 + 1)).filter (·.primary)).map fun s ↦ (s.start, s.stop)
    makeRoom entry.1 entry.2 primaries 0 moved) sorted
  let deepest := (moved.map (·.depth)).foldl max 0
  (deepest, moved.map fun stretch ↦ { stretch with depth := deepest - stretch.depth + 1 })

def opening (stretch : Stretch) : Mark :=
  let start := stretch.start
  ⟨start, ⟨start.line, start.char + 1, start.column + 1, start.byte + 1⟩, stretch.primary, none,
    .opening stretch.depth⟩

def passing (stretch : Stretch) : Mark :=
  ⟨default, default, stretch.primary, none, .passing stretch.depth⟩

def closing (stretch : Stretch) : Mark :=
  let stop := stretch.stop
  ⟨⟨stop.line, stop.char - 1, stop.column - 1, stop.byte - 1⟩, stop, stretch.primary, stretch.label,
    if stretch.twinned then .single else .closing stretch.depth⟩

/-- Whether a line has more on it than blanks, a line comment or one bracket. -/
def isTelling (line : List Char) : Bool :=
  let text := Unicode.trimBlanks line
  let isComment := "//".toList.isPrefixOf text &&
    !("///".toList.isPrefixOf text || "//!".toList.isPrefixOf text)
  !isComment && !text.isEmpty &&
    !(text.length == 1 && ['{', '}', '(', ')', '[', ']'].contains (text.headD ' '))

def isTellingLine (lines : List SourceLine) (number : Nat) : Bool :=
  (lines.find? (·.number == number)).any fun line ↦ isTelling line.text

/-- The inner lines of a stretch that are shown: up to three at its start, up to the last telling
one of them, and the one before its last line if it is telling and further down. -/
def innerLines (lines : List SourceLine) (stretch : Stretch) : List Nat :=
  let first := stretch.start.line
  let middle := min (first + 4) stretch.stop.line
  let candidates := (List.range' first (middle - first)).reverse
  let shownUpTo := match candidates.find? (isTellingLine lines) with
    | some line => line + 1
    | none => first
  let beforeLast := stretch.stop.line - 1
  List.range' (first + 1) (shownUpTo - (first + 1)) ++
    (if middle < beforeLast && isTellingLine lines beforeLast then [beforeLast] else [])

def marks (lines : List SourceLine) (stretch : Stretch) : List (Nat × Mark) :=
  (if stretch.twinned then []
    else (stretch.start.line, stretch.opening) ::
      (stretch.innerLines lines).map fun line ↦ (line, stretch.passing)) ++
    [(stretch.stop.line, stretch.closing)]

end Stretch

structure MarkedLine where
  line : SourceLine
  marks : List Mark
  deriving DecidableEq, Repr

namespace MarkedLine

/-- The mark of a highlight on one line, or the stretch of one over several. -/
def split (lines : List SourceLine) (highlight : Highlight) : (Nat × Mark) ⊕ Stretch :=
  let (start, stop) := Place.ofSpan lines highlight.span
  if start.line = stop.line then
    .inl (start.line, ⟨start, stop, highlight.primary, highlight.label, .single⟩)
  else .inr ⟨start, stop, highlight.primary, highlight.label, 1, false⟩

/-- The lines with marks, and how many columns the bars take. -/
def ofHighlights (lines : List SourceLine) (highlights : List Highlight) :
    Nat × List MarkedLine :=
  let parts := highlights.map (split lines)
  let (depth, stretches) := Stretch.arrange (parts.filterMap fun
    | .inr stretch => some stretch
    | .inl _ => none)
  let marks := parts.filterMap (fun
    | .inl mark => some mark
    | .inr _ => none) ++ stretches.flatMap (Stretch.marks lines)
  (depth, (lines.map fun line ↦
    ⟨line, (marks.filter (·.1 == line.number)).map (·.2)⟩).filter fun line ↦ !line.marks.isEmpty)

end MarkedLine

end PegKit.Snippet
