import PegKit.Diagnostic
import PegKit.Snippet.Canvas
import PegKit.Snippet.Mark

/-!
# Snippets

A report drawn with the source lines it is about. Under a line stand the marks of its spans: carets
for the primary one and dashes for related ones, each label behind its mark where there is room, and
otherwise below it at the end of a vertical line. Spans over several lines are joined by bars left
of the code. Lines far from any mark are left out.
-/

namespace PegKit.Snippet

/-- What a snippet depends on besides the report. -/
structure Frame where
  /-- The columns of the longest line number. -/
  numberWidth : Nat
  /-- The columns of the bars. -/
  depth : Nat
  /-- The characters cut off the start of every line. -/
  cut : Nat
  deriving DecidableEq, Repr

namespace Frame

/-- The column before that of the outermost bar. -/
def barColumn (frame : Frame) : Nat := 3 + frame.numberWidth

def codeColumn (frame : Frame) : Nat :=
  if frame.depth = 0 then frame.barColumn else frame.barColumn + frame.depth + 1

/-- The column of the border between numbers and code. -/
def borderColumn (frame : Frame) : Nat := frame.barColumn - 2

def column (frame : Frame) (column : Nat) : Nat := frame.codeColumn + column - frame.cut

end Frame

/-- Rows that belong together, with the bars that start or end in them. -/
structure Block where
  height : Nat
  strokes : List Stroke
  /-- The depth of each bar and whether it is primary. -/
  bars : List (Nat × Bool)
  deriving DecidableEq, Repr

def markInk (primary : Bool) : Ink := if primary then .severity else .margin

def underline (primary : Bool) : Char := if primary then '^' else '-'

/-- The indentation that all marked lines share is cut down when it is more than this. -/
def widestIndentation : Nat := 26

/-- How much of the shared indentation is cut off. -/
def cutOf (lines : List MarkedLine) : Nat :=
  let shared := (lines.filterMap (·.line.indentation?)).min?.getD 0
  if widestIndentation < shared then shared - 22 else 0

/-- A source line with its number and the border. -/
def codeRow (frame : Frame) (line : SourceLine) : List Stroke :=
  let digits := (toString line.number).toList
  let code := (line.text.flatMap shown).drop frame.cut
  write 0 frame.codeColumn code .plain ++
    (if frame.cut = 0 then [] else write 0 frame.codeColumn "...".toList .margin) ++
    write 0 0 (List.replicate (frame.numberWidth - digits.length) ' ' ++ digits) .margin ++
    dot 0 frame.borderColumn '|' .margin

/-- Marks with the rows that their labels hang down. -/
abbrev Placed := List (Nat × Mark)

/-- Whether the label of `mark` has to leave the row of the underlines because of a mark left of it.
One without a label that covers the same columns is no obstacle. -/
def isCovered (mark : Mark) (later : List Mark) : Bool :=
  mark.hasLabel && later.any fun next ↦
    next.overlaps mark 0 &&
      !(next.start.column == mark.start.column && next.stop.column == mark.stop.column &&
        !next.hasLabel)

/-- Whether the marks left of `mark` have to hang one row lower than it. -/
def pushesDown (row : Nat) (mark : Mark) (later : List Mark) : Bool :=
  later.any fun next ↦
    let room := match next.label with
      | some text => text.utf8ByteSize + 2
      | none => 0
    (next.overlaps mark room && mark.hasLabel && next.hasLabel) ||
      (mark.reachesBar && next.hasLabel) || (mark.hasLabel && next.reachesBar) ||
      (mark.reachesBar && next.reachesBar) ||
      (next.overlaps mark room && next.stop.column ≤ mark.stop.column && next.hasLabel && row == 0)

/-- Places marks, the rightmost first. Returns the lowest row as well. -/
def place (row lowest : Nat) : List Mark → Nat × Placed
  | [] => (lowest, [])
  | mark :: later =>
    let own := if row = 0 && isCovered mark later then row + 1 else row
    let next := if pushesDown own mark later then own + 1 else own
    let (lowest, placed) := place next (max lowest next) later
    (lowest, (own, mark) :: placed)

/-- The marks of a line in their places, and the rows that hang below the underlines. -/
def arrange (marks : List Mark) : Nat × Placed :=
  let (lowest, placed) := place 0 0 (marks.mergeSort fun a b ↦ b.start.column ≤ a.start.column)
  let rows := if lowest = 0 then 0 else lowest + 1
  if marks.all Mark.isOpening then
    let last := (placed.map (·.1)).foldl max 0
    (rows - 1, placed.map fun entry ↦ (last - entry.1, entry.2))
  else (rows, placed)

/-- The lines from the ends of a stretch to its bar. -/
def reachRow (frame : Frame) (row : Nat) (mark : Mark) : List Stroke :=
  let reach (depth : Nat) : List Stroke :=
    across (row + 1) (frame.barColumn + depth) (frame.column mark.start.column) '_'
      (markInk mark.primary)
  match mark.shape with
  | .opening depth => reach depth
  | .closing depth => reach depth
  | .single => []
  | .passing _ => []

/-- The vertical lines from a mark to its label or to its bar, and the part of the bar beside
them. -/
def hangers (frame : Frame) (rows row : Nat) (mark : Mark) : List Stroke :=
  let ink := markInk mark.primary
  let hanging :=
    if 0 < row && (mark.hasLabel || mark.reachesBar) then
      down 1 (row + 2) (frame.column mark.start.column) '|' ink
    else []
  let bar := match mark.shape with
    | .opening depth =>
      dot (row + 1) (frame.barColumn + depth - 1) ' ' ink ++
        down (row + 2) (rows + 2) (frame.barColumn + depth - 1) '|' ink
    | .closing depth => down 0 (row + 2) (frame.barColumn + depth - 1) '|' ink
    | .single => []
    | .passing _ => []
  hanging ++ bar

/-- The label of a mark: behind the mark in the row of underlines, and below it otherwise. -/
def labelStrokes (frame : Frame) (row : Nat) (mark : Mark) : List Stroke :=
  match mark.label with
  | none => []
  | some label =>
    let (labelRow, column) :=
      if row = 0 then
        (1, (if mark.stop.column = 0 then mark.stop.column + 2 else mark.stop.column + 1) -
          frame.cut)
      else (row + 2, mark.start.column - frame.cut)
    write labelRow (frame.codeColumn + column) label.toList (markInk mark.primary)

/-- The underline of a mark, whose first character stands out where something hangs from it. -/
def underlineStrokes (frame : Frame) (row : Nat) (mark : Mark) : List Stroke :=
  let ink := markInk mark.primary
  let char := underline mark.primary
  (List.range' mark.start.column (mark.stop.column - mark.start.column)).flatMap
      (fun column ↦ dot 1 (frame.column column) char ink) ++
    (if mark.reachesBar || (0 < row && mark.hasLabel) then
      dot 1 (frame.column mark.start.column) char ink
    else [])

/-- Longer marks before shorter ones, so that both show; of two marks of one length the primary one
comes last. -/
def underlinedBefore (a b : Mark) : Bool :=
  b.width < a.width || (a.width == b.width && (!a.primary || b.primary))

/-- Everything below a source line. -/
def markStrokes (frame : Frame) (rows : Nat) (placed : Placed) : List Stroke :=
  down 1 (rows + 2) frame.borderColumn '|' .margin ++
    placed.flatMap (fun entry ↦ reachRow frame entry.1 entry.2) ++
    placed.flatMap (fun entry ↦ hangers frame rows entry.1 entry.2) ++
    placed.flatMap (fun entry ↦ labelStrokes frame entry.1 entry.2) ++
    (placed.mergeSort fun a b ↦ underlinedBefore a.2 b.2).flatMap fun entry ↦
      underlineStrokes frame entry.1 entry.2

/-- The bar that a mark starts or ends. -/
def barOf? (mark : Mark) : Option (Nat × Bool) :=
  match mark.shape with
  | .opening depth => some (depth, mark.primary)
  | .closing depth => some (depth, mark.primary)
  | .single => none
  | .passing _ => none

/-- Whether a stretch opens before the first character of a line that is not blank. -/
def opensAtLineStart (line : SourceLine) (mark : Mark) : Bool :=
  ((line.text.flatMap shown).take mark.start.column).all Unicode.isBlank

/-- A line on which stretches only open, before all code, or pass. It needs no rows for marks. -/
def isShort (line : MarkedLine) : Bool :=
  line.marks.all fun mark ↦
    mark.isPassing || (mark.isOpening && opensAtLineStart line.line mark)

def lineBlock (frame : Frame) (line : MarkedLine) : Block :=
  let code := codeRow frame line.line
  if isShort line then
    let bars := line.marks.filterMap barOf?
    ⟨1, code ++ bars.flatMap fun bar ↦
      dot 0 (frame.barColumn + bar.1 - 1) '/' (markInk bar.2), bars⟩
  else
    let (rows, placed) := arrange line.marks
    ⟨rows + 2, code ++ markStrokes frame rows placed, placed.filterMap fun entry ↦ barOf? entry.2⟩

/-- A bar through all rows from `start` up to `stop`. -/
def barStrokes (frame : Frame) (start stop : Nat) (bar : Nat × Bool) : List Stroke :=
  down start stop (frame.barColumn + bar.1 - 1) '|' (markInk bar.2)

/-- What is shown between two marked lines: nothing, the one line between them, or dots. -/
def gapBlock (frame : Frame) (lines : List SourceLine) (line next : MarkedLine)
    (passing : List (Nat × Bool)) : Block :=
  let opened := line.marks.filterMap fun mark ↦ if mark.isOpening then barOf? mark else none
  let bars := (passing ++ opened).flatMap (barStrokes frame 0 1)
  let distance := next.line.number - line.line.number
  if 2 < distance then ⟨1, write 0 0 "...".toList .margin ++ bars, []⟩
  else if distance = 2 then
    match lines.find? (·.number == line.line.number + 1) with
    | some between => ⟨1, codeRow frame between ++ bars, []⟩
    | none => ⟨0, [], []⟩
  else ⟨0, [], []⟩

/-- The marked lines from row `row` on, with the bars that come in from above. Returns the row after
them as well. -/
def body (frame : Frame) (lines : List SourceLine) (row : Nat) (passing : List (Nat × Bool)) :
    List MarkedLine → Nat × List Stroke
  | [] => (row, [])
  | line :: rest =>
    let block := lineBlock frame line
    let kept := passing.filter fun bar ↦ !(block.bars.any (·.1 == bar.1))
    let started := block.bars.filter fun bar ↦ !(passing.any (·.1 == bar.1))
    let drawn := block.strokes ++ kept.flatMap (barStrokes frame 0 block.height)
    let gap := match rest with
      | next :: _ => gapBlock frame lines line next kept
      | [] => ⟨0, [], []⟩
    let below := row + block.height
    let (stop, strokes) := body frame lines (below + gap.height) (kept ++ started) rest
    (stop, drawn.map (Stroke.lower row) ++ gap.strokes.map (Stroke.lower below) ++ strokes)

/-- The first row: the severity and the message. A message over several lines goes on below its own
start. -/
def titleStrokes (diagnostic : Diagnostic) : Nat × List Stroke :=
  let severity := diagnostic.severity.text.toList
  let indent := severity.length + 2
  let rows := ((diagnostic.message.toList.flatMap shown).splitOnP (· == '\n'))
  (rows.length,
    write 0 0 severity .severity ++ write 0 severity.length [':', ' '] .bold ++
      rows.zipIdx.flatMap fun entry ↦ write entry.2 indent entry.1 .bold)

/-- Where the snippet is from: the path with the line and column of the first primary mark. -/
def originText (path : String) (lines : List MarkedLine) : String :=
  let primary := lines.findSome? fun line ↦
    (line.marks.filter (·.primary)).head?.map fun mark ↦ (line, mark)
  let shownAt := match primary with
    | some (line, first) =>
      let column := ((line.marks.filter (·.primary)).map (·.start.char)).foldl min first.start.char
      s!":{line.line.number}:{column + 1}"
    | none => ""
  path ++ shownAt

/-- A span as it is marked: an empty one is made one byte long where the source allows it. -/
def visibleSpan (span : Text.Span) (limit : Nat) : Text.Span :=
  if span.isEmpty then ⟨span.start, min (span.start + 1) limit⟩ else span

/-- The spans of a report. -/
def highlightsOf (diagnostic : Diagnostic) (limit : Nat) : List Highlight :=
  ⟨visibleSpan diagnostic.span limit, true, none⟩ ::
    diagnostic.related.map fun related ↦
      ⟨visibleSpan related.span limit, false, some related.message⟩

/-- The number of the last line that a snippet may show. A line that a span only just reaches, by
ending with the line break before it, does not count. -/
def lastNumber (source : List Char) (highlights : List Highlight) : Nat :=
  let stop := (highlights.map (·.span.stop)).foldl max 0
  let covered := Text.slice source 0 stop
  covered.count '\n' + (if covered.getLast? = some '\n' then 0 else 1)

end Snippet

/-- How snippets are drawn. -/
structure SnippetStyle where
  /-- The name shown for the source. -/
  path : Option String
  color : Bool
  deriving DecidableEq, Repr

open Snippet in
/-- The report drawn with the lines of `source` that it is about. -/
def Diagnostic.snippet (diagnostic : Diagnostic) (source : String) (style : SnippetStyle) :
    String :=
  let cs := source.toList
  let lines := SourceLine.ofText cs
  let highlights := highlightsOf diagnostic (Text.byteLength cs)
  let (depth, marked) := MarkedLine.ofHighlights lines highlights
  let frame : Frame :=
    ⟨(toString (lastNumber cs highlights)).length, depth, cutOf marked⟩
  let (titleHeight, title) := titleStrokes diagnostic
  let origin := match style.path with
    | some path =>
      write titleHeight frame.numberWidth "--> ".toList .margin ++
        write titleHeight (frame.numberWidth + 4) (originText path marked).toList .plain
    | none => []
  let border := titleHeight + (if style.path.isSome then 1 else 0)
  let (height, strokes) := body frame lines (border + 1) [] marked
  paint style.color diagnostic.severity height
    (title ++ origin ++ dot border (frame.numberWidth + 1) '|' .margin ++ strokes)

/-- All reports drawn, one under the other. -/
def Diagnostics.snippets (diagnostics : Diagnostics) (source : String) (style : SnippetStyle) :
    String :=
  "\n".intercalate (diagnostics.map (·.snippet source style))

end PegKit
