import PegKit.Proofs.Machine.Backtracking

/-!
# Trees tile the text

A tree that an operation yields covers the text that was read for it: a terminal stands for the
characters it read, an empty node for none, and the elements of a sequence or repetition follow each
other from its start to its end. Every node of a finished tree is the root of such a tree, so its
span lies on boundaries of the input, and the terminals together give the text of the root.
-/

namespace PegKit

open ParseTree (nodesOfList rootPlace rootPlaces sizeOfList)
open Program (Decision Passes Task Yield Yields emptyYield repetitionYield)
open Text (IsBoundary Span byteLength slice)

/-- The spans follow each other without a gap, from `start` to `stop`. -/
def Text.Span.Chained : Nat → List Span → Nat → Prop
  | start, [], stop => start = stop
  | start, span :: rest, stop => span.start = start ∧ Chained span.stop rest stop

/-! ## Covering -/

namespace ParseTree

def span : ParseTree → Span
  | .node _ span _ _ _ => span

mutual

/-- The tree stands for what was read from `start` to `stop`. -/
inductive Covers : Cursor → ParseTree → Cursor → Prop
  | terminal {start stop : Cursor} {rule : Option RuleId} {label : Option Symbol}
      (read : Passes start stop) :
      Covers start (.node .terminal ⟨start.offset, stop.offset⟩ rule label []) stop
  | empty {cursor : Cursor} {rule : Option RuleId} {label : Option Symbol} :
      Covers cursor (.node .empty ⟨cursor.offset, cursor.offset⟩ rule label []) cursor
  | owner {start stop : Cursor} {kind : NodeKind} {rule : Option RuleId} {label : Option Symbol}
      {elements : List ParseTree} (owns : kind = .sequence ∨ kind = .repetition)
      (parts : CoversAll start elements stop) :
      Covers start (.node kind ⟨start.offset, stop.offset⟩ rule label elements) stop

/-- The trees stand one after the other for what was read from `start` to `stop`. -/
inductive CoversAll : Cursor → List ParseTree → Cursor → Prop
  | nil {cursor : Cursor} : CoversAll cursor [] cursor
  | cons {start between stop : Cursor} {tree : ParseTree} {rest : List ParseTree}
      (first : Covers start tree between) (others : CoversAll between rest stop) :
      CoversAll start (tree :: rest) stop

end

theorem Covers.span_eq {start stop : Cursor} {tree : ParseTree} (h : tree.Covers start stop) :
    tree.span = ⟨start.offset, stop.offset⟩ := by
  cases h <;> rfl

theorem CoversAll.chained {start stop : Cursor} {trees : List ParseTree}
    (h : CoversAll start trees stop) :
    Span.Chained start.offset (trees.map ParseTree.span) stop.offset := by
  induction trees generalizing start with
  | nil =>
    cases h
    rfl
  | cons tree rest ih =>
    cases h with
    | cons first others =>
      rw [List.map_cons, first.span_eq]
      exact ⟨rfl, ih others⟩

mutual

theorem Covers.passes {start stop : Cursor} {tree : ParseTree} :
    tree.Covers start stop → Passes start stop
  | .terminal read => read
  | .empty => .refl _
  | .owner _ parts => parts.passes

theorem CoversAll.passes {start stop : Cursor} {trees : List ParseTree} :
    CoversAll start trees stop → Passes start stop
  | .nil => .refl _
  | .cons first others => first.passes.trans others.passes

end

theorem CoversAll.concat {start cursor stop : Cursor} {trees : List ParseTree} {tree : ParseTree}
    (h : CoversAll start trees cursor) (hlast : tree.Covers cursor stop) :
    CoversAll start (trees ++ [tree]) stop := by
  induction trees generalizing start with
  | nil =>
    cases h
    exact .cons hlast .nil
  | cons first rest ih =>
    cases h with
    | cons hfirst hothers => exact .cons hfirst (ih hothers)

theorem Covers.withRule {start stop : Cursor} {tree : ParseTree} (h : tree.Covers start stop)
    (rule : RuleId) : (tree.withRule rule).Covers start stop := by
  cases h with
  | terminal read => exact .terminal read
  | empty => exact .empty
  | owner owns parts => exact .owner owns parts

theorem Covers.withLabel {start stop : Cursor} {tree : ParseTree} (h : tree.Covers start stop)
    (name : Symbol) : (tree.withLabel name).Covers start stop := by
  cases h with
  | terminal read => exact .terminal read
  | empty => exact .empty
  | owner owns parts => exact .owner owns parts

end ParseTree

/-! ## What operations yield -/

namespace Program

/-- A match from `start` on covers what it read. -/
def Yield.Covers (start : Cursor) : Yield → Prop
  | none => True
  | some (tree, stop) => tree.Covers start stop

/-- What is left of a sequence or repetition covers all of it, if what it has so far covers the
text up to `cursor`. -/
def Task.Covers : Task → List ParseTree → Cursor → Yield → Prop
  | .items _ start, elements, cursor, yield =>
    ParseTree.CoversAll start elements cursor → yield.Covers start
  | .iterations _ _ start found, _, cursor, yield =>
    ParseTree.CoversAll start found cursor → yield.Covers start
  | .op _, _, cursor, yield => yield.Covers cursor
  | .rule _, _, cursor, yield => yield.Covers cursor
  | .alternatives _, _, cursor, yield => yield.Covers cursor

theorem emptyYield_covers (cursor : Cursor) : Yield.Covers cursor (emptyYield cursor) :=
  ParseTree.Covers.empty

theorem repetitionYield_covers {least : Nat} {start cursor : Cursor} {found : List ParseTree}
    (h : ParseTree.CoversAll start found cursor) :
    Yield.Covers start (repetitionYield least start found cursor) := by
  unfold repetitionYield
  split
  · trivial
  · exact .owner (.inr rfl) h

theorem Yields.covers {program : Program} {decides : Decision} {task : Task}
    {siblings : List ParseTree} {cursor : Cursor} {yield : Yield}
    (h : Yields program decides task siblings cursor yield) :
    task.Covers siblings cursor yield := by
  induction h with
  | terminalHit op lead => exact .terminal (.after lead)
  | terminalMiss => trivial
  | classHit op lead accepted => exact .terminal (.after lead)
  | classMiss => trivial
  | anyHit op lead => exact .terminal (.after lead)
  | anyMiss => trivial
  | sequence op parts ih => exact ih .nil
  | itemsDone => exact fun hfound ↦ .owner (.inl rfl) hfound
  | itemsFail => exact fun _ ↦ trivial
  | itemsNext first others ihfirst ihothers => exact fun hfound ↦ ihothers (hfound.concat ihfirst)
  | choice op parts ih => exact ih
  | alternativesNone => trivial
  | alternativesHit first ih => exact ih
  | alternativesNext first others _ ihothers => exact ihothers
  | repetition op parts ih => exact ih .nil
  | iterationsStop => exact fun hfound ↦ repetitionYield_covers hfound
  | iterationsStay last stays ih => exact fun hfound ↦ repetitionYield_covers (hfound.concat ih)
  | iterationsNext first moves others ihfirst ihothers =>
    exact fun hfound ↦ ihothers (hfound.concat ihfirst)
  | optionalHit op part ih => exact ih
  | optionalMiss => exact emptyYield_covers _
  | lookaheadHit => exact emptyYield_covers _
  | lookaheadMiss => trivial
  | negativeLookaheadHit => trivial
  | negativeLookaheadMiss => exact emptyYield_covers _
  | predicate op decided =>
    split
    · exact emptyYield_covers _
    · trivial
  | @label _ _ name _ _ yield op part ih =>
    cases yield with
    | none => trivial
    | some found => exact ih.withLabel name
  | call op callee ih => exact ih
  | @rule rule _ _ _ yield found body ih =>
    cases yield with
    | none => trivial
    | some found => exact ih.withRule rule

end Program

/-! ## Nodes -/

namespace Arena

variable {arena : Arena}

theorem getElem?_rootPlace {base : Nat} {owner : Option NodeId} {kind : NodeKind} {span : Span}
    {rule : Option RuleId} {label : Option Symbol} {elements : List ParseTree}
    (h : arena.Holds base ((ParseTree.node kind span rule label elements).nodes base owner)) :
    arena[base + sizeOfList elements]? =
      some ⟨kind, span, rootPlaces base elements, owner, rule, label⟩ := by
  simpa using h.getElem?

/-- The roots of written trees have the spans of the trees. -/
theorem map_span_rootPlaces {base : Nat} {owner : Option NodeId} {trees : List ParseTree}
    (h : arena.Holds base (nodesOfList base owner trees)) :
    (rootPlaces base trees).map (fun id ↦ (arena[id.index]?.getD default).span) =
      trees.map ParseTree.span := by
  induction trees generalizing base with
  | nil => rfl
  | cons tree rest ih =>
    rw [nodesOfList] at h
    have hrest := @ih (base + tree.size) (by simpa using h.append_right)
    obtain ⟨kind, span, rule, label, elements⟩ := tree
    have hplace : (rootPlace base (.node kind span rule label elements)).index =
        base + sizeOfList elements := by
      simp [rootPlace, ParseTree.size]
    rw [rootPlaces, List.map_cons, hrest, hplace, getElem?_rootPlace h.append_left]
    rfl

/-- The node at `place` is the root of a tree that covers a part of what can be read from `start`
on. -/
def StandsFor (arena : Arena) (start : Cursor) (place : Nat) : Prop :=
  ∃ (tree : ParseTree) (base : Nat) (owner : Option NodeId) (begins ends : Cursor),
    arena.Holds base (tree.nodes base owner) ∧ (tree.rootPlace base).index = place ∧
      Passes start begins ∧ tree.Covers begins ends

theorem StandsFor.mono {start start' : Cursor} {place : Nat} (h : arena.StandsFor start' place)
    (hpasses : Passes start start') : arena.StandsFor start place := by
  obtain ⟨tree, base, owner, begins, ends, hheld, hplace, hbegins, hcovers⟩ := h
  exact ⟨tree, base, owner, begins, ends, hheld, hplace, hpasses.trans hbegins, hcovers⟩

open ParseTree (Covers CoversAll)

theorem standsFor_rootPlace {start stop : Cursor} {tree : ParseTree} {base : Nat}
    {owner : Option NodeId} (hheld : arena.Holds base (tree.nodes base owner))
    (hcovers : tree.Covers start stop) : arena.StandsFor start (tree.rootPlace base).index :=
  ⟨tree, base, owner, start, stop, hheld, rfl, .refl start, hcovers⟩

mutual

/-- Every node of a written tree stands for a part of the text that the tree covers. -/
theorem standsFor_of_covers {start stop : Cursor} {tree : ParseTree} {base : Nat}
    {owner : Option NodeId} (hheld : arena.Holds base (tree.nodes base owner)) {place : Nat}
    (hlow : base ≤ place) (hhigh : place < base + tree.size) :
    tree.Covers start stop → arena.StandsFor start place
  | .terminal read => by
    have hplace : place = base := by simp [ParseTree.size, sizeOfList] at hhigh; omega
    subst hplace
    exact standsFor_rootPlace hheld (.terminal read)
  | .empty => by
    have hplace : place = base := by simp [ParseTree.size, sizeOfList] at hhigh; omega
    subst hplace
    exact standsFor_rootPlace hheld .empty
  | @Covers.owner _ _ _ _ _ elements owns parts => by
    rw [ParseTree.size] at hhigh
    by_cases hroot : place = base + sizeOfList elements
    · subst hroot
      exact standsFor_rootPlace hheld (.owner owns parts)
    · rw [ParseTree.nodes] at hheld
      exact standsFor_of_coversAll hheld.append_left hlow (by omega) parts

theorem standsFor_of_coversAll {start stop : Cursor} {trees : List ParseTree} {base : Nat}
    {owner : Option NodeId} (hheld : arena.Holds base (nodesOfList base owner trees)) {place : Nat}
    (hlow : base ≤ place) (hhigh : place < base + sizeOfList trees) :
    CoversAll start trees stop → arena.StandsFor start place
  | .nil => by
    rw [sizeOfList] at hhigh
    omega
  | @CoversAll.cons _ _ _ tree rest first others => by
    rw [nodesOfList] at hheld
    rw [sizeOfList] at hhigh
    by_cases hfirst : place < base + tree.size
    · exact standsFor_of_covers hheld.append_left hlow hfirst first
    · have hrest : arena.Holds (base + tree.size) (nodesOfList (base + tree.size) owner rest) := by
        simpa using hheld.append_right
      have hnext : base + tree.size ≤ place := by omega
      have hlater := standsFor_of_coversAll hrest hnext (by omega) others
      exact hlater.mono first.passes

end

end Arena

/-- Where a node lies in the input, and how its elements divide it. -/
structure NodeView.Tiles (view : NodeView) : Prop where
  start_boundary : IsBoundary view.input view.span.start
  stop_boundary : IsBoundary view.input view.span.stop
  ordered : view.span.start ≤ view.span.stop
  bounded : view.span.stop ≤ byteLength view.input
  empty : view.kind = .empty → view.span.start = view.span.stop
  elements : view.kind = .sequence ∨ view.kind = .repetition →
    Span.Chained view.span.start (view.elements.map NodeView.span) view.span.stop

theorem Arena.StandsFor.tiles {view : NodeView} {start : Cursor}
    (h : view.nodes.StandsFor start view.id.index) (hstart : start.LiesIn view.input) :
    view.Tiles := by
  obtain ⟨⟨kind, span, rule, label, elements⟩, base, owner, begins, ends, hheld, hplace, hpasses,
    hcovers⟩ := h
  have hindex : view.id.index = base + sizeOfList elements := by
    rw [← hplace]
    simp [rootPlace, ParseTree.size]
  have hnode : view.node = ⟨kind, span, rootPlaces base elements, owner, rule, label⟩ := by
    rw [NodeView.node, hindex, getElem?_rootPlace hheld, Option.getD_some]
  have hspan : view.span = ⟨begins.offset, ends.offset⟩ := by
    rw [NodeView.span, hnode]
    exact hcovers.span_eq
  have hkind : view.kind = kind := by rw [NodeView.kind, hnode]
  have hbegins := hpasses.liesIn hstart
  have hends := hcovers.passes.liesIn hbegins
  rw [ParseTree.nodes] at hheld
  refine ⟨?_, ?_, ?_, ?_, ?_, ?_⟩
  · rw [hspan]
    exact hbegins.boundary
  · rw [hspan]
    exact hends.boundary
  · rw [hspan]
    exact hcovers.passes.offset_le
  · rw [hspan]
    exact hends.offset_le
  · intro hempty
    rw [hspan]
    rw [hkind] at hempty
    subst hempty
    cases hcovers with
    | empty => rfl
    | owner owns _ => rcases owns with hsequence | hrepetition <;> contradiction
  · intro howns
    have helements : view.elements.map NodeView.span = elements.map ParseTree.span := by
      rw [← map_span_rootPlaces hheld.append_left, NodeView.elements, hnode, List.map_map]
      rfl
    rw [helements, hspan]
    rw [hkind] at howns
    cases hcovers with
    | terminal => rcases howns with hsequence | hrepetition <;> contradiction
    | empty => rcases howns with hsequence | hrepetition <;> contradiction
    | owner _ parts => exact parts.chained

/-! ## Terminals -/

/-- The characters of a terminal; those of other nodes are read by the terminals below them. -/
def NodeView.leafText (view : NodeView) : List Char :=
  if view.isTerminal then slice view.input view.span.start view.span.stop else []

theorem NodeView.join_terminals (views : List NodeView) :
    String.join ((views.filter isTerminal).map text) = String.ofList (views.flatMap leafText) := by
  induction views with
  | nil => rfl
  | cons view rest ih =>
    by_cases hterminal : view.isTerminal = true
    · rw [List.filter_cons_of_pos hterminal, List.map_cons, String.join_cons, ih,
        List.flatMap_cons, leafText, if_pos hterminal, String.ofList_append, text]
    · rw [List.filter_cons_of_neg hterminal, ih, List.flatMap_cons, leafText, if_neg hterminal,
        List.nil_append]

namespace Arena

open ParseTree (Covers CoversAll)

variable {arena : Arena} (input : List Char) (program : Program)

/-- The root of a written tree comes before what its elements lead to. -/
theorem leafText_root {base : Nat} {owner : Option NodeId} {kind : NodeKind} {span : Span}
    {rule : Option RuleId} {label : Option Symbol} {elements : List ParseTree}
    (h : arena.Holds base ((ParseTree.node kind span rule label elements).nodes base owner))
    (depth : Nat) :
    (arena.preorderTo (depth + 1) (rootPlace base (.node kind span rule label elements))).flatMap
        (fun id ↦ NodeView.leafText ⟨input, program, arena, id⟩) =
      (if kind = .terminal then slice input span.start span.stop else []) ++
        ((rootPlaces base elements).flatMap (arena.preorderTo depth)).flatMap
          fun id ↦ NodeView.leafText ⟨input, program, arena, id⟩ := by
  have hplace : (rootPlace base (.node kind span rule label elements)).index =
      base + sizeOfList elements := by
    simp [rootPlace, ParseTree.size]
  have hnode := getElem?_rootPlace h
  rw [← hplace] at hnode
  have hleaf : NodeView.leafText
      ⟨input, program, arena, rootPlace base (.node kind span rule label elements)⟩ =
        if kind = .terminal then slice input span.start span.stop else [] := by
    simp [NodeView.leafText, NodeView.isTerminal, NodeView.kind, NodeView.span, NodeView.node,
      hnode]
  rw [preorderTo, hnode, List.flatMap_cons, hleaf]
  rfl

mutual

/-- The terminals below a written tree, in order, give the text that it covers. -/
theorem leafText_preorder {start stop : Cursor} {tree : ParseTree} {base : Nat}
    {owner : Option NodeId} (hheld : arena.Holds base (tree.nodes base owner)) (depth : Nat)
    (hdepth : tree.size ≤ depth + 1) :
    tree.Covers start stop →
      (arena.preorderTo (depth + 1) (tree.rootPlace base)).flatMap
          (fun id ↦ NodeView.leafText ⟨input, program, arena, id⟩) =
        slice input start.offset stop.offset
  | .terminal read => by
    rw [leafText_root input program hheld, if_pos rfl]
    exact List.append_nil _
  | .empty => by
    rw [leafText_root input program hheld, if_neg nofun, Text.slice_self]
    rfl
  | @Covers.owner _ _ kind _ _ elements owns parts => by
    have hkind : kind ≠ .terminal := by rcases owns with rfl | rfl <;> nofun
    have helements : sizeOfList elements ≤ depth := Nat.le_of_succ_le_succ hdepth
    rw [leafText_root input program hheld, if_neg hkind, List.nil_append]
    rw [ParseTree.nodes] at hheld
    exact leafText_preorders hheld.append_left depth helements parts

theorem leafText_preorders {start stop : Cursor} {trees : List ParseTree} {base : Nat}
    {owner : Option NodeId} (hheld : arena.Holds base (nodesOfList base owner trees)) (depth : Nat)
    (hdepth : sizeOfList trees ≤ depth) :
    CoversAll start trees stop →
      ((rootPlaces base trees).flatMap (arena.preorderTo depth)).flatMap
          (fun id ↦ NodeView.leafText ⟨input, program, arena, id⟩) =
        slice input start.offset stop.offset
  | .nil => (Text.slice_self input _).symm
  | @CoversAll.cons _ between _ tree rest first others => by
    rw [nodesOfList] at hheld
    rw [sizeOfList] at hdepth
    have hrest : arena.Holds (base + tree.size) (nodesOfList (base + tree.size) owner rest) := by
      simpa using hheld.append_right
    have hpos := tree.size_pos
    obtain ⟨left, rfl⟩ : ∃ left, depth = left + 1 := ⟨depth - 1, by omega⟩
    have hfirst := leafText_preorder hheld.append_left left (by omega) first
    have hothers := leafText_preorders hrest (left + 1) (by omega) others
    rw [rootPlaces, List.flatMap_cons, List.flatMap_append, hfirst, hothers]
    exact Text.slice_append input first.passes.offset_le others.passes.offset_le

end

end Arena

/-! ## Finished trees -/

/-- The nodes of a tree divide the text of its root among them. -/
structure SyntaxTree.Tiles (tree : SyntaxTree) : Prop where
  nodes : ∀ id : NodeId, id.index < tree.size → (tree.view id).Tiles
  terminals : String.join ((tree.views.filter NodeView.isTerminal).map NodeView.text) = tree.text

theorem Arena.rootSpan_write (input : List Char) (program : Program) (tree : ParseTree) :
    (SyntaxTree.mk input program (Arena.write #[] [tree]) (tree.rootPlace 0)).rootView.span =
      tree.span := by
  have hspans := map_span_rootPlaces (holds_write #[] [tree])
  exact (List.cons.inj hspans).1

/-- A tree written from the start, as a finished tree. -/
theorem Arena.tiles_write {input : List Char} (program : Program) {start stop : Cursor}
    (hstart : start.LiesIn input) {tree : ParseTree} (hcovers : tree.Covers start stop) :
    SyntaxTree.Tiles ⟨input, program, Arena.write #[] [tree], tree.rootPlace 0⟩ := by
  have hheld : (Arena.write #[] [tree]).Holds 0 (tree.nodes 0 none) := holds_write_root #[] tree
  refine ⟨?_, ?_⟩
  · intro id hid
    have hplace : id.index < 0 + tree.size := by
      simpa [SyntaxTree.size, sizeOfList] using hid
    exact (standsFor_of_covers hheld (Nat.zero_le _) hplace hcovers).tiles hstart
  · have hpos := tree.size_pos
    have hdepth : tree.size ≤ (tree.rootPlace 0).index + 1 := by
      simp only [rootPlace]
      omega
    have htext := leafText_preorder input program hheld _ hdepth hcovers
    rw [NodeView.join_terminals, SyntaxTree.views, List.flatMap_map, SyntaxTree.text,
      NodeView.text, rootSpan_write, hcovers.span_eq]
    exact congrArg String.ofList htext

namespace Parser

open Machine (Event)

theorem parseWith_tiles {τ : Type} (parser : Parser) (input : String) (options : ParseOptions)
    (observe : τ → Event → τ) (trace : τ) (tree : SyntaxTree)
    (h : (parser.parseWith input options observe trace).result = .ok (some tree)) :
    tree.input = input.toList ∧ tree.rootView.span.start = options.start ∧
      (options.consumeAll.getD parser.consumeAll = true →
        tree.rootView.span.stop = byteLength input.toList) ∧
      tree.Tiles := by
  obtain ⟨rule, cursor, outcome, hstart, hrun, hresult, _⟩ := parseWith_ok h
  obtain ⟨hoffset, hlies⟩ := startOf_ok hstart
  obtain ⟨found, hroot, rfl⟩ := Option.map_eq_some_iff.mp hresult
  obtain ⟨yield, hyields, hafter, htree⟩ := (Machine.run_settles (.blind _) trivial _ trace trivial
    rule _ cursor).2 outcome hrun
  obtain ⟨written, rfl, hplace, hnodes⟩ := htree found hroot
  have hcovers : written.Covers cursor found.after := hyields.covers
  have hspan := Arena.rootSpan_write input.toList parser.program written
  rw [hcovers.span_eq] at hspan
  rw [hplace, hnodes]
  refine ⟨rfl, ?_, ?_, Arena.tiles_write parser.program hlies hcovers⟩
  · rw [hspan]
    exact hoffset
  · intro hall
    rw [hspan]
    have hrest : found.after.rest = [] := by
      rw [hroot, hall] at hafter
      simpa [Option.filter] using hafter
    have hlength := Text.add_byteLength_of_dropBytes? (hcovers.passes.liesIn hlies)
    rw [hrest] at hlength
    exact hlength

/-- Characters up to a full stop, which may be missing. -/
def stoppedParser : Parser :=
  let ops := #[.terminal ".", .negativeLookahead ⟨0⟩, .anyChar, .sequence [⟨1⟩, ⟨2⟩],
    .repetition ⟨3⟩ 1, .optional ⟨0⟩, .label ⟨0⟩ ⟨5⟩, .sequence [⟨4⟩, ⟨6⟩]]
  .ofProgram ⟨"stopped", [], ops, #[⟨"start", ⟨7⟩⟩], ⟨#["end"]⟩⟩

theorem parseWith_tiles_stopped : ∃ tree,
    (stoppedParser.parseWith "éé" { start := 2 } (fun _ _ ↦ ()) ()).result = .ok (some tree) ∧
      tree.rootView.span = ⟨2, 4⟩ ∧ tree.Tiles := by
  have hmatches : (stoppedParser.parseWith "éé" { start := 2 } (fun _ _ ↦ ()) ()).result.map
      Option.isSome = .ok true := by decide +kernel
  obtain ⟨tree, htree⟩ : ∃ tree,
      (stoppedParser.parseWith "éé" { start := 2 } (fun _ _ ↦ ()) ()).result = .ok (some tree) := by
    cases hresult : (stoppedParser.parseWith "éé" { start := 2 } (fun _ _ ↦ ()) ()).result with
    | error error =>
      rw [hresult] at hmatches
      cases hmatches
    | ok found =>
      rw [hresult] at hmatches
      obtain ⟨tree, rfl⟩ := Option.isSome_iff_exists.mp (Except.ok.inj hmatches)
      exact ⟨tree, rfl⟩
  obtain ⟨_, hstart, hstop, htiles⟩ := parseWith_tiles stoppedParser "éé" _ _ _ tree htree
  have hspan : tree.rootView.span = ⟨tree.rootView.span.start, tree.rootView.span.stop⟩ := rfl
  rw [hstart, hstop rfl] at hspan
  exact ⟨tree, htree, hspan, htiles⟩

end Parser

end PegKit
