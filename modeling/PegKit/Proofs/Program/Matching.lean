import PegKit.Machine
import PegKit.Proofs.SyntaxTree.Layout

/-!
# What operations match

A big-step account of the operations of a program, with trees in place of nodes and no store: from
the elements matched so far and a place in the input, an operation yields a tree and the place after
it, or it fails. How predicates are decided is left open.

The parts of an operation that are evaluated one after the other are tasks of their own, so a
derivation has the shape of a run.
-/

namespace PegKit

/-- A tree from `start` to `stop`, without rule and label. -/
def ParseTree.spanning (kind : NodeKind) (start stop : Cursor) (elements : List ParseTree) :
    ParseTree :=
  .node kind ⟨start.offset, stop.offset⟩ none none elements

/-- A place in `input`, with the text from there on. -/
def Cursor.LiesIn (input : List Char) (cursor : Cursor) : Prop :=
  Text.dropBytes? input cursor.offset = some cursor.rest

namespace Cursor.LiesIn

variable {input : List Char} {cursor : Cursor}

theorem boundary (h : cursor.LiesIn input) : Text.IsBoundary input cursor.offset := by
  rw [Text.IsBoundary, h]
  rfl

theorem offset_le (h : cursor.LiesIn input) : cursor.offset ≤ Text.byteLength input := by
  have hlength := Text.add_byteLength_of_dropBytes? h
  omega

end Cursor.LiesIn

namespace Program

/-- A tree and the place after it, or no match. -/
abbrev Yield := Option (ParseTree × Cursor)

def emptyYield (cursor : Cursor) : Yield :=
  some (.spanning .empty cursor cursor [], cursor)

/-- What a repetition from `start` yields when it stops at `cursor` with the matches `found`. -/
def repetitionYield (least : Nat) (start : Cursor) (found : List ParseTree) (cursor : Cursor) :
    Yield :=
  if found.length < least then none
  else some (.spanning .repetition start cursor found, cursor)

/-- What is evaluated at a place. -/
inductive Task
  | op (id : OpId)
  | rule (rule : RuleId)
  /-- The items of a sequence from `start` on that are left; the others are the elements so far. -/
  | items (ids : List OpId) (start : Cursor)
  /-- The alternatives of a choice that are left. -/
  | alternatives (ids : List OpId)
  /-- A repetition from `start` on after the matches `found`. -/
  | iterations (inner : OpId) (least : Nat) (start : Cursor) (found : List ParseTree)

/-- How a predicate is decided after some elements at a place. -/
abbrev Decision := Symbol → List ParseTree → Cursor → Bool → Prop

/-- What a task yields, given the elements matched so far and the place. -/
inductive Yields (program : Program) (decides : Decision) :
    Task → List ParseTree → Cursor → Yield → Prop
  | terminalHit {id : OpId} {text : String} {siblings : List ParseTree} {cursor : Cursor}
      {rest : List Char} (op : program.ops[id.index]? = some (.terminal text))
      (lead : cursor.rest = text.toList ++ rest) :
      Yields program decides (.op id) siblings cursor
        (some (.spanning .terminal cursor (cursor.after text.toList rest) [],
          cursor.after text.toList rest))
  | terminalMiss {id : OpId} {text : String} {siblings : List ParseTree} {cursor : Cursor}
      (op : program.ops[id.index]? = some (.terminal text))
      (lead : ∀ rest, cursor.rest ≠ text.toList ++ rest) :
      Yields program decides (.op id) siblings cursor none
  | classHit {id : OpId} {cls : CharClass} {siblings : List ParseTree} {cursor : Cursor}
      {c : Char} {rest : List Char} (op : program.ops[id.index]? = some (.charClass cls))
      (lead : cursor.rest = c :: rest) (accepted : cls.contains c = true) :
      Yields program decides (.op id) siblings cursor
        (some (.spanning .terminal cursor (cursor.after [c] rest) [], cursor.after [c] rest))
  | classMiss {id : OpId} {cls : CharClass} {siblings : List ParseTree} {cursor : Cursor}
      (op : program.ops[id.index]? = some (.charClass cls))
      (lead : ∀ c rest, cursor.rest = c :: rest → cls.contains c = false) :
      Yields program decides (.op id) siblings cursor none
  | anyHit {id : OpId} {siblings : List ParseTree} {cursor : Cursor} {c : Char}
      {rest : List Char} (op : program.ops[id.index]? = some .anyChar)
      (lead : cursor.rest = c :: rest) :
      Yields program decides (.op id) siblings cursor
        (some (.spanning .terminal cursor (cursor.after [c] rest) [], cursor.after [c] rest))
  | anyMiss {id : OpId} {siblings : List ParseTree} {cursor : Cursor}
      (op : program.ops[id.index]? = some .anyChar) (lead : cursor.rest = []) :
      Yields program decides (.op id) siblings cursor none
  | sequence {id : OpId} {ids : List OpId} {siblings : List ParseTree} {cursor : Cursor}
      {yield : Yield} (op : program.ops[id.index]? = some (.sequence ids))
      (parts : Yields program decides (.items ids cursor) [] cursor yield) :
      Yields program decides (.op id) siblings cursor yield
  | itemsDone {start : Cursor} {elements : List ParseTree} {cursor : Cursor} :
      Yields program decides (.items [] start) elements cursor
        (some (.spanning .sequence start cursor elements, cursor))
  | itemsFail {item : OpId} {rest : List OpId} {start : Cursor} {elements : List ParseTree}
      {cursor : Cursor} (first : Yields program decides (.op item) elements cursor none) :
      Yields program decides (.items (item :: rest) start) elements cursor none
  | itemsNext {item : OpId} {rest : List OpId} {start : Cursor} {elements : List ParseTree}
      {cursor next : Cursor} {tree : ParseTree} {yield : Yield}
      (first : Yields program decides (.op item) elements cursor (some (tree, next)))
      (others : Yields program decides (.items rest start) (elements ++ [tree]) next yield) :
      Yields program decides (.items (item :: rest) start) elements cursor yield
  | choice {id : OpId} {ids : List OpId} {siblings : List ParseTree} {cursor : Cursor}
      {yield : Yield} (op : program.ops[id.index]? = some (.choice ids))
      (parts : Yields program decides (.alternatives ids) siblings cursor yield) :
      Yields program decides (.op id) siblings cursor yield
  | alternativesNone {siblings : List ParseTree} {cursor : Cursor} :
      Yields program decides (.alternatives []) siblings cursor none
  | alternativesHit {alternative : OpId} {rest : List OpId} {siblings : List ParseTree}
      {cursor next : Cursor} {tree : ParseTree}
      (first : Yields program decides (.op alternative) siblings cursor (some (tree, next))) :
      Yields program decides (.alternatives (alternative :: rest)) siblings cursor
        (some (tree, next))
  | alternativesNext {alternative : OpId} {rest : List OpId} {siblings : List ParseTree}
      {cursor : Cursor} {yield : Yield}
      (first : Yields program decides (.op alternative) siblings cursor none)
      (others : Yields program decides (.alternatives rest) siblings cursor yield) :
      Yields program decides (.alternatives (alternative :: rest)) siblings cursor yield
  | repetition {id inner : OpId} {least : Nat} {siblings : List ParseTree} {cursor : Cursor}
      {yield : Yield} (op : program.ops[id.index]? = some (.repetition inner least))
      (parts : Yields program decides (.iterations inner least cursor []) siblings cursor yield) :
      Yields program decides (.op id) siblings cursor yield
  | iterationsStop {inner : OpId} {least : Nat} {start : Cursor} {found siblings : List ParseTree}
      {cursor : Cursor} (last : Yields program decides (.op inner) siblings cursor none) :
      Yields program decides (.iterations inner least start found) siblings cursor
        (repetitionYield least start found cursor)
  /-- A match that consumes nothing is kept and is the last. -/
  | iterationsStay {inner : OpId} {least : Nat} {start : Cursor} {found siblings : List ParseTree}
      {cursor next : Cursor} {tree : ParseTree}
      (last : Yields program decides (.op inner) siblings cursor (some (tree, next)))
      (stays : ¬ cursor.offset < next.offset) :
      Yields program decides (.iterations inner least start found) siblings cursor
        (repetitionYield least start (found ++ [tree]) next)
  | iterationsNext {inner : OpId} {least : Nat} {start : Cursor} {found siblings : List ParseTree}
      {cursor next : Cursor} {tree : ParseTree} {yield : Yield}
      (first : Yields program decides (.op inner) siblings cursor (some (tree, next)))
      (moves : cursor.offset < next.offset)
      (others : Yields program decides (.iterations inner least start (found ++ [tree])) siblings
        next yield) :
      Yields program decides (.iterations inner least start found) siblings cursor yield
  | optionalHit {id inner : OpId} {siblings : List ParseTree} {cursor next : Cursor}
      {tree : ParseTree} (op : program.ops[id.index]? = some (.optional inner))
      (part : Yields program decides (.op inner) siblings cursor (some (tree, next))) :
      Yields program decides (.op id) siblings cursor (some (tree, next))
  | optionalMiss {id inner : OpId} {siblings : List ParseTree} {cursor : Cursor}
      (op : program.ops[id.index]? = some (.optional inner))
      (part : Yields program decides (.op inner) siblings cursor none) :
      Yields program decides (.op id) siblings cursor (emptyYield cursor)
  | lookaheadHit {id inner : OpId} {siblings : List ParseTree} {cursor next : Cursor}
      {tree : ParseTree} (op : program.ops[id.index]? = some (.lookahead inner))
      (part : Yields program decides (.op inner) siblings cursor (some (tree, next))) :
      Yields program decides (.op id) siblings cursor (emptyYield cursor)
  | lookaheadMiss {id inner : OpId} {siblings : List ParseTree} {cursor : Cursor}
      (op : program.ops[id.index]? = some (.lookahead inner))
      (part : Yields program decides (.op inner) siblings cursor none) :
      Yields program decides (.op id) siblings cursor none
  | negativeLookaheadHit {id inner : OpId} {siblings : List ParseTree} {cursor next : Cursor}
      {tree : ParseTree} (op : program.ops[id.index]? = some (.negativeLookahead inner))
      (part : Yields program decides (.op inner) siblings cursor (some (tree, next))) :
      Yields program decides (.op id) siblings cursor none
  | negativeLookaheadMiss {id inner : OpId} {siblings : List ParseTree} {cursor : Cursor}
      (op : program.ops[id.index]? = some (.negativeLookahead inner))
      (part : Yields program decides (.op inner) siblings cursor none) :
      Yields program decides (.op id) siblings cursor (emptyYield cursor)
  | predicate {id : OpId} {hook : Symbol} {negated holds : Bool} {siblings : List ParseTree}
      {cursor : Cursor} (op : program.ops[id.index]? = some (.predicate hook negated))
      (decided : decides hook siblings cursor holds) :
      Yields program decides (.op id) siblings cursor
        (if holds != negated then emptyYield cursor else none)
  | label {id inner : OpId} {name : Symbol} {siblings : List ParseTree} {cursor : Cursor}
      {yield : Yield} (op : program.ops[id.index]? = some (.label name inner))
      (part : Yields program decides (.op inner) siblings cursor yield) :
      Yields program decides (.op id) siblings cursor
        (yield.map fun found ↦ (found.1.withLabel name, found.2))
  | call {id : OpId} {rule : RuleId} {siblings : List ParseTree} {cursor : Cursor} {yield : Yield}
      (op : program.ops[id.index]? = some (.call rule))
      (callee : Yields program decides (.rule rule) siblings cursor yield) :
      Yields program decides (.op id) siblings cursor yield
  /-- The body of a rule sees no elements of its caller. -/
  | rule {rule : RuleId} {entry : RuleEntry} {siblings : List ParseTree} {cursor : Cursor}
      {yield : Yield} (found : program.rules[rule.index]? = some entry)
      (body : Yields program decides (.op entry.body) [] cursor yield) :
      Yields program decides (.rule rule) siblings cursor
        (yield.map fun found ↦ (found.1.withRule rule, found.2))

/-! ## Progress -/

/-- `stop` is reached from `start` by reading characters. -/
def Passes (start stop : Cursor) : Prop :=
  ∃ passed, start.rest = passed ++ stop.rest ∧
    stop.offset = start.offset + Text.byteLength passed

namespace Passes

theorem refl (cursor : Cursor) : Passes cursor cursor := ⟨[], rfl, rfl⟩

theorem trans {first second third : Cursor} (h : Passes first second) (h' : Passes second third) :
    Passes first third := by
  obtain ⟨passed, hrest, hoffset⟩ := h
  obtain ⟨passed', hrest', hoffset'⟩ := h'
  refine ⟨passed ++ passed', ?_, ?_⟩
  · rw [hrest, hrest', List.append_assoc]
  · rw [hoffset', hoffset, Text.byteLength_append, Nat.add_assoc]

theorem after {cursor : Cursor} {matched rest : List Char} (h : cursor.rest = matched ++ rest) :
    Passes cursor (cursor.after matched rest) := ⟨matched, h, rfl⟩

theorem offset_le {start stop : Cursor} (h : Passes start stop) : start.offset ≤ stop.offset := by
  obtain ⟨passed, _, hoffset⟩ := h
  omega

theorem liesIn {input : List Char} {start stop : Cursor} (h : Passes start stop)
    (hstart : start.LiesIn input) : stop.LiesIn input := by
  obtain ⟨passed, hrest, hoffset⟩ := h
  rw [Cursor.LiesIn, hoffset, Text.dropBytes?_add hstart, hrest, Text.dropBytes?_append]

theorem length_le {start stop : Cursor} (h : Passes start stop) :
    stop.rest.length ≤ start.rest.length := by
  obtain ⟨passed, hrest, _⟩ := h
  rw [hrest, List.length_append]
  exact Nat.le_add_left _ _

/-- Reading on leaves fewer characters to read. -/
theorem length_lt {start stop : Cursor} (h : Passes start stop)
    (hmoved : start.offset < stop.offset) : stop.rest.length < start.rest.length := by
  obtain ⟨passed, hrest, hoffset⟩ := h
  cases passed with
  | nil =>
    rw [Text.byteLength_nil] at hoffset
    omega
  | cons c cs =>
    rw [hrest, List.length_append, List.length_cons]
    omega

/-- Without reading on, the place is the same. -/
theorem eq_of_not_lt {start stop : Cursor} (h : Passes start stop)
    (hstays : ¬ start.offset < stop.offset) : stop = start := by
  obtain ⟨passed, hrest, hoffset⟩ := h
  have hnone : Text.byteLength passed = 0 := by omega
  obtain rfl : passed = [] := Text.byteLength_eq_zero_iff.mp hnone
  cases start
  cases stop
  simp only [List.nil_append] at hrest
  simp only [Text.byteLength_nil, Nat.add_zero] at hoffset
  rw [hrest, hoffset]

end Passes

theorem emptyYield_passes {cursor stop : Cursor} {tree : ParseTree}
    (h : emptyYield cursor = some (tree, stop)) : Passes cursor stop := by
  obtain ⟨_, rfl⟩ : ParseTree.spanning .empty cursor cursor [] = tree ∧ cursor = stop := by
    simpa [emptyYield] using h
  exact .refl cursor

theorem repetitionYield_passes {least : Nat} {start cursor stop : Cursor}
    {found : List ParseTree} {tree : ParseTree}
    (h : repetitionYield least start found cursor = some (tree, stop)) : Passes cursor stop := by
  unfold repetitionYield at h
  split at h
  · cases h
  · cases h
    exact .refl cursor

/-- A match only reads forward. -/
theorem Yields.passes {program : Program} {decides : Decision} {task : Task}
    {siblings : List ParseTree} {cursor stop : Cursor} {tree : ParseTree}
    (h : Yields program decides task siblings cursor (some (tree, stop))) :
    Passes cursor stop := by
  generalize hyield : some (tree, stop) = yield at h
  induction h generalizing tree stop with
  | terminalHit op lead =>
    cases hyield
    exact .after lead
  | terminalMiss => cases hyield
  | classHit op lead accepted =>
    cases hyield
    exact .after lead
  | classMiss => cases hyield
  | anyHit op lead =>
    cases hyield
    exact .after lead
  | anyMiss => cases hyield
  | sequence op parts ih => exact ih hyield
  | itemsDone =>
    cases hyield
    exact .refl _
  | itemsFail => cases hyield
  | itemsNext first others ihfirst ihothers => exact (ihfirst rfl).trans (ihothers hyield)
  | choice op parts ih => exact ih hyield
  | alternativesNone => cases hyield
  | alternativesHit first ih => exact ih hyield
  | alternativesNext first others _ ihothers => exact ihothers hyield
  | repetition op parts ih => exact ih hyield
  | iterationsStop => exact repetitionYield_passes hyield.symm
  | iterationsStay last stays ih => exact (ih rfl).trans (repetitionYield_passes hyield.symm)
  | iterationsNext first moves others ihfirst ihothers =>
    exact (ihfirst rfl).trans (ihothers hyield)
  | optionalHit op part ih => exact ih hyield
  | optionalMiss => exact emptyYield_passes hyield.symm
  | lookaheadHit => exact emptyYield_passes hyield.symm
  | lookaheadMiss => cases hyield
  | negativeLookaheadHit => cases hyield
  | negativeLookaheadMiss => exact emptyYield_passes hyield.symm
  | predicate op decided =>
    split at hyield
    · exact emptyYield_passes hyield.symm
    · cases hyield
  | @label id inner name siblings cursor yield op part ih =>
    cases yield with
    | none => cases hyield
    | some found =>
      cases hyield
      exact ih rfl
  | call op callee ih => exact ih hyield
  | @rule rule entry siblings cursor yield found body ih =>
    cases yield with
    | none => cases hyield
    | some found =>
      cases hyield
      exact ih rfl

end Program

end PegKit
