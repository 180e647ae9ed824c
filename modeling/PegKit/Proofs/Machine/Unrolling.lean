import PegKit.Predicate.Guard
import PegKit.Proofs.Machine.Found
import PegKit.Proofs.Machine.Suffix

/-!
# A bounded repetition is its unrolling

A repetition with a least count is a loop of its operation, and a sequence of copies and a
repetition without a least count is a row of copies. The two match at the same places and end alike
as long as a copy does not depend on what was matched before it, and none of the copies but the last
is empty. Both conditions are needed: a predicate among the copies sees the ones before it, and a
repetition stops after an empty match and then counts.
-/

namespace PegKit.Machine

open Program (Passes Yield repetitionYield)

variable {τ : Type}

/-! ## Loops and copies of an operation -/

section Unrolling

variable [Inhabited τ] {setting : Setting τ} {bounded unrolled star inner : OpId} {least : Nat}
  {scene : Scene} {cursor : Cursor} {stage : Stage} {stop : Option Cursor}

/-- What the operation comes to at a place does not depend on what was matched before. -/
def Steady (setting : Setting τ) (id : OpId) : Prop :=
  ∀ scene scene' place stop, Reaches setting id ⟨scene, place⟩ stop →
    Reaches setting id ⟨scene', place⟩ stop

theorem map_repetitionYield (least : Nat) (start : Cursor) (trees : List ParseTree)
    (stop : Cursor) : (repetitionYield least start trees stop).map (·.2) =
      if trees.length < least then none else some stop := by
  unfold repetitionYield
  split <;> rfl

/-- Iterations are a loop, whose matches are counted with those before them. -/
theorem Tries.loops {start : Cursor} {found : List ParseTree} {yield : Yield} {misses : List Miss}
    (h : Tries setting (.iterations inner least start found) scene cursor yield misses) :
    ∃ count stop,
      Loops (Finds setting inner) (Cursor.offset ∘ Stage.place) count ⟨scene, cursor⟩ stop ∧
        yield.map (·.2) = if found.length + count < least then none else some stop.place := by
  generalize htrial : Trial.iterations inner least start found = trial at h
  induction h generalizing found with
  | iterationsStop last =>
    cases htrial
    exact ⟨0, _, .fail (finds_none_iff.mpr ⟨_, last⟩), map_repetitionYield _ _ _ _⟩
  | @iterationsStay _ _ _ _ scene cursor next tree misses last stays =>
    cases htrial
    have hlast : Finds setting inner ⟨scene, cursor⟩ (some ⟨scene.grown tree, next⟩) :=
      finds_some_iff.mpr ⟨tree, misses, rfl, last⟩
    refine ⟨1, _, .stay hlast stays, ?_⟩
    rw [map_repetitionYield, List.length_append, List.length_singleton]
  | @iterationsNext _ _ _ _ scene cursor next tree _ misses _ first moves _ _ ih =>
    cases htrial
    have hfirst : Finds setting inner ⟨scene, cursor⟩ (some ⟨scene.grown tree, next⟩) :=
      finds_some_iff.mpr ⟨tree, misses, rfl, first⟩
    obtain ⟨count, stop, hloops, hends⟩ := ih rfl
    refine ⟨count + 1, stop, .next hfirst moves hloops, ?_⟩
    rw [hends, List.length_append, List.length_singleton, Nat.add_assoc, Nat.add_comm 1]
  | _ => cases htrial

theorem Loops.tries {count : Nat} {last : Stage}
    (h : Loops (Finds setting inner) (Cursor.offset ∘ Stage.place) count stage last) (least : Nat)
    (start : Cursor) (found : List ParseTree) :
    ∃ yield misses,
      Tries setting (.iterations inner least start found) stage.scene stage.place yield misses ∧
        yield.map (·.2) = if found.length + count < least then none else some last.place := by
  induction h generalizing found with
  | fail last =>
    obtain ⟨misses, last⟩ := finds_none_iff.mp last
    exact ⟨_, misses, .iterationsStop last, map_repetitionYield _ _ _ _⟩
  | stay last stays =>
    obtain ⟨tree, misses, _, last⟩ := finds_some_iff.mp last
    refine ⟨_, misses, .iterationsStay last stays, ?_⟩
    rw [map_repetitionYield, List.length_append, List.length_singleton]
  | next first moves _ ih =>
    obtain ⟨tree, misses, hscene, first⟩ := finds_some_iff.mp first
    obtain ⟨yield, more, hothers, hends⟩ := ih (found ++ [tree])
    rw [hscene] at hothers
    refine ⟨yield, misses ++ more, .iterationsNext first moves hothers, ?_⟩
    rw [hends, List.length_append, List.length_singleton, Nat.add_assoc, Nat.add_comm 1]

/-- A repetition is a loop that fails for want of matches. -/
theorem reaches_repetition_iff
    (hop : setting.program.ops[bounded.index]? = some (.repetition inner least)) :
    Reaches setting bounded stage stop ↔ ∃ result,
      Counts (Finds setting inner) (Cursor.offset ∘ Stage.place) least stage result ∧
        result.map (·.place) = stop := by
  rw [reaches_iff]
  constructor
  · rintro ⟨yield, misses, htries, rfl⟩
    have hparts : Tries setting (.iterations inner least stage.place []) stage.scene stage.place
        yield misses := by
      cases htries with
      | eval hop' hacts =>
        cases hop.symm.trans hop'
        cases hacts with
        | repetition parts => exact parts
    obtain ⟨count, last, hloops, hends⟩ := hparts.loops
    rw [List.length_nil, Nat.zero_add] at hends
    refine ⟨_, ⟨count, last, hloops, rfl⟩, ?_⟩
    rw [hends]
    split <;> rfl
  · rintro ⟨_, ⟨count, last, hloops, rfl⟩, rfl⟩
    obtain ⟨yield, misses, htries, hends⟩ := hloops.tries least stage.place []
    rw [List.length_nil, Nat.zero_add] at hends
    refine ⟨yield, misses, .eval hop (.repetition htries), ?_⟩
    rw [hends]
    split <;> rfl

/-- What the operation comes to at places, all seen from one scene. -/
def ReachesFrom (setting : Setting τ) (id : OpId) (scene : Scene) : Attempt Cursor :=
  fun place stop ↦ Reaches setting id ⟨scene, place⟩ stop

theorem reachesFrom_definite : (ReachesFrom setting inner scene).Definite := by
  intro place stop stop' hstop hstop'
  exact hstop.unique hstop'

theorem reachesFrom_rests : (ReachesFrom setting inner scene).Rests Cursor.offset := by
  intro place next hmatch hstays
  obtain ⟨yield, misses, htries, hends⟩ := reaches_iff.mp hmatch
  obtain ⟨⟨tree, _⟩, rfl, rfl⟩ := Option.map_eq_some_iff.mp hends
  have hpasses : Passes place _ := htries.onward.stops rfl
  exact hpasses.eq_of_not_lt hstays

omit [Inhabited τ] in
/-- Of a steady operation, places tell all there is to tell. -/
theorem Steady.projects (h : Steady setting inner) (scene : Scene) :
    Projects (Finds setting inner) Stage.place (ReachesFrom setting inner scene) where
  down hfinds := h _ scene _ _ ⟨_, hfinds, rfl⟩
  up hreaches := h scene _ _ _ hreaches

theorem Steady.repetition_iff (h : Steady setting inner)
    (hop : setting.program.ops[bounded.index]? = some (.repetition inner least))
    (scene : Scene) : Reaches setting bounded stage stop ↔
      Counts (ReachesFrom setting inner scene) Cursor.offset least stage.place stop :=
  (reaches_repetition_iff hop).trans (h.projects scene).counts_iff

/-- What a steady operation yields, it reaches from everywhere. -/
theorem Steady.reachesFrom (h : Steady setting inner) {yield : Yield} {misses : List Miss}
    (htries : Tries setting (.eval inner) stage.scene stage.place yield misses) (scene : Scene) :
    ReachesFrom setting inner scene stage.place (yield.map (·.2)) :=
  h _ scene _ _ (reaches_iff.mpr ⟨yield, misses, htries, rfl⟩)

section Sequence

variable (hstar : setting.program.ops[star.index]? = some (.repetition inner 0))
  (hsteady : Steady setting inner)

include hstar hsteady

/-- Items that are copies of a steady operation, and a repetition of it after them. -/
theorem Tries.copies (scene : Scene) {start : Cursor} {yield : Yield} {misses : List Miss}
    (h : Tries setting (.items (List.replicate least inner ++ [star]) start) stage.scene stage.place
      yield misses) :
    Copies (ReachesFrom setting inner scene) Cursor.offset least stage.place
      (yield.map (·.2)) := by
  induction least generalizing stage misses with
  | zero =>
    rw [List.replicate_zero, List.nil_append] at h
    cases h with
    | itemsFail last =>
      obtain ⟨_, _, _, hnone⟩ := (hsteady.repetition_iff hstar scene).mp
        (reaches_iff.mpr ⟨none, misses, last, rfl⟩)
      cases hnone
    | itemsNext last done =>
      obtain ⟨_, _, hloops, hends⟩ := (hsteady.repetition_iff hstar scene).mp
        (reaches_iff.mpr ⟨_, _, last, rfl⟩)
      cases hends
      cases done
      exact .loop hloops
  | succ least ih =>
    rw [List.replicate_succ, List.cons_append] at h
    cases h with
    | itemsFail first => exact .fail (hsteady.reachesFrom first scene)
    | @itemsNext _ _ _ _ _ next tree _ _ _ first others =>
      have hothers : Tries setting _ (Stage.mk (stage.scene.joined tree) next).scene _ yield _ :=
        others
      exact .next (hsteady.reachesFrom first scene) (ih hothers)

theorem Copies.tries {result : Option Cursor}
    (h : Copies (ReachesFrom setting inner scene) Cursor.offset least cursor result)
    (start : Cursor) (around : Scene) :
    ∃ yield misses, Tries setting (.items (List.replicate least inner ++ [star]) start) around
        cursor yield misses ∧ yield.map (·.2) = result := by
  induction h generalizing around with
  | @loop count cursor stop rest =>
    have hstops : Reaches setting star ⟨around, cursor⟩ (some stop) :=
      (hsteady.repetition_iff hstar scene).mpr ⟨count, stop, rest, rfl⟩
    obtain ⟨yield, misses, htries, hends⟩ := reaches_iff.mp hstops
    obtain ⟨⟨tree, _⟩, rfl, rfl⟩ := Option.map_eq_some_iff.mp hends
    exact ⟨_, _, .itemsNext htries .itemsDone, rfl⟩
  | @fail count cursor first =>
    obtain ⟨yield, misses, htries, hends⟩ := reaches_iff.mp (hsteady scene around _ _ first)
    obtain rfl := Option.map_eq_none_iff.mp hends
    exact ⟨none, misses, .itemsFail htries, rfl⟩
  | @next count cursor next result first others ih =>
    obtain ⟨yield, misses, htries, hends⟩ := reaches_iff.mp (hsteady scene around _ _ first)
    obtain ⟨⟨tree, _⟩, rfl, rfl⟩ := Option.map_eq_some_iff.mp hends
    obtain ⟨yield', more, hothers, hends'⟩ := ih (around.joined tree)
    exact ⟨yield', misses ++ more, .itemsNext htries hothers, hends'⟩

/-- The unrolling of a steady operation is a row of copies. -/
theorem Steady.unrolled_iff (hop : setting.program.ops[unrolled.index]? =
      some (.sequence (List.replicate least inner ++ [star]))) (scene : Scene) :
    Reaches setting unrolled stage stop ↔
      Copies (ReachesFrom setting inner scene) Cursor.offset least stage.place stop := by
  rw [reaches_iff]
  constructor
  · rintro ⟨yield, misses, htries, rfl⟩
    cases htries with
    | eval hop' hacts =>
      cases hop.symm.trans hop'
      cases hacts with
      | sequence parts =>
        have hparts : Tries setting _ (Stage.mk stage.scene.opened stage.place).scene _ yield _ :=
          parts
        exact hparts.copies hstar hsteady scene
  · intro hcopies
    obtain ⟨yield, misses, htries, hends⟩ :=
      Copies.tries hstar hsteady hcopies stage.place stage.scene.opened
    exact ⟨yield, misses, .eval hop (.sequence htries), hends⟩

end Sequence

/-! ## Programs without conditions -/

/-- Moved from `scene` to `scene'`, the trial comes to the same where no conditions are asked: it is
no predicate itself, and a sequence in progress keeps its elements. -/
def Trial.Blind (scene scene' : Scene) : Trial → Prop
  | .op _ tried => tried.isPredicate = false
  | .items _ _ => scene'.siblings = scene.siblings
  | _ => True

omit [Inhabited τ] in
/-- Where no conditions are asked, all attempts go the same way among other nodes. -/
theorem Tries.elsewhere (hfree : setting.program.Unconditional) {trial : Trial} {yield : Yield}
    {misses : List Miss} (h : Tries setting trial scene cursor yield misses) {scene' : Scene}
    (hblind : trial.Blind scene scene') : Tries setting trial scene' cursor yield misses := by
  induction h generalizing scene' with
  | eval found acts ih => exact .eval found (ih (hfree _ (Array.mem_of_getElem? found)))
  | terminalHit lead => exact .terminalHit lead
  | terminalMiss lead => exact .terminalMiss lead
  | classHit lead accepted => exact .classHit lead accepted
  | classMiss lead => exact .classMiss lead
  | anyHit lead => exact .anyHit lead
  | anyMiss lead => exact .anyMiss lead
  | sequence parts ih => exact .sequence (ih rfl)
  | itemsDone =>
    rw [← show scene'.siblings = _ from hblind]
    exact .itemsDone
  | itemsFail first ih => exact .itemsFail (ih trivial)
  | itemsNext first others ihfirst ihothers =>
    exact .itemsNext (ihfirst trivial) (ihothers (congrArg (· ++ [_]) hblind))
  | choice parts ih => exact .choice (ih trivial)
  | alternativesNone => exact .alternativesNone
  | alternativesHit first ih => exact .alternativesHit (ih trivial)
  | alternativesNext first others ihfirst ihothers =>
    exact .alternativesNext (ihfirst trivial) (ihothers trivial)
  | repetition parts ih => exact .repetition (ih trivial)
  | iterationsStop last ih => exact .iterationsStop (ih trivial)
  | iterationsStay last stays ih => exact .iterationsStay (ih trivial) stays
  | iterationsNext first moves others ihfirst ihothers =>
    exact .iterationsNext (ihfirst trivial) moves (ihothers trivial)
  | optionalHit part ih => exact .optionalHit (ih trivial)
  | optionalMiss part ih => exact .optionalMiss (ih trivial)
  | lookaheadHit part ih => exact .lookaheadHit (ih trivial)
  | lookaheadMiss part ih => exact .lookaheadMiss (ih trivial)
  | negativeLookaheadHit part ih => exact .negativeLookaheadHit (ih trivial)
  | negativeLookaheadMiss part ih => exact .negativeLookaheadMiss (ih trivial)
  | predicate answer => cases hblind
  | label part ih => exact .label (ih trivial)
  | call callee ih => exact .call (ih trivial)
  | rule found body ih => exact .rule found (ih trivial)

theorem Steady.of_unconditional (hfree : setting.program.Unconditional) (id : OpId) :
    Steady setting id := by
  intro scene scene' place stop hreaches
  obtain ⟨yield, misses, htries, hends⟩ := reaches_iff.mp hreaches
  exact reaches_iff.mpr ⟨yield, misses, htries.elsewhere hfree trivial, hends⟩

/-! ## Unrolling -/

/-- A repetition with a least count matches only where so many matches of its operation follow each
other. Where the matches before the last of these make progress, as they do when the count is one
at most, it fails only where so many do not follow each other.

When what the operation comes to at a place does not depend on what was matched before, then
wherever the repetition matches, the sequence of as many copies and a repetition without a least
count matches too and ends alike; and where the matches before the last copy make progress, either
both match and end alike or both fail. -/
theorem repetition_unrolls (setting : Setting τ) {bounded unrolled star inner : OpId} {least : Nat}
    (hbounded : setting.program.ops[bounded.index]? = some (.repetition inner least))
    (hunrolled : setting.program.ops[unrolled.index]? =
      some (.sequence (List.replicate least inner ++ [star])))
    (hstar : setting.program.ops[star.index]? = some (.repetition inner 0)) (stage : Stage) :
    (∀ stop, Reaches setting bounded stage (some stop) →
      ∃ last, Succession (Finds setting inner) least stage last) ∧
    (Advances (Finds setting inner) (Cursor.offset ∘ Stage.place) least stage →
      Reaches setting bounded stage none →
        ∀ last, ¬ Succession (Finds setting inner) least stage last) ∧
    (least ≤ 1 → Advances (Finds setting inner) (Cursor.offset ∘ Stage.place) least stage) ∧
    (Steady setting inner →
      (∀ stop, Reaches setting bounded stage (some stop) →
        Reaches setting unrolled stage (some stop)) ∧
      (Advances (Finds setting inner) (Cursor.offset ∘ Stage.place) least stage → ∀ stop,
        Reaches setting bounded stage stop ↔ Reaches setting unrolled stage stop)) := by
  refine ⟨fun stop hmatches ↦ ?_, fun hadvances hfails ↦ ?_, .of_le_one, fun hsteady ↦ ?_⟩
  · obtain ⟨result, hcounts, hsome⟩ := (reaches_repetition_iff hbounded).mp hmatches
    obtain ⟨last, rfl, rfl⟩ := Option.map_eq_some_iff.mp hsome
    obtain ⟨count, hloops, hmany⟩ := hcounts.many
    exact hloops.succession hmany
  · obtain ⟨result, hcounts, hnone⟩ := (reaches_repetition_iff hbounded).mp hfails
    obtain rfl := Option.map_eq_none_iff.mp hnone
    obtain ⟨count, last, hloops, hfew⟩ := hcounts.few
    exact hloops.no_succession finds_definite hadvances hfew
  · have hloop (stop : Option Cursor) : Reaches setting bounded stage stop ↔
        Counts (ReachesFrom setting inner stage.scene) Cursor.offset least stage.place stop :=
      hsteady.repetition_iff hbounded stage.scene
    have hcopies (stop : Option Cursor) : Reaches setting unrolled stage stop ↔
        Copies (ReachesFrom setting inner stage.scene) Cursor.offset least stage.place stop :=
      hsteady.unrolled_iff hstar hunrolled stage.scene
    constructor
    · intro stop hmatches
      rw [hloop] at hmatches
      rw [hcopies]
      exact hmatches.copies reachesFrom_rests
    · intro hadvances stop
      rw [hloop, hcopies]
      exact Counts.iff_copies reachesFrom_definite reachesFrom_rests
        ((hsteady.projects stage.scene).advances hadvances)

end Unrolling

/-- An `a` with a `b` after it or not, again and again: at least two of them by a count, and by two
copies. -/
def pairing : Setting Unit where
  program := ⟨"pairing", [],
    #[.terminal "a", .terminal "b", .optional ⟨1⟩, .sequence [⟨0⟩, ⟨2⟩], .repetition ⟨3⟩ 2,
      .repetition ⟨3⟩ 0, .sequence [⟨3⟩, ⟨3⟩, ⟨5⟩]],
    #[⟨"bounded", ⟨4⟩⟩, ⟨"unrolled", ⟨6⟩⟩], ⟨#[]⟩⟩
  input := ['a', 'b', 'a', 'a']
  predicates := #[]
  depthLimit := 8
  observe _ _ := ()

theorem repetition_unrolls_pairing :
    Steady pairing ⟨3⟩ ∧
      Advances (Finds pairing ⟨3⟩) (Cursor.offset ∘ Stage.place) 2
        ⟨.start, ⟨0, ['a', 'b', 'a', 'a']⟩⟩ ∧
      Reaches pairing ⟨4⟩ ⟨.start, ⟨0, ['a', 'b', 'a', 'a']⟩⟩ (some ⟨4, []⟩) ∧
      (∃ last, Succession (Finds pairing ⟨3⟩) 2 ⟨.start, ⟨0, ['a', 'b', 'a', 'a']⟩⟩ last) ∧
      Reaches pairing ⟨6⟩ ⟨.start, ⟨0, ['a', 'b', 'a', 'a']⟩⟩ (some ⟨4, []⟩) := by
  have hsteady : Steady pairing ⟨3⟩ := .of_unconditional (by decide) ⟨3⟩
  have hbounded : Reaches pairing ⟨4⟩ ⟨.start, ⟨0, ['a', 'b', 'a', 'a']⟩⟩ (some ⟨4, []⟩) :=
    .of_start 8 (by decide +kernel)
  have hadvances : Advances (Finds pairing ⟨3⟩) (Cursor.offset ∘ Stage.place) 2
      ⟨.start, ⟨0, ['a', 'b', 'a', 'a']⟩⟩ := by
    intro count place next hless hmatches hmatch
    obtain rfl : count = 0 := by omega
    cases hmatches
    have hfirst : Reaches pairing ⟨3⟩ ⟨.start, ⟨0, ['a', 'b', 'a', 'a']⟩⟩ (some ⟨2, ['a', 'a']⟩) :=
      .of_start 8 (by decide +kernel)
    have hnext : some ⟨2, ['a', 'a']⟩ = some next.place := hfirst.unique ⟨_, hmatch, rfl⟩
    rw [Function.comp_apply, Function.comp_apply, ← Option.some.inj hnext]
    decide
  obtain ⟨hmany, _, _, hcopies⟩ := @repetition_unrolls _ _ pairing ⟨4⟩ ⟨6⟩ ⟨5⟩ ⟨3⟩ 2 rfl rfl rfl
    ⟨.start, ⟨0, ['a', 'b', 'a', 'a']⟩⟩
  exact ⟨hsteady, hadvances, hbounded, hmany _ hbounded,
    ((hcopies hsteady).2 hadvances _).mp hbounded⟩

/-- At least one `a`, or the empty text where one element was matched before: by a count, and by a
copy. -/
def peeking : Setting Unit where
  program := ⟨"peeking", [],
    #[.predicate ⟨0⟩ false, .terminal "a", .choice [⟨0⟩, ⟨1⟩], .repetition ⟨2⟩ 1, .repetition ⟨2⟩ 0,
      .sequence [⟨2⟩, ⟨4⟩]],
    #[⟨"bounded", ⟨3⟩⟩, ⟨"unrolled", ⟨5⟩⟩], ⟨#["one"]⟩⟩
  input := ['a', 'a']
  predicates := #[some ⟨"one", (Guard.countIs 1).condition⟩]
  depthLimit := 8
  observe _ _ := ()

/-- An `a` or nothing, at least twice: by a count, and by two copies. -/
def hollow : Setting Unit where
  program := ⟨"hollow", [],
    #[.terminal "a", .optional ⟨0⟩, .repetition ⟨1⟩ 2, .repetition ⟨1⟩ 0,
      .sequence [⟨1⟩, ⟨1⟩, ⟨3⟩]],
    #[⟨"bounded", ⟨2⟩⟩, ⟨"unrolled", ⟨4⟩⟩], ⟨#[]⟩⟩
  input := []
  predicates := #[]
  depthLimit := 8
  observe _ _ := ()

/-- A predicate among the copies sees the ones before it, so the copies may end elsewhere. And a
repetition stops after an empty match and fails for want of matches, though more of them follow. -/
theorem repetition_minds_copies :
    (peeking.program.ops[3]? = some (.repetition ⟨2⟩ 1) ∧
      peeking.program.ops[5]? = some (.sequence (List.replicate 1 ⟨2⟩ ++ [⟨4⟩])) ∧
      peeking.program.ops[4]? = some (.repetition ⟨2⟩ 0) ∧
      Reaches peeking ⟨3⟩ ⟨.start, ⟨0, ['a', 'a']⟩⟩ (some ⟨2, []⟩) ∧
      ¬ Reaches peeking ⟨5⟩ ⟨.start, ⟨0, ['a', 'a']⟩⟩ (some ⟨2, []⟩)) ∧
    (hollow.program.ops[2]? = some (.repetition ⟨1⟩ 2) ∧
      hollow.program.ops[4]? = some (.sequence (List.replicate 2 ⟨1⟩ ++ [⟨3⟩])) ∧
      hollow.program.ops[3]? = some (.repetition ⟨1⟩ 0) ∧
      Reaches hollow ⟨2⟩ ⟨.start, ⟨0, []⟩⟩ none ∧
      Reaches hollow ⟨4⟩ ⟨.start, ⟨0, []⟩⟩ (some ⟨0, []⟩) ∧
      ∃ last, Succession (Finds hollow ⟨1⟩) 2 ⟨.start, ⟨0, []⟩⟩ last) := by
  constructor
  · have hunrolled : Reaches peeking ⟨5⟩ ⟨.start, ⟨0, ['a', 'a']⟩⟩ (some ⟨1, ['a']⟩) :=
      .of_start 8 (by decide +kernel)
    refine ⟨rfl, rfl, rfl, .of_start 8 (by decide +kernel), fun hsame ↦ ?_⟩
    cases hunrolled.unique hsame
  · have hempty (scene : Scene) : ∃ scene', Finds hollow ⟨1⟩ ⟨scene, ⟨0, []⟩⟩
        (some ⟨scene', ⟨0, []⟩⟩) := by
      have hmisses : Tries hollow (.eval ⟨0⟩) scene ⟨0, []⟩ none _ :=
        .eval rfl (.terminalMiss (by rintro _ ⟨⟩))
      have htries : Tries hollow (.eval ⟨1⟩) scene ⟨0, []⟩ (Program.emptyYield ⟨0, []⟩) _ :=
        .eval rfl (.optionalMiss hmisses)
      exact ⟨_, finds_some_iff.mpr ⟨_, _, rfl, htries⟩⟩
    obtain ⟨first, hfirst⟩ := hempty .start
    obtain ⟨second, hsecond⟩ := hempty first
    exact ⟨rfl, rfl, rfl, .of_start 8 (by decide +kernel), .of_start 8 (by decide +kernel), _,
      .next hfirst (.next hsecond .none)⟩

end PegKit.Machine
