import PegKit.Proofs.Cst.Tolls
import PegKit.Proofs.Cst.Totality

/-!
# Limits and what is read under them

Whatever the limits are, reading asks them for the same tolls, and where they pay, it comes to the
same end. The levels that it asks for show in the tree that a reading without limits ends with: they
are the prefixed expressions inside each other. So it is the text that decides which limits are
enough.
-/

namespace PegKit

/-- Prefixed expressions, apart from the repetition marks after them. -/
def Kind.isPrefixed : Kind → Bool
  | .lookaheadNode | .predicateNode | .labelNode | .groupNode => true
  | .refNode | .strNode | .charClassNode | .anyNode => true
  | _ => false

/-- Tokens that can start an operand. -/
def KindSet.operandFirst : KindSet :=
  ⟨[.parenOpen, .identifier, .doubleQuote, .singleQuote, .charClass, .dot]⟩

namespace Cst

/-! ## Levels of trees -/

mutual

/-- The most prefixed expressions inside each other. -/
def levels : Cst → Nat
  | .leaf _ => 0
  | .node kind children => levelsOfList children + if kind.isPrefixed then 1 else 0

def levelsOfList : List Cst → Nat
  | [] => 0
  | tree :: rest => max tree.levels (levelsOfList rest)

end

/-- The levels of what the open node holds. -/
def State.levels (s : State) : Nat := levelsOfList s.built.toList

theorem levelsOfList_append (trees more : List Cst) :
    levelsOfList (trees ++ more) = max (levelsOfList trees) (levelsOfList more) := by
  induction trees with
  | nil => exact (Nat.zero_max _).symm
  | cons tree rest ih => rw [List.cons_append, levelsOfList, levelsOfList, ih, max_assoc]

theorem levelsOfList_leaves (tokens : List Token) : levelsOfList (tokens.map Cst.leaf) = 0 := by
  induction tokens with
  | nil => rfl
  | cons token rest ih => rw [List.map_cons, levelsOfList, ih, levels, Nat.max_self]

/-- Trivia takes no level. -/
theorem levels_flushed (built : Array Cst) (pending : List Token) :
    levelsOfList (built ++ (pending.map Cst.leaf).toArray).toList = levelsOfList built.toList := by
  rw [Array.toList_append, levelsOfList_append, levelsOfList_leaves, Nat.max_zero]

theorem levels_pushed (built : Array Cst) (tree : Cst) :
    levelsOfList (built.push tree).toList = max (levelsOfList built.toList) tree.levels := by
  rw [Array.toList_push, levelsOfList_append, levelsOfList, levelsOfList, Nat.max_zero]

/-- What is put into a node that is no prefixed expression has the levels that it had. -/
theorem levels_wrapped (built : Array Cst) (start : Nat) {kind : Kind}
    (hkind : kind.isPrefixed = false) :
    levelsOfList ((built.take start).push (.node kind (built.toList.drop start))).toList =
      levelsOfList built.toList := by
  have hnode : levels (.node kind (built.toList.drop start)) =
      levelsOfList (built.toList.drop start) := by
    rw [levels, hkind]
    rfl
  have htake : (built.take start).toList = built.toList.take start := by simp
  rw [levels_pushed, hnode, htake, ← levelsOfList_append, List.take_append_drop]

namespace Parse

/-! ## Parts of reading and their tolls -/

/-- A part of reading that, without limits, comes to `a` and `s'` and asks for `tolls`. With any
levels and fuel it comes to the same if they pay the tolls. It leaves trees of `opened` levels more
than it asks for. -/
structure Trip {α : Type} (opened most : Nat) (part : Nat → Parse α) (s : State) (a : α)
    (s' : State) (tolls : List Toll) : Prop where
  unlimited : s'.fuel = none
  consumed : s'.consumed = s.consumed + Toll.tokens tolls
  levels : s'.levels = max s.levels (Toll.deepest tolls + opened)
  within : Toll.deepest tolls ≤ most
  run : ∀ levels fuel, (part levels).run { s with fuel } = do
    let left ← Toll.payAll levels fuel tolls
    return (a, { s' with fuel := left })

/-- From a state that `before` holds of, what a part does with `most` levels and without a limit on
tokens, it does with any limits that pay for it. -/
structure Rises {α : Type} (before : State → Prop) (opened most : Nat) (part : Nat → Parse α) :
    Prop where
  holds : ∀ {s a s'}, before s → s.fuel = none → (part most).run s = .ok (a, s') →
    ∃ tolls, Trip opened most part s a s' tolls

/-- A part that asks for the levels of the trees that it leaves, from any state. -/
abbrev Tolled {α : Type} (most : Nat) (part : Nat → Parse α) : Prop :=
  Rises (fun _ ↦ True) 0 most part

/-- The current token is right ahead, and of `kind`. -/
structure InFront (kind : Kind) (s : State) : Prop where
  passed : Passed s
  kind : first s.remaining = kind

variable {α β : Type} {opened most : Nat} {part part' : Nat → Parse α}

namespace Trip

variable {s s₁ s' : State} {a : α} {b : β} {tolls more : List Toll}

/-- Tolls add up, and levels do as far as `both` says. -/
theorem append {opened' both : Nat} {next : Nat → α → Parse β}
    (h : Trip opened most part s a s₁ tolls)
    (h' : Trip opened' most (fun levels ↦ next levels a) s₁ b s' more)
    (hboth : max (Toll.deepest tolls + opened) (Toll.deepest more + opened') =
      max (Toll.deepest tolls) (Toll.deepest more) + both) :
    Trip both most (fun levels ↦ part levels >>= next levels) s b s' (tolls ++ more) where
  unlimited := h'.unlimited
  consumed := by rw [h'.consumed, h.consumed, Toll.tokens_append, Nat.add_assoc]
  levels := by rw [h'.levels, h.levels, Toll.deepest_append, max_assoc, hboth]
  within := by
    rw [Toll.deepest_append]
    exact max_le h.within h'.within
  run levels fuel := by
    rw [StateT.run_bind, h.run, Toll.payAll_append, bind_assoc, bind_assoc]
    refine bind_congr fun left ↦ ?_
    rw [pure_bind]
    exact h'.run levels left

/-- A part that asks for no level is the same where there are more of them. -/
theorem mono {part : Parse α} (h : Trip opened 0 (fun _ ↦ part) s a s' tolls) :
    Trip opened most (fun _ ↦ part) s a s' tolls :=
  ⟨h.unlimited, h.consumed, h.levels, h.within.trans (Nat.zero_le most), h.run⟩

end Trip

namespace Rises

variable {before : State → Prop} {next : Nat → α → Parse β}

/-- A part that asks for nothing. -/
theorem free {part : Parse α}
    (h : ∀ {s a s'}, part.run s = .ok (a, s') → s'.consumed = s.consumed ∧ s'.levels = s.levels ∧
      ∀ fuel, part.run { s with fuel } = .ok (a, { s' with fuel })) :
    Tolled most fun _ ↦ part where
  holds {s a s'} _ hfuel hrun := by
    obtain ⟨hconsumed, hlevels, hblind⟩ := h hrun
    have hkept : s' = { s' with fuel := s.fuel } := by
      have hsame := hrun.symm.trans (hblind s.fuel)
      injection hsame with hsame
      injection hsame
    have hunlimited : s'.fuel = none := by rw [hkept, hfuel]
    refine ⟨[], hunlimited, hconsumed, ?_, Nat.zero_le most, fun _ fuel ↦ hblind fuel⟩
    exact hlevels.trans (Nat.max_zero _).symm

theorem pure (a : α) : Tolled most fun _ ↦ pure a := by
  refine free fun hrun ↦ ?_
  obtain ⟨rfl, rfl⟩ := run_pure hrun
  exact ⟨rfl, rfl, fun _ ↦ rfl⟩

theorem throw (fault : Fault) : Rises before opened most fun _ ↦ (throw fault : Parse α) where
  holds _ _ hrun := by cases hrun

theorem bind (h : Rises before 0 most part)
    (h' : ∀ a, Tolled most fun levels ↦ next levels a) :
    Rises before 0 most fun levels ↦ part levels >>= next levels where
  holds hs hfuel hrun := by
    obtain ⟨a, s₁, hfirst, hrest⟩ := run_bind hrun
    obtain ⟨tolls, htrip⟩ := h.holds hs hfuel hfirst
    obtain ⟨more, htrip'⟩ := (h' a).holds trivial htrip.unlimited hrest
    exact ⟨tolls ++ more, htrip.append htrip' rfl⟩

/-- After a part that asks for no level. -/
theorem after {first : Parse α} {between : α → State → Prop} (h : Tolled 0 fun _ ↦ first)
    (hbetween : ∀ {s a s'}, before s → first.run s = .ok (a, s') → between a s')
    (h' : ∀ a, Rises (between a) opened most fun levels ↦ next levels a) :
    Rises before opened most fun levels ↦ first >>= next levels where
  holds hs hfuel hrun := by
    obtain ⟨a, s₁, hfirst, hrest⟩ := run_bind hrun
    obtain ⟨tolls, htrip⟩ := h.holds trivial hfuel hfirst
    obtain ⟨more, htrip'⟩ := (h' a).holds (hbetween hs hfirst) htrip.unlimited hrest
    have hnone : Toll.deepest tolls = 0 := Nat.le_zero.mp htrip.within
    refine ⟨tolls ++ more, htrip.mono.append htrip' ?_⟩
    rw [hnone, Nat.zero_max, Nat.zero_max]

/-- Before a part that asks for no level. -/
theorem followed {last : α → Parse β} (h : Rises before opened most part)
    (h' : ∀ a, Tolled 0 fun _ ↦ last a) :
    Rises before opened most fun levels ↦ part levels >>= last where
  holds hs hfuel hrun := by
    obtain ⟨a, s₁, hfirst, hrest⟩ := run_bind hrun
    obtain ⟨tolls, htrip⟩ := h.holds hs hfuel hfirst
    obtain ⟨more, htrip'⟩ := (h' a).holds trivial htrip.unlimited hrest
    have hnone : Toll.deepest more = 0 := Nat.le_zero.mp htrip'.within
    refine ⟨tolls ++ more, htrip.append htrip'.mono ?_⟩
    rw [hnone, Nat.max_zero, Nat.max_zero]

theorem anywhere (h : Rises (fun _ ↦ True) opened most part) : Rises before opened most part where
  holds _ := h.holds trivial

/-- A part of what holds before that is not about the state. -/
theorem assume {p : Prop} (h : p → Rises before opened most part) :
    Rises (fun s ↦ p ∧ before s) opened most part where
  holds hs := (h hs.1).holds hs.2

theorem ite {p : Prop} [Decidable p] (h : Rises before opened most part)
    (h' : Rises before opened most part') :
    Rises before opened most fun levels ↦ if p then part levels else part' levels := by
  split
  · exact h
  · exact h'

/-- A change of the state that neither reads nor changes the fuel. -/
theorem modify {change : State → State}
    (hchange : ∀ s fuel, change { s with fuel } = { change s with fuel })
    (hconsumed : ∀ s, (change s).consumed = s.consumed)
    (hlevels : ∀ s, (change s).levels = s.levels) :
    Tolled most fun _ ↦ (modify change : Parse Unit) := by
  refine free fun {s _ _} hrun ↦ ?_
  obtain rfl := run_modify hrun
  exact ⟨hconsumed s, hlevels s, fun fuel ↦ congrArg (fun s ↦ Except.ok ((), s)) (hchange s fuel)⟩

/-- A part that looks at the state first, but not at the fuel. -/
theorem get_bind {next : Nat → State → Parse β}
    (hblind : ∀ levels s fuel, next levels { s with fuel } = next levels s)
    (h : ∀ s, Tolled most fun levels ↦ next levels s) :
    Tolled most fun levels ↦ get >>= next levels where
  holds {s a s'} _ hfuel hrun := by
    obtain ⟨tolls, htrip⟩ := (h s).holds trivial hfuel (run_get_bind hrun)
    refine ⟨tolls, htrip.unlimited, htrip.consumed, htrip.levels, htrip.within,
      fun levels fuel ↦ ?_⟩
    rw [← htrip.run levels fuel, ← hblind levels s fuel]
    rfl

theorem iterate {step : Nat → α → Parse (Option α)}
    (h : ∀ a, Tolled most fun levels ↦ step levels a) (bound : Nat) (a : α) :
    Tolled most fun levels ↦ Parse.iterate (step levels) bound a := by
  induction bound generalizing a with
  | zero => exact .throw .stuck
  | succ bound ih =>
    refine .bind (h a) fun next ↦ ?_
    cases next with
    | none => exact .pure a
    | some next => exact ih next

theorem untilDone {step : Nat → α → Parse (Option α)}
    (h : ∀ a, Tolled most fun levels ↦ step levels a) (a : α) :
    Tolled most fun levels ↦ Parse.untilDone (step levels) a :=
  .get_bind (fun _ _ _ ↦ rfl) fun _ ↦ iterate h _ a

end Rises

/-! ## Looking -/

theorem passTrivia_tolled : Tolled most fun _ ↦ passTrivia :=
  .modify (fun _ _ ↦ rfl) (fun _ ↦ rfl) fun _ ↦ rfl

theorem countLookahead_tolled : Tolled most fun _ ↦ countLookahead := by
  have hcount (s : State) : (countLookahead : Parse Unit).run s =
      if s.lookaheads = 0 then .error .stuck
      else .ok ((), { s with lookaheads := s.lookaheads - 1 }) := by
    change StateT.run (if s.lookaheads = 0 then _ else _ : Parse Unit) s = _
    split <;> rfl
  refine .free fun {s _ s'} hrun ↦ ?_
  rw [hcount] at hrun
  split at hrun
  · cases hrun
  · next hlooks =>
    cases hrun
    refine ⟨rfl, rfl, fun fuel ↦ ?_⟩
    rw [hcount, if_neg hlooks]

theorem restoreLookaheads_tolled : Tolled most fun _ ↦ restoreLookaheads :=
  .modify (fun _ _ ↦ rfl) (fun _ ↦ rfl) fun _ ↦ rfl

theorem current_tolled : Tolled most fun _ ↦ current :=
  .bind passTrivia_tolled fun _ ↦ .bind countLookahead_tolled fun _ ↦
    .get_bind (fun _ _ _ ↦ rfl) fun _ ↦ .pure _

theorem currentSpan_tolled : Tolled most fun _ ↦ currentSpan :=
  .bind passTrivia_tolled fun _ ↦ .get_bind (fun _ _ _ ↦ rfl) fun _ ↦ .pure _

theorem currentIs_tolled (kind : Kind) : Tolled most fun _ ↦ currentIs kind :=
  .bind current_tolled fun _ ↦ .pure _

theorem currentIsIn_tolled (set : KindSet) : Tolled most fun _ ↦ currentIsIn set :=
  .bind current_tolled fun _ ↦ .pure _

theorem nextIs_tolled (kind : Kind) : Tolled most fun _ ↦ nextIs kind := by
  refine .bind passTrivia_tolled fun _ ↦ .bind countLookahead_tolled fun _ ↦
    .get_bind (fun _ _ _ ↦ rfl) fun s ↦ ?_
  split <;> exact .pure _

theorem isOver_tolled : Tolled most fun _ ↦ isOver :=
  .get_bind (fun _ _ _ ↦ rfl) fun _ ↦ .pure _

theorem atEnd_tolled : Tolled most fun _ ↦ atEnd :=
  .bind passTrivia_tolled fun _ ↦ isOver_tolled

theorem expect_tolled (kind : Kind) : Tolled most fun _ ↦ expect kind :=
  .bind current_tolled fun _ ↦ .ite (.throw _) (.pure ())

/-- Where no trivia stands, there is none to pass. -/
theorem passTrivia_stays {s s' : State} {u : Unit} (h : Passed s)
    (hrun : passTrivia.run s = .ok (u, s')) : s'.remaining = s.remaining := by
  obtain rfl := run_modify hrun
  change s.remaining.dropWhile Token.isTrivia = s.remaining
  unfold Passed at h
  cases hremaining : s.remaining with
  | nil => rfl
  | cons token rest =>
    rw [hremaining] at h
    exact List.dropWhile_cons_of_neg (by simp [h token rfl])

/-- The current token is in front once it has been looked at. -/
theorem current_inFront {s s' : State} {kind : Kind} (hrun : current.run s = .ok (kind, s')) :
    InFront kind s' := by
  obtain ⟨_, s₁, hpass, hrest⟩ := run_bind hrun
  obtain ⟨_, s₂, hcount, hlook⟩ := run_bind hrest
  obtain rfl := run_modify hpass
  obtain ⟨lookaheads, rfl⟩ := countLookahead_reads hcount
  obtain ⟨hkind, rfl⟩ := run_gets hlook
  refine ⟨fun token htoken ↦ ?_, hkind⟩
  have hhead := List.head?_dropWhile_not Token.isTrivia s.remaining
  rw [Option.mem_def.mp htoken] at hhead
  simpa using hhead

/-- A second look finds what the first one found. -/
theorem current_again {s s' : State} {kind found : Kind} (h : InFront kind s)
    (hrun : current.run s = .ok (found, s')) : kind = found := by
  obtain ⟨_, s₁, hpass, hrest⟩ := run_bind hrun
  obtain ⟨_, s₂, hcount, hlook⟩ := run_bind hrest
  have hstays := passTrivia_stays h.passed hpass
  obtain ⟨lookaheads, rfl⟩ := countLookahead_reads hcount
  obtain ⟨rfl, rfl⟩ := run_gets hlook
  rw [← h.kind, ← hstays]
  rfl

theorem nextIs_stays {s s' : State} {kind sought : Kind} {b : Bool} (h : InFront kind s)
    (hrun : (nextIs sought).run s = .ok (b, s')) : InFront kind s' := by
  obtain ⟨_, s₁, hpass, hrest⟩ := run_bind hrun
  obtain ⟨_, s₂, hcount, hlook⟩ := run_bind hrest
  have hstays := passTrivia_stays h.passed hpass
  obtain ⟨lookaheads, rfl⟩ := countLookahead_reads hcount
  have hremaining : s'.remaining = s.remaining := by
    rw [← hstays]
    have hmatch := run_get_bind hlook
    split at hmatch <;> exact (run_pure hmatch).2 ▸ rfl
  refine ⟨?_, ?_⟩
  · unfold Passed
    rw [hremaining]
    exact h.passed
  · rw [hremaining]
    exact h.kind

/-! ## Building -/

theorem addTrivia_tolled : Tolled most fun _ ↦ addTrivia :=
  .modify (fun _ _ ↦ rfl) (fun _ ↦ rfl) fun s ↦ levels_flushed s.built s.pending

theorem mark_tolled : Tolled most fun _ ↦ mark :=
  .bind addTrivia_tolled fun _ ↦ .get_bind (fun _ _ _ ↦ rfl) fun _ ↦ .pure _

theorem mark_stays {s s' : State} {kind : Kind} {start : Nat} (h : InFront kind s)
    (hrun : mark.run s = .ok (start, s')) : InFront kind s' := by
  obtain ⟨_, _, hflush, hsize⟩ := run_bind hrun
  obtain rfl := run_modify hflush
  obtain ⟨_, rfl⟩ := run_gets hsize
  exact ⟨h.passed, h.kind⟩

theorem wrapFrom_tolled (start : Nat) {kind : Kind} (hkind : kind.isPrefixed = false) :
    Tolled most fun _ ↦ wrapFrom start kind :=
  .modify (fun _ _ ↦ rfl) (fun _ ↦ rfl) fun s ↦ levels_wrapped s.built start hkind

/-- A node for a prefixed expression has one level more than what is in it. -/
theorem node_rises {before : State → Prop} (kind : Kind) {body : Nat → Parse Unit}
    (h : Tolled most body) :
    Rises before (if kind.isPrefixed then 1 else 0) most fun levels ↦ node kind (body levels) where
  holds {s _ _} _ hfuel hrun := by
    obtain ⟨s₁, hbody, rfl⟩ := run_node hrun
    let inner : State := { s with pending := [], built := #[] }
    obtain ⟨tolls, htrip⟩ := h.holds (s := inner) trivial hfuel hbody
    refine ⟨tolls, htrip.unlimited, htrip.consumed, ?_, htrip.within, fun levels fuel ↦ ?_⟩
    · have hinner : levelsOfList s₁.built.toList = Toll.deepest tolls :=
        htrip.levels.trans (Nat.zero_max _)
      unfold State.levels
      rw [levels_pushed, levels_flushed, levels, hinner]
    · change ((body levels).run { inner with fuel } >>= _) = _
      rw [htrip.run levels fuel, bind_assoc]
      rfl

/-- Consuming a token asks for one. -/
theorem bump_tolled : Tolled most fun _ ↦ bump where
  holds {s u s'} _ hfuel hrun := by
    obtain ⟨token, rest, hremaining, rfl⟩ := run_bump hrun
    have hlevels : levelsOfList
        ((s.built ++ (s.pending.map Cst.leaf).toArray).push (.leaf token)).toList = s.levels := by
      rw [levels_pushed, levels_flushed, levels, Nat.max_zero]
      rfl
    obtain ⟨remaining, pending, built, diagnostics, fuel, consumed, lookaheads, place, length,
      exhausted⟩ := s
    obtain rfl : fuel = none := hfuel
    obtain rfl : remaining = token :: rest := hremaining
    refine ⟨[.token], rfl, rfl, hlevels.trans (Nat.max_zero _).symm, Nat.zero_le most,
      fun levels fuel ↦ ?_⟩
    match fuel with
    | none => rfl
    | some 0 => rfl
    | some (fuel + 1) => rfl

theorem eat_tolled (kind : Kind) : Tolled most fun _ ↦ eat kind :=
  .bind (currentIs_tolled kind) fun _ ↦ .ite (.bind bump_tolled fun _ ↦ .pure _) (.pure _)

/-! ## Reports -/

theorem freshPlace_tolled (offset : Nat) : Tolled most fun _ ↦ freshPlace offset :=
  .get_bind (fun _ _ _ ↦ rfl) fun _ ↦
    .bind (.modify (fun _ _ ↦ rfl) (fun _ ↦ rfl) fun _ ↦ rfl) fun _ ↦ .pure _

theorem report_tolled (diagnostic : Diagnostic) : Tolled most fun _ ↦ report diagnostic :=
  .modify (fun _ _ ↦ rfl) (fun _ ↦ rfl) fun _ ↦ rfl

theorem reportHere_tolled (wording : Text.Span → Diagnostic) :
    Tolled most fun _ ↦ reportHere wording :=
  .bind currentSpan_tolled fun _ ↦ .bind (freshPlace_tolled _) fun _ ↦
    .ite (report_tolled _) (.pure ())

theorem errorUnclosed_tolled (kind : DiagnosticKind) (note : String) (opening : Text.Span) :
    Tolled most fun _ ↦ errorUnclosed kind note opening := reportHere_tolled _

theorem errorAndBump_tolled (kind : DiagnosticKind) (detail : String) :
    Tolled most fun _ ↦ errorAndBump kind detail :=
  .bind (reportHere_tolled _) fun _ ↦ .get_bind (fun _ _ _ ↦ rfl) fun _ ↦
    .ite (node_rises .error bump_tolled) (.pure ())

theorem stopsAt_tolled (recovery : KindSet) : Tolled most fun _ ↦ stopsAt recovery :=
  .bind (currentIsIn_tolled recovery) fun _ ↦ .ite (.pure _) atEnd_tolled

theorem skipToken_tolled (recovery : KindSet) (u : Unit) :
    Tolled most fun _ ↦ skipToken recovery u :=
  .bind (stopsAt_tolled recovery) fun _ ↦ .ite (.pure _) (.bind bump_tolled fun _ ↦ .pure _)

theorem errorAndRecover_tolled (kind : DiagnosticKind) (detail : String) (recovery : KindSet) :
    Tolled most fun _ ↦ errorAndRecover kind detail recovery :=
  .bind (stopsAt_tolled recovery) fun _ ↦ .ite (reportHere_tolled _)
    (node_rises .error (.bind (reportHere_tolled _) fun _ ↦
      .untilDone (skipToken_tolled recovery) ()))

theorem takeToken_tolled (u : Unit) : Tolled most fun _ ↦ takeToken u :=
  .bind isOver_tolled fun _ ↦ .ite (.pure _) (.bind bump_tolled fun _ ↦ .pure _)

theorem bumpRest_tolled : Tolled most fun _ ↦ bumpRest :=
  node_rises .error (.untilDone takeToken_tolled ())

/-! ## Expressions -/

theorem string_rises {before : State → Prop} : Rises before 1 most fun _ ↦ string :=
  node_rises .strNode (.bind current_tolled fun quote ↦ .bind bump_tolled fun _ ↦
    .bind (eat_tolled .stringValue) fun _ ↦ .bind (eat_tolled quote) fun _ ↦ .pure ())

theorem nextQuantifier_tolled (start : Nat) (u : Unit) :
    Tolled most fun _ ↦ nextQuantifier start u :=
  .bind (currentIsIn_tolled .quantifiers) fun _ ↦ .ite (.pure _)
    (.bind bump_tolled fun _ ↦ .bind (wrapFrom_tolled _ rfl) fun _ ↦ .pure _)

/-- What asks for levels only in front of an expression, where it has just been looked for. -/
theorem expected_tolled (h : ∀ kind, KindSet.expressionFirst.contains kind = true →
    Rises (InFront kind) 0 most part) (h' : Tolled most part') :
    Tolled most fun levels ↦ currentIsIn .expressionFirst >>= fun isFirst ↦
      if isFirst then part levels else part' levels := by
  have hlook : Tolled most fun levels ↦ current >>= fun kind ↦
      if KindSet.expressionFirst.contains kind then part levels else part' levels := by
    refine .after current_tolled (fun _ ↦ current_inFront) fun kind ↦ ?_
    split
    · next hkind => exact h kind hkind
    · exact h'.anywhere
  simpa only [currentIsIn, bind_assoc, pure_bind] using hlook

section Items

variable {item : Nat → Parse Unit}
  (hitem : ∀ kind, KindSet.expressionFirst.contains kind = true → Rises (InFront kind) 0 most item)

include hitem

theorem nextItem_tolled (count : Nat) : Tolled most fun levels ↦ nextItem (item levels) count :=
  .bind atEnd_tolled fun _ ↦ .ite (.pure _)
    (.bind (currentIsIn_tolled .sequenceEnd) fun _ ↦ .ite (.pure _)
      (expected_tolled (fun kind hkind ↦ .bind (hitem kind hkind) fun _ ↦ .pure _)
        (.bind (errorAndBump_tolled _ _) fun _ ↦ .pure _)))

theorem sequence_tolled : Tolled most fun levels ↦ sequence (item levels) :=
  .bind mark_tolled fun _ ↦ .bind (.untilDone (nextItem_tolled hitem) 0) fun _ ↦
    .ite (wrapFrom_tolled _ rfl) (.pure ())

theorem nextAlternative_tolled (u : Unit) :
    Tolled most fun levels ↦ nextAlternative (item levels) u :=
  .bind (currentIs_tolled .slash) fun _ ↦ .ite (.pure _)
    (.bind bump_tolled fun _ ↦ .bind (currentIsIn_tolled .expressionFirst) fun _ ↦
      .ite (.bind (sequence_tolled hitem) fun _ ↦ .pure _)
        (.bind (reportHere_tolled _) fun _ ↦ .pure _))

theorem choice_tolled : Tolled most fun levels ↦ choice (item levels) :=
  .bind mark_tolled fun _ ↦ .bind (sequence_tolled hitem) fun _ ↦
    .bind (currentIs_tolled .slash) fun _ ↦
      .ite (.bind (.untilDone (nextAlternative_tolled hitem) ()) fun _ ↦ wrapFrom_tolled _ rfl)
        (.pure ())

theorem group_rises {before : State → Prop} :
    Rises before 1 most fun levels ↦ group (item levels) := by
  refine .after (expect_tolled _) (fun _ _ ↦ trivial) fun _ ↦ node_rises .groupNode
    (.bind currentSpan_tolled fun opening ↦ .bind bump_tolled fun _ ↦
      .bind (currentIs_tolled .parenClose) fun _ ↦
        .ite (.bind (reportHere_tolled _) fun _ ↦ bump_tolled)
          (.bind (currentIsIn_tolled .expressionFirst) fun _ ↦ ?_))
  have hclose : Tolled most fun _ ↦ (do
      if !(← eat .parenClose) then
        errorUnclosed .unclosedGroup "group starts here" opening : Parse Unit) :=
    .bind (eat_tolled _) fun _ ↦ .ite (errorUnclosed_tolled _ _ _) (.pure ())
  exact .ite (.bind (choice_tolled hitem) fun _ ↦ hclose) hclose

/-- In front of an operand, one is read. -/
theorem primary_rises {kind : Kind} (hkind : KindSet.operandFirst.contains kind = true) :
    Rises (InFront kind) 1 most fun levels ↦ primary (item levels) := by
  have hagain {s s' : State} {found : Kind} (h : InFront kind s)
      (hrun : current.run s = .ok (found, s')) : kind = found ∧ True :=
    ⟨current_again h hrun, trivial⟩
  refine .after current_tolled hagain fun found ↦ .assume fun hfound ↦ ?_
  subst hfound
  split
  · exact node_rises .refNode bump_tolled
  · exact node_rises .charClassNode bump_tolled
  · exact node_rises .anyNode bump_tolled
  · exact string_rises
  · exact string_rises
  · exact group_rises hitem
  · simp_all [KindSet.operandFirst, KindSet.contains]

theorem repeated_rises {kind : Kind} (hkind : KindSet.operandFirst.contains kind = true) :
    Rises (InFront kind) 1 most fun levels ↦ repeated (item levels) := by
  refine .after mark_tolled mark_stays fun start ↦ ?_
  exact .followed (primary_rises hitem hkind) fun _ ↦ .untilDone (nextQuantifier_tolled start) ()

theorem operand_tolled (what : String) : Tolled most fun levels ↦ operand (item levels) what :=
  expected_tolled hitem (reportHere_tolled _)

theorem guarded_rises {before : State → Prop} :
    Rises before 1 most fun levels ↦ guarded (item levels) :=
  .after (nextIs_tolled .block) (fun _ _ ↦ trivial) fun _ ↦ .ite
    (node_rises .predicateNode (.bind bump_tolled fun _ ↦ bump_tolled))
    (node_rises .lookaheadNode (.bind bump_tolled fun _ ↦ operand_tolled hitem _))

theorem labelled_rises {kind : Kind} (hkind : KindSet.operandFirst.contains kind = true) :
    Rises (InFront kind) 1 most fun levels ↦ labelled (item levels) := by
  refine .after (nextIs_tolled .colon) nextIs_stays fun _ ↦ .ite ?_ (repeated_rises hitem hkind)
  exact node_rises .labelNode (.bind bump_tolled fun _ ↦ .bind bump_tolled fun _ ↦
    operand_tolled hitem _)

/-- In front of an expression, one is read. -/
theorem prefixedBody_rises {kind : Kind} (hkind : KindSet.expressionFirst.contains kind = true) :
    Rises (InFront kind) 1 most fun levels ↦ prefixedBody (item levels) := by
  have hagain {s s' : State} {found : Kind} (h : InFront kind s)
      (hrun : current.run s = .ok (found, s')) : kind = found ∧ InFront found s' :=
    ⟨current_again h hrun, current_inFront hrun⟩
  refine .after current_tolled hagain fun found ↦ .assume fun hfound ↦ ?_
  subst hfound
  split
  · exact guarded_rises hitem
  · exact guarded_rises hitem
  · exact labelled_rises hitem rfl
  · next hamp hbang _ =>
    have hoperand : KindSet.operandFirst.contains kind = true := by
      simp_all [KindSet.operandFirst, KindSet.expressionFirst, KindSet.contains]
    exact repeated_rises hitem hoperand

end Items

/-- A level asks for itself, and inside it every level lies one deeper. -/
theorem prefixed_rises (kind : Kind) (hkind : KindSet.expressionFirst.contains kind = true) :
    Rises (InFront kind) 0 most prefixed := by
  induction most generalizing kind with
  | zero => exact ⟨fun _ _ hrun ↦ by cases hrun⟩
  | succ most ih =>
    let body (levels : Nat) : Parse Unit := do
      restoreLookaheads
      prefixedBody (prefixed levels)
      restoreLookaheads
    have hfront {s s' : State} {u : Unit} (h : InFront kind s)
        (hrun : restoreLookaheads.run s = .ok (u, s')) : InFront kind s' := by
      obtain rfl := run_modify hrun
      exact ⟨h.passed, h.kind⟩
    have hbody : Rises (InFront kind) 1 most body :=
      .after restoreLookaheads_tolled hfront fun _ ↦
        .followed (prefixedBody_rises ih hkind) fun _ ↦ restoreLookaheads_tolled
    constructor
    intro s u s' hs hfuel hrun
    obtain ⟨tolls, htrip⟩ := hbody.holds hs hfuel hrun
    have hdeepest := Toll.deepest_deepen tolls
    refine ⟨.level 1 :: tolls.map Toll.deepen, htrip.unlimited, ?_, ?_, ?_, fun levels fuel ↦ ?_⟩
    · rw [htrip.consumed, ← Toll.tokens_deepen tolls]
      rfl
    · rw [hdeepest]
      exact htrip.levels
    · rw [hdeepest]
      exact Nat.succ_le_succ htrip.within
    · cases levels with
      | zero => rfl
      | succ levels =>
        have hpay : Toll.payAll (levels + 1) fuel (.level 1 :: tolls.map Toll.deepen) =
            Toll.payAll levels fuel tolls :=
          calc
            _ = Toll.payAll (levels + 1) fuel (tolls.map Toll.deepen) := by
              simp [Toll.payAll, Toll.pay]
            _ = Toll.payAll levels fuel tolls := Toll.payAll_deepen levels fuel tolls
        rw [hpay]
        exact htrip.run levels fuel

/-! ## Rules and grammars -/

theorem endRule_tolled (opening : Text.Span) (u : Unit) :
    Tolled most fun _ ↦ endRule opening u := by
  refine .bind atEnd_tolled fun _ ↦ .ite
    (.bind (errorUnclosed_tolled _ _ _) fun _ ↦ .pure _)
    (.bind current_tolled fun kind ↦ ?_)
  split
  · exact .bind bump_tolled fun _ ↦ .pure _
  · exact .bind (errorUnclosed_tolled _ _ _) fun _ ↦ .pure _
  · exact .bind (errorAndRecover_tolled _ _ _) fun _ ↦ .pure _

theorem ruleBody_tolled (opening : Text.Span) :
    Tolled most fun levels ↦ ruleBody levels opening := by
  have hend : Tolled most fun _ ↦ untilDone (endRule opening) () :=
    .untilDone (endRule_tolled opening) ()
  exact .bind (eat_tolled .keywordDo) fun _ ↦ .bind (currentIsIn_tolled .expressionFirst) fun _ ↦
    .ite (.bind (choice_tolled prefixed_rises) fun _ ↦ hend)
      (.bind (reportHere_tolled _) fun _ ↦ hend)

theorem rule_tolled : Tolled most rule :=
  .bind (expect_tolled _) fun _ ↦ node_rises .ruleNode
    (.bind currentSpan_tolled fun opening ↦ .bind bump_tolled fun _ ↦
      .bind (eat_tolled .identifier) fun _ ↦ .ite
        (.bind (reportHere_tolled _) fun _ ↦ ruleBody_tolled opening) (ruleBody_tolled opening))

theorem nextSegment_tolled (u : Unit) : Tolled most fun _ ↦ nextSegment u :=
  .bind (currentIs_tolled .doubleColon) fun _ ↦ .ite (.pure _)
    (.bind bump_tolled fun _ ↦ .bind (eat_tolled .identifier) fun _ ↦ .ite (.pure _)
      (.bind (reportHere_tolled _) fun _ ↦ .pure _))

theorem grammarName_tolled : Tolled most fun _ ↦ grammarName :=
  .bind (currentIs_tolled .identifier) fun _ ↦ .ite
    (node_rises .grammarNameNode (.bind bump_tolled fun _ ↦ .untilDone nextSegment_tolled ()))
    (reportHere_tolled _)

theorem nextRule_tolled (opening : Text.Span) (u : Unit) :
    Tolled most fun levels ↦ nextRule levels opening u := by
  refine .bind atEnd_tolled fun _ ↦ .ite
    (.bind (errorUnclosed_tolled _ _ _) fun _ ↦ .pure _)
    (.bind current_tolled fun kind ↦ ?_)
  split
  · exact .bind rule_tolled fun _ ↦ .pure _
  · exact .bind bump_tolled fun _ ↦ .pure _
  · exact .bind (errorAndBump_tolled _ _) fun _ ↦ .pure _

theorem grammar_tolled : Tolled most grammar :=
  .bind (expect_tolled _) fun _ ↦ node_rises .grammarNode
    (.bind currentSpan_tolled fun opening ↦ .bind bump_tolled fun _ ↦
      .bind grammarName_tolled fun _ ↦ .bind (eat_tolled .keywordDo) fun _ ↦
        .untilDone (nextRule_tolled opening) ())

theorem endOfText_tolled : Tolled most fun _ ↦ endOfText :=
  .bind atEnd_tolled fun _ ↦
    .ite (.bind (reportHere_tolled _) fun _ ↦ .bind bumpRest_tolled fun _ ↦ addTrivia_tolled)
      addTrivia_tolled

/-- What reading a whole text asks of its limits. -/
theorem root_tolled : Tolled most root :=
  node_rises .rootNode (.bind (currentIs_tolled .keywordGrammar) fun _ ↦
    .ite (.bind grammar_tolled fun _ ↦ endOfText_tolled)
      (.bind (reportHere_tolled _) fun _ ↦ endOfText_tolled))

/-! ## Tokens consumed -/

/-- Each token that is no trivia counts, and no token twice. -/
structure Counts (s s' : State) : Prop where
  each : s.consumed + (Token.significant s.remaining).length ≤
    s'.consumed + (Token.significant s'.remaining).length
  once : s'.consumed + s'.remaining.length ≤ s.consumed + s.remaining.length

theorem counts_respected : Respected Counts where
  refl _ := ⟨Nat.le_refl _, Nat.le_refl _⟩
  trans h h' := ⟨h.each.trans h'.each, h'.once.trans h.once⟩
  looked _ _ := ⟨Nat.le_refl _, Nat.le_refl _⟩
  passed s := by
    refine ⟨?_, Nat.add_le_add_left (List.length_dropWhile_le _ _) _⟩
    rw [significant_dropWhile]
  flushed _ := ⟨Nat.le_refl _, Nat.le_refl _⟩
  taken s token rest hremaining _ := by
    have hlength : s.remaining.length = rest.length + 1 := by rw [hremaining, List.length_cons]
    have hsignificant : (Token.significant s.remaining).length ≤
        (Token.significant rest).length + 1 := by
      rw [hremaining, Token.significant_cons]
      split
      · exact Nat.le_succ _
      · exact Nat.le_refl _
    constructor <;> dsimp only <;> omega
  placed _ _ := ⟨Nat.le_refl _, Nat.le_refl _⟩
  reported _ _ := ⟨Nat.le_refl _, Nat.le_refl _⟩
  nested _ h := ⟨h.each, h.once⟩
  wrapped _ _ _ := ⟨Nat.le_refl _, Nat.le_refl _⟩

end Parse

/-! ## Whole texts -/

/-- What reading a text into a tree owes: the levels of the tree, a token for each one in the text
that is no trivia, and no token twice. -/
structure Toll.Owed (source : String) (root : Cst) (tolls : List Toll) : Prop where
  levels : Toll.deepest tolls = root.levels
  each : (Token.significant (Token.lex source.toList)).length ≤ Toll.tokens tolls
  once : Toll.tokens tolls ≤ (Token.lex source.toList).length

/-- A text is read as far as its limits pay for what the reading of it asks for. -/
theorem parse_tolls (source : String) : ∃ (parsed : Parsed) (tolls : List Toll),
    parse source .unlimited = .ok parsed ∧ Toll.Owed source parsed.root tolls ∧
    ∀ limits : Limits,
      limits.Cover tolls ∧ parse source limits = .ok { parsed with
        fuelConsumed := if limits.execFuel.isSome then Toll.tokens tolls else 0 } ∨
      ∃ before toll after, tolls = before ++ toll :: after ∧ limits.Cover before ∧
        ¬limits.Cover (before ++ [toll]) ∧ parse source limits = .error toll.fault := by
  let most := (Token.lex source.toList).length + 1
  let start := Parse.start (Token.lex source.toList) source.utf8ByteSize
  obtain ⟨s, tree, hrun, ⟨hremaining, _, hbuilt⟩, hparse⟩ | ⟨_, ⟨⟨⟩, _⟩ | ⟨⟨⟩, _⟩, _⟩ :=
    parse_settles source .unlimited
  have htolled : Parse.Tolled most Parse.root := Parse.root_tolled
  obtain ⟨tolls, htrip⟩ := htolled.holds trivial rfl hrun
  have hconsumed : s.consumed = Toll.tokens tolls := htrip.consumed.trans (Nat.zero_add _)
  have howed : Toll.Owed source tree tolls := by
    obtain ⟨heach, honce⟩ := (Parse.root_preserves Parse.counts_respected most).holds hrun
    rw [hremaining, hconsumed] at heach honce
    refine ⟨?_, (Nat.le_add_left _ _).trans heach, honce.trans_eq (Nat.zero_add _)⟩
    calc
      Toll.deepest tolls = s.levels := (htrip.levels.trans (Nat.zero_max _)).symm
      _ = tree.levels := by rw [State.levels, hbuilt, levelsOfList, levelsOfList, Nat.max_zero]
  refine ⟨_, tolls, hparse, howed, fun limits ↦ ?_⟩
  have hlimited : (Parse.root (limits.recursionFuel.getD most)).run (start limits.execFuel) = _ :=
    htrip.run (limits.recursionFuel.getD most) limits.execFuel
  rcases limits.payAll_settles htrip.within with
    ⟨hcover, hpaid⟩ | ⟨before, toll, after, htolls, hbefore, hover, hfails⟩
  · rw [hpaid] at hlimited
    obtain ⟨tree', hbuilt', hparse'⟩ := parse_of_run hlimited
    obtain rfl : tree = tree' := by simpa [hbuilt] using hbuilt'
    exact .inl ⟨hcover, hconsumed ▸ hparse'⟩
  · rw [hfails] at hlimited
    refine .inr ⟨before, toll, after, htolls, hbefore, hover, ?_⟩
    rcases parse_settles source limits with ⟨_, _, hrun', _⟩ | ⟨fault, _, hrun', hparse'⟩
    · cases hlimited.symm.trans hrun'
    · cases hlimited.symm.trans hrun'
      exact hparse'

/-- What the reading of a text asks of its limits does not depend on them: its tokens, and the
levels of its tree. It is read to its end just when the limits cover all of it: the tree and the
diagnostics are then those of a reading without limits, and the tokens consumed are those asked for.
With any other limits, reading ends at the first toll that they do not cover, with the fault for
that limit. So limits that are raised leave a text that was read as it was read. -/
theorem limits_never_alter (source : String) : ∃ (parsed : Parsed) (tolls : List Toll),
    parse source .unlimited = .ok parsed ∧ Toll.Owed source parsed.root tolls ∧
    (∀ limits : Limits,
      ((∃ parsed', parse source limits = .ok parsed') ↔ limits.Cover tolls) ∧
      (limits.Cover tolls → parse source limits = .ok { parsed with
        fuelConsumed := if limits.execFuel.isSome then Toll.tokens tolls else 0 }) ∧
      (¬limits.Cover tolls → ∃ before toll after, tolls = before ++ toll :: after ∧
        limits.Cover before ∧ ¬limits.Cover (before ++ [toll]) ∧
        parse source limits = .error toll.fault)) ∧
    ∀ (limits limits' : Limits) (read : Parsed), limits ≤ limits' →
      parse source limits = .ok read → ∃ read', parse source limits' = .ok read' ∧
        read'.root = read.root ∧ read'.diagnostics = read.diagnostics := by
  obtain ⟨parsed, tolls, hparse, howed, hlimits⟩ := parse_tolls source
  refine ⟨parsed, tolls, hparse, howed, fun limits ↦ ?_, fun limits limits' read hle hread ↦ ?_⟩
  · rcases hlimits limits with ⟨hcover, hread⟩ | ⟨before, toll, after, rfl, hbefore, hover, hfails⟩
    · exact ⟨iff_of_true ⟨_, hread⟩ hcover, fun _ ↦ hread, fun hover ↦ absurd hcover hover⟩
    · have hnever := Limits.not_cover_append hover after
      refine ⟨iff_of_false (fun ⟨parsed', hread⟩ ↦ ?_) hnever, fun hcover ↦ absurd hcover hnever,
        fun _ ↦ ⟨before, toll, after, rfl, hbefore, hover, hfails⟩⟩
      cases hfails.symm.trans hread
  · rcases hlimits limits with ⟨hcover, hsame⟩ | ⟨_, _, _, _, _, _, hfails⟩
    · cases hread.symm.trans hsame
      rcases hlimits limits' with ⟨_, hsame'⟩ | ⟨before, toll, after, rfl, _, hover, _⟩
      · exact ⟨_, hsame', rfl, rfl⟩
      · exact absurd (hcover.raised hle) (Limits.not_cover_append hover after)
    · cases hfails.symm.trans hread

end Cst

end PegKit
