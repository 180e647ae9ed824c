import Mathlib.Data.List.TakeWhile
import PegKit.Proofs.Cst.Preservation
import PegKit.Proofs.Token.Spacing

/-!
# Two readings side by side

Two readings of tokens that differ in trivia go the same way: at each step both look at tokens of
one kind, add trees with the same outline and report in the same words, if they report at all. A
relation between the two states is carried through every production. It fails only where trivia is
met in place of a token, so the two texts have to part the same pairs of tokens.
-/

namespace PegKit

/-- What a report says, apart from where. -/
def Diagnostic.wording (diagnostic : Diagnostic) : DiagnosticKind × String × List String :=
  (diagnostic.kind, diagnostic.message, diagnostic.related.map (·.message))

namespace Cst

open Token (significant Alike Poised Abreast Facing Paired)

/-! ## Outlines -/

/-- Trees with the same outline at every depth. -/
def Outlined (trees trees' : List Cst) : Prop :=
  ∀ depth, outlineLinesOfList depth trees = outlineLinesOfList depth trees'

theorem outlineLinesOfList_append (depth : Nat) (trees more : List Cst) :
    outlineLinesOfList depth (trees ++ more) =
      outlineLinesOfList depth trees ++ outlineLinesOfList depth more := by
  induction trees with
  | nil => rfl
  | cons tree rest ih =>
    rw [List.cons_append, outlineLinesOfList, ih, outlineLinesOfList, List.append_assoc]

theorem outlineLinesOfList_leaves (depth : Nat) (tokens : List Token) :
    outlineLinesOfList depth (tokens.map Cst.leaf) = ((significant tokens).map Token.word).map
      fun word ↦ String.ofList (List.replicate (2 * depth) ' ') ++ word.1.name ++ " " ++
        Text.Quoted.quote word.2 := by
  induction tokens with
  | nil => rfl
  | cons token rest ih =>
    rw [List.map_cons, outlineLinesOfList, ih, Token.significant_cons]
    unfold outlineLines
    split <;> rfl

namespace Outlined

variable {trees trees' more more' : List Cst}

theorem append (h : Outlined trees trees') (h' : Outlined more more') :
    Outlined (trees ++ more) (trees' ++ more') := by
  intro depth
  rw [outlineLinesOfList_append, outlineLinesOfList_append, h depth, h' depth]

theorem leaves {tokens tokens' : List Token}
    (h : (significant tokens).map Token.word = (significant tokens').map Token.word) :
    Outlined (tokens.map Cst.leaf) (tokens'.map Cst.leaf) := by
  intro depth
  rw [outlineLinesOfList_leaves, outlineLinesOfList_leaves, h]

theorem node (h : Outlined trees trees') (kind : Kind) :
    Outlined [.node kind trees] [.node kind trees'] := by
  intro depth
  simp only [outlineLinesOfList, outlineLines, h (depth + 1)]

end Outlined

namespace Parse

/-! ## Agreement -/

/-- Two readings that both end, the one from a state and the other from one related to it, end with
results and states that are related. -/
structure Agrees {α β : Type} (before : State → State → Prop) (m : Parse α) (m' : Parse β)
    (after : α → β → State → State → Prop) : Prop where
  holds : ∀ {s s' a b t t'}, before s s' → m.run s = .ok (a, t) → m'.run s' = .ok (b, t') →
    after a b t t'

/-- The same result, and related states. -/
def Both {α : Type} (after : α → State → State → Prop) (a b : α) (s s' : State) : Prop :=
  a = b ∧ after a s s'

namespace Agrees

variable {α β γ : Type} {before between : State → State → Prop}

theorem imp {m : Parse α} {m' : Parse β} {after after' : α → β → State → State → Prop}
    (h : Agrees before m m' after) (hbefore : ∀ {s s'}, between s s' → before s s')
    (hafter : ∀ {a b s s'}, after a b s s' → after' a b s s') : Agrees between m m' after' where
  holds hs hrun hrun' := hafter (h.holds (hbefore hs) hrun hrun')

theorem weaken {m : Parse α} {m' : Parse β} {after : α → β → State → State → Prop}
    (h : Agrees before m m' after) (hbefore : ∀ {s s'}, between s s' → before s s') :
    Agrees between m m' after :=
  h.imp hbefore id

/-- A part of what holds before that is not about the states. -/
theorem assume {p : Prop} {m : Parse α} {m' : Parse β} {after : α → β → State → State → Prop}
    (h : p → Agrees before m m' after) :
    Agrees (fun s s' ↦ p ∧ before s s') m m' after where
  holds hs hrun hrun' := (h hs.1).holds hs.2 hrun hrun'

theorem bind {m : Parse α} {m' : Parse β} {f : α → Parse γ} {f' : β → Parse γ}
    {middle : α → β → State → State → Prop} {after : γ → γ → State → State → Prop}
    (h : Agrees before m m' middle) (h' : ∀ a b, Agrees (middle a b) (f a) (f' b) after) :
    Agrees before (m >>= f) (m' >>= f') after where
  holds hs hrun hrun' := by
    obtain ⟨a, s₁, hfirst, hrest⟩ := run_bind hrun
    obtain ⟨b, s₁', hfirst', hrest'⟩ := run_bind hrun'
    exact (h' a b).holds (h.holds hs hfirst hfirst') hrest hrest'

theorem both {m m' : Parse α} {f f' : α → Parse γ} {middle : α → State → State → Prop}
    {after : γ → γ → State → State → Prop} (h : Agrees before m m' (Both middle))
    (h' : ∀ a, Agrees (middle a) (f a) (f' a) after) :
    Agrees before (m >>= f) (m' >>= f') after := by
  apply bind h
  intro a b
  constructor
  rintro s s' c d t t' ⟨rfl, hs⟩ hrun hrun'
  exact (h' a).holds hs hrun hrun'

theorem pure {a : α} {b : β} {after : α → β → State → State → Prop}
    (h : ∀ {s s'}, before s s' → after a b s s') :
    Agrees before (pure a) (pure b) after where
  holds hs hrun hrun' := by
    obtain ⟨rfl, rfl⟩ := run_pure hrun
    obtain ⟨rfl, rfl⟩ := run_pure hrun'
    exact h hs

theorem throw (fault : Fault) {m' : Parse β} {after : α → β → State → State → Prop} :
    Agrees before (throw fault) m' after where
  holds _ hrun _ := by cases hrun

theorem modify {f f' : State → State} {after : Unit → Unit → State → State → Prop}
    (h : ∀ {s s'}, before s s' → after () () (f s) (f' s')) :
    Agrees before (modify f) (modify f') after where
  holds hs hrun hrun' := by
    rw [run_modify hrun, run_modify hrun']
    exact h hs

theorem get_bind {f f' : State → Parse α} {after : α → α → State → State → Prop}
    (h : ∀ {s s' a b t t'}, before s s' → (f s).run s = .ok (a, t) → (f' s').run s' = .ok (b, t') →
      after a b t t') : Agrees before (get >>= f) (get >>= f') after where
  holds hs hrun hrun' := h hs (run_get_bind hrun) (run_get_bind hrun')

theorem gets {f f' : State → α} {after : α → α → State → State → Prop}
    (h : ∀ {s s'}, before s s' → after (f s) (f' s') s s') :
    Agrees before (get >>= fun s ↦ Pure.pure (f s)) (get >>= fun s ↦ Pure.pure (f' s)) after where
  holds hs hrun hrun' := by
    obtain ⟨rfl, rfl⟩ := run_gets hrun
    obtain ⟨rfl, rfl⟩ := run_gets hrun'
    exact h hs

theorem ite {p : Prop} [Decidable p] {m m' n n' : Parse α} {after : α → α → State → State → Prop}
    (h : p → Agrees before m m' after) (h' : ¬p → Agrees before n n' after) :
    Agrees before (if p then m else n) (if p then m' else n') after := by
  by_cases hp : p
  · rw [if_pos hp, if_pos hp]
    exact h hp
  · rw [if_neg hp, if_neg hp]
    exact h' hp

theorem iterate {step step' : α → Parse (Option α)}
    (h : ∀ a, Agrees before (step a) (step' a) (Both fun _ ↦ before)) (bound bound' : Nat) (a : α) :
    Agrees before (Parse.iterate step bound a) (Parse.iterate step' bound' a)
      (Both fun _ ↦ before) := by
  induction bound generalizing bound' a with
  | zero => exact throw _
  | succ bound ih =>
    cases bound' with
    | zero =>
      constructor
      intro s s' b c t t' _ _ hrun
      cases hrun
    | succ bound' =>
      apply both (h a)
      intro result
      cases result with
      | none => exact pure fun hs ↦ ⟨rfl, hs⟩
      | some next => exact ih bound' next

/-- What every step keeps, a loop keeps. The loops may be allowed different numbers of steps. -/
theorem untilDone {step step' : α → Parse (Option α)}
    (h : ∀ a, Agrees before (step a) (step' a) (Both fun _ ↦ before)) (a : α) :
    Agrees before (Parse.untilDone step a) (Parse.untilDone step' a) (Both fun _ ↦ before) :=
  get_bind fun hs hrun hrun' ↦ (iterate h _ _ a).holds hs hrun hrun'

/-- A loop whose result is not used. -/
theorem loop {step step' : Unit → Parse (Option Unit)}
    (h : ∀ a, Agrees before (step a) (step' a) (Both fun _ ↦ before)) :
    Agrees before (Parse.untilDone step ()) (Parse.untilDone step' ()) fun _ _ ↦ before :=
  (untilDone h ()).imp id And.right

end Agrees

/-! ## Related states -/

/-- The tokens ahead are related as told; after `outer` and `outer'` the open nodes hold trees with
the same outline, and the reports so far are worded alike, the last ones made at related places. -/
structure Twin (place : Nat → Nat → Prop) (ahead : List Token → List Token → Prop)
    (outer outer' : List Cst) (s s' : State) : Prop where
  ahead : ahead s.remaining s'.remaining
  pending : significant s.pending = []
  pending' : significant s'.pending = []
  built : ∃ added added', s.built.toList = outer ++ added ∧ s'.built.toList = outer' ++ added' ∧
    Outlined added added'
  reports : s.diagnostics.map Diagnostic.wording = s'.diagnostics.map Diagnostic.wording
  lastErrors : Option.Rel place s.lastErrorAt s'.lastErrorAt
  lengths : place s.textLength s'.textLength

variable {place : Nat → Nat → Prop} {ahead ahead' : List Token → List Token → Prop}
  {outer outer' : List Cst}

theorem Twin.imp {s s' : State} (h : Twin place ahead outer outer' s s')
    (himp : ahead s.remaining s'.remaining → ahead' s.remaining s'.remaining) :
    Twin place ahead' outer outer' s s' :=
  { h with ahead := himp h.ahead }

theorem Twin.alike {s s' : State} (h : Twin place (Poised place) outer outer' s s') :
    Twin place (Alike place) outer outer' s s' :=
  h.imp fun hpoised ↦ hpoised.alike

theorem Twin.poised {kind : Kind} {s s' : State}
    (h : Twin place (Facing place kind) outer outer' s s') :
    Twin place (Poised place) outer outer' s s' :=
  h.imp fun hfacing ↦ hfacing.poised

/-! ## Looking -/

theorem passTrivia_agrees : Agrees (Twin place (Alike place) outer outer') passTrivia passTrivia
    fun _ _ ↦ Twin place (Poised place) outer outer' := by
  have hdropped (tokens : List Token) : significant (tokens.takeWhile Token.isTrivia) = [] :=
    List.filter_eq_nil_iff.mpr fun token htoken ↦ by
      simpa using List.mem_takeWhile_imp htoken
  apply Agrees.modify
  intro s s' hs
  refine { hs with ahead := hs.ahead.passTrivia, pending := ?_, pending' := ?_ }
  · rw [significant, List.filter_append]
    exact List.append_eq_nil_iff.mpr ⟨hs.pending, hdropped _⟩
  · rw [significant, List.filter_append]
    exact List.append_eq_nil_iff.mpr ⟨hs.pending', hdropped _⟩

theorem countLookahead_agrees : Agrees (Twin place ahead outer outer') countLookahead countLookahead
    fun _ _ ↦ Twin place ahead outer outer' := by
  apply Agrees.get_bind
  intro s s' u u' t t' hs hrun hrun'
  split at hrun
  · cases hrun
  split at hrun'
  · cases hrun'
  cases hrun
  cases hrun'
  exact { hs with }

theorem restoreLookaheads_agrees : Agrees (Twin place ahead outer outer') restoreLookaheads
    restoreLookaheads fun _ _ ↦ Twin place ahead outer outer' :=
  .modify fun hs ↦ { hs with }

/-- Both see a token of the same kind. -/
theorem current_agrees : Agrees (Twin place (Alike place) outer outer') current current
    (Both fun kind ↦ Twin place (Facing place kind) outer outer') := by
  apply Agrees.bind passTrivia_agrees
  intro _ _
  apply Agrees.bind countLookahead_agrees
  intro _ _
  apply Agrees.gets
  intro s s' hs
  have hkind {tokens : List Token} (hpassed : Token.Passed tokens) :
      (tokens.head?.map (·.kind)).getD .error = Token.nextKind tokens := by
    cases tokens with
    | nil => rfl
    | cons token rest =>
      unfold Token.nextKind
      rw [Token.significant_of_not_trivia (hpassed token rfl)]
      rfl
  rw [hkind hs.ahead.passed, hkind hs.ahead.passed']
  exact ⟨hs.ahead.alike.nextKind, hs.imp fun hpoised ↦ ⟨hpoised, rfl⟩⟩

theorem currentIs_agrees (kind : Kind) : Agrees (Twin place (Alike place) outer outer')
    (currentIs kind) (currentIs kind) (Both fun _ ↦ Twin place (Poised place) outer outer') :=
  .both current_agrees fun _ ↦ .pure fun hs ↦ ⟨rfl, hs.poised⟩

theorem currentIsIn_agrees (set : KindSet) : Agrees (Twin place (Alike place) outer outer')
    (currentIsIn set) (currentIsIn set) (Both fun _ ↦ Twin place (Poised place) outer outer') :=
  .both current_agrees fun _ ↦ .pure fun hs ↦ ⟨rfl, hs.poised⟩

theorem expect_agrees (kind : Kind) : Agrees (Twin place (Alike place) outer outer')
    (expect kind) (expect kind) fun _ _ ↦ Twin place (Poised place) outer outer' :=
  .both current_agrees fun _ ↦ .ite (fun _ ↦ .throw _) fun _ ↦ .pure fun hs ↦ hs.poised

theorem atEnd_agrees : Agrees (Twin place (Alike place) outer outer') atEnd atEnd
    (Both fun _ ↦ Twin place (Poised place) outer outer') :=
  .bind passTrivia_agrees fun _ _ ↦ .gets fun hs ↦ ⟨hs.ahead.isEmpty, hs⟩

/-- Both see the same kind after the first token. -/
theorem nextIs_agrees (kind next : Kind) : Agrees (Twin place (Facing place kind) outer outer')
    (nextIs next) (nextIs next) (Both fun found s s' ↦
      Twin place (Facing place kind) outer outer' s s' ∧
        (found = true → Token.nextKind s.remaining.tail = next)) := by
  have hpass : Agrees (Twin place (Facing place kind) outer outer') passTrivia passTrivia
      fun _ _ ↦ Twin place (Facing place kind) outer outer' := by
    constructor
    intro s s' _ _ t t' hs hrun hrun'
    have hpassed := Agrees.holds passTrivia_agrees hs.poised.alike hrun hrun'
    refine hpassed.imp fun hpoised ↦ ⟨hpoised, ?_⟩
    rw [run_modify hrun, ← hs.ahead.current]
    unfold Token.nextKind
    rw [(Token.dropWhile_trivia s.remaining).1]
  apply hpass.bind
  intro _ _
  apply Agrees.bind countLookahead_agrees
  intro _ _
  apply Agrees.get_bind
  intro s s' b b' t t' hs hrun hrun'
  have hnext (rest : List Token) : (rest.find? fun token ↦ !token.isTrivia).any (·.kind == next) =
      ((significant rest).head?.map Token.kind == some next) := by
    unfold significant
    rw [List.head?_filter]
    cases rest.find? fun token ↦ !token.isTrivia <;> rfl
  rcases hs.ahead.poised.cases with ⟨hnone, hnone'⟩ |
    ⟨token, rest, token', rest', htokens, htokens', _, _, _, hrest⟩
  · rw [hnone] at hrun
    rw [hnone'] at hrun'
    obtain ⟨rfl, rfl⟩ := run_pure hrun
    obtain ⟨rfl, rfl⟩ := run_pure hrun'
    exact ⟨rfl, hs, by rintro ⟨⟩⟩
  · rw [htokens] at hrun
    rw [htokens'] at hrun'
    obtain ⟨rfl, rfl⟩ := run_pure hrun
    obtain ⟨rfl, rfl⟩ := run_pure hrun'
    refine ⟨by rw [hnext, hnext, Token.head_eq hrest], hs, fun hkind ↦ ?_⟩
    rw [hnext] at hkind
    rw [htokens]
    exact congrArg (·.getD .error) (beq_iff_eq.mp hkind)

/-! ## Building -/

theorem addTrivia_agrees : Agrees (Twin place ahead outer outer') addTrivia addTrivia
    fun _ _ ↦ Twin place ahead outer outer' := by
  apply Agrees.modify
  intro s s' hs
  obtain ⟨added, added', hadded, hadded', houtlined⟩ := hs.built
  refine { hs with pending := rfl, pending' := rfl, built := ?_ }
  refine ⟨added ++ s.pending.map Cst.leaf, added' ++ s'.pending.map Cst.leaf, ?_, ?_,
    houtlined.append (.leaves (by rw [hs.pending, hs.pending']))⟩
  · rw [Array.toList_append, hadded, List.append_assoc]
  · rw [Array.toList_append, hadded', List.append_assoc]

/-- Both take a token, or trivia in its place. -/
theorem bump_level_agrees : Agrees (Twin place (Abreast place) outer outer') bump bump
    fun _ _ ↦ Twin place (Alike place) outer outer' := by
  constructor
  intro s s' _ _ t t' hs hrun hrun'
  obtain ⟨token, rest, htokens, rfl⟩ := run_bump hrun
  obtain ⟨token', rest', htokens', rfl⟩ := run_bump hrun'
  have hahead := hs.ahead
  rw [htokens, htokens'] at hahead
  obtain ⟨hrest, hwords⟩ := hahead.uncons
  obtain ⟨added, added', hadded, hadded', houtlined⟩ := hs.built
  refine { hs with ahead := hrest, pending := rfl, pending' := rfl, built := ?_ }
  refine ⟨added ++ (s.pending ++ [token]).map Cst.leaf,
    added' ++ (s'.pending ++ [token']).map Cst.leaf, by simp [hadded], by simp [hadded'],
    houtlined.append (.leaves ?_)⟩
  have hsplit (tokens more : List Token) :
      significant (tokens ++ more) = significant tokens ++ significant more := List.filter_append ..
  rw [hsplit, hsplit, hs.pending, hs.pending', List.nil_append, List.nil_append, hwords]

/-- Both take their first token. -/
theorem bump_agrees : Agrees (Twin place (Poised place) outer outer') bump bump
    fun _ _ ↦ Twin place (Alike place) outer outer' :=
  .weaken bump_level_agrees fun hs ↦ hs.imp fun hpoised ↦ hpoised.abreast

/-- After the first of two tokens that are consumed together, trivia is next on both sides or on
none. -/
theorem bump_paired_agrees {kind next : Kind} (hjoins : kind.joins next = true) :
    Agrees (Twin place (Paired place kind next) outer outer') bump bump
      fun _ _ ↦ Twin place (Abreast place) outer outer' := by
  constructor
  intro s s' _ _ t t' hs hrun hrun'
  have htaken := Agrees.holds bump_agrees (hs.imp fun hpaired ↦ hpaired.facing.poised) hrun hrun'
  obtain ⟨token, rest, htokens, rfl⟩ := run_bump hrun
  obtain ⟨token', rest', htokens', rfl⟩ := run_bump hrun'
  have hahead := hs.ahead
  rw [htokens, htokens'] at hahead
  exact htaken.imp fun _ ↦ hahead.abreast hjoins

theorem eat_agrees (kind : Kind) : Agrees (Twin place (Alike place) outer outer')
    (eat kind) (eat kind) (Both fun _ ↦ Twin place (Alike place) outer outer') :=
  (currentIs_agrees kind).both fun _ ↦ .ite
    (fun _ ↦ .bind bump_agrees fun _ _ ↦ .pure fun hs ↦ ⟨rfl, hs⟩)
    (fun _ ↦ .pure fun hs ↦ ⟨rfl, hs.alike⟩)

/-- Nodes around bodies that agree. -/
theorem node_agrees (kind : Kind) {body body' : Parse Unit}
    (h : Agrees (Twin place ahead [] []) body body'
      fun _ _ ↦ Twin place (Alike place) [] []) :
    Agrees (Twin place ahead outer outer') (node kind body) (node kind body')
      fun _ _ ↦ Twin place (Alike place) outer outer' := by
  constructor
  intro s s' _ _ t t' hs hrun hrun'
  obtain ⟨s₁, hbody, rfl⟩ := run_node hrun
  obtain ⟨s₁', hbody', rfl⟩ := run_node hrun'
  have hopened : Twin place ahead [] [] { s with pending := [], built := #[] }
      { s' with pending := [], built := #[] } :=
    { hs with pending := rfl, pending' := rfl, built := ⟨[], [], rfl, rfl, fun _ ↦ rfl⟩ }
  have hfilled := h.holds hopened hbody hbody'
  obtain ⟨added, added', hadded, hadded', houtlined⟩ := hs.built
  obtain ⟨inner, inner', hinner, hinner', hinside⟩ := hfilled.built
  refine { hfilled with built := ?_ }
  refine ⟨added ++ s.pending.map Cst.leaf ++ [Cst.node kind inner],
    added' ++ s'.pending.map Cst.leaf ++ [Cst.node kind inner'], ?_, ?_,
    (houtlined.append (.leaves (by rw [hs.pending, hs.pending']))).append (hinside.node kind)⟩
  · simp [hadded, hinner]
  · simp [hadded', hinner']

theorem Twin.join {s s' : State} {more more' : List Cst} (hmore : Outlined more more')
    (h : Twin place ahead (outer ++ more) (outer' ++ more') s s') :
    Twin place ahead outer outer' s s' := by
  obtain ⟨added, added', hadded, hadded', houtlined⟩ := h.built
  refine { h with built := ⟨more ++ added, more' ++ added', ?_, ?_, hmore.append houtlined⟩ }
  · rw [hadded, List.append_assoc]
  · rw [hadded', List.append_assoc]

/-- What is added after marks is told apart from what was there before. -/
theorem mark_agrees {f f' : Nat → Parse Unit}
    (h : ∀ outer outer', Agrees (Twin place ahead outer outer') (f outer.length) (f' outer'.length)
      fun _ _ ↦ Twin place (Alike place) outer outer') :
    Agrees (Twin place ahead outer outer') (mark >>= f) (mark >>= f')
      fun _ _ ↦ Twin place (Alike place) outer outer' := by
  constructor
  intro s s' u u' t t' hs hrun hrun'
  obtain ⟨start, s₁, hmark, hrest⟩ := run_bind hrun
  obtain ⟨start', s₁', hmark', hrest'⟩ := run_bind hrun'
  obtain ⟨_, s₂, htrivia, hsize⟩ := run_bind hmark
  obtain ⟨_, s₂', htrivia', hsize'⟩ := run_bind hmark'
  have hflushed := Agrees.holds addTrivia_agrees hs htrivia htrivia'
  obtain ⟨rfl, rfl⟩ := run_gets hsize
  obtain ⟨rfl, rfl⟩ := run_gets hsize'
  obtain ⟨more, more', hmore, hmore', houtlined⟩ := hflushed.built
  rw [← Array.length_toList, hmore] at hrest
  rw [← Array.length_toList, hmore'] at hrest'
  have hmarked : Twin place ahead (outer ++ more) (outer' ++ more') s₂ s₂' :=
    { hflushed with built := ⟨[], [], by rw [hmore, List.append_nil],
        by rw [hmore', List.append_nil], fun _ ↦ rfl⟩ }
  exact ((h _ _).holds hmarked hrest hrest').join houtlined

/-- Nodes around what was added since the marks. -/
theorem wrapFrom_agrees (kind : Kind) : Agrees (Twin place ahead outer outer')
    (wrapFrom outer.length kind) (wrapFrom outer'.length kind)
    fun _ _ ↦ Twin place ahead outer outer' := by
  apply Agrees.modify
  intro s s' hs
  obtain ⟨added, added', hadded, hadded', houtlined⟩ := hs.built
  refine { hs with built := ⟨[.node kind added], [.node kind added'], ?_, ?_, houtlined.node kind⟩ }
  · simp [hadded]
  · simp [hadded']

/-! ## Reporting -/

/-- Both are at the beginning of related tokens, or at the end. -/
theorem currentSpan_agrees : Agrees (Twin place (Alike place) outer outer') currentSpan currentSpan
    fun span span' s s' ↦ place span.start span'.start ∧
      Twin place (Poised place) outer outer' s s' := by
  apply Agrees.bind passTrivia_agrees
  intro _ _
  apply Agrees.gets
  intro s s' hs
  refine ⟨?_, hs⟩
  rcases hs.ahead.cases with ⟨hnone, hnone'⟩ | ⟨_, _, _, _, htokens, htokens', _, _, hsame, _⟩
  · rw [hnone, hnone']
    exact hs.lengths
  · rw [htokens, htokens']
    exact hsame.placed

theorem report_agrees {diagnostic diagnostic' : Diagnostic}
    (h : diagnostic.wording = diagnostic'.wording) :
    Agrees (Twin place ahead outer outer') (report diagnostic) (report diagnostic')
      fun _ _ ↦ Twin place ahead outer outer' := by
  apply Agrees.modify
  intro s s' hs
  refine { hs with reports := ?_ }
  rw [List.map_append, List.map_append, hs.reports, List.map_singleton, List.map_singleton, h]

section Places

variable (hplace : ∀ {p p' q q'}, place p p' → place q q' → (p = q ↔ p' = q'))

include hplace

/-- Related places are both fresh or both not. -/
theorem freshPlace_agrees {offset offset' : Nat} (h : place offset offset') :
    Agrees (Twin place ahead outer outer') (freshPlace offset) (freshPlace offset')
      (Both fun _ ↦ Twin place ahead outer outer') := by
  apply Agrees.get_bind
  intro s s' b b' t t' hs hrun hrun'
  cases hrun
  cases hrun'
  refine ⟨?_, { hs with lastErrors := .some h }⟩
  have hlast := hs.lastErrors
  generalize s.lastErrorAt = last at hlast
  generalize s'.lastErrorAt = last' at hlast
  cases hlast with
  | none => rfl
  | some hold =>
    rw [decide_eq_decide, Option.some_inj.ne, Option.some_inj.ne]
    exact not_congr (hplace hold h)

theorem reportHere_agrees {wording wording' : Text.Span → Diagnostic}
    (h : ∀ span span', (wording span).wording = (wording' span').wording) :
    Agrees (Twin place (Alike place) outer outer') (reportHere wording) (reportHere wording')
      fun _ _ ↦ Twin place (Poised place) outer outer' := by
  apply Agrees.bind currentSpan_agrees
  intro span span'
  apply Agrees.assume
  intro hstarts
  exact (freshPlace_agrees hplace hstarts).both fun _ ↦
    .ite (fun _ ↦ report_agrees (h span span')) fun _ ↦ .pure id

theorem error_agrees (kind : DiagnosticKind) : Agrees (Twin place (Alike place) outer outer')
    (error kind) (error kind) fun _ _ ↦ Twin place (Poised place) outer outer' :=
  reportHere_agrees hplace fun _ _ ↦ rfl

theorem errorDetailed_agrees (kind : DiagnosticKind) (detail : String) :
    Agrees (Twin place (Alike place) outer outer') (errorDetailed kind detail)
      (errorDetailed kind detail) fun _ _ ↦ Twin place (Poised place) outer outer' :=
  reportHere_agrees hplace fun _ _ ↦ rfl

theorem errorUnclosed_agrees (kind : DiagnosticKind) (note : String)
    (opening opening' : Text.Span) :
    Agrees (Twin place (Alike place) outer outer') (errorUnclosed kind note opening)
      (errorUnclosed kind note opening') fun _ _ ↦ Twin place (Poised place) outer outer' :=
  reportHere_agrees hplace fun _ _ ↦ rfl

theorem errorAndBump_agrees (kind : DiagnosticKind) (detail : String) :
    Agrees (Twin place (Alike place) outer outer') (errorAndBump kind detail)
      (errorAndBump kind detail) fun _ _ ↦ Twin place (Alike place) outer outer' := by
  apply (errorDetailed_agrees hplace kind detail).bind
  intro _ _
  apply Agrees.get_bind
  intro s s' _ _ t t' hs hrun hrun'
  rw [hs.ahead.isEmpty] at hrun
  exact (Agrees.ite (fun _ ↦ node_agrees .error bump_agrees)
    (fun _ ↦ .pure fun hs ↦ hs.alike)).holds hs hrun hrun'

theorem errorAndRecover_agrees (kind : DiagnosticKind) (detail : String) (recovery : KindSet) :
    Agrees (Twin place (Alike place) outer outer') (errorAndRecover kind detail recovery)
      (errorAndRecover kind detail recovery) fun _ _ ↦ Twin place (Alike place) outer outer' := by
  have hstopped {outer outer' : List Cst} : Agrees (Twin place (Alike place) outer outer')
      (stopsAt recovery) (stopsAt recovery) (Both fun _ ↦ Twin place (Poised place) outer outer') :=
    (currentIsIn_agrees recovery).both fun _ ↦ .ite (fun _ ↦ .pure fun hs ↦ ⟨rfl, hs⟩)
      fun _ ↦ .weaken atEnd_agrees Twin.alike
  apply hstopped.both
  intro stop
  apply Agrees.ite
  · intro _
    exact (errorDetailed_agrees hplace kind detail).imp Twin.alike Twin.alike
  · intro _
    apply node_agrees
    apply ((errorDetailed_agrees hplace kind detail).weaken Twin.alike).bind
    intro _ _
    refine Agrees.weaken (Agrees.loop fun _ ↦ ?_) Twin.alike
    exact hstopped.both fun _ ↦ .ite (fun _ ↦ .pure fun hs ↦ ⟨rfl, hs.alike⟩)
      fun _ ↦ .bind bump_agrees fun _ _ ↦ .pure fun hs ↦ ⟨rfl, hs⟩

end Places

theorem run_takeToken {s s' : State} {result : Option Unit}
    (h : (takeToken ()).run s = .ok (result, s')) :
    s.remaining = [] ∧ result = none ∧ s' = s ∨
      result = some () ∧ bump.run s = .ok ((), s') := by
  have hrun := run_get_bind h
  split at hrun
  · next hempty =>
    obtain ⟨rfl, rfl⟩ := run_pure hrun
    exact .inl ⟨List.isEmpty_iff.mp hempty, rfl, rfl⟩
  · obtain ⟨_, _, hbump, hdone⟩ := run_bind hrun
    obtain ⟨rfl, rfl⟩ := run_pure hdone
    exact .inr ⟨rfl, hbump⟩

/-- A loop that takes one token at each step takes all of them. -/
theorem run_iterate_takeToken {bound : Nat} {s s' : State} {u : Unit} (hpending : s.pending = [])
    (h : (iterate takeToken bound ()).run s = .ok (u, s')) :
    ∃ fuel consumed lookaheads, s' =
      { s with
        remaining := [], fuel, consumed, lookaheads
        built := s.built ++ (s.remaining.map Cst.leaf).toArray } := by
  induction bound generalizing s with
  | zero => cases h
  | succ bound ih =>
    obtain ⟨result, s₁, hfirst, hrest⟩ := run_bind h
    rcases run_takeToken hfirst with ⟨hnone, rfl, rfl⟩ | ⟨rfl, hbump⟩
    · obtain ⟨_, rfl⟩ := run_pure hrest
      refine ⟨s₁.fuel, s₁.consumed, s₁.lookaheads, ?_⟩
      rw [hnone, List.map_nil, Array.append_empty, ← hnone]
    · obtain ⟨token, rest, htokens, rfl⟩ := run_bump hbump
      obtain ⟨fuel, consumed, lookaheads, rfl⟩ := ih rfl hrest
      exact ⟨fuel, consumed, lookaheads, by simp [htokens, hpending]⟩

/-- All remaining tokens, in one node. -/
theorem run_bumpRest {s s' : State} {u : Unit} (h : bumpRest.run s = .ok (u, s')) :
    ∃ fuel consumed lookaheads, s' =
      { s with
        pending := [], remaining := [], fuel, consumed, lookaheads
        built := (s.built ++ (s.pending.map Cst.leaf).toArray).push
          (.node .error (s.remaining.map Cst.leaf)) } := by
  obtain ⟨s₁, hbody, rfl⟩ := run_node h
  have hloop := run_get_bind hbody
  obtain ⟨fuel, consumed, lookaheads, rfl⟩ := run_iterate_takeToken rfl hloop
  exact ⟨fuel, consumed, lookaheads, by simp⟩

theorem bumpRest_agrees : Agrees (Twin place (Alike place) outer outer') bumpRest bumpRest
    fun _ _ ↦ Twin place (Alike place) outer outer' := by
  constructor
  intro s s' _ _ t t' hs hrun hrun'
  obtain ⟨_, _, _, rfl⟩ := run_bumpRest hrun
  obtain ⟨_, _, _, rfl⟩ := run_bumpRest hrun'
  obtain ⟨added, added', hadded, hadded', houtlined⟩ := hs.built
  have hleaves := Outlined.leaves hs.ahead.sameWords
  refine { hs with ahead := ⟨.nil, rfl⟩, pending := rfl, pending' := rfl, built := ?_ }
  refine ⟨added ++ s.pending.map Cst.leaf ++ [Cst.node .error (s.remaining.map Cst.leaf)],
    added' ++ s'.pending.map Cst.leaf ++ [Cst.node .error (s'.remaining.map Cst.leaf)], ?_, ?_,
    (houtlined.append (.leaves (by rw [hs.pending, hs.pending']))).append (hleaves.node .error)⟩
  · simp [hadded]
  · simp [hadded']

/-! ## Productions -/

theorem single_agrees (kind : Kind) : Agrees (Twin place (Poised place) outer outer')
    (single kind) (single kind) fun _ _ ↦ Twin place (Alike place) outer outer' :=
  node_agrees kind bump_agrees

theorem string_agrees : Agrees (Twin place (Alike place) outer outer') string string
    fun _ _ ↦ Twin place (Alike place) outer outer' := by
  apply node_agrees
  apply Agrees.both current_agrees
  intro quote
  apply (Agrees.weaken bump_agrees Twin.poised).bind
  intro _ _
  apply (eat_agrees .stringValue).both
  intro _
  exact (eat_agrees quote).both fun _ ↦ .pure id

theorem nextQuantifier_agrees (u : Unit) : Agrees (Twin place (Alike place) outer outer')
    (nextQuantifier outer.length u) (nextQuantifier outer'.length u)
    (Both fun _ ↦ Twin place (Alike place) outer outer') := by
  apply (currentIsIn_agrees .quantifiers).both
  intro found
  apply Agrees.ite
  · intro _
    exact .pure fun hs ↦ ⟨rfl, hs.alike⟩
  · intro _
    apply Agrees.bind bump_agrees
    intro _ _
    apply (wrapFrom_agrees .quantifierNode).bind
    intro _ _
    exact .pure fun hs ↦ ⟨rfl, hs⟩

section Productions

variable (hplace : ∀ {p p' q q'}, place p p' → place q q' → (p = q ↔ p' = q'))

include hplace

section Items

variable {item item' : Parse Unit}
  (hitem : ∀ {outer outer' : List Cst}, Agrees (Twin place (Alike place) outer outer') item item'
    fun _ _ ↦ Twin place (Alike place) outer outer')

include hitem

theorem nextItem_agrees (count : Nat) : Agrees (Twin place (Alike place) outer outer')
    (nextItem item count) (nextItem item' count)
    (Both fun _ ↦ Twin place (Alike place) outer outer') := by
  apply Agrees.both atEnd_agrees
  intro ended
  apply Agrees.ite
  · intro _
    exact .pure fun hs ↦ ⟨rfl, hs.alike⟩
  intro _
  apply ((currentIsIn_agrees .sequenceEnd).weaken Twin.alike).both
  intro stops
  apply Agrees.ite
  · intro _
    exact .pure fun hs ↦ ⟨rfl, hs.alike⟩
  intro _
  apply ((currentIsIn_agrees .expressionFirst).weaken Twin.alike).both
  intro begins
  apply Agrees.ite
  · intro _
    exact (hitem.weaken Twin.alike).bind fun _ _ ↦ .pure fun hs ↦ ⟨rfl, hs⟩
  · intro _
    exact ((errorAndBump_agrees hplace _ _).weaken Twin.alike).bind fun _ _ ↦
      .pure fun hs ↦ ⟨rfl, hs⟩

theorem sequence_agrees : Agrees (Twin place (Alike place) outer outer') (sequence item)
    (sequence item') fun _ _ ↦ Twin place (Alike place) outer outer' := by
  apply mark_agrees
  intro outer outer'
  apply (Agrees.untilDone (nextItem_agrees hplace hitem) 0).both
  intro count
  exact .ite (fun _ ↦ wrapFrom_agrees _) fun _ ↦ .pure id

theorem nextAlternative_agrees (u : Unit) : Agrees (Twin place (Alike place) outer outer')
    (nextAlternative item u) (nextAlternative item' u)
    (Both fun _ ↦ Twin place (Alike place) outer outer') := by
  apply (currentIs_agrees .slash).both
  intro slashed
  apply Agrees.ite
  · intro _
    exact .pure fun hs ↦ ⟨rfl, hs.alike⟩
  intro _
  apply Agrees.bind bump_agrees
  intro _ _
  apply (currentIsIn_agrees .expressionFirst).both
  intro begins
  apply Agrees.ite
  · intro _
    exact ((sequence_agrees hplace hitem).weaken Twin.alike).bind fun _ _ ↦
      .pure fun hs ↦ ⟨rfl, hs⟩
  · intro _
    exact ((errorDetailed_agrees hplace _ _).weaken Twin.alike).bind fun _ _ ↦
      .pure fun hs ↦ ⟨rfl, hs.alike⟩

theorem choice_agrees : Agrees (Twin place (Alike place) outer outer') (choice item)
    (choice item') fun _ _ ↦ Twin place (Alike place) outer outer' := by
  apply mark_agrees
  intro outer outer'
  apply (sequence_agrees hplace hitem).bind
  intro _ _
  apply (currentIs_agrees .slash).both
  intro slashed
  have hloop : Agrees (Twin place (Alike place) outer outer') (untilDone (nextAlternative item) ())
      (untilDone (nextAlternative item') ()) fun _ _ ↦ Twin place (Alike place) outer outer' :=
    .loop (nextAlternative_agrees hplace hitem)
  exact .ite (fun _ ↦ (hloop.weaken Twin.alike).bind fun _ _ ↦ wrapFrom_agrees _)
    fun _ ↦ .pure Twin.alike

theorem group_agrees : Agrees (Twin place (Alike place) outer outer') (group item)
    (group item') fun _ _ ↦ Twin place (Alike place) outer outer' := by
  apply (expect_agrees .parenOpen).bind
  intro _ _
  apply node_agrees
  apply (Agrees.weaken currentSpan_agrees Twin.alike).bind
  intro opening opening'
  apply Agrees.assume
  intro _
  apply Agrees.bind bump_agrees
  intro _ _
  apply (currentIs_agrees .parenClose).both
  intro closed
  apply Agrees.ite
  · intro _
    exact ((error_agrees hplace _).weaken Twin.alike).bind fun _ _ ↦ bump_agrees
  intro _
  have hclose : Agrees (Twin place (Alike place) [] []) (do
      if !(← eat .parenClose) then
        errorUnclosed .unclosedGroup "group starts here" opening) (do
      if !(← eat .parenClose) then
        errorUnclosed .unclosedGroup "group starts here" opening')
      fun _ _ ↦ Twin place (Alike place) [] [] :=
    (eat_agrees .parenClose).both fun _ ↦ .ite
      (fun _ ↦ (errorUnclosed_agrees hplace _ _ _ _).imp id Twin.alike) fun _ ↦ .pure id
  apply ((currentIsIn_agrees .expressionFirst).weaken Twin.alike).both
  intro begins
  apply Agrees.ite
  · intro _
    exact ((choice_agrees hplace hitem).weaken Twin.alike).bind fun _ _ ↦ hclose
  · intro _
    exact hclose.weaken Twin.alike

theorem primary_agrees : Agrees (Twin place (Alike place) outer outer') (primary item)
    (primary item') fun _ _ ↦ Twin place (Alike place) outer outer' := by
  apply Agrees.both current_agrees
  intro kind
  split
  · exact (single_agrees _).weaken Twin.poised
  · exact (single_agrees _).weaken Twin.poised
  · exact (single_agrees _).weaken Twin.poised
  · exact .weaken string_agrees fun hs ↦ hs.poised.alike
  · exact .weaken string_agrees fun hs ↦ hs.poised.alike
  · exact (group_agrees hplace hitem).weaken fun hs ↦ hs.poised.alike
  · exact (errorAndBump_agrees hplace _ _).weaken fun hs ↦ hs.poised.alike

theorem repeated_agrees : Agrees (Twin place (Alike place) outer outer') (repeated item)
    (repeated item') fun _ _ ↦ Twin place (Alike place) outer outer' := by
  apply mark_agrees
  intro outer outer'
  apply (primary_agrees hplace hitem).bind
  intro _ _
  exact .loop nextQuantifier_agrees

theorem operand_agrees (what : String) : Agrees (Twin place (Alike place) outer outer')
    (operand item what) (operand item' what) fun _ _ ↦ Twin place (Alike place) outer outer' :=
  (currentIsIn_agrees .expressionFirst).both fun _ ↦ .ite (fun _ ↦ hitem.weaken Twin.alike)
    fun _ ↦ (errorDetailed_agrees hplace _ _).imp Twin.alike Twin.alike

/-- At the mark of a predicate or lookahead. -/
theorem guarded_agrees {kind : Kind} (hkind : kind.joins .block = true) :
    Agrees (Twin place (Facing place kind) outer outer') (guarded item) (guarded item')
      fun _ _ ↦ Twin place (Alike place) outer outer' := by
  apply (nextIs_agrees kind .block).both
  intro found
  apply Agrees.ite
  · intro hfound
    have hnode : Agrees (Twin place (Paired place kind .block) outer outer')
        (node .predicateNode do bump; bump) (node .predicateNode do bump; bump)
        fun _ _ ↦ Twin place (Alike place) outer outer' :=
      node_agrees _ ((bump_paired_agrees hkind).bind fun _ _ ↦ bump_level_agrees)
    exact hnode.weaken fun hs ↦ hs.1.imp fun hfacing ↦ ⟨hfacing, hs.2 hfound⟩
  · intro _
    have hnode : Agrees (Twin place (Poised place) outer outer')
        (node .lookaheadNode do bump; operand item "lookahead")
        (node .lookaheadNode do bump; operand item' "lookahead")
        fun _ _ ↦ Twin place (Alike place) outer outer' :=
      node_agrees _ (.bind bump_agrees fun _ _ ↦ operand_agrees hplace hitem _)
    exact hnode.weaken fun hs ↦ hs.1.poised

/-- At a name, which may be a label's. -/
theorem labelled_agrees : Agrees (Twin place (Facing place .identifier) outer outer')
    (labelled item) (labelled item') fun _ _ ↦ Twin place (Alike place) outer outer' := by
  apply (nextIs_agrees .identifier .colon).both
  intro found
  apply Agrees.ite
  · intro hfound
    have hnode : Agrees (Twin place (Paired place .identifier .colon) outer outer')
        (node .labelNode do bump; bump; operand item "label")
        (node .labelNode do bump; bump; operand item' "label")
        fun _ _ ↦ Twin place (Alike place) outer outer' :=
      node_agrees _ ((bump_paired_agrees rfl).bind fun _ _ ↦ .bind bump_level_agrees fun _ _ ↦
        operand_agrees hplace hitem _)
    exact hnode.weaken fun hs ↦ hs.1.imp fun hfacing ↦ ⟨hfacing, hs.2 hfound⟩
  · intro _
    exact (repeated_agrees hplace hitem).weaken fun hs ↦ hs.1.poised.alike

theorem prefixedBody_agrees : Agrees (Twin place (Alike place) outer outer') (prefixedBody item)
    (prefixedBody item') fun _ _ ↦ Twin place (Alike place) outer outer' := by
  apply Agrees.both current_agrees
  intro kind
  split
  · exact guarded_agrees hplace hitem rfl
  · exact guarded_agrees hplace hitem rfl
  · exact labelled_agrees hplace hitem
  · exact (repeated_agrees hplace hitem).weaken fun hs ↦ hs.poised.alike

end Items

/-- Prefixed expressions with room for any two numbers of levels. -/
theorem prefixed_agrees (levels levels' : Nat) : Agrees (Twin place (Alike place) outer outer')
    (prefixed levels) (prefixed levels') fun _ _ ↦ Twin place (Alike place) outer outer' := by
  induction levels generalizing levels' outer outer' with
  | zero => exact .throw _
  | succ levels ih =>
    cases levels' with
    | zero =>
      constructor
      intro s s' u u' t t' _ _ hrun
      cases hrun
    | succ levels' =>
      apply Agrees.bind restoreLookaheads_agrees
      intro _ _
      apply (prefixedBody_agrees hplace (ih levels')).bind
      intro _ _
      exact restoreLookaheads_agrees

theorem endRule_agrees (opening opening' : Text.Span) (u : Unit) :
    Agrees (Twin place (Alike place) outer outer') (endRule opening u) (endRule opening' u)
      (Both fun _ ↦ Twin place (Alike place) outer outer') := by
  have hunclosed : Agrees (Twin place (Alike place) outer outer')
      (do errorUnclosed .unclosedRule "rule starts here" opening; return (none : Option Unit))
      (do errorUnclosed .unclosedRule "rule starts here" opening'; return none)
      (Both fun _ ↦ Twin place (Alike place) outer outer') :=
    (errorUnclosed_agrees hplace _ _ _ _).bind fun _ _ ↦ .pure fun hs ↦ ⟨rfl, hs.alike⟩
  apply Agrees.both atEnd_agrees
  intro ended
  apply Agrees.ite
  · intro _
    exact hunclosed.weaken Twin.alike
  intro _
  apply (Agrees.weaken current_agrees Twin.alike).both
  intro kind
  split
  · exact (Agrees.weaken bump_agrees Twin.poised).bind fun _ _ ↦ .pure fun hs ↦ ⟨rfl, hs⟩
  · exact hunclosed.weaken fun hs ↦ hs.poised.alike
  · exact ((errorAndRecover_agrees hplace _ _ _).weaken fun hs ↦ hs.poised.alike).bind
      fun _ _ ↦ .pure fun hs ↦ ⟨rfl, hs⟩

theorem ruleBody_agrees (levels levels' : Nat) (opening opening' : Text.Span) :
    Agrees (Twin place (Alike place) outer outer') (ruleBody levels opening)
      (ruleBody levels' opening') fun _ _ ↦ Twin place (Alike place) outer outer' := by
  have hend : Agrees (Twin place (Alike place) outer outer') (untilDone (endRule opening) ())
      (untilDone (endRule opening') ()) fun _ _ ↦ Twin place (Alike place) outer outer' :=
    .loop (endRule_agrees hplace opening opening')
  apply (eat_agrees .keywordDo).both
  intro _
  apply (currentIsIn_agrees .expressionFirst).both
  intro begins
  apply Agrees.ite
  · intro _
    exact ((choice_agrees hplace (prefixed_agrees hplace levels levels')).weaken Twin.alike).bind
      fun _ _ ↦ hend
  · intro _
    exact ((errorDetailed_agrees hplace _ _).weaken Twin.alike).bind fun _ _ ↦
      hend.weaken Twin.alike

theorem rule_agrees (levels levels' : Nat) : Agrees (Twin place (Alike place) outer outer')
    (rule levels) (rule levels') fun _ _ ↦ Twin place (Alike place) outer outer' := by
  apply (expect_agrees .keywordRule).bind
  intro _ _
  apply node_agrees
  apply (Agrees.weaken currentSpan_agrees Twin.alike).bind
  intro opening opening'
  apply Agrees.assume
  intro _
  apply Agrees.bind bump_agrees
  intro _ _
  apply (eat_agrees .identifier).both
  intro named
  apply Agrees.ite
  · intro _
    exact (error_agrees hplace _).bind fun _ _ ↦
      (ruleBody_agrees hplace _ _ _ _).weaken Twin.alike
  · intro _
    exact ruleBody_agrees hplace _ _ _ _

theorem nextSegment_agrees (u : Unit) : Agrees (Twin place (Alike place) outer outer')
    (nextSegment u) (nextSegment u) (Both fun _ ↦ Twin place (Alike place) outer outer') := by
  apply (currentIs_agrees .doubleColon).both
  intro colons
  apply Agrees.ite
  · intro _
    exact .pure fun hs ↦ ⟨rfl, hs.alike⟩
  intro _
  apply Agrees.bind bump_agrees
  intro _ _
  apply (eat_agrees .identifier).both
  intro named
  exact .ite (fun _ ↦ .pure fun hs ↦ ⟨rfl, hs⟩) fun _ ↦
    (error_agrees hplace _).bind fun _ _ ↦ .pure fun hs ↦ ⟨rfl, hs.alike⟩

theorem grammarName_agrees : Agrees (Twin place (Alike place) outer outer') grammarName grammarName
    fun _ _ ↦ Twin place (Alike place) outer outer' := by
  apply (currentIs_agrees .identifier).both
  intro named
  apply Agrees.ite
  · intro _
    exact node_agrees _ (.bind bump_agrees fun _ _ ↦ .loop (nextSegment_agrees hplace))
  · intro _
    exact (error_agrees hplace _).imp Twin.alike Twin.alike

theorem nextRule_agrees (levels levels' : Nat) (opening opening' : Text.Span) (u : Unit) :
    Agrees (Twin place (Alike place) outer outer') (nextRule levels opening u)
      (nextRule levels' opening' u) (Both fun _ ↦ Twin place (Alike place) outer outer') := by
  apply Agrees.both atEnd_agrees
  intro ended
  apply Agrees.ite
  · intro _
    exact ((errorUnclosed_agrees hplace _ _ _ _).weaken Twin.alike).bind fun _ _ ↦
      .pure fun hs ↦ ⟨rfl, hs.alike⟩
  intro _
  apply (Agrees.weaken current_agrees Twin.alike).both
  intro kind
  split
  · exact ((rule_agrees hplace levels levels').weaken fun hs ↦ hs.poised.alike).bind
      fun _ _ ↦ .pure fun hs ↦ ⟨rfl, hs⟩
  · exact (Agrees.weaken bump_agrees Twin.poised).bind fun _ _ ↦ .pure fun hs ↦ ⟨rfl, hs⟩
  · exact ((errorAndBump_agrees hplace _ _).weaken fun hs ↦ hs.poised.alike).bind
      fun _ _ ↦ .pure fun hs ↦ ⟨rfl, hs⟩

theorem grammar_agrees (levels levels' : Nat) : Agrees (Twin place (Alike place) outer outer')
    (grammar levels) (grammar levels') fun _ _ ↦ Twin place (Alike place) outer outer' := by
  apply (expect_agrees .keywordGrammar).bind
  intro _ _
  apply node_agrees
  apply (Agrees.weaken currentSpan_agrees Twin.alike).bind
  intro opening opening'
  apply Agrees.assume
  intro _
  apply Agrees.bind bump_agrees
  intro _ _
  apply (grammarName_agrees hplace).bind
  intro _ _
  apply (eat_agrees .keywordDo).both
  intro _
  exact .loop (nextRule_agrees hplace levels levels' opening opening')

theorem endOfText_agrees : Agrees (Twin place (Alike place) outer outer') endOfText endOfText
    fun _ _ ↦ Twin place (Alike place) outer outer' := by
  apply Agrees.both atEnd_agrees
  intro ended
  apply Agrees.ite
  · intro _
    apply ((error_agrees hplace .trailingInput).weaken Twin.alike).bind
    intro _ _
    apply (Agrees.weaken bumpRest_agrees Twin.alike).bind
    intro _ _
    exact addTrivia_agrees
  · intro _
    exact .weaken addTrivia_agrees Twin.alike

theorem root_agrees (levels levels' : Nat) : Agrees (Twin place (Alike place) outer outer')
    (root levels) (root levels') fun _ _ ↦ Twin place (Alike place) outer outer' := by
  apply node_agrees
  apply (currentIs_agrees .keywordGrammar).both
  intro begins
  apply Agrees.ite
  · intro _
    exact ((grammar_agrees hplace levels levels').weaken Twin.alike).bind fun _ _ ↦
      endOfText_agrees hplace
  · intro _
    exact ((error_agrees hplace _).weaken Twin.alike).bind fun _ _ ↦
      (endOfText_agrees hplace).weaken Twin.alike

end Productions

end Parse

end Cst

end PegKit
