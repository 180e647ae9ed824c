import PegKit.Cst.Production

/-!
# What reading preserves

Productions are made of a few actions on the state. A relation that holds between the states before
and after each action, and that can be followed along actions, holds between the states before and
after every production, on well-formed text and on any other.
-/

namespace PegKit.Cst

namespace Parse

/-- Relations between states that can be followed along actions. -/
structure Followed (R : State → State → Prop) : Prop where
  refl : ∀ s, R s s
  trans : ∀ {s s' s''}, R s s' → R s' s'' → R s s''

/-- Relations that hold of every action but those that make a node. -/
structure Tracked (R : State → State → Prop) : Prop extends Followed R where
  looked : ∀ s lookaheads, R s { s with lookaheads }
  passed : ∀ s, R s
    { s with
      pending := s.pending ++ s.remaining.takeWhile Token.isTrivia
      remaining := s.remaining.dropWhile Token.isTrivia }
  flushed : ∀ s, R s
    { s with pending := [], built := s.built ++ (s.pending.map Cst.leaf).toArray }
  taken : ∀ s token rest, s.remaining = token :: rest → s.pending = [] → R s
    { s with
      remaining := rest
      built := s.built.push (.leaf token)
      fuel := s.fuel.map (· - 1)
      consumed := s.consumed + 1 }
  placed : ∀ s lastErrorAt, R s { s with lastErrorAt }
  reported : ∀ s diagnostic, R s { s with diagnostics := s.diagnostics ++ [diagnostic] }

/-- Relations that hold of every action. -/
structure Respected (R : State → State → Prop) : Prop extends Tracked R where
  nested : ∀ {s s'} (kind : Kind), R { s with built := #[] } s' →
    R s { s' with built := s.built.push (.node kind s'.built.toList) }
  wrapped : ∀ s start (kind : Kind), R s
    { s with built := (s.built.take start).push (.node kind (s.built.toList.drop start)) }

instance {R : State → State → Prop} : Coe (Tracked R) (Followed R) := ⟨Tracked.toFollowed⟩

instance {R : State → State → Prop} : Coe (Respected R) (Tracked R) := ⟨Respected.toTracked⟩

/-- The relation holds between the states before and after. -/
structure Preserves {α : Type} (R : State → State → Prop) (m : Parse α) : Prop where
  holds : ∀ {s : State} {a : α} {s' : State}, m.run s = .ok (a, s') → R s s'

theorem run_bind {α β : Type} {m : Parse α} {f : α → Parse β} {s s' : State} {b : β}
    (h : (m >>= f).run s = .ok (b, s')) :
    ∃ a s₁, m.run s = .ok (a, s₁) ∧ (f a).run s₁ = .ok (b, s') := by
  rw [StateT.run_bind] at h
  cases hm : m.run s with
  | error fault =>
    rw [hm] at h
    cases h
  | ok found =>
    rw [hm] at h
    exact ⟨found.1, found.2, rfl, h⟩

theorem run_pure {α : Type} {a b : α} {s s' : State}
    (h : (pure a : Parse α).run s = .ok (b, s')) : a = b ∧ s = s' := by
  cases h
  exact ⟨rfl, rfl⟩

theorem run_modify {f : State → State} {s s' : State} {u : Unit}
    (h : (modify f : Parse Unit).run s = .ok (u, s')) : s' = f s := by
  cases h
  rfl

theorem run_get_bind {β : Type} {f : State → Parse β} {s s' : State} {b : β}
    (h : (get >>= f).run s = .ok (b, s')) : (f s).run s = .ok (b, s') := h

theorem run_gets {α : Type} {f : State → α} {s s' : State} {a : α}
    (h : (get >>= fun s ↦ pure (f s) : Parse α).run s = .ok (a, s')) : f s = a ∧ s = s' :=
  run_pure (run_get_bind h)

theorem run_modify_bind {β : Type} {f : State → State} {m : Unit → Parse β} {s s' : State} {b : β}
    (h : (modify f >>= m).run s = .ok (b, s')) : (m ()).run (f s) = .ok (b, s') := h

namespace Preserves

variable {α β : Type} {R : State → State → Prop}

theorem bind (hR : Followed R) {m : Parse α} {f : α → Parse β} (h : Preserves R m)
    (h' : ∀ a, Preserves R (f a)) : Preserves R (m >>= f) where
  holds hrun := by
    obtain ⟨a, s₁, hfirst, hrest⟩ := run_bind hrun
    exact hR.trans (h.holds hfirst) ((h' a).holds hrest)

theorem pure (hR : Followed R) (a : α) : Preserves R (pure a) where
  holds hrun := (run_pure hrun).2 ▸ hR.refl _

theorem throw (fault : Fault) : Preserves R (throw fault : Parse α) where
  holds hrun := by cases hrun

theorem ite {p : Prop} [Decidable p] {m m' : Parse α} (h : Preserves R m)
    (h' : Preserves R m') : Preserves R (if p then m else m') := by
  split
  · exact h
  · exact h'

theorem modify {f : State → State} (h : ∀ s, R s (f s)) :
    Preserves R (modify f : Parse Unit) where
  holds hrun := run_modify hrun ▸ h _

/-- A part that looks at the state first. -/
theorem get_bind {f : State → Parse β} (h : ∀ {s b s'}, (f s).run s = .ok (b, s') → R s s') :
    Preserves R (get >>= f) where
  holds hrun := h (run_get_bind hrun)

/-- A part that only looks at the state. -/
theorem gets (hR : Followed R) (f : State → α) : Preserves R (get >>= fun s ↦ Pure.pure (f s)) :=
  get_bind fun hrun ↦ (run_pure hrun).2 ▸ hR.refl _

theorem iterate (hR : Followed R) {step : α → Parse (Option α)} (h : ∀ a, Preserves R (step a))
    (bound : Nat) (a : α) : Preserves R (Parse.iterate step bound a) := by
  induction bound generalizing a with
  | zero => exact .throw .stuck
  | succ bound ih =>
    refine .bind hR (h a) fun next ↦ ?_
    cases next with
    | none => exact .pure hR a
    | some next => exact ih next

theorem untilDone (hR : Followed R) {step : α → Parse (Option α)}
    (h : ∀ a, Preserves R (step a)) (a : α) : Preserves R (Parse.untilDone step a) :=
  get_bind fun hrun ↦ (iterate hR h _ a).holds hrun

end Preserves

/-! ## Actions -/

/-- Consuming a token adds the trivia held back, and then the token. -/
theorem run_bump {s s' : State} {u : Unit} (h : bump.run s = .ok (u, s')) :
    ∃ token rest, s.remaining = token :: rest ∧ s' =
      { s with
        lookaheads := lookaheadBudget, pending := [], remaining := rest
        built := (s.built ++ (s.pending.map Cst.leaf).toArray).push (.leaf token)
        fuel := s.fuel.map (· - 1), consumed := s.consumed + 1 } := by
  obtain ⟨remaining, pending, built, diagnostics, fuel, consumed, lookaheads, place, length, exhausted⟩ := s
  cases remaining with
  | nil => cases h
  | cons token rest =>
    refine ⟨token, rest, rfl, ?_⟩
    match fuel with
    | none =>
      cases h
      rfl
    | some 0 => cases h
    | some (fuel + 1) =>
      cases h
      rfl

theorem run_node {kind : Kind} {body : Parse Unit} {s s' : State} {u : Unit}
    (h : (node kind body).run s = .ok (u, s')) :
    ∃ s₁, body.run { s with pending := [], built := #[] } = .ok ((), s₁) ∧ s' =
      { s₁ with
        built := (s.built ++ (s.pending.map Cst.leaf).toArray).push
          (.node kind s₁.built.toList) } := by
  obtain ⟨_, s₁, hbody, hclose⟩ := run_bind (run_modify_bind (run_get_bind (run_modify_bind h)))
  exact ⟨s₁, hbody, run_modify hclose⟩

variable {R : State → State → Prop}

section Tracked

variable (hR : Tracked R)

include hR

theorem passTrivia_preserves : Preserves R passTrivia := .modify hR.passed

theorem countLookahead_preserves : Preserves R countLookahead := by
  refine .get_bind fun hrun ↦ ?_
  split at hrun
  · cases hrun
  · cases hrun
    exact hR.looked _ _

theorem restoreLookaheads_preserves : Preserves R restoreLookaheads :=
  .modify fun s ↦ hR.looked s _

theorem current_preserves : Preserves R current :=
  .bind hR (passTrivia_preserves hR) fun _ ↦ .bind hR (countLookahead_preserves hR) fun _ ↦
    .gets hR _

theorem currentSpan_preserves : Preserves R currentSpan :=
  .bind hR (passTrivia_preserves hR) fun _ ↦ .gets hR _

theorem currentIs_preserves (kind : Kind) : Preserves R (currentIs kind) :=
  .bind hR (current_preserves hR) fun _ ↦ .pure hR _

theorem currentIsIn_preserves (set : KindSet) : Preserves R (currentIsIn set) :=
  .bind hR (current_preserves hR) fun _ ↦ .pure hR _

theorem nextIs_preserves (kind : Kind) : Preserves R (nextIs kind) := by
  refine .bind hR (passTrivia_preserves hR) fun _ ↦ .bind hR (countLookahead_preserves hR) fun _ ↦
    .get_bind fun hrun ↦ ?_
  split at hrun <;> exact (run_pure hrun).2 ▸ hR.refl _

theorem atEnd_preserves : Preserves R atEnd :=
  .bind hR (passTrivia_preserves hR) fun _ ↦ .gets hR _

theorem expect_preserves (kind : Kind) : Preserves R (expect kind) :=
  .bind hR (current_preserves hR) fun _ ↦ .ite (.throw _) (.pure hR ())

theorem addTrivia_preserves : Preserves R addTrivia := .modify hR.flushed

theorem mark_preserves : Preserves R mark :=
  .bind hR (addTrivia_preserves hR) fun _ ↦ .gets hR _

theorem bump_preserves : Preserves R bump where
  holds hrun := by
    obtain ⟨token, rest, hremaining, rfl⟩ := run_bump hrun
    refine hR.trans (hR.looked _ lookaheadBudget) (hR.trans (hR.flushed _) ?_)
    exact hR.taken _ token rest hremaining rfl

theorem eat_preserves (kind : Kind) : Preserves R (eat kind) :=
  .bind hR (currentIs_preserves hR kind) fun _ ↦
    .ite (.bind hR (bump_preserves hR) fun _ ↦ .pure hR _) (.pure hR _)

theorem freshPlace_preserves (offset : Nat) : Preserves R (freshPlace offset) := by
  refine .get_bind fun hrun ↦ ?_
  cases hrun
  exact hR.placed _ _

theorem report_preserves (diagnostic : Diagnostic) : Preserves R (report diagnostic) :=
  .modify fun s ↦ hR.reported s diagnostic

theorem reportHere_preserves (wording : Text.Span → Diagnostic) :
    Preserves R (reportHere wording) :=
  .bind hR (currentSpan_preserves hR) fun _ ↦ .bind hR (freshPlace_preserves hR _) fun _ ↦
    .ite (report_preserves hR _) (.pure hR ())

theorem error_preserves (kind : DiagnosticKind) : Preserves R (error kind) :=
  reportHere_preserves hR _

theorem errorDetailed_preserves (kind : DiagnosticKind) (detail : String) :
    Preserves R (errorDetailed kind detail) :=
  reportHere_preserves hR _

theorem errorUnclosed_preserves (kind : DiagnosticKind) (note : String) (opening : Text.Span) :
    Preserves R (errorUnclosed kind note opening) := reportHere_preserves hR _

theorem nextSegment_preserves (u : Unit) : Preserves R (nextSegment u) :=
  .bind hR (currentIs_preserves hR .doubleColon) fun _ ↦
    .ite (.pure hR _) (.bind hR (bump_preserves hR) fun _ ↦
      .bind hR (eat_preserves hR .identifier) fun _ ↦
        .ite (.pure hR _) (.bind hR (error_preserves hR _) fun _ ↦ .pure hR _))

theorem stopsAt_preserves (recovery : KindSet) : Preserves R (stopsAt recovery) :=
  .bind hR (currentIsIn_preserves hR recovery) fun _ ↦ .ite (.pure hR _) (atEnd_preserves hR)

theorem skipToken_preserves (recovery : KindSet) (u : Unit) : Preserves R (skipToken recovery u) :=
  .bind hR (stopsAt_preserves hR recovery) fun _ ↦
    .ite (.pure hR _) (.bind hR (bump_preserves hR) fun _ ↦ .pure hR _)

theorem takeToken_preserves (u : Unit) : Preserves R (takeToken u) :=
  .get_bind fun hrun ↦
    (Preserves.ite (.pure hR _) (.bind hR (bump_preserves hR) fun _ ↦ .pure hR _)).holds hrun

end Tracked

/-! ## Nodes -/

variable (hR : Respected R)

include hR

theorem wrapFrom_preserves (start : Nat) (kind : Kind) : Preserves R (wrapFrom start kind) :=
  .modify fun s ↦ hR.wrapped s start kind

theorem node_preserves (kind : Kind) {body : Parse Unit} (hbody : Preserves R body) :
    Preserves R (node kind body) := by
  refine .bind hR (addTrivia_preserves hR) fun _ ↦ .get_bind fun hrun ↦ ?_
  obtain ⟨_, s₁, hinner, hclose⟩ := run_bind (run_modify_bind hrun)
  rw [run_modify hclose]
  exact hR.nested kind (hbody.holds hinner)

theorem errorAndBump_preserves (kind : DiagnosticKind) (detail : String) :
    Preserves R (errorAndBump kind detail) :=
  .bind hR (errorDetailed_preserves hR kind detail) fun _ ↦ .get_bind fun hrun ↦
    (Preserves.ite (node_preserves hR .error (bump_preserves hR)) (.pure hR ())).holds hrun

theorem errorAndRecover_preserves (kind : DiagnosticKind) (detail : String) (recovery : KindSet) :
    Preserves R (errorAndRecover kind detail recovery) :=
  .bind hR (stopsAt_preserves hR recovery) fun _ ↦ .ite (errorDetailed_preserves hR kind detail)
    (node_preserves hR .error (.bind hR (errorDetailed_preserves hR kind detail) fun _ ↦
      .untilDone hR (skipToken_preserves hR recovery) ()))

theorem bumpRest_preserves : Preserves R bumpRest :=
  node_preserves hR .error (.untilDone hR (takeToken_preserves hR) ())

/-! ## Productions -/

theorem single_preserves (kind : Kind) : Preserves R (single kind) :=
  node_preserves hR kind (bump_preserves hR)

theorem string_preserves : Preserves R string :=
  node_preserves hR .strNode (.bind hR (current_preserves hR) fun quote ↦
    .bind hR (bump_preserves hR) fun _ ↦ .bind hR (eat_preserves hR .stringValue) fun _ ↦
      .bind hR (eat_preserves hR quote) fun _ ↦ .pure hR ())

theorem nextQuantifier_preserves (start : Nat) (u : Unit) :
    Preserves R (nextQuantifier start u) :=
  .bind hR (currentIsIn_preserves hR .quantifiers) fun _ ↦
    .ite (.pure hR _) (.bind hR (bump_preserves hR) fun _ ↦
      .bind hR (wrapFrom_preserves hR _ _) fun _ ↦ .pure hR _)

section Items

variable {item : Parse Unit} (hitem : Preserves R item)

include hitem

theorem nextItem_preserves (count : Nat) : Preserves R (nextItem item count) :=
  .bind hR (atEnd_preserves hR) fun _ ↦ .ite (.pure hR _)
    (.bind hR (currentIsIn_preserves hR .sequenceEnd) fun _ ↦ .ite (.pure hR _)
      (.bind hR (currentIsIn_preserves hR .expressionFirst) fun _ ↦
        .ite (.bind hR hitem fun _ ↦ .pure hR _)
          (.bind hR (errorAndBump_preserves hR _ _) fun _ ↦ .pure hR _)))

theorem sequenceItems_preserves : Preserves R (sequenceItems item) :=
  .untilDone hR (nextItem_preserves hR hitem) 0

theorem sequence_preserves : Preserves R (sequence item) :=
  .bind hR (mark_preserves hR) fun _ ↦ .bind hR (sequenceItems_preserves hR hitem) fun _ ↦
    .ite (wrapFrom_preserves hR _ _) (.pure hR ())

theorem nextAlternative_preserves (u : Unit) : Preserves R (nextAlternative item u) :=
  .bind hR (currentIs_preserves hR .slash) fun _ ↦
    .ite (.pure hR _) (.bind hR (bump_preserves hR) fun _ ↦
      .bind hR (currentIsIn_preserves hR .expressionFirst) fun _ ↦
        .ite (.bind hR (sequence_preserves hR hitem) fun _ ↦ .pure hR _)
          (.bind hR (errorDetailed_preserves hR _ _) fun _ ↦ .pure hR _))

theorem choice_preserves : Preserves R (choice item) :=
  .bind hR (mark_preserves hR) fun _ ↦ .bind hR (sequence_preserves hR hitem) fun _ ↦
    .bind hR (currentIs_preserves hR .slash) fun _ ↦
      .ite (.bind hR (.untilDone hR (nextAlternative_preserves hR hitem) ()) fun _ ↦
        wrapFrom_preserves hR _ _) (.pure hR ())

theorem group_preserves : Preserves R (group item) := by
  refine .bind hR (expect_preserves hR _) fun _ ↦ node_preserves hR .groupNode
    (.bind hR (currentSpan_preserves hR) fun opening ↦ .bind hR (bump_preserves hR) fun _ ↦
      .bind hR (currentIs_preserves hR .parenClose) fun _ ↦
        .ite (.bind hR (error_preserves hR _) fun _ ↦ bump_preserves hR)
          (.bind hR (currentIsIn_preserves hR .expressionFirst) fun _ ↦ ?_))
  have hclose : Preserves R (do
      if !(← eat .parenClose) then
        errorUnclosed .unclosedGroup "group starts here" opening) :=
    .bind hR (eat_preserves hR _) fun _ ↦ .ite (errorUnclosed_preserves hR _ _ _) (.pure hR ())
  exact .ite (.bind hR (choice_preserves hR hitem) fun _ ↦ hclose) hclose

theorem primary_preserves : Preserves R (primary item) := by
  refine .bind hR (current_preserves hR) fun kind ↦ ?_
  split
  · exact single_preserves hR _
  · exact single_preserves hR _
  · exact single_preserves hR _
  · exact string_preserves hR
  · exact string_preserves hR
  · exact group_preserves hR hitem
  · exact errorAndBump_preserves hR _ _

theorem repeated_preserves : Preserves R (repeated item) :=
  .bind hR (mark_preserves hR) fun start ↦ .bind hR (primary_preserves hR hitem) fun _ ↦
    .untilDone hR (nextQuantifier_preserves hR start) ()

theorem operand_preserves (what : String) : Preserves R (operand item what) :=
  .bind hR (currentIsIn_preserves hR .expressionFirst) fun _ ↦
    .ite hitem (errorDetailed_preserves hR _ _)

theorem guarded_preserves : Preserves R (guarded item) :=
  .bind hR (nextIs_preserves hR .block) fun _ ↦ .ite
    (node_preserves hR .predicateNode (.bind hR (bump_preserves hR) fun _ ↦ bump_preserves hR))
    (node_preserves hR .lookaheadNode (.bind hR (bump_preserves hR) fun _ ↦
      operand_preserves hR hitem _))

theorem labelled_preserves : Preserves R (labelled item) :=
  .bind hR (nextIs_preserves hR .colon) fun _ ↦ .ite
    (node_preserves hR .labelNode (.bind hR (bump_preserves hR) fun _ ↦
      .bind hR (bump_preserves hR) fun _ ↦ operand_preserves hR hitem _))
    (repeated_preserves hR hitem)

theorem prefixedBody_preserves : Preserves R (prefixedBody item) := by
  refine .bind hR (current_preserves hR) fun kind ↦ ?_
  split
  · exact guarded_preserves hR hitem
  · exact guarded_preserves hR hitem
  · exact labelled_preserves hR hitem
  · exact repeated_preserves hR hitem

end Items

theorem prefixed_preserves (levels : Nat) : Preserves R (prefixed levels) := by
  induction levels with
  | zero => exact .throw _
  | succ levels ih =>
    exact .bind hR (restoreLookaheads_preserves hR) fun _ ↦
      .bind hR (prefixedBody_preserves hR ih) fun _ ↦ restoreLookaheads_preserves hR

theorem endRule_preserves (opening : Text.Span) (u : Unit) : Preserves R (endRule opening u) := by
  refine .bind hR (atEnd_preserves hR) fun _ ↦ .ite
    (.bind hR (errorUnclosed_preserves hR _ _ _) fun _ ↦ .pure hR _)
    (.bind hR (current_preserves hR) fun kind ↦ ?_)
  split
  · exact .bind hR (bump_preserves hR) fun _ ↦ .pure hR _
  · exact .bind hR (errorUnclosed_preserves hR _ _ _) fun _ ↦ .pure hR _
  · exact .bind hR (errorAndRecover_preserves hR _ _ _) fun _ ↦ .pure hR _

theorem ruleBody_preserves (levels : Nat) (opening : Text.Span) :
    Preserves R (ruleBody levels opening) := by
  have hend := Preserves.untilDone hR (endRule_preserves hR opening) ()
  exact .bind hR (eat_preserves hR .keywordDo) fun _ ↦
    .bind hR (currentIsIn_preserves hR .expressionFirst) fun _ ↦
      .ite (.bind hR (choice_preserves hR (prefixed_preserves hR levels)) fun _ ↦ hend)
        (.bind hR (errorDetailed_preserves hR _ _) fun _ ↦ hend)

theorem rule_preserves (levels : Nat) : Preserves R (rule levels) :=
  .bind hR (expect_preserves hR _) fun _ ↦ node_preserves hR .ruleNode
    (.bind hR (currentSpan_preserves hR) fun opening ↦ .bind hR (bump_preserves hR) fun _ ↦
      .bind hR (eat_preserves hR .identifier) fun _ ↦ .ite
        (.bind hR (error_preserves hR _) fun _ ↦ ruleBody_preserves hR levels opening)
        (ruleBody_preserves hR levels opening))

theorem grammarName_preserves : Preserves R grammarName :=
  .bind hR (currentIs_preserves hR .identifier) fun _ ↦
    .ite (node_preserves hR .grammarNameNode (.bind hR (bump_preserves hR) fun _ ↦
      .untilDone hR (nextSegment_preserves hR) ())) (error_preserves hR _)

theorem nextRule_preserves (levels : Nat) (opening : Text.Span) (u : Unit) :
    Preserves R (nextRule levels opening u) := by
  refine .bind hR (atEnd_preserves hR) fun _ ↦ .ite
    (.bind hR (errorUnclosed_preserves hR _ _ _) fun _ ↦ .pure hR _)
    (.bind hR (current_preserves hR) fun kind ↦ ?_)
  split
  · exact .bind hR (rule_preserves hR levels) fun _ ↦ .pure hR _
  · exact .bind hR (bump_preserves hR) fun _ ↦ .pure hR _
  · exact .bind hR (errorAndBump_preserves hR _ _) fun _ ↦ .pure hR _

theorem grammar_preserves (levels : Nat) : Preserves R (grammar levels) :=
  .bind hR (expect_preserves hR _) fun _ ↦ node_preserves hR .grammarNode
    (.bind hR (currentSpan_preserves hR) fun opening ↦ .bind hR (bump_preserves hR) fun _ ↦
      .bind hR (grammarName_preserves hR) fun _ ↦ .bind hR (eat_preserves hR .keywordDo) fun _ ↦
        .untilDone hR (nextRule_preserves hR levels opening) ())

theorem endOfText_preserves : Preserves R endOfText :=
  .bind hR (atEnd_preserves hR) fun _ ↦
    .ite (.bind hR (error_preserves hR _) fun _ ↦ .bind hR (bumpRest_preserves hR) fun _ ↦
      addTrivia_preserves hR) (addTrivia_preserves hR)

/-- Whatever every action respects, reading a whole text does. -/
theorem root_preserves (levels : Nat) : Preserves R (root levels) :=
  node_preserves hR .rootNode (.bind hR (currentIs_preserves hR .keywordGrammar) fun _ ↦
    .ite (.bind hR (grammar_preserves hR levels) fun _ ↦ endOfText_preserves hR)
      (.bind hR (error_preserves hR _) fun _ ↦ endOfText_preserves hR))

end Parse

end PegKit.Cst
