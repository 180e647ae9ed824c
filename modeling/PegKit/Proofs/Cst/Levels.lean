import PegKit.Proofs.Cst.Nesting

/-!
# Levels of reading and layers of trees

What a production adds to the open node has no more layers than the levels it may take allow, on
well-formed text and on any other. Only repetition marks make nodes without taking a level, one for
each of the marks in a row. So the nesting of a tree is bounded by the levels and these marks.
-/

namespace PegKit.Cst

namespace Parse

/-- Nothing but trivia is held back, and the open node holds `outer` and then trees of at most
`layers` layers. -/
structure Since (outer : List Cst) (layers : Nat) (s : State) : Prop where
  idle : ∀ token ∈ s.pending, token.isTrivia = true
  added : ∃ added, s.built.toList = outer ++ added ∧ ∀ tree ∈ added, Layered layers tree

/-- Trees of at most `layers` layers are added to the open node. -/
def Adds (layers : Nat) (s s' : State) : Prop :=
  (∀ token ∈ s.pending, token.isTrivia = true) → Since s.built.toList layers s'

variable {layers layers' : Nat} {outer : List Cst} {s s' : State}

theorem Since.mono (h : Since outer layers s) (hle : layers ≤ layers') : Since outer layers' s := by
  obtain ⟨added, hadded, hwithin⟩ := h.added
  exact ⟨h.idle, added, hadded, fun tree htree ↦ (hwithin tree htree).mono hle⟩

theorem Since.trans (h : Since outer layers s) (h' : Since s.built.toList layers s') :
    Since outer layers s' := by
  obtain ⟨added, hadded, hwithin⟩ := h.added
  obtain ⟨more, hmore, hothers⟩ := h'.added
  refine ⟨h'.idle, added ++ more, ?_, fun tree htree ↦ ?_⟩
  · rw [hmore, hadded, List.append_assoc]
  · exact (List.mem_append.mp htree).elim (hwithin tree) (hothers tree)

theorem Since.adds (h : Since outer layers s) (h' : Adds layers s s') : Since outer layers s' :=
  h.trans (h' h.idle)

theorem since_built (hidle : ∀ token ∈ s.pending, token.isTrivia = true)
    (hbuilt : s.built.toList = outer) : Since outer layers s :=
  ⟨hidle, [], by rw [hbuilt, List.append_nil], by rintro _ ⟨⟩⟩

theorem layered_leaves (tokens : List Token) :
    ∀ tree ∈ tokens.map Cst.leaf, Layered layers tree := by
  intro tree htree
  obtain ⟨token, _, rfl⟩ := List.mem_map.mp htree
  exact .leaf token

/-- Trivia and tokens add no layer. -/
theorem adds_tracked (layers : Nat) : Tracked (Adds layers) where
  refl _ hidle := since_built hidle rfl
  trans h h' hidle := (h hidle).adds h'
  looked _ _ hidle := since_built hidle rfl
  passed s hidle := by
    refine since_built (fun token htoken ↦ ?_) rfl
    rcases List.mem_append.mp htoken with htoken | htoken
    · exact hidle token htoken
    · exact List.mem_takeWhile_imp htoken
  flushed s _ := ⟨by rintro _ ⟨⟩, _, Array.toList_append, layered_leaves s.pending⟩
  taken _ token _ _ _ hidle := ⟨hidle, [token].map Cst.leaf, Array.toList_push, layered_leaves _⟩
  placed _ _ hidle := since_built hidle rfl
  reported _ _ hidle := since_built hidle rfl

theorem Adds.mono (h : Adds layers s s') (hle : layers ≤ layers') : Adds layers' s s' :=
  fun hidle ↦ (h hidle).mono hle

theorem Preserves.mono {α : Type} {m : Parse α} (h : Preserves (Adds layers) m)
    (hle : layers ≤ layers') : Preserves (Adds layers') m where
  holds hrun := (h.holds hrun).mono hle

/-! ## One tree -/

/-- The open node holds `outer` and then at most one tree apart from trivia, of at most `layers`
layers. -/
structure Alone (outer : List Cst) (layers : Nat) (s : State) : Prop where
  idle : ∀ token ∈ s.pending, token.isTrivia = true
  added : ∃ added, s.built.toList = outer ++ added ∧ (∀ tree ∈ added, Layered layers tree) ∧
    (significant added).length ≤ 1

/-- At most one tree of at most `layers` layers is added to the open node. -/
def AddsOne (layers : Nat) (s s' : State) : Prop :=
  (∀ token ∈ s.pending, token.isTrivia = true) → Alone s.built.toList layers s'

/-- Nothing is added to the open node. -/
def Looks (s s' : State) : Prop :=
  (∀ token ∈ s.pending, token.isTrivia = true) →
    (∀ token ∈ s'.pending, token.isTrivia = true) ∧ s'.built = s.built

theorem Alone.since (h : Alone outer layers s) : Since outer layers s := by
  obtain ⟨added, hadded, hwithin, _⟩ := h.added
  exact ⟨h.idle, added, hadded, hwithin⟩

theorem Preserves.adds {α : Type} {m : Parse α} (h : Preserves (AddsOne layers) m) :
    Preserves (Adds layers) m where
  holds hrun hidle := (h.holds hrun hidle).since

theorem Preserves.looking {α β : Type} {m : Parse α} {f : α → Parse β} (h : Preserves Looks m)
    (h' : ∀ a, Preserves (AddsOne layers) (f a)) : Preserves (AddsOne layers) (m >>= f) where
  holds hrun hidle := by
    obtain ⟨a, s₁, hlook, hrest⟩ := run_bind hrun
    obtain ⟨hkept, hbuilt⟩ := h.holds hlook hidle
    exact hbuilt ▸ (h' a).holds hrest hkept

theorem looks_followed : Followed Looks where
  refl _ hidle := ⟨hidle, rfl⟩
  trans h h' hidle := ⟨(h' (h hidle).1).1, (h' (h hidle).1).2.trans (h hidle).2⟩

theorem passTrivia_looks : Preserves Looks passTrivia := by
  refine .modify fun s hidle ↦ ⟨fun token htoken ↦ ?_, rfl⟩
  rcases List.mem_append.mp htoken with htoken | htoken
  · exact hidle token htoken
  · exact List.mem_takeWhile_imp htoken

theorem countLookahead_looks : Preserves Looks countLookahead where
  holds hrun hidle := by
    obtain ⟨lookaheads, rfl⟩ := countLookahead_reads hrun
    exact ⟨hidle, rfl⟩

theorem current_looks : Preserves Looks current :=
  .bind looks_followed passTrivia_looks fun _ ↦ .bind looks_followed countLookahead_looks fun _ ↦
    .gets looks_followed _

theorem expect_looks (kind : Kind) : Preserves Looks (expect kind) :=
  .bind looks_followed current_looks fun _ ↦ .ite (.throw _) (.pure looks_followed ())

theorem errorDetailed_looks (kind : DiagnosticKind) (detail : String) :
    Preserves Looks (errorDetailed kind detail) := by
  refine .bind looks_followed (.bind looks_followed passTrivia_looks fun _ ↦
    .gets looks_followed _) fun _ ↦ .bind looks_followed ?_ fun _ ↦
      .ite ?_ (.pure looks_followed ())
  · refine .get_bind fun hrun ↦ ?_
    cases hrun
    exact fun hidle ↦ ⟨hidle, rfl⟩
  · exact .modify fun s hidle ↦ ⟨hidle, rfl⟩

/-- The current token is the one at the front. -/
theorem run_current {kind : Kind} (hrun : current.run s = .ok (kind, s')) :
    kind = (s'.remaining.head?.map (·.kind)).getD .error := by
  obtain ⟨_, s₁, _, hrest⟩ := run_bind hrun
  obtain ⟨_, s₂, _, hlook⟩ := run_bind hrest
  obtain ⟨rfl, rfl⟩ := run_gets hlook
  rfl

theorem Preserves.mono_one {α : Type} {m : Parse α} (h : Preserves (AddsOne layers) m)
    (hle : layers ≤ layers') : Preserves (AddsOne layers') m where
  holds hrun hidle := by
    obtain ⟨hkept, added, hadded, hwithin, hfew⟩ := h.holds hrun hidle
    exact ⟨hkept, added, hadded, fun tree htree ↦ (hwithin tree htree).mono hle, hfew⟩

/-! ## Nodes -/

/-- A node is a layer around what its body adds. -/
theorem node_one {kind : Kind} (hkind : kind ≠ .quantifierNode) {body : Parse Unit}
    (h : Preserves (Adds layers) body) : Preserves (AddsOne (layers + 1)) (node kind body) where
  holds {s _ _} hrun hidle := by
    obtain ⟨s₁, hbody, rfl⟩ := run_node hrun
    obtain ⟨hkept, children, hchildren, hwithin⟩ := h.holds hbody (by rintro _ ⟨⟩)
    obtain rfl : s₁.built.toList = children := hchildren
    refine ⟨hkept, s.pending.map Cst.leaf ++ [.node kind s₁.built.toList], by simp,
      fun tree htree ↦ ?_, ?_⟩
    · rcases List.mem_append.mp htree with htree | htree
      · exact layered_leaves _ tree htree
      · exact List.mem_singleton.mp htree ▸ .node hkind hwithin
    · rw [significant_append, significant_trivia hidle, significant_node]
      exact Nat.le_refl _

theorem node_adds {kind : Kind} (hkind : kind ≠ .quantifierNode) {body : Parse Unit}
    (h : Preserves (Adds layers) body) : Preserves (Adds (layers + 1)) (node kind body) :=
  (node_one hkind h).adds

theorem wrapFrom_builds {added : List Cst} (hadded : s.built.toList = outer ++ added) {kind : Kind}
    {u : Unit} (hrun : (wrapFrom outer.length kind).run s = .ok (u, s')) :
    s'.pending = s.pending ∧ s'.built.toList = outer ++ [.node kind added] := by
  rw [run_modify hrun]
  exact ⟨rfl, by simp [hadded]⟩

theorem wrapFrom_since (h : Since outer layers s) {kind : Kind} (hkind : kind ≠ .quantifierNode)
    {u : Unit} (hrun : (wrapFrom outer.length kind).run s = .ok (u, s')) :
    Since outer (layers + 1) s' := by
  obtain ⟨added, hadded, hwithin⟩ := h.added
  obtain ⟨hpending, hbuilt⟩ := wrapFrom_builds hadded hrun
  refine ⟨hpending ▸ h.idle, [.node kind added], hbuilt, fun tree htree ↦ ?_⟩
  exact List.mem_singleton.mp htree ▸ .node hkind hwithin

/-- What comes after the mark is added as a whole. -/
theorem marked_adds {α : Type} {body : Nat → Parse α}
    (h : ∀ {s a s'}, (∀ token ∈ s.pending, token.isTrivia = true) →
      (body s.built.toList.length).run s = .ok (a, s') → Since s.built.toList layers s') :
    Preserves (Adds layers) (mark >>= body) where
  holds hrun hidle := by
    obtain ⟨_, s₁, hmark, hrest⟩ := run_bind hrun
    obtain ⟨_, s₂, hflush, hsize⟩ := run_bind hmark
    obtain ⟨rfl, rfl⟩ := run_gets hsize
    have hbefore := (addTrivia_preserves (adds_tracked layers)).holds hflush hidle
    exact hbefore.trans (h hbefore.idle hrest)

theorem errorAndBump_one (kind : DiagnosticKind) (detail : String) :
    Preserves (AddsOne 1) (errorAndBump kind detail) := by
  refine (errorDetailed_looks kind detail).looking fun _ ↦ .get_bind fun hrun ↦ ?_
  split at hrun
  · exact (node_one (by decide) (bump_preserves (adds_tracked 0))).holds hrun
  · obtain ⟨_, rfl⟩ := run_pure hrun
    exact fun hidle ↦ ⟨hidle, [], (List.append_nil _).symm, by rintro _ ⟨⟩, Nat.zero_le _⟩

theorem errorAndRecover_adds (kind : DiagnosticKind) (detail : String) (recovery : KindSet) :
    Preserves (Adds 1) (errorAndRecover kind detail recovery) := by
  have hG := adds_tracked 0
  have hG' := adds_tracked 1
  exact .bind hG' (stopsAt_preserves hG' recovery) fun _ ↦
    .ite (errorDetailed_preserves hG' kind detail) (node_adds (by decide)
      (.bind hG (errorDetailed_preserves hG kind detail) fun _ ↦
        .untilDone hG (skipToken_preserves hG recovery) ()))

theorem bumpRest_adds : Preserves (Adds 1) bumpRest := by
  have hG := adds_tracked 0
  exact node_adds (by decide) (.untilDone hG (takeToken_preserves hG) ())

theorem single_one {kind : Kind} (hkind : kind ≠ .quantifierNode) :
    Preserves (AddsOne 1) (single kind) :=
  node_one hkind (bump_preserves (adds_tracked 0))

theorem string_one : Preserves (AddsOne 1) string := by
  have hG := adds_tracked 0
  exact node_one (by decide) (.bind hG (current_preserves hG) fun quote ↦
    .bind hG (bump_preserves hG) fun _ ↦ .bind hG (eat_preserves hG .stringValue) fun _ ↦
      .bind hG (eat_preserves hG quote) fun _ ↦ .pure hG.toFollowed ())

/-- A mark makes one tree of what stands before it and itself. -/
theorem nextQuantifier_keeps (h : Alone outer layers s) {u : Unit} {result : Option Unit}
    (hrun : (nextQuantifier outer.length u).run s = .ok (result, s')) : Alone outer layers s' := by
  obtain ⟨found, s₁, hlook, hrest⟩ := run_bind hrun
  obtain ⟨kind, s₂, hcurrent, hfound⟩ := run_bind hlook
  obtain ⟨rfl, rfl⟩ := run_pure hfound
  obtain ⟨hidle, hbuilt⟩ := current_looks.holds hcurrent h.idle
  obtain ⟨added, hadded, hwithin, hfew⟩ := h.added
  rw [← hbuilt] at hadded
  split at hrest
  · obtain ⟨_, rfl⟩ := run_pure hrest
    exact ⟨hidle, added, hadded, hwithin, hfew⟩
  · next hmark =>
    obtain ⟨_, s₃, hbump, hrest⟩ := run_bind hrest
    obtain ⟨token, rest, hremaining, rfl⟩ := run_bump hbump
    obtain ⟨_, s₄, hwrap, hdone⟩ := run_bind hrest
    obtain ⟨_, rfl⟩ := run_pure hdone
    have hkind : token.isMark = true := by
      rw [run_current hcurrent, hremaining] at hmark
      simpa [Token.isMark] using hmark
    have htoken : token.isTrivia = false := Token.isTrivia_of_isMark hkind
    let children := added ++ s₂.pending.map Cst.leaf ++ [.leaf token]
    have hparts : significant children = significant added ++ [.leaf token] := by
      rw [significant_append, significant_append, significant_trivia hidle, List.append_nil,
        significant_leaf htoken]
    have hall : ∀ child ∈ children, Layered layers child := by
      intro child hchild
      rcases List.mem_append.mp hchild with hchild | hchild
      · exact (List.mem_append.mp hchild).elim (hwithin child) (layered_leaves _ child)
      · exact List.mem_singleton.mp hchild ▸ .leaf token
    have hgathered : ((s₂.built ++ (s₂.pending.map Cst.leaf).toArray).push (.leaf token)).toList =
        outer ++ children := by
      simp [hadded, children]
    obtain ⟨hpending, hwrapped⟩ := wrapFrom_builds hgathered hwrap
    have hflushed : ∀ token ∈ s₄.pending, token.isTrivia = true := by
      rw [hpending]
      rintro _ ⟨⟩
    refine ⟨hflushed, [.node .quantifierNode children], hwrapped, ?_, Nat.le_refl _⟩
    intro tree htree
    exact List.mem_singleton.mp htree ▸ .repetition hparts hfew hkind hall

/-! ## Expressions -/

section Items

variable {item : Parse Unit} (hitem : Preserves (Adds layers) item)

include hitem

theorem operand_adds (what : String) : Preserves (Adds layers) (operand item what) := by
  have hG := adds_tracked layers
  exact .bind hG (currentIsIn_preserves hG .expressionFirst) fun _ ↦
    .ite hitem (errorDetailed_preserves hG _ _)

theorem guarded_adds : Preserves (Adds (layers + 1)) (guarded item) := by
  have hG := adds_tracked layers
  exact .bind (adds_tracked (layers + 1)) (nextIs_preserves (adds_tracked (layers + 1)) .block)
    fun _ ↦ .ite
      (node_adds (by decide) (.bind hG (bump_preserves hG) fun _ ↦ bump_preserves hG))
      (node_adds (by decide) (.bind hG (bump_preserves hG) fun _ ↦
        operand_adds hitem _))

variable (hlayers : 1 ≤ layers)

include hlayers

theorem nextItem_adds (count : Nat) : Preserves (Adds layers) (nextItem item count) := by
  have hG := adds_tracked layers
  exact .bind hG (atEnd_preserves hG) fun _ ↦ .ite (.pure hG.toFollowed _)
    (.bind hG (currentIsIn_preserves hG .sequenceEnd) fun _ ↦ .ite (.pure hG.toFollowed _)
      (.bind hG (currentIsIn_preserves hG .expressionFirst) fun _ ↦
        .ite (.bind hG hitem fun _ ↦ .pure hG.toFollowed _)
          (.bind hG ((errorAndBump_one _ _).adds.mono hlayers) fun _ ↦ .pure hG.toFollowed _)))

theorem sequence_adds : Preserves (Adds (layers + 1)) (sequence item) := by
  apply marked_adds
  intro s _ s' hmarked hrun
  obtain ⟨count, s₁, hitems, hwrap⟩ := run_bind hrun
  have hread : Since s.built.toList layers s₁ := (Preserves.untilDone
    (adds_tracked layers).toFollowed (nextItem_adds hitem hlayers) 0).holds hitems hmarked
  split at hwrap
  · exact wrapFrom_since hread (by decide) hwrap
  · exact (run_pure hwrap).2 ▸ hread.mono (Nat.le_succ _)

theorem nextAlternative_adds (u : Unit) :
    Preserves (Adds (layers + 1)) (nextAlternative item u) := by
  have hG := adds_tracked (layers + 1)
  exact .bind hG (currentIs_preserves hG .slash) fun _ ↦ .ite (.pure hG.toFollowed _)
    (.bind hG (bump_preserves hG) fun _ ↦ .bind hG (currentIsIn_preserves hG .expressionFirst)
      fun _ ↦ .ite (.bind hG (sequence_adds hitem hlayers) fun _ ↦ .pure hG.toFollowed _)
        (.bind hG (errorDetailed_preserves hG _ _) fun _ ↦ .pure hG.toFollowed _))

theorem choice_adds : Preserves (Adds (layers + 2)) (choice item) := by
  have hG := adds_tracked (layers + 1)
  apply marked_adds
  intro s _ s' hmarked hrun
  obtain ⟨_, s₁, hread, hrest⟩ := run_bind hrun
  have hfirst : Since s.built.toList (layers + 1) s₁ :=
    (sequence_adds hitem hlayers).holds hread hmarked
  obtain ⟨slashed, s₂, hslash, hrest⟩ := run_bind hrest
  have hsecond := hfirst.adds ((currentIs_preserves hG .slash).holds hslash)
  split at hrest
  · obtain ⟨_, s₃, hloop, hwrap⟩ := run_bind hrest
    have hothers := Preserves.untilDone hG.toFollowed (nextAlternative_adds hitem hlayers) ()
    exact wrapFrom_since (hsecond.adds (hothers.holds hloop)) (by decide) hwrap
  · exact (run_pure hrest).2 ▸ hsecond.mono (Nat.le_succ _)

theorem group_one : Preserves (AddsOne (layers + 3)) (group item) := by
  have hG := adds_tracked (layers + 2)
  have hclose (opening : Text.Span) : Preserves (Adds (layers + 2)) (do
      if !(← eat .parenClose) then
        errorUnclosed .unclosedGroup "group starts here" opening) :=
    .bind hG (eat_preserves hG _) fun _ ↦
      .ite (errorUnclosed_preserves hG _ _ _) (.pure hG.toFollowed ())
  refine (expect_looks .parenOpen).looking fun _ ↦ node_one (by decide) ?_
  refine .bind hG (currentSpan_preserves hG) fun opening ↦ .bind hG (bump_preserves hG) fun _ ↦
    .bind hG (currentIs_preserves hG .parenClose) fun _ ↦ .ite
      (.bind hG (error_preserves hG _) fun _ ↦ bump_preserves hG)
      (.bind hG (currentIsIn_preserves hG .expressionFirst) fun _ ↦ ?_)
  exact .ite (.bind hG (choice_adds hitem hlayers) fun _ ↦ hclose opening) (hclose opening)

theorem primary_one : Preserves (AddsOne (layers + 3)) (primary item) := by
  have hone {m : Parse Unit} (h : Preserves (AddsOne 1) m) : Preserves (AddsOne (layers + 3)) m :=
    h.mono_one (Nat.le_add_left _ _)
  refine current_looks.looking fun kind ↦ ?_
  split
  · exact hone (single_one (by decide))
  · exact hone (single_one (by decide))
  · exact hone (single_one (by decide))
  · exact hone string_one
  · exact hone string_one
  · exact group_one hitem hlayers
  · exact hone (errorAndBump_one _ _)

theorem repeated_adds : Preserves (Adds (layers + 3)) (repeated item) := by
  apply marked_adds
  intro s _ s' hmarked hrun
  obtain ⟨_, s₁, hread, hrest⟩ := run_bind hrun
  let R (s₁ s₂ : State) : Prop :=
    Alone s.built.toList (layers + 3) s₁ → Alone s.built.toList (layers + 3) s₂
  have hR : Followed R := ⟨fun _ ↦ id, fun h h' ↦ h' ∘ h⟩
  have hkeeps : Preserves R (untilDone (nextQuantifier s.built.toList.length) ()) :=
    .untilDone hR (fun _ ↦ ⟨fun hstep halone ↦ nextQuantifier_keeps halone hstep⟩) ()
  exact (hkeeps.holds hrest ((primary_one hitem hlayers).holds hread hmarked)).since

theorem labelled_adds : Preserves (Adds (layers + 3)) (labelled item) := by
  have hG := adds_tracked layers
  have hlabel : Preserves (Adds (layers + 1)) (node .labelNode do
      bump
      bump
      operand item "label") :=
    node_adds (by decide) (.bind hG (bump_preserves hG) fun _ ↦
      .bind hG (bump_preserves hG) fun _ ↦ operand_adds hitem _)
  exact .bind (adds_tracked (layers + 3)) (nextIs_preserves (adds_tracked (layers + 3)) .colon)
    fun _ ↦ .ite (hlabel.mono (by omega)) (repeated_adds hitem hlayers)

theorem prefixedBody_adds : Preserves (Adds (layers + 3)) (prefixedBody item) := by
  have hG := adds_tracked (layers + 3)
  refine .bind hG (current_preserves hG) fun kind ↦ ?_
  split
  · exact (guarded_adds hitem).mono (by omega)
  · exact (guarded_adds hitem).mono (by omega)
  · exact labelled_adds hitem hlayers
  · exact repeated_adds hitem hlayers

end Items

/-- Three layers for each level: a group, a choice and a sequence, and one that is for errors. -/
theorem prefixed_adds (levels : Nat) : Preserves (Adds (3 * levels + 1)) (prefixed levels) := by
  induction levels with
  | zero => exact .throw _
  | succ levels ih =>
    have hG := adds_tracked (3 * levels + 1 + 3)
    exact .bind hG (restoreLookaheads_preserves hG) fun _ ↦
      .bind hG (prefixedBody_adds ih (Nat.le_add_left _ _)) fun _ ↦ restoreLookaheads_preserves hG

/-! ## Rules and grammars -/

theorem endRule_adds (opening : Text.Span) (u : Unit) : Preserves (Adds 1) (endRule opening u) := by
  have hG := adds_tracked 1
  refine .bind hG (atEnd_preserves hG) fun _ ↦ .ite
    (.bind hG (errorUnclosed_preserves hG _ _ _) fun _ ↦ .pure hG.toFollowed _)
    (.bind hG (current_preserves hG) fun kind ↦ ?_)
  split
  · exact .bind hG (bump_preserves hG) fun _ ↦ .pure hG.toFollowed _
  · exact .bind hG (errorUnclosed_preserves hG _ _ _) fun _ ↦ .pure hG.toFollowed _
  · exact .bind hG (errorAndRecover_adds _ _ _) fun _ ↦ .pure hG.toFollowed _

theorem ruleBody_adds (levels : Nat) (opening : Text.Span) :
    Preserves (Adds (3 * levels + 3)) (ruleBody levels opening) := by
  have hG := adds_tracked (3 * levels + 3)
  have hend : Preserves (Adds (3 * levels + 3)) (untilDone (endRule opening) ()) :=
    .untilDone hG (fun u ↦ (endRule_adds opening u).mono (Nat.le_add_left _ _)) ()
  exact .bind hG (eat_preserves hG .keywordDo) fun _ ↦
    .bind hG (currentIsIn_preserves hG .expressionFirst) fun _ ↦
      .ite (.bind hG (choice_adds (prefixed_adds levels) (Nat.le_add_left _ _)) fun _ ↦ hend)
        (.bind hG (errorDetailed_preserves hG _ _) fun _ ↦ hend)

theorem rule_adds (levels : Nat) : Preserves (Adds (3 * levels + 4)) (rule levels) := by
  have hG := adds_tracked (3 * levels + 3)
  have hG' := adds_tracked (3 * levels + 4)
  exact .bind hG' (expect_preserves hG' _) fun _ ↦ node_adds (by decide)
    (.bind hG (currentSpan_preserves hG) fun opening ↦ .bind hG (bump_preserves hG) fun _ ↦
      .bind hG (eat_preserves hG .identifier) fun _ ↦ .ite
        (.bind hG (error_preserves hG _) fun _ ↦ ruleBody_adds levels opening)
        (ruleBody_adds levels opening))

theorem grammarName_adds : Preserves (Adds 1) grammarName := by
  have hG := adds_tracked 0
  have hG' := adds_tracked 1
  exact .bind hG' (currentIs_preserves hG' .identifier) fun _ ↦
    .ite (node_adds (by decide) (.bind hG (bump_preserves hG) fun _ ↦
      .untilDone hG (nextSegment_preserves hG) ())) (error_preserves hG' _)

theorem nextRule_adds (levels : Nat) (opening : Text.Span) (u : Unit) :
    Preserves (Adds (3 * levels + 4)) (nextRule levels opening u) := by
  have hG := adds_tracked (3 * levels + 4)
  refine .bind hG (atEnd_preserves hG) fun _ ↦ .ite
    (.bind hG (errorUnclosed_preserves hG _ _ _) fun _ ↦ .pure hG.toFollowed _)
    (.bind hG (current_preserves hG) fun kind ↦ ?_)
  split
  · exact .bind hG (rule_adds levels) fun _ ↦ .pure hG.toFollowed _
  · exact .bind hG (bump_preserves hG) fun _ ↦ .pure hG.toFollowed _
  · exact .bind hG ((errorAndBump_one _ _).adds.mono (Nat.le_add_left _ _)) fun _ ↦
      .pure hG.toFollowed _

theorem grammar_adds (levels : Nat) : Preserves (Adds (3 * levels + 5)) (grammar levels) := by
  have hG := adds_tracked (3 * levels + 4)
  have hG' := adds_tracked (3 * levels + 5)
  exact .bind hG' (expect_preserves hG' _) fun _ ↦ node_adds (by decide)
    (.bind hG (currentSpan_preserves hG) fun opening ↦ .bind hG (bump_preserves hG) fun _ ↦
      .bind hG (grammarName_adds.mono (Nat.le_add_left _ _)) fun _ ↦
        .bind hG (eat_preserves hG .keywordDo) fun _ ↦
          .untilDone hG (nextRule_adds levels opening) ())

theorem endOfText_adds : Preserves (Adds 1) endOfText := by
  have hG := adds_tracked 1
  exact .bind hG (atEnd_preserves hG) fun _ ↦
    .ite (.bind hG (error_preserves hG _) fun _ ↦ .bind hG bumpRest_adds fun _ ↦
      addTrivia_preserves hG) (addTrivia_preserves hG)

theorem root_adds (levels : Nat) : Preserves (Adds (3 * levels + 6)) (root levels) := by
  have hG := adds_tracked (3 * levels + 5)
  have hend : Preserves (Adds (3 * levels + 5)) endOfText :=
    endOfText_adds.mono (Nat.le_add_left _ _)
  exact node_adds (by decide) (.bind hG (currentIs_preserves hG .keywordGrammar) fun _ ↦
    .ite (.bind hG (grammar_adds levels) fun _ ↦ hend)
      (.bind hG (error_preserves hG _) fun _ ↦ hend))

end Parse

/-- A tree has three layers for each level that reading might take, and six more. -/
theorem parse_layered {source : String} {execFuel : Option Nat} {levels : Nat} {parsed : Parsed}
    (hparse : parse source ⟨execFuel, some levels⟩ = .ok parsed) :
    Layered (3 * levels + 6) parsed.root := by
  obtain ⟨s, hrun, ⟨_, _, hbuilt⟩, _⟩ := parse_run hparse
  obtain ⟨added, hadded, hwithin⟩ :=
    ((Parse.root_adds levels).holds hrun (by rintro _ ⟨⟩)).added
  rw [hbuilt] at hadded
  apply hwithin
  rw [← show [parsed.root] = added from hadded]
  exact List.mem_singleton_self _

/-- Expressions nest no deeper in a tree than the levels of reading and the repetition marks in a
row allow, and so do the rule bodies that the tree stands for. -/
theorem nesting_bounded_by_levels {source : String} {execFuel : Option Nat} {levels : Nat}
    {parsed : Parsed} (hparse : parse source ⟨execFuel, some levels⟩ = .ok parsed) :
    parsed.root.nesting < (3 * levels + 7) * (Token.mostMarks (Token.lex source.toList) + 1) ∧
      (Analysis.ofRoot parsed.root).grammar.tallest ≤
        (3 * levels + 7) * (Token.mostMarks (Token.lex source.toList) + 1) := by
  have hnesting : parsed.root.nesting <
      (3 * levels + 7) * (Token.mostMarks (Token.lex source.toList) + 1) := by
    rw [← parse_tokens hparse]
    exact (parse_layered hparse).nesting_lt
  exact ⟨hnesting, (Analysis.tallest_le _).trans hnesting⟩

theorem nesting_bounded_by_levels_marked : ∃ parsed,
    parse "grammar g rule r (.*+ / 'a')? end end" ⟨some 200, some 2⟩ = .ok parsed ∧
      parsed.root.nesting = 6 ∧
      parsed.root.nesting < (3 * 2 + 7) *
        (Token.mostMarks (Token.lex "grammar g rule r (.*+ / 'a')? end end".toList) + 1) ∧
      (Analysis.ofRoot parsed.root).grammar.tallest ≤ (3 * 2 + 7) *
        (Token.mostMarks (Token.lex "grammar g rule r (.*+ / 'a')? end end".toList) + 1) := by
  have hnesting : (parse "grammar g rule r (.*+ / 'a')? end end" ⟨some 200, some 2⟩).toOption.map
      (·.root.nesting) = some 6 := by decide +kernel
  cases hparse : parse "grammar g rule r (.*+ / 'a')? end end" ⟨some 200, some 2⟩ with
  | error fault =>
    rw [hparse] at hnesting
    cases hnesting
  | ok parsed =>
    rw [hparse] at hnesting
    exact ⟨parsed, rfl, Option.some.inj hnesting, nesting_bounded_by_levels hparse⟩

end PegKit.Cst
