import PegKit.Proofs.Cst.Progress

/-!
# Reading always ends

Every production that repeats itself consumes a token first, and between two tokens consumed only a
few looks are taken. So reading ends with a tree on every text, unless a limit that was set is
spent; the faults that stand for a loop, for consuming what is not there and for a production begun
at the wrong token never arise.
-/

namespace PegKit.Cst

namespace Parse

variable {may : Fault → Prop} {floor looks n : Nat} {tokens : List Token}

/-! ## Expressions -/

/-- A token that is no error is there. -/
theorem exists_of_first_ne (h : first tokens ≠ .error) : ∃ token rest, tokens = token :: rest := by
  cases tokens with
  | nil => exact absurd rfl h
  | cons token rest => exact ⟨token, rest, rfl⟩

theorem ne_error_of_contains {set : KindSet} (hset : set.contains .error = false)
    (h : set.contains (first tokens) = true) : first tokens ≠ .error := by
  intro hnone
  rw [hnone, hset] at h
  cases h

theorem single_lasts (kind : Kind) {token : Token} {rest : List Token} :
    Lasts may (Ready may floor looks (token :: rest)) (single kind) (single kind)
      fun _ ↦ Room may floor 0 rest :=
  node_lasts ready_housed room_housed kind bump_lasts

theorem string_lasts {token : Token} {rest : List Token} (hkind : token.kind ≠ .error) :
    Lasts may (Room may floor 3 (token :: rest)) string string
      fun _ ↦ Fewer may floor 2 (rest.length + 1) := by
  apply node_lasts room_housed fewer_housed
  apply (current_lasts (by decide)).bind
  intro quote
  apply Lasts.assume
  rintro rfl
  apply Lasts.bind bump_lasts
  intro _
  apply (eat_lasts (by decide) .stringValue (by decide)).bind
  intro _
  apply Lasts.fewer
  intro tokens hlt
  exact (eat_lasts (by decide) _ hkind).bind fun _ ↦ .pure fun hs ↦
    hs.mono (Nat.le_refl _) hlt

theorem nextQuantifier_lasts (start : Nat) (u : Unit) :
    Lasts may (Room may start 9 tokens) (nextQuantifier start u) (nextQuantifier start u)
      (Continues (Fewer may start 10 (tokens.length + 1)) (Fewer may start 9 tokens.length)) := by
  apply (currentIsIn_lasts (by decide) .quantifiers).bind
  intro found
  apply Lasts.assume
  rintro rfl
  apply Lasts.ite
  · intro _
    exact .pure fun hs ↦ hs.room.fewer (Nat.le_refl _) (Nat.lt_succ_self _)
  · intro hfound
    rw [Bool.not_eq_true, Bool.not_eq_false'] at hfound
    obtain ⟨token, rest, rfl⟩ := exists_of_first_ne (ne_error_of_contains rfl hfound)
    apply Lasts.bind bump_lasts
    intro _
    exact (wrapFrom_lasts room_housed start .quantifierNode).bind fun _ ↦
      .pure fun hs ↦ hs.fewer (Nat.zero_le _) (Nat.lt_succ_self _)

/-- Reads an expression of at most `n` significant tokens, and consumes one of them at least or
spends a limit. -/
def Readable (may : Fault → Prop) (n : Nat) (item : Parse Unit) (item' : Lasting Unit) : Prop :=
  ∀ {floor looks : Nat} {tokens : List Token}, tokens ≠ [] → tokens.length ≤ n →
    Lasts may (Room may floor looks tokens) item item'
      fun _ ↦ Advanced may floor 0 looks tokens.length

/-- Where a limit is spent a sequence ends. -/
theorem nextItem_over (item : Parse Unit) (item' : Lasting Unit) (count : Nat) :
    Lasts may (fun s ↦ s.exhausted.isSome = true ∧ Room may floor 6 tokens s) (nextItem item count)
      (nextItem item' count)
      fun result s ↦ result = none ∧ Fewer may floor 6 (tokens.length + 1) s := by
  apply Lasts.bind atEnd_over
  intro ended
  apply Lasts.assume
  rintro rfl
  exact .pure fun hs ↦ ⟨rfl, hs.room.fewer (Nat.le_refl _) (Nat.lt_succ_self _)⟩

/-- The end of a group. -/
theorem groupEnd_lasts (opening : Text.Span) (bound : Nat) :
    Lasts may (Fewer may floor 8 bound) (do
      if !(← eat .parenClose) then
        errorUnclosed .unclosedGroup "group starts here" opening) (do
      if !(← eat .parenClose) then
        errorUnclosed .unclosedGroup "group starts here" opening)
      fun _ ↦ Fewer may floor 9 bound := by
  apply Lasts.fewer
  intro tokens hfewer
  apply (eat_lasts (by decide) .parenClose (by decide)).bind
  intro eaten
  apply Lasts.ite
  · intro _
    apply Lasts.fewer
    intro left hleft
    exact (errorUnclosed_lasts _ _ _).imp id fun hs ↦
      hs.room.fewer (Nat.le_refl _) (hleft.trans_le hfewer)
  · intro _
    exact .pure fun hs ↦ hs.mono (Nat.le_refl _) hfewer

section Items

variable {item : Parse Unit} {item' : Lasting Unit} (hitem : Readable may n item item')

include hitem

theorem nextItem_lasts (hlt : tokens.length < n + 1) (count : Nat) :
    Lasts may (Room may floor 4 tokens) (nextItem item count) (nextItem item' count)
      (Continues (Fewer may floor 6 (tokens.length + 1)) fun s ↦ tokens ≠ [] ∧
        Advanced may floor 4 6 tokens.length s) := by
  apply Lasts.bind atEnd_lasts
  intro ended
  apply Lasts.assume
  intro hmore
  apply Lasts.ite
  · intro _
    exact .pure fun hs ↦ hs.room.fewer (by decide) (Nat.lt_succ_self _)
  intro hgoing
  have hne : tokens ≠ [] := hmore (Bool.not_eq_true _ ▸ hgoing)
  apply ((currentIsIn_lasts (by decide) .sequenceEnd).weaken Ready.room).bind
  intro stops
  apply Lasts.assume
  intro _
  apply Lasts.ite
  · intro _
    exact .pure fun hs ↦ hs.room.fewer (by decide) (Nat.lt_succ_self _)
  intro _
  apply ((currentIsIn_lasts (by decide) .expressionFirst).weaken Ready.room).bind
  intro begins
  apply Lasts.assume
  intro _
  apply Lasts.ite
  · intro _
    apply ((hitem hne (Nat.le_of_lt_succ hlt)).weaken Ready.room).bind
    exact fun _ ↦ .pure fun hs ↦ ⟨hne, hs.imp (fun hs ↦ hs.mono (by decide) (Nat.le_refl _)) id⟩
  · intro _
    obtain ⟨token, rest, rfl⟩ := List.exists_cons_of_ne_nil hne
    exact ((errorAndBump_lasts _ _).weaken Ready.room).bind fun _ ↦ .pure fun hs ↦
      ⟨hne, .inl (hs.fewer (by decide) (Nat.lt_succ_self _))⟩

theorem sequence_lasts {bound : Nat} (hbound : bound ≤ n + 1) :
    Lasts may (Fewer may floor 4 bound) (sequence item) (sequence item')
      fun _ ↦ Fewer may floor 6 bound := by
  apply (mark_lasts fewer_housed).bind
  intro start
  apply Lasts.assume
  intro hle
  apply (loop_lasts_over (by decide)
    (fun count _ hlt ↦ nextItem_lasts hitem (hlt.trans_le hbound) count)
    (fun count _ ↦ nextItem_over item item' count) 0).bind
  intro count
  apply Lasts.ite
  · intro _
    exact (wrapFrom_lasts fewer_housed start _).imp id fun hs ↦ fewer_housed.lower hs hle
  · intro _
    exact .pure fun hs ↦ fewer_housed.lower hs hle

theorem nextAlternative_lasts (hlt : tokens.length < n + 1) (u : Unit) :
    Lasts may (Room may floor 7 tokens) (nextAlternative item u) (nextAlternative item' u)
      (Continues (Fewer may floor 8 (tokens.length + 1)) (Fewer may floor 7 tokens.length)) := by
  apply (currentIs_lasts (by decide) .slash).bind
  intro slashed
  apply Lasts.assume
  rintro rfl
  apply Lasts.ite
  · intro _
    exact .pure fun hs ↦ hs.room.fewer (Nat.le_refl _) (Nat.lt_succ_self _)
  intro hslashed
  have hkind : first tokens = .slash := by simpa using hslashed
  obtain ⟨token, rest, rfl⟩ := exists_of_first_ne (by rw [hkind]; decide)
  apply Lasts.bind bump_lasts
  intro _
  apply (currentIsIn_lasts (by decide) .expressionFirst).bind
  intro begins
  apply Lasts.assume
  intro _
  apply Lasts.ite
  · intro _
    exact ((sequence_lasts hitem hlt.le).weaken fun hs ↦
      hs.room.fewer (by decide) (Nat.lt_succ_self _)).bind fun _ ↦ .pure fun hs ↦
        hs.mono (by decide) (Nat.le_refl _)
  · intro _
    exact ((reportHere_lasts _).weaken Ready.room).bind fun _ ↦ .pure fun hs ↦
      hs.room.fewer (by decide) (Nat.lt_succ_self _)

theorem choice_lasts {bound : Nat} (hbound : bound ≤ n + 1) :
    Lasts may (Fewer may floor 4 bound) (choice item) (choice item')
      fun _ ↦ Fewer may floor 8 bound := by
  apply (mark_lasts fewer_housed).bind
  intro start
  apply Lasts.assume
  intro hle
  apply (sequence_lasts hitem hbound).bind
  intro _
  apply Lasts.fewer
  intro tokens hlt
  apply (currentIs_lasts (by decide) .slash).bind
  intro slashed
  apply Lasts.assume
  intro _
  apply Lasts.ite
  · intro _
    apply ((loop_lasts (fun u _ hmore ↦
      nextAlternative_lasts hitem (hmore.trans_le hbound) u) ()).weaken fun hs ↦
        hs.room.fewer (Nat.le_refl _) hlt).bind
    intro _
    exact (wrapFrom_lasts fewer_housed start _).imp id fun hs ↦ fewer_housed.lower hs hle
  · intro _
    exact .pure fun hs ↦ fewer_housed.lower (hs.room.fewer (by decide) hlt) hle

theorem group_lasts {token : Token} {rest : List Token} (hkind : token.kind = .parenOpen)
    (hlt : rest.length < n + 1) :
    Lasts may (Room may floor 3 (token :: rest)) (group item) (group item')
      fun _ ↦ Fewer may floor 9 (rest.length + 1) := by
  apply (expect_lasts (by decide) (show first (token :: rest) = .parenOpen from hkind)).bind
  intro _
  apply node_lasts ready_housed fewer_housed
  apply (Lasts.weaken currentSpan_lasts Ready.room).bind
  intro opening
  apply Lasts.bind bump_lasts
  intro _
  apply (currentIs_lasts (by decide) .parenClose).bind
  intro closed
  apply Lasts.assume
  rintro rfl
  apply Lasts.ite
  · intro hclosed
    have hclose : first rest = .parenClose := by simpa using hclosed
    obtain ⟨next, others, rfl⟩ := exists_of_first_ne (by rw [hclose]; decide)
    exact ((reportHere_lasts _).weaken Ready.room).bind fun _ ↦ .imp bump_lasts id fun hs ↦
      hs.fewer (Nat.zero_le _) (Nat.lt_succ_of_lt (Nat.lt_succ_self _))
  intro _
  apply ((currentIsIn_lasts (by decide) .expressionFirst).weaken Ready.room).bind
  intro begins
  apply Lasts.assume
  intro _
  apply Lasts.ite
  · intro _
    exact ((choice_lasts hitem hlt).weaken fun hs ↦
      hs.room.fewer (by decide) (Nat.lt_succ_self _)).bind fun _ ↦ groupEnd_lasts opening _
  · intro _
    exact (groupEnd_lasts opening _).weaken fun hs ↦ hs.room.fewer (by decide) (Nat.lt_succ_self _)

theorem primary_lasts {token : Token} {rest : List Token} (hlt : rest.length < n + 1) :
    Lasts may (Room may floor 2 (token :: rest)) (primary item) (primary item')
      fun _ ↦ Fewer may floor 9 (rest.length + 1) := by
  have hroom {s : State} (hs : Room may floor 0 rest s) : Fewer may floor 9 (rest.length + 1) s :=
    hs.fewer (Nat.zero_le _) (Nat.lt_succ_self _)
  have hstring (hkind : token.kind ≠ .error) : Lasts may (Ready may floor 3 (token :: rest)) string
      string fun _ ↦ Fewer may floor 9 (rest.length + 1) :=
    (string_lasts hkind).imp Ready.room fun hs ↦ hs.mono (by decide) (Nat.le_refl _)
  apply (current_lasts (by decide)).bind
  intro kind
  apply Lasts.assume
  intro hkind
  have hkind : token.kind = kind := hkind.symm
  split
  · exact (single_lasts _).imp id hroom
  · exact (single_lasts _).imp id hroom
  · exact (single_lasts _).imp id hroom
  · exact hstring (by rw [hkind]; decide)
  · exact hstring (by rw [hkind]; decide)
  · exact (group_lasts hitem hkind hlt).weaken Ready.room
  · exact (errorAndBump_lasts _ _).imp Ready.room hroom

theorem repeated_lasts {token : Token} {rest : List Token} (hlt : rest.length < n + 1) :
    Lasts may (Room may floor 2 (token :: rest)) (repeated item) (repeated item')
      fun _ ↦ Fewer may floor 10 (rest.length + 1) := by
  apply (mark_lasts room_housed).bind
  intro start
  apply Lasts.assume
  intro hle
  apply (primary_lasts hitem hlt).bind
  intro _
  exact (loop_lasts (fun u _ _ ↦ nextQuantifier_lasts start u) ()).imp id fun hs ↦
    fewer_housed.lower hs hle

theorem operand_lasts {bound : Nat} (hbound : bound ≤ n + 1) (what : String) :
    Lasts may (Fewer may floor 0 bound) (operand item what) (operand item' what)
      fun _ ↦ Fewer may floor 1 bound := by
  apply Lasts.fewer
  intro tokens hlt
  apply (currentIsIn_lasts (by decide) .expressionFirst).bind
  intro begins
  apply Lasts.assume
  rintro rfl
  apply Lasts.ite
  · intro hbegins
    obtain ⟨token, rest, rfl⟩ := exists_of_first_ne (ne_error_of_contains rfl hbegins)
    exact (hitem (List.cons_ne_nil token rest) (Nat.le_of_lt_succ (hlt.trans_le hbound))).imp
      Ready.room fun hs ↦ hs.fewer (Nat.zero_le _) (Nat.le_refl _) hlt
  · intro _
    exact (reportHere_lasts _).imp Ready.room fun hs ↦ hs.room.fewer (Nat.le_refl _) hlt

theorem guarded_lasts {token : Token} {rest : List Token} (hlt : rest.length < n + 1) :
    Lasts may (Room may floor 1 (token :: rest)) (guarded item) (guarded item')
      fun _ ↦ Fewer may floor 1 (rest.length + 1) := by
  apply (nextIs_lasts (by decide) .block).bind
  intro found
  apply Lasts.assume
  intro hnext
  apply Lasts.ite
  · intro hfound
    obtain ⟨_, next, others, htokens⟩ := hnext hfound
    obtain ⟨rfl, rfl⟩ := List.cons.inj htokens
    exact node_lasts ready_housed fewer_housed _ (.bind bump_lasts fun _ ↦
      (bump_lasts_front (List.cons_ne_nil _ _)).imp id fun hs ↦
        hs.mono (by decide) (Nat.le_refl _))
  · intro _
    refine node_lasts ready_housed fewer_housed _ (.bind bump_lasts fun _ ↦ ?_)
    exact (operand_lasts hitem hlt _).weaken fun hs ↦
      hs.fewer (Nat.le_refl _) (Nat.lt_succ_self _)

theorem labelled_lasts {token : Token} {rest : List Token} (hlt : rest.length < n + 1) :
    Lasts may (Room may floor 1 (token :: rest)) (labelled item) (labelled item')
      fun _ ↦ Fewer may floor 10 (rest.length + 1) := by
  apply (nextIs_lasts (by decide) .colon).bind
  intro found
  apply Lasts.assume
  intro hnext
  apply Lasts.ite
  · intro hfound
    obtain ⟨_, next, others, htokens⟩ := hnext hfound
    obtain ⟨rfl, rfl⟩ := List.cons.inj htokens
    refine node_lasts ready_housed fewer_housed _ (.bind bump_lasts fun _ ↦
      (bump_lasts_front (List.cons_ne_nil _ _)).bind fun _ ↦ ?_)
    exact (operand_lasts hitem hlt _).imp id fun hs ↦ hs.mono (by decide) (Nat.le_refl _)
  · intro _
    exact (repeated_lasts hitem hlt).weaken Ready.room

theorem prefixedBody_lasts {token : Token} {rest : List Token} (hlt : rest.length < n + 1) :
    Lasts may (Room may floor 0 (token :: rest)) (prefixedBody item) (prefixedBody item')
      fun _ ↦ Fewer may floor 10 (rest.length + 1) := by
  apply (current_lasts (by decide)).bind
  intro kind
  apply Lasts.assume
  intro _
  have hguarded : Lasts may (Ready may floor 1 (token :: rest)) (guarded item) (guarded item')
      fun _ ↦ Fewer may floor 10 (rest.length + 1) :=
    (guarded_lasts hitem hlt).imp Ready.room fun hs ↦ hs.mono (by decide) (Nat.le_refl _)
  split
  · exact hguarded
  · exact hguarded
  · exact (labelled_lasts hitem hlt).weaken Ready.room
  · exact (repeated_lasts hitem hlt).weaken fun hs ↦ hs.room.mono (by decide)

end Items

/-- A level for each token is enough. -/
theorem prefixed_lasts {levels : Nat} (h : n ≤ levels ∨ may .recursionLimitExceeded) :
    Readable may n (prefixed levels) (prefixed levels) := by
  induction levels generalizing n with
  | zero =>
    intro floor looks tokens hne hle
    have hmay : may .recursionLimitExceeded := h.resolve_left fun h ↦
      hne (List.length_eq_zero_iff.mp (Nat.le_zero.mp (hle.trans h)))
    exact giveUp_lasts hmay
  | succ levels ih =>
    intro floor looks tokens hne hle
    obtain ⟨token, rest, rfl⟩ := List.exists_cons_of_ne_nil hne
    have hinner : Readable may rest.length (prefixed levels) (prefixed levels) :=
      ih (h.imp_left fun h ↦ Nat.le_of_succ_le_succ (hle.trans h))
    apply Lasts.bind restoreLookaheads_lasts
    intro _
    apply (prefixedBody_lasts hinner (Nat.lt_succ_self _)).bind
    intro _
    apply Lasts.fewer
    intro tokens hlt
    exact .imp restoreLookaheads_lasts id fun hs ↦ .inl (hs.fewer (Nat.le_refl _) hlt)

/-! ## Rules and grammars -/

theorem endRule_lasts (opening : Text.Span) (u : Unit) :
    Lasts may (Room may floor 8 tokens) (endRule opening u) (endRule opening u)
      (Continues (Fewer may floor 11 (tokens.length + 1)) fun s ↦ tokens ≠ [] ∧
        Advanced may floor 8 11 tokens.length s) := by
  apply Lasts.bind atEnd_lasts
  intro ended
  apply Lasts.assume
  intro hmore
  apply Lasts.ite
  · intro _
    exact ((errorUnclosed_lasts _ _ _).weaken Ready.room).bind fun _ ↦ .pure fun hs ↦
      hs.room.fewer (by decide) (Nat.lt_succ_self _)
  intro hgoing
  have hne : tokens ≠ [] := hmore (Bool.not_eq_true _ ▸ hgoing)
  apply ((current_lasts (by decide)).weaken Ready.room).bind
  intro kind
  apply Lasts.assume
  intro hkind
  split
  · obtain ⟨token, rest, rfl⟩ := List.exists_cons_of_ne_nil hne
    exact .bind bump_lasts fun _ ↦ .pure fun hs ↦
      hs.fewer (Nat.zero_le _) (Nat.lt_succ_of_lt (Nat.lt_succ_self _))
  · exact ((errorUnclosed_lasts _ _ _).weaken Ready.room).bind fun _ ↦ .pure fun hs ↦
      hs.room.fewer (by decide) (Nat.lt_succ_self _)
  · next hend hrule =>
    have hgoes : KindSet.ruleRecovery.contains (first tokens) = false := by
      rw [← hkind]
      unfold KindSet.contains KindSet.ruleRecovery
      simpa using ⟨hrule, hend⟩
    exact ((errorAndRecover_lasts (by decide) _ _ hne hgoes).weaken Ready.room).bind fun _ ↦
      .pure fun hs ↦ ⟨hne, hs.imp (fun hs ↦ hs.mono (by decide) (Nat.le_refl _)) id⟩

/-- Where a limit is spent a rule ends. -/
theorem endRule_over (opening : Text.Span) (u : Unit) :
    Lasts may (fun s ↦ s.exhausted.isSome = true ∧ Room may floor 11 tokens s) (endRule opening u)
      (endRule opening u)
      fun result s ↦ result = none ∧ Fewer may floor 11 (tokens.length + 1) s := by
  apply Lasts.bind atEnd_over
  intro ended
  apply Lasts.assume
  rintro rfl
  exact ((errorUnclosed_lasts _ _ _).weaken Ready.room).bind fun _ ↦ .pure fun hs ↦
    ⟨rfl, hs.room.fewer (Nat.le_refl _) (Nat.lt_succ_self _)⟩

theorem ruleBody_lasts {levels : Nat} (h : n ≤ levels ∨ may .recursionLimitExceeded)
    (opening : Text.Span) : Lasts may (Fewer may floor 1 (n + 1)) (ruleBody levels opening)
      (ruleBody levels opening) fun _ ↦ Fewer may floor 11 (n + 1) := by
  have hend : Lasts may (Fewer may floor 8 (n + 1)) (untilDone (endRule opening) ())
      (untilDone (endRule opening) ()) fun _ ↦ Fewer may floor 11 (n + 1) :=
    loop_lasts_over (by decide) (fun u _ _ ↦ endRule_lasts opening u)
      (fun u _ ↦ endRule_over opening u) ()
  apply Lasts.fewer
  intro tokens hlt
  apply (eat_lasts (by decide) .keywordDo (by decide)).bind
  intro _
  apply Lasts.fewer
  intro left hleft
  have hleft := hleft.trans_le hlt
  apply (currentIsIn_lasts (by decide) .expressionFirst).bind
  intro begins
  apply Lasts.assume
  intro _
  apply Lasts.ite
  · intro _
    exact ((choice_lasts (prefixed_lasts h) (Nat.le_refl _)).weaken fun hs ↦
      hs.room.fewer (by decide) hleft).bind fun _ ↦ hend
  · intro _
    exact ((reportHere_lasts _).weaken Ready.room).bind fun _ ↦
      hend.weaken fun hs ↦ hs.room.fewer (by decide) hleft

theorem rule_lasts {levels : Nat} (h : n ≤ levels ∨ may .recursionLimitExceeded) {token : Token}
    {rest : List Token} (hkind : token.kind = .keywordRule) (hlt : rest.length < n + 1) :
    Lasts may (Room may floor 12 (token :: rest)) (rule levels) (rule levels)
      fun _ ↦ Fewer may floor 11 (rest.length + 1) := by
  have hbody := h.imp_left (Nat.le_of_lt_succ hlt).trans
  apply (expect_lasts (by decide) (show first (token :: rest) = .keywordRule from hkind)).bind
  intro _
  apply node_lasts ready_housed fewer_housed
  apply (Lasts.weaken currentSpan_lasts Ready.room).bind
  intro opening
  apply Lasts.bind bump_lasts
  intro _
  apply (eat_lasts (by decide) .identifier (by decide)).bind
  intro named
  apply Lasts.ite
  · intro _
    refine Lasts.bind (Lasts.fewer fun hleft ↦ ?_) fun _ ↦ ruleBody_lasts hbody opening
    exact (reportHere_lasts _).imp id fun hs ↦ hs.room.fewer (Nat.le_refl _) hleft
  · intro _
    exact ruleBody_lasts hbody opening

theorem nextSegment_lasts (u : Unit) : Lasts may (Room may floor 1 tokens) (nextSegment u)
    (nextSegment u) (Continues (Fewer may floor 2 (tokens.length + 1))
      (Fewer may floor 1 tokens.length)) := by
  apply (currentIs_lasts (by decide) .doubleColon).bind
  intro colons
  apply Lasts.assume
  rintro rfl
  apply Lasts.ite
  · intro _
    exact .pure fun hs ↦ hs.room.fewer (Nat.le_refl _) (Nat.lt_succ_self _)
  intro hcolons
  have hkind : first tokens = .doubleColon := by simpa using hcolons
  obtain ⟨token, rest, rfl⟩ := exists_of_first_ne (by rw [hkind]; decide)
  apply Lasts.bind bump_lasts
  intro _
  apply (eat_lasts (by decide) .identifier (by decide)).bind
  intro named
  apply Lasts.ite
  · intro _
    exact .pure id
  · intro _
    refine Lasts.bind (Lasts.fewer fun hleft ↦ ?_) fun _ ↦ .pure id
    exact (reportHere_lasts _).imp id fun hs ↦
      hs.room.fewer (by decide) (Nat.lt_succ_of_lt hleft)

theorem grammarName_lasts : Lasts may (Room may floor 0 tokens) grammarName grammarName
    fun _ ↦ Fewer may floor 2 (tokens.length + 1) := by
  apply (currentIs_lasts (by decide) .identifier).bind
  intro named
  apply Lasts.assume
  rintro rfl
  apply Lasts.ite
  · intro hnamed
    have hkind : first tokens = .identifier := by simpa using hnamed
    obtain ⟨token, rest, rfl⟩ := exists_of_first_ne (by rw [hkind]; decide)
    apply node_lasts ready_housed fewer_housed
    apply Lasts.bind bump_lasts
    intro _
    exact (loop_lasts (fun u _ _ ↦ nextSegment_lasts u) ()).weaken fun hs ↦
      hs.fewer (by decide) (Nat.lt_succ_of_lt (Nat.lt_succ_self _))
  · intro _
    exact (reportHere_lasts _).imp Ready.room fun hs ↦
      hs.room.fewer (by decide) (Nat.lt_succ_self _)

theorem nextRule_lasts {levels : Nat} (h : n ≤ levels ∨ may .recursionLimitExceeded)
    (opening : Text.Span) (u : Unit) (hlt : tokens.length < n + 1) :
    Lasts may (Room may floor 11 tokens) (nextRule levels opening u) (nextRule levels opening u)
      (Continues (Fewer may floor 12 (tokens.length + 1)) (Fewer may floor 11 tokens.length)) := by
  apply Lasts.bind atEnd_lasts
  intro ended
  apply Lasts.assume
  intro hmore
  apply Lasts.ite
  · intro _
    exact ((errorUnclosed_lasts _ _ _).weaken Ready.room).bind fun _ ↦ .pure fun hs ↦
      hs.room.fewer (by decide) (Nat.lt_succ_self _)
  intro hgoing
  obtain ⟨token, rest, rfl⟩ := List.exists_cons_of_ne_nil (hmore (Bool.not_eq_true _ ▸ hgoing))
  apply ((current_lasts (by decide)).weaken Ready.room).bind
  intro kind
  apply Lasts.assume
  intro hkind
  have hkind : token.kind = kind := hkind.symm
  split
  · exact ((rule_lasts h hkind (Nat.lt_of_succ_lt hlt)).weaken Ready.room).bind fun _ ↦ .pure id
  · exact .bind bump_lasts fun _ ↦ .pure fun hs ↦
      hs.fewer (Nat.zero_le _) (Nat.lt_succ_of_lt (Nat.lt_succ_self _))
  · exact ((errorAndBump_lasts _ _).weaken Ready.room).bind fun _ ↦ .pure fun hs ↦
      hs.fewer (Nat.zero_le _) (Nat.lt_succ_self _)

theorem grammar_lasts {levels : Nat} (h : tokens.length ≤ levels ∨ may .recursionLimitExceeded)
    (hkind : first tokens = .keywordGrammar) : Lasts may (Room may floor 1 tokens) (grammar levels)
      (grammar levels) fun _ ↦ Fewer may floor 12 tokens.length := by
  obtain ⟨token, rest, rfl⟩ := exists_of_first_ne (by rw [hkind]; decide)
  have hbody := h.imp_left (Nat.le_of_succ_le : rest.length + 1 ≤ levels → _)
  apply (expect_lasts (by decide) hkind).bind
  intro _
  apply node_lasts ready_housed fewer_housed
  apply (Lasts.weaken currentSpan_lasts Ready.room).bind
  intro opening
  apply Lasts.bind bump_lasts
  intro _
  apply Lasts.bind grammarName_lasts
  intro _
  apply Lasts.fewer
  intro tokens hlt
  apply (eat_lasts (by decide) .keywordDo (by decide)).bind
  intro _
  exact (loop_lasts (fun u _ hlt ↦ nextRule_lasts hbody opening u hlt) ()).weaken fun hs ↦
    hs.mono (by decide) hlt

/-- Everything was read, unless a limit was spent before. -/
def Exhaustive (s : State) : Prop :=
  s.remaining = [] ∨ s.exhausted.isSome = true

theorem exhaustive_of_over {s : State} (h : true = (s.remaining.isEmpty || s.exhausted.isSome)) :
    Exhaustive s := by
  rw [eq_comm, Bool.or_eq_true, List.isEmpty_iff] at h
  exact h

theorem atEnd_exhaustive : Lasts may (Room may floor looks tokens) atEnd atEnd
    fun b s ↦ (b = true → Exhaustive s) ∧ Ready may floor looks tokens s :=
  .bind passTrivia_lasts fun _ ↦ .imp isOver_lasts id fun ⟨hended, hs⟩ ↦
    ⟨fun hb ↦ exhaustive_of_over (hb.symm.trans hended), hs⟩

theorem addTrivia_exhaustive : Lasts may Exhaustive addTrivia addTrivia
    fun _ s ↦ Exhaustive s ∧ s.pending = [] :=
  .modify (fun _ ↦ rfl) fun hs ↦ ⟨hs, rfl⟩

theorem node_exhaustive (kind : Kind) {body : Parse Unit} {body' : Lasting Unit}
    (h : Lasts may (Room may 0 looks tokens) body body' fun _ ↦ Exhaustive) :
    Lasts may (Room may floor looks tokens) (node kind body) (node kind body')
      fun _ ↦ Exhaustive := by
  apply (addTrivia_lasts room_housed).bind
  intro _
  apply Lasts.get_bind
  intro outer
  apply Lasts.weaken _ And.right
  exact (open_lasts room_housed).bind fun _ ↦ h.bind fun _ ↦ close_lasts outer.built kind id

/-- Everything left is consumed, trivia too. -/
theorem bumpRest_lasts : Lasts may (Room may floor looks tokens) bumpRest bumpRest
    fun _ ↦ Exhaustive := by
  let before (s : State) : Prop := ∃ tokens, Room may 0 looks tokens s
  have hstep (u : Unit) (bound : Nat) : Lasts may (fun s ↦ s.remaining.length = bound ∧ before s)
      (takeToken u) (takeToken u)
      (Continues Exhaustive fun s ↦ s.remaining.length < bound ∧ before s) := by
    apply Lasts.bind isOver_lasts
    intro ended
    apply Lasts.ite
    · rintro rfl
      exact .pure fun hs ↦ exhaustive_of_over hs.1
    · intro hgoing
      constructor
      rintro s ⟨hended, rfl, tokens, hroom⟩
      cases hremaining : s.remaining with
      | nil => exact absurd (hended.trans (by rw [hremaining]; rfl)) hgoing
      | cons token rest =>
        refine (Lasts.bind bump_takes_front fun _ ↦ .pure fun hs ↦
          ⟨?_, _, hs.1.mono (Nat.zero_le _)⟩).holds ⟨hremaining, hroom⟩
        rw [hs.2]
        exact Nat.lt_succ_self _
  apply node_exhaustive
  exact (untilDone_lasts _ (fun _ ↦ Nat.le_refl _) hstep ()).weaken fun hs ↦ ⟨_, hs⟩

theorem endOfText_lasts : Lasts may (Room may floor 12 tokens) endOfText endOfText
    fun _ s ↦ Exhaustive s ∧ s.pending = [] := by
  apply atEnd_exhaustive.bind
  intro ended
  apply Lasts.ite
  · intro _
    apply ((reportHere_lasts _).weaken fun hs ↦ hs.2.room).bind
    intro _
    exact (Lasts.weaken bumpRest_lasts Ready.room).bind fun _ ↦ addTrivia_exhaustive
  · intro hended
    exact addTrivia_exhaustive.weaken fun hs ↦ hs.1 (by simpa using hended)

/-- A node that is the first thing added is the only one left if nothing is held back. -/
theorem node_alone (kind : Kind) {body : Parse Unit} {body' : Lasting Unit}
    (h : Lasts may (Room may 0 looks tokens) body body' fun _ s ↦ Exhaustive s ∧ s.pending = []) :
    Lasts may (fun s ↦ (s.built = #[] ∧ s.pending = []) ∧ Room may 0 looks tokens s)
      (node kind body) (node kind body')
      fun _ s ↦ Exhaustive s ∧ s.pending = [] ∧ ∃ tree, s.built = #[tree] := by
  have hadd : Lasts may (fun s ↦ (s.built = #[] ∧ s.pending = []) ∧ Room may 0 looks tokens s)
      addTrivia addTrivia fun _ s ↦ s.built = #[] ∧ Room may 0 looks tokens s := by
    refine .modify (fun _ ↦ rfl) ?_
    rintro s ⟨⟨hbuilt, hpending⟩, hs⟩
    exact ⟨by rw [hbuilt, hpending]; rfl, room_housed.moved _ _ (Nat.zero_le _) hs⟩
  apply hadd.bind
  intro _
  apply Lasts.get_bind
  intro outer
  constructor
  rintro s ⟨rfl, hbuilt, hs⟩
  refine ((open_lasts room_housed).bind fun _ ↦ h.bind fun _ ↦ close_lasts s.built kind ?_).holds hs
  exact fun hs ↦ ⟨hs.1, hs.2, _, by rw [hbuilt]; rfl⟩

theorem root_lasts {levels : Nat} (h : tokens.length ≤ levels ∨ may .recursionLimitExceeded) :
    Lasts may (fun s ↦ (s.built = #[] ∧ s.pending = []) ∧ Room may 0 0 tokens s) (root levels)
      (root levels) fun _ s ↦ Exhaustive s ∧ s.pending = [] ∧ ∃ tree, s.built = #[tree] := by
  apply node_alone
  apply (currentIs_lasts (by decide) .keywordGrammar).bind
  intro begins
  apply Lasts.assume
  rintro rfl
  apply Lasts.ite
  · intro hbegins
    have hkind : first tokens = .keywordGrammar := by simpa using hbegins
    apply ((grammar_lasts h hkind).weaken Ready.room).bind
    intro _
    apply Lasts.fewer
    intro left _
    exact endOfText_lasts
  · intro _
    exact ((reportHere_lasts _).weaken Ready.room).bind fun _ ↦
      .weaken endOfText_lasts fun hs ↦ hs.room.mono (by decide)

end Parse

/-! ## Whole texts -/

/-- What may end reading under `limits`. -/
def Limits.Spent (limits : Limits) (fault : Fault) : Prop :=
  limits.execFuel.isSome = true ∧ fault = .execFuelExhausted ∨
    limits.recursionFuel.isSome = true ∧ fault = .recursionLimitExceeded

/-- How reading a text comes out, told by reading that stops at a spent limit. -/
theorem parse_settles (source : String) (limits : Limits) :
    (∃ s tree, (Parse.root (limits.recursionFuel.getD ((Token.lex source.toList).length + 1))).run
        (Parse.start (Token.lex source.toList) source.utf8ByteSize limits.execFuel) = .ok ((), s) ∧
      (s.remaining = [] ∧ s.pending = [] ∧ s.built = #[tree]) ∧
      parse source limits = .ok {
        root := tree
        diagnostics := s.diagnostics
        fuelConsumed := if limits.execFuel.isSome then s.consumed else 0 }) ∨
    ∃ fault, limits.Spent fault ∧
      (Parse.root (limits.recursionFuel.getD ((Token.lex source.toList).length + 1))).run
        (Parse.start (Token.lex source.toList) source.utf8ByteSize limits.execFuel) = .error fault ∧
      parse source limits = .error fault := by
  have hlevels : (Token.significant (Token.lex source.toList)).length ≤
      limits.recursionFuel.getD ((Token.lex source.toList).length + 1) ∨
        limits.Spent .recursionLimitExceeded := by
    cases hlimit : limits.recursionFuel with
    | none => exact .inl (Nat.le_succ_of_le (List.length_filter_le _ _))
    | some limit => exact .inr (.inr ⟨by rw [hlimit]; rfl, rfl⟩)
  have hroom : Parse.Room limits.Spent 0 0 (Token.significant (Token.lex source.toList))
      (Parse.start (Token.lex source.toList) source.utf8ByteSize limits.execFuel) := by
    refine ⟨rfl, Nat.le_refl _, ?_, Nat.le_refl _⟩
    cases hlimit : limits.execFuel with
    | none => exact .inl rfl
    | some limit => exact .inr (.inl ⟨by rw [hlimit]; rfl, rfl⟩)
  obtain ⟨_, s, hrun, ⟨hall, hpending, tree, hbuilt⟩, hcourse⟩ :=
    (Parse.root_lasts hlevels).holds ⟨⟨rfl, rfl⟩, hroom⟩
  have hreading : Lasting.run
      (do
        Parse.root (limits.recursionFuel.getD ((Token.lex source.toList).length + 1))
        Parse.addTrivia)
      (Parse.start (Token.lex source.toList) source.utf8ByteSize limits.execFuel) =
        .ok ((), { s with pending := [], built := #[tree] }) := by
    rw [Lasting.run_bind, hrun]
    change Except.ok ((), { s with
      pending := []
      built := s.built ++ (s.pending.map Cst.leaf).toArray }) = _
    rw [hpending, hbuilt]
    rfl
  -- Either reading met no spent limit, and ends as it does without one, or it stopped at one.
  unfold parse
  simp only [hreading]
  cases hcourse with
  | whole _ hafter hwhole =>
    refine .inl ⟨s, tree, hwhole, ⟨hall.resolve_right ?_, hpending, hbuilt⟩, ?_⟩
    · rw [hafter]
      exact Bool.false_ne_true
    · simp only [hafter]
      rfl
  | @stopped fault _ hafter hstopped hmay =>
    refine .inr ⟨fault, hmay, hstopped, ?_⟩
    simp only [hafter]
    rfl
  | late hbefore => cases hbefore

/-- Reading that stops at no limit gives its one tree. -/
theorem parse_of_run {source : String} {limits : Limits} {s : State}
    (hrun : (Parse.root (limits.recursionFuel.getD ((Token.lex source.toList).length + 1))).run
      (Parse.start (Token.lex source.toList) source.utf8ByteSize limits.execFuel) = .ok ((), s)) :
    ∃ tree, s.built = #[tree] ∧ parse source limits = .ok {
      root := tree
      diagnostics := s.diagnostics
      fuelConsumed := if limits.execFuel.isSome then s.consumed else 0 } := by
  rcases parse_settles source limits with
    ⟨_, tree, hrun', ⟨_, _, hbuilt⟩, hparse⟩ | ⟨_, _, hrun', _⟩
  · rw [hrun] at hrun'
    cases hrun'
    exact ⟨tree, hbuilt, hparse⟩
  · cases hrun.symm.trans hrun'

/-- The state that reading a text ended in. -/
theorem parse_run {source : String} {limits : Limits} {parsed : Parsed}
    (h : parse source limits = .ok parsed) : ∃ s,
      (Parse.root (limits.recursionFuel.getD ((Token.lex source.toList).length + 1))).run
        (Parse.start (Token.lex source.toList) source.utf8ByteSize limits.execFuel) = .ok ((), s) ∧
      (s.remaining = [] ∧ s.pending = [] ∧ s.built = #[parsed.root]) ∧
      parsed.diagnostics = s.diagnostics := by
  rcases parse_settles source limits with ⟨s, tree, hrun, hs, hparse⟩ | ⟨_, _, _, hparse⟩
  · cases h.symm.trans hparse
    exact ⟨s, hrun, hs, rfl⟩
  · cases h.symm.trans hparse

theorem parse_unlimited (source : String) : ∃ parsed, parse source .unlimited = .ok parsed := by
  rcases parse_settles source .unlimited with ⟨_, _, _, _, hparse⟩ | ⟨_, ⟨⟨⟩, _⟩ | ⟨⟨⟩, _⟩, _⟩
  exact ⟨_, hparse⟩

/-- Reading a text always ends with a tree, or because a limit that was set is spent. It never
takes too many looks at one place, consumes a token where none is left, begins a production at a
token that is not its first, wraps from a place that the open node does not have or leaves other
than one tree. -/
theorem parse_ends (source : String) (limits : Limits) :
    (∃ parsed, parse source limits = .ok parsed) ∨
      limits.execFuel.isSome = true ∧ parse source limits = .error .execFuelExhausted ∨
      limits.recursionFuel.isSome = true ∧
        parse source limits = .error .recursionLimitExceeded := by
  rcases parse_settles source limits with
    ⟨_, _, _, _, hparse⟩ | ⟨_, ⟨hlimit, rfl⟩ | ⟨hlimit, rfl⟩, _, hparse⟩
  · exact .inl ⟨_, hparse⟩
  · exact .inr (.inl ⟨hlimit, hparse⟩)
  · exact .inr (.inr ⟨hlimit, hparse⟩)

end PegKit.Cst
