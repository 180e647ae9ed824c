import PegKit.Proofs.Cst.Faultless
import PegKit.Proofs.Cst.Reading

/-!
# Reading what is known to come

Reading in front of known words: each step on tokens does one thing, with no fault and no report.
The words are those of the significant tokens ahead, and trivia parts none that are consumed
together.
-/

namespace PegKit.Cst.Parse

open Token (firstKind word parted)

/-- A part ends as told, or with a fault that may arise. -/
structure Settles {α : Type} (may : Fault → Prop) (before : State → Prop) (m : Parse α)
    (after : α → State → Prop) : Prop where
  holds : ∀ {s}, before s → (∃ a s', m.run s = .ok (a, s') ∧ after a s') ∨
    ∃ fault, m.run s = .error fault ∧ may fault

namespace Settles

variable {α β : Type} {may : Fault → Prop} {before before' : State → Prop}

theorem imp {m : Parse α} {after after' : α → State → Prop} (h : Settles may before m after)
    (hbefore : ∀ {s}, before' s → before s) (hafter : ∀ {a s}, after a s → after' a s) :
    Settles may before' m after' where
  holds hs := (h.holds (hbefore hs)).imp
    (fun ⟨a, s', hrun, hafter'⟩ ↦ ⟨a, s', hrun, hafter hafter'⟩) id

theorem weaken {m : Parse α} {after : α → State → Prop} (h : Settles may before m after)
    (hbefore : ∀ {s}, before' s → before s) : Settles may before' m after :=
  h.imp hbefore id

theorem assume {p : Prop} {m : Parse α} {after : α → State → Prop}
    (h : p → Settles may before m after) : Settles may (fun s ↦ p ∧ before s) m after where
  holds hs := (h hs.1).holds hs.2

theorem pure {a : α} {after : α → State → Prop} (h : ∀ {s}, before s → after a s) :
    Settles may before (pure a) after where
  holds hs := .inl ⟨a, _, rfl, h hs⟩

theorem bind {m : Parse α} {f : α → Parse β} {middle : α → State → Prop}
    {after : β → State → Prop} (h : Settles may before m middle)
    (h' : ∀ a, Settles may (middle a) (f a) after) : Settles may before (m >>= f) after where
  holds {s} hs := by
    rcases h.holds hs with ⟨a, s₁, hrun, hmiddle⟩ | ⟨fault, hrun, hmay⟩
    · have hrest := (h' a).holds hmiddle
      rwa [StateT.run_bind, hrun]
    · refine .inr ⟨fault, ?_, hmay⟩
      rw [StateT.run_bind, hrun]
      rfl

theorem ite {p : Prop} [Decidable p] {m m' : Parse α} {after : α → State → Prop}
    (h : p → Settles may before m after) (h' : ¬p → Settles may before m' after) :
    Settles may before (if p then m else m') after := by
  split
  · exact h ‹p›
  · exact h' ‹¬p›

theorem modify {f : State → State} {after : Unit → State → Prop}
    (h : ∀ {s}, before s → after () (f s)) : Settles may before (modify f) after where
  holds hs := .inl ⟨(), _, rfl, h hs⟩

/-- A part that looks at the state first. -/
theorem get_bind {f : State → Parse α} {after : α → State → Prop}
    (h : ∀ s, Settles may (fun s' ↦ s' = s ∧ before s') (f s) after) :
    Settles may before (get >>= f) after where
  holds {s} hs := (h s).holds ⟨rfl, hs⟩

theorem gets {f : State → α} {after : α → State → Prop}
    (h : ∀ {s}, before s → after (f s) s) :
    Settles may before (get >>= fun s ↦ Pure.pure (f s)) after where
  holds hs := .inl ⟨_, _, rfl, h hs⟩

end Settles

def never : Fault → Prop := fun _ ↦ False

namespace Settles

variable {α β γ : Type} {may : Fault → Prop} {before : State → Prop} {m : Parse α}
  {f : α → Parse β} {after : β → State → Prop}

theorem choose {before : γ → State → Prop} {after : α → State → Prop}
    (h : ∀ c, Settles may (before c) m after) :
    Settles may (fun s ↦ ∃ c, before c s) m after where
  holds hs := (h hs.choose).holds hs.choose_spec

/-- A part with a known result comes first. -/
theorem knowing {a : α} {middle : State → Prop}
    (h : Settles may before m fun found s ↦ found = a ∧ middle s)
    (h' : Settles may middle (f a) after) : Settles may before (m >>= f) after :=
  h.bind fun _ ↦ .assume fun hfound ↦ hfound ▸ h'

/-- A part comes first that adds something of which a property is known. -/
theorem adding {p : γ → Prop} {middle : γ → State → Prop}
    (h : Settles may before m fun _ s ↦ ∃ c, p c ∧ middle c s)
    (h' : ∀ a c, p c → Settles may (middle c) (f a) after) : Settles may before (m >>= f) after :=
  h.bind fun a ↦ .choose fun c ↦ .assume (h' a c)

end Settles

/-- The significant tokens ahead say `words` and may all be consumed, at most `looks` looks were
taken since a token was consumed, and nothing has been reported. -/
structure Standing (looks : Nat) (outer trees : List Cst) (words : List (Kind × String))
    (s : State) : Prop where
  ahead : At outer trees (Token.significant s.remaining) s
  spoken : (Token.significant s.remaining).map word = words
  joined : true ∉ parted s.remaining
  looks : lookaheadBudget ≤ s.lookaheads + looks
  fuel : ∀ fuel ∈ s.fuel, words.length ≤ fuel
  unreported : s.diagnostics = []

/-- Standing with no trivia at the current place. -/
structure Facing (looks : Nat) (outer trees : List Cst) (words : List (Kind × String))
    (s : State) : Prop extends Standing looks outer trees words s where
  passed : Passed s

variable {looks looks' : Nat} {outer trees : List Cst} {words rest : List (Kind × String)}
  {kind : Kind} {text : String} {s : State}

theorem Standing.mono (h : Standing looks outer trees words s) (hle : looks ≤ looks') :
    Standing looks' outer trees words s :=
  { h with looks := h.looks.trans (Nat.add_le_add_left hle _) }

theorem Standing.first (h : Standing looks outer trees words s) :
    first (Token.significant s.remaining) = firstKind words := by
  rw [← h.spoken, firstKind, List.head?_map, Option.map_map]
  rfl

theorem Standing.length_le (h : Standing looks outer trees words s) :
    words.length ≤ s.remaining.length := by
  rw [← h.spoken, List.length_map]
  exact significant_length_le s

/-! ## Looking -/

theorem passTrivia_goes : Settles never (Standing looks outer trees words) passTrivia
    fun _ ↦ Facing looks outer trees words := by
  apply Settles.modify
  intro s hs
  obtain ⟨hat, hpassed⟩ := passTrivia_reads hs.ahead rfl
  obtain ⟨hsignificant, hparted⟩ := Token.dropWhile_trivia s.remaining
  refine ⟨⟨?_, ?_, ?_, hs.looks, hs.fuel, hs.unreported⟩, hpassed⟩
  · rw [hsignificant]
    exact hat
  · rw [hsignificant]
    exact hs.spoken
  · rw [hparted]
    exact hs.joined

theorem countLookahead_goes (hlooks : looks < lookaheadBudget) :
    Settles never (Facing looks outer trees words) countLookahead
      fun _ ↦ Facing (looks + 1) outer trees words := by
  apply Settles.get_bind
  intro s
  apply Settles.ite
  · intro hnone
    constructor
    rintro _ ⟨rfl, hs⟩
    have hleft := hs.looks
    omega
  · intro hsome
    constructor
    rintro _ ⟨rfl, hs⟩
    refine .inl ⟨(), _, rfl, ⟨hs.ahead.looked _, hs.spoken, hs.joined, ?_, hs.fuel, hs.unreported⟩,
      hs.passed⟩
    have hleft := hs.looks
    change lookaheadBudget ≤ _ - 1 + (looks + 1)
    omega

theorem restoreLookaheads_goes : Settles never (Standing looks outer trees words)
    restoreLookaheads fun _ ↦ Standing 0 outer trees words :=
  .modify fun hs ↦ ⟨hs.ahead.looked _, hs.spoken, hs.joined, Nat.le_refl _, hs.fuel, hs.unreported⟩

theorem current_goes (hlooks : looks < lookaheadBudget) :
    Settles never (Standing looks outer trees words) current
      fun kind s ↦ kind = firstKind words ∧ Facing (looks + 1) outer trees words s :=
  passTrivia_goes.bind fun _ ↦ (countLookahead_goes hlooks).bind fun _ ↦ .gets fun hs ↦
    ⟨by rw [← hs.first, hs.ahead.remaining hs.passed]; rfl, hs⟩

theorem currentSpan_goes : Settles never (Standing looks outer trees words) currentSpan
    fun _ ↦ Facing looks outer trees words :=
  passTrivia_goes.bind fun _ ↦ .gets id

theorem currentIs_goes (hlooks : looks < lookaheadBudget) (kind : Kind) :
    Settles never (Standing looks outer trees words) (currentIs kind)
      fun b s ↦ b = (firstKind words == kind) ∧ Facing (looks + 1) outer trees words s :=
  (current_goes hlooks).bind fun _ ↦ .pure fun hs ↦ ⟨by rw [hs.1], hs.2⟩

theorem currentIsIn_goes (hlooks : looks < lookaheadBudget) (set : KindSet) :
    Settles never (Standing looks outer trees words) (currentIsIn set)
      fun b s ↦ b = set.contains (firstKind words) ∧ Facing (looks + 1) outer trees words s :=
  (current_goes hlooks).bind fun _ ↦ .pure fun hs ↦ ⟨by rw [hs.1], hs.2⟩

theorem expect_goes (hlooks : looks < lookaheadBudget) (hkind : firstKind words = kind) :
    Settles never (Standing looks outer trees words) (expect kind)
      fun _ ↦ Facing (looks + 1) outer trees words := by
  apply (current_goes hlooks).bind
  intro found
  apply Settles.assume
  rintro rfl
  exact .ite (fun hother ↦ absurd hkind hother) fun _ ↦ .pure id

/-- With words ahead, the first of them is at the front. -/
theorem Facing.cons (h : Facing looks outer trees ((kind, text) :: words) s) :
    ∃ token others, s.remaining = token :: others ∧ token.isTrivia = false ∧
      token.word = (kind, text) ∧ (Token.significant others).map word = words := by
  have hwords := h.spoken
  cases hremaining : s.remaining with
  | nil =>
    rw [hremaining] at hwords
    cases hwords
  | cons token others =>
    have htoken : token.isTrivia = false := h.passed token (by rw [hremaining]; rfl)
    rw [hremaining, Token.significant_of_not_trivia htoken, List.map_cons] at hwords
    obtain ⟨hword, hothers⟩ := List.cons.inj hwords
    exact ⟨token, others, rfl, htoken, hword, hothers⟩

theorem Facing.nil (h : Facing looks outer trees [] s) : s.remaining = [] := by
  cases hremaining : s.remaining with
  | nil => rfl
  | cons token others =>
    have htoken : token.isTrivia = false := h.passed token (by rw [hremaining]; rfl)
    have hwords := h.spoken
    rw [hremaining, Token.significant_of_not_trivia htoken] at hwords
    cases hwords

theorem atEnd_goes : Settles never (Standing looks outer trees words) atEnd
    fun b s ↦ b = words.isEmpty ∧ Facing looks outer trees words s := by
  apply passTrivia_goes.bind
  intro _
  apply Settles.gets
  intro s hs
  refine ⟨?_, hs⟩
  change s.remaining.isEmpty = _
  cases words with
  | nil =>
    rw [hs.nil]
    rfl
  | cons first rest =>
    obtain ⟨token, others, hremaining, _⟩ := hs.cons
    rw [hremaining]
    rfl

/-- The kind of the word after the first one. -/
theorem nextIs_goes (hlooks : looks < lookaheadBudget) (kind : Kind) :
    Settles never (Standing looks outer trees words) (nextIs kind) fun b s ↦
      b = words.tail.head?.any (·.1 == kind) ∧ Facing (looks + 1) outer trees words s := by
  apply passTrivia_goes.bind
  intro _
  apply (countLookahead_goes hlooks).bind
  intro _
  apply Settles.get_bind
  intro s
  constructor
  rintro _ ⟨rfl, hs⟩
  left
  cases words with
  | nil =>
    rw [hs.nil]
    exact ⟨false, _, rfl, rfl, hs⟩
  | cons first rest =>
    obtain ⟨token, others, hremaining, _, _, hothers⟩ := hs.cons
    rw [hremaining]
    refine ⟨_, _, rfl, ?_, hs⟩
    rw [← List.head?_filter, List.tail_cons, ← hothers, List.head?_map, Option.any_map]
    rfl

/-! ## Building -/

theorem addTrivia_goes : Settles never (Facing looks outer trees words) addTrivia
    fun _ ↦ Facing looks outer trees words := by
  apply Settles.modify
  intro s hs
  obtain ⟨hat, _, _⟩ := addTrivia_reads hs.ahead rfl
  exact ⟨⟨hat, hs.spoken, hs.joined, hs.looks, hs.fuel, hs.unreported⟩, hs.passed⟩

/-- The first token is consumed, and what is consumed together with it stands right after it. -/
theorem bump_goes : Settles never (Facing looks outer trees ((kind, text) :: words)) bump
    fun _ s ↦ ∃ token, token.word = (kind, text) ∧
      Standing 0 outer (trees ++ [Cst.leaf token]) words s ∧
      (kind.joins (firstKind words) = true → Passed s) := by
  constructor
  intro s hs
  obtain ⟨token, others, hremaining, htoken, hword, hothers⟩ := hs.cons
  have hrun : ∃ s', bump.run s = .ok ((), s') := by
    obtain ⟨remaining, pending, built, diagnostics, fuel, consumed, lookaheads, place, length, exhausted⟩ := s
    obtain rfl : remaining = token :: others := hremaining
    match fuel with
    | none => exact ⟨_, rfl⟩
    | some 0 => exact absurd (hs.fuel 0 rfl) (Nat.not_succ_le_zero _)
    | some (fuel + 1) => exact ⟨_, rfl⟩
  obtain ⟨s', hrun⟩ := hrun
  obtain ⟨_, rest, htokens, hat⟩ := bump_reads hs.ahead hs.passed hrun
  rw [hremaining, Token.significant_of_not_trivia htoken] at htokens
  obtain ⟨rfl, rfl⟩ := List.cons.inj htokens
  have hjoined := hs.joined
  rw [hremaining, parted] at hjoined
  have hnext : Token.nextKind others = firstKind words := by
    rw [← hothers, firstKind, List.head?_map, Option.map_map]
    rfl
  have hkind : token.kind = kind := congrArg Prod.fst hword
  rw [hnext, hkind] at hjoined
  obtain ⟨_, _, hfront, hafter⟩ := run_bump hrun
  obtain ⟨rfl, rfl⟩ := List.cons.inj (hremaining.symm.trans hfront)
  subst hafter
  refine .inl ⟨(), _, hrun, token, hword, ⟨hat, hothers, ?_, Nat.le_refl _, ?_, hs.unreported⟩, ?_⟩
  · split at hjoined
    · exact fun hmem ↦ hjoined (List.mem_cons_of_mem _ hmem)
    · exact hjoined
  · intro fuel hfuel
    obtain ⟨before, hbefore, rfl⟩ := Option.map_eq_some_iff.mp hfuel
    exact Nat.le_sub_of_add_le (hs.fuel before hbefore)
  · intro hjoins front hmem
    rw [if_pos hjoins, List.mem_cons, not_or] at hjoined
    rw [Option.mem_def.mp hmem, Option.any_some] at hjoined
    exact Bool.eq_false_iff.mpr fun htrivia ↦ hjoined.1 htrivia.symm

theorem eat_goes (hlooks : looks < lookaheadBudget) :
    Settles never (Standing looks outer trees ((kind, text) :: words)) (eat kind)
      fun b s ↦ b = true ∧ ∃ token, token.word = (kind, text) ∧
        Standing 0 outer (trees ++ [Cst.leaf token]) words s := by
  apply (currentIs_goes hlooks kind).bind
  intro found
  apply Settles.assume
  rintro rfl
  apply Settles.ite
  · intro _
    exact bump_goes.bind fun _ ↦ .pure fun ⟨token, hword, hs, _⟩ ↦ ⟨rfl, token, hword, hs⟩
  · exact fun hother ↦ absurd (beq_self_eq_true kind) hother

theorem eat_passes (hlooks : looks < lookaheadBudget) (hother : firstKind words ≠ kind) :
    Settles never (Standing looks outer trees words) (eat kind)
      fun b s ↦ b = false ∧ Facing (looks + 1) outer trees words s := by
  apply (currentIs_goes hlooks kind).bind
  intro found
  apply Settles.assume
  rintro rfl
  apply Settles.ite
  · exact fun hfound ↦ absurd (beq_iff_eq.mp hfound) hother
  · exact fun _ ↦ .pure fun hs ↦ ⟨rfl, hs⟩

theorem node_run (kind : Kind) {body : Parse Unit} {s₁ : State}
    (h : body.run { s with pending := [], built := #[] } = .ok ((), s₁)) :
    (node kind body).run s = .ok ((),
      { s₁ with
        built := (s.built ++ (s.pending.map Cst.leaf).toArray).push
          (.node kind s₁.built.toList) }) := by
  change (body >>= fun _ ↦ modify _).run { s with pending := [], built := #[] } = _
  rw [StateT.run_bind, h]
  rfl

/-- A node around what its body adds. -/
theorem node_goes {P : Cst → Prop} {body : Parse Unit}
    (h : Settles never (Facing looks [] [] words) body fun _ s ↦
      ∃ inner, (∀ children, significant children = inner → P (.node kind children)) ∧
        Standing looks' [] inner rest s) :
    Settles never (Facing looks outer trees words) (node kind body) fun _ s ↦
      ∃ tree, P tree ∧ Standing looks' outer (trees ++ [tree]) rest s := by
  constructor
  intro s hs
  have hopened : Facing looks [] [] words { s with pending := [], built := #[] } :=
    ⟨⟨hs.ahead.opened, hs.spoken, hs.joined, hs.looks, hs.fuel, hs.unreported⟩, hs.passed⟩
  rcases h.holds hopened with ⟨_, s₁, hrun, inner, hinner, hclosed⟩ | ⟨_, _, ⟨⟩⟩
  have hnode := node_run kind hrun
  obtain ⟨added, hadded, hsignificant⟩ := hs.ahead.built
  obtain ⟨children, hchildren, rfl⟩ := hclosed.ahead.built
  rw [List.nil_append] at hchildren
  refine .inl ⟨(), _, hnode, _, hinner children rfl, ?_⟩
  refine ⟨⟨hclosed.ahead.unreported, hclosed.ahead.pending, rfl,
    added ++ s.pending.map Cst.leaf ++ [Cst.node kind children], ?_, ?_⟩, hclosed.spoken,
    hclosed.joined, hclosed.looks, hclosed.fuel, hclosed.unreported⟩
  · simp [hadded, hchildren]
  · rw [significant_append, significant_append, hsignificant,
      significant_trivia hs.ahead.pending, List.append_nil, significant_node]

theorem Standing.join {added : List Cst} (h : Standing looks (outer ++ added) trees words s) :
    Standing looks outer (significant added ++ trees) words s :=
  { h with ahead := h.ahead.join }

/-- What is read after the mark can be told apart from what was read before. -/
theorem mark_goes : Settles never (Standing looks outer trees words) mark fun start s ↦
    ∃ added, significant added = trees ∧ start = (outer ++ added).length ∧
      Standing looks (outer ++ added) [] words s := by
  constructor
  intro s hs
  obtain ⟨added, hadded, hstart, hat⟩ := mark_reads hs.ahead rfl
  exact .inl ⟨_, _, rfl, added, hadded, hstart, hat, hs.spoken, hs.joined, hs.looks, hs.fuel,
    hs.unreported⟩

/-- After a mark, one tree comes of what is read on an open node with nothing after the mark. -/
theorem marked_goes {P : Cst → Prop} {body : Nat → Parse Unit}
    (h : ∀ outer, Settles never (Standing looks outer [] words) (body outer.length) fun _ s ↦
      ∃ tree, P tree ∧ Standing looks' outer [tree] rest s) :
    Settles never (Standing looks outer trees words) (mark >>= body) fun _ s ↦
      ∃ tree, P tree ∧ Standing looks' outer (trees ++ [tree]) rest s := by
  apply mark_goes.bind
  intro start
  apply Settles.choose
  intro added
  apply Settles.assume
  intro hadded
  apply Settles.assume
  rintro rfl
  apply (h (outer ++ added)).imp id
  rintro _ s ⟨tree, htree, hs⟩
  exact ⟨tree, htree, hadded ▸ hs.join⟩

theorem wrapFrom_goes {P : Cst → Prop}
    (h : ∀ children, significant children = trees → P (.node kind children)) :
    Settles never (Standing looks outer trees words) (wrapFrom outer.length kind)
      fun _ s ↦ ∃ tree, P tree ∧ Standing looks outer [tree] words s := by
  apply Settles.modify
  intro s hs
  obtain ⟨children, hchildren, hat⟩ := wrapFrom_reads hs.ahead rfl
  exact ⟨_, h children hchildren, hat, hs.spoken, hs.joined, hs.looks, hs.fuel, hs.unreported⟩

/-! ## Loops -/

/-- A loop that does one step for each of the items ahead, and then stops. -/
theorem untilDone_goes {α β : Type} {step : α → Parse (Option α)}
    {before : List β → α → State → Prop} {after : α → State → Prop}
    (hstep : ∀ item items a, Settles never (before (item :: items) a) (step a)
      fun result s ↦ ∃ next, result = some next ∧ before items next s)
    (hdone : ∀ a, Settles never (before [] a) (step a) fun result s ↦ result = none ∧ after a s)
    (hbound : ∀ {items a s}, before items a s → items.length ≤ s.remaining.length)
    (items : List β) (a : α) :
    Settles never (before items a) (untilDone step a) after := by
  have hiterate (bound : Nat) : ∀ items a, items.length < bound →
      Settles never (before items a) (iterate step bound a) after := by
    induction bound with
    | zero => exact fun _ _ hnone ↦ absurd hnone (Nat.not_lt_zero _)
    | succ bound ih =>
      intro items a hlt
      cases items with
      | nil =>
        apply (hdone a).bind
        intro result
        apply Settles.assume
        rintro rfl
        exact .pure id
      | cons item items =>
        apply (hstep item items a).bind
        intro result
        apply Settles.choose
        intro next
        apply Settles.assume
        rintro rfl
        exact ih items next (Nat.lt_of_succ_lt_succ hlt)
  apply Settles.get_bind
  intro s
  constructor
  rintro _ ⟨rfl, hs⟩
  exact (hiterate _ items a (Nat.lt_succ_of_le (hbound hs))).holds hs

/-- Of the items `all`, those in `ahead` are still to be read; what trees there are for the others
is told by `Built`. -/
inductive Midway {β : Type} (Built : List Cst → List β → Prop) (spell : β → List (Kind × String))
    (looks : Nat) (outer : List Cst) (rest : List (Kind × String)) (all ahead : List β)
    (s : State) : Prop
  | intro {read : List β} {trees : List Cst} (whole : read ++ ahead = all)
      (built : Built trees read)
      (standing : Standing looks outer trees (ahead.flatMap spell ++ rest) s)

theorem length_le_flatMap {β : Type} {spell : β → List (Kind × String)} {items : List β}
    (h : ∀ item ∈ items, spell item ≠ []) : items.length ≤ (items.flatMap spell).length := by
  induction items with
  | nil => exact Nat.le_refl 0
  | cons item items ih =>
    obtain ⟨hfirst, hrest⟩ := List.forall_mem_cons.mp h
    rw [List.flatMap_cons, List.length_append, List.length_cons, Nat.add_comm]
    exact Nat.add_le_add (List.length_pos_iff.mpr hfirst) (ih hrest)

namespace Midway

variable {β : Type} {Built : List Cst → List β → Prop} {spell : β → List (Kind × String)}
  {all ahead : List β} {item : β}

theorem length_le (hsome : ∀ item ∈ all, spell item ≠ [])
    (h : Midway Built spell looks outer rest all ahead s) :
    ahead.length ≤ s.remaining.length := by
  obtain ⟨hwhole, _, hs⟩ := h
  have hahead := length_le_flatMap fun item hitem ↦
    hsome item (hwhole ▸ List.mem_append_right _ hitem)
  have hlength := hs.length_le
  rw [List.length_append] at hlength
  exact hahead.trans (Nat.le_of_add_right_le hlength)

/-- A step that reads the first of the items ahead. -/
theorem step {α : Type} {m : Parse α} {after : α → State → Prop}
    (h : ∀ {read trees}, read ++ item :: ahead = all → Built trees read → Settles never
      (Standing looks outer trees (spell item ++ (ahead.flatMap spell ++ rest))) m after) :
    Settles never (Midway Built spell looks outer rest all (item :: ahead)) m after where
  holds := by
    rintro s ⟨hwhole, hbuilt, hs⟩
    rw [List.flatMap_cons, List.append_assoc] at hs
    exact (h hwhole hbuilt).holds hs

/-- With no item ahead, all have been read. -/
theorem done {α : Type} {m : Parse α} {after : α → State → Prop}
    (h : ∀ {trees}, Built trees all → Settles never (Standing looks outer trees rest) m after) :
    Settles never (Midway Built spell looks outer rest all []) m after where
  holds := by
    rintro s ⟨hwhole, hbuilt, hs⟩
    rw [List.append_nil] at hwhole
    subst hwhole
    exact (h hbuilt).holds hs

end Midway

end PegKit.Cst.Parse
