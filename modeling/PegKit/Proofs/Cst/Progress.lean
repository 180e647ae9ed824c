import PegKit.Proofs.Cst.Reading

/-!
# Progress of reading

What each step on tokens leaves of the tokens ahead, of the looks that may be taken and of the open
node, and that it ends. A loop ends when each of its steps but the last consumes something.

Reading is followed past a spent limit. Up to there it does what reading does that stops at the
limit, and after it only the limit is kept: so both ways of reading come to the same.
-/

namespace PegKit.Cst.Parse

/-! ## Two ways of reading -/

/-- What a part that lasts came to between two states, told by the part that stops at a spent limit:
the same, or a limit was spent on the way, or one had been spent before. -/
inductive Course {α : Type} (may : Fault → Prop) (part : Parse α) (s : State) (a : α) (s' : State) :
    Prop
  | whole (before : s.exhausted = none) (after : s'.exhausted = none)
      (run : part.run s = .ok (a, s'))
  | stopped {fault : Fault} (before : s.exhausted = none) (after : s'.exhausted = some fault)
      (run : part.run s = .error fault) (may : may fault)
  | late {fault : Fault} (before : s.exhausted = some fault) (after : s'.exhausted = some fault)

namespace Course

variable {α β : Type} {may : Fault → Prop} {part : Parse α} {f : α → Parse β} {s s₁ s' : State}
  {a : α} {b : β}

/-- Nothing was spent where the parts do the same. -/
theorem same (hrun : part.run s = .ok (a, s')) (hkept : s'.exhausted = s.exhausted) :
    Course may part s a s' := by
  cases hexhausted : s.exhausted with
  | none => exact .whole hexhausted (hkept.trans hexhausted) hrun
  | some fault => exact .late hexhausted (hkept.trans hexhausted)

theorem congr {part' : Parse α} (h : Course may part s a s') (hrun : part'.run s = part.run s) :
    Course may part' s a s' := by
  cases h with
  | whole hbefore hafter hwhole => exact .whole hbefore hafter (hrun.trans hwhole)
  | stopped hbefore hafter hstopped hmay => exact .stopped hbefore hafter (hrun.trans hstopped) hmay
  | late hbefore hafter => exact .late hbefore hafter

theorem bind (h : Course may part s a s₁) (h' : Course may (f a) s₁ b s') :
    Course may (part >>= f) s b s' := by
  cases h with
  | whole hbefore hbetween hrun =>
    cases h' with
    | whole _ hafter hrest =>
      refine .whole hbefore hafter ?_
      rw [StateT.run_bind, hrun]
      exact hrest
    | stopped _ hafter hrest hmay =>
      refine .stopped hbefore hafter ?_ hmay
      rw [StateT.run_bind, hrun]
      exact hrest
    | late hlate => cases hbetween.symm.trans hlate
  | @stopped fault hbefore hbetween hrun hmay =>
    have hstopped : (part >>= f).run s = .error fault := by
      rw [StateT.run_bind, hrun]
      rfl
    cases h' with
    | whole hnone => cases hbetween.symm.trans hnone
    | stopped hnone => cases hbetween.symm.trans hnone
    | late hlate hafter =>
      obtain rfl := Option.some.inj (hbetween.symm.trans hlate)
      exact .stopped hbefore hafter hstopped hmay
  | late hbefore hbetween =>
    cases h' with
    | whole hnone => cases hbetween.symm.trans hnone
    | stopped hnone => cases hbetween.symm.trans hnone
    | late hlate hafter => exact .late hbefore (hafter.trans (hlate.symm.trans hbetween))

end Course

/-- A part that lasts ends as told and without a fault, and the part that stops at a spent limit
goes the same way. -/
structure Lasts {α : Type} (may : Fault → Prop) (before : State → Prop) (part : Parse α)
    (part' : Lasting α) (after : α → State → Prop) : Prop where
  holds : ∀ {s}, before s → ∃ a s', part'.run s = .ok (a, s') ∧ after a s' ∧ Course may part s a s'

namespace Lasts

variable {α β : Type} {may : Fault → Prop} {before before' : State → Prop} {m : Parse α}
  {m' : Lasting α} {after after' : α → State → Prop}

theorem imp (h : Lasts may before m m' after) (hbefore : ∀ {s}, before' s → before s)
    (hafter : ∀ {a s}, after a s → after' a s) : Lasts may before' m m' after' where
  holds hs := by
    obtain ⟨a, s', hrun, hs', hcourse⟩ := h.holds (hbefore hs)
    exact ⟨a, s', hrun, hafter hs', hcourse⟩

theorem weaken (h : Lasts may before m m' after) (hbefore : ∀ {s}, before' s → before s) :
    Lasts may before' m m' after :=
  h.imp hbefore id

theorem assume {p : Prop} (h : p → Lasts may before m m' after) :
    Lasts may (fun s ↦ p ∧ before s) m m' after where
  holds hs := (h hs.1).holds hs.2

theorem pure {a : α} (h : ∀ {s}, before s → after a s) :
    Lasts may before (pure a) (pure a) after where
  holds hs := ⟨a, _, rfl, h hs, .same rfl rfl⟩

theorem bind {f : α → Parse β} {f' : α → Lasting β} {middle : α → State → Prop}
    {after : β → State → Prop} (h : Lasts may before m m' middle)
    (h' : ∀ a, Lasts may (middle a) (f a) (f' a) after) :
    Lasts may before (m >>= f) (m' >>= f') after where
  holds {s} hs := by
    obtain ⟨a, s₁, hrun, hmiddle, hcourse⟩ := h.holds hs
    obtain ⟨b, s', hrest, hs', hcourse'⟩ := (h' a).holds hmiddle
    refine ⟨b, s', ?_, hs', hcourse.bind hcourse'⟩
    rw [Lasting.run_bind, hrun]
    exact hrest

theorem ite {p : Prop} [Decidable p] {n : Parse α} {n' : Lasting α}
    (h : p → Lasts may before m m' after) (h' : ¬p → Lasts may before n n' after) :
    Lasts may before (if p then m else n) (if p then m' else n') after := by
  split
  · exact h ‹p›
  · exact h' ‹¬p›

theorem modify {f : State → State} {after : Unit → State → Prop}
    (hkept : ∀ s, (f s).exhausted = s.exhausted) (h : ∀ {s}, before s → after () (f s)) :
    Lasts may before (modify f) (modify f) after where
  holds hs := ⟨(), _, rfl, h hs, .same rfl (hkept _)⟩

/-- A part that looks at the state first. -/
theorem get_bind {f : State → Parse α} {f' : State → Lasting α}
    (h : ∀ s, Lasts may (fun s' ↦ s' = s ∧ before s') (f s) (f' s) after) :
    Lasts may before (get >>= f) (get >>= f') after where
  holds {s} hs := by
    obtain ⟨a, s', hrun, hs', hcourse⟩ := (h s).holds ⟨rfl, hs⟩
    exact ⟨a, s', hrun, hs', hcourse.congr rfl⟩

theorem gets {f : State → α} (h : ∀ {s}, before s → after (f s) s) :
    Lasts may before (get >>= fun s ↦ Pure.pure (f s)) (get >>= fun s ↦ Pure.pure (f s)) after where
  holds hs := ⟨_, _, rfl, h hs, .same rfl rfl⟩

end Lasts

/-! ## What is left -/

/-- The significant tokens ahead are `tokens`, at most `looks` looks were taken since a token was
consumed, consuming is not limited or may be stopped, and the open node holds `floor` trees at
least. -/
structure Room (may : Fault → Prop) (floor looks : Nat) (tokens : List Token) (s : State) :
    Prop where
  ahead : Token.significant s.remaining = tokens
  looks : lookaheadBudget ≤ s.lookaheads + looks
  fuel : s.fuel = none ∨ may .execFuelExhausted
  floor : floor ≤ s.built.size

/-- Room with no trivia at the current place. -/
structure Ready (may : Fault → Prop) (floor looks : Nat) (tokens : List Token) (s : State) :
    Prop where
  room : Room may floor looks tokens s
  passed : Passed s

/-- Room with fewer than `bound` significant tokens ahead. -/
def Fewer (may : Fault → Prop) (floor looks bound : Nat) (s : State) : Prop :=
  ∃ tokens : List Token, tokens.length < bound ∧ Room may floor looks tokens s

/-- Fewer than `bound` significant tokens are ahead, or reading is over with not more of them. -/
def Advanced (may : Fault → Prop) (floor looks looks' bound : Nat) (s : State) : Prop :=
  Fewer may floor looks bound s ∨ s.exhausted.isSome = true ∧ Fewer may floor looks' (bound + 1) s

/-- What depends on the open node only by the number of trees that it holds at least. -/
structure Housed (P : Nat → State → Prop) : Prop where
  floor : ∀ {floor s}, P floor s → floor ≤ s.built.size
  moved : ∀ {floor floor' s} (pending : List Token) (built : Array Cst), floor' ≤ built.size →
    P floor s → P floor' { s with pending, built }

variable {may : Fault → Prop} {floor looks looks' n : Nat} {tokens : List Token} {s : State}

theorem Room.mono (h : Room may floor looks tokens s) (hle : looks ≤ looks') :
    Room may floor looks' tokens s :=
  { h with looks := h.looks.trans (Nat.add_le_add_left hle _) }

theorem Room.fewer (h : Room may floor looks tokens s) (hle : looks ≤ looks')
    (hlt : tokens.length < n) : Fewer may floor looks' n s :=
  ⟨tokens, hlt, h.mono hle⟩

theorem Fewer.mono {bound : Nat} (h : Fewer may floor looks bound s) (hle : looks ≤ looks')
    (hbound : bound ≤ n) : Fewer may floor looks' n s := by
  obtain ⟨tokens, hlt, hroom⟩ := h
  exact ⟨tokens, hlt.trans_le hbound, hroom.mono hle⟩

theorem Fewer.exists_lt (h : Fewer may floor looks n s) :
    (Token.significant s.remaining).length < n := by
  obtain ⟨tokens, hlt, hroom⟩ := h
  rwa [hroom.ahead]

theorem Advanced.fewer {bound looks'' : Nat} (h : Advanced may floor looks looks' bound s)
    (hle : looks ≤ looks'') (hle' : looks' ≤ looks'') (hlt : bound < n) :
    Fewer may floor looks'' n s := by
  rcases h with hfewer | ⟨_, hfewer⟩
  · exact hfewer.mono hle hlt.le
  · exact hfewer.mono hle' hlt

theorem room_housed : Housed fun floor ↦ Room may floor looks tokens where
  floor h := h.floor
  moved _ _ hfloor h := ⟨h.ahead, h.looks, h.fuel, hfloor⟩

theorem ready_housed : Housed fun floor ↦ Ready may floor looks tokens where
  floor h := h.room.floor
  moved _ _ hfloor h := ⟨room_housed.moved _ _ hfloor h.room, h.passed⟩

theorem fewer_housed : Housed fun floor ↦ Fewer may floor looks n where
  floor := fun ⟨_, _, h⟩ ↦ h.floor
  moved := fun _ _ hfloor ⟨tokens, hlt, h⟩ ↦ ⟨tokens, hlt, room_housed.moved _ _ hfloor h⟩

theorem advanced_housed : Housed fun floor ↦ Advanced may floor looks looks' n where
  floor h := h.elim fewer_housed.floor fun ⟨_, h⟩ ↦ fewer_housed.floor h
  moved _ _ hfloor h := h.imp (fewer_housed.moved _ _ hfloor) fun ⟨hover, h⟩ ↦
    ⟨hover, fewer_housed.moved _ _ hfloor h⟩

theorem Housed.lower {P : Nat → State → Prop} (hP : Housed P) {floor' : Nat} (h : P floor s)
    (hle : floor' ≤ floor) : P floor' s :=
  hP.moved s.pending s.built (hle.trans (hP.floor h)) h

/-- With whatever tokens are left. -/
theorem Lasts.fewer {α : Type} {m : Parse α} {m' : Lasting α} {after : α → State → Prop}
    (h : ∀ {tokens : List Token}, tokens.length < n →
      Lasts may (Room may floor looks tokens) m m' after) :
    Lasts may (Fewer may floor looks n) m m' after where
  holds hs := (h hs.choose_spec.1).holds hs.choose_spec.2

/-! ## Looking -/

theorem passTrivia_lasts : Lasts may (Room may floor looks tokens) passTrivia passTrivia
    fun _ ↦ Ready may floor looks tokens := by
  refine .modify (fun _ ↦ rfl) ?_
  intro s hs
  refine ⟨⟨?_, hs.looks, hs.fuel, hs.floor⟩, fun token htoken ↦ ?_⟩
  · rw [significant_dropWhile]
    exact hs.ahead
  · have hhead := List.head?_dropWhile_not Token.isTrivia s.remaining
    rw [Option.mem_def.mp htoken] at hhead
    simpa using hhead

theorem countLookahead_lasts (hlooks : looks < lookaheadBudget) :
    Lasts may (Ready may floor looks tokens) countLookahead countLookahead
      fun _ ↦ Ready may floor (looks + 1) tokens := by
  apply Lasts.get_bind
  intro s
  apply Lasts.ite
  · intro hnone
    constructor
    rintro _ ⟨rfl, hs⟩
    have hleft := hs.room.looks
    omega
  · intro hsome
    constructor
    rintro _ ⟨rfl, hs⟩
    refine ⟨(), _, rfl, ⟨⟨hs.room.ahead, ?_, hs.room.fuel, hs.room.floor⟩, hs.passed⟩,
      .same rfl rfl⟩
    have hleft := hs.room.looks
    change lookaheadBudget ≤ _ - 1 + (looks + 1)
    omega

theorem restoreLookaheads_lasts : Lasts may (Room may floor looks tokens) restoreLookaheads
    restoreLookaheads fun _ ↦ Room may floor 0 tokens :=
  .modify (fun _ ↦ rfl) fun hs ↦ ⟨hs.ahead, Nat.le_refl _, hs.fuel, hs.floor⟩

theorem Ready.head? (h : Ready may floor looks tokens s) : s.remaining.head? = tokens.head? := by
  rw [← h.room.ahead]
  cases hremaining : s.remaining with
  | nil => rfl
  | cons token rest =>
    rw [Token.significant_cons, h.passed token (by rw [hremaining]; rfl)]
    rfl

theorem current_lasts (hlooks : looks < lookaheadBudget) :
    Lasts may (Room may floor looks tokens) current current
      fun kind s ↦ kind = first tokens ∧ Ready may floor (looks + 1) tokens s :=
  .bind passTrivia_lasts fun _ ↦ (countLookahead_lasts hlooks).bind fun _ ↦
    .gets fun hs ↦ ⟨by rw [hs.head?]; rfl, hs⟩

theorem currentSpan_lasts : Lasts may (Room may floor looks tokens) currentSpan currentSpan
    fun _ ↦ Ready may floor looks tokens :=
  .bind passTrivia_lasts fun _ ↦ .gets id

theorem currentIs_lasts (hlooks : looks < lookaheadBudget) (kind : Kind) :
    Lasts may (Room may floor looks tokens) (currentIs kind) (currentIs kind)
      fun b s ↦ b = (first tokens == kind) ∧ Ready may floor (looks + 1) tokens s :=
  (current_lasts hlooks).bind fun _ ↦ .pure fun hs ↦ ⟨by rw [hs.1], hs.2⟩

theorem currentIsIn_lasts (hlooks : looks < lookaheadBudget) (set : KindSet) :
    Lasts may (Room may floor looks tokens) (currentIsIn set) (currentIsIn set)
      fun b s ↦ b = set.contains (first tokens) ∧ Ready may floor (looks + 1) tokens s :=
  (current_lasts hlooks).bind fun _ ↦ .pure fun hs ↦ ⟨by rw [hs.1], hs.2⟩

/-- Reading is over without tokens, and where a limit was spent. -/
theorem isOver_lasts {before : State → Prop} : Lasts may before isOver isOver
    fun b s ↦ b = (s.remaining.isEmpty || s.exhausted.isSome) ∧ before s := by
  constructor
  intro s hs
  refine ⟨s.remaining.isEmpty || s.exhausted.isSome, s, rfl, ⟨rfl, hs⟩, ?_⟩
  cases hexhausted : s.exhausted with
  | none =>
    refine .whole hexhausted hexhausted ?_
    rw [Option.isSome_none, Bool.or_false]
    rfl
  | some fault => exact .late hexhausted hexhausted

theorem atEnd_tells : Lasts may (Room may floor looks tokens) atEnd atEnd
    fun b s ↦ b = (tokens.isEmpty || s.exhausted.isSome) ∧ Ready may floor looks tokens s := by
  apply Lasts.bind passTrivia_lasts
  intro _
  apply Lasts.imp isOver_lasts id
  rintro b s ⟨rfl, hs⟩
  refine ⟨?_, hs⟩
  have hhead := hs.head?
  cases hremaining : s.remaining <;> rw [hremaining] at hhead <;> cases tokens <;>
    first | rfl | cases hhead

theorem atEnd_lasts : Lasts may (Room may floor looks tokens) atEnd atEnd
    fun b s ↦ (b = false → tokens ≠ []) ∧ Ready may floor looks tokens s := by
  apply Lasts.imp atEnd_tells id
  rintro ended s ⟨hended, hs⟩
  refine ⟨?_, hs⟩
  rintro rfl rfl
  cases hended

/-- What was spent stays so. -/
theorem Lasts.spent {α : Type} {m : Parse α} {m' : Lasting α} {before : State → Prop}
    {after : α → State → Prop} (h : Lasts may before m m' after) :
    Lasts may (fun s ↦ s.exhausted.isSome = true ∧ before s) m m'
      fun a s ↦ s.exhausted.isSome = true ∧ after a s where
  holds := by
    rintro s ⟨hover, hs⟩
    obtain ⟨fault, hfault⟩ := Option.isSome_iff_exists.mp hover
    obtain ⟨a, s', hrun, hs', hcourse⟩ := h.holds hs
    refine ⟨a, s', hrun, ⟨?_, hs'⟩, hcourse⟩
    cases hcourse with
    | whole hnone => cases hfault.symm.trans hnone
    | stopped hnone => cases hfault.symm.trans hnone
    | late _ hafter =>
      rw [hafter]
      rfl

theorem atEnd_over : Lasts may
    (fun s ↦ s.exhausted.isSome = true ∧ Room may floor looks tokens s) atEnd atEnd
    fun b s ↦ b = true ∧ Ready may floor looks tokens s :=
  (Lasts.spent atEnd_tells).imp id fun ⟨hover, hended, hs⟩ ↦
    ⟨by rw [hended, hover, Bool.or_true], hs⟩

theorem nextIs_lasts (hlooks : looks < lookaheadBudget) (kind : Kind) :
    Lasts may (Room may floor looks tokens) (nextIs kind) (nextIs kind) fun b s ↦
      (b = true → ∃ token next rest, tokens = token :: next :: rest) ∧
        Ready may floor (looks + 1) tokens s := by
  apply Lasts.bind passTrivia_lasts
  intro _
  apply (countLookahead_lasts hlooks).bind
  intro _
  apply Lasts.get_bind
  intro s
  constructor
  rintro _ ⟨rfl, hs⟩
  split
  · next hnone => exact ⟨false, _, rfl, ⟨by rintro ⟨⟩, hs⟩, .same rfl rfl⟩
  · next token rest htokens =>
    refine ⟨_, _, rfl, ⟨fun hfound ↦ ?_, hs⟩, .same rfl rfl⟩
    have hahead := hs.room.ahead
    have htoken : ¬token.isTrivia = true := by
      rw [hs.passed token (by rw [htokens]; rfl)]
      exact Bool.false_ne_true
    rw [htokens, Token.significant_cons, if_neg htoken] at hahead
    cases hrest : Token.significant rest with
    | nil =>
      rw [← List.head?_filter, show rest.filter _ = [] from hrest] at hfound
      cases hfound
    | cons next others => exact ⟨token, next, others, by rw [← hahead, hrest]⟩

theorem expect_lasts (hlooks : looks < lookaheadBudget) {kind : Kind}
    (hkind : first tokens = kind) : Lasts may (Room may floor looks tokens) (expect kind)
      (expect kind) fun _ ↦ Ready may floor (looks + 1) tokens := by
  apply (current_lasts hlooks).bind
  intro found
  apply Lasts.assume
  rintro rfl
  exact .ite (fun hother ↦ absurd hkind hother) fun _ ↦ .pure id

/-! ## Building -/

theorem close_lasts {before after : State → Prop} (outer : Array Cst) (kind : Kind)
    (h : ∀ {s}, before s → after { s with built := outer.push (.node kind s.built.toList) }) :
    Lasts may before
      (modify fun state ↦ { state with built := outer.push (.node kind state.built.toList) })
      (modify fun state ↦ { state with built := outer.push (.node kind state.built.toList) })
      fun _ ↦ after :=
  .modify (fun _ ↦ rfl) h

section Building

variable {P Q : Nat → State → Prop} (hP : Housed P)

include hP

theorem addTrivia_lasts : Lasts may (P floor) addTrivia addTrivia fun _ ↦ P floor := by
  refine .modify (fun _ ↦ rfl) ?_
  intro s hs
  refine hP.moved _ _ ((hP.floor hs).trans ?_) hs
  rw [Array.size_append]
  exact Nat.le_add_right _ _

theorem open_lasts : Lasts may (P floor) (modify fun state ↦ { state with built := #[] })
    (modify fun state ↦ { state with built := #[] }) fun _ ↦ P 0 :=
  .modify (fun _ ↦ rfl) fun hs ↦ hP.moved _ _ (Nat.zero_le _) hs

theorem node_lasts (hQ : Housed Q) (kind : Kind) {body : Parse Unit} {body' : Lasting Unit}
    (h : Lasts may (P 0) body body' fun _ ↦ Q 0) :
    Lasts may (P floor) (node kind body) (node kind body') fun _ ↦ Q floor := by
  apply (addTrivia_lasts hP).bind
  intro _
  apply Lasts.get_bind
  intro outer
  constructor
  rintro s ⟨rfl, hs⟩
  have hfloor := hP.floor hs
  refine ((open_lasts hP).bind fun _ ↦ h.bind fun _ ↦ close_lasts s.built kind ?_).holds hs
  intro s hs
  refine hQ.moved _ _ ?_ hs
  rw [Array.size_push]
  exact Nat.le_succ_of_le hfloor

/-- The place marked stays as long as the open node holds what it does. -/
theorem mark_lasts : Lasts may (P floor) mark mark fun start s ↦ floor ≤ start ∧ P start s :=
  (addTrivia_lasts hP).bind fun _ ↦ .gets fun {s} hs ↦
    ⟨hP.floor hs, hP.moved s.pending s.built (Nat.le_refl _) hs⟩

theorem checkPlace_lasts (start : Nat) : Lasts may (P start) (Reading.checkPlace start)
    (Reading.checkPlace start) fun _ ↦ P start where
  holds {s} hs := by
    have hplace : ¬s.built.size < start := Nat.not_lt.mpr (hP.floor hs)
    refine ⟨(), s, ?_, hs, .same rfl rfl⟩
    change StateT.run (if s.built.size < start then throw Fault.misplaced else pure ()) s = _
    rw [if_neg hplace]
    rfl

theorem wrapFrom_lasts (start : Nat) (kind : Kind) : Lasts may (P start) (wrapFrom start kind)
    (wrapFrom start kind) fun _ ↦ P start := by
  apply (checkPlace_lasts hP start).bind
  intro _
  refine .modify (fun _ ↦ rfl) ?_
  intro s hs
  refine hP.moved _ _ ?_ hs
  have hsize : (s.built.take start).size = start := by
    simpa using Nat.min_eq_left (hP.floor hs)
  rw [Array.size_push, hsize]
  exact Nat.le_succ _

end Building

theorem giveUp_lasts {fault : Fault} (hmay : may fault) : Lasts may (Room may floor looks tokens)
    (Reading.giveUp fault) (Reading.giveUp fault)
    fun _ ↦ Advanced may floor 0 looks tokens.length := by
  constructor
  intro s hs
  have hspent (spent : Option Fault) : (spent.or (some fault)).isSome = true := by
    cases spent <;> rfl
  refine ⟨(), _, rfl, .inr ⟨hspent s.exhausted, tokens, Nat.lt_succ_self _,
    ⟨hs.ahead, hs.looks, hs.fuel, hs.floor⟩⟩, ?_⟩
  cases hexhausted : s.exhausted with
  | none => exact .stopped hexhausted (congrArg (·.or (some fault)) hexhausted) rfl hmay
  | some spent => exact .late hexhausted (congrArg (·.or (some fault)) hexhausted)

/-- Whatever is at the very front is consumed. -/
theorem bump_takes_front {token : Token} {rest : List Token} :
    Lasts may (fun s ↦ s.remaining = token :: rest ∧ Room may floor looks tokens s) bump bump
      fun _ s ↦ Room may floor 0 (Token.significant rest) s ∧ s.remaining = rest := by
  constructor
  rintro ⟨remaining, pending, built, diagnostics, fuel, consumed, lookaheads, place, length,
    exhausted⟩ ⟨rfl, hs⟩
  have hfloor : floor ≤ ((built ++ (pending.map Cst.leaf).toArray).push (.leaf token)).size := by
    rw [Array.size_push, Array.size_append]
    exact Nat.le_succ_of_le (hs.floor.trans (Nat.le_add_right _ _))
  match fuel with
  | none => exact ⟨(), _, rfl, ⟨⟨rfl, Nat.le_refl _, .inl rfl, hfloor⟩, rfl⟩, .same rfl rfl⟩
  | some (fuel + 1) =>
    have hmay := hs.fuel.resolve_left (by rintro ⟨⟩)
    exact ⟨(), _, rfl, ⟨⟨rfl, Nat.le_refl _, .inr hmay, hfloor⟩, rfl⟩, .same rfl rfl⟩
  | some 0 =>
    have hmay := hs.fuel.resolve_left (by rintro ⟨⟩)
    refine ⟨(), _, rfl, ⟨⟨rfl, Nat.le_refl _, .inr hmay, hfloor⟩, rfl⟩, ?_⟩
    cases exhausted with
    | none => exact .stopped rfl rfl rfl hmay
    | some fault => exact .late rfl rfl

/-- The first significant token is consumed. -/
theorem bump_lasts {token : Token} {rest : List Token} :
    Lasts may (Ready may floor looks (token :: rest)) bump bump fun _ ↦ Room may floor 0 rest := by
  constructor
  intro s hs
  cases hremaining : s.remaining with
  | nil =>
    have hhead := hs.head?
    rw [hremaining] at hhead
    cases hhead
  | cons found others =>
    have hahead := hs.room.ahead
    rw [hremaining, Token.significant_cons, hs.passed found (by rw [hremaining]; rfl)] at hahead
    obtain ⟨_, rfl⟩ := List.cons.inj hahead
    exact (Lasts.imp bump_takes_front id And.left).holds ⟨hremaining, hs.room⟩

/-- The first significant token or trivia before it is consumed. -/
theorem bump_lasts_front (hne : tokens ≠ []) : Lasts may (Room may floor looks tokens) bump bump
    fun _ ↦ Fewer may floor 0 (tokens.length + 1) := by
  constructor
  intro s hs
  cases hremaining : s.remaining with
  | nil =>
    have hahead := hs.ahead
    rw [hremaining] at hahead
    exact absurd hahead.symm hne
  | cons found others =>
    refine (Lasts.imp bump_takes_front id fun ⟨hroom, _⟩ ↦ ?_).holds ⟨hremaining, hs⟩
    apply hroom.fewer (Nat.le_refl _)
    rw [← hs.ahead, hremaining, Token.significant_cons]
    split
    · exact Nat.lt_succ_self _
    · exact Nat.lt_succ_of_lt (Nat.lt_succ_self _)

theorem eat_lasts (hlooks : looks < lookaheadBudget) (kind : Kind) (hkind : kind ≠ .error) :
    Lasts may (Room may floor looks tokens) (eat kind) (eat kind)
      fun _ ↦ Fewer may floor (looks + 1) (tokens.length + 1) := by
  apply (currentIs_lasts hlooks kind).bind
  intro found
  apply Lasts.assume
  rintro rfl
  apply Lasts.ite
  · intro hfound
    cases tokens with
    | nil => exact absurd (beq_iff_eq.mp hfound).symm hkind
    | cons token rest =>
      exact .bind bump_lasts fun _ ↦ .pure fun hs ↦
        hs.fewer (Nat.zero_le _) (Nat.lt_succ_of_lt (Nat.lt_succ_self _))
  · intro _
    exact .pure fun hs ↦ hs.room.fewer (Nat.le_refl _) (Nat.lt_succ_self _)

/-! ## Reporting -/

theorem freshPlace_lasts (offset : Nat) : Lasts may (Ready may floor looks tokens)
    (freshPlace offset) (freshPlace offset) fun _ ↦ Ready may floor looks tokens := by
  apply Lasts.get_bind
  intro s
  apply Lasts.weaken _ And.right
  refine .bind (.modify (fun _ ↦ rfl) fun hs ↦ ?_) fun _ ↦ .pure id
  exact ⟨⟨hs.room.ahead, hs.room.looks, hs.room.fuel, hs.room.floor⟩, hs.passed⟩

theorem report_lasts (diagnostic : Diagnostic) : Lasts may (Ready may floor looks tokens)
    (report diagnostic) (report diagnostic) fun _ ↦ Ready may floor looks tokens :=
  .modify (fun _ ↦ rfl) fun hs ↦
    ⟨⟨hs.room.ahead, hs.room.looks, hs.room.fuel, hs.room.floor⟩, hs.passed⟩

theorem reportHere_lasts (wording : Text.Span → Diagnostic) :
    Lasts may (Room may floor looks tokens) (reportHere wording) (reportHere wording)
      fun _ ↦ Ready may floor looks tokens :=
  .bind currentSpan_lasts fun _ ↦ (freshPlace_lasts _).bind fun _ ↦
    .ite (fun _ ↦ report_lasts _) fun _ ↦ .pure id

theorem errorUnclosed_lasts (kind : DiagnosticKind) (note : String) (opening : Text.Span) :
    Lasts may (Room may floor looks tokens) (errorUnclosed kind note opening)
      (errorUnclosed kind note opening) fun _ ↦ Ready may floor looks tokens :=
  reportHere_lasts _

/-- The current token is consumed if there is one. -/
theorem errorAndBump_lasts (kind : DiagnosticKind) (detail : String) {token : Token}
    {rest : List Token} : Lasts may (Room may floor looks (token :: rest))
      (errorAndBump kind detail) (errorAndBump kind detail) fun _ ↦ Room may floor 0 rest := by
  apply (reportHere_lasts _).bind
  intro _
  apply Lasts.get_bind
  intro s
  apply Lasts.ite
  · intro _
    exact (node_lasts ready_housed room_housed .error bump_lasts).weaken And.right
  · intro hempty
    constructor
    rintro _ ⟨rfl, hs⟩
    have hhead := hs.head?
    rw [Bool.not_eq_true, Bool.not_eq_false', List.isEmpty_iff] at hempty
    rw [hempty] at hhead
    cases hhead

/-! ## Loops -/

/-- What holds after a step of a loop, by whether there is another one. -/
def Continues {α : Type} (done going : State → Prop) : Option α → State → Prop
  | none => done
  | some _ => going

/-- A loop ends when each of its steps but the last makes a measure of what is left smaller. -/
theorem untilDone_lasts {α : Type} {step : α → Parse (Option α)} {step' : α → Lasting (Option α)}
    {before after : State → Prop} (measure : State → Nat)
    (hmeasure : ∀ s, measure s ≤ s.remaining.length)
    (h : ∀ a bound, Lasts may (fun s ↦ measure s = bound ∧ before s) (step a) (step' a)
      (Continues after fun s ↦ measure s < bound ∧ before s)) (a : α) :
    Lasts may before (untilDone step a) (untilDone step' a) fun _ ↦ after := by
  have hiterate (bound : Nat) : ∀ a, Lasts may (fun s ↦ measure s < bound ∧ before s)
      (iterate step bound a) (iterate step' bound a) fun _ ↦ after := by
    induction bound with
    | zero =>
      intro a
      constructor
      rintro s ⟨hnone, _⟩
      cases hnone
    | succ bound ih =>
      intro a
      constructor
      rintro s ⟨hlt, hs⟩
      refine ((h a (measure s)).bind fun result ↦ ?_).holds ⟨rfl, hs⟩
      cases result with
      | none => exact .pure id
      | some next =>
        exact (ih next).weaken fun hnext ↦ ⟨hnext.1.trans_le (Nat.le_of_lt_succ hlt), hnext.2⟩
  apply Lasts.get_bind
  intro s
  apply (hiterate (s.remaining.length + 1) a).weaken
  rintro _ ⟨rfl, hs⟩
  exact ⟨Nat.lt_succ_of_le (hmeasure _), hs⟩

/-- A loop that is begun anew with room for as many looks. -/
theorem loop_lasts {α : Type} {step : α → Parse (Option α)} {step' : α → Lasting (Option α)}
    (h : ∀ a {tokens}, tokens.length < n → Lasts may (Room may floor looks tokens) (step a)
      (step' a) (Continues (Fewer may floor looks' (tokens.length + 1))
        (Fewer may floor looks tokens.length))) (a : α) :
    Lasts may (Fewer may floor looks n) (untilDone step a) (untilDone step' a)
      fun _ ↦ Fewer may floor looks' n := by
  apply untilDone_lasts _ significant_length_le
  intro a bound
  constructor
  rintro s ⟨rfl, tokens, hlt, hroom⟩
  rw [hroom.ahead]
  refine ((h a hlt).imp id fun {result s'} hs ↦ ?_).holds hroom
  cases result with
  | none => exact hs.mono (Nat.le_refl _) hlt
  | some next => exact ⟨hs.exists_lt, hs.mono (Nat.le_refl _) hlt.le⟩

/-- A loop with a step that need not consume anything where a limit is spent: it ends with the next
step then. -/
theorem loop_lasts_over {α : Type} {step : α → Parse (Option α)} {step' : α → Lasting (Option α)}
    {looksOver : Nat} (hlooks : looks ≤ looksOver)
    (h : ∀ a {tokens}, tokens.length < n → Lasts may (Room may floor looks tokens) (step a)
      (step' a) (Continues (Fewer may floor looks' (tokens.length + 1)) fun s ↦ tokens ≠ [] ∧
        Advanced may floor looks looksOver tokens.length s))
    (hover : ∀ a {tokens}, Lasts may
      (fun s ↦ s.exhausted.isSome = true ∧ Room may floor looksOver tokens s) (step a) (step' a)
      fun result s ↦ result = none ∧ Fewer may floor looks' (tokens.length + 1) s) (a : α) :
    Lasts may (Fewer may floor looks n) (untilDone step a) (untilDone step' a)
      fun _ ↦ Fewer may floor looks' n := by
  -- Where a limit is spent nothing counts as left, so that the step which spends it counts too.
  let left (s : State) : Nat :=
    if s.exhausted.isSome then 0 else (Token.significant s.remaining).length
  have hleft (s : State) : left s ≤ s.remaining.length := by
    dsimp only [left]
    split
    · exact Nat.zero_le _
    · exact significant_length_le s
  have hloop : Lasts may (fun s ↦ Fewer may floor looks n s ∨
        s.exhausted.isSome = true ∧ Fewer may floor looksOver n s)
      (untilDone step a) (untilDone step' a) fun _ ↦ Fewer may floor looks' n := by
    apply untilDone_lasts left hleft
    intro a bound
    constructor
    rintro s ⟨rfl, hs⟩
    cases hexhausted : s.exhausted.isSome with
    | true =>
      obtain ⟨tokens, hlt, hroom⟩ : Fewer may floor looksOver n s :=
        hs.elim (fun hs ↦ hs.mono hlooks (Nat.le_refl _)) And.right
      refine ((hover a).imp id fun {result s'} hs ↦ ?_).holds ⟨hexhausted, hroom⟩
      obtain ⟨rfl, hs⟩ := hs
      exact hs.mono (Nat.le_refl _) hlt
    | false =>
      obtain ⟨tokens, hlt, hroom⟩ := hs.resolve_right fun hspent ↦ by
        rw [hexhausted] at hspent
        cases hspent.1
      have hall : left s = tokens.length := by
        dsimp only [left]
        rw [hexhausted, hroom.ahead]
        rfl
      rw [hall]
      refine ((h a hlt).imp id fun {result s'} hs ↦ ?_).holds hroom
      cases result with
      | none => exact hs.mono (Nat.le_refl _) hlt
      | some next =>
        obtain ⟨hne, hs | ⟨hspent, hs⟩⟩ := hs
        · refine ⟨?_, .inl (hs.mono (Nat.le_refl _) hlt.le)⟩
          dsimp only [left]
          split
          · exact List.length_pos_iff.mpr hne
          · exact hs.exists_lt
        · refine ⟨?_, .inr ⟨hspent, hs.mono (Nat.le_refl _) hlt⟩⟩
          dsimp only [left]
          rw [if_pos hspent]
          exact List.length_pos_iff.mpr hne
  exact hloop.weaken .inl

theorem stopsAt_lasts (hlooks : looks < lookaheadBudget) (recovery : KindSet) :
    Lasts may (Room may floor looks tokens) (stopsAt recovery) (stopsAt recovery) fun b s ↦
      b = (recovery.contains (first tokens) || (tokens.isEmpty || s.exhausted.isSome)) ∧
        Ready may floor (looks + 1) tokens s := by
  apply (currentIsIn_lasts hlooks recovery).bind
  intro found
  apply Lasts.assume
  rintro rfl
  apply Lasts.ite
  · intro hfound
    exact .pure fun hs ↦ ⟨by rw [hfound]; rfl, hs⟩
  · intro hfound
    rw [Bool.not_eq_true] at hfound
    exact (Lasts.weaken atEnd_tells Ready.room).imp id fun hs ↦ ⟨by rw [hfound, hs.1]; rfl, hs.2⟩

/-- Skipping begins at a token that does not stop it. Before the first step nothing has been
consumed yet, and only a spent limit stops that step. -/
theorem skipping_lasts (hlooks : looks < lookaheadBudget) {recovery : KindSet} (hne : tokens ≠ [])
    (hgoes : recovery.contains (first tokens) = false) :
    Lasts may (fun s ↦ Room may floor looks tokens s ∨ Fewer may floor 1 tokens.length s)
      (untilDone (skipToken recovery) ()) (untilDone (skipToken recovery) ())
      fun _ ↦ Advanced may floor 2 (looks + 1) tokens.length := by
  refine untilDone_lasts _ significant_length_le (fun _ bound ↦ ?_) ()
  constructor
  rintro s ⟨rfl, hs | ⟨rest, hlt, hs⟩⟩
  · refine ((stopsAt_lasts hlooks recovery).bind fun stop ↦ .ite ?_ fun _ ↦ ?_).holds hs
    · rintro rfl
      refine .pure fun ⟨hstop, hleft⟩ ↦
        .inr ⟨?_, hleft.room.fewer (Nat.le_refl _) (Nat.lt_succ_self _)⟩
      rw [hgoes, List.isEmpty_eq_false_iff.mpr hne, Bool.false_or, Bool.false_or] at hstop
      exact hstop.symm
    · cases tokens with
      | nil => exact absurd rfl hne
      | cons token rest =>
        rw [hs.ahead]
        exact (Lasts.weaken bump_lasts And.right).bind fun _ ↦ .pure fun hleft ↦
          ⟨by rw [hleft.ahead]; exact Nat.lt_succ_self _,
            .inr (hleft.fewer (Nat.zero_le _) (Nat.lt_succ_self _))⟩
  · refine ((stopsAt_lasts (by decide) recovery).bind fun stop ↦ .ite ?_ ?_).holds hs
    · rintro rfl
      exact .pure fun hleft ↦ .inl (hleft.2.room.fewer (Nat.le_refl _) hlt)
    · intro hgoing
      cases rest with
      | nil =>
        constructor
        rintro s ⟨rfl, _⟩
        exact absurd (by rw [List.isEmpty_nil, Bool.true_or, Bool.or_true]) hgoing
      | cons token rest =>
        rw [hs.ahead]
        exact (Lasts.weaken bump_lasts And.right).bind fun _ ↦ .pure fun hleft ↦
          ⟨by rw [hleft.ahead]; exact Nat.lt_succ_self _,
            .inr (hleft.fewer (Nat.zero_le _) (Nat.lt_of_succ_lt hlt))⟩

/-- At a token that does not stop it, recovery consumes that token at least, unless a limit is
spent. -/
theorem errorAndRecover_lasts (hlooks : looks + 1 < lookaheadBudget) (kind : DiagnosticKind)
    (detail : String) {recovery : KindSet} (hne : tokens ≠ [])
    (hgoes : recovery.contains (first tokens) = false) :
    Lasts may (Room may floor looks tokens) (errorAndRecover kind detail recovery)
      (errorAndRecover kind detail recovery)
      fun _ ↦ Advanced may floor 2 (looks + 2) tokens.length := by
  apply (stopsAt_lasts (Nat.lt_of_succ_lt hlooks) recovery).bind
  intro stop
  apply Lasts.ite
  · rintro rfl
    have hreport : Lasts may
        (fun s ↦ s.exhausted.isSome = true ∧ Ready may floor (looks + 1) tokens s)
        (errorDetailed kind detail) (errorDetailed kind detail)
        fun _ ↦ Advanced may floor 2 (looks + 2) tokens.length :=
      ((reportHere_lasts _).weaken Ready.room).spent.imp id fun ⟨hover, hs⟩ ↦
        .inr ⟨hover, hs.room.fewer (Nat.le_succ _) (Nat.lt_succ_self _)⟩
    apply hreport.weaken
    rintro s ⟨hstop, hs⟩
    rw [hgoes, List.isEmpty_eq_false_iff.mpr hne, Bool.false_or, Bool.false_or] at hstop
    exact ⟨hstop.symm, hs⟩
  · intro _
    apply Lasts.weaken _ And.right
    refine node_lasts ready_housed advanced_housed .error ?_
    apply ((reportHere_lasts _).weaken Ready.room).bind
    intro _
    exact (skipping_lasts hlooks hne hgoes).weaken fun hs ↦ .inl hs.room

end PegKit.Cst.Parse
