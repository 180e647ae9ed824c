import Mathlib.Tactic.ByContra

/-!
# Loops and copies

A loop attempts something until it fails or matches without progress, and counts its matches. A row
of copies attempts the same so many times, each of which has to match, and loops after them. This is
told here of any states that attempts lead from one to the next: what a count of matches means, and
when the loop and the copies come to the same.
-/

namespace PegKit.Machine

/-- What an attempt comes to: the state after a match, or a failure. -/
abbrev Attempt (σ : Type) := σ → Option σ → Prop

variable {σ ρ : Type} {attempt : Attempt σ} {offset : σ → Nat} {count least : Nat}
  {state stop : σ} {result : Option σ}

/-- So many matches follow each other from one state to another. -/
inductive Succession (attempt : Attempt σ) : Nat → σ → σ → Prop
  | none {state : σ} : Succession attempt 0 state state
  | next {count : Nat} {state between stop : σ} (first : attempt state (some between))
      (others : Succession attempt count between stop) : Succession attempt (count + 1) state stop

/-- Of the matches that follow each other from `state` on, those before the `least`-th make
progress. -/
def Advances (attempt : Attempt σ) (offset : σ → Nat) (least : Nat) (state : σ) : Prop :=
  ∀ count place next, count + 1 < least → Succession attempt count state place →
    attempt place (some next) → offset place < offset next

/-- Attempts made until one fails or matches without progress, with the number of matches and the
state after the last of them. -/
inductive Loops (attempt : Attempt σ) (offset : σ → Nat) : Nat → σ → σ → Prop
  | fail {state : σ} (last : attempt state none) : Loops attempt offset 0 state state
  | stay {state next : σ} (last : attempt state (some next))
      (stays : ¬ offset state < offset next) : Loops attempt offset 1 state next
  | next {count : Nat} {state next stop : σ} (first : attempt state (some next))
      (moves : offset state < offset next) (others : Loops attempt offset count next stop) :
      Loops attempt offset (count + 1) state stop

/-- A loop that fails where it makes less than `least` matches. -/
def Counts (attempt : Attempt σ) (offset : σ → Nat) (least : Nat) : Attempt σ :=
  fun state result ↦ ∃ count stop, Loops attempt offset count state stop ∧
    result = if count < least then none else some stop

/-- So many attempts that all have to match, and a loop after them. -/
inductive Copies (attempt : Attempt σ) (offset : σ → Nat) : Nat → σ → Option σ → Prop
  | loop {count : Nat} {state stop : σ} (rest : Loops attempt offset count state stop) :
      Copies attempt offset 0 state (some stop)
  | fail {count : Nat} {state : σ} (first : attempt state none) :
      Copies attempt offset (count + 1) state none
  | next {count : Nat} {state next : σ} {result : Option σ} (first : attempt state (some next))
      (others : Copies attempt offset count next result) :
      Copies attempt offset (count + 1) state result

namespace Attempt

/-- An attempt comes to one thing at most. -/
def Definite (attempt : Attempt σ) : Prop :=
  ∀ state result result', attempt state result → attempt state result' → result = result'

/-- A match without progress leads back to where it began. -/
def Rests (attempt : Attempt σ) (offset : σ → Nat) : Prop :=
  ∀ state next, attempt state (some next) → ¬ offset state < offset next → next = state

end Attempt

namespace Advances

theorem next {between : σ} (h : Advances attempt offset (least + 1) state)
    (hfirst : attempt state (some between)) : Advances attempt offset least between := by
  intro count place next hless hmatches
  exact h (count + 1) place next (Nat.succ_lt_succ hless) (.next hfirst hmatches)

theorem moves {next : σ} (h : Advances attempt offset least state) (hleast : 1 < least)
    (hfirst : attempt state (some next)) : offset state < offset next :=
  h 0 state next hleast .none hfirst

/-- Before the first match there are none. -/
theorem of_le_one (hleast : least ≤ 1) : Advances attempt offset least state := by
  intro count place next hless
  omega

end Advances

/-! ## How loops end -/

namespace Loops

theorem unique (hdefinite : attempt.Definite) {count' : Nat} {stop' : σ}
    (h : Loops attempt offset count state stop) (h' : Loops attempt offset count' state stop') :
    count = count' ∧ stop = stop' := by
  induction h generalizing count' with
  | fail last =>
    cases h' with
    | fail => exact ⟨rfl, rfl⟩
    | stay last' => cases hdefinite _ _ _ last last'
    | next first' => cases hdefinite _ _ _ last first'
  | stay last stays =>
    cases h' with
    | fail last' => cases hdefinite _ _ _ last last'
    | stay last' =>
      cases hdefinite _ _ _ last last'
      exact ⟨rfl, rfl⟩
    | next first' moves' =>
      cases hdefinite _ _ _ last first'
      exact absurd moves' stays
  | next first moves others ih =>
    cases h' with
    | fail last' => cases hdefinite _ _ _ first last'
    | stay last' stays' =>
      cases hdefinite _ _ _ first last'
      exact absurd moves stays'
    | next first' _ others' =>
      cases hdefinite _ _ _ first first'
      obtain ⟨rfl, rfl⟩ := ih others'
      exact ⟨rfl, rfl⟩

/-- A loop only counts matches that follow each other. -/
theorem succession (h : Loops attempt offset count state stop) (hleast : least ≤ count) :
    ∃ place, Succession attempt least state place := by
  induction h generalizing least with
  | fail =>
    obtain rfl := Nat.le_zero.mp hleast
    exact ⟨_, .none⟩
  | stay last =>
    cases least with
    | zero => exact ⟨_, .none⟩
    | succ least =>
      obtain rfl : least = 0 := by omega
      exact ⟨_, .next last .none⟩
  | next first moves others ih =>
    cases least with
    | zero => exact ⟨_, .none⟩
    | succ least =>
      obtain ⟨place, hplace⟩ := ih (Nat.le_of_succ_le_succ hleast)
      exact ⟨place, .next first hplace⟩

/-- A loop that makes too few matches has made all there are, as long as they make progress. -/
theorem no_succession (hdefinite : attempt.Definite) (h : Loops attempt offset count state stop)
    (hadvances : Advances attempt offset least state) (hfew : count < least) (place : σ) :
    ¬ Succession attempt least state place := by
  induction h generalizing least with
  | fail last =>
    intro hmatches
    cases hmatches with
    | none => exact absurd hfew (Nat.lt_irrefl 0)
    | next first => cases hdefinite _ _ _ last first
  | stay last stays => exact fun _ ↦ stays (hadvances.moves hfew last)
  | next first moves others ih =>
    intro hmatches
    cases hmatches with
    | none => exact absurd hfew (Nat.not_lt_zero _)
    | next first' others' =>
      cases hdefinite _ _ _ first first'
      exact ih (hadvances.next first) (Nat.lt_of_succ_lt_succ hfew) others'

end Loops

/-! ## Loops and copies -/

namespace Loops

/-- After a match without progress a loop makes the same match once more. -/
theorem again (hrests : attempt.Rests offset) {next : σ} (hlast : attempt state (some next))
    (hstays : ¬ offset state < offset next) : Loops attempt offset 1 next next := by
  obtain rfl := hrests state next hlast hstays
  exact .stay hlast hstays

/-- Where the loop makes enough matches, the copies match and the loop after them ends alike. -/
theorem copies (hrests : attempt.Rests offset) (h : Loops attempt offset count state stop)
    (hleast : least ≤ count) : Copies attempt offset least state (some stop) := by
  induction h generalizing least with
  | fail last =>
    obtain rfl := Nat.le_zero.mp hleast
    exact .loop (.fail last)
  | stay last stays =>
    cases least with
    | zero => exact .loop (.stay last stays)
    | succ least =>
      obtain rfl : least = 0 := by omega
      exact .next last (.loop (.again hrests last stays))
  | next first moves others ih =>
    cases least with
    | zero => exact .loop (.next first moves others)
    | succ least => exact .next first (ih (Nat.le_of_succ_le_succ hleast))

/-- Where the loop makes too few matches that all make progress, one of the copies fails. -/
theorem copies_fail (h : Loops attempt offset count state stop)
    (hadvances : Advances attempt offset least state) (hfew : count < least) :
    Copies attempt offset least state none := by
  induction h generalizing least with
  | fail last =>
    obtain ⟨least, rfl⟩ := Nat.exists_eq_succ_of_ne_zero (Nat.ne_of_gt hfew)
    exact .fail last
  | stay last stays => exact absurd (hadvances.moves hfew last) stays
  | next first moves others ih =>
    obtain ⟨least, rfl⟩ := Nat.exists_eq_succ_of_ne_zero (Nat.ne_of_gt (Nat.zero_lt_of_lt hfew))
    exact .next first (ih (hadvances.next first) (Nat.lt_of_succ_lt_succ hfew))

end Loops

/-- What copies come to, a loop that counts comes to, as long as the matches before the last copy
make progress. -/
theorem Copies.counts (hdefinite : attempt.Definite) (hrests : attempt.Rests offset)
    (h : Copies attempt offset least state result)
    (hadvances : Advances attempt offset least state) :
    Counts attempt offset least state result := by
  induction h with
  | loop rest => exact ⟨_, _, rest, rfl⟩
  | fail last => exact ⟨0, _, .fail last, rfl⟩
  | @next least state next result first others ih =>
    obtain ⟨count, stop, hloops, rfl⟩ := ih (hadvances.next first)
    by_cases hmoves : offset state < offset next
    · exact ⟨count + 1, stop, .next first hmoves hloops, by simp only [Nat.succ_lt_succ_iff]⟩
    · have hlast : least = 0 := by
        by_contra hmore
        exact hmoves (hadvances.moves (by omega) first)
      obtain ⟨rfl, rfl⟩ := hloops.unique hdefinite (.again hrests first hmoves)
      exact ⟨1, _, .stay first hmoves, by simp [hlast]⟩

namespace Counts

theorem many (h : Counts attempt offset least state (some stop)) :
    ∃ count, Loops attempt offset count state stop ∧ least ≤ count := by
  obtain ⟨count, stop', hloops, hends⟩ := h
  by_cases hfew : count < least
  · rw [if_pos hfew] at hends
    cases hends
  · rw [if_neg hfew] at hends
    cases hends
    exact ⟨count, hloops, Nat.le_of_not_lt hfew⟩

theorem few (h : Counts attempt offset least state none) :
    ∃ count stop, Loops attempt offset count state stop ∧ count < least := by
  obtain ⟨count, stop, hloops, hends⟩ := h
  by_cases hfew : count < least
  · exact ⟨count, stop, hloops, hfew⟩
  · rw [if_neg hfew] at hends
    cases hends

/-- A match of a loop that counts is one of the copies. -/
theorem copies (hrests : attempt.Rests offset)
    (h : Counts attempt offset least state (some stop)) :
    Copies attempt offset least state (some stop) := by
  obtain ⟨count, hloops, hmany⟩ := h.many
  exact hloops.copies hrests hmany

/-- Where the matches before the last copy make progress, a loop that counts and the copies come to
the same. -/
theorem iff_copies (hdefinite : attempt.Definite) (hrests : attempt.Rests offset)
    (hadvances : Advances attempt offset least state) :
    Counts attempt offset least state result ↔ Copies attempt offset least state result := by
  constructor
  · intro hcounts
    cases result with
    | none =>
      obtain ⟨count, stop, hloops, hfew⟩ := hcounts.few
      exact hloops.copies_fail hadvances hfew
    | some stop => exact hcounts.copies hrests
  · exact fun hcopies ↦ hcopies.counts hdefinite hrests hadvances

end Counts

/-! ## Seeing less of the states -/

/-- Of the states nothing but `view` matters for what attempts come to. -/
structure Projects (attempt : Attempt σ) (view : σ → ρ) (attempt' : Attempt ρ) : Prop where
  down : ∀ {state result}, attempt state result → attempt' (view state) (result.map view)
  up : ∀ {state result'}, attempt' (view state) result' →
    ∃ result, attempt state result ∧ result.map view = result'

namespace Projects

variable {view : σ → ρ} {attempt' : Attempt ρ} {offset' : ρ → Nat} {result' : Option ρ}

theorem up_some (h : Projects attempt view attempt') {place : ρ}
    (hmatch : attempt' (view state) (some place)) :
    ∃ next, attempt state (some next) ∧ view next = place := by
  obtain ⟨result, hresult, hview⟩ := h.up hmatch
  obtain ⟨next, rfl, hnext⟩ := Option.map_eq_some_iff.mp hview
  exact ⟨next, hresult, hnext⟩

theorem succession (h : Projects attempt view attempt') {place : ρ}
    (hmatches : Succession attempt' count (view state) place) :
    ∃ stop, Succession attempt count state stop ∧ view stop = place := by
  generalize hstate : view state = start at hmatches
  induction hmatches generalizing state with
  | none => exact ⟨state, .none, hstate⟩
  | next first others ih =>
    rw [← hstate] at first
    obtain ⟨next, hfirst, hnext⟩ := h.up_some first
    obtain ⟨stop, hothers, hstop⟩ := ih hnext
    exact ⟨stop, .next hfirst hothers, hstop⟩

theorem advances (h : Projects attempt view attempt')
    (hadvances : Advances attempt (offset' ∘ view) least state) :
    Advances attempt' offset' least (view state) := by
  intro count place next hless hmatches hmatch
  obtain ⟨stop, hstop, rfl⟩ := h.succession hmatches
  obtain ⟨next, hnext, rfl⟩ := h.up_some hmatch
  exact hadvances count stop next hless hstop hnext

theorem loops (h : Projects attempt view attempt')
    (hloops : Loops attempt (offset' ∘ view) count state stop) :
    Loops attempt' offset' count (view state) (view stop) := by
  induction hloops with
  | fail last => exact .fail (h.down last)
  | stay last stays => exact .stay (h.down last) stays
  | next first moves _ ih => exact .next (h.down first) moves ih

theorem loops_up (h : Projects attempt view attempt') {place : ρ}
    (hloops : Loops attempt' offset' count (view state) place) :
    ∃ stop, Loops attempt (offset' ∘ view) count state stop ∧ view stop = place := by
  generalize hstate : view state = start at hloops
  induction hloops generalizing state with
  | fail last =>
    rw [← hstate] at last
    obtain ⟨result, hresult, hview⟩ := h.up last
    obtain rfl := Option.map_eq_none_iff.mp hview
    exact ⟨state, .fail hresult, hstate⟩
  | stay last stays =>
    rw [← hstate] at last stays
    obtain ⟨next, hnext, rfl⟩ := h.up_some last
    exact ⟨next, .stay hnext stays, rfl⟩
  | next first moves others ih =>
    rw [← hstate] at first moves
    obtain ⟨next, hnext, rfl⟩ := h.up_some first
    obtain ⟨stop, hothers, hstop⟩ := ih rfl
    exact ⟨stop, .next hnext moves hothers, hstop⟩

/-- A loop that counts comes to the same where less of the states is seen. -/
theorem counts_iff (h : Projects attempt view attempt') :
    (∃ result, Counts attempt (offset' ∘ view) least state result ∧ result.map view = result') ↔
      Counts attempt' offset' least (view state) result' := by
  constructor
  · rintro ⟨_, ⟨count, stop, hloops, rfl⟩, rfl⟩
    exact ⟨count, view stop, h.loops hloops, by split <;> rfl⟩
  · rintro ⟨count, place, hloops, rfl⟩
    obtain ⟨stop, hstop, rfl⟩ := h.loops_up hloops
    exact ⟨_, ⟨count, stop, hstop, rfl⟩, by split <;> rfl⟩

end Projects

end PegKit.Machine
