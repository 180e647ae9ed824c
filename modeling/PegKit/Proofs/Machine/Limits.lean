import PegKit.Parser
import PegKit.Proofs.Machine.Pairing

/-!
# What limits do to a parse

A run takes a number of evaluations and a depth of nesting. Limits that are enough for both leave
the run as it is, down to its trace; others cut it short with an error that says so.

The run is compared with one that has no budget and keeps a tally instead. Both go the same way as
long as the tally stays within the limits. Where it has gone beyond them, the limited run is over,
and however the other goes on, its tally stays beyond.
-/

namespace PegKit

/-! ## Tallies -/

/-- What a run takes. -/
@[ext]
structure Tally where
  /-- The evaluations made. -/
  evaluations : Nat
  /-- The most evaluations inside each other. -/
  nesting : Nat
  deriving DecidableEq, Repr

/-- With one more evaluation, the innermost of `depth`. -/
def Tally.enter (tally : Tally) (depth : Nat) : Tally :=
  ⟨tally.evaluations + 1, max tally.nesting depth⟩

namespace RunLimits

/-- The limits are enough for a run that takes so much. -/
structure Allow (limits : RunLimits) (tally : Tally) : Prop where
  fuel : ∀ fuel ∈ limits.execFuel, tally.evaluations ≤ fuel
  recursion : tally.nesting ≤ limits.recursionFuel

instance (limits : RunLimits) (tally : Tally) : Decidable (limits.Allow tally) :=
  decidable_of_iff ((∀ fuel ∈ limits.execFuel, tally.evaluations ≤ fuel) ∧
    tally.nesting ≤ limits.recursionFuel) ⟨fun h ↦ ⟨h.1, h.2⟩, fun h ↦ ⟨h.1, h.2⟩⟩

/-- Limits compare by both parts; to have no bound is the largest budget. -/
instance : LE RunLimits where
  le limits limits' := (∀ fuel' ∈ limits'.execFuel, ∃ fuel ∈ limits.execFuel, fuel ≤ fuel') ∧
    limits.recursionFuel ≤ limits'.recursionFuel

namespace Allow

variable {limits limits' : RunLimits} {tally : Tally}

theorem raised (h : limits.Allow tally) (hle : limits ≤ limits') : limits'.Allow tally := by
  refine ⟨fun fuel' hfuel' ↦ ?_, Nat.le_trans h.recursion hle.2⟩
  obtain ⟨fuel, hfuel, hless⟩ := hle.1 fuel' hfuel'
  exact Nat.le_trans (h.fuel fuel hfuel) hless

theorem of_enter {depth : Nat} (h : limits.Allow (tally.enter depth)) : limits.Allow tally :=
  ⟨fun fuel hfuel ↦ Nat.le_of_succ_le (h.fuel fuel hfuel),
    Nat.le_trans (Nat.le_max_left _ _) h.recursion⟩

end Allow

end RunLimits

/-- The result is not an error for want of a limit. -/
def Settled {α : Type} (result : Except RuntimeError α) : Prop :=
  ∀ error, result = .error error → ¬error.IsLimit

namespace Machine

variable {τ : Type}

/-! ## Runs with a tally -/

/-- The setting for a run that keeps a tally along with its trace. -/
def Setting.metered (setting : Setting τ) : Setting (τ × Tally) :=
  { setting with observe := fun (trace, tally) event ↦ (setting.observe trace event, tally) }

namespace Metered

/-- Counts an evaluation, the innermost of `depth`. -/
def enter (depth : Nat) : Work (τ × Tally) Unit :=
  modify fun store ↦ { store with trace := store.trace.map id (·.enter depth) }

/-- An operation inside `depth` evaluations, with at most `levels` more inside each other, itself
included. -/
def eval (setting : Setting τ) : Nat → Nat → Scoped.Evaluator (τ × Tally)
  | 0, depth, _, _, _ => do
    enter (depth + 1)
    throw .recursionLimitExceeded
  | levels + 1, depth, id, scope, cursor => do
    enter (depth + 1)
    Scoped.attempt setting.metered (eval setting levels (depth + 1)) id scope cursor

/-- A whole run with at most `levels` evaluations inside each other, and what it takes. -/
def run (setting : Setting τ) (levels : Nat) (trace : τ) (rule : RuleId) (consumeAll : Bool)
    (cursor : Cursor) : (Except RuntimeError Outcome × τ) × Tally :=
  let (result, store) := (Scoped.matchWith setting.metered (eval setting levels 0) rule consumeAll
    cursor).run.run ⟨#[], .empty, none, (trace, ⟨0, 0⟩)⟩
  ((result.map fun root ↦ ⟨store.nodes, root, store.failures⟩, store.trace.1), store.trace.2)

end Metered

/-- A whole run under `limits`. -/
def runWithin (setting : Setting τ) (limits : RunLimits) (trace : τ) (rule : RuleId)
    (consumeAll : Bool) (cursor : Cursor) : Except RuntimeError Outcome × τ :=
  run { setting with depthLimit := limits.recursionFuel } limits.execFuel trace rule consumeAll
    cursor

/-! ## The run with a tally beside the one with limits -/

/-- The first run keeps a tally, the second is under `limits`. While the tally is within them, what
is left of the budget is what the tally leaves. -/
def Pairing.limited (τ : Type) (limits : RunLimits) : Pairing (τ × Tally) τ where
  shift := 0
  meets account account' := limits.Allow account.2.2 ∧
    account'.1 = limits.execFuel.map (· - account.2.2.evaluations) ∧ account'.2 = account.2.1
  past account := ¬limits.Allow account.2.2

variable {limits : RunLimits}

theorem observe_limited {setting : Setting τ} {setting' : Setting τ}
    (hobserve : setting'.observe = setting.observe) (event : Event) :
    Paired (.limited τ limits) id (observe setting.metered event) (observe setting' event) := by
  refine .modify (fun _ hpast ↦ hpast) fun store store' hjoins ↦ ?_
  obtain ⟨hnodes, hfailures, hallow, hfuel, htrace⟩ := hjoins
  refine ⟨hnodes, hfailures, hallow, hfuel, ?_⟩
  change setting'.observe store'.trace event = setting.observe store.trace.1 event
  rw [hobserve, show store'.trace = store.trace.1 from htrace]

/-- An evaluation within the depth limit is counted on one side and paid for on the other. -/
theorem enter_limited {depth : Nat} (hdepth : depth < limits.recursionFuel) :
    Paired (.limited τ limits) id (Metered.enter (depth + 1)) spendFuel := by
  refine ⟨fun _ hpast hallow ↦ hpast hallow.of_enter, ?_⟩
  rintro ⟨nodes, failures, fuel, trace, tally⟩ ⟨nodes', failures', left, trace'⟩
    ⟨hnodes, hfailures, hallow, hleft, htrace⟩
  have hnesting : (tally.enter (depth + 1)).nesting ≤ limits.recursionFuel :=
    Nat.max_le.mpr ⟨hallow.recursion, hdepth⟩
  replace hleft : left = limits.execFuel.map (· - tally.evaluations) := hleft
  have hpaid (left' : Option Nat)
      (hfuel : ∀ fuel ∈ limits.execFuel, tally.evaluations + 1 ≤ fuel)
      (hleft' : left' = limits.execFuel.map (· - (tally.evaluations + 1))) :
      (Pairing.limited τ limits).Joins
        ⟨nodes, failures, fuel, trace, tally.enter (depth + 1)⟩
        ⟨nodes', failures', left', trace'⟩ :=
    ⟨hnodes, hfailures, ⟨hfuel, hnesting⟩, hleft', htrace⟩
  cases hbudget : limits.execFuel with
  | none =>
    obtain rfl : left = none := by simp [hleft, hbudget]
    exact @Pairing.Ends.ok _ _ _ _ _ id () _ _
      (hpaid none (by simp [hbudget]) (by simp [hbudget]))
  | some budget =>
    obtain rfl : left = some (budget - tally.evaluations) := by simp [hleft, hbudget]
    cases hrest : budget - tally.evaluations with
    | zero =>
      have hover : ¬limits.Allow (tally.enter (depth + 1)) := fun hallow' ↦
        Nat.not_succ_le_self _ (Nat.le_trans (hallow'.fuel budget hbudget)
          (Nat.sub_eq_zero_iff_le.mp hrest))
      exact .cut (.inl rfl) hover
    | succ rest =>
      have hspent : tally.evaluations + 1 ≤ budget := by omega
      exact @Pairing.Ends.ok _ _ _ _ _ id () _ _
        (hpaid (some rest) (by simpa [hbudget] using hspent) (by simp [hbudget]; omega))

/-- Beyond the depth limit the limited run ends, and the tally is beyond the limits for good. -/
theorem beyond_limited {depth : Nat} (hdepth : limits.recursionFuel ≤ depth)
    {rest : Work (τ × Tally) (Option Match)}
    (hpast : ∀ store, ¬limits.Allow store.trace.2 →
      ¬limits.Allow (rest.run.run store).2.trace.2) :
    Paired (.limited τ limits) (Pairing.limited τ limits).answer
      (do Metered.enter (depth + 1); rest)
      (do spendFuel; throw .recursionLimitExceeded) := by
  have hover (store : Store (τ × Tally)) : ¬limits.Allow
      ((do Metered.enter (depth + 1); rest : Work (τ × Tally) (Option Match)).run.run
        store).2.trace.2 := by
    refine hpast _ fun hallow ↦ ?_
    have hnesting : depth + 1 ≤ limits.recursionFuel :=
      Nat.le_trans (Nat.le_max_right _ _) hallow.recursion
    exact Nat.not_succ_le_self _ (Nat.le_trans hnesting hdepth)
  refine ⟨fun store _ ↦ hover store, fun store store' _ ↦ ?_⟩
  have hends : ∃ error store'', RuntimeError.IsLimit error ∧
      (do spendFuel; throw .recursionLimitExceeded : Work τ (Option Match)).run.run store' =
        (.error error, store'') := by
    obtain ⟨nodes, failures, fuel, trace⟩ := store'
    match fuel with
    | none => exact ⟨_, _, .inr rfl, rfl⟩
    | some 0 => exact ⟨_, _, .inl rfl, rfl⟩
    | some (fuel + 1) => exact ⟨_, _, .inr rfl, rfl⟩
  obtain ⟨error, store'', hlimit, hrun⟩ := hends
  rw [hrun]
  exact .cut hlimit (hover store)

theorem alongside_limited (limits : RunLimits) {setting setting' : Setting τ}
    (h : setting' = { setting with depthLimit := setting'.depthLimit }) :
    Alongside (.limited τ limits) setting.metered setting' := by
  have hprogram : setting'.program = setting.metered.program := by rw [h]; rfl
  have hinput : setting'.input = setting.metered.input := by rw [h]; rfl
  have hpredicates : setting'.predicates = setting.metered.predicates := by rw [h]; rfl
  have hobserve : setting'.observe = setting.observe := by rw [h]
  exact {
    program := hprogram
    observed := fun event _ hevent ↦ by
      rw [hevent rfl]
      exact observe_limited hobserve event
    consulted := fun _ visible cursor ↦
      consult_paired rfl hprogram hinput (by rw [hpredicates]) (observe_limited hobserve) visible
        cursor }

/-- With at least as many levels on one side as the limits allow on the other, evaluations keep the
two runs together. -/
theorem eval_limited {setting setting' : Setting τ}
    (h : Alongside (.limited τ limits) setting.metered setting') {levels depth : Nat}
    (hlevels : limits.recursionFuel ≤ levels + depth) :
    EvalPaired (.limited τ limits) (Metered.eval setting levels depth)
      (Scoped.eval setting' (limits.recursionFuel - depth)) := by
  induction levels generalizing depth with
  | zero =>
    intro id scope cursor
    rw [Nat.sub_eq_zero_of_le (by omega)]
    exact beyond_limited (by omega) fun _ hpast ↦ hpast
  | succ levels ih =>
    have hlevels' : limits.recursionFuel ≤ levels + (depth + 1) := by omega
    have hparts := attempt_paired h (ih hlevels')
    intro id scope cursor
    rcases Nat.lt_or_ge depth limits.recursionFuel with hless | hbeyond
    · obtain ⟨left, hleft⟩ : ∃ left, limits.recursionFuel - depth = left + 1 :=
        ⟨limits.recursionFuel - depth - 1, by omega⟩
      rw [show limits.recursionFuel - (depth + 1) = left by omega] at hparts
      rw [hleft, Scoped.eval_succ]
      exact (enter_limited hless).bind fun _ ↦ hparts id scope cursor
    · rw [Nat.sub_eq_zero_of_le hbeyond]
      exact beyond_limited hbeyond (hparts id scope cursor).past

/-- A run under limits is the run with a tally where they are enough for it, and ends with an error
that says so where they are not. -/
theorem runWithin_metered (setting : Setting τ) {levels : Nat}
    (hlevels : limits.recursionFuel ≤ levels) (trace : τ) (rule : RuleId) (consumeAll : Bool)
    (cursor : Cursor) :
    let metered := Metered.run setting levels trace rule consumeAll cursor
    let limited := runWithin setting limits trace rule consumeAll cursor
    (limits.Allow metered.2 ∧ limited = metered.1) ∨
      (¬limits.Allow metered.2 ∧ ∃ error, RuntimeError.IsLimit error ∧
        limited.1 = .error error) := by
  let within : Setting τ := { setting with depthLimit := limits.recursionFuel }
  have hsettings : Alongside (.limited τ limits) setting.metered within :=
    alongside_limited limits rfl
  have heval : EvalPaired (.limited τ limits) (Metered.eval setting levels 0)
      (Scoped.eval within limits.recursionFuel) := eval_limited hsettings hlevels
  have hends := (matchWith_paired hsettings heval rule consumeAll cursor).ends ⟨#[], .empty, none, (trace, ⟨0, 0⟩)⟩
      ⟨#[], .empty, limits.execFuel, trace⟩
      (.start _ ⟨⟨fun _ _ ↦ Nat.zero_le _, Nat.zero_le _⟩, by simp, rfl⟩)
  rw [show cursor.shift (Pairing.limited τ limits).shift = cursor from rfl] at hends
  dsimp only
  rw [runWithin, run_eq, Scoped.matchRule_eq, Metered.run]
  dsimp only
  generalize (Scoped.matchWith setting.metered _ _ _ _).run.run _ = outcome at hends ⊢
  generalize (Scoped.matchWith _ (Scoped.eval _ _) _ _ _).run.run _ = outcome' at hends ⊢
  cases hends with
  | @ok found store store' hjoins =>
    obtain ⟨hnodes, hfailures, hallow, _, htrace⟩ := hjoins
    refine .inl ⟨hallow, Prod.ext ?_ htrace⟩
    have hnodes' : store'.nodes = store.nodes := hnodes.trans (Arena.shift_zero _)
    have hfailures' : store'.failures = store.failures := hfailures.trans (FailureSet.shift_zero _)
    cases found <;> simp [Except.map, hnodes', hfailures', Pairing.limited]
  | error hjoins =>
    obtain ⟨_, _, hallow, _, htrace⟩ := hjoins
    exact .inl ⟨hallow, Prod.ext rfl htrace⟩
  | cut hlimit hpast => exact .inr ⟨hpast, _, hlimit, rfl⟩

/-! ## Which limits are enough -/

section Within

variable {setting : Setting τ} {trace : τ} {rule : RuleId} {consumeAll : Bool} {cursor : Cursor}

/-- A run that does not end for want of a limit is the run with a tally. -/
theorem metered_of_settled {levels : Nat} (hlevels : limits.recursionFuel ≤ levels)
    (hsettled : Settled (runWithin setting limits trace rule consumeAll cursor).1) :
    limits.Allow (Metered.run setting levels trace rule consumeAll cursor).2 ∧
      runWithin setting limits trace rule consumeAll cursor =
        (Metered.run setting levels trace rule consumeAll cursor).1 := by
  rcases runWithin_metered setting hlevels trace rule consumeAll cursor with
    hwithin | ⟨_, error, hlimit, hresult⟩
  · exact hwithin
  · exact absurd hlimit (hsettled error hresult)

theorem tally_le {levels levels' : Nat} {tally tally' : Tally}
    (htally : (Metered.run setting levels trace rule consumeAll cursor).2 = tally)
    (htally' : (Metered.run setting levels' trace rule consumeAll cursor).2 = tally')
    (hlevels : limits.recursionFuel ≤ levels) (hlevels' : limits.recursionFuel ≤ levels')
    (hsettled : Settled (runWithin setting limits trace rule consumeAll cursor).1) :
    tally'.evaluations ≤ tally.evaluations ∧ tally'.nesting ≤ tally.nesting := by
  obtain ⟨hallow, hrun⟩ := metered_of_settled hlevels hsettled
  rw [htally] at hallow
  -- The limits that are just enough for one tally settle the run, so they are for the other.
  let least : RunLimits := ⟨some tally.evaluations, tally.nesting⟩
  have hleast : least.Allow tally := ⟨by simp [least], Nat.le_refl _⟩
  have hnesting : least.recursionFuel ≤ limits.recursionFuel := hallow.recursion
  have hsame : runWithin setting least trace rule consumeAll cursor =
      runWithin setting limits trace rule consumeAll cursor := by
    rcases runWithin_metered setting (Nat.le_trans hnesting hlevels) trace rule consumeAll cursor
      with ⟨_, hleast'⟩ | ⟨hover, _⟩
    · rw [hleast', hrun]
    · exact absurd (htally ▸ hleast) hover
  have hallow' := (metered_of_settled (Nat.le_trans hnesting hlevels') (hsame ▸ hsettled)).1
  rw [htally'] at hallow'
  exact ⟨hallow'.fuel _ rfl, hallow'.recursion⟩

/-- With more levels, a run that does not need them takes the same. -/
theorem tally_stable {levels : Nat} (hlevels : limits.recursionFuel ≤ levels)
    (hsettled : Settled (runWithin setting limits trace rule consumeAll cursor).1) :
    (Metered.run setting levels trace rule consumeAll cursor).2 =
      (Metered.run setting limits.recursionFuel trace rule consumeAll cursor).2 := by
  have hle := tally_le rfl rfl (Nat.le_refl _) hlevels hsettled
  have hge := tally_le rfl rfl hlevels (Nat.le_refl _) hsettled
  exact Tally.ext (Nat.le_antisymm hle.1 hge.1) (Nat.le_antisymm hle.2 hge.2)

/-- Where a run does not end for want of a limit, any other limits either are enough for what it
takes and leave it as it is, or are not and cut it short. -/
theorem runWithin_settled
    (hsettled : Settled (runWithin setting limits trace rule consumeAll cursor).1)
    (limits' : RunLimits) :
    let tally := (Metered.run setting limits.recursionFuel trace rule consumeAll cursor).2
    (limits'.Allow tally ∧ runWithin setting limits' trace rule consumeAll cursor =
      runWithin setting limits trace rule consumeAll cursor) ∨
    (¬limits'.Allow tally ∧ ∃ error, RuntimeError.IsLimit error ∧
      (runWithin setting limits' trace rule consumeAll cursor).1 = .error error) := by
  intro tally
  have hlevels := Nat.le_max_left limits.recursionFuel limits'.recursionFuel
  rcases runWithin_metered setting (Nat.le_max_right limits.recursionFuel limits'.recursionFuel)
    trace rule consumeAll cursor with ⟨hallow, hrun⟩ | ⟨hover, hcut⟩
  · rw [tally_stable hlevels hsettled] at hallow
    exact .inl ⟨hallow, hrun.trans (metered_of_settled hlevels hsettled).2.symm⟩
  · rw [tally_stable hlevels hsettled] at hover
    exact .inr ⟨hover, hcut⟩

end Within

end Machine

namespace Parser

/-- What the run of a parse takes; nothing where the parse has no place to start from. -/
def tally {τ : Type} (parser : Parser) (input : String) (options : ParseOptions)
    (observe : τ → Machine.Event → τ) (trace : τ) : Tally :=
  match parser.startOf input.toList options with
  | .error _ => ⟨0, 0⟩
  | .ok (rule, cursor) =>
    (Machine.Metered.run (parser.setting input.toList observe) parser.limits.recursionFuel trace
      rule (options.consumeAll.getD parser.consumeAll) cursor).2

section RunFrom

variable {τ : Type} {parser : Parser} {input : List Char} {consumeAll : Bool} {rule : RuleId}
  {cursor : Cursor} {observe : τ → Machine.Event → τ} {trace : τ}

theorem runFrom_cut {limits : RunLimits} {error : RuntimeError}
    (h : (Machine.runWithin (parser.setting input observe) limits trace rule consumeAll cursor).1 =
      .error error) :
    ({ parser with limits }.runFrom input consumeAll rule cursor observe trace).result =
      .error error := by
  have hrun : Machine.run ({ parser with limits }.setting input observe) limits.execFuel trace rule
      consumeAll cursor =
      Machine.runWithin (parser.setting input observe) limits trace rule consumeAll cursor := rfl
  unfold runFrom
  dsimp only
  rw [hrun]
  generalize Machine.runWithin _ _ _ _ _ _ = outcome at h ⊢
  obtain ⟨result, trace⟩ := outcome
  obtain rfl : result = .error error := h
  rfl

theorem runFrom_same {limits : RunLimits}
    (h : Machine.runWithin (parser.setting input observe) limits trace rule consumeAll cursor =
      Machine.runWithin (parser.setting input observe) parser.limits trace rule consumeAll cursor) :
    let outcome := parser.runFrom input consumeAll rule cursor observe trace
    { parser with limits }.runFrom input consumeAll rule cursor observe trace =
      { outcome with parser := { outcome.parser with limits } } := by
  have hrun : Machine.run ({ parser with limits }.setting input observe) limits.execFuel trace rule
      consumeAll cursor =
      Machine.run (parser.setting input observe) parser.limits.execFuel trace rule consumeAll
        cursor := h
  dsimp only
  unfold runFrom
  dsimp only
  rw [hrun]
  generalize Machine.run _ _ _ _ _ _ = outcome
  obtain ⟨_ | _, _⟩ := outcome <;> rfl

end RunFrom

/-- Limits only turn results into errors that say so. Where a parse ends in any other way, larger
limits leave it as it is, trace and all. Any limits do so just when they are enough for the number
of evaluations and the depth of nesting that it takes, and cut it short when they are not. -/
theorem limits_only_cut {τ : Type} (parser : Parser) (input : String) (options : ParseOptions)
    (observe : τ → Machine.Event → τ) (trace : τ)
    (hsettled : Settled (parser.parseWith input options observe trace).result)
    (limits : RunLimits) :
    let outcome := parser.parseWith input options observe trace
    let same := { outcome with parser := { outcome.parser with limits } }
    let limited := { parser with limits }.parseWith input options observe trace
    let tally := parser.tally input options observe trace
    (parser.limits ≤ limits → limited = same) ∧ (limited = same ↔ limits.Allow tally) ∧
      (¬limits.Allow tally → ∃ error, RuntimeError.IsLimit error ∧
        limited.result = .error error) := by
  unfold parseWith at hsettled ⊢
  unfold tally
  have hstart : { parser with limits }.startOf input.toList options =
      parser.startOf input.toList options := rfl
  rw [hstart]
  cases hfound : parser.startOf input.toList options with
  | error error =>
    have hnothing : limits.Allow ⟨0, 0⟩ := ⟨fun _ _ ↦ Nat.zero_le _, Nat.zero_le _⟩
    exact ⟨fun _ ↦ rfl, iff_of_true rfl hnothing, fun hover ↦ absurd hnothing hover⟩
  | ok found =>
    obtain ⟨rule, cursor⟩ := found
    rw [hfound] at hsettled
    have hrun : Settled (Machine.runWithin (parser.setting input.toList observe) parser.limits trace
        rule (options.consumeAll.getD parser.consumeAll) cursor).1 :=
      fun error herror ↦ hsettled error (runFrom_cut herror)
    have hallow := (Machine.metered_of_settled (Nat.le_refl _) hrun).1
    dsimp only
    rcases Machine.runWithin_settled hrun limits with
      ⟨henough, hwithin⟩ | ⟨hover, error, hlimit, hcut⟩
    · have hsame := runFrom_same hwithin
      exact ⟨fun _ ↦ hsame, iff_of_true hsame henough, fun hover ↦ absurd henough hover⟩
    · have hcut := runFrom_cut hcut
      refine ⟨fun hle ↦ absurd (hallow.raised hle) hover, iff_of_false (fun hsame ↦ ?_) hover,
        fun _ ↦ ⟨error, hlimit, hcut⟩⟩
      rw [hsame] at hcut
      exact hsettled error hcut hlimit

/-- An `x` in any number of parentheses, within narrow limits. -/
def enclosingParser : Parser :=
  let ops := #[.terminal "(", .call ⟨0⟩, .terminal ")", .sequence [⟨0⟩, ⟨1⟩, ⟨2⟩], .terminal "x",
    .choice [⟨3⟩, ⟨4⟩]]
  { Parser.ofProgram ⟨"enclosing", [], ops, #[⟨"start", ⟨5⟩⟩], .empty⟩ with limits := ⟨some 10, 8⟩ }

theorem limits_only_cut_enclosing :
    Settled (enclosingParser.parseWith "(x)" {} (fun _ _ ↦ ()) ()).result ∧
      enclosingParser.tally "(x)" {} (fun _ _ ↦ ()) () = ⟨9, 6⟩ ∧
      ∃ error, RuntimeError.IsLimit error ∧ ({ enclosingParser with limits := ⟨some 8, 6⟩ }.parseWith
        "(x)" {} (fun _ _ ↦ ()) ()).result = .error error := by
  have hmatch : (enclosingParser.parseWith "(x)" {} (fun _ _ ↦ ()) ()).result.toOption.isSome =
      true := by decide +kernel
  have htally : enclosingParser.tally "(x)" {} (fun _ _ ↦ ()) () = ⟨9, 6⟩ := by decide +kernel
  have hsettled : Settled (enclosingParser.parseWith "(x)" {} (fun _ _ ↦ ()) ()).result := by
    intro error herror
    rw [herror] at hmatch
    cases hmatch
  obtain ⟨_, _, hcut⟩ :=
    limits_only_cut enclosingParser "(x)" {} (fun _ _ ↦ ()) () hsettled ⟨some 8, 6⟩
  rw [htally] at hcut
  exact ⟨hsettled, htally, hcut (by decide)⟩

end Parser

end PegKit
