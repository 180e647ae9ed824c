import Mathlib.Data.List.Induction
import PegKit.Cst.Production

/-!
# What reading asks of its limits

Reading looks at its limits in two places: where a token is consumed, and where a level of nesting
begins. What it asks for there makes a list of tolls, one after the other, that does not depend on
the limits. A reading without limits pays them all; any other goes the same way up to the first toll
that its limits do not cover, and ends there.
-/

namespace PegKit.Cst

/-! ## Tolls -/

/-- What reading asks of its limits. -/
inductive Toll
  /-- One more token. -/
  | token
  /-- One more level of nesting, the innermost of `depth`. -/
  | level (depth : Nat)
  deriving DecidableEq, Repr

namespace Toll

/-- The same toll inside one more level. -/
def deepen : Toll → Toll
  | .token => .token
  | .level depth => .level (depth + 1)

/-- The number of levels asked for. -/
def depth : Toll → Nat
  | .token => 0
  | .level depth => depth

/-- What is left of the fuel after a toll, where there are `levels` levels. -/
def pay (levels : Nat) (fuel : Option Nat) : Toll → Except Fault (Option Nat)
  | .token => if fuel = some 0 then throw .execFuelExhausted else return fuel.map (· - 1)
  | .level depth => if depth ≤ levels then return fuel else throw .recursionLimitExceeded

/-- What is left of the fuel after tolls. -/
def payAll (levels : Nat) (fuel : Option Nat) (tolls : List Toll) : Except Fault (Option Nat) :=
  tolls.foldlM (pay levels) fuel

theorem payAll_append (levels : Nat) (fuel : Option Nat) (tolls more : List Toll) :
    payAll levels fuel (tolls ++ more) =
      payAll levels fuel tolls >>= fun left ↦ payAll levels left more :=
  List.foldlM_append

/-- The tokens asked for. -/
def tokens (tolls : List Toll) : Nat := tolls.count .token

/-- The deepest nesting asked for. -/
def deepest (tolls : List Toll) : Nat := (tolls.map depth).foldr max 0

/-- What reading ends with at a toll that is too much. -/
def fault : Toll → Fault
  | .token => .execFuelExhausted
  | .level _ => .recursionLimitExceeded

@[simp]
theorem tokens_append (tolls more : List Toll) :
    tokens (tolls ++ more) = tokens tolls + tokens more := List.count_append

@[simp]
theorem tokens_token : tokens [.token] = 1 := rfl

@[simp]
theorem tokens_level (depth : Nat) : tokens [.level depth] = 0 := rfl

theorem deepest_append (tolls more : List Toll) :
    deepest (tolls ++ more) = max (deepest tolls) (deepest more) := by
  induction tolls with
  | nil => exact (Nat.zero_max _).symm
  | cons first rest ih =>
    calc
      deepest (first :: (rest ++ more)) = max first.depth (deepest (rest ++ more)) := rfl
      _ = max first.depth (max (deepest rest) (deepest more)) := by rw [ih]
      _ = max (max first.depth (deepest rest)) (deepest more) := (Nat.max_assoc _ _ _).symm

theorem deepest_singleton (toll : Toll) : deepest [toll] = toll.depth := Nat.max_zero _

theorem pay_deepen (levels : Nat) (fuel : Option Nat) (toll : Toll) :
    pay (levels + 1) fuel toll.deepen = pay levels fuel toll := by
  cases toll with
  | token => rfl
  | level depth => simp [pay, deepen]

theorem payAll_deepen (levels : Nat) (fuel : Option Nat) (tolls : List Toll) :
    payAll (levels + 1) fuel (tolls.map deepen) = payAll levels fuel tolls := by
  unfold payAll
  rw [List.foldlM_map]
  congr 1
  funext fuel toll
  exact pay_deepen levels fuel toll

theorem tokens_deepen (tolls : List Toll) : tokens (tolls.map deepen) = tokens tolls := by
  induction tolls with
  | nil => rfl
  | cons toll rest ih => cases toll <;> simp_all [tokens, deepen]

/-- What a level asks for goes one deeper than what is inside it. -/
theorem deepest_deepen (tolls : List Toll) :
    deepest (.level 1 :: tolls.map deepen) = deepest tolls + 1 := by
  induction tolls with
  | nil => rfl
  | cons toll rest ih =>
    calc
      deepest (.level 1 :: (toll :: rest).map deepen) =
          max toll.deepen.depth (deepest (.level 1 :: rest.map deepen)) := Nat.max_left_comm _ _ _
      _ = max toll.deepen.depth (deepest rest + 1) := by rw [ih]
      _ = max toll.depth (deepest rest) + 1 := by
        cases toll with
        | token => simp [deepen, depth]
        | level depth => exact Nat.succ_max_succ depth (deepest rest)

end Toll

/-! ## Limits that cover tolls -/

namespace Limits

/-- The limits are enough for the tolls. -/
structure Cover (limits : Limits) (tolls : List Toll) : Prop where
  tokens : ∀ fuel ∈ limits.execFuel, Toll.tokens tolls ≤ fuel
  nesting : ∀ levels ∈ limits.recursionFuel, Toll.deepest tolls ≤ levels

variable {limits : Limits} {tolls : List Toll}

/-- Limits compare by both parts; to have none is the largest. -/
instance : LE Limits where
  le limits limits' := (∀ fuel' ∈ limits'.execFuel, ∃ fuel ∈ limits.execFuel, fuel ≤ fuel') ∧
    ∀ levels' ∈ limits'.recursionFuel, ∃ levels ∈ limits.recursionFuel, levels ≤ levels'

theorem Cover.raised {limits' : Limits} (h : limits.Cover tolls) (hle : limits ≤ limits') :
    limits'.Cover tolls := by
  refine ⟨fun fuel' hfuel' ↦ ?_, fun levels' hlevels' ↦ ?_⟩
  · obtain ⟨fuel, hfuel, hless⟩ := hle.1 fuel' hfuel'
    exact Nat.le_trans (h.tokens fuel hfuel) hless
  · obtain ⟨levels, hlevels, hless⟩ := hle.2 levels' hlevels'
    exact Nat.le_trans (h.nesting levels hlevels) hless

theorem Cover.of_append {more : List Toll} (h : limits.Cover (tolls ++ more)) :
    limits.Cover tolls := by
  refine ⟨fun fuel hfuel ↦ ?_, fun levels hlevels ↦ ?_⟩
  · have htokens := h.tokens fuel hfuel
    rw [Toll.tokens_append] at htokens
    exact Nat.le_of_add_right_le htokens
  · have hnesting := h.nesting levels hlevels
    rw [Toll.deepest_append] at hnesting
    exact (Nat.max_le.mp hnesting).1

/-- Whatever comes after a toll that is too much, the tolls are not covered. -/
theorem not_cover_append {toll : Toll} (h : ¬limits.Cover (tolls ++ [toll])) (after : List Toll) :
    ¬limits.Cover (tolls ++ toll :: after) := by
  rw [List.append_cons]
  exact fun hcover ↦ h hcover.of_append

theorem cover_nil : limits.Cover [] := ⟨fun _ _ ↦ Nat.zero_le _, fun _ _ ↦ Nat.zero_le _⟩

/-- One more token is covered when there is one left. -/
theorem cover_token (h : limits.Cover tolls) : limits.Cover (tolls ++ [.token]) ↔
    ∀ fuel ∈ limits.execFuel, Toll.tokens tolls < fuel := by
  constructor
  · intro hmore fuel hfuel
    have htokens := hmore.tokens fuel hfuel
    rwa [Toll.tokens_append, Toll.tokens_token] at htokens
  · intro hleft
    refine ⟨fun fuel hfuel ↦ ?_, fun levels hlevels ↦ ?_⟩
    · rw [Toll.tokens_append, Toll.tokens_token]
      exact hleft fuel hfuel
    · rw [Toll.deepest_append, Toll.deepest_singleton]
      exact Nat.max_le.mpr ⟨h.nesting levels hlevels, Nat.zero_le levels⟩

/-- One more level is covered when it is no deeper than allowed. -/
theorem cover_level (h : limits.Cover tolls) {depth : Nat} :
    limits.Cover (tolls ++ [.level depth]) ↔ ∀ levels ∈ limits.recursionFuel, depth ≤ levels := by
  constructor
  · intro hmore levels hlevels
    have hnesting := hmore.nesting levels hlevels
    rw [Toll.deepest_append, Toll.deepest_singleton] at hnesting
    exact (Nat.max_le.mp hnesting).2
  · intro hdepth
    refine ⟨fun fuel hfuel ↦ ?_, fun levels hlevels ↦ ?_⟩
    · rw [Toll.tokens_append, Toll.tokens_level]
      exact h.tokens fuel hfuel
    · rw [Toll.deepest_append, Toll.deepest_singleton]
      exact Nat.max_le.mpr ⟨h.nesting levels hlevels, hdepth levels hlevels⟩

/-- After tolls that are covered, one more is paid just when it is covered too. -/
theorem pay_settles {most : Nat} {toll : Toll} (h : limits.Cover tolls)
    (hmost : toll.depth ≤ most) :
    limits.Cover (tolls ++ [toll]) ∧ Toll.pay (limits.recursionFuel.getD most)
        (limits.execFuel.map (· - Toll.tokens tolls)) toll =
          .ok (limits.execFuel.map (· - Toll.tokens (tolls ++ [toll]))) ∨
      ¬limits.Cover (tolls ++ [toll]) ∧ Toll.pay (limits.recursionFuel.getD most)
        (limits.execFuel.map (· - Toll.tokens tolls)) toll = .error toll.fault := by
  rw [Toll.tokens_append]
  cases toll with
  | token =>
    rw [cover_token h, Toll.tokens_token]
    cases limits.execFuel with
    | none => exact .inl ⟨by simp, rfl⟩
    | some fuel =>
      by_cases hleft : Toll.tokens tolls < fuel
      · have hsome : some (fuel - Toll.tokens tolls) ≠ some 0 := by
          simpa using Nat.sub_ne_zero_of_lt hleft
        exact .inl ⟨by simpa using hleft, if_neg hsome⟩
      · have hnone : some (fuel - Toll.tokens tolls) = some 0 := by
          simpa [Nat.sub_eq_zero_iff_le] using hleft
        exact .inr ⟨by simpa using hleft, if_pos hnone⟩
  | level depth =>
    rw [cover_level h]
    cases limits.recursionFuel with
    | none => exact .inl ⟨by simp, if_pos hmost⟩
    | some levels =>
      by_cases hdepth : depth ≤ levels
      · exact .inl ⟨by simpa using hdepth, if_pos hdepth⟩
      · exact .inr ⟨by simpa using hdepth, if_neg hdepth⟩

/-- Limits that cover all tolls pay them, and others fail at the first that they do not cover. -/
theorem payAll_settles (limits : Limits) {most : Nat} (h : Toll.deepest tolls ≤ most) :
    limits.Cover tolls ∧ Toll.payAll (limits.recursionFuel.getD most) limits.execFuel tolls =
        .ok (limits.execFuel.map (· - Toll.tokens tolls)) ∨
      ∃ before toll after, tolls = before ++ toll :: after ∧ limits.Cover before ∧
        ¬limits.Cover (before ++ [toll]) ∧
        Toll.payAll (limits.recursionFuel.getD most) limits.execFuel tolls = .error toll.fault := by
  induction tolls using List.reverseRecOn with
  | nil => exact .inl ⟨cover_nil, by cases limits.execFuel <;> rfl⟩
  | append_singleton tolls toll ih =>
    rw [Toll.deepest_append, Toll.deepest_singleton, Nat.max_le] at h
    rw [Toll.payAll_append]
    rcases ih h.1 with ⟨hcover, hpaid⟩ | ⟨before, first, after, rfl, hbefore, hfirst, hfail⟩
    · have hlast : Toll.payAll (limits.recursionFuel.getD most) limits.execFuel tolls >>=
          (fun left ↦ Toll.payAll (limits.recursionFuel.getD most) left [toll]) =
          Toll.pay (limits.recursionFuel.getD most)
            (limits.execFuel.map (· - Toll.tokens tolls)) toll := by
        rw [hpaid]
        exact bind_pure (Toll.pay _ _ toll)
      rw [hlast]
      rcases pay_settles hcover h.2 with hpays | ⟨hover, hfails⟩
      · exact .inl hpays
      · exact .inr ⟨tolls, toll, [], rfl, hcover, hover, hfails⟩
    · refine .inr ⟨before, first, after ++ [toll], by simp, hbefore, hfirst, ?_⟩
      rw [hfail]
      rfl

end Limits

end PegKit.Cst
