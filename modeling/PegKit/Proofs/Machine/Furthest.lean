import Mathlib.Data.List.Induction
import PegKit.Proofs.Machine.Failures

/-!
# The report tells the furthest failures

Failures are recorded one by one, with those before the furthest place forgotten and repetitions
left out. What is reported in the end is determined by the failed attempts of the run alone: the
last place where one of them was made, and what was expected there, each text once.
-/

namespace PegKit

open Machine (Miss)
open Text (positionOf)

/-! ## Lists without repetitions -/

section Distinct

variable {α β : Type} [BEq α] [LawfulBEq α] [BEq β] [LawfulBEq β]

theorem eraseDups_concat_of_mem {xs : List α} {x : α} (h : x ∈ xs) :
    (xs ++ [x]).eraseDups = xs.eraseDups := by
  simp [List.eraseDups_append, List.removeAll, h]

theorem eraseDups_concat_of_not_mem {xs : List α} {x : α} (h : x ∉ xs) :
    (xs ++ [x]).eraseDups = xs.eraseDups ++ [x] := by
  simp [List.eraseDups_append, List.removeAll, List.eraseDups_cons, h]

/-- Repetitions may be left out before a function is applied. -/
theorem eraseDups_map_eraseDups (f : α → β) (xs : List α) :
    (xs.eraseDups.map f).eraseDups = (xs.map f).eraseDups := by
  induction xs using List.reverseRecOn with
  | nil => rfl
  | append_singleton xs x ih =>
    rw [List.map_append, List.map_singleton]
    by_cases hknown : x ∈ xs
    · rw [eraseDups_concat_of_mem hknown, eraseDups_concat_of_mem (List.mem_map_of_mem hknown), ih]
    · rw [eraseDups_concat_of_not_mem hknown, List.map_append, List.map_singleton]
      have hmember : f x ∈ xs.eraseDups.map f ↔ f x ∈ xs.map f := by simp
      by_cases himage : f x ∈ xs.map f
      · rw [eraseDups_concat_of_mem himage, eraseDups_concat_of_mem (hmember.mpr himage), ih]
      · rw [eraseDups_concat_of_not_mem himage,
          eraseDups_concat_of_not_mem (mt hmember.mp himage), ih]

end Distinct

theorem FailureReport.distinct_eq_eraseDups (texts : List String) :
    distinct texts = texts.eraseDups := by
  induction texts using List.reverseRecOn with
  | nil => rfl
  | append_singleton texts text ih =>
    rw [distinct] at ih ⊢
    rw [List.foldl_concat, ih]
    by_cases hknown : text ∈ texts
    · simp [eraseDups_concat_of_mem, hknown]
    · simp [eraseDups_concat_of_not_mem, hknown]

/-! ## Recording -/

/-- What was expected at byte `offset` by the attempts `misses`, in order. -/
def Machine.expectedAt (misses : List Miss) (offset : Nat) : List Expected :=
  (misses.filter (·.offset == offset)).map (·.expected)

namespace FailureSet

open Machine (expectedAt)

theorem add_eraseDups (index : Option Nat) (expected : List Expected) (last : Expected) :
    add ⟨index, expected.eraseDups⟩ last = ⟨index, (expected ++ [last]).eraseDups⟩ := by
  by_cases hknown : last ∈ expected
  · simp [add, eraseDups_concat_of_mem, hknown]
  · simp [add, eraseDups_concat_of_not_mem, hknown]

theorem furthest_concat {misses : List Miss} {furthest : Nat}
    (h : (misses.map (·.offset)).max? = some furthest) (miss : Miss) :
    ((misses ++ [miss]).map (·.offset)).max? = some (max furthest miss.offset) := by
  obtain ⟨hreached, hbound⟩ := List.max?_eq_some_iff.mp h
  rw [List.max?_eq_some_iff, List.map_append, List.map_singleton]
  constructor
  · rcases Nat.le_total furthest miss.offset with hle | hle
    · simp [hle]
    · rw [Nat.max_eq_left hle]
      exact List.mem_append_left _ hreached
  · intro offset hoffset
    rcases List.mem_append.mp hoffset with hbefore | hlast
    · exact Nat.le_trans (hbound offset hbefore) (Nat.le_max_left _ _)
    · rw [List.mem_singleton.mp hlast]
      exact Nat.le_max_right _ _

/-- What is left after all attempts: what was expected at the furthest place. -/
theorem recordAll_empty {misses : List Miss} {furthest : Nat}
    (h : (misses.map (·.offset)).max? = some furthest) :
    empty.recordAll misses = ⟨some furthest, (expectedAt misses furthest).eraseDups⟩ := by
  induction misses using List.reverseRecOn generalizing furthest with
  | nil => cases h
  | append_singleton misses miss ih =>
    rw [recordAll_concat]
    cases hmax : (misses.map (·.offset)).max? with
    | none =>
      obtain rfl : misses = [] := by simpa using hmax
      obtain rfl : miss.offset = furthest := by simpa using h
      simp [recordAll, record, empty, expectedAt, List.eraseDups_cons]
    | some before =>
      rw [furthest_concat hmax miss, Option.some.injEq] at h
      rw [ih hmax]
      rcases Nat.lt_trichotomy miss.offset before with hless | hsame | hbeyond
      · obtain rfl : before = furthest := by omega
        have hkept : expectedAt (misses ++ [miss]) before = expectedAt misses before := by
          simp [expectedAt, Nat.ne_of_lt hless]
        simp [record, hless, hkept]
      · obtain rfl : before = furthest := by omega
        have hadded : expectedAt (misses ++ [miss]) before =
            expectedAt misses before ++ [miss.expected] := by
          simp [expectedAt, hsame]
        simp [record, hsame, hadded, add_eraseDups]
      · obtain rfl : miss.offset = furthest := by omega
        have hbound := (List.max?_eq_some_iff.mp hmax).2
        have hfirst : misses.filter (·.offset == miss.offset) = [] := by
          rw [List.filter_eq_nil_iff]
          intro earlier hearlier
          have hle := hbound _ (List.mem_map_of_mem hearlier)
          have hne : earlier.offset ≠ miss.offset := by omega
          simpa using hne
        have honly : expectedAt (misses ++ [miss]) miss.offset = [miss.expected] := by
          rw [expectedAt, List.filter_append, hfirst]
          simp
        have hnot : ¬ miss.offset < before := Nat.not_lt_of_gt hbeyond
        simp [record, hnot, Nat.ne_of_gt hbeyond, honly, List.eraseDups_cons]

end FailureSet

/-! ## Reports -/

open Machine (Ends Event expectedAt)

/-- The report tells the furthest of the failed attempts `misses`: where it is, and the different
texts that were expected there, in the order of first occurrence. -/
structure FailureReport.Tells (report : FailureReport) (program : Program) (input : List Char)
    (misses : List Miss) : Prop where
  isEmpty_iff : report.isEmpty = true ↔ misses = []
  index : report.index? = (misses.map (·.offset)).max?
  failures : ∀ furthest, (misses.map (·.offset)).max? = some furthest →
    report.failures =
      ((expectedAt misses furthest).map (Expected.describe program)).eraseDups.map (⟨furthest, ·⟩)
  line : report.line? = (misses.map (·.offset)).max?.map fun furthest ↦
    (positionOf input furthest).line
  column : report.column? = (misses.map (·.offset)).max?.map fun furthest ↦
    (positionOf input furthest).column

/-- Something was expected at the furthest place. -/
theorem Machine.expectedAt_ne_nil {misses : List Miss} {furthest : Nat}
    (h : (misses.map (·.offset)).max? = some furthest) : expectedAt misses furthest ≠ [] := by
  obtain ⟨miss, hmiss, rfl⟩ := List.mem_map.mp (List.max?_eq_some_iff.mp h).1
  have hfound : miss.expected ∈ expectedAt misses miss.offset := by
    rw [expectedAt]
    exact List.mem_map_of_mem (List.mem_filter.mpr ⟨hmiss, beq_self_eq_true _⟩)
  exact List.ne_nil_of_mem hfound

/-- What was recorded is told. -/
theorem FailureReport.ofFailures_tells (program : Program) (input : List Char)
    (misses : List Miss) :
    (ofFailures program input (FailureSet.empty.recordAll misses)).Tells program input misses := by
  cases hmax : (misses.map (·.offset)).max? with
  | none =>
    obtain rfl : misses = [] := by simpa using hmax
    exact ⟨⟨fun _ ↦ rfl, fun _ ↦ rfl⟩, rfl, nofun, rfl, rfl⟩
  | some furthest =>
    have hsome : misses ≠ [] := by
      rintro rfl
      cases hmax
    have hreport : ofFailures program input (FailureSet.empty.recordAll misses) =
        ⟨((expectedAt misses furthest).map (Expected.describe program)).eraseDups.map
          (⟨furthest, ·⟩), some (positionOf input furthest)⟩ := by
      rw [FailureSet.recordAll_empty hmax]
      simp [ofFailures, distinct_eq_eraseDups, eraseDups_map_eraseDups]
    obtain ⟨first, rest, hexpected⟩ := List.exists_cons_of_ne_nil (Machine.expectedAt_ne_nil hmax)
    rw [hreport]
    refine ⟨?_, ?_, ?_, ?_, ?_⟩
    · simp [isEmpty, hexpected, hsome, List.eraseDups_cons]
    · rw [hmax, index?, hexpected, List.map_cons, List.eraseDups_cons]
      rfl
    · intro place hplace
      rw [hmax, Option.some.injEq] at hplace
      rw [hplace]
    · rw [hmax]
      rfl
    · rw [hmax]
      rfl

/-- The report of a parse that ends without an error is determined by the attempts that failed in
the course of it, and these by the program, the input, the conditions and where the parse began. -/
theorem Parser.report_tells_furthest {τ : Type} (parser : Parser) (input : String)
    (options : ParseOptions) (observe : τ → Event → τ) (trace : τ) (result : Option SyntaxTree)
    (h : (parser.parseWith input options observe trace).result = .ok result) :
    ∃ rule cursor found misses, parser.startOf input.toList options = .ok (rule, cursor) ∧
      Ends (parser.setting input.toList observe) rule
        (options.consumeAll.getD parser.consumeAll) cursor found misses ∧
      (∀ found' misses', Ends (parser.setting input.toList observe) rule
        (options.consumeAll.getD parser.consumeAll) cursor found' misses' → misses' = misses) ∧
      (parser.parseWith input options observe trace).parser.report.Tells parser.program
        input.toList misses := by
  obtain ⟨rule, cursor, outcome, hstart, hrun, _, hreport⟩ := parseWith_ok h
  obtain ⟨misses, hends, hfailures⟩ := Machine.run_ends _ _ _ _ _ _ hrun
  refine ⟨rule, cursor, _, misses, hstart, hends, ?_, ?_⟩
  · intro found' misses' hother
    exact (hother.unique hends).2
  · rw [hreport, hfailures]
    exact FailureReport.ofFailures_tells parser.program input.toList misses

/-- Nothing but an `a`, tried twice, and no `b` before it. -/
def choosyParser : Parser :=
  let ops := #[.terminal "b", .negativeLookahead ⟨0⟩, .terminal "a", .terminal "a",
    .choice [⟨2⟩, ⟨3⟩], .sequence [⟨1⟩, ⟨4⟩]]
  .ofProgram ⟨"choosy", [], ops, #[⟨"start", ⟨5⟩⟩], .empty⟩

theorem Parser.report_tells_furthest_choosy :
    (choosyParser.parseWith "x" {} (fun _ _ ↦ ()) ()).result = .ok none ∧
      (choosyParser.parseWith "x" {} (fun _ _ ↦ ()) ()).parser.report.Tells choosyParser.program
        ['x'] [⟨0, .op ⟨2⟩⟩, ⟨0, .op ⟨3⟩⟩] := by
  have hresult : (choosyParser.parseWith "x" {} (fun _ _ ↦ ()) ()).result = .ok none := rfl
  obtain ⟨rule, cursor, found, misses, hstart, _, hunique, htells⟩ :=
    report_tells_furthest choosyParser "x" {} _ _ none hresult
  have hbegin : choosyParser.startOf "x".toList {} = .ok (⟨0⟩, ⟨0, ['x']⟩) := rfl
  obtain ⟨rfl, rfl⟩ : (⟨0⟩ : RuleId) = rule ∧ (⟨0, ['x']⟩ : Cursor) = cursor := by
    rw [hbegin] at hstart
    simpa using hstart
  let setting : Machine.Setting Unit := choosyParser.setting "x".toList fun _ _ ↦ ()
  have hother {id : OpId} {scene : Machine.Scene} {text : String}
      (hop : setting.program.ops[id.index]? = some (.terminal text))
      (hlead : ∀ rest, ['x'] ≠ text.toList ++ rest) :
      Machine.Tries setting (.eval id) scene ⟨0, ['x']⟩ none [⟨0, .op id⟩] :=
    .eval hop (.terminalMiss hlead)
  have hlook (scene : Machine.Scene) :
      Machine.Tries setting (.eval ⟨1⟩) scene ⟨0, ['x']⟩ (Program.emptyYield ⟨0, ['x']⟩) [] :=
    .eval rfl (.negativeLookaheadMiss (hother rfl (by simp)))
  have hchoice (scene : Machine.Scene) :
      Machine.Tries setting (.eval ⟨4⟩) scene ⟨0, ['x']⟩ none [⟨0, .op ⟨2⟩⟩, ⟨0, .op ⟨3⟩⟩] :=
    .eval rfl (.choice (.alternativesNext (hother rfl (by simp))
      (.alternativesNext (hother rfl (by simp)) .alternativesNone)))
  have hroot : Machine.Tries setting (.rule ⟨0⟩) .start ⟨0, ['x']⟩ none
      [⟨0, .op ⟨2⟩⟩, ⟨0, .op ⟨3⟩⟩] :=
    @Machine.Tries.rule _ _ _ _ _ _ none _ rfl
      (.eval rfl (.sequence (.itemsNext (hlook _) (.itemsFail (hchoice _)))))
  rw [← hunique none _ (.miss hroot)] at htells
  exact ⟨hresult, htells⟩

end PegKit
