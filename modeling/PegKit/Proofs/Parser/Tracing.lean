import PegKit.Machine.Trace
import PegKit.Proofs.Machine.Bracketing
import PegKit.Proofs.Machine.Pairing

/-!
# Traced parses

Whoever watches a parse sees the same events and has no part in it: a parse that folds its events
into a trace ends as one that keeps nothing, and its trace is the fold of the events that a parse
recording them has. So what is known of that one word of events is known of every trace. Its calls
and returns are brackets, and the depth of a printed trace counts those that are open.
-/

namespace PegKit

namespace Machine

variable {τ : Type}

/-! ## Recording and folding -/

/-- The first run records its events, and the second folds them into a trace from `trace` on. Both
have as much left of their budget. -/
def Pairing.told (observe : τ → Event → τ) (trace : τ) : Pairing (List Event) τ where
  shift := 0
  meets account account' := account'.1 = account.1 ∧ account'.2 = account.2.foldl observe trace
  past _ := False

def Setting.recorded (setting : Setting τ) : Setting (List Event) :=
  { setting with observe := record }

theorem foldl_record (events more : List Event) : more.foldl record events = events ++ more := by
  induction more generalizing events with
  | nil => exact (List.append_nil events).symm
  | cons event more ih => rw [List.foldl_cons, ih, record, List.append_assoc, List.singleton_append]

variable {setting : Setting τ} {trace : τ}

theorem observe_told (event : Event) :
    Paired (.told setting.observe trace) id (observe setting.recorded event)
      (observe setting event) := by
  refine .modify (fun _ hpast ↦ hpast) fun store store' hjoins ↦ ?_
  obtain ⟨hnodes, hfailures, hfuel, htrace⟩ := hjoins
  have hfolded : setting.observe store'.trace event =
      (store.trace ++ [event]).foldl setting.observe trace := by
    rw [List.foldl_concat]
    exact congrArg (setting.observe · event) htrace
  exact ⟨hnodes, hfailures, hfuel, hfolded⟩

theorem spendFuel_told :
    Paired (.told setting.observe trace) id (spendFuel : Work (List Event) Unit)
      (spendFuel : Work τ Unit) :=
  spendFuel_paired _ (fun _ ↦ not_false) (fun _ _ hmeets ↦ hmeets.left)
    fun _ _ _ hmeets ↦ ⟨rfl, hmeets.right⟩

theorem alongside_told (setting : Setting τ) (trace : τ) :
    Alongside (.told setting.observe trace) setting.recorded setting where
  program := rfl
  observed event event' hsame := by
    rw [hsame rfl]
    exact observe_told event
  consulted _ visible cursor :=
    @consult_paired _ _ (.told setting.observe trace) setting.recorded setting rfl rfl rfl _ rfl
      observe_told visible cursor

/-- A run ends as the one that records its events does, and its trace is the fold of these. -/
theorem run_told (setting : Setting τ) (fuel : Option Nat) (trace : τ) (rule : RuleId)
    (consumeAll : Bool) (cursor : Cursor) :
    run setting fuel trace rule consumeAll cursor =
      let (result, events) := run setting.recorded fuel [] rule consumeAll cursor
      (result, events.foldl setting.observe trace) := by
  have hpaired : Paired (.told setting.observe trace) (Option.map (Match.shift · 0))
      (Scoped.matchRule setting.recorded rule consumeAll cursor)
      (Scoped.matchRule setting rule consumeAll cursor) :=
    matchRule_paired (alongside_told setting trace) spendFuel_told rfl rule consumeAll cursor
  have hends := hpaired.ends ⟨#[], .empty, fuel, []⟩ ⟨#[], .empty, fuel, trace⟩
    (.start _ ⟨rfl, rfl⟩)
  rw [run_eq, run_eq]
  generalize (Scoped.matchRule setting.recorded rule consumeAll cursor).run.run _ = ended
    at hends ⊢
  generalize (Scoped.matchRule setting rule consumeAll cursor).run.run _ = ended' at hends ⊢
  cases hends with
  | ok hjoins =>
    obtain ⟨hnodes, hfailures, -, htrace⟩ := hjoins
    simp only [Except.map, hnodes, hfailures, Pairing.told, Arena.shift_zero,
      FailureSet.shift_zero, Match.shift_zero, Option.map_id']
    exact congrArg _ htrace
  | error hjoins => exact congrArg _ hjoins.account.2
  | cut _ hpast => exact hpast.elim

/-- Each call of the machine, whatever surrounds it, adds itself, a closed word and its return to
the events recorded before; where it ends with an error, it adds no return. -/
def Setting.TellsCalls (setting : Setting (List Event)) : Prop :=
  ∀ levels rule cursor around store, rule.index < setting.program.rules.size →
    cursor.LiesIn setting.input →
      let ended := ((call setting (eval setting levels) rule cursor).run around).run.run store
      ∃ added, ended.2.trace = store.trace ++ added ∧
        Surrounds setting ⟨rule, cursor.offset⟩ (ended.1.map Prod.fst) added

theorem tellsCalls {setting : Setting (List Event)} (h : setting.observe = record) :
    setting.TellsCalls := by
  intro levels rule cursor around store hrule hcursor ended
  obtain ⟨events, htrace, hevents⟩ :=
    machineCall_surrounds setting levels hrule hcursor around store
  rw [h, foldl_record] at htrace
  exact ⟨events, htrace, hevents⟩

end Machine

/-! ## Printed traces -/

namespace Trace

open Machine (Brackets Event Visit)

variable {style : TraceStyle} {trace : Trace}

theorem depth_record_leave (rule : RuleId) (start : Nat) (stop : Option Nat) :
    (trace.record style (.leave rule start stop)).depth = trace.depth - 1 := by
  cases stop with
  | none => rfl
  | some stop => rfl

theorem depth_record_other {event : Event} (h : event.isBracket = false) :
    (trace.record style event).depth = trace.depth := by
  cases event with
  | call rule start => cases h
  | leave rule start stop => cases h
  | hit op start stop =>
    simp only [record]
    split <;> rfl
  | miss op start =>
    simp only [record]
    split <;> rfl
  | decided op start passed =>
    simp only [record]
    split <;> rfl
  | backtrack start => rfl
  | ask key env => rfl

/-- The depth is the number of visits that are open. -/
theorem depth_foldl_record {concludes : Visit → Option Nat → Prop} {visits left : List Visit}
    {events : List Event} (h : Brackets concludes visits events left)
    (hdepth : trace.depth = visits.length) :
    (events.foldl (record style) trace).depth = left.length := by
  induction h generalizing trace with
  | done => exact hdepth
  | call _ ih => exact ih (congrArg (· + 1) hdepth)
  | leave _ _ ih =>
    apply ih
    rw [depth_record_leave, hdepth, List.length_cons, Nat.add_sub_cancel]
  | other plain _ ih =>
    apply ih
    rw [depth_record_other plain, hdepth]

/-- Before a return, a rule is open. -/
theorem depth_before_leave {concludes : Visit → Option Nat → Prop} {left : List Visit}
    {before after : List Event} {rule : RuleId} {start : Nat} {stop : Option Nat}
    (h : Brackets concludes [] (before ++ .leave rule start stop :: after) left) :
    0 < (before.foldl (record style) .empty).depth := by
  obtain ⟨between, hbefore, hafter⟩ := h.split
  rw [depth_foldl_record hbefore rfl]
  cases hafter with
  | leave ends others => exact Nat.succ_pos _
  | other plain others => cases plain

end Trace

/-! ## Parses -/

namespace Parser

open Machine (Brackets Event record)

def events (parser : Parser) (input : String) (options : ParseOptions) : List Event :=
  (parser.parseWith input options record []).trace

theorem runFrom_told {τ : Type} (parser : Parser) (input : List Char) (consumeAll : Bool)
    (rule : RuleId) (cursor : Cursor) (observe : τ → Event → τ) (trace : τ) :
    parser.runFrom input consumeAll rule cursor observe trace =
      let recorded := parser.runFrom input consumeAll rule cursor record []
      ⟨recorded.result, recorded.parser, recorded.trace.foldl observe trace⟩ := by
  have hrun := Machine.run_told (parser.setting input observe) parser.limits.execFuel trace rule
    consumeAll cursor
  have hrecorded : (parser.setting input observe).recorded = parser.setting input record := rfl
  rw [hrecorded] at hrun
  unfold runFrom
  rw [hrun]
  generalize Machine.run (parser.setting input record) _ _ _ _ _ = recorded
  obtain ⟨result, trace⟩ := recorded
  cases result with
  | error error => rfl
  | ok outcome => rfl

/-- A parse ends as the one that records its events does, and its trace is the fold of these. -/
theorem parseWith_told {τ : Type} (parser : Parser) (input : String) (options : ParseOptions)
    (observe : τ → Event → τ) (trace : τ) :
    parser.parseWith input options observe trace =
      let recorded := parser.parseWith input options record []
      ⟨recorded.result, recorded.parser, recorded.trace.foldl observe trace⟩ := by
  unfold parseWith
  cases parser.startOf input.toList options with
  | error error => rfl
  | ok start =>
    obtain ⟨rule, cursor⟩ := start
    exact runFrom_told parser input.toList _ rule cursor observe trace

/-- The events of a parse are a word of brackets, all of them closed where the parse ends without an
error. -/
theorem events_brackets (parser : Parser) (input : String) (options : ParseOptions) :
    ∃ left, Brackets (parser.setting input.toList record).Concludes [] (parser.events input options)
        left ∧
      ∀ tree, (parser.parseWith input options record []).result = .ok tree → left = [] := by
  unfold events parseWith
  cases hstart : parser.startOf input.toList options with
  | error error => exact ⟨[], .done [], fun _ _ ↦ rfl⟩
  | ok start =>
    obtain ⟨rule, cursor⟩ := start
    obtain ⟨-, hcursor⟩ := startOf_ok hstart
    obtain ⟨events, left, htrace, hevents, hleft⟩ :=
      Machine.run_narrates (parser.setting input.toList record) parser.limits.execFuel [] rule
        (options.consumeAll.getD parser.consumeAll) hcursor
    have hrecorded : (parser.runFrom input.toList (options.consumeAll.getD parser.consumeAll) rule
        cursor record []).trace = events := by
      rw [runFrom_trace, htrace]
      exact Machine.foldl_record [] events
    refine ⟨left, hrecorded ▸ hevents, ?_⟩
    intro tree htree
    rw [runFrom_result] at htree
    cases hrun : (Machine.run (parser.setting input.toList record) parser.limits.execFuel [] rule
        (options.consumeAll.getD parser.consumeAll) cursor).1 with
    | error error =>
      rw [hrun] at htree
      cases htree
    | ok outcome => exact hleft outcome hrun

/-- Watching a parse is harmless, and what is seen is well bracketed. Whatever its events are made
into, a parse gives the result and leaves the parser, failure report and all, of the parse that
nobody watches, and the events are the same for everyone. Each call is among them, and each return
closes the call made last that is still open, and tells where the match of its rule ends, or that it
failed. So a printed trace never leaves a rule where none is open. After a parse without an error
all calls are closed and the printed trace is back at depth zero; after one with an error, more
returns could close them. -/
theorem traces_well_bracketed (parser : Parser) (input : String) (options : ParseOptions) :
    let plain := parser.parse input options
    let events := parser.events input options
    let setting := parser.setting input.toList record
    (∀ (τ : Type) (observe : τ → Event → τ) (trace : τ),
      parser.parseWith input options observe trace =
        ⟨plain.result, plain.parser, events.foldl observe trace⟩) ∧
    setting.TellsCalls ∧
    (∀ tree, plain.result = .ok tree → Brackets setting.Concludes [] events [] ∧
      ∀ style, (events.foldl (Trace.record style) .empty).depth = 0) ∧
    ((∃ left, Brackets setting.Concludes [] events left) ∧
      ∃ rest, Brackets (fun _ _ ↦ True) [] (events ++ rest) []) ∧
    ∀ style before rule start stop after, events = before ++ .leave rule start stop :: after →
      0 < (before.foldl (Trace.record style) .empty).depth := by
  intro plain events setting
  have hplain : plain = _ := parseWith_told parser input options (fun _ _ ↦ ()) ()
  obtain ⟨left, hbrackets, hclosed⟩ := events_brackets parser input options
  refine ⟨?_, Machine.tellsCalls rfl, ?_, ⟨⟨left, hbrackets⟩, hbrackets.complete⟩, ?_⟩
  · intro τ observe trace
    rw [parseWith_told, hplain]
    rfl
  · intro tree htree
    rw [hplain] at htree
    obtain rfl := hclosed tree htree
    exact ⟨hbrackets, fun style ↦ Trace.depth_foldl_record hbrackets rfl⟩
  · intro style before rule start stop after hevents
    have hsplit : Brackets setting.Concludes [] (before ++ .leave rule start stop :: after) left :=
      hevents ▸ hbrackets
    exact Trace.depth_before_leave hsplit

-- The limit on nesting ends this parse with three calls open.
example :
    let parser := Parser.ofProgram ⟨"looping", [], #[.call ⟨0⟩], #[⟨"start", ⟨0⟩⟩], ⟨#[]⟩⟩
    { parser with limits := { recursionFuel := 2 } }.events "x" {} =
      [.call ⟨0⟩ 0, .call ⟨0⟩ 0, .call ⟨0⟩ 0] := rfl

end Parser

end PegKit
