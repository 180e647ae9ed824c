import Mathlib.Data.List.Induction
import PegKit.Proofs.Machine.Inquiries
import PegKit.Proofs.Parser.History
import PegKit.Proofs.Parser.Tracing
import PegKit.Proofs.Program.WellFormed

/-!
# Bound and unbound hooks

Which hooks lack a binding is listed from the texts of the operations, while a run finds the
bindings in an array by the numbers of symbols, which labels share. Both come to the same: what a
history of a parser last did under the text of the hook.
-/

namespace PegKit

/-! ## What a history binds -/

namespace Bindings

theorem find?_cons (key : String) (binding : Binding) (rest : Bindings) (hook : String) :
    find? ((key, binding) :: rest) hook = if key = hook then some binding else rest.find? hook := by
  rw [find?, List.lookup_cons]
  by_cases hkey : key = hook
  · rw [if_pos hkey, beq_iff_eq.mpr hkey.symm]
  · rw [if_neg hkey, beq_eq_false_iff_ne.mpr (Ne.symm hkey)]
    rfl

theorem find?_filter_ne (bindings : Bindings) (key hook : String) :
    find? (bindings.filter fun entry ↦ entry.1 != key) hook =
      if key = hook then none else bindings.find? hook := by
  induction bindings with
  | nil => exact (ite_self none).symm
  | cons entry rest ih =>
    obtain ⟨other, binding⟩ := entry
    rw [find?_cons]
    by_cases hother : other = key
    · rw [List.filter_cons_of_neg (by simpa using hother), ih, hother]
      split <;> rfl
    · rw [List.filter_cons_of_pos (by simpa using hother), find?_cons, ih]
      by_cases hkey : key = hook
      · rw [if_pos hkey, if_pos hkey, if_neg fun hsame ↦ hother (hsame.trans hkey.symm)]
      · rw [if_neg hkey, if_neg hkey]

theorem find?_bind (bindings : Bindings) (key : String) (condition : Condition) (hook : String) :
    (bindings.bind key condition).find? hook =
      if Binding.trim key = hook then some ⟨key, condition⟩ else bindings.find? hook := by
  rw [bind, find?_cons, find?_filter_ne]
  split <;> rfl

/-- The array that a run looks into holds at the place of a symbol what is bound to its text. -/
theorem resolve_symbol (bindings : Bindings) {program : Program} {symbol : Symbol}
    (h : symbol.index < program.symbols.size) :
    (bindings.resolve program)[symbol.index]?.join =
      bindings.find? (program.symbolText symbol) := by
  obtain ⟨text, htext⟩ : ∃ text, program.symbols.texts[symbol.index]? = some text :=
    ⟨_, Array.getElem?_eq_getElem h⟩
  simp [resolve, Interner.entries, Program.symbolText, Interner.resolve, Interner.resolve?, htext]

end Bindings

namespace Operation

/-- What the operation makes of what is bound under `hook`; absent when it leaves that alone. -/
def rebinds? (hook : String) : Operation → Option (Option Binding)
  | .bind key condition => if Binding.trim key = hook then some (some ⟨key, condition⟩) else none
  | .unbind key => if Binding.trim key = hook then some none else none
  | _ => none

/-- What the last operation under `hook` bound, unless it unbound. -/
def lastBound (history : List Operation) (hook : String) : Option Binding :=
  (history.reverse.findSome? (rebinds? hook)).join

theorem find?_apply (parser : Parser) (op : Operation) (hook : String) :
    (op.apply parser).bindings.find? hook =
      (op.rebinds? hook).getD (parser.bindings.find? hook) := by
  cases op with
  | setRoot name =>
    rw [apply_setRoot]
    rfl
  | parse input options observe trace =>
    obtain ⟨report, hparse⟩ := apply_parse parser input options observe trace
    rw [hparse]
    rfl
  | bind key condition =>
    refine (Bindings.find?_bind parser.bindings key condition hook).trans ?_
    dsimp only [rebinds?]
    split <;> rfl
  | unbind key =>
    refine (Bindings.find?_filter_ne parser.bindings (Binding.trim key) hook).trans ?_
    dsimp only [rebinds?]
    split <;> rfl
  | _ => rfl

/-- After a history that starts with a fresh parser, what is bound is what was bound last. -/
theorem find?_history (program : Program) (history : List Operation) (hook : String) :
    (history.foldl apply (.ofProgram program)).bindings.find? hook = lastBound history hook := by
  induction history using List.reverseRecOn with
  | nil => rfl
  | append_singleton earlier last ih =>
    rw [List.foldl_concat, find?_apply, ih]
    unfold lastBound
    rw [List.reverse_concat, List.findSome?_cons]
    cases rebinds? hook last <;> rfl

theorem program_history (parser : Parser) (history : List Operation) :
    (history.foldl apply parser).program = parser.program := by
  induction history generalizing parser with
  | nil => rfl
  | cons op later ih => rw [List.foldl_cons, ih, program_apply]

end Operation

/-! ## What a program asks -/

namespace Program

theorem mem_collectHook (program : Program) (hooks : List String) (op : Op) (hook : String) :
    hook ∈ program.collectHook hooks op ↔
      hook ∈ hooks ∨ ∃ symbol negated, op = .predicate symbol negated ∧
        program.symbolText symbol = hook := by
  cases op with
  | predicate symbol negated =>
    dsimp only [collectHook]
    split
    · have hlisted : program.symbolText symbol ∈ hooks := List.contains_iff_mem.mp ‹_›
      constructor
      · exact .inl
      · rintro (hmem | ⟨_, _, hop, rfl⟩)
        · exact hmem
        · cases hop
          exact hlisted
    · simp [eq_comm]
  | _ => simp [collectHook]

theorem mem_hooks (program : Program) (hook : String) :
    hook ∈ program.hooks ↔ program.Asks hook := by
  have hcollected (ops : List Op) (hooks : List String) :
      hook ∈ ops.foldl program.collectHook hooks ↔
        hook ∈ hooks ∨ ∃ symbol negated, .predicate symbol negated ∈ ops ∧
          program.symbolText symbol = hook := by
    induction ops generalizing hooks with
    | nil => simp
    | cons op rest ih =>
      rw [List.foldl_cons, ih, mem_collectHook, or_assoc]
      simp only [List.mem_cons]
      grind
  unfold hooks Asks
  rw [hcollected]
  simp

end Program

/-! ## What a parse asks -/

namespace Parser

open Operation

theorem lookupRule_error {parser : Parser} {name : String} {error : RuntimeError}
    (h : parser.lookupRule name = .error error) : error.hook? = none := by
  unfold lookupRule at h
  split at h <;> cases h
  rfl

theorem effectiveRoot_error {parser : Parser} {error : RuntimeError}
    (h : parser.effectiveRoot = .error error) : error.hook? = none := by
  unfold effectiveRoot at h
  split at h <;> cases h
  rfl

/-- A parse that does not get to its start does not get to a predicate. -/
theorem startOf_error {parser : Parser} {input : List Char} {options : ParseOptions}
    {error : RuntimeError} (h : parser.startOf input options = .error error) :
    error.hook? = none := by
  have hplaced (root : Except RuntimeError RuleId)
      (place : RuleId → Except RuntimeError (RuleId × Cursor))
      (hroot : ∀ other, root = .error other → other.hook? = none)
      (hplace : ∀ rule other, place rule = .error other → other.hook? = none)
      (hstart : (root >>= place) = .error error) : error.hook? = none := by
    cases root with
    | error other =>
      cases hstart
      exact hroot _ rfl
    | ok rule => exact hplace rule error hstart
  unfold startOf at h
  cases hname : options.root with
  | some name =>
    rw [hname] at h
    refine hplaced _ _ (fun _ ↦ lookupRule_error) (fun rule other hother ↦ ?_) h
    cases hrest : Text.dropBytes? input options.start <;> rw [hrest] at hother <;> cases hother
    rfl
  | none =>
    rw [hname] at h
    refine hplaced _ _ (fun _ ↦ effectiveRoot_error) (fun rule other hother ↦ ?_) h
    cases hrest : Text.dropBytes? input options.start <;> rw [hrest] at hother <;> cases hother
    rfl

/-- The binding that a run finds for a predicate is what the history bound last under its text. -/
theorem binds_history {τ : Type} {program : Program} (hbuilt : program.IsBuilt)
    (history : List Operation) (input : List Char) (observe : τ → Machine.Event → τ) :
    ((history.foldl apply (ofProgram program)).setting input observe).Binds
      (lastBound history) := by
  have hprogram : (history.foldl apply (ofProgram program)).program = program :=
    program_history (ofProgram program) history
  intro symbol negated hop
  dsimp only [setting] at hop ⊢
  rw [hprogram] at hop ⊢
  rw [Bindings.resolve_symbol _ (hbuilt.wellFormed.symbols _ hop symbol rfl), find?_history]

/-- The events of a parse go with how it ends. -/
theorem events_inquiry {parser : Parser} {input : String} {bound? : String → Option Binding}
    (hbinds : (parser.setting input.toList Machine.record).Binds bound?) (options : ParseOptions) :
    Machine.Inquiry parser.program input.toList bound? (parser.events input options)
      (parser.parseWith input options Machine.record []).result := by
  unfold events parseWith
  cases hstart : parser.startOf input.toList options with
  | error error => exact .fault (startOf_error hstart)
  | ok start =>
    obtain ⟨rule, cursor⟩ := start
    obtain ⟨events, htrace, hevents⟩ := Machine.run_inquires hbinds parser.limits.execFuel [] rule
      (options.consumeAll.getD parser.consumeAll) cursor
    dsimp only
    rw [runFrom_trace, runFrom_result, htrace]
    exact (Machine.foldl_record [] events).symm ▸ hevents.map _

/-- A parse ends for want of a binding only for a hook that is listed as unbound before it, and
these are the hooks of the program under which the history bound nothing last. Wherever the machine
evaluates a predicate, it asks the condition that was last bound under the text of that predicate,
and decides by its answer; so every question that a parse asks, and every decision that it makes, is
one of a predicate and of what was last bound under its text. -/
theorem unbound_foretold {τ : Type} {program : Program} (hbuilt : program.IsBuilt)
    (history : List Operation) (input : String) (options : ParseOptions)
    (observe : τ → Machine.Event → τ) (trace : τ) :
    let used := history.foldl apply (ofProgram program)
    let result := (used.parseWith input options observe trace).result
    (∀ hook, hook ∈ used.unbound ↔ program.Asks hook ∧ lastBound history hook = none) ∧
      (∀ hook, result = .error (.unboundPredicate hook) → hook ∈ used.unbound) ∧
      (∀ hook message, result = .error (.predicate hook message) → ∃ binding env,
        lastBound history hook = some binding ∧ env.program = program ∧
          env.input = input.toList ∧ binding.condition env = .error message) ∧
      (∀ (op : OpId) symbol negated, program.ops[op.index]? = some (.predicate symbol negated) →
        ∀ levels cursor (around : Machine.Stacks) (store : Machine.Store τ),
          around.depth < used.limits.recursionFuel → store.fuel ≠ some 0 →
            ((Machine.eval (used.setting input.toList observe) (levels + 1) op cursor).run
                around).run.run store =
              Prod.map (Except.map (·, around)) id
                (Machine.judged observe op negated cursor
                  (Machine.asked observe (program.symbolText symbol)
                    (lastBound history (program.symbolText symbol))
                    ⟨program, input.toList, store.nodes, around.visible, cursor.offset,
                      cursor.rest⟩
                    store.spent))) ∧
      Machine.Inquiry program input.toList (lastBound history) (used.events input options)
        result := by
  intro used result
  have hprogram : used.program = program := program_history (ofProgram program) history
  have hlisted (hook : String) :
      hook ∈ used.unbound ↔ program.Asks hook ∧ lastBound history hook = none := by
    rw [unbound, List.mem_filter, hprogram, Program.mem_hooks, find?_history,
      Option.isNone_iff_eq_none]
  have hinquiry : Machine.Inquiry program input.toList (lastBound history)
      (used.events input options) result := by
    have hresult : result = (used.parseWith input options Machine.record []).result :=
      congrArg ParseOutcome.result (parseWith_told used input options observe trace)
    rw [hresult, ← hprogram]
    exact events_inquiry (binds_history hbuilt history input.toList Machine.record) options
  refine ⟨hlisted, ?_, ?_, ?_, hinquiry⟩
  · intro hook herror
    rw [herror] at hinquiry
    exact (hlisted hook).mpr hinquiry.unbound_hook
  · intro hook message herror
    rw [herror] at hinquiry
    obtain ⟨_, _, binding, env, hasking, hanswer⟩ := hinquiry.refused_hook
    exact ⟨binding, env, hasking.bound, hasking.program, hasking.input, hanswer⟩
  · intro op symbol negated hop levels cursor around store hdepth hfuel
    have hused : used.program.ops[op.index]? = some (.predicate symbol negated) := by
      rw [hprogram]
      exact hop
    have hbound := binds_history hbuilt history input.toList observe symbol negated
      (Array.mem_of_getElem? hused)
    rw [Machine.eval_predicate (used.setting input.toList observe) symbol cursor store hused levels
      hdepth hfuel, hbound]
    dsimp only [setting]
    rw [hprogram]

/-- A label and a hook with the same text, and so with the same symbol. -/
def gate : Grammar :=
  ⟨"gate", [⟨"start", .sequence [.label "open" (.terminal "a"), .predicate "open" false]⟩], []⟩

def gateProgram : Program :=
  ⟨"gate", [], #[.terminal "a", .label ⟨0⟩ ⟨0⟩, .predicate ⟨0⟩ false, .sequence [⟨1⟩, ⟨2⟩]],
    #[⟨"start", ⟨3⟩⟩], ⟨#["open"]⟩⟩

/-- What is bound at first is bound over. -/
def gateBound : List Operation :=
  [.bind "open" fun _ ↦ .ok true, .parse "a" {} (fun _ _ ↦ ()) (),
    .bind " open " fun env ↦ if env.position = 1 then .error "stuck" else .ok false]

theorem unbound_foretold_gate :
    let bound := gateBound.foldl apply (ofProgram gateProgram)
    let unbound := (gateBound ++ [Operation.unbind "open"]).foldl apply (ofProgram gateProgram)
    gateProgram.IsBuilt ∧
      (bound.parse "a" {}).result = .error (.predicate "open" "stuck") ∧
      (∃ binding env, lastBound gateBound "open" = some binding ∧
        binding.condition env = .error "stuck") ∧
      (((Machine.eval (bound.setting ['a'] fun _ _ ↦ ()) 1 ⟨2⟩ ⟨0, ['a']⟩).run .empty).run.run
        ⟨#[], .empty, none, ()⟩).1 = .ok (none, .empty) ∧
      (unbound.parse "a" {}).result = .error (.unboundPredicate "open") ∧
      "open" ∈ unbound.unbound := by
  intro bound unbound
  have hbuilt : gateProgram.IsBuilt := by
    have hprogram : gate.toProgram = .ok gateProgram := by decide +kernel
    exact Grammar.toProgram_isBuilt hprogram
  have hstuck : (bound.parse "a" {}).result = .error (.predicate "open" "stuck") := rfl
  have hmissing : (unbound.parse "a" {}).result = .error (.unboundPredicate "open") := rfl
  obtain ⟨_, _, hrefused, hevaluated, _⟩ :=
    unbound_foretold hbuilt gateBound "a" {} (fun _ _ ↦ ()) ()
  obtain ⟨_, hlisted, _⟩ :=
    unbound_foretold hbuilt (gateBound ++ [Operation.unbind "open"]) "a" {} (fun _ _ ↦ ()) ()
  obtain ⟨binding, env, hbinding, _, _, hcondition⟩ := hrefused "open" "stuck" hstuck
  have hfailed := hevaluated ⟨2⟩ ⟨0⟩ false rfl 0 ⟨0, ['a']⟩ .empty ⟨#[], .empty, none, ()⟩
    (by decide) (by decide)
  exact ⟨hbuilt, hstuck, ⟨binding, env, hbinding, hcondition⟩, congrArg Prod.fst hfailed, hmissing,
    hlisted "open" hmissing⟩

end Parser

end PegKit
