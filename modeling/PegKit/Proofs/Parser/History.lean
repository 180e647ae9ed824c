import PegKit.Parser

/-!
# What a parser remembers

Between two parses, a parser can be set up anew, part by part. Of all that was done to it, a parse
sees the last thing done to each part and nothing else; what earlier parses did, however they ended,
it does not see at all.
-/

namespace PegKit

/-! ## Histories -/

/-- What can be done to a parser. -/
inductive Operation : Type 1
  /-- Asks for another rule to start from; without effect where there is no such rule. -/
  | setRoot (name : String)
  | resetRoot
  | setConsumeAll (consumeAll : Bool)
  | setLimits (limits : RunLimits)
  | bind (key : String) (condition : Condition)
  | unbind (key : String)
  | parse {τ : Type} (input : String) (options : ParseOptions) (observe : τ → Machine.Event → τ)
      (trace : τ)

/-- A part of a parser that is set up apart from the others. -/
inductive Aspect
  | root
  | consumeAll
  | limits
  /-- What is bound under a trimmed key. -/
  | binding (key : String)
  deriving DecidableEq, Repr

namespace Operation

/-- The parser after an operation, whatever came of it. -/
def apply (parser : Parser) : Operation → Parser
  | .setRoot name =>
    match parser.setRoot name with
    | .ok parser => parser
    | .error _ => parser
  | .resetRoot => parser.resetRoot
  | .setConsumeAll consumeAll => { parser with consumeAll }
  | .setLimits limits => { parser with limits }
  | .bind key condition => parser.bind key condition
  | .unbind key => (parser.unbind key).2
  | .parse input options observe trace => (parser.parseWith input options observe trace).parser

/-- What an operation sets or clears in a parser of `program`. -/
def aspect? (program : Program) : Operation → Option Aspect
  | .setRoot name => (program.ruleNamed? name).map fun _ ↦ .root
  | .resetRoot => some .root
  | .setConsumeAll _ => some .consumeAll
  | .setLimits _ => some .limits
  | .bind key _ => some (.binding (Binding.trim key))
  | .unbind key => some (.binding (Binding.trim key))
  | .parse .. => none

/-- The operation makes a part of the parser as it is in a fresh one. -/
def clears : Operation → Bool
  | .resetRoot => true
  | .unbind _ => true
  | _ => false

/-- The operations of a history that still count in the end: for each part the last one, unless that
one cleared it. -/
def lasting (program : Program) : List Operation → List Operation
  | [] => []
  | op :: later =>
    match op.aspect? program with
    | none => lasting program later
    | some aspect =>
      if op.clears || later.any (·.aspect? program == some aspect) then lasting program later
      else op :: lasting program later

end Operation

namespace Parser

def forget (parser : Parser) : Parser := { parser with report := .empty }

/-- The parser with one part as in a fresh one. -/
def reset (parser : Parser) : Aspect → Parser
  | .root => { parser with rootRule := none }
  | .consumeAll => { parser with consumeAll := true }
  | .limits => { parser with limits := {} }
  | .binding key => { parser with bindings := parser.bindings.filter (·.1 != key) }

/-- No parse sees the report of the one before. -/
theorem parseWith_forget {τ : Type} (parser : Parser) (input : String) (options : ParseOptions)
    (observe : τ → Machine.Event → τ) (trace : τ) :
    parser.forget.parseWith input options observe trace =
      parser.parseWith input options observe trace := rfl

/-- A parse changes nothing but the report, and that is empty after an error. -/
theorem parseWith_keeps {τ : Type} (parser : Parser) (input : String) (options : ParseOptions)
    (observe : τ → Machine.Event → τ) (trace : τ) :
    let outcome := parser.parseWith input options observe trace
    outcome.parser = { parser with report := outcome.parser.report } ∧
      ∀ error, outcome.result = .error error → outcome.parser.report = .empty := by
  unfold parseWith
  cases parser.startOf input.toList options with
  | error error => exact ⟨rfl, fun _ _ ↦ rfl⟩
  | ok found =>
    dsimp only
    unfold runFrom
    generalize Machine.run _ _ _ _ _ _ = outcome
    obtain ⟨error | outcome, trace⟩ := outcome
    · exact ⟨rfl, fun _ _ ↦ rfl⟩
    · exact ⟨rfl, fun _ hresult ↦ nomatch hresult⟩

@[simp]
theorem program_reset (parser : Parser) (aspect : Aspect) :
    (parser.reset aspect).program = parser.program := by
  cases aspect <;> rfl

@[simp]
theorem reset_reset (parser : Parser) (aspect : Aspect) :
    (parser.reset aspect).reset aspect = parser.reset aspect := by
  cases aspect with
  | binding key => simp [reset, List.filter_filter]
  | _ => rfl

theorem reset_comm (parser : Parser) (aspect other : Aspect) :
    (parser.reset aspect).reset other = (parser.reset other).reset aspect := by
  cases aspect with
  | binding key =>
    cases other with
    | binding key' => simp [reset, List.filter_filter, Bool.and_comm]
    | _ => rfl
  | _ => cases other <;> rfl

end Parser

namespace Operation

open PegKit.Parser

/-! ## What one operation does -/

theorem apply_setRoot (parser : Parser) (name : String) :
    apply parser (.setRoot name) =
      { parser with rootRule := (parser.program.ruleNamed? name).or parser.rootRule } := by
  unfold apply
  dsimp only
  unfold Parser.setRoot lookupRule
  cases parser.program.ruleNamed? name <;> rfl

theorem apply_unbind (parser : Parser) (key : String) :
    apply parser (.unbind key) = parser.reset (.binding (Binding.trim key)) := rfl

/-- What was bound under the key does not matter. -/
theorem apply_bind (parser : Parser) (key : String) (condition : Condition) :
    let cleared := parser.reset (.binding (Binding.trim key))
    apply parser (.bind key condition) =
      { cleared with bindings := (Binding.trim key, ⟨key, condition⟩) :: cleared.bindings } := rfl

/-- Of a parse, the parser only keeps the report. -/
theorem apply_parse {τ : Type} (parser : Parser) (input : String) (options : ParseOptions)
    (observe : τ → Machine.Event → τ) (trace : τ) :
    ∃ report, apply parser (.parse input options observe trace) = { parser with report } :=
  ⟨_, (parseWith_keeps parser input options observe trace).1⟩

@[simp]
theorem program_apply (parser : Parser) (op : Operation) :
    (op.apply parser).program = parser.program := by
  cases op with
  | setRoot name => rw [apply_setRoot]
  | parse input options observe trace =>
    obtain ⟨report, hparse⟩ := apply_parse parser input options observe trace
    rw [hparse]
  | _ => rfl

/-- No operation sees the report. -/
theorem forget_apply_forget (parser : Parser) (op : Operation) :
    (op.apply parser.forget).forget = (op.apply parser).forget := by
  cases op with
  | setRoot name => rw [apply_setRoot, apply_setRoot]; rfl
  | _ => rfl

section Aspects

variable {parser : Parser} {op : Operation} {aspect : Aspect}

theorem forget_apply (h : op.aspect? parser.program = none) :
    (op.apply parser).forget = parser.forget := by
  cases op with
  | setRoot name =>
    have hnone : parser.program.ruleNamed? name = none := Option.map_eq_none_iff.mp h
    rw [apply_setRoot, hnone]
    rfl
  | parse input options observe trace =>
    obtain ⟨report, hparse⟩ := apply_parse parser input options observe trace
    rw [hparse]
    rfl
  | _ => cases h

/-- What an operation does to a part does not depend on how the part was. -/
theorem apply_reset (h : op.aspect? parser.program = some aspect) :
    op.apply (parser.reset aspect) = op.apply parser := by
  cases op with
  | setRoot name =>
    obtain ⟨rule, hrule, rfl⟩ := Option.map_eq_some_iff.mp h
    rw [apply_setRoot, apply_setRoot, program_reset, hrule]
    rfl
  | parse => cases h
  | bind key condition =>
    cases h
    rw [apply_bind, apply_bind, reset_reset]
  | unbind key =>
    cases h
    rw [apply_unbind, apply_unbind, reset_reset]
  | _ =>
    cases h
    rfl

/-- An operation does nothing to any other part. -/
theorem reset_apply (h : op.aspect? parser.program = some aspect) :
    (op.apply parser).reset aspect = parser.reset aspect := by
  cases op with
  | setRoot name =>
    obtain ⟨rule, hrule, rfl⟩ := Option.map_eq_some_iff.mp h
    rw [apply_setRoot]
    rfl
  | parse => cases h
  | bind key condition =>
    cases h
    rw [apply_bind]
    simp [reset, List.filter_filter]
  | unbind key =>
    cases h
    rw [apply_unbind, reset_reset]
  | _ =>
    cases h
    rfl

theorem apply_of_clears (h : op.aspect? parser.program = some aspect) (hclears : op.clears = true) :
    op.apply parser = parser.reset aspect := by
  cases op with
  | resetRoot | unbind => cases h; rfl
  | _ => cases hclears

/-- Parts are set up independently. -/
theorem apply_reset_comm {other : Aspect} (h : op.aspect? parser.program = some aspect)
    (hother : other ≠ aspect) : op.apply (parser.reset other) = (op.apply parser).reset other := by
  cases op with
  | parse => cases h
  | setRoot name =>
    obtain ⟨rule, hrule, rfl⟩ := Option.map_eq_some_iff.mp h
    rw [apply_setRoot, apply_setRoot, program_reset, hrule]
    cases other with
    | root => exact absurd rfl hother
    | _ => rfl
  | bind key condition =>
    cases h
    rw [apply_bind, apply_bind, reset_comm]
    cases other with
    | binding key' =>
      have hkey : Binding.trim key ≠ key' := fun hkey ↦ hother (congrArg _ hkey.symm)
      simp [reset, hkey]
    | _ => rfl
  | unbind key =>
    cases h
    rw [apply_unbind, apply_unbind, reset_comm]
  | resetRoot =>
    cases h
    cases other with
    | root => exact absurd rfl hother
    | _ => rfl
  | setConsumeAll _ =>
    cases h
    cases other with
    | consumeAll => exact absurd rfl hother
    | _ => rfl
  | setLimits _ =>
    cases h
    cases other with
    | limits => exact absurd rfl hother
    | _ => rfl

end Aspects

/-! ## What a history does -/

/-- The parser after a history, without its report. -/
def after (parser : Parser) (history : List Operation) : Parser :=
  (history.foldl apply parser).forget

theorem after_cons (parser : Parser) (op : Operation) (later : List Operation) :
    after parser (op :: later) = after (op.apply parser) later := rfl

theorem after_forget (parser : Parser) (history : List Operation) :
    after parser.forget history = after parser history := by
  induction history generalizing parser with
  | nil => rfl
  | cons op later ih =>
    calc
      after (op.apply parser.forget) later = after (op.apply parser.forget).forget later :=
        (ih _).symm
      _ = after (op.apply parser).forget later := by rw [forget_apply_forget]
      _ = after (op.apply parser) later := ih _

/-- Without effect on any part, an operation leaves nothing for later. -/
theorem after_apply {parser : Parser} {op : Operation} (h : op.aspect? parser.program = none)
    (later : List Operation) : after (op.apply parser) later = after parser later := by
  rw [← after_forget, forget_apply h, after_forget]

/-- How a part was does not matter to a history that sets or clears it. -/
theorem after_reset {parser : Parser} {aspect : Aspect} {history : List Operation}
    (h : history.any (·.aspect? parser.program == some aspect) = true) :
    after (parser.reset aspect) history = after parser history := by
  induction history generalizing parser with
  | nil => cases h
  | cons op later ih =>
    rw [after_cons, after_cons]
    cases hop : op.aspect? parser.program with
    | none =>
      have hlater : later.any (·.aspect? parser.program == some aspect) = true := by
        simpa [hop] using h
      rw [after_apply (by rwa [program_reset]), after_apply hop, ih hlater]
    | some aspect' =>
      by_cases hother : aspect = aspect'
      · rw [hother, apply_reset hop]
      · have hlater : later.any (·.aspect? parser.program == some aspect) = true := by
          simpa [hop, Ne.symm hother] using h
        rw [apply_reset_comm hop hother, ih (by rwa [program_apply])]

/-- Only the operations that still count have an effect on a parser in which the parts that the
history is about are as in a fresh one. -/
theorem after_lasting {parser : Parser} {history : List Operation}
    (h : ∀ op ∈ history, ∀ aspect ∈ op.aspect? parser.program, parser.reset aspect = parser) :
    after parser (lasting parser.program history) = after parser history := by
  induction history generalizing parser with
  | nil => rfl
  | cons op later ih =>
    have hrest := ih fun other hother ↦ h other (List.mem_cons_of_mem op hother)
    rw [after_cons]
    unfold lasting
    cases hop : op.aspect? parser.program with
    | none => rw [after_apply hop, ← hrest]
    | some aspect =>
      have hfresh : parser.reset aspect = parser := h op List.mem_cons_self aspect hop
      dsimp only
      cases hover : later.any (·.aspect? parser.program == some aspect) with
      | true =>
        have hover' : later.any (·.aspect? (op.apply parser).program == some aspect) = true := by
          rwa [program_apply]
        rw [if_pos (by simp), hrest, ← after_reset hover', reset_apply hop, hfresh]
      | false =>
        cases hclears : op.clears with
        | true => rw [if_pos (by simp), apply_of_clears hop hclears, hfresh, hrest]
        | false =>
          have hapart (other : Operation) (hother : other ∈ later) (aspect' : Aspect)
              (haspect' : aspect' ∈ other.aspect? (op.apply parser).program) :
              (op.apply parser).reset aspect' = op.apply parser := by
            rw [program_apply] at haspect'
            have hne : aspect' ≠ aspect := by
              rintro rfl
              exact List.any_eq_false.mp hover other hother (beq_iff_eq.mpr haspect')
            rw [← apply_reset_comm hop hne, h other (List.mem_cons_of_mem op hother) _ haspect']
          have hlater := ih hapart
          rw [program_apply] at hlater
          rw [if_neg (by simp), after_cons, hlater]

theorem reset_ofProgram (program : Program) (aspect : Aspect) :
    (ofProgram program).reset aspect = ofProgram program := by
  cases aspect <;> rfl

end Operation

namespace Parser

open Operation

/-- A parse sees of a parser's history only what still counts of its settings: it ends as with a
fresh parser to which just these operations were applied. Whether it matches, does not or ends with
an error, it leaves the program and all settings as they were; an error leaves no report. -/
theorem parse_sees_settings {τ : Type} (program : Program) (history : List Operation)
    (input : String) (options : ParseOptions) (observe : τ → Machine.Event → τ) (trace : τ) :
    let used := history.foldl apply (ofProgram program)
    let fresh := (lasting program history).foldl apply (ofProgram program)
    let outcome := used.parseWith input options observe trace
    outcome = fresh.parseWith input options observe trace ∧
      outcome.parser = { used with report := outcome.parser.report } ∧
      ∀ error, outcome.result = .error error → outcome.parser.report = .empty := by
  intro used fresh outcome
  have hsame : after (ofProgram program) (lasting program history) =
      after (ofProgram program) history :=
    after_lasting fun _ _ aspect _ ↦ reset_ofProgram program aspect
  refine ⟨?_, parseWith_keeps used input options observe trace⟩
  have hforget : fresh.forget = used.forget := hsame
  rw [← parseWith_forget fresh, hforget, parseWith_forget]

/-- One rule for an `a`, and one for a `b`. -/
def letters : Program :=
  ⟨"letters", [], #[.terminal "a", .terminal "b"], #[⟨"first", ⟨0⟩⟩, ⟨"second", ⟨1⟩⟩], .empty⟩

/-- The root is asked for three times, once in vain. -/
def rerooting : List Operation :=
  [.setRoot "first", .setRoot "second", .setLimits ⟨none, 2⟩, .setRoot "third",
    .parse "bb" { start := 7 } (fun _ _ ↦ ()) (), .setConsumeAll false, .setLimits ⟨some 2, 2⟩]

theorem parse_sees_settings_rerooted :
    lasting letters rerooting =
      [.setRoot "second", .setConsumeAll false, .setLimits ⟨some 2, 2⟩] ∧
    (rerooting.foldl apply (ofProgram letters)).parseWith "bb" {} (fun _ _ ↦ ()) () =
      ([.setRoot "second", .setConsumeAll false, .setLimits ⟨some 2, 2⟩].foldl apply
        (ofProgram letters)).parseWith "bb" {} (fun _ _ ↦ ()) () := by
  have hfirst : letters.ruleNamed? "first" = some ⟨0⟩ := by decide +kernel
  have hsecond : letters.ruleNamed? "second" = some ⟨1⟩ := by decide +kernel
  have hthird : letters.ruleNamed? "third" = none := by decide +kernel
  have hlasting : lasting letters rerooting =
      [.setRoot "second", .setConsumeAll false, .setLimits ⟨some 2, 2⟩] := by
    simp [lasting, rerooting, aspect?, clears, hfirst, hsecond, hthird]
  refine ⟨hlasting, ?_⟩
  have hsame := (parse_sees_settings letters rerooting "bb" {} (fun _ _ ↦ ()) ()).1
  rwa [hlasting] at hsame

end Parser

end PegKit
