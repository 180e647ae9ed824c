import PegKit.Machine

/-!
# Parsers

A parser is a program with the settings of one user: the rule to start from, whether all input has
to be consumed, the bound predicates, the limits, and the failure report of the last parse. A parser
is a value: a copy has settings of its own and shares only the program.
-/

namespace PegKit

/-- How much work a parse may take. -/
structure RunLimits where
  /-- Evaluations allowed; without a bound when absent. -/
  execFuel : Option Nat := none
  /-- How deep evaluations may nest. -/
  recursionFuel : Nat := 512
  deriving DecidableEq, Repr

/-- Settings of a single parse, over those of the parser. -/
structure ParseOptions where
  root : Option String := none
  consumeAll : Option Bool := none
  /-- The byte to start at. -/
  start : Nat := 0
  deriving DecidableEq, Repr

structure Parser where
  program : Program
  /-- The rule to start from in place of the first one. -/
  rootRule : Option RuleId
  consumeAll : Bool
  bindings : Bindings
  limits : RunLimits
  /-- Why the last parse did not match, or how far it looked when it did. -/
  report : FailureReport

/-- What a parse leaves. -/
structure ParseOutcome (τ : Type) where
  /-- The tree; absent when the input does not match. -/
  result : Except RuntimeError (Option SyntaxTree)
  /-- The parser with the report of this parse. -/
  parser : Parser
  /-- What the events of the parse were made into. -/
  trace : τ

namespace Parser

def ofProgram (program : Program) : Parser :=
  ⟨program, none, true, [], {}, .empty⟩

def lookupRule (parser : Parser) (name : String) : Except RuntimeError RuleId :=
  match parser.program.ruleNamed? name with
  | some rule => .ok rule
  | none => .error (.unknownRule parser.program.name name)

/-- The rule that parses start from. -/
def effectiveRoot (parser : Parser) : Except RuntimeError RuleId :=
  match parser.rootRule, parser.program.root? with
  | some rule, _ => .ok rule
  | none, some rule => .ok rule
  | none, none => .error (.noRules parser.program.name)

/-- The name of the rule that parses start from. -/
def root? (parser : Parser) : Option String :=
  match parser.effectiveRoot with
  | .ok rule => some (parser.program.ruleName rule)
  | .error _ => none

/-- Makes later parses start from the rule `name`. -/
def setRoot (parser : Parser) (name : String) : Except RuntimeError Parser :=
  (parser.lookupRule name).map fun rule ↦ { parser with rootRule := some rule }

/-- Makes later parses start from the first rule again. -/
def resetRoot (parser : Parser) : Parser := { parser with rootRule := none }

def bind (parser : Parser) (key : String) (condition : Condition) : Parser :=
  { parser with bindings := parser.bindings.bind key condition }

/-- Removes what is bound under `key`; tells whether something was. -/
def unbind (parser : Parser) (key : String) : Bool × Parser :=
  let (removed, bindings) := parser.bindings.unbind key
  (removed, { parser with bindings })

/-- The hooks of the program that nothing is bound to. -/
def unbound (parser : Parser) : List String :=
  parser.program.hooks.filter fun hook ↦ (parser.bindings.find? hook).isNone

/-- The rule and the place that a parse of `input` starts from. -/
def startOf (parser : Parser) (input : List Char) (options : ParseOptions) :
    Except RuntimeError (RuleId × Cursor) := do
  let rule ← match options.root with
    | some name => parser.lookupRule name
    | none => parser.effectiveRoot
  match Text.dropBytes? input options.start with
  | some rest => return (rule, ⟨options.start, rest⟩)
  | none => throw (.invalidIndex options.start (Text.byteLength input))

/-- What a parse of `input` does not change. -/
def setting {τ : Type} (parser : Parser) (input : List Char) (observe : τ → Machine.Event → τ) :
    Machine.Setting τ :=
  { program := parser.program, input, predicates := parser.bindings.resolve parser.program
    depthLimit := parser.limits.recursionFuel, observe }

/-- Parses `input` from `rule` at `cursor`. A parse that ends with an error leaves no report. -/
def runFrom {τ : Type} (parser : Parser) (input : List Char) (consumeAll : Bool) (rule : RuleId)
    (cursor : Cursor) (observe : τ → Machine.Event → τ) (trace : τ) : ParseOutcome τ :=
  match Machine.run (parser.setting input observe) parser.limits.execFuel trace rule consumeAll
      cursor with
  | (.error error, trace) => ⟨.error error, { parser with report := .empty }, trace⟩
  | (.ok outcome, trace) =>
    let report := FailureReport.ofFailures parser.program input outcome.failures
    let tree := outcome.root.map fun found ↦
      ⟨input, parser.program, outcome.nodes, found.node⟩
    ⟨.ok tree, { parser with report }, trace⟩

/-- Parses `input`, folding the events of the parse into `trace`. -/
def parseWith {τ : Type} (parser : Parser) (input : String) (options : ParseOptions)
    (observe : τ → Machine.Event → τ) (trace : τ) : ParseOutcome τ :=
  match parser.startOf input.toList options with
  | .error error => ⟨.error error, { parser with report := .empty }, trace⟩
  | .ok (rule, cursor) =>
    let consumeAll := options.consumeAll.getD parser.consumeAll
    parser.runFrom input.toList consumeAll rule cursor observe trace

def parse (parser : Parser) (input : String) (options : ParseOptions) : ParseOutcome Unit :=
  parser.parseWith input options (fun _ _ ↦ ()) ()

end Parser

end PegKit
