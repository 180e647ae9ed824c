import PegKit.Parser
import PegKit.Proofs.Machine.Pairing

/-!
# Parsing from a place in the middle

A parse reads from where it starts and never looks back. Of the text before the start, only its
length in bytes shows: in the offsets of the nodes and of the failures. Conditions are the
exception, since they are handed the whole input, so programs that ask any are left out here.
-/

namespace PegKit

open Text (dropBytes?)

/-- The operation asks a condition. -/
def Op.isPredicate : Op → Bool
  | .predicate _ _ => true
  | _ => false

/-- No operation of the program asks a condition. -/
def Program.Unconditional (program : Program) : Prop := ∀ op ∈ program.ops, op.isPredicate = false

instance (program : Program) : Decidable program.Unconditional :=
  inferInstanceAs (Decidable (∀ op ∈ program.ops, op.isPredicate = false))

theorem Program.Unconditional.asks_nothing {program : Program} (h : program.Unconditional)
    {id : OpId} {hook : Symbol} {negated : Bool} :
    program.ops[id.index]? ≠ some (.predicate hook negated) := by
  intro hop
  cases h _ (Array.mem_of_getElem? hop)

namespace Machine

variable {τ τ' : Type}

/-! ## Runs that start further right -/

/-- The second run is `k` bytes further right and has as much left of its budget. Nothing is said of
the traces. -/
def Pairing.further (τ τ' : Type) (k : Nat) : Pairing τ τ' where
  shift := k
  meets account account' := account'.1 = account.1
  past _ := False

theorem observe_further (k : Nat) (setting : Setting τ) (setting' : Setting τ')
    (event event' : Event) :
    Paired (.further τ τ' k) id (observe setting event) (observe setting' event') :=
  .modify (fun _ hpast ↦ hpast) fun _ _ hjoins ↦ ⟨hjoins.nodes, hjoins.failures, hjoins.account⟩

theorem spendFuel_further (k : Nat) :
    Paired (.further τ τ' k) id (spendFuel : Work τ Unit) (spendFuel : Work τ' Unit) :=
  spendFuel_paired _ (fun _ ↦ not_false) (fun _ _ hmeets ↦ hmeets) fun _ _ _ _ ↦ rfl

/-- The same outcome, `k` bytes further right. -/
def Outcome.shift (outcome : Outcome) (k : Nat) : Outcome :=
  ⟨outcome.nodes.shift k, outcome.root.map (·.shift k), outcome.failures.shift k⟩

/-- A run that starts further right, before the same text, ends the same way. -/
theorem run_further {setting : Setting τ} {setting' : Setting τ'} (k : Nat)
    (halongside : Alongside (.further τ τ' k) setting setting')
    (hlimit : setting'.depthLimit = setting.depthLimit) (fuel : Option Nat) (trace : τ)
    (trace' : τ') (rule : RuleId) (consumeAll : Bool) (cursor : Cursor) :
    (run setting' fuel trace' rule consumeAll (cursor.shift k)).1 =
      (run setting fuel trace rule consumeAll cursor).1.map (·.shift k) := by
  have hpaired : Paired (.further τ τ' k) (Option.map (Match.shift · k))
      (Scoped.matchRule setting rule consumeAll cursor)
      (Scoped.matchRule setting' rule consumeAll (cursor.shift k)) :=
    matchRule_paired halongside (spendFuel_further k) hlimit rule consumeAll cursor
  have hends := hpaired.ends ⟨#[], .empty, fuel, trace⟩ ⟨#[], .empty, fuel, trace'⟩
    (.start _ rfl)
  rw [run_eq, run_eq]
  generalize (Scoped.matchRule setting rule consumeAll cursor).run.run _ = outcome at hends ⊢
  generalize (Scoped.matchRule setting' rule consumeAll (cursor.shift k)).run.run _ = outcome'
    at hends ⊢
  cases hends with
  | ok hjoins =>
    simp [Except.map, Outcome.shift, hjoins.nodes, hjoins.failures, Pairing.further]
  | error => rfl
  | cut _ hpast => exact hpast.elim

end Machine

/-! ## Parses that start further right -/

/-- The same tree in the text `input`, `k` bytes further right. -/
def SyntaxTree.shift (tree : SyntaxTree) (input : List Char) (k : Nat) : SyntaxTree :=
  { tree with input, nodes := tree.nodes.shift k }

/-- The same failure, `k` bytes further right. -/
def TerminalFailure.shift (failure : TerminalFailure) (k : Nat) : TerminalFailure :=
  { failure with index := failure.index + k }

theorem FailureReport.failures_shift (program : Program) (input input' : List Char)
    (set : FailureSet) (k : Nat) :
    (ofFailures program input' (set.shift k)).failures =
      (ofFailures program input set).failures.map (·.shift k) := by
  obtain ⟨index, expected⟩ := set
  cases index with
  | none => rfl
  | some index => simp [ofFailures, FailureSet.shift, TerminalFailure.shift]

namespace Parser

variable {parser : Parser}

/-- A parse that starts in a part of the input starts as one of that part does, further right. -/
theorem startOf_index {input rest : List Char} {index : Nat}
    (hindex : dropBytes? input index = some rest) (options : ParseOptions) :
    parser.startOf input { options with start := index } =
      (parser.startOf rest { options with start := 0 }).map
        fun (rule, cursor) ↦ (rule, cursor.shift index) := by
  have hroot (root : Except RuntimeError RuleId) :
      (do return (← root, ⟨index, rest⟩) : Except RuntimeError (RuleId × Cursor)) =
        (do return (← root, ⟨0, rest⟩) : Except RuntimeError (RuleId × Cursor)).map
          fun (rule, cursor) ↦ (rule, cursor.shift index) := by
    cases root with
    | error error => rfl
    | ok rule =>
      have hplace : (⟨0, rest⟩ : Cursor).shift index = ⟨index, rest⟩ :=
        congrArg (Cursor.mk · rest) (Nat.zero_add index)
      rw [← hplace]
      rfl
  unfold startOf
  simp only [hindex, Text.dropBytes?_zero]
  cases options.root with
  | none => exact hroot parser.effectiveRoot
  | some name => exact hroot (parser.lookupRule name)

/-- The settings of two parses with one parser keep them together when nothing is asked. -/
theorem alongside_further {τ τ' : Type} (hfree : parser.program.Unconditional)
    (input rest : List Char) (k : Nat) (observe : τ → Machine.Event → τ)
    (observe' : τ' → Machine.Event → τ') :
    Machine.Alongside (.further τ τ' k) (parser.setting rest observe)
      (parser.setting input observe') where
  program := rfl
  observed event event' _ := Machine.observe_further k _ _ event event'
  consulted hop := absurd hop hfree.asks_nothing

/-- Parsing from an index is parsing what follows it: an error is the same error, a failure to match
is one too, and a tree is the same tree node by node, with every interval moved by the index. The
failures told are the same, moved alike. -/
theorem parse_from_index {τ τ' : Type} (parser : Parser) (hfree : parser.program.Unconditional)
    (input : String) (index : Nat) (rest : List Char)
    (hindex : dropBytes? input.toList index = some rest) (options : ParseOptions)
    (observe : τ → Machine.Event → τ) (trace : τ) (observe' : τ' → Machine.Event → τ')
    (trace' : τ') :
    let part := parser.parseWith (String.ofList rest) { options with start := 0 } observe trace
    let whole := parser.parseWith input { options with start := index } observe' trace'
    whole.result = part.result.map (Option.map (·.shift input.toList index)) ∧
      whole.parser.report.failures = part.parser.report.failures.map (·.shift index) := by
  dsimp only
  unfold parseWith
  rw [startOf_index hindex, String.toList_ofList]
  cases parser.startOf rest { options with start := 0 } with
  | error error => exact ⟨rfl, rfl⟩
  | ok found =>
    obtain ⟨rule, cursor⟩ := found
    have hrun := Machine.run_further index
      (alongside_further hfree input.toList rest index observe observe') rfl
      parser.limits.execFuel trace trace' rule (options.consumeAll.getD parser.consumeAll) cursor
    simp only [Except.map]
    unfold runFrom
    generalize Machine.run (parser.setting rest observe) _ _ _ _ _ = outcome at hrun ⊢
    generalize Machine.run (parser.setting input.toList observe') _ _ _ _ _ = outcome' at hrun ⊢
    obtain ⟨result, trace⟩ := outcome
    obtain ⟨result', trace'⟩ := outcome'
    obtain rfl : result' = result.map (·.shift index) := hrun
    cases result with
    | error error => exact ⟨rfl, rfl⟩
    | ok outcome =>
      refine ⟨?_, FailureReport.failures_shift _ _ _ _ _⟩
      cases hroot : outcome.root with
      | none => simp [Except.map, Machine.Outcome.shift, hroot]
      | some found =>
        simp [Except.map, Machine.Outcome.shift, hroot, SyntaxTree.shift, Machine.Match.shift]

/-- An `a` with a label, and then as many `b`s as there are. -/
def labellingParser : Parser :=
  let ops := #[.terminal "a", .label ⟨0⟩ ⟨0⟩, .terminal "b", .repetition ⟨2⟩ 0,
    .sequence [⟨1⟩, ⟨3⟩]]
  .ofProgram ⟨"labelling", [], ops, #[⟨"start", ⟨4⟩⟩], ⟨#["first"]⟩⟩

theorem parse_from_index_labelling : labellingParser.program.Unconditional ∧
    dropBytes? "éabb".toList 2 = some ['a', 'b', 'b'] ∧
    (labellingParser.parseWith "éabb" { start := 2 } (fun _ _ ↦ ()) ()).result.toOption.join.map
      (fun tree ↦ tree.nodes.toList.map (·.span)) =
        some [⟨2, 3⟩, ⟨3, 4⟩, ⟨4, 5⟩, ⟨3, 5⟩, ⟨2, 5⟩] := by
  have hfree : labellingParser.program.Unconditional := by decide
  have hindex : dropBytes? "éabb".toList 2 = some ['a', 'b', 'b'] := rfl
  refine ⟨hfree, hindex, ?_⟩
  obtain ⟨hresult, _⟩ := parse_from_index labellingParser hfree "éabb" 2 _ hindex {}
    (fun _ _ ↦ ()) () (fun _ _ ↦ ()) ()
  rw [hresult]
  decide +kernel

end Parser

end PegKit
