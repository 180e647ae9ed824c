import PegKit.Proofs.Grammar.Ends
import PegKit.Proofs.Machine.Backtracking
import PegKit.Proofs.Program.Refinement

/-!
# Parses by rules without end

What the operations of a program come to is one of the ends that its grammar allows. A parse from a
rule that has no end with a match therefore finds no tree, and one from a rule that has no end at
all ends with an error, whatever the limits, the predicates, the input and the place to start at.
Rules that call themselves first, on any way through other rules, have no end. Other rules are
reported as left-recursive too, and these may match.
-/

namespace PegKit

namespace Grammar

variable {grammar : Grammar}

/-- Parts evaluated one after the other for as long as they end with `on`: all of them did, or the
last that was evaluated did not. -/
inductive Along (grammar : Grammar) (on : Bool) : List Expr → Bool → Prop
  | done : Along grammar on [] on
  | stop {item : Expr} (rest : List Expr) (hitem : grammar.Ends item (!on)) :
      Along grammar on (item :: rest) (!on)
  | next {item : Expr} {rest : List Expr} {last : Bool} (hitem : grammar.Ends item on)
      (hrest : Along grammar on rest last) : Along grammar on (item :: rest) last

theorem Along.cases {on last : Bool} {exprs : List Expr} (h : grammar.Along on exprs last) :
    (last = on ∧ ∀ expr ∈ exprs, grammar.Ends expr on) ∨
      last = !on ∧ ∃ before item after, exprs = before ++ item :: after ∧
        (∀ expr ∈ before, grammar.Ends expr on) ∧ grammar.Ends item (!on) := by
  induction h with
  | done =>
    refine .inl ⟨rfl, ?_⟩
    intro expr hexpr
    cases hexpr
  | @stop item rest hitem =>
    refine .inr ⟨rfl, [], item, rest, rfl, ?_, hitem⟩
    intro expr hexpr
    cases hexpr
  | @next first rest last hitem _ ih =>
    rcases ih with ⟨hlast, hall⟩ | ⟨hlast, before, item, after, hrest, hbefore, hstop⟩
    · exact .inl ⟨hlast, List.forall_mem_cons.mpr ⟨hitem, hall⟩⟩
    · refine .inr ⟨hlast, first :: before, item, after, ?_, ?_, hstop⟩
      · rw [hrest, List.cons_append]
      · exact List.forall_mem_cons.mpr ⟨hitem, hbefore⟩

theorem Along.sequence {items : List Expr} {matched : Bool} (h : grammar.Along true items matched) :
    grammar.Ends (.sequence items) matched := by
  rcases h.cases with ⟨hlast, hall⟩ | ⟨hlast, before, item, after, hitems, hbefore, hitem⟩
  · rw [hlast]
    exact .sequence hall
  · rw [hlast, hitems]
    exact .sequenceMiss hbefore hitem

theorem Along.choice {alternatives : List Expr} {matched : Bool}
    (h : grammar.Along false alternatives matched) :
    grammar.Ends (.choice alternatives) matched := by
  rcases h.cases with ⟨hlast, hall⟩ | ⟨hlast, before, item, after, halternatives, hbefore, hitem⟩
  · rw [hlast]
    exact .choiceMiss hall
  · rw [hlast, halternatives]
    exact .choice hbefore hitem

/-- A repetition that `inner` ends, after `count` matches. -/
theorem ends_repetition_stop {inner : Expr} {count : Nat} (least : Nat)
    (hinner : grammar.Ends inner false) (hfound : 0 < count → grammar.Ends inner true) :
    grammar.Ends (.repetition inner least) (decide (least ≤ count)) := by
  by_cases hleast : least ≤ count
  · rw [decide_eq_true hleast]
    rcases Nat.eq_zero_or_pos count with hnone | hsome
    · obtain rfl : least = 0 := by omega
      exact .repetitionNone hinner
    · exact .repetition least (hfound hsome)
  · rw [decide_eq_false hleast]
    exact .repetitionMiss (by omega) hinner

/-- A repetition that a match of `inner` without reading ends. -/
theorem ends_repetition_stay {inner : Expr} (count least : Nat) (hinner : grammar.Ends inner true) :
    grammar.Ends (.repetition inner least) (decide (least ≤ count + 1)) := by
  by_cases hleast : least ≤ count + 1
  · rw [decide_eq_true hleast]
    exact .repetition least hinner
  · rw [decide_eq_false hleast]
    exact .repetitionStay (by omega) hinner

/-- The evaluation of a task may end, with a match or without one. -/
def Leaves (grammar : Grammar) : Peg.Task → Bool → Prop
  | .expr expr, matched => grammar.Ends expr matched
  | .items exprs _, matched => grammar.Along true exprs matched
  | .alternatives exprs, matched => grammar.Along false exprs matched
  | .iterations inner least _ found, matched =>
    (0 < found.length → grammar.Ends inner true) → grammar.Ends (.repetition inner least) matched

end Grammar

namespace Program

theorem isSome_repetitionYield (least : Nat) (start : Cursor) (found : List ParseTree)
    (cursor : Cursor) :
    (repetitionYield least start found cursor).isSome = decide (least ≤ found.length) := by
  unfold repetitionYield
  by_cases hless : found.length < least
  · rw [if_pos hless, Option.isSome_none, decide_eq_false (by omega)]
  · rw [if_neg hless, Option.isSome_some, decide_eq_true (by omega)]

/-- A task yields in one of the ways in which it may end. -/
theorem Yields.leaves {program : Program} {grammar : Grammar} (hprogram : program.Encodes grammar)
    {decides : Decision} {task : Task} {siblings : List ParseTree} {cursor : Cursor} {yield : Yield}
    (h : Yields program decides task siblings cursor yield) {task' : Peg.Task}
    (hstands : Stands program task task') : grammar.Leaves task' yield.isSome := by
  induction h generalizing task' with
  | terminalHit op lead =>
    obtain ⟨_, rfl, ⟨⟩⟩ := hstands.shape op
    exact .terminal _
  | @terminalMiss id text siblings cursor op lead =>
    obtain ⟨_, rfl, ⟨⟩⟩ := hstands.shape op
    apply Grammar.Ends.terminalMiss
    intro hempty
    apply lead cursor.rest
    rw [hempty]
    rfl
  | classHit op lead accepted =>
    obtain ⟨_, rfl, ⟨⟩⟩ := hstands.shape op
    exact .charClass _ true
  | classMiss op lead =>
    obtain ⟨_, rfl, ⟨⟩⟩ := hstands.shape op
    exact .charClass _ false
  | anyHit op lead =>
    obtain ⟨_, rfl, ⟨⟩⟩ := hstands.shape op
    exact .anyChar true
  | anyMiss op lead =>
    obtain ⟨_, rfl, ⟨⟩⟩ := hstands.shape op
    exact .anyChar false
  | sequence op _ ih =>
    obtain ⟨_, rfl, hshape⟩ := hstands.shape op
    cases hshape with
    | sequence parts =>
      have halong := ih (.items parts)
      exact halong.sequence
  | itemsDone =>
    cases hstands with
    | items parts =>
      cases parts
      exact .done
  | itemsFail _ ih =>
    cases hstands with
    | items parts =>
      cases parts with
      | cons part _ => exact .stop _ (ih (.op part))
  | itemsNext _ _ ihfirst ihothers =>
    cases hstands with
    | items parts =>
      cases parts with
      | cons part parts => exact .next (ihfirst (.op part)) (ihothers (.items parts))
  | choice op _ ih =>
    obtain ⟨_, rfl, hshape⟩ := hstands.shape op
    cases hshape with
    | choice parts =>
      have halong := ih (.alternatives parts)
      exact halong.choice
  | alternativesNone =>
    cases hstands with
    | alternatives parts =>
      cases parts
      exact .done
  | alternativesHit _ ih =>
    cases hstands with
    | alternatives parts =>
      cases parts with
      | cons part _ => exact .stop _ (ih (.op part))
  | alternativesNext _ _ ihfirst ihothers =>
    cases hstands with
    | alternatives parts =>
      cases parts with
      | cons part parts => exact .next (ihfirst (.op part)) (ihothers (.alternatives parts))
  | repetition op _ ih =>
    obtain ⟨_, rfl, hshape⟩ := hstands.shape op
    cases hshape with
    | repetition part =>
      apply ih (.iterations part)
      intro hfound
      exact absurd hfound (Nat.lt_irrefl 0)
  | @iterationsStop inner least start found siblings cursor _ ih =>
    cases hstands with
    | iterations part =>
      intro hfound
      rw [ParseTree.length_namedAll] at hfound
      rw [isSome_repetitionYield]
      exact Grammar.ends_repetition_stop least (ih (.op part)) hfound
  | @iterationsStay inner least start found siblings cursor next tree _ stays ih =>
    cases hstands with
    | iterations part =>
      intro hfound
      rw [isSome_repetitionYield, List.length_append, List.length_singleton]
      exact Grammar.ends_repetition_stay found.length least (ih (.op part))
  | iterationsNext _ moves _ ihfirst ihothers =>
    cases hstands with
    | iterations part =>
      intro hfound
      apply ihothers (.iterations part)
      intro hmore
      exact ihfirst (.op part)
  | optionalHit op _ ih =>
    obtain ⟨_, rfl, hshape⟩ := hstands.shape op
    cases hshape with
    | optional part => exact .optional (ih (.op part))
  | optionalMiss op _ ih =>
    obtain ⟨_, rfl, hshape⟩ := hstands.shape op
    cases hshape with
    | optional part => exact .optional (ih (.op part))
  | lookaheadHit op _ ih =>
    obtain ⟨_, rfl, hshape⟩ := hstands.shape op
    cases hshape with
    | lookahead part => exact .lookahead (ih (.op part))
  | lookaheadMiss op _ ih =>
    obtain ⟨_, rfl, hshape⟩ := hstands.shape op
    cases hshape with
    | lookahead part => exact .lookahead (ih (.op part))
  | negativeLookaheadHit op _ ih =>
    obtain ⟨_, rfl, hshape⟩ := hstands.shape op
    cases hshape with
    | negativeLookahead part => exact .negativeLookahead (ih (.op part))
  | negativeLookaheadMiss op _ ih =>
    obtain ⟨_, rfl, hshape⟩ := hstands.shape op
    cases hshape with
    | negativeLookahead part => exact .negativeLookahead (ih (.op part))
  | predicate op decided =>
    obtain ⟨_, rfl, hshape⟩ := hstands.shape op
    cases hshape with
    | predicate text => exact .predicate _ _ _
  | label op _ ih =>
    obtain ⟨_, rfl, hshape⟩ := hstands.shape op
    cases hshape with
    | label text part =>
      rw [Option.isSome_map]
      exact .label _ (ih (.op part))
  | call op _ ih =>
    obtain ⟨_, rfl, hshape⟩ := hstands.shape op
    cases hshape with
    | call named => exact ih (.rule named)
  | rule found _ ih =>
    cases hstands with
    | rule named =>
      obtain ⟨rule, hrule, hbody⟩ := hprogram.encoded found
      rw [tables_rules, found, Option.map_some, Option.some.injEq] at named
      rw [named] at hrule
      rw [Option.isSome_map]
      exact .ruleRef hrule (ih (.op hbody))

/-- What a rule yields is one of its ends. -/
theorem Yields.ends_rule {program : Program} {grammar : Grammar}
    (hprogram : program.Encodes grammar) {decides : Decision} {rule : RuleId}
    {siblings : List ParseTree} {cursor : Cursor} {yield : Yield}
    (h : Yields program decides (.rule rule) siblings cursor yield) :
    grammar.Ends (.ruleRef (program.ruleName rule)) yield.isSome := by
  have hcases := h
  cases hcases with
  | @rule _ entry _ _ _ found body =>
    have hnamed : program.tables.rules[rule.index]? = some (program.ruleName rule) := by
      rw [tables_rules, found, Option.map_some, ruleName_eq found]
    exact h.leaves hprogram (.rule hnamed)

end Program

namespace Parser

open Machine (Event)

/-- A parse without an error shows how its rule may end. -/
theorem ends_of_parseWith {τ : Type} {grammar : Grammar} {parser : Parser}
    (hprogram : grammar.toProgram = .ok parser.program) {input : String} {options : ParseOptions}
    {observe : τ → Event → τ} {trace : τ} {result : Option SyntaxTree}
    (hresult : (parser.parseWith input options observe trace).result = .ok result) {rule : RuleId}
    {cursor : Cursor} (hstart : parser.startOf input.toList options = .ok (rule, cursor)) :
    ∃ matched, grammar.Ends (.ruleRef (parser.program.ruleName rule)) matched ∧
      (result.isSome = true → matched = true) := by
  have hencodes : parser.program.Encodes grammar := Grammar.toProgram_encodes hprogram
  obtain ⟨rule', cursor', outcome, hstart', hrun, hroot, -⟩ := parseWith_ok hresult
  rw [hstart] at hstart'
  cases hstart'
  obtain ⟨-, hsettles⟩ := Machine.run_settles (.blind (parser.setting input.toList observe)) trivial
    parser.limits.execFuel trace trivial rule (options.consumeAll.getD parser.consumeAll) cursor
  obtain ⟨yield, hyields, -, htree⟩ := hsettles outcome hrun
  refine ⟨yield.isSome, ?_, ?_⟩
  · exact hyields.ends_rule hencodes
  · intro hsome
    rw [← hroot, Option.isSome_map] at hsome
    obtain ⟨found, hfound⟩ := Option.isSome_iff_exists.mp hsome
    obtain ⟨written, hyield, -⟩ := htree found hfound
    rw [hyield, Option.isSome_some]

/-- A rule on a cycle of first calls is reported as left-recursive, and every parse from it ends
with an error. Any other rule, reported or not, matches only where a finite way through the bodies
ends in a match, and a parse from it ends without an error only where there is a finite way at all. -/
theorem cyclic_rules_never_match {τ : Type} {grammar : Grammar} (parser : Parser)
    (hprogram : grammar.toProgram = .ok parser.program) (input : String) (options : ParseOptions)
    (observe : τ → Event → τ) (trace : τ) {rule : RuleId} {cursor : Cursor}
    (hstart : parser.startOf input.toList options = .ok (rule, cursor)) :
    let name := parser.program.ruleName rule
    let result := (parser.parseWith input options observe trace).result
    (Relation.TransGen grammar.FirstCall name name →
      name ∈ grammar.leftRecursiveRules ∧ ∃ error, result = .error error) ∧
    (∀ tree, result = .ok (some tree) → grammar.Ends (.ruleRef name) true) ∧
    ∀ found, result = .ok found → ∃ matched, grammar.Ends (.ruleRef name) matched := by
  intro name result
  refine ⟨?_, ?_, ?_⟩
  · intro hcycle
    refine ⟨Grammar.mem_leftRecursiveRules_of_cycle hcycle, ?_⟩
    cases hresult : result with
    | error error => exact ⟨error, rfl⟩
    | ok found =>
      obtain ⟨matched, hends, -⟩ := ends_of_parseWith hprogram hresult hstart
      exact absurd hends (Grammar.not_ends_of_cycle hcycle matched)
  · intro tree hresult
    obtain ⟨matched, hends, hmatched⟩ := ends_of_parseWith hprogram hresult hstart
    rwa [hmatched rfl] at hends
  · intro found hresult
    obtain ⟨matched, hends, -⟩ := ends_of_parseWith hprogram hresult hstart
    exact ⟨matched, hends⟩

/-- A rule that calls itself first. -/
def sumGrammar : Grammar :=
  ⟨"sums", [⟨"sum", .choice [.sequence [.ruleRef "sum", .terminal "+", .terminal "n"],
    .terminal "n"]⟩], []⟩

def sumParser : Parser :=
  let ops := #[.call ⟨0⟩, .terminal "+", .terminal "n", .sequence [⟨0⟩, ⟨1⟩, ⟨2⟩], .terminal "n",
    .choice [⟨3⟩, ⟨4⟩]]
  .ofProgram ⟨"sums", [], ops, #[⟨"sum", ⟨5⟩⟩], ⟨#[]⟩⟩

theorem cyclic_rules_never_match_sum : sumGrammar.toProgram = .ok sumParser.program ∧
    "sum" ∈ sumGrammar.leftRecursiveRules ∧
    ∃ error, (sumParser.parseWith "n" {} (fun _ _ ↦ ()) ()).result = .error error := by
  have hlowers : sumGrammar.toProgram = .ok sumParser.program := by decide +kernel
  have hname : sumParser.program.ruleName ⟨0⟩ = "sum" := by decide +kernel
  have hcycle : Relation.TransGen sumGrammar.FirstCall "sum" "sum" := by
    apply Relation.TransGen.single
    exact ⟨_, rfl, .choice _ (.sequence _ (.ruleRef "sum"))⟩
  have hstart : sumParser.startOf "n".toList {} = .ok (⟨0⟩, ⟨0, ['n']⟩) := rfl
  obtain ⟨hcyclic, -, -⟩ :=
    cyclic_rules_never_match sumParser hlowers "n" {} (fun _ _ ↦ ()) () hstart
  rw [hname] at hcyclic
  exact ⟨hlowers, hcyclic hcycle⟩

/-- A rule that calls itself only where its terminal does not match. -/
def lateGrammar : Grammar := ⟨"late", [⟨"a", .choice [.terminal "x", .ruleRef "a"]⟩], []⟩

def lateParser : Parser :=
  .ofProgram ⟨"late", [], #[.terminal "x", .call ⟨0⟩, .choice [⟨0⟩, ⟨1⟩]], #[⟨"a", ⟨2⟩⟩], ⟨#[]⟩⟩

theorem reported_rule_matches : lateGrammar.toProgram = .ok lateParser.program ∧
    "a" ∈ lateGrammar.leftRecursiveRules ∧ lateParser.root? = some "a" ∧
    ∃ tree, (lateParser.parse "x" {}).result = .ok (some tree) := by
  have hlowers : lateGrammar.toProgram = .ok lateParser.program := by decide +kernel
  have hreported : "a" ∈ lateGrammar.leftRecursiveRules := by decide +kernel
  have hmatches : (lateParser.parse "x" {}).result.map Option.isSome = .ok true := by
    decide +kernel
  refine ⟨hlowers, hreported, by decide +kernel, ?_⟩
  cases hresult : (lateParser.parse "x" {}).result with
  | error error =>
    rw [hresult] at hmatches
    cases hmatches
  | ok found =>
    rw [hresult] at hmatches
    obtain ⟨tree, htree⟩ := Option.isSome_iff_exists.mp (Except.ok.inj hmatches)
    exact ⟨tree, by rw [htree]⟩

end Parser

end PegKit
