import PegKit.Parser
import PegKit.Proofs.Grammar.Peg
import PegKit.Proofs.Machine.Planted
import PegKit.Proofs.Program.Encoding

/-!
# Running a program means parsing by its grammar

The big-step semantics of a grammar and what the operations of its program match agree: an operation
that stands for an expression yields what the expression yields, with names in place of numbers. A
run of the machine therefore answers as the grammar does, as long as its predicates are decided by
functions of the trees they see.
-/

namespace PegKit

open Program (Yield Yields)

mutual

/-- The tree with rules and labels by name. -/
def ParseTree.named (program : Program) : ParseTree → Peg.Tree
  | .node kind span rule label elements =>
    .node kind span (rule.map program.ruleName) (label.map program.symbolText)
      (namedAll program elements)

def ParseTree.namedAll (program : Program) : List ParseTree → List Peg.Tree
  | [] => []
  | tree :: rest => tree.named program :: namedAll program rest

end

namespace ParseTree

variable {program : Program}

theorem namedAll_eq_map (trees : List ParseTree) :
    namedAll program trees = trees.map (named program) := by
  induction trees with
  | nil => rfl
  | cons tree rest ih => rw [namedAll, ih, List.map_cons]

@[simp]
theorem length_namedAll (trees : List ParseTree) :
    (namedAll program trees).length = trees.length := by
  rw [namedAll_eq_map, List.length_map]

@[simp]
theorem namedAll_append (left right : List ParseTree) :
    namedAll program (left ++ right) = namedAll program left ++ namedAll program right := by
  rw [namedAll_eq_map, namedAll_eq_map, namedAll_eq_map, List.map_append]

@[simp]
theorem named_spanning (kind : NodeKind) (start stop : Cursor) (elements : List ParseTree) :
    (spanning kind start stop elements).named program =
      .spanning kind start stop (namedAll program elements) := by
  simp [spanning, named, Peg.Tree.spanning]

theorem named_withRule (rule : RuleId) (tree : ParseTree) :
    (tree.withRule rule).named program = (tree.named program).withRule (program.ruleName rule) := by
  cases tree
  simp [withRule, named, Peg.Tree.withRule]

theorem named_withLabel (name : Symbol) (tree : ParseTree) :
    (tree.withLabel name).named program =
      (tree.named program).withLabel (program.symbolText name) := by
  cases tree
  simp [withLabel, named, Peg.Tree.withLabel]

end ParseTree

open ParseTree (namedAll)

namespace Program

/-- What a task yields, by name. -/
def Yield.named (program : Program) (yield : Yield) : Peg.Yield :=
  yield.map fun found ↦ (found.1.named program, found.2)

/-- A task on operations stands for one on expressions. -/
inductive Stands (program : Program) : Task → Peg.Task → Prop
  | op {id : OpId} {expr : Expr} (part : program.tables.Encodes id expr) :
      Stands program (.op id) (.expr expr)
  | rule {rule : RuleId} {name : String} (named : program.tables.rules[rule.index]? = some name) :
      Stands program (.rule rule) (.expr (.ruleRef name))
  | items {ids : List OpId} {exprs : List Expr} {start : Cursor}
      (parts : program.tables.EncodesAll ids exprs) :
      Stands program (.items ids start) (.items exprs start)
  | alternatives {ids : List OpId} {exprs : List Expr}
      (parts : program.tables.EncodesAll ids exprs) :
      Stands program (.alternatives ids) (.alternatives exprs)
  | iterations {inner : OpId} {expr : Expr} {least : Nat} {start : Cursor}
      {found : List ParseTree} (part : program.tables.Encodes inner expr) :
      Stands program (.iterations inner least start found)
        (.iterations expr least start (namedAll program found))

/-- The form of an operation that stands for an expression. -/
theorem Stands.shape {program : Program} {id : OpId} {op : Op} {task : Peg.Task}
    (h : Stands program (.op id) task) (hop : program.ops[id.index]? = some op) :
    ∃ expr, task = .expr expr ∧ program.tables.Shape op expr := by
  cases h with
  | op part =>
    obtain ⟨found, shape⟩ := part
    have hsame := hop.symm.trans found
    cases hsame
    exact ⟨_, rfl, shape⟩

theorem symbolText_eq {program : Program} {symbol : Symbol} {text : String}
    (h : program.tables.symbols.resolve? symbol = some text) :
    program.symbolText symbol = text := by
  have hresolve : program.symbols.resolve? symbol = some text := h
  rw [symbolText, Interner.resolve, hresolve, Option.getD_some]

theorem ruleName_eq {program : Program} {rule : RuleId} {entry : RuleEntry}
    (h : program.rules[rule.index]? = some entry) : program.ruleName rule = entry.name := by
  rw [ruleName, h, Option.map_some, Option.getD_some]

/-- Predicates are decided by the functions that `hooks` gives for their names. -/
def Decision.Follows (program : Program) (decides : Decision) (hooks : String → Option Peg.Hook)
    (input : List Char) : Prop :=
  ∀ {symbol : Symbol} {name : String} {trees : List ParseTree} {cursor : Cursor} {holds : Bool},
    decides symbol trees cursor holds → program.symbols.resolve? symbol = some name →
      ∃ hook, hooks name = some hook ∧
        hook input cursor.offset (namedAll program trees) = .ok holds

theorem repetitionYield_named (program : Program) (least : Nat) (start : Cursor)
    (found : List ParseTree) (cursor : Cursor) :
    Yield.named program (repetitionYield least start found cursor) =
      Peg.repetitionYield least start (namedAll program found) cursor := by
  unfold repetitionYield Peg.repetitionYield
  rw [ParseTree.length_namedAll]
  split
  · rfl
  · simp [Yield.named]

theorem map_withLabel_named (program : Program) (name : Symbol) (yield : Yield) :
    Yield.named program (yield.map fun found ↦ (found.1.withLabel name, found.2)) =
      (yield.named program).map fun found ↦
        (found.1.withLabel (program.symbolText name), found.2) := by
  cases yield with
  | none => rfl
  | some found => simp [Yield.named, ParseTree.named_withLabel]

theorem map_withRule_named (program : Program) (rule : RuleId) (yield : Yield) :
    Yield.named program (yield.map fun found ↦ (found.1.withRule rule, found.2)) =
      (yield.named program).map fun found ↦
        (found.1.withRule (program.ruleName rule), found.2) := by
  cases yield with
  | none => rfl
  | some found => simp [Yield.named, ParseTree.named_withRule]

/-- A task yields what the task on expressions yields that it stands for. -/
theorem Yields.derives {program : Program} {grammar : Grammar} (hprogram : program.Encodes grammar)
    {decides : Decision} {hooks : String → Option Peg.Hook} {input : List Char}
    (hhooks : decides.Follows program hooks input) {task : Task} {siblings : List ParseTree}
    {cursor : Cursor} {yield : Yield} (h : Yields program decides task siblings cursor yield)
    {task' : Peg.Task} (hstands : Stands program task task') :
    Peg.Derives grammar hooks input task' (namedAll program siblings) cursor
      (yield.named program) := by
  induction h generalizing task' with
  | terminalHit op lead =>
    obtain ⟨_, rfl, ⟨⟩⟩ := hstands.shape op
    exact .terminalHit lead
  | terminalMiss op lead =>
    obtain ⟨_, rfl, ⟨⟩⟩ := hstands.shape op
    exact .terminalMiss lead
  | classHit op lead accepted =>
    obtain ⟨_, rfl, ⟨⟩⟩ := hstands.shape op
    exact .classHit lead accepted
  | classMiss op lead =>
    obtain ⟨_, rfl, ⟨⟩⟩ := hstands.shape op
    exact .classMiss lead
  | anyHit op lead =>
    obtain ⟨_, rfl, ⟨⟩⟩ := hstands.shape op
    exact .anyHit lead
  | anyMiss op lead =>
    obtain ⟨_, rfl, ⟨⟩⟩ := hstands.shape op
    exact .anyMiss lead
  | sequence op _ ih =>
    obtain ⟨_, rfl, hshape⟩ := hstands.shape op
    cases hshape with
    | sequence parts => exact .sequence (ih (.items parts))
  | itemsDone =>
    cases hstands with
    | items parts =>
      cases parts
      rw [Yield.named, Option.map_some, ParseTree.named_spanning]
      exact .itemsDone
  | itemsFail _ ih =>
    cases hstands with
    | items parts =>
      cases parts with
      | cons part _ => exact .itemsFail (ih (.op part))
  | itemsNext _ _ ihfirst ihothers =>
    cases hstands with
    | items parts =>
      cases parts with
      | cons part parts =>
        have hothers := ihothers (.items parts)
        rw [ParseTree.namedAll_append] at hothers
        exact .itemsNext (ihfirst (.op part)) hothers
  | choice op _ ih =>
    obtain ⟨_, rfl, hshape⟩ := hstands.shape op
    cases hshape with
    | choice parts => exact .choice (ih (.alternatives parts))
  | alternativesNone =>
    cases hstands with
    | alternatives parts =>
      cases parts
      exact .alternativesNone
  | alternativesHit _ ih =>
    cases hstands with
    | alternatives parts =>
      cases parts with
      | cons part _ => exact .alternativesHit (ih (.op part))
  | alternativesNext _ _ ihfirst ihothers =>
    cases hstands with
    | alternatives parts =>
      cases parts with
      | cons part parts => exact .alternativesNext (ihfirst (.op part)) (ihothers (.alternatives parts))
  | repetition op _ ih =>
    obtain ⟨_, rfl, hshape⟩ := hstands.shape op
    cases hshape with
    | repetition part => exact .repetition (ih (.iterations part))
  | iterationsStop _ ih =>
    cases hstands with
    | iterations part =>
      rw [repetitionYield_named]
      exact .iterationsStop (ih (.op part))
  | iterationsStay _ stays ih =>
    cases hstands with
    | iterations part =>
      rw [repetitionYield_named, ParseTree.namedAll_append]
      exact .iterationsStay (ih (.op part)) stays
  | iterationsNext _ moves _ ihfirst ihothers =>
    cases hstands with
    | iterations part =>
      have hothers := ihothers (.iterations part)
      rw [ParseTree.namedAll_append] at hothers
      exact .iterationsNext (ihfirst (.op part)) moves hothers
  | optionalHit op _ ih =>
    obtain ⟨_, rfl, hshape⟩ := hstands.shape op
    cases hshape with
    | optional part => exact .optionalHit (ih (.op part))
  | optionalMiss op _ ih =>
    obtain ⟨_, rfl, hshape⟩ := hstands.shape op
    cases hshape with
    | optional part => exact .optionalMiss (ih (.op part))
  | lookaheadHit op _ ih =>
    obtain ⟨_, rfl, hshape⟩ := hstands.shape op
    cases hshape with
    | lookahead part => exact .lookaheadHit (ih (.op part))
  | lookaheadMiss op _ ih =>
    obtain ⟨_, rfl, hshape⟩ := hstands.shape op
    cases hshape with
    | lookahead part => exact .lookaheadMiss (ih (.op part))
  | negativeLookaheadHit op _ ih =>
    obtain ⟨_, rfl, hshape⟩ := hstands.shape op
    cases hshape with
    | negativeLookahead part => exact .negativeLookaheadHit (ih (.op part))
  | negativeLookaheadMiss op _ ih =>
    obtain ⟨_, rfl, hshape⟩ := hstands.shape op
    cases hshape with
    | negativeLookahead part => exact .negativeLookaheadMiss (ih (.op part))
  | predicate op decided =>
    obtain ⟨_, rfl, hshape⟩ := hstands.shape op
    cases hshape with
    | predicate text =>
      obtain ⟨hook, hbound, hholds⟩ := hhooks decided text
      rw [apply_ite (Yield.named program)]
      exact .predicate hbound hholds
  | label op _ ih =>
    obtain ⟨_, rfl, hshape⟩ := hstands.shape op
    cases hshape with
    | label text part =>
      rw [map_withLabel_named, symbolText_eq text]
      exact .label (ih (.op part))
  | call op _ ih =>
    obtain ⟨_, rfl, hshape⟩ := hstands.shape op
    cases hshape with
    | call named => exact ih (.rule named)
  | rule found _ ih =>
    cases hstands with
    | rule named =>
      obtain ⟨rule, hrule, hbody⟩ := hprogram.encoded found
      rw [tables_rules, found, Option.map_some, Option.some.injEq] at named
      rw [map_withRule_named, ruleName_eq found, named]
      rw [named] at hrule
      exact .ruleRef hrule (ih (.op hbody))

end Program

/-! ## Predicates -/

/-- The condition that a function of the matched trees decides. -/
def Peg.Hook.condition (hook : Peg.Hook) : Condition := fun env ↦
  hook env.input env.position (namedAll env.program (env.elements.map env.nodes.unfold))

/-- What is bound to predicates are the functions of trees that `hooks` gives for their names. -/
def Bindings.Binds (bindings : Bindings) (hooks : String → Option Peg.Hook) : Prop :=
  ∀ name, (bindings.find? name).map (·.condition) = (hooks name).map Peg.Hook.condition

theorem Bindings.resolve_getElem? (bindings : Bindings) (program : Program) {symbol : Symbol}
    {name : String} (h : program.symbols.resolve? symbol = some name) :
    (bindings.resolve program)[symbol.index]?.join = bindings.find? name := by
  have htext : program.symbols.texts[symbol.index]? = some name := h
  simp [resolve, Interner.entries, List.getElem?_zipIdx, htext]

theorem Machine.decides_follows {τ : Type} (parser : Parser) (observe : τ → Machine.Event → τ)
    (input : List Char) {hooks : String → Option Peg.Hook} (hhooks : parser.bindings.Binds hooks) :
    (parser.setting input observe).decides.Follows parser.program hooks input := by
  rintro symbol name trees cursor holds ⟨binding, nodes, ids, hbinding, hplanted, hholds⟩ hname
  have hfound : (parser.bindings.resolve parser.program)[symbol.index]?.join = some binding :=
    hbinding
  rw [parser.bindings.resolve_getElem? parser.program hname] at hfound
  have hbound := hhooks name
  rw [hfound, Option.map_some] at hbound
  obtain ⟨hook, hhook, hcondition⟩ := Option.map_eq_some_iff.mp hbound.symm
  obtain ⟨base, rfl, hheld⟩ := hplanted.holds
  rw [← hcondition] at hholds
  refine ⟨hook, hhook, ?_⟩
  have htrees := Arena.map_unfold_rootPlaces hheld
  simpa only [Peg.Hook.condition, htrees, Parser.setting] using hholds

/-! ## Runs -/

/-- At a place in the input there is nothing left to read exactly when the place is the end. -/
theorem Program.Passes.rest_eq_nil_iff {input : List Char} {start stop : Cursor}
    (hstart : Text.dropBytes? input start.offset = some start.rest) (h : Passes start stop) :
    stop.rest = [] ↔ stop.offset = Text.byteLength input := by
  obtain ⟨passed, hrest, hoffset⟩ := h
  have hinput := Text.add_byteLength_of_dropBytes? hstart
  rw [hrest, Text.byteLength_append] at hinput
  rw [← Text.byteLength_eq_zero_iff]
  omega

/-- The machine refines the meaning of the grammar. When a run of the program of a grammar ends
without an error, it gives the tree that the grammar derives, unfolded from the nodes, and no match
when the grammar derives none. -/
theorem machine_refines_peg {τ : Type} {grammar : Grammar} (parser : Parser)
    (hprogram : grammar.toProgram = .ok parser.program) (hooks : String → Option Peg.Hook)
    (hhooks : parser.bindings.Binds hooks) (observe : τ → Machine.Event → τ) (fuel : Option Nat)
    (trace : τ) (input : List Char) (consumeAll : Bool) (start : Cursor)
    (hstart : Text.dropBytes? input start.offset = some start.rest) (rule : Rule)
    (hrule : rule ∈ grammar.rules) :
    ∃ id, parser.program.ruleNamed? rule.name = some id ∧
      ∀ outcome, (Machine.run (parser.setting input observe) fuel trace id consumeAll start).1 =
          .ok outcome →
        ∀ tree stop,
          (∃ found, outcome.root = some found ∧ found.after = stop ∧
              (outcome.nodes.unfold found.node).named parser.program = tree) ↔
            Peg.Derives grammar hooks input (.expr (.ruleRef rule.name)) [] start
                (some (tree, stop)) ∧
              (consumeAll = true → stop.offset = Text.byteLength input) := by
  have hencodes := Grammar.toProgram_encodes hprogram
  obtain ⟨id, hid, hnamed⟩ := hencodes.declared rule hrule
  refine ⟨id, hid, fun outcome hrun tree stop ↦ ?_⟩
  let watch := Machine.Watch.planted (parser.setting input observe) (fun _ ↦ True)
    (fun _ _ _ _ ↦ trivial) (fun _ _ _ _ _ ↦ trivial)
  obtain ⟨yield, hyields, hroot, hfound⟩ :=
    (Machine.run_settles watch .empty fuel trace trivial id consumeAll start).2 outcome hrun
  have hderives := hyields.derives hencodes
    (Machine.decides_follows parser observe input hhooks) (.rule hnamed)
  have hend {written : ParseTree} {stop : Cursor} (hyield : yield = some (written, stop)) :
      stop.rest = [] ↔ stop.offset = Text.byteLength input :=
    (hyield ▸ hyields).passes.rest_eq_nil_iff hstart
  constructor
  · rintro ⟨found, hsome, rfl, rfl⟩
    obtain ⟨written, hyield, hplace, hnodes⟩ := hfound found hsome
    have hunfold : outcome.nodes.unfold found.node = written := by
      rw [hplace, hnodes]
      exact Arena.unfold_write #[] written
    refine ⟨?_, fun hall ↦ ?_⟩
    · rw [hyield] at hderives
      rw [hunfold]
      exact hderives
    · rw [hsome, hyield, hall] at hroot
      have hrest : found.after.rest = [] := by
        simpa [Option.filter] using hroot
      exact (hend hyield).mp hrest
  · rintro ⟨hpeg, hall⟩
    have hsame := hderives.unique hpeg
    obtain ⟨⟨written, stop'⟩, hyield, hnamed⟩ := Option.map_eq_some_iff.mp hsame
    cases hnamed
    have hpassed : (!consumeAll || stop'.rest.isEmpty) = true := by
      cases hconsume : consumeAll with
      | false => rfl
      | true => simpa using (hend hyield).mpr (hall hconsume)
    rw [hyield, Option.map_some, Option.filter, if_pos hpassed] at hroot
    obtain ⟨found, hsome, hafter⟩ := Option.map_eq_some_iff.mp hroot
    obtain ⟨written', hyield', hplace, hnodes⟩ := hfound found hsome
    rw [hyield, Option.some.injEq, Prod.mk.injEq] at hyield'
    have hunfold : outcome.nodes.unfold found.node = written' := by
      rw [hplace, hnodes]
      exact Arena.unfold_write #[] written'
    refine ⟨found, hsome, hafter, ?_⟩
    rw [hunfold, ← hyield'.1]

/-- One character under a label, followed by a predicate. -/
def labelledGrammar : Grammar :=
  ⟨"labelled", [⟨"start", .sequence [.label "first" .anyChar, .predicate "single" false]⟩], []⟩

/-- Holds after one tree. -/
def singleHook : Peg.Hook := fun _ _ trees ↦ .ok (trees.length = 1)

def labelledParser : Parser :=
  let ops := #[.anyChar, .label ⟨0⟩ ⟨0⟩, .predicate ⟨1⟩ false, .sequence [⟨1⟩, ⟨2⟩]]
  (Parser.ofProgram ⟨"labelled", [], ops, #[⟨"start", ⟨3⟩⟩], ⟨#["first", "single"]⟩⟩).bind
    "single" singleHook.condition

theorem machine_refines_peg_labelled : ∃ tree,
    Peg.Derives labelledGrammar (fun name ↦ if name = "single" then some singleHook else none)
      ['a'] (.expr (.ruleRef "start")) [] ⟨0, ['a']⟩ (some (tree, ⟨1, []⟩)) := by
  have hbinds : labelledParser.bindings.Binds
      fun name ↦ if name = "single" then some singleHook else none := by
    intro name
    have hbound : labelledParser.bindings = [("single", ⟨"single", singleHook.condition⟩)] := rfl
    rw [hbound]
    by_cases hname : name = "single"
    · subst hname
      rfl
    · simp [Bindings.find?, List.lookup_cons, hname, beq_false_of_ne hname]
  obtain ⟨id, hid, hruns⟩ := machine_refines_peg labelledParser
    (show labelledGrammar.toProgram = .ok labelledParser.program by decide +kernel) _ hbinds
    (fun _ _ ↦ ()) none () ['a'] true ⟨0, ['a']⟩ rfl _ List.mem_cons_self
  have hfirst : labelledParser.program.ruleNamed? "start" = some ⟨0⟩ := by decide +kernel
  obtain rfl : (⟨0⟩ : RuleId) = id := Option.some.inj (hfirst.symm.trans hid)
  have hderives := (hruns _ rfl _ ⟨1, []⟩).mp ⟨_, rfl, rfl, rfl⟩
  exact ⟨_, hderives.1⟩

end PegKit
