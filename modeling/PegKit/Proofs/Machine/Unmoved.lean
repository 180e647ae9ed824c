import PegKit.Proofs.Grammar.Nullable
import PegKit.Proofs.Machine.Backtracking
import PegKit.Proofs.Program.Faithful
import PegKit.Proofs.Program.Refinement

/-!
# Matches that read nothing

An evaluation that ends with a match where it began has read nothing, and the analysis has foreseen
that it may: the expression is nullable over the nullable rules of the grammar. This holds in every
state of the machine, whatever the hooks answer, and through rules that call each other, since a
derivation only ever rests on shorter ones. The converse does not hold, because the analysis looks
neither at lookaheads nor at the order of alternatives.
-/

namespace PegKit

open Program (Decision Task Yield Yields Stands)

/-! ## What operations stand for -/

namespace Tables

variable {tables : Tables}

theorem EncodesAll.part {ids : List OpId} {exprs : List Expr} (h : tables.EncodesAll ids exprs)
    {part : OpId} (hpart : part ∈ ids) : ∃ expr, tables.Encodes part expr := by
  induction ids generalizing exprs with
  | nil => cases hpart
  | cons id rest ih =>
    cases h with
    | @cons _ expr _ _ first others =>
      rcases List.mem_cons.mp hpart with hfirst | hrest
      · exact ⟨expr, hfirst ▸ first⟩
      · exact ih others hrest

/-- The parts of an operation that stands for an expression stand for expressions. -/
theorem Shape.part {op : Op} {expr : Expr} (h : tables.Shape op expr) {part : OpId}
    (hpart : part ∈ op.children) : ∃ inner, tables.Encodes part inner := by
  have hsingle {inner : OpId} {expr : Expr} (hinner : tables.Encodes inner expr)
      (hmem : part ∈ [inner]) : ∃ inner, tables.Encodes part inner :=
    ⟨expr, List.mem_singleton.mp hmem ▸ hinner⟩
  cases h with
  | terminal => cases hpart
  | charClass => cases hpart
  | anyChar => cases hpart
  | sequence parts => exact parts.part hpart
  | choice parts => exact parts.part hpart
  | repetition inner => exact hsingle inner hpart
  | optional inner => exact hsingle inner hpart
  | lookahead inner => exact hsingle inner hpart
  | negativeLookahead inner => exact hsingle inner hpart
  | predicate text => cases hpart
  | label text inner => exact hsingle inner hpart
  | call named => cases hpart

theorem Encodes.of_below {root id : OpId} {expr : Expr} (h : tables.Encodes root expr)
    (hbelow : Op.Below tables.ops root id) : ∃ inner, tables.Encodes id inner := by
  induction hbelow with
  | root => exact ⟨expr, h⟩
  | @part _ _ op _ found member ih =>
    obtain ⟨inner, hinner⟩ := ih
    cases hinner with
    | intro found' shape =>
      have hsame : _ = op := Option.some.inj (found'.symm.trans found)
      exact (hsame ▸ shape).part member

end Tables

namespace Program

variable {program : Program} {grammar : Grammar}

/-- In a program that mirrors a grammar, every operation stands for an expression, which is the one
that is read back for it. -/
theorem Mirrors.encodes (h : program.Mirrors grammar) (hencodes : program.Encodes grammar)
    {id : OpId} (hid : id.index < program.ops.size) :
    ∃ expr, program.tables.Encodes id expr ∧ program.expr? id = some expr := by
  obtain ⟨place, ⟨entry, hentry, hbelow⟩, -⟩ := h.one_body hid
  obtain ⟨rule, -, hbody⟩ := @hencodes.encoded ⟨place⟩ entry hentry
  obtain ⟨expr, hexpr⟩ := hbody.of_below hbelow
  exact ⟨expr, hexpr, hexpr.exprTo h.parts_first (Nat.lt_succ_self _)⟩

end Program

/-! ## Derivations -/

/-- A character takes the place further. -/
theorem Cursor.offset_after_ne (cursor : Cursor) (c : Char) (rest : List Char) :
    (cursor.after [c] rest).offset ≠ cursor.offset := by
  have hpos := c.utf8Size_pos
  change cursor.offset + Text.byteLength [c] ≠ cursor.offset
  rw [Text.byteLength_cons, Text.byteLength_nil]
  omega

/-- The task may end where it began, when the rules of `names` may succeed without reading. Matches
that a repetition has found before may be enough for it. -/
def Peg.Task.MayStay (names : List String) : Peg.Task → Prop
  | .expr whole => whole.isNullable names = true
  | .items parts _ => Expr.allNullable names parts = true
  | .alternatives parts => Expr.anyNullable names parts = true
  | .iterations inner least _ found => least ≤ found.length ∨ inner.isNullable names = true

namespace Program

variable {program : Program} {grammar : Grammar}

/-- Only what is in the table is matched. -/
theorem Yields.lt_size {decides : Decision} {id : OpId} {siblings : List ParseTree}
    {cursor : Cursor} {yield : Yield} (h : Yields program decides (.op id) siblings cursor yield) :
    id.index < program.ops.size := by
  obtain ⟨op, hop⟩ : ∃ op, program.ops[id.index]? = some op := by
    cases h <;> exact ⟨_, ‹_›⟩
  exact (Array.getElem?_eq_some_iff.mp hop).1

theorem le_length_of_repetitionYield {least : Nat} {start cursor stop : Cursor}
    {found : List ParseTree} {tree : ParseTree}
    (h : repetitionYield least start found cursor = some (tree, stop)) : least ≤ found.length := by
  unfold repetitionYield at h
  split at h
  · cases h
  · next hmany => exact Nat.le_of_not_lt hmany

/-- By induction on the derivation: where a task ends where it began, so do those of its parts that
were matched one after the other, since none of them goes back. -/
theorem Yields.mayStay (hprogram : program.Encodes grammar) {decides : Decision} {task : Task}
    {siblings : List ParseTree} {cursor stop : Cursor} {tree : ParseTree}
    (h : Yields program decides task siblings cursor (some (tree, stop)))
    (hstays : stop.offset = cursor.offset) {task' : Peg.Task} (hstands : Stands program task task') :
    task'.MayStay grammar.nullableRules := by
  generalize hyield : some (tree, stop) = yield at h
  induction h generalizing tree stop task' with
  | @terminalHit id text siblings cursor rest op lead =>
    obtain ⟨_, rfl, ⟨⟩⟩ := hstands.shape op
    cases hyield
    have hnone : Text.byteLength text.toList = 0 := Nat.add_eq_left.mp hstays
    rw [Peg.Task.MayStay, Expr.isNullable, String.isEmpty_iff]
    exact String.toList_eq_nil_iff.mp (Text.byteLength_eq_zero_iff.mp hnone)
  | terminalMiss => cases hyield
  | @classHit id cls siblings cursor c rest op lead accepted =>
    cases hyield
    exact absurd hstays (cursor.offset_after_ne c rest)
  | classMiss => cases hyield
  | @anyHit id siblings cursor c rest op lead =>
    cases hyield
    exact absurd hstays (cursor.offset_after_ne c rest)
  | anyMiss => cases hyield
  | sequence op _ ih =>
    obtain ⟨_, rfl, hshape⟩ := hstands.shape op
    cases hshape with
    | sequence parts =>
      have hitems := ih hstays (.items parts) hyield
      exact hitems
  | itemsDone =>
    cases hstands with
    | items parts =>
      cases parts
      rfl
  | itemsFail => cases hyield
  | itemsNext first others ihfirst ihothers =>
    subst hyield
    have hnext := first.passes.offset_le
    have hstop := others.passes.offset_le
    cases hstands with
    | items parts =>
      cases parts with
      | cons part parts =>
        have hitem := ihfirst (by omega) (.op part) rfl
        have hrest := ihothers (by omega) (.items parts) rfl
        exact Bool.and_eq_true_iff.mpr ⟨hitem, hrest⟩
  | choice op _ ih =>
    obtain ⟨_, rfl, hshape⟩ := hstands.shape op
    cases hshape with
    | choice parts =>
      have halternatives := ih hstays (.alternatives parts) hyield
      exact halternatives
  | alternativesNone => cases hyield
  | alternativesHit _ ih =>
    cases hstands with
    | alternatives parts =>
      cases parts with
      | cons part _ =>
        have hfirst := ih hstays (.op part) hyield
        exact Bool.or_eq_true_iff.mpr (.inl hfirst)
  | alternativesNext _ _ _ ihothers =>
    cases hstands with
    | alternatives parts =>
      cases parts with
      | cons _ parts =>
        have hothers := ihothers hstays (.alternatives parts) hyield
        exact Bool.or_eq_true_iff.mpr (.inr hothers)
  | repetition op _ ih =>
    obtain ⟨_, rfl, hshape⟩ := hstands.shape op
    cases hshape with
    | repetition part =>
      have hloop := ih hstays (.iterations part) hyield
      rw [Peg.Task.MayStay, Expr.isNullable, Bool.or_eq_true, beq_iff_eq]
      exact hloop.imp_left Nat.eq_zero_of_le_zero
  | iterationsStop =>
    cases hstands with
    | iterations part =>
      left
      rw [ParseTree.length_namedAll]
      exact le_length_of_repetitionYield hyield.symm
  | iterationsStay last stays ih =>
    cases hstands with
    | iterations part =>
      right
      have hnext := last.passes.offset_le
      exact ih (by omega) (.op part) rfl
  | iterationsNext first moves others _ _ =>
    subst hyield
    have hback := others.passes.offset_le
    omega
  | optionalHit op | optionalMiss op | lookaheadHit op | negativeLookaheadMiss op | predicate op =>
    obtain ⟨_, rfl, hshape⟩ := hstands.shape op
    cases hshape
    rfl
  | lookaheadMiss => cases hyield
  | negativeLookaheadHit => cases hyield
  | label op _ ih =>
    obtain ⟨_, rfl, hshape⟩ := hstands.shape op
    cases hshape with
    | label text part =>
      obtain ⟨found, hfound, hsame⟩ := Option.map_eq_some_iff.mp hyield.symm
      cases hsame
      have hinner := ih hstays (.op part) hfound.symm
      exact hinner
  | call op _ ih =>
    obtain ⟨_, rfl, hshape⟩ := hstands.shape op
    cases hshape with
    | call named => exact ih hstays (.rule named) hyield
  | @rule id entry siblings cursor yield found _ ih =>
    cases hstands with
    | @rule _ name named =>
      obtain ⟨rule, hrule, hbody⟩ := hprogram.encoded found
      have hname : entry.name = name := by
        rw [tables_rules, found, Option.map_some] at named
        exact Option.some.inj named
      obtain ⟨inner, hinner, hsame⟩ := Option.map_eq_some_iff.mp hyield.symm
      cases hsame
      have hnullable := ih hstays (.op hbody) hinner.symm
      have hmember := grammar.nullableRules_closed rule (List.mem_of_find?_eq_some hrule) hnullable
      have hfound : rule.name = entry.name := by simpa using List.find?_some hrule
      rw [hfound, hname] at hmember
      exact List.contains_iff_mem.mpr hmember

end Program

/-! ## Evaluations -/

namespace Machine

variable {τ : Type} {setting : Setting τ} {id : OpId} {start stop : Cursor}

/-- In some state, whatever is in progress and whatever was left behind, the evaluation of `id` at
`start` ends with a match at `stop`. -/
def MayMatch (setting : Setting τ) (id : OpId) (start stop : Cursor) : Prop :=
  ∃ (levels : Nat) (around around' : Stacks) (store : Store τ) (found : Match),
    (((eval setting levels id start).run around).run.run store).1 = .ok (some found, around') ∧
      found.after = stop

theorem MayMatch.yields (h : MayMatch setting id start stop) :
    ∃ tree, Yields setting.program (Watch.blind setting).decides (.op id) [] start
      (some (tree, stop)) := by
  obtain ⟨levels, around, around', store, found, hrun, rfl⟩ := h
  have hleaves := eval_ensures (Watch.blind setting)
    (min levels (setting.depthLimit - around.depth)) id around.scope start [] store.nodes trivial
    store rfl trivial
  rw [eval_run, ExceptT.run_map, StateT.run_map] at hrun
  cases hscoped : (Scoped.eval setting (min levels (setting.depthLimit - around.depth)) id
      around.scope start).run.run store with
  | mk answer between =>
    rw [hscoped] at hrun hleaves
    cases answer with
    | error error => cases hrun
    | ok hit =>
      cases hrun
      obtain ⟨⟨tree, hyields, -⟩, -⟩ := hleaves.2 (some found) rfl
      exact ⟨tree, hyields⟩

/-- What is matched without reading on stands for an expression that is foreseen to be so. -/
theorem MayMatch.nullable (grammar : DistinctGrammar)
    (hprogram : grammar.toProgram = .ok setting.program) (h : MayMatch setting id start stop)
    (hstays : stop.offset = start.offset) :
    ∃ expr, setting.program.expr? id = some expr ∧
      expr.isNullable grammar.nullableRules = true := by
  have hencodes := Grammar.toProgram_encodes hprogram
  obtain ⟨tree, hyields⟩ := h.yields
  obtain ⟨expr, hexpr, hread⟩ :=
    (Grammar.toProgram_mirrors grammar hprogram).encodes hencodes hyields.lt_size
  have hstay := hyields.mayStay hencodes hstays (.op hexpr)
  exact ⟨expr, hread, hstay⟩

end Machine

namespace Grammar

/-- The rounds over the rules stop, and what they find is the least set of declared rules that holds
a rule exactly when its body is nullable over the set, whatever the order of the rules; and over more
rules no fewer expressions are nullable. Whenever the machine matches an operation of the program
without reading on, the expression that the operation stands for is nullable over that set. -/
theorem nullableRules_foresee (grammar : DistinctGrammar) :
    saturate grammar.rules [] = grammar.nullableRules ∧ grammar.nullableRules.Nodup ∧
      grammar.NullFixed grammar.nullableRules ∧
      (∀ names, grammar.NullFixed names → grammar.nullableRules ⊆ names) ∧
      (∀ other : Grammar, grammar.rules.Perm other.rules →
        ∀ name, name ∈ grammar.nullableRules ↔ name ∈ other.nullableRules) ∧
      (∀ (expr : Expr) (names names' : List String), names ⊆ names' →
        expr.isNullable names = true → expr.isNullable names' = true) ∧
      ∀ (τ : Type) (setting : Machine.Setting τ), grammar.toProgram = .ok setting.program →
        ∀ (id : OpId) (start stop : Cursor), Machine.MayMatch setting id start stop →
          stop.offset = start.offset →
            ∃ expr, setting.program.expr? id = some expr ∧
              expr.isNullable grammar.nullableRules = true := by
  refine ⟨saturate_nil grammar.toGrammar, nullableRules_nodup grammar.toGrammar,
    nullableRules_fixed grammar, ?_, ?_, ?_, ?_⟩
  · intro names hfixed
    exact (nullableRules_least grammar.toGrammar).least names hfixed.closed
  · intro other horder name
    constructor
    · exact fun hname ↦ nullableRules_subset_of_perm horder hname
    · exact fun hname ↦ nullableRules_subset_of_perm horder.symm hname
  · intro expr names names' hsubset hnullable
    exact Expr.isNullable_mono hsubset expr hnullable
  · intro τ setting hprogram id start stop hmatch hstays
    exact hmatch.nullable grammar hprogram hstays

/-- The rule `close` is found in the first round and `open` in the second. -/
def gapGrammar : DistinctGrammar where
  name := "gaps"
  rules := [⟨"open", .sequence [.ruleRef "close", .optional (.terminal "(")]⟩,
    ⟨"close", .choice [.terminal ")", .negativeLookahead .anyChar]⟩,
    ⟨"both", .sequence [.ruleRef "open", .terminal "x"]⟩]
  comments := []
  distinct := by decide

def gapSetting : Machine.Setting Unit :=
  let ops := #[.call ⟨1⟩, .terminal "(", .optional ⟨1⟩, .sequence [⟨0⟩, ⟨2⟩], .terminal ")",
    .anyChar, .negativeLookahead ⟨5⟩, .choice [⟨4⟩, ⟨6⟩], .call ⟨0⟩, .terminal "x",
    .sequence [⟨8⟩, ⟨9⟩]]
  ⟨⟨"gaps", [], ops, #[⟨"open", ⟨3⟩⟩, ⟨"close", ⟨7⟩⟩, ⟨"both", ⟨10⟩⟩], ⟨#[]⟩⟩, [], #[], 8,
    fun _ _ ↦ ()⟩

/-- At the end of the input, `both` gets as far as past `open`. -/
theorem nullableRules_foresee_gaps :
    gapGrammar.nullableRules = ["close", "open"] ∧
    gapGrammar.toProgram = .ok gapSetting.program ∧
    Machine.MayMatch gapSetting ⟨8⟩ ⟨0, []⟩ ⟨0, []⟩ ∧
    ∃ expr, gapSetting.program.expr? ⟨8⟩ = some expr ∧
      expr.isNullable gapGrammar.nullableRules = true := by
  have hprogram : gapGrammar.toProgram = .ok gapSetting.program := by decide +kernel
  have hmatch : Machine.MayMatch gapSetting ⟨8⟩ ⟨0, []⟩ ⟨0, []⟩ :=
    ⟨8, .empty, .empty, ⟨#[], .empty, none, ()⟩, ⟨⟨2⟩, ⟨0, []⟩⟩, by decide +kernel, rfl⟩
  obtain ⟨-, -, -, -, -, -, hforesees⟩ := nullableRules_foresee gapGrammar
  exact ⟨by decide +kernel, hprogram, hmatch,
    hforesees Unit gapSetting hprogram ⟨8⟩ _ _ hmatch rfl⟩

end Grammar

end PegKit
