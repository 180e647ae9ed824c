import Mathlib.Data.List.Pairwise
import PegKit.Proofs.Grammar.Distinct
import PegKit.Proofs.Program.Building
import PegKit.Proofs.Program.Declared
import PegKit.Proofs.Program.Layout

/-!
# Lowering loses nothing

While a grammar is lowered, the rules of the builder are those that have their body, those that wait
for one, and then the names that were referred to without being declared. The operations added so
far are those of the bodies, one body after the other. In the end the first unknown name is
reported, or there is none, and then the program is the grammar again: its rules in their order, and
nothing in its table but their bodies.
-/

namespace PegKit

open Op (Laid LaidAll)
open Tables (Encodes)

/-! ## Where operations are added -/

namespace Builder

/-- The operations that were added since there were `base` of them are those below `id`. -/
def AddsFrom (base : Nat) (id : OpId) (after : Builder) : Prop :=
  Laid after.ops base id ∧ id.index + 1 = after.ops.size

/-- An operation whose parts were the last to be added. -/
theorem add_laid {op : Op} {base : Nat} {builder : Builder}
    (hparts : LaidAll builder.ops base op.children builder.ops.size) :
    AddsFrom base ((add op).run builder).1 ((add op).run builder).2 := by
  have hgrows := add_grows op builder
  refine ⟨.intro (add_found op builder) ?_, by simp⟩
  exact hparts.mono hgrows.tables.ops

/-- An operation without parts. -/
theorem add_leaf {op : Op} (builder : Builder) (hop : op.children = []) :
    AddsFrom builder.ops.size ((add op).run builder).1 ((add op).run builder).2 :=
  add_laid (hop ▸ .nil)

/-- An operation with one part. -/
theorem add_around {op : Op} {base : Nat} {part : OpId} {builder : Builder}
    (hop : op.children = [part]) (h : AddsFrom base part builder) :
    AddsFrom base ((add op).run builder).1 ((add op).run builder).2 := by
  apply add_laid
  rw [hop, ← h.2]
  exact .single h.1

mutual

theorem addExpr_laid :
    (expr : Expr) → (builder : Builder) →
      AddsFrom builder.ops.size ((addExpr expr).run builder).1 ((addExpr expr).run builder).2
  | .terminal _, builder => add_leaf builder rfl
  | .charClass _, builder => add_leaf builder rfl
  | .anyChar, builder => add_leaf builder rfl
  | .sequence items, builder => add_laid (addExprs_laid items builder)
  | .choice alternatives, builder => add_laid (addExprs_laid alternatives builder)
  | .repetition inner _, builder => add_around rfl (addExpr_laid inner builder)
  | .optional inner, builder => add_around rfl (addExpr_laid inner builder)
  | .lookahead inner, builder => add_around rfl (addExpr_laid inner builder)
  | .negativeLookahead inner, builder => add_around rfl (addExpr_laid inner builder)
  | .predicate hook _, builder => add_leaf ((intern hook).run builder).2 rfl
  | .label name inner, builder => by
    have hpart : AddsFrom builder.ops.size ((addExpr inner).run builder).1
        ((intern name).run ((addExpr inner).run builder).2).2 := addExpr_laid inner builder
    exact add_around rfl hpart
  | .ruleRef name, builder => by
    have hcall := @add_leaf (.call ((declare name).run builder).1)
      ((declare name).run builder).2 rfl
    rw [(declare_ops name builder).1] at hcall
    exact hcall

theorem addExprs_laid :
    (exprs : List Expr) → (builder : Builder) →
      LaidAll ((addExprs exprs).run builder).2.ops builder.ops.size
        ((addExprs exprs).run builder).1 ((addExprs exprs).run builder).2.ops.size
  | [], _ => .nil
  | expr :: rest, builder => by
    have hfirst := addExpr_laid expr builder
    have hothers := addExprs_laid rest ((addExpr expr).run builder).2
    have hgrows := (addExprs_adds rest ((addExpr expr).run builder).2).1
    rw [← hfirst.2] at hothers
    exact .cons (hfirst.1.mono hgrows.tables.ops) hothers

end

/-! ## Names that are not declared -/

/-- After the references `refs`, the rules are those of `base`, with the names `names`, and then
the names that no rule has, the first of them first. -/
def Trails (names : List String) (base : List DeclaredRule) (refs : List String)
    (builder : Builder) : Prop :=
  ∃ unknown : List String,
    builder.rules.toList = base ++ unknown.map (fun name ↦ ⟨name, none⟩) ∧
      unknown.head? = refs.find? fun name ↦ !names.contains name

theorem declare_fresh {name : String} {builder : Builder} (h : name ∉ builder.tables.rules) :
    (declare name).run builder =
      (⟨builder.rules.size⟩, { builder with rules := builder.rules.push ⟨name, none⟩ }) := by
  have hnew : builder.rules.findIdx? (·.name == name) = none := by
    rw [Array.findIdx?_eq_none_iff]
    intro rule hrule
    apply beq_false_of_ne
    intro hsame
    exact h (List.mem_map.mpr ⟨rule, Array.mem_toList_iff.mpr hrule, hsame⟩)
  rw [declare_run, hnew]

theorem declare_trails {names : List String} {base : List DeclaredRule} {refs : List String}
    {builder : Builder} (hbase : base.map (·.name) = names) (h : builder.Trails names base refs)
    (name : String) : ((declare name).run builder).2.Trails names base (refs ++ [name]) := by
  obtain ⟨unknown, hrules, hfirst⟩ := h
  have hlisted : builder.tables.rules = names ++ unknown := by
    rw [tables, hrules, List.map_append, hbase, List.map_map]
    simp [Function.comp_def]
  rw [Trails, List.find?_append, ← hfirst]
  by_cases hknown : name ∈ builder.tables.rules
  · rw [declare_known hknown]
    refine ⟨unknown, hrules, ?_⟩
    rw [hlisted, List.mem_append] at hknown
    rcases hknown with hdeclared | hlate
    · simp [hdeclared]
    · cases unknown with
      | nil => cases hlate
      | cons first rest => rfl
  · rw [declare_fresh hknown]
    refine ⟨unknown ++ [name], by simp [hrules], ?_⟩
    have hundeclared : name ∉ names := by
      intro hdeclared
      exact hknown (hlisted ▸ List.mem_append_left _ hdeclared)
    rw [List.head?_append]
    simp [hundeclared]

mutual

theorem addExpr_trails {names : List String} {base : List DeclaredRule}
    (hbase : base.map (·.name) = names) :
    (expr : Expr) → {refs : List String} → {builder : Builder} → builder.Trails names base refs →
      ((addExpr expr).run builder).2.Trails names base (refs ++ expr.refs)
  | .terminal _, refs, _, h => by rwa [Expr.refs, List.append_nil]
  | .charClass _, refs, _, h => by rwa [Expr.refs, List.append_nil]
  | .anyChar, refs, _, h => by rwa [Expr.refs, List.append_nil]
  | .predicate _ _, refs, _, h => by rwa [Expr.refs, List.append_nil]
  | .sequence items, _, _, h => addExprs_trails hbase items h
  | .choice alternatives, _, _, h => addExprs_trails hbase alternatives h
  | .repetition inner _, _, _, h => addExpr_trails hbase inner h
  | .optional inner, _, _, h => addExpr_trails hbase inner h
  | .lookahead inner, _, _, h => addExpr_trails hbase inner h
  | .negativeLookahead inner, _, _, h => addExpr_trails hbase inner h
  | .label _ inner, _, _, h => addExpr_trails hbase inner h
  | .ruleRef name, _, _, h => declare_trails hbase h name

theorem addExprs_trails {names : List String} {base : List DeclaredRule}
    (hbase : base.map (·.name) = names) :
    (exprs : List Expr) → {refs : List String} → {builder : Builder} →
      builder.Trails names base refs →
        ((addExprs exprs).run builder).2.Trails names base (refs ++ Expr.refsOfList exprs)
  | [], refs, _, h => by rwa [Expr.refsOfList, List.append_nil]
  | expr :: rest, _, _, h => by
    have hothers := addExprs_trails hbase rest (addExpr_trails hbase expr h)
    rw [List.append_assoc] at hothers
    exact hothers

end

/-! ## Rules and their bodies -/

def waiting (rule : Rule) : DeclaredRule := ⟨rule.name, none⟩

/-- A rule with the body that it was given. -/
def given (entry : Rule × OpId) : DeclaredRule := ⟨entry.1.name, some entry.2⟩

/-- Rules of different names get consecutive numbers. -/
theorem declareAll_distinct (rules : List Rule) {done : List Rule} {builder : Builder}
    (hdone : builder.rules.toList = done.map waiting)
    (hnames : ((done ++ rules).map (·.name)).Nodup) :
    (declareAll rules).run builder =
      ((List.range' done.length rules.length).map RuleId.mk,
        { builder with rules := ((done ++ rules).map waiting).toArray }) := by
  induction rules generalizing done builder with
  | nil =>
    rw [List.append_nil, ← hdone]
    rfl
  | cons rule rest ih =>
    have hlisted : builder.tables.rules = done.map (·.name) := by
      rw [tables, hdone, List.map_map]
      rfl
    have hsize : builder.rules.size = done.length := by
      rw [← Array.length_toList, hdone, List.length_map]
    have hnew : rule.name ∉ builder.tables.rules := by
      rw [hlisted]
      intro hold
      rw [List.map_append, List.nodup_append] at hnames
      exact hnames.2.2 _ hold _ List.mem_cons_self rfl
    have hassoc : done ++ rule :: rest = done ++ [rule] ++ rest := by simp
    have hrest := @ih (done ++ [rule]) { builder with rules := builder.rules.push (waiting rule) }
      (by simp [hdone]) (hassoc ▸ hnames)
    have hdeclare := declare_fresh hnew
    rw [hsize] at hdeclare
    simp only [declareAll, StateT.run_bind, hdeclare]
    change ((declareAll rest).run { builder with rules := builder.rules.push (waiting rule) } >>=
      fun others ↦ pure (⟨done.length⟩ :: others.1, others.2) : Id _) = _
    rw [hrest, hassoc, List.length_append, List.length_singleton]
    rfl

/-- What holds between two definitions: the bodies of `done` are added and given to their rules,
and the rules of `todo` wait. -/
structure Midway (grammar : Grammar) (builder : Builder) (done : List (Rule × OpId))
    (todo : List Rule) : Prop where
  accepted : builder.duplicate = none
  all : done.map Prod.fst ++ todo = grammar.rules
  rules : builder.Trails grammar.ruleNames (done.map given ++ todo.map waiting)
    (done.flatMap (·.1.body.refs))
  laid : LaidAll builder.ops 0 (done.map Prod.snd) builder.ops.size
  encodes : ∀ entry ∈ done, Encodes builder.tables entry.2 entry.1.body

theorem Midway.next {grammar : Grammar} {builder : Builder} {done : List (Rule × OpId)}
    {rule : Rule} {todo : List Rule} (h : Midway grammar builder done (rule :: todo)) :
    Midway grammar
      ((define ⟨done.length⟩ ((addExpr rule.body).run builder).1).run
        ((addExpr rule.body).run builder).2).2
      (done ++ [(rule, ((addExpr rule.body).run builder).1)]) todo := by
  have hnames : (done.map given ++ (rule :: todo).map waiting).map (·.name) =
      grammar.ruleNames := by
    rw [Grammar.ruleNames, ← h.all]
    simp [given, waiting, Function.comp_def]
  obtain ⟨hgrows, hencodes⟩ := addExpr_adds rule.body builder
  obtain ⟨hlaid, hlast⟩ := addExpr_laid rule.body builder
  obtain ⟨unknown, hrules, hfirst⟩ := addExpr_trails hnames rule.body h.rules
  generalize ((addExpr rule.body).run builder).1 = body at *
  generalize ((addExpr rule.body).run builder).2 = added at *
  have hwaits : added.rules[done.length]? = some (waiting rule) := by
    rw [← Array.getElem?_toList, hrules]
    simp
  have hkeeps := define_keeps body hwaits
  rw [define_run ⟨done.length⟩ body added hwaits]
  simp only [waiting, Option.isSome_none, Bool.false_eq_true, if_false]
  refine ⟨?_, ?_, ⟨unknown, ?_, ?_⟩, ?_, ?_⟩
  · exact hgrows.duplicate.trans h.accepted
  · rw [← h.all]
    simp
  · rw [Array.toList_setIfInBounds, hrules]
    simp [given]
  · rw [hfirst, List.flatMap_append]
    simp
  · rw [List.map_append, ← hlast]
    exact (h.laid.mono hgrows.tables.ops).append (.single hlaid)
  · intro entry hentry
    rcases List.mem_append.mp hentry with hold | hnew
    · exact ((h.encodes entry hold).mono hgrows.tables).mono hkeeps.tables
    · rw [List.mem_singleton.mp hnew]
      exact hencodes.mono hkeeps.tables

/-- All definitions, one after the other. -/
theorem Midway.defineAll {grammar : Grammar} {builder : Builder} {done : List (Rule × OpId)}
    {todo : List Rule} (h : Midway grammar builder done todo) :
    ∃ all, Midway grammar
      ((Builder.defineAll (todo.zip
        ((List.range' done.length todo.length).map RuleId.mk))).run builder).2 all [] := by
  induction todo generalizing done builder with
  | nil => exact ⟨done, h⟩
  | cons rule rest ih =>
    obtain ⟨all, hall⟩ := ih h.next
    refine ⟨all, ?_⟩
    rw [List.length_append, List.length_singleton] at hall
    exact hall

/-- The first rule without a body is reported, if there is one. -/
theorem entries_trailing (done : List (Rule × OpId)) (unknown : List String) :
    entries (done.map given ++ unknown.map fun name ↦ ⟨name, none⟩) =
      match unknown with
      | [] => .ok (done.map fun entry ↦ ⟨entry.1.name, entry.2⟩)
      | name :: _ => .error (.undefinedRule name) := by
  induction done with
  | nil => cases unknown <;> rfl
  | cons entry rest ih =>
    rw [List.map_cons, List.cons_append, entries, given]
    simp only [ih]
    cases unknown <;> rfl

end Builder

/-! ## The whole grammar -/

namespace Grammar

/-- The names that rule bodies refer to, in the order of writing. -/
def refs (grammar : Grammar) : List String :=
  grammar.rules.flatMap (·.body.refs)

/-- The first reference that names no rule. -/
def unknownRef? (grammar : Grammar) : Option String :=
  grammar.refs.find? fun name ↦ !grammar.ruleNames.contains name

theorem unknownRef?_eq_none_iff (grammar : Grammar) :
    grammar.unknownRef? = none ↔ grammar.Closed := by
  rw [unknownRef?, List.find?_eq_none, refs, Closed]
  constructor
  · intro hknown rule hrule name hname
    simpa using hknown name (List.mem_flatMap.mpr ⟨rule, hrule, hname⟩)
  · intro hclosed name hmem
    obtain ⟨rule, hrule, hname⟩ := List.mem_flatMap.mp hmem
    simpa using hclosed rule hrule name hname

end Grammar

/-- The program holds the rules of the grammar, and nothing in its table but their bodies. -/
structure Program.Mirrors (program : Program) (grammar : Grammar) : Prop where
  size : program.rules.size = grammar.rules.length
  rules : ∀ {i : Nat} {rule : Rule}, grammar.rules[i]? = some rule →
    ∃ entry, program.rules[i]? = some entry ∧ entry.name = rule.name ∧
      program.expr? entry.body = some rule.body
  parts_first : program.PartsFirst
  /-- Every operation stands in the body of exactly one rule. -/
  one_body : ∀ {i : Nat}, i < program.ops.size →
    ∃! rule : Nat, ∃ entry, program.rules[rule]? = some entry ∧
      Op.Below program.ops entry.body ⟨i⟩
  /-- No operation is a part of two others. -/
  one_owner : ∀ {i j : Nat} {op op' : Op} {part : OpId}, program.ops[i]? = some op →
    program.ops[j]? = some op' → part ∈ op.children → part ∈ op'.children → i = j
  /-- No operation is a part of another one twice. -/
  parts_nodup : ∀ op ∈ program.ops, op.children.Nodup

/-- The rules are listed in the order of the grammar. -/
theorem Program.Mirrors.names {program : Program} {grammar : Grammar}
    (h : program.Mirrors grammar) : program.rules.toList.map (·.name) = grammar.ruleNames := by
  apply List.ext_getElem?
  intro i
  rw [Grammar.ruleNames, List.getElem?_map, List.getElem?_map, Array.getElem?_toList]
  cases hrule : grammar.rules[i]? with
  | none =>
    have hnone : program.rules[i]? = none := by
      rw [Array.getElem?_eq_none_iff, h.size]
      exact List.getElem?_eq_none_iff.mp hrule
    rw [hnone]
    rfl
  | some rule =>
    obtain ⟨entry, hentry, hname, _⟩ := h.rules hrule
    rw [hentry, Option.map_some, Option.map_some, hname]

namespace Builder

open Grammar (refs unknownRef?)

/-- Lowering ends with all rules defined, and with the unknown names after them. -/
theorem addGrammar_midway (grammar : DistinctGrammar) :
    ∃ done, Midway grammar.toGrammar ((addGrammar grammar.toGrammar).run (.new grammar.name)).2 done [] := by
  have hdeclared := @declareAll_distinct grammar.rules [] (ofHeader grammar.toGrammar) rfl
    grammar.distinct
  have hstart : Midway grammar.toGrammar
      ((declareAll grammar.rules).run (ofHeader grammar.toGrammar)).2 []
      grammar.rules := by
    rw [hdeclared]
    exact ⟨rfl, rfl, ⟨[], by simp, rfl⟩, .nil, by rintro _ ⟨⟩⟩
  rw [addGrammar_run]
  have hids : ((declareAll grammar.rules).run (ofHeader grammar.toGrammar)).1 =
      (List.range' 0 grammar.rules.length).map RuleId.mk := by rw [hdeclared]; rfl
  rw [hids]
  exact hstart.defineAll

/-- A table in which the bodies of all rules stand one after the other. -/
theorem Midway.mirrors {grammar : Grammar} {program : Program} {done : List (Rule × OpId)}
    (h : Midway grammar (ofProgram program) done [])
    (hrules : program.rules.toList = done.map fun entry ↦ ⟨entry.1.name, entry.2⟩) :
    program.Mirrors grammar := by
  have hall : done.map Prod.fst = grammar.rules := by simpa using h.all
  have hlaid : LaidAll program.ops 0 (done.map Prod.snd) program.ops.size := h.laid
  have hparts : program.PartsFirst := by
    intro i op part hop hpart
    obtain ⟨hlt, _⟩ := Array.getElem?_eq_some_iff.mp hop
    exact (hlaid.part_bounds (Nat.zero_le i) hlt hop hpart).2
  have hentry (i : Nat) : program.rules[i]? =
      done[i]?.map fun entry ↦ ⟨entry.1.name, entry.2⟩ := by
    rw [← Array.getElem?_toList, hrules, List.getElem?_map]
  have hbody {i : Nat} {entry : RuleEntry} (hfound : program.rules[i]? = some entry) :
      (done.map Prod.snd)[i]? = some entry.body := by
    rw [hentry, Option.map_eq_some_iff] at hfound
    obtain ⟨found, hplace, rfl⟩ := hfound
    rw [List.getElem?_map, hplace]
    rfl
  have hnodup := List.nodup_flatMap.mp hlaid.parts_nodup
  have hat {i : Nat} {op : Op} (hop : program.ops[i]? = some op) :
      i ∈ List.range program.ops.size ∧ Op.partsAt program.ops i = op.children := by
    obtain ⟨hlt, _⟩ := Array.getElem?_eq_some_iff.mp hop
    exact ⟨List.mem_range.mpr hlt, by rw [Op.partsAt, hop]; rfl⟩
  refine ⟨?_, ?_, hparts, ?_, ?_, ?_⟩
  · rw [← Array.length_toList, hrules, ← hall, List.length_map, List.length_map]
  · intro i rule hrule
    rw [← hall, List.getElem?_map, Option.map_eq_some_iff] at hrule
    obtain ⟨found, hplace, rfl⟩ := hrule
    refine ⟨⟨found.1.name, found.2⟩, by rw [hentry, hplace]; rfl, rfl, ?_⟩
    have hencodes := h.encodes found (List.mem_of_getElem? hplace)
    rw [tables_ofProgram] at hencodes
    exact hencodes.exprTo hparts (Nat.lt_succ_self _)
  · intro i hlt
    obtain ⟨root, hroot, hbelow⟩ := hlaid.reaches (Nat.zero_le i) hlt
    obtain ⟨found, hfound, rfl⟩ := List.mem_map.mp hroot
    obtain ⟨rule, hplace⟩ := List.getElem?_of_mem hfound
    refine ⟨rule, ⟨⟨found.1.name, found.2⟩, by rw [hentry, hplace]; rfl, hbelow⟩, ?_⟩
    rintro other ⟨entry, hother, hbelow'⟩
    have hthis : (done.map Prod.snd)[rule]? = some found.2 := by
      rw [List.getElem?_map, hplace]
      rfl
    exact hlaid.root_unique (hbody hother) hthis hbelow' hbelow
  · intro i j op op' part hop hop' hpart hpart'
    by_contra hne
    have : Std.Symm (Function.onFun List.Disjoint (Op.partsAt program.ops)) :=
      ⟨fun _ _ h _ hright hleft ↦ h hleft hright⟩
    have hdisjoint : (Op.partsAt program.ops i).Disjoint (Op.partsAt program.ops j) :=
      hnodup.2.forall (hat hop).1 (hat hop').1 hne
    rw [(hat hop).2, (hat hop').2] at hdisjoint
    exact hdisjoint hpart hpart'
  · intro op hmem
    obtain ⟨i, hop⟩ := Array.mem_iff_getElem?.mp hmem
    have hthese := hnodup.1 i (hat hop).1
    rwa [(hat hop).2] at hthese

/-- When all bodies are given, only an unknown name is left to be refused. -/
theorem Midway.finish {grammar : Grammar} {builder : Builder} {done : List (Rule × OpId)}
    (h : Midway grammar builder done []) :
    match grammar.unknownRef? with
    | some name => builder.finish = .error (.undefinedRule name)
    | none => ∃ program, builder.finish = .ok program ∧ program.Mirrors grammar := by
  obtain ⟨unknown, hrules, hfirst⟩ := h.rules
  have hall : done.map Prod.fst = grammar.rules := by simpa using h.all
  have hrefs : done.flatMap (·.1.body.refs) = grammar.refs := by
    rw [refs, ← hall, List.flatMap_map]
  rw [List.map_nil, List.append_nil] at hrules
  rw [hrefs] at hfirst
  have hentries := entries_trailing done unknown
  rw [← hrules] at hentries
  rw [unknownRef?, ← hfirst]
  cases unknown with
  | cons name others =>
    change builder.finish = _
    rw [Builder.finish, h.accepted, hentries]
    rfl
  | nil =>
    have hfinish : builder.finish = .ok ⟨builder.name, builder.comments, builder.ops,
        (done.map fun entry ↦ ⟨entry.1.name, entry.2⟩).toArray, builder.symbols⟩ := by
      rw [Builder.finish, h.accepted, hentries]
      rfl
    refine ⟨_, hfinish, ?_⟩
    exact Midway.mirrors (finish_eq_ok_iff.mp hfinish ▸ h) rfl

end Builder

namespace Grammar

theorem toProgram_mirrors (grammar : DistinctGrammar) {program : Program}
    (h : grammar.toProgram = .ok program) : program.Mirrors grammar.toGrammar := by
  obtain ⟨done, hmidway⟩ := Builder.addGrammar_midway grammar
  have hfinish := hmidway.finish
  rw [← toProgram, h] at hfinish
  cases hunknown : grammar.unknownRef? with
  | some name =>
    rw [hunknown] at hfinish
    cases hfinish
  | none =>
    rw [hunknown] at hfinish
    obtain ⟨_, hok, hmirrors⟩ := hfinish
    cases hok
    exact hmirrors

/-- Lowering loses nothing. A grammar has no program exactly when a body refers to a name that no
rule has; the first such reference is reported. Otherwise the program is the grammar again, read
from a table that holds every rule body once. -/
theorem toProgram_loses_nothing (grammar : DistinctGrammar) :
    ((∃ error, grammar.toProgram = .error error) ↔
        ∃ rule ∈ grammar.rules, ∃ name ∈ rule.body.refs, name ∉ grammar.ruleNames) ∧
      (∀ name, grammar.unknownRef? = some name →
        grammar.toProgram = .error (.undefinedRule name)) ∧
      ∀ program, grammar.toProgram = .ok program → program.Mirrors grammar.toGrammar := by
  obtain ⟨done, hmidway⟩ := Builder.addGrammar_midway grammar
  have hfinish := hmidway.finish
  rw [← toProgram] at hfinish
  have hclosed := grammar.unknownRef?_eq_none_iff
  have hopen : ¬ grammar.Closed ↔
      ∃ rule ∈ grammar.rules, ∃ name ∈ rule.body.refs, name ∉ grammar.ruleNames := by
    simp [Closed]
  rw [← hopen]
  cases hunknown : grammar.unknownRef? with
  | some name =>
    rw [hunknown] at hfinish hclosed
    have hfails : ¬ grammar.Closed := by
      intro h
      cases hclosed.mpr h
    refine ⟨⟨fun _ ↦ hfails, fun _ ↦ ⟨_, hfinish⟩⟩, ?_, ?_⟩
    · intro name' hsame
      cases hsame
      exact hfinish
    · intro program hprogram
      rw [hfinish] at hprogram
      cases hprogram
  | none =>
    rw [hunknown] at hfinish
    obtain ⟨program, hok, hmirrors⟩ := hfinish
    have hsucceeds : grammar.Closed := hclosed.mp hunknown
    refine ⟨⟨?_, fun hfails ↦ absurd hsucceeds hfails⟩, by rintro _ ⟨⟩, ?_⟩
    · rintro ⟨error, herror⟩
      rw [hok] at herror
      cases herror
    · intro program' hprogram
      rw [hok, Except.ok.injEq] at hprogram
      exact hprogram ▸ hmirrors

/-- Rules that call each other, the second under a label and a lookahead. -/
def nestedGrammar : DistinctGrammar :=
  ((DistinctGrammar.empty "Nested").addRule ⟨"list", .sequence [.terminal "(",
    .repetition (.label "item" (.ruleRef "item")) 0, .terminal ")"]⟩).addRule
      ⟨"item", .choice [.sequence [.lookahead (.terminal "("), .ruleRef "list"],
        .predicate "item" true]⟩

/-- Only the second of three references is unknown, and then the third one too. -/
def openGrammar : DistinctGrammar :=
  (DistinctGrammar.empty "Open").addRule ⟨"start", .sequence [.ruleRef "start", .optional (.ruleRef "b"),
    .label "a" (.ruleRef "a")]⟩

theorem toProgram_loses_nothing_nested :
    (∃ program, nestedGrammar.toProgram = .ok program ∧
      program.Mirrors nestedGrammar.toGrammar) ∧
      openGrammar.toProgram = .error (.undefinedRule "b") := by
  obtain ⟨hfails, _, hmirrors⟩ := toProgram_loses_nothing nestedGrammar
  obtain ⟨_, hfirst, _⟩ := toProgram_loses_nothing openGrammar
  refine ⟨?_, hfirst "b" (by decide)⟩
  have hknown : ¬ ∃ rule ∈ nestedGrammar.rules, ∃ name ∈ rule.body.refs,
      name ∉ nestedGrammar.ruleNames := by decide
  cases hresult : nestedGrammar.toProgram with
  | error error => exact absurd (hfails.mp ⟨error, hresult⟩) hknown
  | ok program => exact ⟨program, rfl, hmirrors program hresult⟩

end Grammar

end PegKit
