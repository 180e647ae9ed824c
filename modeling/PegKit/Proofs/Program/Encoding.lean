import PegKit.Program.Lowering

/-!
# Programs encode grammars

Lowering writes the expressions of a grammar into tables. `Encodes` says that an operation, followed
through its parts, stands for an expression; it only reads entries that are there, so it stays true
when the tables grow. The program of a grammar encodes the body of each of its rules.
-/

namespace PegKit

/-- The tables that operations refer to. -/
structure Tables where
  ops : Array Op
  symbols : Interner
  /-- The names of the rules, by number. -/
  rules : List String

def Builder.tables (builder : Builder) : Tables :=
  ⟨builder.ops, builder.symbols, builder.rules.toList.map (·.name)⟩

def Program.tables (program : Program) : Tables :=
  ⟨program.ops, program.symbols, program.rules.toList.map (·.name)⟩

namespace Tables

/-- Whatever is found in the first tables is found in the second ones. -/
structure Extends (tables tables' : Tables) : Prop where
  ops : ∀ {i : Nat} {op : Op}, tables.ops[i]? = some op → tables'.ops[i]? = some op
  symbols : ∀ {symbol : Symbol} {text : String}, tables.symbols.resolve? symbol = some text →
    tables'.symbols.resolve? symbol = some text
  rules : ∀ {i : Nat} {name : String}, tables.rules[i]? = some name →
    tables'.rules[i]? = some name

namespace Extends

theorem refl (tables : Tables) : tables.Extends tables := ⟨id, id, id⟩

theorem trans {first second third : Tables} (h : first.Extends second) (h' : second.Extends third) :
    first.Extends third :=
  ⟨fun hop ↦ h'.ops (h.ops hop), fun hsymbol ↦ h'.symbols (h.symbols hsymbol),
    fun hrule ↦ h'.rules (h.rules hrule)⟩

end Extends

mutual

/-- The operation `id` stands for the expression. -/
inductive Encodes (tables : Tables) : OpId → Expr → Prop
  | intro {id : OpId} {op : Op} {expr : Expr} (found : tables.ops[id.index]? = some op)
      (shape : Shape tables op expr) : Encodes tables id expr

/-- The operation, whose parts are numbers, has the form of the expression. -/
inductive Shape (tables : Tables) : Op → Expr → Prop
  | terminal {text : String} : Shape tables (.terminal text) (.terminal text)
  | charClass {cls : CharClass} : Shape tables (.charClass cls) (.charClass cls)
  | anyChar : Shape tables .anyChar .anyChar
  | sequence {ids : List OpId} {exprs : List Expr} (parts : EncodesAll tables ids exprs) :
      Shape tables (.sequence ids) (.sequence exprs)
  | choice {ids : List OpId} {exprs : List Expr} (parts : EncodesAll tables ids exprs) :
      Shape tables (.choice ids) (.choice exprs)
  | repetition {inner : OpId} {expr : Expr} {least : Nat} (part : Encodes tables inner expr) :
      Shape tables (.repetition inner least) (.repetition expr least)
  | optional {inner : OpId} {expr : Expr} (part : Encodes tables inner expr) :
      Shape tables (.optional inner) (.optional expr)
  | lookahead {inner : OpId} {expr : Expr} (part : Encodes tables inner expr) :
      Shape tables (.lookahead inner) (.lookahead expr)
  | negativeLookahead {inner : OpId} {expr : Expr} (part : Encodes tables inner expr) :
      Shape tables (.negativeLookahead inner) (.negativeLookahead expr)
  | predicate {symbol : Symbol} {hook : String} {negated : Bool}
      (text : tables.symbols.resolve? symbol = some hook) :
      Shape tables (.predicate symbol negated) (.predicate hook negated)
  | label {symbol : Symbol} {name : String} {inner : OpId} {expr : Expr}
      (text : tables.symbols.resolve? symbol = some name) (part : Encodes tables inner expr) :
      Shape tables (.label symbol inner) (.label name expr)
  | call {rule : RuleId} {name : String} (named : tables.rules[rule.index]? = some name) :
      Shape tables (.call rule) (.ruleRef name)

inductive EncodesAll (tables : Tables) : List OpId → List Expr → Prop
  | nil : EncodesAll tables [] []
  | cons {id : OpId} {expr : Expr} {ids : List OpId} {exprs : List Expr}
      (first : Encodes tables id expr) (others : EncodesAll tables ids exprs) :
      EncodesAll tables (id :: ids) (expr :: exprs)

end

mutual

theorem Encodes.mono {tables tables' : Tables} {id : OpId} {expr : Expr}
    (hle : tables.Extends tables') : Encodes tables id expr → Encodes tables' id expr
  | .intro found shape => .intro (hle.ops found) (Shape.mono hle shape)

theorem Shape.mono {tables tables' : Tables} {op : Op} {expr : Expr}
    (hle : tables.Extends tables') : Shape tables op expr → Shape tables' op expr
  | .terminal => .terminal
  | .charClass => .charClass
  | .anyChar => .anyChar
  | .sequence parts => .sequence (EncodesAll.mono hle parts)
  | .choice parts => .choice (EncodesAll.mono hle parts)
  | .repetition part => .repetition (Encodes.mono hle part)
  | .optional part => .optional (Encodes.mono hle part)
  | .lookahead part => .lookahead (Encodes.mono hle part)
  | .negativeLookahead part => .negativeLookahead (Encodes.mono hle part)
  | .predicate text => .predicate (hle.symbols text)
  | .label text part => .label (hle.symbols text) (Encodes.mono hle part)
  | .call named => .call (hle.rules named)

theorem EncodesAll.mono {tables tables' : Tables} {ids : List OpId} {exprs : List Expr}
    (hle : tables.Extends tables') : EncodesAll tables ids exprs → EncodesAll tables' ids exprs
  | .nil => .nil
  | .cons first others => .cons (Encodes.mono hle first) (EncodesAll.mono hle others)

end

end Tables

namespace Interner

theorem find?_eq_some {interner : Interner} {text : String} {symbol : Symbol}
    (h : interner.find? text = some symbol) : interner.resolve? symbol = some text := by
  obtain ⟨place, hplace, rfl⟩ := Option.map_eq_some_iff.mp h
  obtain ⟨hlt, htext, _⟩ := Array.findIdx?_eq_some_iff_getElem.mp hplace
  rw [resolve?, Array.getElem?_eq_getElem hlt, beq_iff_eq.mp htext]

theorem intern_resolve? (interner : Interner) (text : String) :
    (interner.intern text).2.resolve? (interner.intern text).1 = some text := by
  unfold intern
  cases hfound : interner.find? text with
  | some symbol => exact find?_eq_some hfound
  | none => simp [resolve?, size]

theorem resolve?_intern {interner : Interner} {symbol : Symbol} {old : String} (text : String)
    (h : interner.resolve? symbol = some old) :
    (interner.intern text).2.resolve? symbol = some old := by
  unfold intern
  cases interner.find? text with
  | some symbol => exact h
  | none =>
    obtain ⟨hlt, hold⟩ := Array.getElem?_eq_some_iff.mp h
    rw [resolve?, Array.getElem?_push_lt hlt, hold]

end Interner

namespace Builder

theorem tables_rules (builder : Builder) (i : Nat) :
    builder.tables.rules[i]? = builder.rules[i]?.map (·.name) := by
  simp [tables]

/-! ## Steps that define no rule -/

/-- No two rules have the same name. -/
def Distinct (builder : Builder) : Prop :=
  (builder.rules.toList.map (·.name)).Nodup

/-- Tables grow, and rules that are new have no body. -/
structure Grows (before after : Builder) : Prop where
  ops : ∃ more, after.ops = before.ops ++ more
  symbols : ∀ {symbol : Symbol} {text : String}, before.symbols.resolve? symbol = some text →
    after.symbols.resolve? symbol = some text
  rules : ∃ fresh : List String,
    after.rules.toList = before.rules.toList ++ fresh.map fun name ↦ ⟨name, none⟩
  duplicate : after.duplicate = before.duplicate
  distinct : before.Distinct → after.Distinct

namespace Grows

theorem refl (builder : Builder) : Grows builder builder :=
  ⟨⟨#[], by simp⟩, id, ⟨[], by simp⟩, rfl, id⟩

theorem trans {first second third : Builder} (h : Grows first second) (h' : Grows second third) :
    Grows first third := by
  obtain ⟨more, hops⟩ := h.ops
  obtain ⟨more', hops'⟩ := h'.ops
  obtain ⟨fresh, hrules⟩ := h.rules
  obtain ⟨fresh', hrules'⟩ := h'.rules
  refine ⟨⟨more ++ more', ?_⟩, fun hsymbol ↦ h'.symbols (h.symbols hsymbol),
    ⟨fresh ++ fresh', ?_⟩, h'.duplicate.trans h.duplicate, fun hbefore ↦ ?_⟩
  · rw [hops', hops, Array.append_assoc]
  · rw [hrules', hrules, List.map_append, List.append_assoc]
  · exact h'.distinct (h.distinct hbefore)

/-- A rule that was there is still there, as it was. -/
theorem getElem?_rules {before after : Builder} (h : Grows before after) {i : Nat}
    {rule : DeclaredRule} (hrule : before.rules[i]? = some rule) : after.rules[i]? = some rule := by
  obtain ⟨fresh, hrules⟩ := h.rules
  rw [← Array.getElem?_toList] at hrule ⊢
  obtain ⟨hlt, _⟩ := List.getElem?_eq_some_iff.mp hrule
  rw [hrules, List.getElem?_append_left hlt, hrule]

/-- A rule with a body was there before. -/
theorem defined {before after : Builder} (h : Grows before after) {i : Nat} {name : String}
    {body : OpId} (hrule : after.rules[i]? = some ⟨name, some body⟩) :
    before.rules[i]? = some ⟨name, some body⟩ := by
  obtain ⟨fresh, hrules⟩ := h.rules
  rw [← Array.getElem?_toList, hrules, List.getElem?_append] at hrule
  split at hrule
  · rw [← Array.getElem?_toList, hrule]
  · rw [List.getElem?_map, Option.map_eq_some_iff] at hrule
    obtain ⟨_, _, hnone⟩ := hrule
    cases hnone

theorem tables {before after : Builder} (h : Grows before after) :
    before.tables.Extends after.tables where
  ops {i op} hop := by
    obtain ⟨more, hops⟩ := h.ops
    obtain ⟨hlt, _⟩ := Array.getElem?_eq_some_iff.mp hop
    have hold : (before.ops ++ more)[i]? = before.ops[i]? := Array.getElem?_append_left hlt
    rw [← hops] at hold
    exact hold.trans hop
  symbols := h.symbols
  rules {i name} hname := by
    rw [tables_rules, Option.map_eq_some_iff] at hname ⊢
    obtain ⟨rule, hrule, hname⟩ := hname
    exact ⟨rule, h.getElem?_rules hrule, hname⟩

end Grows

@[simp]
theorem add_run (op : Op) (builder : Builder) :
    (add op).run builder = (⟨builder.ops.size⟩, { builder with ops := builder.ops.push op }) := rfl

@[simp]
theorem intern_run (text : String) (builder : Builder) :
    (intern text).run builder =
      ((builder.symbols.intern text).1,
        { builder with symbols := (builder.symbols.intern text).2 }) := rfl

theorem add_grows (op : Op) (builder : Builder) : Grows builder ((add op).run builder).2 :=
  ⟨⟨#[op], by simp⟩, id, ⟨[], by simp⟩, rfl, id⟩

theorem add_found (op : Op) (builder : Builder) :
    ((add op).run builder).2.tables.ops[((add op).run builder).1.index]? = some op := by
  simp [tables]

theorem intern_grows (text : String) (builder : Builder) :
    Grows builder ((intern text).run builder).2 :=
  ⟨⟨#[], by simp⟩, fun hsymbol ↦ Interner.resolve?_intern text hsymbol, ⟨[], by simp⟩, rfl, id⟩

theorem intern_found (text : String) (builder : Builder) :
    ((intern text).run builder).2.tables.symbols.resolve? ((intern text).run builder).1 =
      some text := Interner.intern_resolve? builder.symbols text

/-- Declaring either finds the first rule of the name or adds one. -/
theorem declare_run (name : String) (builder : Builder) :
    (declare name).run builder =
      match builder.rules.findIdx? (·.name == name) with
      | some i => (⟨i⟩, builder)
      | none =>
        (⟨builder.rules.size⟩, { builder with rules := builder.rules.push ⟨name, none⟩ }) := by
  simp only [declare, StateT.run_bind, StateT.run_get, pure_bind]
  cases builder.rules.findIdx? (·.name == name) <;> rfl

theorem declare_grows (name : String) (builder : Builder) :
    Grows builder ((declare name).run builder).2 := by
  rw [declare_run]
  cases hfound : builder.rules.findIdx? (·.name == name) with
  | some i => exact .refl builder
  | none =>
    have hnew : name ∉ builder.rules.toList.map (·.name) := by
      intro hname
      obtain ⟨rule, hrule, hsame⟩ := List.mem_map.mp hname
      have hother := Array.findIdx?_eq_none_iff.mp hfound rule (Array.mem_toList_iff.mp hrule)
      rw [hsame, beq_self_eq_true] at hother
      cases hother
    refine ⟨⟨#[], by simp⟩, id, ⟨[name], by simp⟩, rfl, fun hdistinct ↦ ?_⟩
    simp only [Distinct, Array.toList_push, List.map_append, List.map_cons, List.map_nil]
    refine List.nodup_append.mpr ⟨hdistinct, by simp, ?_⟩
    rintro old hold _ hlast rfl
    exact hnew (List.mem_singleton.mp hlast ▸ hold)

theorem declare_found (name : String) (builder : Builder) :
    ∃ rule, ((declare name).run builder).2.rules[((declare name).run builder).1.index]? =
      some rule ∧ rule.name = name := by
  rw [declare_run]
  cases hfound : builder.rules.findIdx? (·.name == name) with
  | some i =>
    obtain ⟨hlt, hname, _⟩ := Array.findIdx?_eq_some_iff_getElem.mp hfound
    exact ⟨_, Array.getElem?_eq_getElem hlt, beq_iff_eq.mp hname⟩
  | none => exact ⟨⟨name, none⟩, by simp, rfl⟩

theorem declare_named (name : String) (builder : Builder) :
    ((declare name).run builder).2.tables.rules[((declare name).run builder).1.index]? =
      some name := by
  obtain ⟨rule, hrule, hname⟩ := declare_found name builder
  rw [tables_rules, hrule, Option.map_some, hname]

/-! ## Expressions -/

open Tables (Encodes Shape EncodesAll)

/-- What a step that adds an expression leaves. -/
def Adds (before : Builder) (expr : Expr) (id : OpId) (after : Builder) : Prop :=
  Grows before after ∧ Encodes after.tables id expr

/-- An operation that has the form of an expression. -/
theorem add_shape {before builder : Builder} (hgrows : Grows before builder) {op : Op}
    {expr : Expr} (hshape : Shape builder.tables op expr) :
    Adds before expr ((add op).run builder).1 ((add op).run builder).2 := by
  have hadded := add_grows op builder
  exact ⟨hgrows.trans hadded, .intro (add_found op builder) (hshape.mono hadded.tables)⟩

mutual

theorem addExpr_adds :
    (expr : Expr) → (builder : Builder) →
      Adds builder expr ((addExpr expr).run builder).1 ((addExpr expr).run builder).2
  | .terminal text, builder => add_shape (.refl builder) .terminal
  | .charClass cls, builder => add_shape (.refl builder) .charClass
  | .anyChar, builder => add_shape (.refl builder) .anyChar
  | .sequence items, builder => by
    have hparts := addExprs_adds items builder
    exact add_shape hparts.1 (.sequence hparts.2)
  | .choice alternatives, builder => by
    have hparts := addExprs_adds alternatives builder
    exact add_shape hparts.1 (.choice hparts.2)
  | .repetition inner least, builder => by
    have hpart := addExpr_adds inner builder
    exact add_shape hpart.1 (.repetition hpart.2)
  | .optional inner, builder => by
    have hpart := addExpr_adds inner builder
    exact add_shape hpart.1 (.optional hpart.2)
  | .lookahead inner, builder => by
    have hpart := addExpr_adds inner builder
    exact add_shape hpart.1 (.lookahead hpart.2)
  | .negativeLookahead inner, builder => by
    have hpart := addExpr_adds inner builder
    exact add_shape hpart.1 (.negativeLookahead hpart.2)
  | .predicate hook negated, builder =>
    add_shape (intern_grows hook builder) (.predicate (intern_found hook builder))
  | .label name inner, builder => by
    have hpart := addExpr_adds inner builder
    have hname := intern_grows name ((addExpr inner).run builder).2
    exact add_shape (hpart.1.trans hname)
      (.label (intern_found name ((addExpr inner).run builder).2) (hpart.2.mono hname.tables))
  | .ruleRef name, builder =>
    add_shape (declare_grows name builder) (.call (declare_named name builder))

theorem addExprs_adds :
    (exprs : List Expr) → (builder : Builder) →
      Grows builder ((addExprs exprs).run builder).2 ∧
        EncodesAll ((addExprs exprs).run builder).2.tables ((addExprs exprs).run builder).1 exprs
  | [], builder => ⟨.refl builder, .nil⟩
  | expr :: rest, builder => by
    have hfirst := addExpr_adds expr builder
    have hothers := addExprs_adds rest ((addExpr expr).run builder).2
    exact ⟨hfirst.1.trans hothers.1, .cons (hfirst.2.mono hothers.1.tables) hothers.2⟩

end

/-! ## Rules -/

theorem declareAll_grows (rules : List Rule) (builder : Builder) :
    Grows builder ((declareAll rules).run builder).2 := by
  induction rules generalizing builder with
  | nil => exact .refl builder
  | cons rule rest ih =>
    exact (declare_grows rule.name builder).trans (ih ((declare rule.name).run builder).2)

/-- Each rule is declared under the number that it gets. -/
theorem declareAll_named (rules : List Rule) (builder : Builder) :
    (rules.zip ((declareAll rules).run builder).1).map Prod.fst = rules ∧
      ∀ entry ∈ rules.zip ((declareAll rules).run builder).1,
        ((declareAll rules).run builder).2.tables.rules[entry.2.index]? = some entry.1.name := by
  induction rules generalizing builder with
  | nil => exact ⟨rfl, by rintro _ ⟨⟩⟩
  | cons rule rest ih =>
    obtain ⟨hrules, hnamed⟩ := ih ((declare rule.name).run builder).2
    have hgrows := declareAll_grows rest ((declare rule.name).run builder).2
    refine ⟨congrArg (rule :: ·) hrules, fun entry hentry ↦ ?_⟩
    rcases List.mem_cons.mp hentry with rfl | hentry
    · exact hgrows.tables.rules (declare_named rule.name builder)
    · exact hnamed entry hentry

/-- The rule `id` has a body that stands for the body of `rule`. -/
def Defines (builder : Builder) (rule : Rule) (id : RuleId) : Prop :=
  ∃ body, builder.rules[id.index]? = some ⟨rule.name, some body⟩ ∧
    Encodes builder.tables body rule.body

/-- Tables grow, and rules that have a body keep it. -/
structure Keeps (before after : Builder) : Prop where
  tables : before.tables.Extends after.tables
  rules : ∀ {i : Nat} {name : String} {body : OpId},
    before.rules[i]? = some ⟨name, some body⟩ → after.rules[i]? = some ⟨name, some body⟩
  distinct : before.Distinct → after.Distinct

namespace Keeps

theorem refl (builder : Builder) : Keeps builder builder := ⟨.refl _, id, id⟩

theorem trans {first second third : Builder} (h : Keeps first second) (h' : Keeps second third) :
    Keeps first third :=
  ⟨h.tables.trans h'.tables, fun hrule ↦ h'.rules (h.rules hrule),
    fun hdistinct ↦ h'.distinct (h.distinct hdistinct)⟩

theorem defines {before after : Builder} {rule : Rule} {id : RuleId} (h : Keeps before after)
    (hdefines : before.Defines rule id) : after.Defines rule id := by
  obtain ⟨body, hrule, hbody⟩ := hdefines
  exact ⟨body, h.rules hrule, hbody.mono h.tables⟩

end Keeps

theorem Grows.keeps {before after : Builder} (h : Grows before after) : Keeps before after :=
  ⟨h.tables, h.getElem?_rules, h.distinct⟩

theorem define_run (rule : RuleId) (body : OpId) (builder : Builder) {declared : DeclaredRule}
    (hrule : builder.rules[rule.index]? = some declared) :
    ((define rule body).run builder).2 =
      if declared.body.isSome then
        { builder with duplicate := builder.duplicate.or (some declared.name) }
      else
        { builder with
          rules := builder.rules.setIfInBounds rule.index { declared with body := body } } := by
  rw [define, StateT.run_modify]
  simp only [hrule]
  rfl

theorem define_missing (rule : RuleId) (body : OpId) (builder : Builder)
    (hrule : builder.rules[rule.index]? = none) : ((define rule body).run builder).2 = builder := by
  rw [define, StateT.run_modify]
  simp only [hrule]
  rfl

theorem define_duplicate {rule : RuleId} {body : OpId} {builder : Builder}
    (haccepted : ((define rule body).run builder).2.duplicate = none) :
    builder.duplicate = none := by
  cases hrule : builder.rules[rule.index]? with
  | none =>
    rwa [define_missing rule body builder hrule] at haccepted
  | some declared =>
    rw [define_run rule body builder hrule] at haccepted
    split at haccepted
    · exact (Option.or_eq_none_iff.mp haccepted).1
    · exact haccepted

/-- A definition that is not refused gives a body to a rule that had none. -/
theorem define_accepted {rule : RuleId} {body : OpId} {builder : Builder} {name : String}
    (hnamed : builder.tables.rules[rule.index]? = some name)
    (haccepted : ((define rule body).run builder).2.duplicate = none) :
    builder.rules[rule.index]? = some ⟨name, none⟩ ∧
      ((define rule body).run builder).2 =
        { builder with rules := builder.rules.setIfInBounds rule.index ⟨name, some body⟩ } := by
  rw [tables_rules, Option.map_eq_some_iff] at hnamed
  obtain ⟨⟨name, body'⟩, hrule, rfl⟩ := hnamed
  rw [define_run rule body builder hrule] at haccepted ⊢
  cases body' with
  | some body' =>
    cases (Option.or_eq_none_iff.mp haccepted).2
  | none => exact ⟨hrule, rfl⟩

/-- A rule that gets another body keeps its name. -/
theorem names_setIfInBounds {rules : Array DeclaredRule} {i : Nat} {name : String}
    {old : Option OpId} (hrule : rules[i]? = some ⟨name, old⟩) (new : Option OpId) :
    (rules.setIfInBounds i ⟨name, new⟩).toList.map (·.name) = rules.toList.map (·.name) := by
  obtain ⟨hlt, hold⟩ := Array.getElem?_eq_some_iff.mp hrule
  have hbound : i < (rules.toList.map (·.name)).length := by simpa using hlt
  have hname : (rules.toList.map (·.name))[i] = name := by simp [hold]
  rw [Array.toList_setIfInBounds, List.map_set, ← hname]
  exact List.set_getElem_self hbound

theorem define_keeps {rule : RuleId} (body : OpId) {builder : Builder} {name : String}
    (hrule : builder.rules[rule.index]? = some ⟨name, none⟩) :
    Keeps builder
      { builder with rules := builder.rules.setIfInBounds rule.index ⟨name, some body⟩ } := by
  have hnames := names_setIfInBounds hrule (some body)
  refine ⟨⟨id, id, fun {i name} hname ↦ ?_⟩, fun {i name' body'} hdefined ↦ ?_, fun hdistinct ↦ ?_⟩
  · rw [Builder.tables, hnames]
    exact hname
  · have hother : rule.index ≠ i := by
      rintro rfl
      rw [hrule] at hdefined
      cases hdefined
    rw [Array.getElem?_setIfInBounds_ne hother]
    exact hdefined
  · rw [Distinct, hnames]
    exact hdistinct

theorem defineAll_duplicate {entries : List (Rule × RuleId)} {builder : Builder}
    (haccepted : ((defineAll entries).run builder).2.duplicate = none) :
    builder.duplicate = none := by
  induction entries generalizing builder with
  | nil => exact haccepted
  | cons entry rest ih =>
    obtain ⟨hgrows, _⟩ := addExpr_adds entry.1.body builder
    rw [← hgrows.duplicate]
    exact define_duplicate (ih haccepted)

/-- What the definitions of rules leave when none of them is refused. -/
structure DefinesAll (before : Builder) (entries : List (Rule × RuleId)) (after : Builder) :
    Prop where
  keeps : Keeps before after
  defines : ∀ entry ∈ entries, after.Defines entry.1 entry.2
  defined : ∀ {i : Nat} {name : String} {body : OpId},
    after.rules[i]? = some ⟨name, some body⟩ →
      before.rules[i]? = some ⟨name, some body⟩ ∨ ∃ entry ∈ entries, entry.2.index = i

theorem defineAll_cons (rule : Rule) (id : RuleId) (rest : List (Rule × RuleId))
    (builder : Builder) :
    ((defineAll ((rule, id) :: rest)).run builder).2 =
      ((defineAll rest).run ((define id ((addExpr rule.body).run builder).1).run
        ((addExpr rule.body).run builder).2).2).2 := rfl

theorem defineAll_defines (entries : List (Rule × RuleId)) (builder : Builder)
    (hnamed : ∀ entry ∈ entries, builder.tables.rules[entry.2.index]? = some entry.1.name)
    (haccepted : ((defineAll entries).run builder).2.duplicate = none) :
    DefinesAll builder entries ((defineAll entries).run builder).2 := by
  induction entries generalizing builder with
  | nil => exact ⟨.refl builder, by rintro _ ⟨⟩, fun h ↦ .inl h⟩
  | cons entry rest ih =>
    obtain ⟨rule, id⟩ := entry
    obtain ⟨hgrows, hencodes⟩ := addExpr_adds rule.body builder
    have hname := hgrows.tables.rules (hnamed (rule, id) List.mem_cons_self)
    rw [defineAll_cons] at haccepted ⊢
    generalize ((addExpr rule.body).run builder).1 = body at haccepted hencodes ⊢
    generalize ((addExpr rule.body).run builder).2 = added at haccepted hencodes hgrows hname ⊢
    obtain ⟨hnone, hnext⟩ := define_accepted hname (defineAll_duplicate haccepted)
    rw [hnext] at haccepted ⊢
    obtain ⟨hlt, _⟩ := Array.getElem?_eq_some_iff.mp hnone
    have hkeeps := define_keeps body hnone
    have hall := hgrows.keeps.trans hkeeps
    have hrest := ih _ (fun entry hentry ↦
      hall.tables.rules (hnamed entry (List.mem_cons_of_mem _ hentry))) haccepted
    refine ⟨hall.trans hrest.keeps, fun entry hentry ↦ ?_, fun hdefined ↦ ?_⟩
    · rcases List.mem_cons.mp hentry with rfl | hentry
      · refine hrest.keeps.defines ⟨body, ?_, hencodes.mono hkeeps.tables⟩
        simp [hlt]
      · exact hrest.defines entry hentry
    · rename_i i name body'
      rcases hrest.defined hdefined with hold | ⟨entry, hentry, hplace⟩
      · by_cases hsame : id.index = i
        · exact .inr ⟨(rule, id), List.mem_cons_self, hsame⟩
        · rw [Array.getElem?_setIfInBounds_ne hsame] at hold
          exact .inl (hgrows.defined hold)
      · exact .inr ⟨entry, List.mem_cons_of_mem _ hentry, hplace⟩

/-! ## Finished programs -/

/-- The builder that a program came out of. -/
def ofProgram (program : Program) : Builder :=
  ⟨program.name, program.comments, program.ops,
    program.rules.map fun entry ↦ ⟨entry.name, some entry.body⟩, program.symbols, none⟩

theorem entries_map (found : List RuleEntry) :
    entries (found.map fun entry ↦ ⟨entry.name, some entry.body⟩) = .ok found := by
  induction found with
  | nil => rfl
  | cons entry rest ih =>
    rw [List.map_cons, entries, ih]
    rfl

theorem eq_map_of_entries {rules : List DeclaredRule} {found : List RuleEntry}
    (h : entries rules = .ok found) :
    rules = found.map fun entry ↦ ⟨entry.name, some entry.body⟩ := by
  induction rules generalizing found with
  | nil =>
    cases h
    rfl
  | cons rule rest ih =>
    obtain ⟨name, body⟩ := rule
    cases body with
    | none => cases h
    | some body =>
      rw [entries] at h
      cases hrest : entries rest with
      | error error =>
        rw [hrest] at h
        cases h
      | ok others =>
        rw [hrest] at h
        cases h
        rw [List.map_cons, ← ih hrest]

/-- A program comes out of exactly one builder. -/
theorem finish_eq_ok_iff {builder : Builder} {program : Program} :
    builder.finish = .ok program ↔ builder = ofProgram program := by
  constructor
  · intro h
    obtain ⟨name, comments, ops, rules, symbols, duplicate⟩ := builder
    unfold finish at h
    cases duplicate with
    | some duplicate => cases h
    | none =>
      cases hentries : entries rules.toList with
      | error error =>
        simp only [hentries] at h
        cases h
      | ok found =>
        simp only [hentries] at h
        cases h
        have hrules := congrArg List.toArray (eq_map_of_entries hentries)
        simpa [ofProgram] using hrules
  · rintro rfl
    obtain ⟨name, comments, ops, rules, symbols⟩ := program
    have hentries := entries_map rules.toList
    simp only [finish, ofProgram, Array.toList_map, hentries]
    rfl

/-- The builder with the comments of a grammar and without rules. -/
def ofHeader (grammar : Grammar) : Builder :=
  { Builder.new grammar.name with comments := grammar.comments }

theorem comments_run (lines : List String) (builder : Builder) :
    ((forIn lines PUnit.unit fun line _ ↦ do
        comment line
        pure (ForInStep.yield PUnit.unit) : Step PUnit).run builder) =
      (PUnit.unit, { builder with comments := builder.comments ++ lines }) := by
  induction lines generalizing builder with
  | nil =>
    rw [List.append_nil]
    rfl
  | cons line rest ih =>
    rw [List.forIn_cons]
    refine (ih { builder with comments := builder.comments ++ [line] }).trans ?_
    simp only [List.append_assoc, List.singleton_append]

theorem addGrammar_run (grammar : Grammar) :
    ((addGrammar grammar).run (.new grammar.name)).2 =
      ((defineAll (grammar.rules.zip
        ((declareAll grammar.rules).run (ofHeader grammar)).1)).run
          ((declareAll grammar.rules).run (ofHeader grammar)).2).2 := by
  simp only [addGrammar, StateT.run_bind]
  rw [comments_run]
  rfl

end Builder

/-! ## The program of a grammar -/

open Builder (declareAll defineAll ofHeader)

/-- Every rule of the program has the name and the body of a rule of the grammar, which finds its
rule by name. -/
structure Program.Encodes (program : Program) (grammar : Grammar) : Prop where
  declared : ∀ rule ∈ grammar.rules, ∃ id, program.ruleNamed? rule.name = some id ∧
    program.tables.rules[id.index]? = some rule.name
  encoded : ∀ {id : RuleId} {entry : RuleEntry}, program.rules[id.index]? = some entry →
    ∃ rule, grammar.rule? entry.name = some rule ∧
      program.tables.Encodes entry.body rule.body

theorem Program.tables_rules (program : Program) (i : Nat) :
    program.tables.rules[i]? = program.rules[i]?.map (·.name) := by
  simp [tables]

/-- The name of a rule leads to a rule of that name. -/
theorem Program.ruleNamed?_isSome {program : Program} {i : Nat} {entry : RuleEntry}
    (h : program.rules[i]? = some entry) : ∃ id, program.ruleNamed? entry.name = some id ∧
      program.tables.rules[id.index]? = some entry.name := by
  have hsome : (program.rules.findIdx? (·.name == entry.name)).isSome := by
    rw [Array.findIdx?_isSome, Array.any_eq_true']
    exact ⟨entry, Array.mem_of_getElem? h, beq_self_eq_true _⟩
  obtain ⟨place, hplace⟩ := Option.isSome_iff_exists.mp hsome
  obtain ⟨hlt, hname, _⟩ := Array.findIdx?_eq_some_iff_getElem.mp hplace
  refine ⟨⟨place⟩, by rw [ruleNamed?, hplace, Option.map_some], ?_⟩
  rw [tables_rules, Array.getElem?_eq_getElem hlt, Option.map_some, beq_iff_eq.mp hname]

namespace Builder

theorem tables_ofProgram (program : Program) : (ofProgram program).tables = program.tables := by
  simp [tables, Program.tables, ofProgram]

theorem rules_ofProgram {program : Program} {i : Nat} {name : String} {body : OpId} :
    (ofProgram program).rules[i]? = some ⟨name, some body⟩ ↔
      program.rules[i]? = some ⟨name, body⟩ := by
  rw [ofProgram, Array.getElem?_map, Option.map_eq_some_iff]
  constructor
  · rintro ⟨⟨name', body'⟩, hentry, hsame⟩
    cases hsame
    exact hentry
  · intro hentry
    exact ⟨_, hentry, rfl⟩

/-- Two rules of one name are the same rule. -/
theorem Distinct.eq_of_name {program : Program} (h : (ofProgram program).Distinct) {i j : Nat}
    {left right : RuleEntry} (hleft : program.rules[i]? = some left)
    (hright : program.rules[j]? = some right) (hname : left.name = right.name) : i = j := by
  have hnames : (program.rules.toList.map (·.name)).Nodup := by
    simpa [Distinct, ofProgram, Function.comp_def] using h
  have hat {k : Nat} {entry : RuleEntry} (hentry : program.rules[k]? = some entry) :
      (program.rules.toList.map (·.name))[k]? = some entry.name := by
    simp [hentry]
  obtain ⟨hlt, _⟩ := List.getElem?_eq_some_iff.mp (hat hleft)
  refine (List.getElem?_inj hlt hnames).mp ?_
  rw [hat hleft, hat hright, hname]

end Builder

theorem Grammar.toProgram_encodes {grammar : Grammar} {program : Program}
    (h : grammar.toProgram = .ok program) : program.Encodes grammar := by
  rw [Grammar.toProgram, Builder.finish_eq_ok_iff, Builder.addGrammar_run] at h
  obtain ⟨hrules, hnamed⟩ := Builder.declareAll_named grammar.rules (ofHeader grammar)
  have hgrows := Builder.declareAll_grows grammar.rules (ofHeader grammar)
  generalize grammar.rules.zip ((declareAll grammar.rules).run (ofHeader grammar)).1 = entries
    at h hrules hnamed
  generalize ((declareAll grammar.rules).run (ofHeader grammar)).2 = declared at h hnamed hgrows
  have hall := Builder.defineAll_defines entries declared hnamed (by rw [h]; rfl)
  rw [h] at hall
  have hdistinct : (Builder.ofProgram program).Distinct :=
    hall.keeps.distinct (hgrows.distinct List.nodup_nil)
  have hbody {rule : Rule} (hrule : rule ∈ grammar.rules) : ∃ (id : Nat) (body : OpId),
      program.rules[id]? = some ⟨rule.name, body⟩ ∧ program.tables.Encodes body rule.body := by
    rw [← hrules] at hrule
    obtain ⟨⟨rule, id⟩, hentry, rfl⟩ := List.mem_map.mp hrule
    obtain ⟨body, hdefined, hencodes⟩ := hall.defines _ hentry
    rw [Builder.tables_ofProgram] at hencodes
    exact ⟨id.index, body, Builder.rules_ofProgram.mp hdefined, hencodes⟩
  refine ⟨fun rule hrule ↦ ?_, fun {id entry} hentry ↦ ?_⟩
  · obtain ⟨id, body, hplace, _⟩ := hbody hrule
    exact program.ruleNamed?_isSome hplace
  · obtain ⟨name, body⟩ := entry
    obtain ⟨rule, hrule, hname⟩ : ∃ rule ∈ grammar.rules, rule.name = name := by
      rcases hall.defined (Builder.rules_ofProgram.mpr hentry) with hold | ⟨⟨rule, id'⟩, hmem, hid⟩
      · have hnone := hgrows.defined hold
        simp [ofHeader, Builder.new] at hnone
      · obtain ⟨body', hdefined, _⟩ := hall.defines _ hmem
        rw [hid, Builder.rules_ofProgram.mpr hentry, Option.some.injEq] at hdefined
        refine ⟨rule, hrules ▸ List.mem_map_of_mem hmem, ?_⟩
        cases hdefined
        rfl
    obtain ⟨found, hfound⟩ : ∃ found, grammar.rule? name = some found :=
      Option.isSome_iff_exists.mp (List.find?_isSome.mpr ⟨rule, hrule, by simpa using hname⟩)
    have hsame : found.name = name := by simpa using List.find?_some hfound
    obtain ⟨id', body', hplace, hencodes⟩ := hbody (List.mem_of_find?_eq_some hfound)
    have hid := hdistinct.eq_of_name hplace hentry hsame
    rw [hid, hentry, Option.some.injEq, RuleEntry.mk.injEq] at hplace
    refine ⟨found, hfound, ?_⟩
    rw [hplace.2]
    exact hencodes

end PegKit
