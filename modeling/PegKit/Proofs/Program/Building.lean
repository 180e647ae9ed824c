import Mathlib.Data.List.Basic
import PegKit.Proofs.Program.Encoding

/-!
# Programs that a builder makes

A caller of a builder has only the numbers that the builder gave it, so it adds parts before the
whole and calls rules that are declared. What follows for the tables: every operation refers to
earlier ones, and the texts of labels and hooks stand in the order of their first uses.
-/

namespace PegKit

/-- The label or the hook of an operation. -/
def Op.symbol? : Op → Option Symbol
  | .predicate hook _ => some hook
  | .label name _ => some name
  | _ => none

/-- The rule that an operation calls. -/
def Op.rule? : Op → Option RuleId
  | .call rule => some rule
  | _ => none

namespace Interner

variable (interner : Interner) (text : String)

theorem texts_intern : interner.texts.toList <+: (interner.intern text).2.texts.toList := by
  unfold intern
  cases interner.find? text with
  | some symbol => exact List.prefix_rfl
  | none => exact ⟨[text], (Array.toList_push).symm⟩

theorem size_intern : interner.size ≤ (interner.intern text).2.size := by
  have hlength := (texts_intern interner text).length_le
  simpa [size] using hlength

theorem intern_lt : (interner.intern text).1.index < (interner.intern text).2.size := by
  have hfound := intern_resolve? interner text
  exact (Array.getElem?_eq_some_iff.mp hfound).1

theorem resolve_intern {symbol : Symbol} (h : symbol.index < interner.size) :
    (interner.intern text).2.resolve symbol = interner.resolve symbol := by
  have hold : interner.resolve? symbol = some interner.texts[symbol.index] :=
    Array.getElem?_eq_getElem h
  rw [resolve, resolve, resolve?_intern text hold, hold]

theorem resolve_intern_self : (interner.intern text).2.resolve (interner.intern text).1 = text := by
  rw [resolve, intern_resolve?, Option.getD_some]

theorem nodup_intern (h : interner.texts.toList.Nodup) :
    (interner.intern text).2.texts.toList.Nodup := by
  unfold intern
  cases hfound : interner.find? text with
  | some symbol => exact h
  | none =>
    rw [find?, Option.map_eq_none_iff, Array.findIdx?_eq_none_iff] at hfound
    rw [Array.toList_push, List.nodup_append]
    refine ⟨h, List.pairwise_singleton _ _, fun old hold new hnew hsame ↦ ?_⟩
    rw [List.mem_singleton.mp hnew] at hsame
    have hother := hfound old (Array.mem_toList_iff.mp hold)
    rw [hsame, beq_self_eq_true] at hother
    cases hother

/-- A text that a later interner has under `symbol` gets that symbol on the way there. -/
theorem intern_eq {later : Interner} {symbol : Symbol} (hlater : later.texts.toList.Nodup)
    (hle : (interner.intern text).2.texts.toList <+: later.texts.toList)
    (hsymbol : symbol.index < later.size) (htext : later.resolve symbol = text) :
    (interner.intern text).1 = symbol := by
  have hgot := intern_resolve? interner text
  rw [resolve?, ← Array.getElem?_toList] at hgot
  have hgot' := (List.prefix_iff_getElem?.mp hle) _ (List.getElem?_eq_some_iff.mp hgot).1
  rw [← List.getElem?_eq_getElem, hgot] at hgot'
  have hhad : later.texts.toList[symbol.index]? = some text := by
    rw [← htext, resolve, resolve?, Array.getElem?_toList, Array.getElem?_eq_getElem hsymbol,
      Option.getD_some]
  obtain ⟨hlt, _⟩ := List.getElem?_eq_some_iff.mp hhad
  have hindex := (List.getElem?_inj hlt hlater).mp (hhad.trans hgot'.symm)
  cases symbol
  cases hsame : (interner.intern text).1
  rw [hsame] at hindex
  exact congrArg Symbol.mk hindex.symm

end Interner

namespace Tables

theorem Encodes.lt {tables : Tables} {id : OpId} {expr : Expr} (h : tables.Encodes id expr) :
    id.index < tables.ops.size := by
  cases h with
  | intro found _ => exact (Array.getElem?_eq_some_iff.mp found).1

theorem EncodesAll.lt {tables : Tables} {ids : List OpId} {exprs : List Expr}
    (h : tables.EncodesAll ids exprs) : ∀ id ∈ ids, id.index < tables.ops.size := by
  induction ids generalizing exprs with
  | nil => rintro _ ⟨⟩
  | cons id ids ih =>
    cases h with
    | cons first others =>
      intro found hfound
      rcases List.mem_cons.mp hfound with rfl | hfound
      · exact first.lt
      · exact ih others found hfound

end Tables

namespace Builder

/-! ## Symbols -/

/-- Interns the text that `symbols` has for the symbol of an operation. -/
def useSymbol (symbols found : Interner) (op : Op) : Interner :=
  match op.symbol? with
  | none => found
  | some symbol => (found.intern (symbols.resolve symbol)).2

/-- The texts of operations, interned in the order of the operations. -/
def firstUses (symbols : Interner) (ops : List Op) : Interner :=
  ops.foldl (useSymbol symbols) .empty

theorem firstUses_append (symbols : Interner) (ops : List Op) (op : Op) :
    firstUses symbols (ops ++ [op]) = useSymbol symbols (firstUses symbols ops) op := by
  rw [firstUses, List.foldl_append]
  rfl

theorem texts_firstUses (symbols : Interner) (ops more : List Op) :
    (firstUses symbols ops).texts.toList <+: (firstUses symbols (ops ++ more)).texts.toList := by
  induction more generalizing ops with
  | nil => simp
  | cons op rest ih =>
    have hstep : (firstUses symbols ops).texts.toList <+:
        (firstUses symbols (ops ++ [op])).texts.toList := by
      rw [firstUses_append, useSymbol]
      cases op.symbol? with
      | none => exact List.prefix_rfl
      | some symbol => exact Interner.texts_intern _ _
    have hrest := ih (ops ++ [op])
    rw [List.append_assoc, List.singleton_append] at hrest
    exact hstep.trans hrest

/-- The interned texts are those of the operations. -/
structure Interned (symbols : Interner) (ops : List Op) : Prop where
  known : ∀ op ∈ ops, ∀ symbol ∈ op.symbol?, symbol.index < symbols.size
  nodup : symbols.texts.toList.Nodup
  uses : firstUses symbols ops = symbols

namespace Interned

variable {symbols : Interner} {ops : List Op} {op : Op}

theorem push (h : Interned symbols ops) (hop : op.symbol? = none) :
    Interned symbols (ops ++ [op]) := by
  refine ⟨fun op' hop' symbol hsymbol ↦ ?_, h.nodup, ?_⟩
  · rcases List.mem_append.mp hop' with hop' | hop'
    · exact h.known op' hop' symbol hsymbol
    · rw [List.mem_singleton.mp hop', hop] at hsymbol
      cases hsymbol
  · rw [firstUses_append, useSymbol, hop]
    exact h.uses

theorem push_intern (h : Interned symbols ops) {text : String}
    (hop : op.symbol? = some (symbols.intern text).1) :
    Interned (symbols.intern text).2 (ops ++ [op]) := by
  have huses : firstUses (symbols.intern text).2 ops = symbols := by
    refine Eq.trans (List.foldl_ext _ _ _ fun found op' hop' ↦ ?_) h.uses
    rw [useSymbol, useSymbol]
    cases hsymbol : op'.symbol? with
    | none => rfl
    | some symbol =>
      simp only
      rw [Interner.resolve_intern _ _ (h.known op' hop' symbol hsymbol)]
  refine ⟨fun op' hop' symbol hsymbol ↦ ?_, Interner.nodup_intern symbols text h.nodup, ?_⟩
  · rcases List.mem_append.mp hop' with hop' | hop'
    · have hlt := h.known op' hop' symbol hsymbol
      exact Nat.lt_of_lt_of_le hlt (Interner.size_intern symbols text)
    · rw [List.mem_singleton.mp hop', hop] at hsymbol
      cases hsymbol
      exact Interner.intern_lt symbols text
  · rw [firstUses_append, huses, useSymbol, hop]
    simp only
    rw [Interner.resolve_intern_self]

end Interned

/-! ## References -/

/-- What an operation refers to is there. -/
structure Has (builder : Builder) (op : Op) : Prop where
  children : ∀ child ∈ op.children, child.index < builder.ops.size
  rule : ∀ rule ∈ op.rule?, rule.index < builder.rules.size

namespace Has

variable {builder : Builder} {op : Op}

theorem leaf (hchildren : op.children = []) (hrule : op.rule? = none) : builder.Has op where
  children := by
    rw [hchildren]
    rintro _ ⟨⟩
  rule := by
    rw [hrule]
    rintro _ ⟨⟩

theorem inner {part : OpId} (hchildren : op.children = [part]) (hrule : op.rule? = none)
    (hpart : part.index < builder.ops.size) : builder.Has op where
  children := by
    rw [hchildren]
    intro child hchild
    rwa [List.mem_singleton.mp hchild]
  rule := by
    rw [hrule]
    rintro _ ⟨⟩

end Has

/-- Operations refer to earlier ones and to rules that are there. -/
structure Closed (builder : Builder) : Prop where
  distinct : builder.Distinct
  children : ∀ {i : Nat} {op : Op}, builder.ops[i]? = some op → ∀ child ∈ op.children,
    child.index < i
  calls : ∀ {i : Nat} {op : Op}, builder.ops[i]? = some op → ∀ rule ∈ op.rule?,
    rule.index < builder.rules.size
  bodies : ∀ {i : Nat} {name : String} {body : OpId},
    builder.rules[i]? = some ⟨name, some body⟩ → body.index < builder.ops.size

theorem Closed.push {builder : Builder} (h : builder.Closed) {op : Op} (hop : builder.Has op)
    (symbols : Interner) :
    Closed { builder with ops := builder.ops.push op, symbols } := by
  have hcases {i : Nat} {op' : Op} (hop' : (builder.ops.push op)[i]? = some op') :
      builder.ops[i]? = some op' ∨ i = builder.ops.size ∧ op' = op := by
    rw [Array.getElem?_push] at hop'
    split at hop'
    · next hi => exact .inr ⟨hi, (Option.some.inj hop').symm⟩
    · exact .inl hop'
  refine ⟨h.distinct, fun hop' child hchild ↦ ?_, fun hop' rule hrule ↦ ?_, fun hrule ↦ ?_⟩
  · rcases hcases hop' with hold | ⟨rfl, rfl⟩
    · exact h.children hold child hchild
    · exact hop.children child hchild
  · rcases hcases hop' with hold | ⟨rfl, rfl⟩
    · exact h.calls hold rule hrule
    · exact hop.rule rule hrule
  · rw [Array.size_push]
    exact Nat.lt_succ_of_lt (h.bodies hrule)

/-- A step that only touches rules and comments. -/
theorem Closed.of_rules {before after : Builder} (h : before.Closed) (hops : after.ops = before.ops)
    (hsize : before.rules.size ≤ after.rules.size) (hdistinct : after.Distinct)
    (hbodies : ∀ {i : Nat} {name : String} {body : OpId},
      after.rules[i]? = some ⟨name, some body⟩ → body.index < before.ops.size) :
    after.Closed where
  distinct := hdistinct
  children := by
    rw [hops]
    exact h.children
  calls := by
    rw [hops]
    exact fun hop rule hrule ↦ Nat.lt_of_lt_of_le (h.calls hop rule hrule) hsize
  bodies := by
    rw [hops]
    exact hbodies

/-! ## Steps of a caller -/

/-- The builders that a caller makes from the numbers that it is given. -/
inductive Built : Builder → Prop
  | new (name : String) : Built (.new name)
  | comment {builder : Builder} (line : String) (before : Built builder) :
      Built ((Builder.comment line).run builder).2
  | declare {builder : Builder} (name : String) (before : Built builder) :
      Built ((Builder.declare name).run builder).2
  | define {builder : Builder} {rule : RuleId} {body : OpId} (before : Built builder)
      (declared : rule.index < builder.rules.size) (added : body.index < builder.ops.size) :
      Built ((Builder.define rule body).run builder).2
  | add {builder : Builder} {op : Op} (before : Built builder) (plain : op.symbol? = none)
      (has : builder.Has op) : Built ((Builder.add op).run builder).2
  | predicate {builder : Builder} (hook : String) (negated : Bool) (before : Built builder) :
      Built ((Builder.predicate hook negated).run builder).2
  | label {builder : Builder} (name : String) {inner : OpId} (before : Built builder)
      (added : inner.index < builder.ops.size) :
      Built ((Builder.label name inner).run builder).2

theorem declare_size (name : String) (builder : Builder) :
    builder.rules.size ≤ ((declare name).run builder).2.rules.size := by
  obtain ⟨fresh, hrules⟩ := (declare_grows name builder).rules
  have hlength := congrArg List.length hrules
  simp only [Array.length_toList, List.length_append] at hlength
  omega

theorem declare_ops (name : String) (builder : Builder) :
    ((declare name).run builder).2.ops = builder.ops ∧
      ((declare name).run builder).2.symbols = builder.symbols := by
  rw [declare_run]
  cases builder.rules.findIdx? (·.name == name) <;> exact ⟨rfl, rfl⟩

theorem Closed.define {builder : Builder} (h : builder.Closed) {rule : RuleId} {body : OpId}
    (hrule : rule.index < builder.rules.size) (hbody : body.index < builder.ops.size) :
    ((Builder.define rule body).run builder).2.Closed := by
  obtain ⟨⟨name, old⟩, hdeclared⟩ : ∃ declared, builder.rules[rule.index]? = some declared :=
    ⟨_, Array.getElem?_eq_getElem hrule⟩
  rw [define_run rule body builder hdeclared]
  cases old with
  | some old => exact h.of_rules rfl (Nat.le_refl _) h.distinct h.bodies
  | none =>
    have hkeeps := define_keeps body hdeclared
    refine h.of_rules rfl (by simp) (hkeeps.distinct h.distinct) fun {i name' body'} hfound ↦ ?_
    simp only [Option.isSome_none, Bool.false_eq_true, if_false] at hfound
    by_cases hsame : rule.index = i
    · subst hsame
      rw [Array.getElem?_setIfInBounds_self_of_lt hrule] at hfound
      cases hfound
      exact hbody
    · rw [Array.getElem?_setIfInBounds_ne hsame] at hfound
      exact h.bodies hfound

/-- A definition only touches the rules that are there. -/
theorem define_frame (rule : RuleId) (body : OpId) (builder : Builder) :
    ∃ rules duplicate, ((define rule body).run builder).2 = { builder with rules, duplicate } ∧
      rules.size = builder.rules.size := by
  cases hrule : builder.rules[rule.index]? with
  | none =>
    exact ⟨builder.rules, builder.duplicate, define_missing rule body builder hrule, rfl⟩
  | some declared =>
    rw [define_run rule body builder hrule]
    split
    · exact ⟨_, _, rfl, rfl⟩
    · exact ⟨_, _, rfl, Array.size_setIfInBounds⟩

/-- What holds of the tables of every builder. -/
structure Sound (builder : Builder) : Prop where
  closed : builder.Closed
  interned : Interned builder.symbols builder.ops.toList

theorem Sound.new (name : String) : Sound (.new name) where
  closed := by
    refine ⟨List.nodup_nil, fun hop ↦ ?_, fun hop ↦ ?_, fun hrule ↦ ?_⟩
    · simp [Builder.new] at hop
    · simp [Builder.new] at hop
    · simp [Builder.new] at hrule
  interned := ⟨by rintro _ ⟨⟩, List.nodup_nil, rfl⟩

theorem Sound.add {builder : Builder} (h : builder.Sound) {op : Op} (hplain : op.symbol? = none)
    (hop : builder.Has op) : ((Builder.add op).run builder).2.Sound := by
  refine ⟨h.closed.push hop builder.symbols, ?_⟩
  rw [add_run, Array.toList_push]
  exact h.interned.push hplain

/-- An operation with a text. -/
theorem Sound.add_symbol {builder : Builder} (h : builder.Sound) {op : Op} {text : String}
    (hsymbol : op.symbol? = some (builder.symbols.intern text).1) (hop : builder.Has op) :
    ((Builder.add op).run ((intern text).run builder).2).2.Sound := by
  refine ⟨h.closed.push hop (builder.symbols.intern text).2, ?_⟩
  rw [add_run, Array.toList_push]
  exact h.interned.push_intern hsymbol

/-- Every step of a caller keeps the tables sound. -/
theorem Built.sound {builder : Builder} (h : Built builder) : builder.Sound := by
  induction h with
  | new name => exact .new name
  | comment line _ ih =>
    exact ⟨ih.closed.of_rules rfl (Nat.le_refl _) ih.closed.distinct ih.closed.bodies, ih.interned⟩
  | @declare builder name _ ih =>
    have hgrows := declare_grows name builder
    obtain ⟨hops, hsymbols⟩ := declare_ops name builder
    refine ⟨ih.closed.of_rules hops (declare_size name builder)
      (hgrows.distinct ih.closed.distinct) fun hrule ↦ ih.closed.bodies (hgrows.defined hrule), ?_⟩
    rw [hops, hsymbols]
    exact ih.interned
  | @define builder rule body _ hdeclared hadded ih =>
    obtain ⟨rules, duplicate, hframe, _⟩ := define_frame rule body builder
    refine ⟨ih.closed.define hdeclared hadded, ?_⟩
    rw [hframe]
    exact ih.interned
  | add _ hplain hop ih => exact ih.add hplain hop
  | predicate hook negated _ ih =>
    exact ih.add_symbol rfl (.leaf rfl rfl)
  | label name _ hadded ih =>
    exact ih.add_symbol rfl (.inner rfl rfl hadded)

/-! ## The program of a grammar -/

theorem Grows.size {before after : Builder} (h : Grows before after) :
    before.ops.size ≤ after.ops.size ∧ before.rules.size ≤ after.rules.size := by
  obtain ⟨more, hops⟩ := h.ops
  obtain ⟨fresh, hrules⟩ := h.rules
  have hlength := congrArg List.length hrules
  simp only [Array.length_toList, List.length_append] at hlength
  rw [hops, Array.size_append]
  omega

/-- A rule that is declared is there. -/
theorem declare_lt (name : String) (builder : Builder) :
    ((declare name).run builder).1.index < ((declare name).run builder).2.rules.size := by
  obtain ⟨rule, hrule, _⟩ := declare_found name builder
  exact (Array.getElem?_eq_some_iff.mp hrule).1

mutual

theorem addExpr_built :
    (expr : Expr) → {builder : Builder} → Built builder → Built ((addExpr expr).run builder).2
  | .terminal text, _, h => .add h rfl (.leaf rfl rfl)
  | .charClass cls, _, h => .add h rfl (.leaf rfl rfl)
  | .anyChar, _, h => .add h rfl (.leaf rfl rfl)
  | .sequence items, builder, h => by
    have hparts := (addExprs_adds items builder).2.lt
    exact .add (addExprs_built items h) rfl ⟨hparts, by rintro _ ⟨⟩⟩
  | .choice alternatives, builder, h => by
    have hparts := (addExprs_adds alternatives builder).2.lt
    exact .add (addExprs_built alternatives h) rfl ⟨hparts, by rintro _ ⟨⟩⟩
  | .repetition inner least, builder, h => by
    have hpart := (addExpr_adds inner builder).2.lt
    exact .add (addExpr_built inner h) rfl (.inner rfl rfl hpart)
  | .optional inner, builder, h => by
    have hpart := (addExpr_adds inner builder).2.lt
    exact .add (addExpr_built inner h) rfl (.inner rfl rfl hpart)
  | .lookahead inner, builder, h => by
    have hpart := (addExpr_adds inner builder).2.lt
    exact .add (addExpr_built inner h) rfl (.inner rfl rfl hpart)
  | .negativeLookahead inner, builder, h => by
    have hpart := (addExpr_adds inner builder).2.lt
    exact .add (addExpr_built inner h) rfl (.inner rfl rfl hpart)
  | .predicate hook negated, _, h => .predicate hook negated h
  | .label name inner, builder, h => by
    have hpart := (addExpr_adds inner builder).2.lt
    exact .label name (addExpr_built inner h) hpart
  | .ruleRef name, builder, h => by
    have hrule := declare_lt name builder
    refine .add (.declare name h) rfl ⟨by rintro _ ⟨⟩, fun rule hcalled ↦ ?_⟩
    cases hcalled
    exact hrule

theorem addExprs_built :
    (exprs : List Expr) → {builder : Builder} → Built builder →
      Built ((addExprs exprs).run builder).2
  | [], _, h => h
  | expr :: rest, _, h => addExprs_built rest (addExpr_built expr h)

end

theorem declareAll_built (rules : List Rule) {builder : Builder} (h : Built builder) :
    Built ((declareAll rules).run builder).2 := by
  induction rules generalizing builder with
  | nil => exact h
  | cons rule rest ih => exact ih (.declare rule.name h)

theorem defineAll_built (entries : List (Rule × RuleId)) {builder : Builder} (h : Built builder)
    (hdeclared : ∀ entry ∈ entries, entry.2.index < builder.rules.size) :
    Built ((defineAll entries).run builder).2 := by
  induction entries generalizing builder with
  | nil => exact h
  | cons entry rest ih =>
    obtain ⟨rule, id⟩ := entry
    obtain ⟨hgrows, hencodes⟩ := addExpr_adds rule.body builder
    have hid := Nat.lt_of_lt_of_le (hdeclared (rule, id) List.mem_cons_self) hgrows.size.2
    rw [defineAll_cons]
    refine ih (.define (addExpr_built rule.body h) hid hencodes.lt) fun entry hentry ↦ ?_
    have hlt := hdeclared entry (List.mem_cons_of_mem _ hentry)
    obtain ⟨rules, duplicate, hframe, hsize⟩ :=
      define_frame id ((addExpr rule.body).run builder).1 ((addExpr rule.body).run builder).2
    rw [hframe]
    exact Nat.lt_of_lt_of_le hlt (hsize ▸ hgrows.size.2)

theorem comments_built (lines : List String) {builder : Builder} (h : Built builder) :
    Built { builder with comments := builder.comments ++ lines } := by
  induction lines generalizing builder with
  | nil => rwa [List.append_nil]
  | cons line rest ih =>
    have hline : ((comment line).run builder).2 =
        { builder with comments := builder.comments ++ [line] } := rfl
    have hrest := ih (.comment line h)
    rw [hline] at hrest
    simpa using hrest

/-- Lowering builds with the numbers that it is given. -/
theorem addGrammar_built (grammar : Grammar) :
    Built ((addGrammar grammar).run (.new grammar.name)).2 := by
  rw [addGrammar_run]
  have hheader : Built (ofHeader grammar) := by
    have hcomments := comments_built grammar.comments (.new grammar.name)
    simpa [ofHeader, Builder.new] using hcomments
  have hnamed := (declareAll_named grammar.rules (ofHeader grammar)).2
  refine defineAll_built _ (declareAll_built grammar.rules hheader) fun entry hentry ↦ ?_
  have hname := hnamed entry hentry
  rw [tables_rules, Option.map_eq_some_iff] at hname
  obtain ⟨rule, hrule, _⟩ := hname
  exact (Array.getElem?_eq_some_iff.mp hrule).1

/-! ## Name and comments -/

/-- What a builder is begun with: the name and the comments. -/
def header (builder : Builder) : String × List String := (builder.name, builder.comments)

theorem header_declare (name : String) (builder : Builder) :
    ((declare name).run builder).2.header = builder.header := by
  rw [declare_run]
  cases builder.rules.findIdx? (·.name == name) <;> rfl

mutual

theorem header_addExpr :
    (expr : Expr) → (builder : Builder) → ((addExpr expr).run builder).2.header = builder.header
  | .terminal _, _ => rfl
  | .charClass _, _ => rfl
  | .anyChar, _ => rfl
  | .predicate _ _, _ => rfl
  | .sequence items, builder => header_addExprs items builder
  | .choice alternatives, builder => header_addExprs alternatives builder
  | .repetition inner _, builder => header_addExpr inner builder
  | .optional inner, builder => header_addExpr inner builder
  | .lookahead inner, builder => header_addExpr inner builder
  | .negativeLookahead inner, builder => header_addExpr inner builder
  | .label _ inner, builder => header_addExpr inner builder
  | .ruleRef name, builder => header_declare name builder

theorem header_addExprs :
    (exprs : List Expr) → (builder : Builder) →
      ((addExprs exprs).run builder).2.header = builder.header
  | [], _ => rfl
  | expr :: rest, builder =>
    (header_addExprs rest ((addExpr expr).run builder).2).trans (header_addExpr expr builder)

end

theorem header_declareAll (rules : List Rule) (builder : Builder) :
    ((declareAll rules).run builder).2.header = builder.header := by
  induction rules generalizing builder with
  | nil => rfl
  | cons rule rest ih =>
    exact (ih ((declare rule.name).run builder).2).trans (header_declare _ _)

theorem header_defineAll (entries : List (Rule × RuleId)) (builder : Builder) :
    ((defineAll entries).run builder).2.header = builder.header := by
  induction entries generalizing builder with
  | nil => rfl
  | cons entry rest ih =>
    obtain ⟨rule, id⟩ := entry
    rw [defineAll_cons, ih]
    obtain ⟨rules, duplicate, hframe, _⟩ :=
      define_frame id ((addExpr rule.body).run builder).1 ((addExpr rule.body).run builder).2
    rw [hframe]
    exact header_addExpr rule.body builder

end Builder

/-- The program is what a builder finished with. -/
def Program.IsBuilt (program : Program) : Prop :=
  ∃ builder, Builder.Built builder ∧ builder.finish = .ok program

theorem Program.IsBuilt.sound {program : Program} (h : program.IsBuilt) :
    (Builder.ofProgram program).Sound := by
  obtain ⟨builder, hbuilt, hfinish⟩ := h
  rw [← Builder.finish_eq_ok_iff.mp hfinish]
  exact hbuilt.sound

theorem Grammar.toProgram_isBuilt {grammar : Grammar} {program : Program}
    (h : grammar.toProgram = .ok program) : program.IsBuilt :=
  ⟨_, Builder.addGrammar_built grammar, h⟩

/-- A program has the name and the comments of its grammar. -/
theorem Grammar.header_toProgram {grammar : Grammar} {program : Program}
    (h : grammar.toProgram = .ok program) :
    program.name = grammar.name ∧ program.comments = grammar.comments := by
  rw [toProgram, Builder.finish_eq_ok_iff] at h
  have hheader : (Builder.ofProgram program).header = (grammar.name, grammar.comments) := by
    rw [← h, Builder.addGrammar_run, Builder.header_defineAll, Builder.header_declareAll]
    rfl
  exact ⟨congrArg Prod.fst hheader, congrArg Prod.snd hheader⟩

end PegKit
