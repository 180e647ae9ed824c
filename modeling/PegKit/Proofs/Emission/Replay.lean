import Std.Data.String.ToNat
import PegKit.Proofs.CharClass.Normal
import PegKit.Proofs.Emission.Statements
import PegKit.Proofs.Program.Building

/-!
# Statements rebuild the program

Carried out on a builder of its own, each printed statement does what was done when the program was
built: it finds the numbers of earlier rules and operations under their variables, and gives out the
same number again. The variables known so far are what carries this from one statement to the next.
-/

namespace PegKit

/-- Adds an operation whose label or hook is given by the texts of another program. -/
def Builder.readd (symbols : Interner) : Op → Builder.Step OpId
  | .predicate hook negated => Builder.predicate (symbols.resolve hook) negated
  | .label name inner => Builder.label (symbols.resolve name) inner
  | op => Builder.add op

/-- With texts that get their symbols again, an operation is added as it was. -/
theorem Builder.readd_run {symbols : Interner} {op : Op} (builder : Builder)
    (hsymbol : ∀ symbol ∈ op.symbol?,
      (builder.symbols.intern (symbols.resolve symbol)).1 = symbol) :
    (readd symbols op).run builder = (⟨builder.ops.size⟩,
      { builder with
        ops := builder.ops.push op, symbols := useSymbol symbols builder.symbols op }) := by
  cases op with
  | predicate hook negated =>
    have hsame := hsymbol hook rfl
    change ((add (.predicate (builder.symbols.intern (symbols.resolve hook)).1 negated)).run
      ((intern (symbols.resolve hook)).run builder).2) = _
    rw [hsame]
    rfl
  | label name inner =>
    have hsame := hsymbol name rfl
    change ((add (.label (builder.symbols.intern (symbols.resolve name)).1 inner)).run
      ((intern (symbols.resolve name)).run builder).2) = _
    rw [hsame]
    rfl
  | _ => rfl

namespace Emission.Reading

/-! ## Variables and numbers -/

theorem opVariable_inj {i j : Nat} (h : Call.opVariable ⟨i⟩ = Call.opVariable ⟨j⟩) : i = j := by
  rw [opVariable_eq, opVariable_eq, String.append_right_inj] at h
  exact Nat.repr_injective h

theorem ruleVariable_inj {i j : Nat} (h : Call.ruleVariable ⟨i⟩ = Call.ruleVariable ⟨j⟩) :
    i = j := by
  rw [ruleVariable_eq, ruleVariable_eq, String.append_right_inj] at h
  exact Nat.repr_injective h

theorem opVariable_ne (id : OpId) (rule : RuleId) : Call.opVariable id ≠ Call.ruleVariable rule := by
  intro h
  have hletters := congrArg String.toList h
  rw [opVariable_eq, ruleVariable_eq, String.toList_append, String.toList_append] at hletters
  have hfirst := congrArg List.head? hletters
  simp at hfirst

theorem number?_toString (n : Nat) : number? (toString n) = some n := by
  have hdigits : (toString n).toList = Nat.toDigits 10 n := Nat.toList_repr
  have hall : (toString n).toList.all Char.isDigit = true := by
    rw [hdigits, List.all_eq_true]
    exact fun c hc ↦ Nat.isDigit_of_mem_toDigits (by decide) (by decide) hc
  have hsome : (toString n).isEmpty = false := by simp
  rw [number?, hall, hsome, hdigits, Nat.ofDigitChars_ten_toDigits]
  rfl

theorem flag?_toString (b : Bool) : flag? (toString b) = some b := by
  cases b <;> decide

/-- The variables of the first rules and operations hold their numbers. -/
structure Knows (values : String → Option Value) (rules ops : Nat) : Prop where
  rule : ∀ i < rules, values (Call.ruleVariable ⟨i⟩) = some (.rule ⟨i⟩)
  op : ∀ i < ops, values (Call.opVariable ⟨i⟩) = some (.op ⟨i⟩)

namespace Knows

variable {values : String → Option Value} {rules ops : Nat}

theorem bind_rule (h : Knows values rules ops) :
    Knows (fun name ↦ if name = Call.ruleVariable ⟨rules⟩ then some (.rule ⟨rules⟩)
      else values name) (rules + 1) ops where
  rule i hi := by
    by_cases hsame : i = rules
    · rw [hsame, if_pos rfl]
    · rw [if_neg fun hname ↦ hsame (ruleVariable_inj hname)]
      exact h.rule i (by omega)
  op i hi := by
    rw [if_neg (opVariable_ne _ _)]
    exact h.op i hi

theorem bind_op (h : Knows values rules ops) :
    Knows (fun name ↦ if name = Call.opVariable ⟨ops⟩ then some (.op ⟨ops⟩) else values name)
      rules (ops + 1) where
  rule i hi := by
    rw [if_neg (opVariable_ne _ _).symm]
    exact h.rule i hi
  op i hi := by
    by_cases hsame : i = ops
    · rw [hsame, if_pos rfl]
    · rw [if_neg fun hname ↦ hsame (opVariable_inj hname)]
      exact h.op i (by omega)

end Knows

/-! ## Calls -/

section Calls

variable {session : Session} {rules ops : Nat} (hknows : Knows session.values rules ops)

include hknows

theorem rule?_ruleVariable {rule : RuleId} (h : rule.index < rules) :
    session.rule? (Call.ruleVariable rule) = some rule := by
  rw [Session.rule?, hknows.rule rule.index h]

theorem op?_opVariable {id : OpId} (h : id.index < ops) :
    session.op? (Call.opVariable id) = some id := by
  rw [Session.op?, hknows.op id.index h]

theorem ops?_opVariables {ids : List OpId} (h : ∀ id ∈ ids, id.index < ops) :
    session.ops? (ids.map Call.opVariable) = some ids := by
  induction ids with
  | nil => rfl
  | cons id rest ih =>
    rw [List.map_cons, Session.ops?, op?_opVariable hknows (h id List.mem_cons_self),
      ih fun id hid ↦ h id (List.mem_cons_of_mem _ hid)]
    rfl

/-- The call printed for an operation adds the operation again. -/
theorem addition?_ofOp (program : Program) {op : Op} (hchildren : ∀ child ∈ op.children,
      child.index < ops) (hrule : ∀ rule ∈ op.rule?, rule.index < rules) :
    session.addition? (Call.ofOp program op).method (Call.ofOp program op).arguments =
      some (Builder.readd program.symbols op) := by
  have hinner {inner : OpId} (h : inner ∈ op.children) := op?_opVariable hknows (hchildren inner h)
  cases op with
  | terminal text => rfl
  | charClass cls =>
    change (flag? (toString cls.negated)).map (fun negated ↦
      Builder.add (.charClass (.ofRangesAs cls.text cls.ranges.toList negated))) = _
    rw [flag?_toString, Option.map_some, CharClass.ofRangesAs_ranges]
    rfl
  | anyChar => rfl
  | sequence items =>
    have hids : session.ops? (items.map Call.opVariable) = some items :=
      ops?_opVariables hknows hchildren
    change (session.ops? (items.map Call.opVariable)).map (fun ids ↦
      Builder.add (.sequence ids)) = _
    rw [hids]
    rfl
  | choice alternatives =>
    have hids : session.ops? (alternatives.map Call.opVariable) = some alternatives :=
      ops?_opVariables hknows hchildren
    change (session.ops? (alternatives.map Call.opVariable)).map (fun ids ↦
      Builder.add (.choice ids)) = _
    rw [hids]
    rfl
  | repetition inner least =>
    change (session.op? (Call.opVariable inner)).bind (fun inner ↦
      (number? (toString least)).map fun least ↦ Builder.add (.repetition inner least)) = _
    rw [hinner List.mem_cons_self, number?_toString]
    rfl
  | optional inner =>
    change (session.op? (Call.opVariable inner)).map (fun inner ↦ Builder.add (.optional inner)) = _
    rw [hinner List.mem_cons_self]
    rfl
  | lookahead inner =>
    change (session.op? (Call.opVariable inner)).map (fun inner ↦
      Builder.add (.lookahead inner)) = _
    rw [hinner List.mem_cons_self]
    rfl
  | negativeLookahead inner =>
    change (session.op? (Call.opVariable inner)).map (fun inner ↦
      Builder.add (.negativeLookahead inner)) = _
    rw [hinner List.mem_cons_self]
    rfl
  | predicate hook negated =>
    change (flag? (toString negated)).map (fun negated ↦
      Builder.predicate (program.symbols.resolve hook) negated) = _
    rw [flag?_toString]
    rfl
  | label name inner =>
    change (session.op? (Call.opVariable inner)).map (fun inner ↦
      Builder.label (program.symbols.resolve name) inner) = _
    rw [hinner List.mem_cons_self]
    rfl
  | call rule =>
    change (session.rule? (Call.ruleVariable rule)).map (fun rule ↦ Builder.add (.call rule)) = _
    rw [rule?_ruleVariable hknows (hrule rule rfl)]
    rfl

end Calls

theorem method_ne (call : Call) : call.method ≠ "declare_rule" := by
  cases call <;> simp only [Call.method] <;> decide

theorem evaluate?_addition {session : Session} {method : String} {arguments : List Argument}
    (hmethod : method ≠ "declare_rule") {addition : Builder.Step OpId}
    (h : session.addition? method arguments = some addition) :
    session.evaluate? ⟨session.target, method, arguments⟩ =
      some (.op (addition.run session.builder).1, (addition.run session.builder).2) := by
  rw [Session.evaluate?, if_pos rfl]
  split
  · next hname _ => exact absurd hname hmethod
  · rw [h]
    rfl

/-! ## Runs of statements -/

theorem run_bind {session : Session} {target : String} {call : Invocation} {value : Value}
    {builder : Builder} (h : session.evaluate? call = some (value, builder)) (rest : List Line) :
    session.run (.bind target call :: rest) =
      Session.run ⟨session.target, builder,
        fun name ↦ if name = target then some value else session.values name⟩ rest := by
  rw [Session.run, h]
  rfl

theorem run_perform {session : Session} {call : Invocation} {builder : Builder}
    (h : session.perform? call = some builder) (rest : List Line) :
    session.run (.perform call :: rest) =
      Session.run ⟨session.target, builder, session.values⟩ rest := by
  rw [Session.run, h]
  rfl

def declareLines (start : Nat) (rules : List RuleEntry) : List Line :=
  (rules.zipIdx start).map fun (entry, i) ↦ Statement.line (.declare ⟨i⟩ entry.name)

def addLines (program : Program) (start : Nat) (ops : List Op) : List Line :=
  (ops.zipIdx start).map fun (op, i) ↦ Statement.line (.add ⟨i⟩ (.ofOp program op))

def defineLines (start : Nat) (rules : List RuleEntry) : List Line :=
  (rules.zipIdx start).map fun (entry, i) ↦ Statement.line (.define ⟨i⟩ entry.body)

variable {values : String → Option Value} (rest : List Line)

theorem run_comments (lines : List String) (builder : Builder) :
    Session.run ⟨"b", builder, values⟩
        ((lines.map Statement.comment).map Statement.line ++ rest) =
      Session.run ⟨"b", { builder with comments := builder.comments ++ lines }, values⟩ rest := by
  induction lines generalizing builder with
  | nil => simp
  | cons line others ih =>
    rw [List.map_cons, List.map_cons, List.cons_append, Statement.line]
    refine (run_perform rfl _).trans ((ih _).trans ?_)
    have hcomments : ((Builder.comment line).run builder).2 =
        { builder with comments := builder.comments ++ [line] } := rfl
    rw [hcomments]
    simp only [List.append_assoc, List.singleton_append]

/-- A rule without a body. -/
def undefined (entry : RuleEntry) : DeclaredRule := ⟨entry.name, none⟩

def defined (entry : RuleEntry) : DeclaredRule := ⟨entry.name, some entry.body⟩

theorem declare_new {builder : Builder} {name : String} {done : List RuleEntry}
    (hrules : builder.rules = (done.map undefined).toArray) (hnew : name ∉ done.map (·.name)) :
    (Builder.declare name).run builder =
      (⟨done.length⟩, { builder with rules := builder.rules.push ⟨name, none⟩ }) := by
  have hnone : builder.rules.findIdx? (·.name == name) = none := by
    refine Array.findIdx?_eq_none_iff.mpr fun rule hrule ↦ ?_
    rw [hrules, List.mem_toArray] at hrule
    obtain ⟨entry, hentry, rfl⟩ := List.mem_map.mp hrule
    refine beq_eq_false_iff_ne.mpr fun hsame ↦ hnew ?_
    exact List.mem_map.mpr ⟨entry, hentry, hsame⟩
  have hsize : builder.rules.size = done.length := by simp [hrules]
  rw [Builder.declare_run, hnone, hsize]

/-- Declarations give out the numbers of the rules again. -/
theorem run_declares (more done : List RuleEntry) (hnames : ((done ++ more).map (·.name)).Nodup)
    (builder : Builder) (hrules : builder.rules = (done.map undefined).toArray)
    (hknows : Knows values done.length 0) :
    ∃ values', Knows values' (done ++ more).length 0 ∧
      Session.run ⟨"b", builder, values⟩ (declareLines done.length more ++ rest) =
        Session.run ⟨"b", { builder with rules := ((done ++ more).map undefined).toArray },
          values'⟩ rest := by
  induction more generalizing done builder values with
  | nil =>
    refine ⟨values, by rwa [List.append_nil], ?_⟩
    rw [List.append_nil, ← hrules]
    rfl
  | cons entry others ih =>
    have hnew : entry.name ∉ done.map (·.name) := by
      rw [List.map_append, List.map_cons] at hnames
      intro hold
      exact (List.nodup_append.mp hnames).2.2 _ hold _ List.mem_cons_self rfl
    have hcall : Session.evaluate? ⟨"b", builder, values⟩ ⟨"b", "declare_rule", [.text entry.name]⟩ =
        some (.rule ⟨done.length⟩,
          { builder with rules := builder.rules.push ⟨entry.name, none⟩ }) := by
      change some (Value.rule ((Builder.declare entry.name).run builder).1,
        ((Builder.declare entry.name).run builder).2) = _
      rw [declare_new hrules hnew]
    have hassoc : done ++ entry :: others = done ++ [entry] ++ others := by simp
    have hbound := hknows.bind_rule
    rw [hassoc] at hnames ⊢
    have hlength : (done ++ [entry]).length = done.length + 1 := by simp
    rw [← hlength] at hbound
    obtain ⟨values', hknows', hrun⟩ := ih (done ++ [entry]) hnames
      { builder with rules := builder.rules.push ⟨entry.name, none⟩ } (by simp [hrules, undefined])
      hbound
    refine ⟨values', hknows', Eq.trans ?_ hrun⟩
    rw [declareLines, List.zipIdx_cons, List.map_cons, List.cons_append, hlength]
    exact run_bind hcall _

/-- Additions give out the numbers of the operations again. -/
theorem run_adds {program : Program} (hsound : (Builder.ofProgram program).Sound)
    (more done : List Op) (hops : done ++ more = program.ops.toList) (builder : Builder)
    (hdone : builder.ops = done.toArray)
    (hsymbols : builder.symbols = Builder.firstUses program.symbols done)
    (hknows : Knows values program.rules.size done.length) :
    ∃ values', Knows values' program.rules.size program.ops.size ∧
      Session.run ⟨"b", builder, values⟩ (addLines program done.length more ++ rest) =
        Session.run ⟨"b", { builder with ops := program.ops, symbols := program.symbols },
          values'⟩ rest := by
  induction more generalizing done builder values with
  | nil =>
    rw [List.append_nil] at hops
    have hsize : done.length = program.ops.size := by rw [hops, Array.length_toList]
    refine ⟨values, hsize ▸ hknows, ?_⟩
    have huses : builder.symbols = program.symbols := by
      rw [hsymbols, hops]
      exact hsound.interned.uses
    have hsame : builder.ops = program.ops := by rw [hdone, hops]
    rw [← huses, ← hsame]
    rfl
  | cons op others ih =>
    have hassoc : done ++ op :: others = done ++ [op] ++ others := by simp
    rw [hassoc] at hops
    have hplace : (Builder.ofProgram program).ops[done.length]? = some op := by
      change program.ops[done.length]? = some op
      rw [← Array.getElem?_toList, ← hops]
      simp
    have hmem : op ∈ program.ops.toList := by
      rw [← hops]
      simp
    have hsymbol : ∀ symbol ∈ op.symbol?,
        (builder.symbols.intern (program.symbols.resolve symbol)).1 = symbol := by
      intro symbol hsymbol
      have hknown := hsound.interned.known op hmem symbol hsymbol
      refine Interner.intern_eq _ _ hsound.interned.nodup ?_ hknown rfl
      have hprefix := Builder.texts_firstUses program.symbols (done ++ [op]) others
      have huses := hsound.interned.uses
      rw [hops, Builder.firstUses_append, Builder.useSymbol, hsymbol, ← hsymbols] at hprefix
      change _ <+: (Builder.firstUses program.symbols program.ops.toList).texts.toList at hprefix
      change Builder.firstUses program.symbols program.ops.toList = program.symbols at huses
      rw [huses] at hprefix
      exact hprefix
    have hrule : ∀ rule ∈ op.rule?, rule.index < program.rules.size := by
      intro rule hrule
      have hlt := hsound.closed.calls hplace rule hrule
      simpa [Builder.ofProgram] using hlt
    have haddition : Session.addition? ⟨"b", builder, values⟩ (Call.ofOp program op).method
        (Call.ofOp program op).arguments = some (Builder.readd program.symbols op) :=
      addition?_ofOp hknows program (hsound.closed.children hplace) hrule
    have hcall := evaluate?_addition (method_ne _) haddition
    rw [Builder.readd_run builder hsymbol] at hcall
    have hsize : builder.ops.size = done.length := by simp [hdone]
    have hlength : (done ++ [op]).length = done.length + 1 := by simp
    have hbound := hknows.bind_op
    rw [← hlength] at hbound
    obtain ⟨values', hknows', hrun⟩ := ih (done ++ [op]) hops
      { builder with
        ops := builder.ops.push op
        symbols := Builder.useSymbol program.symbols builder.symbols op }
      (by simp [hdone]) (by rw [Builder.firstUses_append, hsymbols]) hbound
    refine ⟨values', hknows', Eq.trans ?_ hrun⟩
    rw [hsize] at hcall
    rw [addLines, List.zipIdx_cons, List.map_cons, List.cons_append, hlength]
    exact run_bind hcall _

/-- A definition gives the first rule without a body its body. -/
theorem define_next {builder : Builder} {done others : List RuleEntry} {entry : RuleEntry}
    (hrules : builder.rules = (done.map defined ++ (entry :: others).map undefined).toArray) :
    ((Builder.define ⟨done.length⟩ entry.body).run builder).2 =
      { builder with
        rules := ((done ++ [entry]).map defined ++ others.map undefined).toArray } := by
  have hplace : builder.rules[done.length]? = some (undefined entry) := by
    simp [hrules]
  have hset : builder.rules.setIfInBounds done.length (defined entry) =
      ((done ++ [entry]).map defined ++ others.map undefined).toArray := by
    rw [hrules]
    simp [List.set_append_right]
  rw [Builder.define_run ⟨done.length⟩ entry.body builder hplace, ← hset]
  rfl

theorem run_defines (more done : List RuleEntry) {ops : Nat}
    (hbodies : ∀ entry ∈ more, entry.body.index < ops) (builder : Builder)
    (hrules : builder.rules = (done.map defined ++ more.map undefined).toArray)
    (hknows : Knows values (done ++ more).length ops) :
    Session.run ⟨"b", builder, values⟩ (defineLines done.length more ++ rest) =
      Session.run ⟨"b", { builder with rules := ((done ++ more).map defined).toArray }, values⟩
        rest := by
  induction more generalizing done builder with
  | nil =>
    rw [List.map_nil, List.append_nil] at hrules
    rw [List.append_nil, ← hrules]
    rfl
  | cons entry others ih =>
    have hassoc : done ++ entry :: others = done ++ [entry] ++ others := by simp
    have hrule : Session.rule? ⟨"b", builder, values⟩ (Call.ruleVariable ⟨done.length⟩) =
        some ⟨done.length⟩ := rule?_ruleVariable hknows (by simp)
    have hbody : Session.op? ⟨"b", builder, values⟩ (Call.opVariable entry.body) =
        some entry.body := op?_opVariable hknows (hbodies entry List.mem_cons_self)
    have hcall : Session.perform? ⟨"b", builder, values⟩ ⟨"b", "define_rule",
        [.word (Call.ruleVariable ⟨done.length⟩), .word (Call.opVariable entry.body)]⟩ =
          some { builder with
            rules := ((done ++ [entry]).map defined ++ others.map undefined).toArray } := by
      change (Session.rule? ⟨"b", builder, values⟩ (Call.ruleVariable ⟨done.length⟩)).bind
        (fun rule ↦ (Session.op? ⟨"b", builder, values⟩ (Call.opVariable entry.body)).map
          fun body ↦ ((Builder.define rule body).run builder).2) = _
      rw [hrule, hbody, Option.bind_some, Option.map_some, define_next hrules]
    have hlength : (done ++ [entry]).length = done.length + 1 := by simp
    rw [hassoc] at hknows ⊢
    have hrun := ih (done ++ [entry])
      (fun entry hentry ↦ hbodies entry (List.mem_cons_of_mem _ hentry))
      { builder with
        rules := ((done ++ [entry]).map defined ++ others.map undefined).toArray } rfl hknows
    refine Eq.trans ?_ hrun
    rw [defineLines, List.zipIdx_cons, List.map_cons, List.cons_append, hlength]
    exact run_perform hcall _

/-- The statements of a program, read back, are carried out to the program. -/
theorem run_ofProgram {program : Program} (hsound : (Builder.ofProgram program).Sound) :
    ∃ lines, (Statement.ofProgram program).map Statement.line =
        .create "b" program.name :: lines ∧
      Session.run ⟨"b", .new program.name, fun _ ↦ none⟩ lines = some (.ok program) := by
  have hnames : ((([] : List RuleEntry) ++ program.rules.toList).map (·.name)).Nodup := by
    have hdistinct := hsound.closed.distinct
    simpa [Builder.Distinct, Builder.ofProgram, Function.comp_def] using hdistinct
  have hbodies : ∀ entry ∈ program.rules.toList, entry.body.index < program.ops.size := by
    intro entry hentry
    obtain ⟨i, hi⟩ := List.getElem?_of_mem hentry
    rw [Array.getElem?_toList] at hi
    exact hsound.closed.bodies (Builder.rules_ofProgram.mpr hi)
  have hnone : Knows (fun _ ↦ none) ([] : List RuleEntry).length 0 := by
    constructor <;> rintro i ⟨⟩
  refine ⟨(program.comments.map Statement.comment).map Statement.line ++
    (declareLines 0 program.rules.toList ++ (addLines program 0 program.ops.toList ++
      (defineLines 0 program.rules.toList ++ [.result ⟨"b", "finish", []⟩]))), ?_, ?_⟩
  · simp only [Statement.ofProgram, List.map_append, List.map_map, List.map_cons, List.map_nil,
      List.append_assoc, List.cons_append, List.nil_append]
    rfl
  · obtain ⟨name, comments, ops, rules, symbols⟩ := program
    obtain ⟨values, hknows, hdeclares⟩ := run_declares
      (addLines ⟨name, comments, ops, rules, symbols⟩ 0 ops.toList ++
        (defineLines 0 rules.toList ++ [.result ⟨"b", "finish", []⟩]))
      rules.toList [] hnames ⟨name, comments, #[], #[], .empty, none⟩ rfl hnone
    obtain ⟨values', hknows', hadds⟩ := run_adds
      (defineLines 0 rules.toList ++ [.result ⟨"b", "finish", []⟩]) hsound ops.toList [] rfl
      ⟨name, comments, #[], (rules.toList.map undefined).toArray, .empty, none⟩ rfl rfl hknows
    have hdefines := run_defines [.result ⟨"b", "finish", []⟩] rules.toList [] hbodies
      ⟨name, comments, ops, (rules.toList.map undefined).toArray, symbols, none⟩ rfl hknows'
    have hfinish : Builder.finish ⟨name, comments, ops, (rules.toList.map defined).toArray, symbols,
        none⟩ = .ok ⟨name, comments, ops, rules, symbols⟩ := by
      have hentries : Builder.entries (rules.toList.map defined) = .ok rules.toList :=
        Builder.entries_map rules.toList
      simp only [Builder.finish, hentries]
      rfl
    rw [run_comments]
    refine hdeclares.trans (hadds.trans (hdefines.trans ?_))
    exact congrArg some hfinish

end Emission.Reading

end PegKit
