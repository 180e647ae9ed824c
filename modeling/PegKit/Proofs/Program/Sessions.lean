import PegKit.Proofs.Analysis.Repeats
import PegKit.Proofs.Machine.Guarded
import PegKit.Proofs.Program.Faithful

/-!
# Sessions with a builder

A caller of a builder goes through its methods in any order and passes on the numbers that it got.
Whatever it does, rules stand in the order in which their names were first mentioned, finishing
refuses the first rule that was defined again, or else the first that was not defined, and the
program that comes out otherwise is one whose runs find everything that they look for.
-/

namespace PegKit

namespace Builder

/-! ## Actions -/

/-- A call of a method of a builder. -/
inductive Action
  | comment (line : String)
  | declare (name : String)
  | define (id : RuleId) (body : OpId)
  /-- Declares and defines at once. -/
  | rule (name : String) (body : OpId)
  | terminal (text : String)
  | charClass (cls : CharClass)
  | anyChar
  | sequence (items : List OpId)
  | choice (alternatives : List OpId)
  | repetition (inner : OpId) (least : Nat)
  | zeroOrMore (inner : OpId)
  | oneOrMore (inner : OpId)
  | optional (inner : OpId)
  | lookahead (inner : OpId)
  | negativeLookahead (inner : OpId)
  | predicate (hook : String) (negated : Bool)
  | label (name : String) (inner : OpId)
  | call (id : RuleId)
  | reference (name : String)
  | expr (tree : Expr)

/-- The number that a method returns. -/
inductive Answer
  | nothing
  | rule (id : RuleId)
  | op (id : OpId)
  deriving DecidableEq, Repr

namespace Answer

def LiesIn (builder : Builder) : Answer → Prop
  | .nothing => True
  | .rule id => id.index < builder.rules.size
  | .op id => id.index < builder.ops.size

def rules : Answer → List RuleId
  | .rule id => [id]
  | _ => []

def ops : Answer → List OpId
  | .op id => [id]
  | _ => []

theorem LiesIn.rules_lt {builder : Builder} {answer : Answer} (h : answer.LiesIn builder) :
    ∀ id ∈ answer.rules, id.index < builder.rules.size := by
  cases answer with
  | rule id => exact List.forall_mem_singleton.mpr h
  | _ => exact List.forall_mem_nil _

theorem LiesIn.ops_lt {builder : Builder} {answer : Answer} (h : answer.LiesIn builder) :
    ∀ id ∈ answer.ops, id.index < builder.ops.size := by
  cases answer with
  | op id => exact List.forall_mem_singleton.mpr h
  | _ => exact List.forall_mem_nil _

end Answer

namespace Action

def perform : Action → Step Answer
  | .comment line => do
    Builder.comment line
    return .nothing
  | .declare name => return .rule (← Builder.declare name)
  | .define id body => do
    Builder.define id body
    return .nothing
  | .rule name body => do
    let id ← Builder.declare name
    Builder.define id body
    return .rule id
  | .terminal text => return .op (← add (.terminal text))
  | .charClass cls => return .op (← add (.charClass cls))
  | .anyChar => return .op (← add .anyChar)
  | .sequence items => return .op (← add (.sequence items))
  | .choice alternatives => return .op (← add (.choice alternatives))
  | .repetition inner least => return .op (← add (.repetition inner least))
  | .zeroOrMore inner => return .op (← add (.repetition inner 0))
  | .oneOrMore inner => return .op (← add (.repetition inner 1))
  | .optional inner => return .op (← add (.optional inner))
  | .lookahead inner => return .op (← add (.lookahead inner))
  | .negativeLookahead inner => return .op (← add (.negativeLookahead inner))
  | .predicate hook negated => return .op (← Builder.predicate hook negated)
  | .label name inner => return .op (← Builder.label name inner)
  | .call id => return .op (← add (.call id))
  | .reference name => return .op (← Builder.reference name)
  | .expr tree => return .op (← addExpr tree)

/-- The rules that are passed. -/
def rules : Action → List RuleId
  | .define id _ => [id]
  | .call id => [id]
  | _ => []

/-- The operations that are passed. -/
def ops : Action → List OpId
  | .define _ body => [body]
  | .rule _ body => [body]
  | .sequence items => items
  | .choice alternatives => alternatives
  | .repetition inner _ => [inner]
  | .zeroOrMore inner => [inner]
  | .oneOrMore inner => [inner]
  | .optional inner => [inner]
  | .lookahead inner => [inner]
  | .negativeLookahead inner => [inner]
  | .label _ inner => [inner]
  | _ => []

/-- The names of rules that are mentioned, in the order of mention. -/
def mentions : Action → List String
  | .declare name => [name]
  | .rule name _ => [name]
  | .reference name => [name]
  | .expr tree => tree.refs
  | _ => []

/-- The rule that is given a body. -/
def defines? : Action → Answer → Option RuleId
  | .define id _, _ => some id
  | .rule _ _, .rule id => some id
  | _, _ => none

/-- The operation of an action that only adds one. -/
def op? : Action → Option Op
  | .terminal text => some (.terminal text)
  | .charClass cls => some (.charClass cls)
  | .anyChar => some .anyChar
  | .sequence items => some (.sequence items)
  | .choice alternatives => some (.choice alternatives)
  | .repetition inner least => some (.repetition inner least)
  | .zeroOrMore inner => some (.repetition inner 0)
  | .oneOrMore inner => some (.repetition inner 1)
  | .optional inner => some (.optional inner)
  | .lookahead inner => some (.lookahead inner)
  | .negativeLookahead inner => some (.negativeLookahead inner)
  | .call id => some (.call id)
  | _ => none

end Action

/-! ## Sessions -/

/-- A builder, the numbers that its caller has, and the rules that the caller gave bodies to, in the
order of the definitions. -/
structure Session where
  builder : Builder
  rules : List RuleId
  ops : List OpId
  defined : List RuleId
  deriving DecidableEq, Repr

namespace Session

def new (name : String) : Session := ⟨.new name, [], [], []⟩

def perform (session : Session) (action : Action) : Session :=
  let (answer, builder) := action.perform.run session.builder
  ⟨builder, session.rules ++ answer.rules, session.ops ++ answer.ops,
    session.defined ++ (action.defines? answer).toList⟩

def performAll (session : Session) (actions : List Action) : Session :=
  actions.foldl perform session

/-- Only numbers that were given are passed. -/
def Allows (session : Session) (action : Action) : Prop :=
  action.rules ⊆ session.rules ∧ action.ops ⊆ session.ops

/-- Every action passes numbers that actions before it were given. -/
def AllowsAll (session : Session) : List Action → Prop
  | [] => True
  | action :: rest => session.Allows action ∧ (session.perform action).AllowsAll rest

instance (session : Session) (action : Action) : Decidable (session.Allows action) :=
  inferInstanceAs (Decidable (_ ∧ _))

instance decidableAllowsAll (session : Session) : (actions : List Action) →
    Decidable (session.AllowsAll actions)
  | [] => .isTrue trivial
  | action :: rest =>
    have := decidableAllowsAll (session.perform action) rest
    inferInstanceAs (Decidable (_ ∧ _))

def names (session : Session) : List String := session.builder.tables.rules

end Session

/-- Of definitions of rules, those that are not the first ones of their rules. -/
def redefined : List RuleId → List RuleId :=
  eachAfter fun before id ↦ if id ∈ before then some id else none

theorem redefined_concat (defined : List RuleId) (id : RuleId) :
    redefined (defined ++ [id]) = redefined defined ++ if id ∈ defined then [id] else [] := by
  rw [redefined, eachAfter_concat]
  split <;> rfl

/-! ## Names in the order of mention -/

/-- The rules are those that are mentioned, in the order of the first mentions. -/
def Mentions (mentioned : List String) (builder : Builder) : Prop :=
  builder.tables.rules = mentioned.eraseDups

theorem Mentions.declare {mentioned : List String} {builder : Builder}
    (h : Mentions mentioned builder) (name : String) :
    Mentions (mentioned ++ [name]) ((declare name).run builder).2 := by
  have hrules : builder.tables.rules = mentioned.eraseDups := h
  rw [Mentions, List.eraseDups_append]
  by_cases hknown : name ∈ mentioned
  · have hold : name ∈ builder.tables.rules := by
      rw [hrules]
      exact List.mem_eraseDups.mpr hknown
    rw [declare_known hold, hrules]
    simp [List.removeAll, hknown]
  · have hnew : name ∉ builder.tables.rules := by
      rw [hrules]
      exact fun hmem ↦ hknown (List.mem_eraseDups.mp hmem)
    rw [declare_fresh hnew, ← hrules]
    simp [tables, List.removeAll, hknown, List.eraseDups_cons]

/-- A definition mentions no name. -/
theorem Mentions.define {mentioned : List String} {builder : Builder}
    (h : Mentions mentioned builder) (id : RuleId) (body : OpId) :
    Mentions mentioned ((Builder.define id body).run builder).2 := by
  cases hrule : builder.rules[id.index]? with
  | none =>
    rw [define_missing id body builder hrule]
    exact h
  | some rule =>
    rw [define_run id body builder hrule]
    split
    · exact h
    · exact (names_setIfInBounds hrule (some body)).trans h

mutual

theorem addExpr_mentions :
    (expr : Expr) → {mentioned : List String} → {builder : Builder} → Mentions mentioned builder →
      Mentions (mentioned ++ expr.refs) ((addExpr expr).run builder).2
  | .terminal _, mentioned, _, h => by
    rw [Expr.refs, List.append_nil]
    exact h
  | .charClass _, mentioned, _, h => by
    rw [Expr.refs, List.append_nil]
    exact h
  | .anyChar, mentioned, _, h => by
    rw [Expr.refs, List.append_nil]
    exact h
  | .predicate _ _, mentioned, _, h => by
    rw [Expr.refs, List.append_nil]
    exact h
  | .sequence items, _, _, h => addExprs_mentions items h
  | .choice alternatives, _, _, h => addExprs_mentions alternatives h
  | .repetition inner _, _, _, h => addExpr_mentions inner h
  | .optional inner, _, _, h => addExpr_mentions inner h
  | .lookahead inner, _, _, h => addExpr_mentions inner h
  | .negativeLookahead inner, _, _, h => addExpr_mentions inner h
  | .label _ inner, _, _, h => addExpr_mentions inner h
  | .ruleRef name, _, _, h => h.declare name

theorem addExprs_mentions :
    (exprs : List Expr) → {mentioned : List String} → {builder : Builder} →
      Mentions mentioned builder →
        Mentions (mentioned ++ Expr.refsOfList exprs) ((addExprs exprs).run builder).2
  | [], mentioned, _, h => by
    rw [Expr.refsOfList, List.append_nil]
    exact h
  | expr :: rest, mentioned, _, h => by
    rw [Expr.refsOfList, ← List.append_assoc]
    exact addExprs_mentions rest (addExpr_mentions expr h)

end

/-! ## One action -/

namespace Action

variable {action : Action} {builder : Builder}

/-- The action adds the operation and does nothing else. -/
structure OnlyAdds (action : Action) (op : Op) : Prop where
  performs : ∀ builder : Builder, action.perform.run builder =
    (.op ⟨builder.ops.size⟩, { builder with ops := builder.ops.push op })
  plain : op.symbol? = none
  children : op.children = action.ops
  rule : op.rule?.toList = action.rules
  mentions : action.mentions = []
  defines : ∀ answer, action.defines? answer = none

theorem onlyAdds {op : Op} (h : action.op? = some op) : action.OnlyAdds op := by
  cases action <;> cases h <;> exact ⟨fun _ ↦ rfl, rfl, rfl, rfl, rfl, fun _ ↦ rfl⟩

/-- Actions that pass what is there are steps of a caller. -/
theorem perform_built (h : Built builder)
    (hrules : ∀ id ∈ action.rules, id.index < builder.rules.size)
    (hops : ∀ id ∈ action.ops, id.index < builder.ops.size) :
    Built (action.perform.run builder).2 := by
  cases hop : action.op? with
  | some op =>
    have hadds := onlyAdds hop
    have hhas : builder.Has op := by
      constructor
      · rw [hadds.children]
        exact hops
      · intro id hid
        apply hrules
        rw [← hadds.rule]
        exact Option.mem_toList.mpr hid
    rw [hadds.performs]
    exact .add h hadds.plain hhas
  | none =>
    cases action with
    | comment line => exact .comment line h
    | declare name => exact .declare name h
    | define id body =>
      exact .define h (hrules id List.mem_cons_self) (hops body List.mem_cons_self)
    | rule name body =>
      have hbody := hops body List.mem_cons_self
      rw [← (declare_ops name builder).1] at hbody
      exact .define (.declare name h) (declare_lt name builder) hbody
    | predicate hook negated => exact .predicate hook negated h
    | label name inner => exact .label name h (hops inner List.mem_cons_self)
    | reference name => exact addExpr_built (.ruleRef name) h
    | expr tree => exact addExpr_built tree h
    | _ => cases hop

/-- What an action leaves, apart from the body that it gives to a rule. -/
structure Prepares (action : Action) (before after : Builder) : Prop where
  grows : Grows before after
  mentions : ∀ {mentioned : List String}, Mentions mentioned before →
    Mentions (mentioned ++ action.mentions) after

/-- An action that mentions no rule. -/
theorem Prepares.silent {after : Builder} (hmentions : action.mentions = [])
    (hgrows : Grows builder after) (hrules : after.rules = builder.rules) :
    action.Prepares builder after := by
  refine ⟨hgrows, ?_⟩
  intro mentioned h
  rw [hmentions, List.append_nil, Mentions, tables, hrules]
  exact h

/-- An action grows the tables, and then it may give a rule its body. -/
theorem perform_cases (action : Action) (builder : Builder) :
    ∃ added, action.Prepares builder added ∧
      (action.defines? (action.perform.run builder).1 = none ∧
          (action.perform.run builder).2 = added ∨
        ∃ id body, action.defines? (action.perform.run builder).1 = some id ∧
          (id ∈ action.rules ∨ id.index < added.rules.size) ∧
            (action.perform.run builder).2 = ((Builder.define id body).run added).2) := by
  cases hop : action.op? with
  | some op =>
    have hadds := onlyAdds hop
    rw [hadds.performs]
    exact ⟨_, .silent hadds.mentions (add_grows op builder) rfl, .inl ⟨hadds.defines _, rfl⟩⟩
  | none =>
    cases action with
    | comment line =>
      have hgrows : Grows builder { builder with comments := builder.comments ++ [line] } :=
        ⟨⟨#[], by simp⟩, id, ⟨[], by simp⟩, rfl, id⟩
      exact ⟨_, .silent rfl hgrows rfl, .inl ⟨rfl, rfl⟩⟩
    | declare name =>
      exact ⟨_, ⟨declare_grows name builder, fun h ↦ h.declare name⟩, .inl ⟨rfl, rfl⟩⟩
    | define id body =>
      exact ⟨builder, .silent rfl (.refl builder) rfl,
        .inr ⟨id, body, rfl, .inl List.mem_cons_self, rfl⟩⟩
    | rule name body =>
      exact ⟨_, ⟨declare_grows name builder, fun h ↦ h.declare name⟩,
        .inr ⟨_, body, rfl, .inr (declare_lt name builder), rfl⟩⟩
    | predicate hook negated =>
      have hadds := addExpr_adds (.predicate hook negated) builder
      exact ⟨_, .silent rfl hadds.1 rfl, .inl ⟨rfl, rfl⟩⟩
    | label name inner =>
      have hgrows := (intern_grows name builder).trans
        (add_grows (.label ((intern name).run builder).1 inner) ((intern name).run builder).2)
      exact ⟨_, .silent rfl hgrows rfl, .inl ⟨rfl, rfl⟩⟩
    | reference name =>
      have hadds := addExpr_adds (.ruleRef name) builder
      exact ⟨_, ⟨hadds.1, addExpr_mentions (.ruleRef name)⟩, .inl ⟨rfl, rfl⟩⟩
    | expr tree =>
      exact ⟨_, ⟨(addExpr_adds tree builder).1, addExpr_mentions tree⟩, .inl ⟨rfl, rfl⟩⟩
    | _ => cases hop

/-- Tables do not shrink. -/
theorem perform_size (action : Action) (builder : Builder) :
    builder.ops.size ≤ (action.perform.run builder).2.ops.size ∧
      builder.rules.size ≤ (action.perform.run builder).2.rules.size := by
  obtain ⟨added, hprepares, hcases⟩ := action.perform_cases builder
  have hgrown := hprepares.grows.size
  rcases hcases with ⟨_, hafter⟩ | ⟨id, body, _, _, hafter⟩
  · rw [hafter]
    exact hgrown
  · obtain ⟨rules, duplicate, hframe, hsize⟩ := define_frame id body added
    rw [hafter, hframe]
    exact ⟨hgrown.1, hsize ▸ hgrown.2⟩

/-- The number that is given leads somewhere. -/
theorem perform_answer (action : Action) (builder : Builder) :
    (action.perform.run builder).1.LiesIn (action.perform.run builder).2 := by
  cases hop : action.op? with
  | some op =>
    rw [(onlyAdds hop).performs]
    simp [Answer.LiesIn]
  | none =>
    cases action with
    | comment line => trivial
    | declare name => exact declare_lt name builder
    | define id body => trivial
    | rule name body =>
      obtain ⟨rules, duplicate, hframe, hsize⟩ :=
        define_frame ((Builder.declare name).run builder).1 body
          ((Builder.declare name).run builder).2
      have hdefined : ((Builder.declare name).run builder).1.index <
          ((Builder.define ((Builder.declare name).run builder).1 body).run
            ((Builder.declare name).run builder).2).2.rules.size := by
        rw [hframe, hsize]
        exact declare_lt name builder
      exact hdefined
    | predicate hook negated => exact (addExpr_adds (.predicate hook negated) builder).2.lt
    | label name inner =>
      change builder.ops.size < (builder.ops.push _).size
      simp
    | reference name => exact (addExpr_adds (.ruleRef name) builder).2.lt
    | expr tree => exact (addExpr_adds tree builder).2.lt
    | _ => cases hop

end Action

/-! ## Definitions -/

theorem mem_of_mem_redefined {defined : List RuleId} {id : RuleId} (h : id ∈ redefined defined) :
    id ∈ defined := by
  induction defined using List.reverseRecOn with
  | nil => cases h
  | append_singleton defined last ih =>
    rw [redefined_concat] at h
    rcases List.mem_append.mp h with hbefore | hlast
    · exact List.mem_append_left _ (ih hbefore)
    · split at hlast
      · exact List.mem_append_right _ hlast
      · cases hlast

/-- The builder tells first definitions from later ones. -/
structure Tracks (defined : List RuleId) (builder : Builder) : Prop where
  known : ∀ id ∈ defined, id.index < builder.rules.size
  bodies : ∀ {i : Nat} {rule : DeclaredRule}, builder.rules[i]? = some rule →
    (rule.body.isSome ↔ ⟨i⟩ ∈ defined)
  duplicate : builder.duplicate =
    (redefined defined).head?.bind fun id ↦ builder.tables.rules[id.index]?

namespace Tracks

variable {defined : List RuleId} {builder : Builder}

theorem name (h : Tracks defined builder) {id : RuleId} (hid : id ∈ defined) :
    ∃ name, builder.tables.rules[id.index]? = some name := by
  rw [tables_rules, Array.getElem?_eq_getElem (h.known id hid)]
  exact ⟨_, rfl⟩

/-- Rules that are new have no body. -/
theorem grow {after : Builder} (h : Tracks defined builder) (hgrows : Grows builder after) :
    Tracks defined after where
  known := by
    intro id hid
    exact Nat.lt_of_lt_of_le (h.known id hid) hgrows.size.2
  bodies := by
    intro i rule hrule
    by_cases hold : i < builder.rules.size
    · have hbefore := Array.getElem?_eq_getElem hold
      have hsame := hgrows.getElem?_rules hbefore
      rw [hrule, Option.some.injEq] at hsame
      rw [hsame]
      exact h.bodies hbefore
    · have hnone : rule.body = none := by
        obtain ⟨name, body⟩ := rule
        cases body with
        | none => rfl
        | some body =>
          have hbefore := hgrows.defined hrule
          exact absurd (Array.getElem?_eq_some_iff.mp hbefore).1 hold
      rw [hnone]
      constructor
      · intro hsome
        cases hsome
      · intro hdefined
        exact absurd (h.known _ hdefined) hold
  duplicate := by
    -- The name of the first redefined rule stays where it is while the table grows.
    rw [hgrows.duplicate, h.duplicate]
    cases hhead : (redefined defined).head? with
    | none => rfl
    | some id =>
      have hid := mem_of_mem_redefined (List.mem_of_head? hhead)
      obtain ⟨name, hname⟩ := h.name hid
      rw [Option.bind_some, Option.bind_some, hname, hgrows.tables.rules hname]

theorem known_concat (h : Tracks defined builder) {id : RuleId}
    (hid : id.index < builder.rules.size) :
    ∀ id' ∈ defined ++ [id], id'.index < builder.rules.size :=
  List.forall_mem_append.mpr ⟨h.known, List.forall_mem_singleton.mpr hid⟩

/-- The first rule that is defined again is noted. -/
theorem defineAgain (h : Tracks defined builder) {id : RuleId} {rule : DeclaredRule}
    (hrule : builder.rules[id.index]? = some rule) (hmem : id ∈ defined) :
    Tracks (defined ++ [id])
      { builder with duplicate := builder.duplicate.or (some rule.name) } where
  known := h.known_concat (h.known id hmem)
  bodies := by
    intro i rule' hrule'
    rw [h.bodies hrule', List.mem_append, List.mem_singleton]
    constructor
    · exact Or.inl
    · rintro (hold | rfl)
      · exact hold
      · exact hmem
  duplicate := by
    have hname : builder.tables.rules[id.index]? = some rule.name := by
      rw [tables_rules, hrule, Option.map_some]
    change builder.duplicate.or (some rule.name) =
      (redefined (defined ++ [id])).head?.bind fun id' ↦ builder.tables.rules[id'.index]?
    rw [redefined_concat, if_pos hmem, List.head?_append, h.duplicate]
    cases hhead : (redefined defined).head? with
    | none => exact hname.symm
    | some first =>
      obtain ⟨name, hfirst⟩ := h.name (mem_of_mem_redefined (List.mem_of_head? hhead))
      simp [hfirst]

theorem defineFirst (h : Tracks defined builder) {id : RuleId} {rule : DeclaredRule}
    (hrule : builder.rules[id.index]? = some rule) (hnew : id ∉ defined) (body : OpId) :
    Tracks (defined ++ [id]) { builder with
      rules := builder.rules.setIfInBounds id.index { rule with body := some body } } where
  known := by
    rw [Array.size_setIfInBounds]
    exact h.known_concat (Array.getElem?_eq_some_iff.mp hrule).1
  bodies := by
    intro i rule' hrule'
    by_cases hplace : id.index = i
    · subst hplace
      rw [Array.getElem?_setIfInBounds_self_of_lt (Array.getElem?_eq_some_iff.mp hrule).1]
        at hrule'
      cases hrule'
      simp
    · rw [Array.getElem?_setIfInBounds_ne hplace] at hrule'
      have hother : (⟨i⟩ : RuleId) ≠ id := fun hsame ↦ hplace (congrArg RuleId.index hsame.symm)
      rw [h.bodies hrule', List.mem_append, List.mem_singleton, or_iff_left hother]
  duplicate := by
    have hnames := names_setIfInBounds hrule (some body)
    rw [redefined_concat, if_neg hnew, List.append_nil, tables, hnames]
    exact h.duplicate

theorem define (h : Tracks defined builder) {id : RuleId} (hid : id.index < builder.rules.size)
    (body : OpId) : Tracks (defined ++ [id]) ((Builder.define id body).run builder).2 := by
  have hrule := Array.getElem?_eq_getElem hid
  have hbody := h.bodies hrule
  rw [define_run id body builder hrule]
  split
  next hsome => exact h.defineAgain hrule (hbody.mp hsome)
  next hnone =>
    have hnew : id ∉ defined := fun hmem ↦ hnone (hbody.mpr hmem)
    exact h.defineFirst hrule hnew body

end Tracks

/-! ## Finishing -/

theorem entries_eq_error_iff {rules : List DeclaredRule} {error : BuildError} :
    entries rules = .error error ↔
      ∃ rule, rules.find? (·.body.isNone) = some rule ∧ error = .undefinedRule rule.name := by
  induction rules with
  | nil => simp [entries]
  | cons rule rest ih =>
    obtain ⟨name, body⟩ := rule
    cases body with
    | none => simp [entries, eq_comm]
    | some body =>
      have hfind : (⟨name, some body⟩ :: rest).find? (fun rule ↦ rule.body.isNone) =
          rest.find? (·.body.isNone) := rfl
      rw [hfind, ← ih, entries]
      cases entries rest with
      | error error' => rfl
      | ok found =>
        constructor
        · intro herror
          cases herror
        · intro herror
          cases herror

theorem finish_eq_error_iff {builder : Builder} {error : BuildError} :
    builder.finish = .error error ↔
      (∃ name, builder.duplicate = some name ∧ error = .duplicateRule name) ∨
        builder.duplicate = none ∧
          ∃ rule, builder.rules.toList.find? (·.body.isNone) = some rule ∧
            error = .undefinedRule rule.name := by
  rw [← entries_eq_error_iff, finish]
  cases builder.duplicate with
  | some name => simp [eq_comm]
  | none =>
    cases entries builder.rules.toList with
    | error error' => simp
    | ok found => simp

/-- What finishing says of the definitions of rules, given in their order. -/
structure Finishes (builder : Builder) (defined : List RuleId) : Prop where
  /-- The first rule that was defined again is refused. -/
  again : ∀ name, builder.finish = .error (.duplicateRule name) ↔
    ∃ id, (redefined defined).head? = some id ∧ builder.tables.rules[id.index]? = some name
  /-- Without one, it is the first rule that was not defined. -/
  missing : ∀ name, builder.finish = .error (.undefinedRule name) ↔
    redefined defined = [] ∧ ∃ i, builder.tables.rules[i]? = some name ∧ ⟨i⟩ ∉ defined ∧
      ∀ j < i, ⟨j⟩ ∈ defined
  succeeds : (∃ program, builder.finish = .ok program) ↔
    redefined defined = [] ∧ ∀ i < builder.rules.size, ⟨i⟩ ∈ defined

namespace Tracks

variable {defined : List RuleId} {builder : Builder}

theorem duplicate_eq_some_iff (h : Tracks defined builder) {name : String} :
    builder.duplicate = some name ↔
      ∃ id, (redefined defined).head? = some id ∧ builder.tables.rules[id.index]? = some name := by
  rw [h.duplicate, Option.bind_eq_some_iff]

theorem duplicate_eq_none_iff (h : Tracks defined builder) :
    builder.duplicate = none ↔ redefined defined = [] := by
  rw [h.duplicate, ← List.head?_eq_none_iff]
  cases hhead : (redefined defined).head? with
  | none => simp
  | some id =>
    obtain ⟨name, hname⟩ := h.name (mem_of_mem_redefined (List.mem_of_head? hhead))
    simp [hname]

theorem isNone_iff (h : Tracks defined builder) {i : Nat} {rule : DeclaredRule}
    (hrule : builder.rules[i]? = some rule) : rule.body.isNone = true ↔ ⟨i⟩ ∉ defined := by
  rw [← h.bodies hrule]
  cases rule.body <;> simp

/-- The first rule without a body is the first that was not defined. -/
theorem find?_eq_some_iff (h : Tracks defined builder) {rule : DeclaredRule} :
    builder.rules.toList.find? (·.body.isNone) = some rule ↔
      ∃ i, builder.rules[i]? = some rule ∧ ⟨i⟩ ∉ defined ∧ ∀ j < i, ⟨j⟩ ∈ defined := by
  have hbefore {j : Nat} (hj : j < builder.rules.toList.length) :
      (!builder.rules.toList[j].body.isNone) = true ↔ ⟨j⟩ ∈ defined := by
    have hrule : builder.rules[j]? = some builder.rules.toList[j] := by
      rw [← Array.getElem?_toList, List.getElem?_eq_getElem]
    rw [Bool.not_eq_true', ← Bool.not_eq_true, h.isNone_iff hrule, not_not]
  rw [List.find?_eq_some_iff_getElem]
  constructor
  · rintro ⟨hnone, i, hlt, hrule, hdefined⟩
    have hfound : builder.rules[i]? = some rule := by
      rw [← Array.getElem?_toList, List.getElem?_eq_getElem hlt, hrule]
    refine ⟨i, hfound, (h.isNone_iff hfound).mp hnone, ?_⟩
    intro j hj
    exact (hbefore (Nat.lt_trans hj hlt)).mp (hdefined j hj)
  · rintro ⟨i, hfound, hnew, hdefined⟩
    have hplace := hfound
    rw [← Array.getElem?_toList, List.getElem?_eq_some_iff] at hplace
    obtain ⟨hlt, hrule⟩ := hplace
    refine ⟨(h.isNone_iff hfound).mpr hnew, i, hlt, hrule, ?_⟩
    intro j hj
    exact (hbefore (Nat.lt_trans hj hlt)).mpr (hdefined j hj)

theorem finishes (h : Tracks defined builder) : builder.Finishes defined where
  again := by
    intro name
    rw [← h.duplicate_eq_some_iff, finish_eq_error_iff]
    simp
  missing := by
    intro name
    rw [← h.duplicate_eq_none_iff, finish_eq_error_iff]
    constructor
    · rintro (⟨_, _, herror⟩ | ⟨hnone, rule, hfirst, herror⟩)
      · cases herror
      · cases herror
        obtain ⟨i, hrule, hnew, hdefined⟩ := h.find?_eq_some_iff.mp hfirst
        refine ⟨hnone, i, ?_, hnew, hdefined⟩
        rw [tables_rules, hrule, Option.map_some]
    · rintro ⟨hnone, i, hname, hnew, hdefined⟩
      rw [tables_rules, Option.map_eq_some_iff] at hname
      obtain ⟨rule, hrule, rfl⟩ := hname
      exact .inr ⟨hnone, rule, h.find?_eq_some_iff.mpr ⟨i, hrule, hnew, hdefined⟩, rfl⟩
  succeeds := by
    constructor
    · rintro ⟨program, hok⟩
      rw [finish_eq_ok_iff] at hok
      refine ⟨h.duplicate_eq_none_iff.mp (by rw [hok]; rfl), ?_⟩
      intro i hi
      apply (h.bodies (Array.getElem?_eq_getElem hi)).mp
      subst hok
      simp [ofProgram]
    · rintro ⟨haccepted, hdefined⟩
      cases hresult : builder.finish with
      | ok program => exact ⟨program, rfl⟩
      | error error =>
        rcases finish_eq_error_iff.mp hresult with ⟨name, hagain, _⟩ | ⟨_, rule, hfirst, _⟩
        · rw [h.duplicate_eq_none_iff.mpr haccepted] at hagain
          cases hagain
        · obtain ⟨i, hrule, hnew, _⟩ := h.find?_eq_some_iff.mp hfirst
          exact absurd (hdefined i (Array.getElem?_eq_some_iff.mp hrule).1) hnew

end Tracks

/-! ## Whole sessions -/

namespace Session

/-- What holds of a session in which the rules `mentioned` were named. -/
structure Kept (mentioned : List String) (session : Session) : Prop where
  built : Built session.builder
  rules : ∀ id ∈ session.rules, id.index < session.builder.rules.size
  ops : ∀ id ∈ session.ops, id.index < session.builder.ops.size
  mentions : Mentions mentioned session.builder
  tracks : Tracks session.defined session.builder

theorem Kept.new (name : String) : Kept [] (.new name) where
  built := .new name
  rules := List.forall_mem_nil _
  ops := List.forall_mem_nil _
  mentions := rfl
  tracks := by
    refine ⟨List.forall_mem_nil _, ?_, rfl⟩
    intro i rule hrule
    simp [Session.new, Builder.new] at hrule

/-- The names and the definitions of rules after an action. -/
theorem Kept.perform_rules {mentioned : List String} {session : Session} {action : Action}
    (h : Kept mentioned session) (hallows : session.Allows action) :
    Mentions (mentioned ++ action.mentions) (session.perform action).builder ∧
      Tracks (session.perform action).defined (session.perform action).builder := by
  obtain ⟨added, hprepares, hcases⟩ := action.perform_cases session.builder
  have hmentions := hprepares.mentions h.mentions
  have htracks := h.tracks.grow hprepares.grows
  have hdefined : (session.perform action).defined = session.defined ++
      (action.defines? (action.perform.run session.builder).1).toList := rfl
  change Mentions _ (action.perform.run session.builder).2 ∧
    Tracks _ (action.perform.run session.builder).2
  rcases hcases with ⟨hnone, hafter⟩ | ⟨id, body, hsome, hid, hafter⟩
  · rw [hdefined, hnone, hafter, Option.toList_none, List.append_nil]
    exact ⟨hmentions, htracks⟩
  · rw [hdefined, hsome, hafter, Option.toList_some]
    have hlt : id.index < added.rules.size := by
      rcases hid with hpassed | hdeclared
      · exact Nat.lt_of_lt_of_le (h.rules id (hallows.1 hpassed)) hprepares.grows.size.2
      · exact hdeclared
    exact ⟨hmentions.define id body, htracks.define hlt body⟩

theorem Kept.perform {mentioned : List String} {session : Session} {action : Action}
    (h : Kept mentioned session) (hallows : session.Allows action) :
    Kept (mentioned ++ action.mentions) (session.perform action) := by
  have hsize := action.perform_size session.builder
  have hanswer := action.perform_answer session.builder
  obtain ⟨hmentions, htracks⟩ := h.perform_rules hallows
  refine ⟨?_, ?_, ?_, hmentions, htracks⟩
  · apply Action.perform_built h.built
    · exact fun id hid ↦ h.rules id (hallows.1 hid)
    · exact fun id hid ↦ h.ops id (hallows.2 hid)
  · intro id hid
    rcases List.mem_append.mp hid with hold | hnew
    · exact Nat.lt_of_lt_of_le (h.rules id hold) hsize.2
    · exact hanswer.rules_lt id hnew
  · intro id hid
    rcases List.mem_append.mp hid with hold | hnew
    · exact Nat.lt_of_lt_of_le (h.ops id hold) hsize.1
    · exact hanswer.ops_lt id hnew

theorem Kept.performAll {mentioned : List String} {session : Session} {actions : List Action}
    (h : Kept mentioned session) (hallows : session.AllowsAll actions) :
    Kept (mentioned ++ actions.flatMap Action.mentions) (session.performAll actions) := by
  induction actions generalizing mentioned session with
  | nil =>
    rw [List.flatMap_nil, List.append_nil]
    exact h
  | cons action rest ih =>
    rw [List.flatMap_cons, ← List.append_assoc]
    exact ih (h.perform hallows.1) hallows.2

end Session

end Builder

/-! ## Runs of programs that were built -/

/-- A run of the program, from one of its rules and a place between two characters, finds everything
that it looks for. -/
def Program.Contained (program : Program) : Prop :=
  ∀ {τ : Type} (parser : Parser) (input : String) (observe : τ → Machine.Event → τ) (trace : τ)
    (consumeAll : Bool) (rule : RuleId) (cursor : Cursor), parser.program = program →
      rule.index < program.rules.size → cursor.LiesIn input.toList →
        Machine.Guarded.run (parser.setting input.toList observe) parser.limits.execFuel trace rule
            consumeAll cursor =
          Machine.run (parser.setting input.toList observe) parser.limits.execFuel trace rule
            consumeAll cursor ∧
        (Machine.run (parser.setting input.toList observe) parser.limits.execFuel trace rule
          consumeAll cursor).1 ≠ .error .danglingReference

theorem Bindings.size_resolve (bindings : Bindings) (program : Program) :
    (bindings.resolve program).size = program.symbols.size := by
  simp [resolve, Interner.entries, Interner.size]

theorem Program.WellFormed.contained {program : Program} (h : program.WellFormed) :
    program.Contained := by
  intro τ parser input observe trace consumeAll rule cursor hparser hrule hcursor
  subst hparser
  apply Machine.guarded_run h _ _ _ hrule consumeAll hcursor
  exact Nat.le_of_eq (parser.bindings.size_resolve parser.program).symm

namespace Builder

/-- Sessions with a builder in which only numbers are passed that the builder gave: rules keep the
order in which they are first mentioned, finishing reports the first misuse of a name, and programs
that come out are well formed, so that their runs stay inside the tables and the input. -/
theorem session_builds_contained (name : String) (actions : List Action)
    (hallows : (Session.new name).AllowsAll actions) :
    ((Session.new name).performAll actions).names =
        (actions.flatMap Action.mentions).eraseDups ∧
      ((Session.new name).performAll actions).names.Nodup ∧
      ((Session.new name).performAll actions).builder.Finishes
        ((Session.new name).performAll actions).defined ∧
      ∀ program, ((Session.new name).performAll actions).builder.finish = .ok program →
        program.WellFormed ∧ program.Contained := by
  have hkept := (Session.Kept.new name).performAll hallows
  refine ⟨hkept.mentions, hkept.built.sound.closed.distinct, hkept.tracks.finishes, ?_⟩
  intro program hfinish
  have hwellFormed := Program.IsBuilt.wellFormed ⟨_, hkept.built, hfinish⟩
  exact ⟨hwellFormed, hwellFormed.contained⟩

/-- The rule `item` is called before it is declared, and the call stands in two operations. -/
def listActions : List Action :=
  [.reference "item", .label "first" ⟨0⟩, .zeroOrMore ⟨0⟩, .sequence [⟨1⟩, ⟨2⟩], .rule "list" ⟨3⟩,
    .expr (.sequence [.predicate "ready" false, .anyChar]), .declare "item", .define ⟨0⟩ ⟨6⟩]

/-- Both rules are defined again. -/
def redefiningActions : List Action :=
  listActions ++ [.terminal "x", .rule "item" ⟨7⟩, .define ⟨1⟩ ⟨7⟩]

theorem session_builds_contained_list :
    ((Session.new "List").AllowsAll listActions ∧
      ((Session.new "List").performAll listActions).names = ["item", "list"] ∧
      ∃ program, ((Session.new "List").performAll listActions).builder.finish = .ok program ∧
        program.WellFormed ∧
        (Machine.run ((Parser.ofProgram program).setting "aé".toList fun trace _ ↦ trace) none ()
          ⟨1⟩ true ⟨1, ['é']⟩).1 ≠ .error .danglingReference) ∧
      (Session.new "List").AllowsAll redefiningActions ∧
        ((Session.new "List").performAll redefiningActions).builder.finish =
          .error (.duplicateRule "item") := by
  have hallows : (Session.new "List").AllowsAll listActions := by decide +kernel
  have hallows' : (Session.new "List").AllowsAll redefiningActions := by decide +kernel
  obtain ⟨hnames, _, hfinishes, hbuilds⟩ := session_builds_contained "List" listActions hallows
  obtain ⟨_, _, hfinishes', _⟩ := session_builds_contained "List" redefiningActions hallows'
  obtain ⟨program, hok⟩ := hfinishes.succeeds.mpr (by decide +kernel)
  obtain ⟨hwellFormed, hcontained⟩ := hbuilds program hok
  have hrule : 1 < program.rules.size := by
    have hbuilder := finish_eq_ok_iff.mp hok
    have hsize : ((Session.new "List").performAll listActions).builder.rules.size = 2 := by
      decide +kernel
    rw [hbuilder, ofProgram, Array.size_map] at hsize
    omega
  have hcursor : Text.dropBytes? "aé".toList 1 = some ['é'] := by decide +kernel
  refine ⟨⟨hallows, hnames.trans (by decide +kernel), program, hok, hwellFormed, ?_⟩, hallows', ?_⟩
  · exact (hcontained (Parser.ofProgram program) "aé" (fun trace _ ↦ trace) () true ⟨1⟩
      ⟨1, ['é']⟩ rfl hrule hcursor).2
  · exact (hfinishes'.again "item").mpr ⟨⟨0⟩, by decide +kernel, by decide +kernel⟩

end Builder

end PegKit
