import PegKit.Program.Lowering
import PegKit.Proofs.Grammar.LeftRecursion
import PegKit.Proofs.Machine.Scoped
import PegKit.Proofs.Program.Encoding
import PegKit.Proofs.Program.Matching

/-!
# How deep runs nest

Where no rule is left-recursive, evaluations nest only as deep as the input is long, up to a factor
that the grammar gives. Two things go down from an evaluation to a rule body inside it: the
characters that are left, or else, at the same place, the rank of the rule, since a call without
progress is a leftmost call. The proof is one induction over the levels of nesting, which carries
along that a match without progress is one that the analysis has foreseen.
-/

namespace PegKit

theorem Text.length_le_byteLength (cs : List Char) : cs.length ≤ byteLength cs := by
  induction cs with
  | nil => exact Nat.le_refl 0
  | cons c cs ih =>
    have hpos := c.utf8Size_pos
    rw [byteLength_cons, List.length_cons]
    omega

/-! ## The bound -/

namespace Expr

mutual

/-- How deep the evaluation of an expression nests, bodies of rules left out. -/
def height : Expr → Nat
  | .terminal _ => 1
  | .charClass _ => 1
  | .anyChar => 1
  | .predicate _ _ => 1
  | .ruleRef _ => 1
  | .sequence items => heightOfList items + 1
  | .choice alternatives => heightOfList alternatives + 1
  | .repetition inner _ => inner.height + 1
  | .optional inner => inner.height + 1
  | .lookahead inner => inner.height + 1
  | .negativeLookahead inner => inner.height + 1
  | .label _ inner => inner.height + 1

def heightOfList : List Expr → Nat
  | [] => 0
  | expr :: rest => max expr.height (heightOfList rest)

end

theorem height_pos (expr : Expr) : 0 < expr.height := by
  cases expr <;> simp [height]

theorem height_le_of_mem {expr : Expr} {exprs : List Expr} (h : expr ∈ exprs) :
    expr.height ≤ heightOfList exprs := by
  induction exprs with
  | nil => cases h
  | cons first rest ih =>
    rw [heightOfList]
    rcases List.mem_cons.mp h with rfl | hrest
    · exact le_max_left _ _
    · exact (ih hrest).trans (le_max_right _ _)

theorem heightOfList_le {exprs : List Expr} {bound : Nat}
    (h : ∀ expr ∈ exprs, expr.height ≤ bound) :
    heightOfList exprs ≤ bound := by
  induction exprs with
  | nil => exact Nat.zero_le _
  | cons expr rest ih =>
    exact max_le (h expr List.mem_cons_self) (ih fun other hother ↦
      h other (List.mem_cons_of_mem _ hother))

end Expr

namespace Grammar

/-- The height of the tallest rule body. -/
def tallest (grammar : Grammar) : Nat :=
  Expr.heightOfList (grammar.rules.map (·.body))

theorem height_le_tallest {grammar : Grammar} {rule : Rule} (h : rule ∈ grammar.rules) :
    rule.body.height ≤ grammar.tallest :=
  Expr.height_le_of_mem (List.mem_map_of_mem h)

/-- Where the weight goes down, a whole body more fits in. -/
theorem height_add_le {grammar : Grammar} {rule : Rule} (h : rule ∈ grammar.rules)
    {weight weight' : Nat} (hweight : weight < weight') :
    rule.body.height + grammar.tallest * weight ≤ grammar.tallest * weight' := by
  calc
    rule.body.height + grammar.tallest * weight
    _ ≤ grammar.tallest + grammar.tallest * weight :=
      Nat.add_le_add_right (height_le_tallest h) _
    _ = grammar.tallest * (weight + 1) := (Nat.add_comm _ _).trans (Nat.mul_succ _ _).symm
    _ ≤ grammar.tallest * weight' := Nat.mul_le_mul_left _ hweight

/-- How deep runs over inputs of `length` bytes may nest: for each place, one rule body for each rule
inside each other. -/
def nestingBound (grammar : Grammar) (length : Nat) : Nat :=
  grammar.tallest * ((length + 1) * (grammar.rules.length + 1) + 1)

theorem nestingBound_mono (grammar : Grammar) {length length' : Nat} (h : length ≤ length') :
    grammar.nestingBound length ≤ grammar.nestingBound length' := by
  unfold nestingBound
  apply Nat.mul_le_mul_left
  apply Nat.succ_le_succ
  exact Nat.mul_le_mul_right _ (Nat.succ_le_succ h)

end Grammar

namespace Machine

open Program (Passes)
open Tables (Encodes EncodesAll)

variable {τ α β : Type}

/-! ## Actions within the limit -/

/-- The action does not end at the limit on nesting, and `post` holds of what it returns. -/
def Shallow (action : Work τ α) (post : α → Prop) : Prop :=
  ∀ store : Store τ, (action.run.run store).1 ≠ .error .recursionLimitExceeded ∧
    ∀ value, (action.run.run store).1 = .ok value → post value

namespace Shallow

variable {post post' : α → Prop}

theorem pure {value : α} (h : post value) : Shallow (Pure.pure value : Work τ α) post := by
  intro store
  refine ⟨by rintro ⟨⟩, ?_⟩
  rintro _ ⟨⟩
  exact h

theorem throw {error : RuntimeError} (h : error ≠ .recursionLimitExceeded) :
    Shallow (MonadExcept.throw error : Work τ α) post := by
  intro store
  constructor
  · rintro ⟨⟩
    exact h rfl
  · rintro _ ⟨⟩

theorem bind {action : Work τ α} {next : α → Work τ β} {mid : α → Prop} {post : β → Prop}
    (h : Shallow action mid) (hnext : ∀ value, mid value → Shallow (next value) post) :
    Shallow (action >>= next) post := by
  intro store
  obtain ⟨hlimit, hmid⟩ := h store
  rw [ExceptT.run_bind, StateT.run_bind]
  cases hrun : action.run.run store with
  | mk result store' =>
    rw [hrun] at hlimit hmid
    cases result with
    | error error =>
      constructor
      · rintro ⟨⟩
        exact hlimit rfl
      · rintro _ ⟨⟩
    | ok value => exact hnext value (hmid value rfl) store'

theorem mono {action : Work τ α} (h : Shallow action post)
    (hpost : ∀ value, post value → post' value) : Shallow action post' := by
  intro store
  obtain ⟨hlimit, hvalue⟩ := h store
  exact ⟨hlimit, fun value hok ↦ hpost value (hvalue value hok)⟩

/-- Any change of what is left behind. -/
theorem modifyGet (change : Store τ → α × Store τ) :
    Shallow (MonadStateOf.modifyGet change : Work τ α) fun _ ↦ True := by
  intro store
  refine ⟨by rintro ⟨⟩, fun _ _ ↦ trivial⟩

/-- An action whose result does not matter comes first. -/
theorem andThen {action : Work τ α} {next : α → Work τ β} {post : β → Prop}
    (h : Shallow action fun _ ↦ True) (hnext : ∀ value, Shallow (next value) post) :
    Shallow (action >>= next) post :=
  h.bind fun value _ ↦ hnext value

end Shallow

theorem observe_shallow (setting : Setting τ) (event : Event) :
    Shallow (observe setting event) fun _ ↦ True := Shallow.modifyGet _

theorem recordFailure_shallow (offset : Nat) (expected : Expected) :
    Shallow (recordFailure offset expected : Work τ Unit) fun _ ↦ True := Shallow.modifyGet _

theorem truncate_shallow (mark : Nat) :
    Shallow (truncate mark : Work τ Unit) fun _ ↦ True := Shallow.modifyGet _

theorem changeNode_shallow (id : NodeId) (change : Node → Node) :
    Shallow (changeNode id change : Work τ Unit) fun _ ↦ True := Shallow.modifyGet _

theorem push_shallow (node : Node) : Shallow (push node : Work τ NodeId) fun _ ↦ True :=
  Shallow.modifyGet _

theorem arenaSize_shallow : Shallow (arenaSize : Work τ Nat) fun _ ↦ True :=
  Shallow.modifyGet fun store ↦ (store.nodes.size, store)

theorem spendFuel_shallow : Shallow (spendFuel : Work τ Unit) fun _ ↦ True := by
  intro store
  refine ⟨?_, fun _ _ ↦ trivial⟩
  obtain ⟨nodes, failures, fuel, trace⟩ := store
  cases fuel with
  | none => rintro ⟨⟩
  | some fuel => cases fuel <;> rintro ⟨⟩

theorem pushEmpty_shallow (cursor : Cursor) :
    Shallow (pushEmpty cursor : Work τ Match) fun found ↦ found.after = cursor := by
  apply Shallow.andThen (push_shallow _)
  intro id
  exact Shallow.pure rfl

theorem pushOwner_shallow (kind : NodeKind) (start stop : Cursor) (elements : List NodeId) :
    Shallow (pushOwner kind start stop elements : Work τ Match)
      fun found ↦ found.after = stop := by
  apply Shallow.andThen (Shallow.modifyGet _)
  intro _
  apply Shallow.andThen (push_shallow _)
  intro id
  exact Shallow.pure rfl

/-! ## Where matches end -/

/-- From `start` to `stop` characters are read, or none where that is foreseen. -/
structure Reads (nullable : Bool) (start stop : Cursor) : Prop where
  passes : Passes start stop
  foreseen : stop.offset = start.offset → nullable = true

namespace Reads

variable {nullable nullable' : Bool} {start between stop : Cursor}

theorem stay (cursor : Cursor) : Reads true cursor cursor := ⟨.refl cursor, fun _ ↦ rfl⟩

theorem imp (h : Reads nullable start stop) (himp : nullable = true → nullable' = true) :
    Reads nullable' start stop :=
  ⟨h.passes, fun hsame ↦ himp (h.foreseen hsame)⟩

theorem trans (h : Reads nullable start between) (h' : Reads nullable' between stop) :
    Reads (nullable && nullable') start stop := by
  refine ⟨h.passes.trans h'.passes, fun hsame ↦ ?_⟩
  obtain ⟨_, _, hoffset⟩ := h.passes
  obtain ⟨_, _, hoffset'⟩ := h'.passes
  rw [Bool.and_eq_true]
  exact ⟨h.foreseen (by omega), h'.foreseen (by omega)⟩

/-- Without progress everything is left. -/
theorem rest_eq (h : Reads nullable start stop) (hsame : stop.offset = start.offset) :
    stop.rest = start.rest := by
  obtain ⟨passed, hrest, hoffset⟩ := h.passes
  have hnone : Text.byteLength passed = 0 := by omega
  rw [hrest, Text.byteLength_eq_zero_iff.mp hnone, List.nil_append]

theorem offset_le (h : Reads nullable start stop) : start.offset ≤ stop.offset := by
  obtain ⟨_, _, hoffset⟩ := h.passes
  omega

end Reads

/-- Where a match ends, if there is one. -/
def Lands (nullable : Bool) (cursor : Cursor) (found : Option Match) : Prop :=
  ∀ hit, found = some hit → Reads nullable cursor hit.after

theorem lands_none (nullable : Bool) (cursor : Cursor) : Lands nullable cursor none := by
  rintro _ ⟨⟩

/-- The empty match as the result of an operation. -/
theorem emptyMatch_shallow {nullable : Bool} (h : nullable = true) (cursor : Cursor) :
    Shallow (do return some (← pushEmpty cursor) : Work τ (Option Match))
      (Lands nullable cursor) := by
  apply Shallow.bind (pushEmpty_shallow cursor)
  intro found hfound
  apply Shallow.pure
  rintro _ ⟨⟩
  rw [hfound]
  exact (Reads.stay cursor).imp fun _ ↦ h

theorem succeed_shallow (setting : Setting τ) (id : OpId) {nullable : Bool} {start stop : Cursor}
    (h : Reads nullable start stop) :
    Shallow (succeed setting id start stop) (Lands nullable start) := by
  apply Shallow.andThen (observe_shallow _ _)
  intro _
  apply Shallow.andThen (push_shallow _)
  intro node
  apply Shallow.pure
  rintro _ ⟨⟩
  exact h

theorem failAt_shallow (setting : Setting τ) (id : OpId) (quiet : Bool) (nullable : Bool)
    (cursor : Cursor) : Shallow (failAt setting id quiet cursor) (Lands nullable cursor) := by
  apply Shallow.andThen (observe_shallow _ _)
  intro _
  cases quiet with
  | true => exact Shallow.pure (lands_none nullable cursor)
  | false =>
    apply Shallow.andThen (recordFailure_shallow _ _)
    intro _
    exact Shallow.pure (lands_none nullable cursor)

theorem literal_shallow (setting : Setting τ) (id : OpId) (text : String) (quiet : Bool)
    (cursor : Cursor) :
    Shallow (literal setting id text.toList quiet cursor) (Lands text.isEmpty cursor) := by
  obtain ⟨rest, hlead, hhit⟩ | ⟨-, hmiss⟩ := literal_cases setting id text.toList quiet cursor
  · rw [hhit]
    apply succeed_shallow
    refine ⟨.after hlead, fun hsame ↦ ?_⟩
    change cursor.offset + Text.byteLength text.toList = cursor.offset at hsame
    have hnone := Text.byteLength_eq_zero_iff.mp (Nat.add_eq_left.mp hsame)
    rw [String.isEmpty_iff]
    exact String.toList_eq_nil_iff.mp hnone
  · exact hmiss ▸ failAt_shallow setting id quiet _ cursor

theorem character_shallow (setting : Setting τ) (id : OpId) (accepts : Char → Bool) (quiet : Bool)
    (cursor : Cursor) :
    Shallow (character setting id accepts quiet cursor) (Lands false cursor) := by
  obtain ⟨c, rest, hlead, -, hhit⟩ | ⟨-, hmiss⟩ := character_cases setting id accepts quiet cursor
  · rw [hhit]
    apply succeed_shallow
    refine ⟨.after hlead, fun hsame ↦ ?_⟩
    have hpos := c.utf8Size_pos
    simp only [Cursor.after, Text.byteLength_cons, Text.byteLength_nil] at hsame
    omega
  · exact hmiss ▸ failAt_shallow setting id quiet _ cursor

theorem consult_shallow (setting : Setting τ) (hook : Symbol) (visible : List NodeId)
    (cursor : Cursor) : Shallow (consult setting hook visible cursor) fun _ ↦ True := by
  unfold consult
  cases setting.predicates[hook.index]?.join with
  | none => exact Shallow.throw (by rintro ⟨⟩)
  | some binding =>
    apply Shallow.andThen (Shallow.modifyGet fun store ↦ (store, store))
    intro store
    apply Shallow.andThen (observe_shallow _ _)
    intro _
    split
    · exact Shallow.pure trivial
    · exact Shallow.throw (by rintro ⟨⟩)

theorem predicate_shallow (setting : Setting τ) (id : OpId) (hook : Symbol) (negated : Bool)
    (visible : List NodeId) (cursor : Cursor) :
    Shallow (predicate setting id hook negated visible cursor) (Lands true cursor) := by
  apply Shallow.andThen (consult_shallow setting hook visible cursor)
  intro holds
  apply Shallow.andThen (observe_shallow _ _)
  intro _
  split
  · exact emptyMatch_shallow rfl cursor
  · exact Shallow.pure (lands_none true cursor)

/-! ## Weights of places -/

/-- Calls of `names` where `left` characters are left weigh less than `weight`, and so do all calls
where fewer are left. -/
structure Fits (grammar : Grammar) (rank : String → Nat) (names : List String)
    (left weight : Nat) : Prop where
  base : left * (grammar.rules.length + 1) ≤ weight
  calls : ∀ name ∈ names, left * (grammar.rules.length + 1) + rank name < weight

namespace Fits

variable {grammar : Grammar} {rank : String → Nat} {names names' : List String}
  {left left' weight : Nat}

theorem subset (h : Fits grammar rank names left weight) (hsub : names' ⊆ names) :
    Fits grammar rank names' left weight :=
  ⟨h.base, fun name hname ↦ h.calls name (hsub hname)⟩

/-- Nothing that is called further on weighs more. -/
theorem shorter (hranks : grammar.Ranks rank) (h : Fits grammar rank names left weight)
    (hlt : left' < left) (names' : List String) : Fits grammar rank names' left' weight := by
  have hnext : (left' + 1) * (grammar.rules.length + 1) ≤ weight :=
    (Nat.mul_le_mul_right _ hlt).trans h.base
  rw [Nat.succ_mul] at hnext
  refine ⟨by omega, fun name _ ↦ ?_⟩
  have hrank := hranks.bound name
  omega

/-- What follows a match may call what the analysis lets follow it. -/
theorem after (hranks : grammar.Ranks rank) {nullable : Bool} {cursor next : Cursor}
    (h : Fits grammar rank names cursor.rest.length weight) (hreads : Reads nullable cursor next)
    (hsub : nullable = true → names' ⊆ names) :
    Fits grammar rank names' next.rest.length weight := by
  by_cases hsame : next.offset = cursor.offset
  · rw [hreads.rest_eq hsame]
    exact h.subset (hsub (hreads.foreseen hsame))
  · have hmoved : cursor.offset < next.offset := lt_of_le_of_ne hreads.offset_le (Ne.symm hsame)
    exact h.shorter hranks (hreads.passes.length_lt hmoved) names'

end Fits

/-! ## Evaluations with enough levels -/

section Evaluation

variable {setting : Setting τ} {grammar : Grammar} {rank : String → Nat} {levels : Nat}
  {eval : Scoped.Evaluator τ}

/-- An evaluation with `levels` levels stays within them where the calls ahead are light enough. -/
def Sheltered (setting : Setting τ) (grammar : Grammar) (rank : String → Nat) (levels : Nat)
    (eval : Scoped.Evaluator τ) : Prop :=
  ∀ ⦃id : OpId⦄ ⦃expr : Expr⦄ ⦃weight : Nat⦄ (scope : Scope) (cursor : Cursor),
    Encodes setting.program.tables id expr →
    Fits grammar rank (expr.leftmostCalls grammar.nullableRules) cursor.rest.length weight →
    expr.height + grammar.tallest * weight ≤ levels →
    Shallow (eval id scope cursor) (Lands (expr.isNullable grammar.nullableRules) cursor)

theorem items_shallow (hranks : grammar.Ranks rank)
    (heval : Sheltered setting grammar rank levels eval) {ids : List OpId} {exprs : List Expr}
    {weight : Nat} (quiet : Bool) (elements : List NodeId) (cursor : Cursor)
    (hparts : EncodesAll setting.program.tables ids exprs)
    (hfits : Fits grammar rank (Expr.leftmostOfSequence grammar.nullableRules exprs)
      cursor.rest.length weight)
    (hlevels : Expr.heightOfList exprs + grammar.tallest * weight ≤ levels) :
    Shallow (Scoped.items eval quiet ids elements cursor) fun result ↦
      ∀ stop, result.2 = some stop →
        Reads (Expr.allNullable grammar.nullableRules exprs) cursor stop := by
  induction ids generalizing exprs elements cursor with
  | nil =>
    cases hparts
    apply Shallow.pure
    rintro _ ⟨⟩
    exact Reads.stay cursor
  | cons id rest ih =>
    cases hparts with
    | @cons _ expr _ exprs first others =>
      simp only [Expr.leftmostOfSequence, Expr.heightOfList] at hfits hlevels
      have hfirst := heval ⟨elements, quiet⟩ cursor first
        (hfits.subset (List.subset_append_left _ _)) (by omega)
      apply Shallow.bind hfirst
      intro found hlands
      cases found with
      | none =>
        apply Shallow.pure
        rintro _ ⟨⟩
      | some found =>
        have hreads := hlands found rfl
        have hnext := hfits.after hranks hreads fun hnullable ↦ by
          rw [if_pos hnullable]
          exact List.subset_append_right _ _
        apply (ih (elements ++ [found.node]) found.after others hnext (by omega)).mono
        intro result hstop stop hsome
        exact hreads.trans (hstop stop hsome)

theorem sequence_shallow (hranks : grammar.Ranks rank)
    (heval : Sheltered setting grammar rank levels eval) {ids : List OpId} {exprs : List Expr}
    {weight : Nat} (quiet : Bool) (cursor : Cursor)
    (hparts : EncodesAll setting.program.tables ids exprs)
    (hfits : Fits grammar rank (Expr.leftmostOfSequence grammar.nullableRules exprs)
      cursor.rest.length weight)
    (hlevels : Expr.heightOfList exprs + grammar.tallest * weight ≤ levels) :
    Shallow (Scoped.sequence eval quiet ids cursor)
      (Lands (Expr.allNullable grammar.nullableRules exprs) cursor) := by
  apply Shallow.bind (items_shallow hranks heval quiet [] cursor hparts hfits hlevels)
  rintro ⟨elements, stop⟩ hstop
  cases stop with
  | none => exact Shallow.pure (lands_none _ cursor)
  | some stop =>
    apply Shallow.bind (pushOwner_shallow _ _ _ _)
    intro found hfound
    apply Shallow.pure
    rintro _ ⟨⟩
    rw [hfound]
    exact hstop stop rfl

theorem choice_shallow (heval : Sheltered setting grammar rank levels eval) {ids : List OpId}
    {exprs : List Expr} {weight : Nat} (scope : Scope) (cursor : Cursor)
    (hparts : EncodesAll setting.program.tables ids exprs)
    (hfits : Fits grammar rank (Expr.leftmostOfChoice grammar.nullableRules exprs)
      cursor.rest.length weight)
    (hlevels : Expr.heightOfList exprs + grammar.tallest * weight ≤ levels) :
    Shallow (Scoped.choice setting eval scope cursor ids)
      (Lands (Expr.anyNullable grammar.nullableRules exprs) cursor) := by
  induction ids generalizing exprs with
  | nil => exact Shallow.pure (lands_none _ cursor)
  | cons id rest ih =>
    cases hparts with
    | @cons _ expr _ exprs first others =>
      simp only [Expr.leftmostOfChoice, Expr.heightOfList] at hfits hlevels
      have hfirst := heval scope cursor first
        (hfits.subset (List.subset_append_left _ _)) (by omega)
      have hhit : ∀ found, Lands (expr.isNullable grammar.nullableRules) cursor found →
          Lands (Expr.anyNullable grammar.nullableRules (expr :: exprs)) cursor found := by
        intro found hlands hit hsome
        apply (hlands hit hsome).imp
        intro hnullable
        rw [Expr.anyNullable, hnullable, Bool.true_or]
      cases rest with
      | nil => exact hfirst.mono hhit
      | cons next rest =>
        apply Shallow.bind hfirst
        intro found hlands
        cases found with
        | some found => exact Shallow.pure (hhit _ hlands)
        | none =>
          apply Shallow.andThen (observe_shallow _ _)
          intro _
          have hothers := ih others (hfits.subset (List.subset_append_right _ _)) (by omega)
          apply hothers.mono
          intro found hlands hit hsome
          apply (hlands hit hsome).imp
          intro hnullable
          rw [Expr.anyNullable, hnullable, Bool.or_true]

theorem iterations_shallow (hranks : grammar.Ranks rank)
    (heval : Sheltered setting grammar rank levels eval) {inner : OpId} {expr : Expr}
    {weight : Nat} (scope : Scope) (bound : Nat) (elements : List NodeId) (cursor : Cursor)
    (hpart : Encodes setting.program.tables inner expr)
    (hfits : Fits grammar rank (expr.leftmostCalls grammar.nullableRules) cursor.rest.length weight)
    (hlevels : expr.height + grammar.tallest * weight ≤ levels) :
    Shallow (Scoped.iterations eval inner scope bound elements cursor) fun result ↦
      Reads (result.1.length == elements.length || expr.isNullable grammar.nullableRules) cursor
        result.2 := by
  induction bound generalizing elements cursor with
  | zero => exact Shallow.pure ((Reads.stay cursor).imp fun _ ↦ by simp)
  | succ bound ih =>
    apply Shallow.bind (heval scope cursor hpart hfits hlevels)
    intro found hlands
    cases found with
    | none => exact Shallow.pure ((Reads.stay cursor).imp fun _ ↦ by simp)
    | some found =>
      have hreads := hlands found rfl
      simp only
      split
      · next hmoved =>
        have hnext := hfits.shorter hranks (hreads.passes.length_lt hmoved)
          (expr.leftmostCalls grammar.nullableRules)
        apply (ih (elements ++ [found.node]) found.after hnext).mono
        intro result hresult
        refine ⟨hreads.passes.trans hresult.passes, fun hsame ↦ ?_⟩
        have hback := hresult.offset_le
        omega
      · apply Shallow.pure
        exact hreads.imp fun hnullable ↦ by rw [hnullable, Bool.or_true]

theorem repetition_shallow (hranks : grammar.Ranks rank)
    (heval : Sheltered setting grammar rank levels eval) {inner : OpId} {expr : Expr}
    {weight : Nat} (least : Nat) (scope : Scope) (cursor : Cursor)
    (hpart : Encodes setting.program.tables inner expr)
    (hfits : Fits grammar rank (expr.leftmostCalls grammar.nullableRules) cursor.rest.length weight)
    (hlevels : expr.height + grammar.tallest * weight ≤ levels) :
    Shallow (Scoped.repetition eval inner least scope cursor)
      (Lands (least == 0 || expr.isNullable grammar.nullableRules) cursor) := by
  apply Shallow.bind (iterations_shallow hranks heval scope _ [] cursor hpart hfits hlevels)
  rintro ⟨elements, stop⟩ hreads
  simp only
  split
  · exact Shallow.pure (lands_none _ cursor)
  · next hmany =>
    apply Shallow.bind (pushOwner_shallow _ _ _ _)
    intro found hfound
    apply Shallow.pure
    rintro _ ⟨⟩
    rw [hfound]
    apply hreads.imp
    intro hnullable
    rw [Bool.or_eq_true, beq_iff_eq] at hnullable ⊢
    rcases hnullable with hnone | hnullable
    · left
      simp only [List.length_nil] at hnone
      omega
    · exact .inr hnullable

/-- A call weighs more than what the body of the rule calls where it starts. -/
theorem call_shallow (hranks : grammar.Ranks rank) (hprogram : setting.program.Encodes grammar)
    (heval : Sheltered setting grammar rank levels eval) {rule : RuleId} {weight : Nat}
    (quiet : Bool) (cursor : Cursor)
    (hcall : ∀ name, setting.program.tables.rules[rule.index]? = some name →
      cursor.rest.length * (grammar.rules.length + 1) + rank name < weight)
    (hlevels : grammar.tallest * weight ≤ levels) :
    Shallow (Scoped.call setting eval rule quiet cursor) fun found ↦
      ∀ name, setting.program.tables.rules[rule.index]? = some name →
        Lands (grammar.nullableRules.contains name) cursor found := by
  unfold Scoped.call
  cases hentry : setting.program.rules[rule.index]? with
  | none => exact Shallow.throw (by rintro ⟨⟩)
  | some entry =>
    obtain ⟨body, hbody, hencodes⟩ := hprogram.encoded hentry
    have hnamed : setting.program.tables.rules[rule.index]? = some entry.name := by
      rw [Program.tables_rules, hentry, Option.map_some]
    have hmember := List.mem_of_find?_eq_some hbody
    have hname : body.name = entry.name := by simpa using List.find?_some hbody
    have hlight := hcall entry.name hnamed
    have hfits : Fits grammar rank (body.body.leftmostCalls grammar.nullableRules)
        cursor.rest.length (cursor.rest.length * (grammar.rules.length + 1) + rank entry.name) := by
      refine ⟨Nat.le_add_right _ _, fun callee hcallee ↦ ?_⟩
      exact Nat.add_lt_add_left (hranks.descends hbody hcallee) _
    -- The body is weighed anew where the call starts, and its own calls are of lower rank.
    have henough := (Grammar.height_add_le hmember hlight).trans hlevels
    apply Shallow.andThen (observe_shallow _ _)
    intro _
    apply Shallow.bind (heval ⟨[], quiet⟩ cursor hencodes hfits henough)
    intro found hlands
    have hresult : ∀ name, setting.program.tables.rules[rule.index]? = some name →
        Lands (grammar.nullableRules.contains name) cursor found := by
      intro name hsome hit hfound
      obtain rfl : entry.name = name := Option.some.inj (hnamed.symm.trans hsome)
      apply (hlands hit hfound).imp
      intro hnullable
      rw [List.contains_iff_mem, ← hname]
      exact grammar.nullableRules_closed body hmember hnullable
    cases found with
    | none =>
      apply Shallow.andThen (observe_shallow _ _)
      intro _
      exact Shallow.pure hresult
    | some found =>
      apply Shallow.andThen (changeNode_shallow _ _)
      intro _
      apply Shallow.andThen (observe_shallow _ _)
      intro _
      exact Shallow.pure hresult

theorem step_shallow (hranks : grammar.Ranks rank) (hprogram : setting.program.Encodes grammar)
    (heval : Sheltered setting grammar rank levels eval) {id : OpId} {op : Op} {expr : Expr}
    {weight : Nat} (scope : Scope) (cursor : Cursor)
    (hshape : Tables.Shape setting.program.tables op expr)
    (hfits : Fits grammar rank (expr.leftmostCalls grammar.nullableRules) cursor.rest.length weight)
    (hlevels : expr.height + grammar.tallest * weight ≤ levels + 1) :
    Shallow (Scoped.step setting eval id op scope cursor)
      (Lands (expr.isNullable grammar.nullableRules) cursor) := by
  have hinner : ∀ {part : Expr}, expr.height = part.height + 1 →
      part.height + grammar.tallest * weight ≤ levels := by
    intro part hheight
    omega
  cases hshape with
  | terminal => exact literal_shallow setting id _ scope.quiet cursor
  | charClass => exact character_shallow setting id _ scope.quiet cursor
  | anyChar => exact character_shallow setting id _ scope.quiet cursor
  | predicate htext => exact predicate_shallow setting id _ _ scope.siblings cursor
  | sequence hparts =>
    rw [Expr.height] at hlevels
    exact sequence_shallow hranks heval scope.quiet cursor hparts hfits (by omega)
  | choice hparts =>
    rw [Expr.height] at hlevels
    exact choice_shallow heval scope cursor hparts hfits (by omega)
  | repetition hpart =>
    exact repetition_shallow hranks heval _ scope cursor hpart hfits (hinner rfl)
  | optional hpart =>
    apply Shallow.bind (heval scope cursor hpart hfits (hinner rfl))
    intro found hlands
    cases found with
    | some found =>
      apply Shallow.pure
      rintro _ ⟨⟩
      exact (hlands found rfl).imp fun _ ↦ rfl
    | none => exact emptyMatch_shallow rfl cursor
  | lookahead hpart =>
    apply Shallow.andThen arenaSize_shallow
    intro mark
    apply Shallow.bind (heval scope cursor hpart hfits (hinner rfl))
    intro found _
    cases found with
    | none => exact Shallow.pure (lands_none _ cursor)
    | some found =>
      apply Shallow.andThen (truncate_shallow _)
      intro _
      exact emptyMatch_shallow rfl cursor
  | negativeLookahead hpart =>
    apply Shallow.bind (heval { scope with quiet := true } cursor hpart hfits (hinner rfl))
    intro found _
    cases found with
    | some found => exact Shallow.pure (lands_none _ cursor)
    | none => exact emptyMatch_shallow rfl cursor
  | label htext hpart =>
    apply Shallow.bind (heval scope cursor hpart hfits (hinner rfl))
    intro found hlands
    cases found with
    | none => exact Shallow.pure hlands
    | some found =>
      apply Shallow.andThen (changeNode_shallow _ _)
      intro _
      exact Shallow.pure hlands
  | @call rule name hnamed =>
    rw [Expr.height] at hlevels
    have hcall : ∀ callee, setting.program.tables.rules[rule.index]? = some callee →
        cursor.rest.length * (grammar.rules.length + 1) + rank callee < weight := by
      intro callee hcallee
      obtain rfl : name = callee := Option.some.inj (hnamed.symm.trans hcallee)
      exact hfits.calls name List.mem_cons_self
    apply (call_shallow hranks hprogram heval scope.quiet cursor hcall (by omega)).mono
    intro found hlands
    exact hlands name hnamed

end Evaluation

/-- By induction on the levels: whatever has enough of them does not end for want of levels. -/
theorem eval_sheltered {setting : Setting τ} {grammar : Grammar} {rank : String → Nat}
    (hranks : grammar.Ranks rank) (hprogram : setting.program.Encodes grammar) (levels : Nat) :
    Sheltered setting grammar rank levels (Scoped.eval setting levels) := by
  induction levels with
  | zero =>
    intro id expr weight scope cursor _ _ hlevels
    have hpos := expr.height_pos
    omega
  | succ levels ih =>
    intro id expr weight scope cursor hencodes hfits hlevels
    obtain ⟨hop, hshape⟩ := hencodes
    change setting.program.ops[id.index]? = _ at hop
    unfold Scoped.eval
    apply Shallow.andThen spendFuel_shallow
    intro _
    rw [hop]
    apply Shallow.andThen arenaSize_shallow
    intro mark
    apply Shallow.bind (step_shallow hranks hprogram ih scope cursor hshape hfits hlevels)
    intro found hlands
    cases found with
    | some found => exact Shallow.pure hlands
    | none =>
      apply Shallow.andThen (truncate_shallow _)
      intro _
      exact Shallow.pure hlands

theorem matchRule_shallow {setting : Setting τ} {grammar : Grammar}
    (hprogram : setting.program.Encodes grammar) (hfree : grammar.leftRecursiveRules = [])
    (rule : RuleId) (consumeAll : Bool) (cursor : Cursor)
    (hlimit : grammar.nestingBound cursor.rest.length ≤ setting.depthLimit) :
    Shallow (Scoped.matchRule setting rule consumeAll cursor) fun _ ↦ True := by
  obtain ⟨rank, hranks⟩ := Grammar.exists_ranks hfree
  have heval := eval_sheltered hranks hprogram setting.depthLimit
  have hcall : ∀ name, setting.program.tables.rules[rule.index]? = some name →
      cursor.rest.length * (grammar.rules.length + 1) + rank name <
        (cursor.rest.length + 1) * (grammar.rules.length + 1) := by
    intro name _
    have hrank := hranks.bound name
    rw [Nat.succ_mul]
    omega
  have hlevels : grammar.tallest *
      ((cursor.rest.length + 1) * (grammar.rules.length + 1)) ≤ setting.depthLimit :=
    (Nat.mul_le_mul_left _ (Nat.le_succ _)).trans hlimit
  apply Shallow.bind (call_shallow hranks hprogram heval false cursor hcall hlevels)
  intro found _
  cases found with
  | none => exact Shallow.pure trivial
  | some found =>
    simp only
    split
    · apply Shallow.andThen (recordFailure_shallow _ _)
      intro _
      exact Shallow.pure trivial
    · exact Shallow.pure trivial

/-- Without left recursion, no run ends for want of nesting depth where the limit is as high as the
bound for inputs of the length: not from any rule or place, with any fuel, hooks and observer. -/
theorem nesting_bounded_by_input {grammar : Grammar} {program : Program}
    (hprogram : grammar.toProgram = .ok program) (hfree : grammar.leftRecursiveRules = [])
    (setting : Setting τ) (hsetting : setting.program = program) (fuel : Option Nat) (trace : τ)
    (rule : RuleId) (consumeAll : Bool) (cursor : Cursor)
    (hstart : Text.dropBytes? setting.input cursor.offset = some cursor.rest)
    (hlimit : grammar.nestingBound (Text.byteLength setting.input) ≤ setting.depthLimit) :
    (run setting fuel trace rule consumeAll cursor).1 ≠ .error .recursionLimitExceeded := by
  subst hsetting
  have hleft : cursor.rest.length ≤ Text.byteLength setting.input := by
    have hbytes := Text.add_byteLength_of_dropBytes? hstart
    have hchars := Text.length_le_byteLength cursor.rest
    omega
  have hdepth := (grammar.nestingBound_mono hleft).trans hlimit
  have hshallow := matchRule_shallow (Grammar.toProgram_encodes hprogram) hfree rule consumeAll
    cursor hdepth ⟨#[], .empty, fuel, trace⟩
  rw [run_eq]
  cases hrun : (Scoped.matchRule setting rule consumeAll cursor).run.run
      ⟨#[], .empty, fuel, trace⟩ with
  | mk result store =>
    rw [hrun] at hshallow
    cases result with
    | ok found => rintro ⟨⟩
    | error error =>
      rintro ⟨⟩
      exact hshallow.1 rfl

/-- The rule `list` calls `item` after something that may read nothing, and itself after an item. -/
theorem nesting_bounded_by_input_list : ∃ program : Program, ∃ grammar : Grammar,
    grammar = ⟨"g", [⟨"list", .optional (.sequence [.zeroOrMore (.terminal " "), .ruleRef "item",
      .ruleRef "list"])⟩, ⟨"item", .terminal "x"⟩], []⟩ ∧
    grammar.toProgram = .ok program ∧ grammar.leftRecursiveRules = [] ∧
    (run ⟨program, "x x".toList, #[], grammar.nestingBound 3, fun () _ ↦ ()⟩ none () ⟨0⟩ true
      ⟨0, "x x".toList⟩).1 ≠ .error .recursionLimitExceeded := by
  obtain ⟨grammar, hgrammar⟩ : ∃ grammar : Grammar, grammar =
      ⟨"g", [⟨"list", .optional (.sequence [.zeroOrMore (.terminal " "), .ruleRef "item",
        .ruleRef "list"])⟩, ⟨"item", .terminal "x"⟩], []⟩ := ⟨_, rfl⟩
  have hfree : grammar.leftRecursiveRules = [] := by
    rw [hgrammar]
    decide +kernel
  have hlowers : grammar.toProgram.toOption.isSome = true := by
    rw [hgrammar]
    decide +kernel
  cases hprogram : grammar.toProgram with
  | error error =>
    rw [hprogram] at hlowers
    cases hlowers
  | ok program =>
    exact ⟨program, grammar, hgrammar, hprogram, hfree,
      nesting_bounded_by_input hprogram hfree _ rfl none () ⟨0⟩ true _ rfl (Nat.le_refl _)⟩

end Machine

end PegKit
