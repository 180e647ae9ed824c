import PegKit.Machine

/-!
# Runs without stacks

The stacks of the machine only matter through two things that an operation can see of them: the
elements matched so far by the innermost sequence of its rule, and whether failures are recorded.
The evaluation in this module is handed both as a `Scope` and keeps no stacks, so a failed attempt
cannot change what surrounds it. `eval_run` says that the machine does exactly the same and returns
with its stacks as they were.
-/

namespace PegKit.Machine

/-- What an evaluation sees of the stacks. -/
structure Scope where
  siblings : List NodeId
  quiet : Bool
  deriving DecidableEq, Repr

def Stacks.scope (around : Stacks) : Scope := ⟨around.visible, around.quiet⟩

@[simp]
theorem Stacks.scope_empty : Stacks.empty.scope = ⟨[], false⟩ := rfl

namespace Scoped

/-- The evaluation of an operation at a place, without stacks. -/
abbrev Evaluator (τ : Type) := OpId → Scope → Cursor → Work τ (Option Match)

variable {τ : Type}

/-- The items of a sequence after those that made `elements`: the elements in the end, and the place
after the last item when all of them matched. -/
def items (eval : Evaluator τ) (quiet : Bool) :
    List OpId → List NodeId → Cursor → Work τ (List NodeId × Option Cursor)
  | [], elements, cursor => return (elements, some cursor)
  | item :: rest, elements, cursor => do
    match ← eval item ⟨elements, quiet⟩ cursor with
    | none => return (elements, none)
    | some found => items eval quiet rest (elements ++ [found.node]) found.after

def sequence (eval : Evaluator τ) (quiet : Bool) (ids : List OpId) (cursor : Cursor) :
    Work τ (Option Match) := do
  match ← items eval quiet ids [] cursor with
  | (_, none) => return none
  | (elements, some stop) => return some (← pushOwner .sequence cursor stop elements)

def choice (setting : Setting τ) (eval : Evaluator τ) (scope : Scope) (cursor : Cursor) :
    List OpId → Work τ (Option Match)
  | [] => return none
  | [last] => eval last scope cursor
  | alternative :: next :: rest => do
    match ← eval alternative scope cursor with
    | some found => return some found
    | none =>
      observe setting (.backtrack cursor.offset)
      choice setting eval scope cursor (next :: rest)

def iterations (eval : Evaluator τ) (inner : OpId) (scope : Scope) :
    Nat → List NodeId → Cursor → Work τ (List NodeId × Cursor)
  | 0, elements, cursor => return (elements, cursor)
  | bound + 1, elements, cursor => do
    match ← eval inner scope cursor with
    | none => return (elements, cursor)
    | some found =>
      let elements := elements ++ [found.node]
      if cursor.offset < found.after.offset then
        iterations eval inner scope bound elements found.after
      else return (elements, found.after)

def repetition (eval : Evaluator τ) (inner : OpId) (least : Nat) (scope : Scope)
    (cursor : Cursor) : Work τ (Option Match) := do
  let (elements, stop) ← iterations eval inner scope (cursor.rest.length + 1) [] cursor
  if elements.length < least then return none
  return some (← pushOwner .repetition cursor stop elements)

def call (setting : Setting τ) (eval : Evaluator τ) (rule : RuleId) (quiet : Bool)
    (cursor : Cursor) : Work τ (Option Match) := do
  match setting.program.rules[rule.index]? with
  | none => throw .danglingReference
  | some entry =>
    observe setting (.call rule cursor.offset)
    let found ← eval entry.body ⟨[], quiet⟩ cursor
    match found with
    | some found =>
      changeNode found.node fun node ↦ { node with rule := some rule }
      observe setting (.leave rule cursor.offset (some found.after.offset))
    | none => observe setting (.leave rule cursor.offset none)
    return found

/-- One operation, whose parts are evaluated by `eval`. -/
def step (setting : Setting τ) (eval : Evaluator τ) (id : OpId) (op : Op) (scope : Scope)
    (cursor : Cursor) : Work τ (Option Match) := do
  match op with
  | .terminal text => literal setting id text.toList scope.quiet cursor
  | .charClass cls => character setting id cls.contains scope.quiet cursor
  | .anyChar => character setting id (fun _ ↦ true) scope.quiet cursor
  | .sequence items => sequence eval scope.quiet items cursor
  | .choice alternatives => choice setting eval scope cursor alternatives
  | .repetition inner least => repetition eval inner least scope cursor
  | .optional inner =>
    match ← eval inner scope cursor with
    | some found => return some found
    | none => return some (← pushEmpty cursor)
  | .lookahead inner =>
    let mark ← arenaSize
    match ← eval inner scope cursor with
    | none => return none
    | some _ =>
      truncate mark
      return some (← pushEmpty cursor)
  | .negativeLookahead inner =>
    match ← eval inner { scope with quiet := true } cursor with
    | some _ => return none
    | none => return some (← pushEmpty cursor)
  | .predicate hook negated => predicate setting id hook negated scope.siblings cursor
  | .label name inner =>
    let found ← eval inner scope cursor
    if let some found := found then
      changeNode found.node fun node ↦ { node with label := some name }
    return found
  | .call rule => call setting eval rule scope.quiet cursor

/-- An operation, with at most `levels` evaluations inside each other, itself included. -/
def eval (setting : Setting τ) : Nat → Evaluator τ
  | 0, _, _, _ => do
    spendFuel
    throw .recursionLimitExceeded
  | levels + 1, id, scope, cursor => do
    spendFuel
    match setting.program.ops[id.index]? with
    | none => throw .danglingReference
    | some op =>
      let mark ← arenaSize
      let found ← step setting (eval setting levels) id op scope cursor
      if found.isNone then truncate mark
      return found

def matchRule (setting : Setting τ) (rule : RuleId) (consumeAll : Bool) (cursor : Cursor) :
    Work τ (Option Match) := do
  match ← call setting (eval setting setting.depthLimit) rule false cursor with
  | none => return none
  | some found =>
    if consumeAll && !found.after.rest.isEmpty then
      recordFailure found.after.offset .endOfInput
      return none
    return some found

end Scoped

variable {τ : Type}

/-! ## Actions in a row -/

section Actions

variable {α β : Type} {action : Work τ α} {next : α → Work τ β} {store store' : Store τ}

theorem run_bind_ok {value : α} (h : action.run.run store = (.ok value, store')) :
    (action >>= next).run.run store = (next value).run.run store' := by
  rw [ExceptT.run_bind, StateT.run_bind, h]
  rfl

theorem run_bind_error {error : RuntimeError}
    (h : action.run.run store = (.error error, store')) :
    (action >>= next).run.run store = (.error error, store') := by
  rw [ExceptT.run_bind, StateT.run_bind, h]
  rfl

end Actions

/-! ## Operations that read text of their own -/

theorem literal_cases (setting : Setting τ) (id : OpId) (text : List Char) (quiet : Bool)
    (cursor : Cursor) :
    (∃ rest, cursor.rest = text ++ rest ∧ literal setting id text quiet cursor =
      succeed setting id cursor (cursor.after text rest)) ∨
    (∀ rest, cursor.rest ≠ text ++ rest) ∧
      literal setting id text quiet cursor = failAt setting id quiet cursor := by
  unfold literal
  cases hstrip : Text.stripLead? text cursor.rest with
  | some rest => exact .inl ⟨rest, Text.stripLead?_eq_some_iff.mp hstrip, rfl⟩
  | none =>
    refine .inr ⟨fun rest hlead ↦ ?_, rfl⟩
    rw [Text.stripLead?_eq_some_iff.mpr hlead] at hstrip
    cases hstrip

theorem character_cases (setting : Setting τ) (id : OpId) (accepts : Char → Bool) (quiet : Bool)
    (cursor : Cursor) :
    (∃ c rest, cursor.rest = c :: rest ∧ accepts c = true ∧
      character setting id accepts quiet cursor =
        succeed setting id cursor (cursor.after [c] rest)) ∨
    (∀ c rest, cursor.rest = c :: rest → accepts c = false) ∧
      character setting id accepts quiet cursor = failAt setting id quiet cursor := by
  unfold character
  cases cursor.rest with
  | nil => exact .inr ⟨(by rintro _ _ ⟨⟩), rfl⟩
  | cons c rest =>
    cases haccepted : accepts c with
    | true => exact .inl ⟨c, rest, rfl, haccepted, if_pos haccepted⟩
    | false =>
      refine .inr ⟨?_, if_neg (by simp [haccepted])⟩
      rintro _ _ ⟨⟩
      exact haccepted

/-! ## Agreement -/

/-- At depth `depth`, `eval` does what `flat` does and returns with the stacks as they were. -/
def Agrees (depth : Nat) (eval : Evaluator τ) (flat : Scoped.Evaluator τ) : Prop :=
  ∀ id cursor around, around.depth = depth →
    (eval id cursor).run around = (fun found ↦ (found, around)) <$> flat id around.scope cursor

@[simp]
theorem onStore_run {α : Type} (action : Work τ α) (around : Stacks) :
    (onStore action).run around = (fun value ↦ (value, around)) <$> action := by
  simp [onStore]

@[simp]
theorem throw_run {α : Type} (error : RuntimeError) (around : Stacks) :
    (throw error : Run τ α).run around = throw error := rfl

section Operations

variable {depth : Nat} {eval : Evaluator τ} {flat : Scoped.Evaluator τ}

theorem items_run (h : Agrees depth eval flat) (ids : List OpId) (elements : List NodeId)
    (cursor : Cursor) (lower : Array NodeId) (frames : List Nat) (suppressed : Nat) :
    (items eval ids cursor).run
        ⟨lower ++ elements.toArray, lower.size :: frames, suppressed, depth⟩ =
      (fun result ↦
        (result.2, ⟨lower ++ result.1.toArray, lower.size :: frames, suppressed, depth⟩)) <$>
          Scoped.items flat (suppressed != 0) ids elements cursor := by
  induction ids generalizing elements cursor with
  | nil => simp [items, Scoped.items]
  | cons item rest ih =>
    have hscope : (⟨lower ++ elements.toArray, lower.size :: frames, suppressed, depth⟩ :
        Stacks).scope = ⟨elements, suppressed != 0⟩ := by
      simp [Stacks.scope, Stacks.visible, Stacks.quiet]
    have hpush (node : NodeId) :
        (lower ++ elements.toArray).push node = lower ++ (elements ++ [node]).toArray := by
      simp
    have hitem := h item cursor
      ⟨lower ++ elements.toArray, lower.size :: frames, suppressed, depth⟩ rfl
    simp only [items, Scoped.items, StateT.run_bind, hitem, hscope, map_bind, bind_map_left]
    refine bind_congr fun found ↦ ?_
    cases found with
    | none => simp
    | some found =>
      simp only [StateT.run_bind, StateT.run_modify, pure_bind, hpush]
      exact ih (elements ++ [found.node]) found.after

theorem sequence_run (h : Agrees depth eval flat) (ids : List OpId) (cursor : Cursor)
    (around : Stacks) (hdepth : around.depth = depth) :
    (sequence eval ids cursor).run around =
      (fun found ↦ (found, around)) <$> Scoped.sequence flat around.quiet ids cursor := by
  obtain ⟨matched, frames, suppressed, _⟩ := around
  subst hdepth
  have hitems := items_run h ids [] cursor matched frames suppressed
  simp only [Array.append_empty] at hitems
  simp only [sequence, Scoped.sequence, openFrame, closeFrame, StateT.run_bind, StateT.run_get,
    StateT.run_modify, pure_bind, hitems, bind_map_left, map_bind, Stacks.quiet]
  refine bind_congr fun result ↦ ?_
  obtain ⟨elements, stop⟩ := result
  cases stop <;> simp

theorem choice_run (h : Agrees depth eval flat) (setting : Setting τ) (ids : List OpId)
    (cursor : Cursor) (around : Stacks) (hdepth : around.depth = depth) :
    (choice setting eval cursor ids).run around =
      (fun found ↦ (found, around)) <$> Scoped.choice setting flat around.scope cursor ids := by
  induction ids with
  | nil => simp [choice, Scoped.choice]
  | cons id rest ih =>
    cases rest with
    | nil => exact h id cursor around hdepth
    | cons next rest =>
      simp only [choice, Scoped.choice, StateT.run_bind, h id cursor around hdepth, map_bind,
        bind_map_left]
      refine bind_congr fun found ↦ ?_
      cases found with
      | none => simp [ih]
      | some found => simp

theorem iterations_run (h : Agrees depth eval flat) (inner : OpId) (bound : Nat)
    (elements : List NodeId) (cursor : Cursor) (around : Stacks) (hdepth : around.depth = depth) :
    (iterations eval inner bound elements cursor).run around =
      (fun result ↦ (result, around)) <$>
        Scoped.iterations flat inner around.scope bound elements cursor := by
  induction bound generalizing elements cursor with
  | zero => simp [iterations, Scoped.iterations]
  | succ bound ih =>
    simp only [iterations, Scoped.iterations, StateT.run_bind, h inner cursor around hdepth,
      map_bind, bind_map_left]
    refine bind_congr fun found ↦ ?_
    cases found with
    | none => simp
    | some found =>
      by_cases hmoved : cursor.offset < found.after.offset
      · simp [hmoved, ih]
      · simp [hmoved]

theorem repetition_run (h : Agrees depth eval flat) (inner : OpId) (least : Nat)
    (cursor : Cursor) (around : Stacks) (hdepth : around.depth = depth) :
    (repetition eval inner least cursor).run around =
      (fun found ↦ (found, around)) <$>
        Scoped.repetition flat inner least around.scope cursor := by
  simp only [repetition, Scoped.repetition, StateT.run_bind,
    iterations_run h inner _ _ cursor around hdepth, map_bind, bind_map_left]
  refine bind_congr fun result ↦ ?_
  by_cases hfew : result.1.length < least <;> simp [hfew]

theorem call_run (h : Agrees depth eval flat) (setting : Setting τ) (rule : RuleId)
    (cursor : Cursor) (around : Stacks) (hdepth : around.depth = depth) :
    (call setting eval rule cursor).run around =
      (fun found ↦ (found, around)) <$>
        Scoped.call setting flat rule around.quiet cursor := by
  have hscope : ({ around with frames := around.matched.size :: around.frames } : Stacks).scope =
      ⟨[], around.quiet⟩ := by
    simp [Stacks.scope, Stacks.visible, Stacks.quiet]
  unfold call Scoped.call
  cases setting.program.rules[rule.index]? with
  | none => rfl
  | some entry =>
    simp only [openFrame, closeFrame, StateT.run_bind, StateT.run_modify, onStore_run, pure_bind,
      bind_map_left, map_bind]
    refine bind_congr fun _ ↦ ?_
    have hbody := h entry.body cursor
      { around with frames := around.matched.size :: around.frames } hdepth
    rw [hbody, hscope, bind_map_left]
    refine bind_congr fun found ↦ ?_
    cases found <;> simp

/-- Every operation agrees when its parts do. -/
theorem step_run (h : Agrees depth eval flat) (setting : Setting τ) (id : OpId) (op : Op)
    (cursor : Cursor) (around : Stacks) (hdepth : around.depth = depth) :
    (step setting eval id op cursor).run around =
      (fun found ↦ (found, around)) <$>
        Scoped.step setting flat id op around.scope cursor := by
  cases op with
  | terminal text => simp [step, Scoped.step, Stacks.scope]
  | charClass cls => simp [step, Scoped.step, Stacks.scope]
  | anyChar => simp [step, Scoped.step, Stacks.scope]
  | sequence ids => exact sequence_run h ids cursor around hdepth
  | choice ids => exact choice_run h setting ids cursor around hdepth
  | repetition inner least => exact repetition_run h inner least cursor around hdepth
  | optional inner =>
    simp only [step, Scoped.step, StateT.run_bind, h inner cursor around hdepth, map_bind,
      bind_map_left]
    refine bind_congr fun found ↦ ?_
    cases found <;> simp
  | lookahead inner =>
    simp only [step, Scoped.step, StateT.run_bind, onStore_run, h inner cursor around hdepth,
      map_bind, bind_map_left]
    refine bind_congr fun mark ↦ bind_congr fun found ↦ ?_
    cases found <;> simp
  | negativeLookahead inner =>
    have hquiet : ({ around with suppressed := around.suppressed + 1 } : Stacks).scope =
        { around.scope with quiet := true } := by
      simp [Stacks.scope, Stacks.visible, Stacks.quiet]
    simp only [step, Scoped.step, StateT.run_bind, StateT.run_modify, pure_bind,
      h inner cursor { around with suppressed := around.suppressed + 1 } hdepth, hquiet, map_bind,
      bind_map_left]
    refine bind_congr fun found ↦ ?_
    cases found <;> simp
  | predicate hook negated => simp [step, Scoped.step, Stacks.scope]
  | label name inner =>
    simp only [step, Scoped.step, StateT.run_bind, h inner cursor around hdepth, map_bind,
      bind_map_left]
    refine bind_congr fun found ↦ ?_
    cases found <;> simp
  | call rule => exact call_run h setting rule cursor around hdepth

end Operations

/-- The machine evaluates as it would without stacks, and returns with its stacks as they were. -/
theorem eval_run (setting : Setting τ) (levels : Nat) (id : OpId) (cursor : Cursor)
    (around : Stacks) :
    (eval setting levels id cursor).run around =
      (fun found ↦ (found, around)) <$>
        Scoped.eval setting (min levels (setting.depthLimit - around.depth)) id around.scope
          cursor := by
  induction levels generalizing id cursor around with
  | zero => simp [eval, Scoped.eval]
  | succ levels ih =>
    by_cases hlimit : setting.depthLimit ≤ around.depth
    · have hzero : setting.depthLimit - around.depth = 0 := by omega
      simp [eval, Scoped.eval, hlimit, hzero]
    · obtain ⟨left, hleft⟩ : ∃ left, setting.depthLimit - around.depth = left + 1 :=
        ⟨setting.depthLimit - around.depth - 1, by omega⟩
      have hagrees : Agrees (around.depth + 1) (eval setting levels)
          (Scoped.eval setting (min levels left)) := by
        intro id cursor inner hdepth
        rw [ih, show setting.depthLimit - inner.depth = left by omega]
      rw [hleft, Nat.succ_min_succ]
      simp only [eval, Scoped.eval, StateT.run_bind, onStore_run, bind_map_left, map_bind,
        StateT.run_get, pure_bind, hlimit, if_false]
      refine bind_congr fun _ ↦ ?_
      cases setting.program.ops[id.index]? with
      | none => rfl
      | some op =>
        have hstep := step_run hagrees setting id op cursor
          { around with depth := around.depth + 1 } rfl
        simp only [StateT.run_bind, StateT.run_modify, onStore_run, pure_bind, bind_map_left,
          map_bind, hstep]
        refine bind_congr fun mark ↦ bind_congr fun found ↦ ?_
        cases found <;> simp

/-- A whole run without stacks. -/
theorem run_eq (setting : Setting τ) (fuel : Option Nat) (trace : τ) (rule : RuleId)
    (consumeAll : Bool) (cursor : Cursor) :
    run setting fuel trace rule consumeAll cursor =
      let (result, store) :=
        (Scoped.matchRule setting rule consumeAll cursor).run.run ⟨#[], .empty, fuel, trace⟩
      (result.map fun root ↦ ⟨store.nodes, root, store.failures⟩, store.trace) := by
  have hagrees : Agrees 0 (eval setting setting.depthLimit)
      (Scoped.eval setting setting.depthLimit) := by
    intro id cursor around hdepth
    rw [eval_run, hdepth, Nat.sub_zero, Nat.min_self]
  have hmatch : (matchRule setting rule consumeAll cursor).run .empty =
      (fun found ↦ (found, Stacks.empty)) <$> Scoped.matchRule setting rule consumeAll cursor := by
    simp only [matchRule, Scoped.matchRule, StateT.run_bind,
      call_run hagrees setting rule cursor .empty rfl, bind_map_left, map_bind]
    refine bind_congr fun found ↦ ?_
    cases found with
    | none => simp
    | some found =>
      by_cases hrest : (consumeAll && !found.after.rest.isEmpty) = true <;> simp [hrest]
  simp only [run, hmatch, ExceptT.run_map, StateT.run_map]
  cases hrun : (Scoped.matchRule setting rule consumeAll cursor).run.run
      ⟨#[], .empty, fuel, trace⟩ with
  | mk result store => cases result <;> rfl

end PegKit.Machine
