import PegKit.Parser
import PegKit.Proofs.Machine.Scoped
import PegKit.Proofs.Program.Matching
import PegKit.Proofs.Program.WellFormed

/-!
# Runs that check every access

The machine reads its tables and the input in a forgiving way: a place that is not there gives
nothing. The machine in this module looks before every access, and a place that is not there ends
its run. On a well-formed program, from a place in the input, it never comes to that: the two
machines do the same.
-/

namespace PegKit.Machine

/-! ## Checks -/

namespace Guarded

variable {τ : Type}

/-- Ends the run unless there is what is to be accessed. -/
def check (there : Prop) [Decidable there] : Work τ Unit :=
  if there then return () else throw .danglingReference

/-- The input from byte `offset` on. -/
def textFrom (setting : Setting τ) (offset : Nat) : Work τ (List Char) :=
  match Text.dropBytes? setting.input offset with
  | some rest => return rest
  | none => throw .danglingReference

/-- The text of a label or hook. -/
def symbolText (setting : Setting τ) (symbol : Symbol) : Work τ String :=
  match setting.program.symbols.resolve? symbol with
  | some text => return text
  | none => throw .danglingReference

/-- Looks for nodes that are about to be accessed. -/
def checkNodes (ids : List NodeId) : Work τ Unit := do
  let nodes := (← get).nodes
  check (∀ id ∈ ids, id.index < nodes.size)

/-- The elements from place `base` on. -/
def elementsFrom (around : Stacks) (base : Nat) : Work τ (List NodeId) := do
  check (base ≤ around.matched.size)
  return around.matched.toList.drop base

/-- Elements matched so far by the innermost sequence of the same rule. -/
def visible (around : Stacks) : Work τ (List NodeId) :=
  match around.frames with
  | [] => return []
  | base :: _ => elementsFrom around base

/-! ## The machine with checks -/

def changeNode (id : NodeId) (change : Node → Node) : Work τ Unit := do
  checkNodes [id]
  Machine.changeNode id change

def pushOwner (kind : NodeKind) (start stop : Cursor) (elements : List NodeId) : Work τ Match := do
  checkNodes elements
  Machine.pushOwner kind start stop elements

def literal (setting : Setting τ) (id : OpId) (text : List Char) (quiet : Bool)
    (cursor : Cursor) : Work τ (Option Match) := do
  let rest ← textFrom setting cursor.offset
  Machine.literal setting id text quiet ⟨cursor.offset, rest⟩

def character (setting : Setting τ) (id : OpId) (accepts : Char → Bool) (quiet : Bool)
    (cursor : Cursor) : Work τ (Option Match) := do
  let rest ← textFrom setting cursor.offset
  Machine.character setting id accepts quiet ⟨cursor.offset, rest⟩

/-- A condition is handed nodes and the input from its place on. -/
def consult (setting : Setting τ) (hook : Symbol) (visible : List NodeId) (cursor : Cursor) :
    Work τ Bool := do
  match setting.predicates[hook.index]? with
  | none => throw .danglingReference
  | some none => throw (.unboundPredicate (← symbolText setting hook))
  | some (some binding) =>
    checkNodes visible
    let rest ← textFrom setting cursor.offset
    let env : MatchEnv :=
      ⟨setting.program, setting.input, (← get).nodes, visible, cursor.offset, rest⟩
    observe setting (.ask binding.key env)
    match binding.condition env with
    | .ok holds => return holds
    | .error message => throw (.predicate (← symbolText setting hook) message)

def predicate (setting : Setting τ) (id : OpId) (hook : Symbol) (negated : Bool)
    (visible : List NodeId) (cursor : Cursor) : Work τ (Option Match) := do
  let passed := (← consult setting hook visible cursor) != negated
  observe setting (.decided id cursor.offset passed)
  if passed then return some (← pushEmpty cursor) else return none

def sequence (eval : Evaluator τ) (ids : List OpId) (cursor : Cursor) : Run τ (Option Match) := do
  let base := (← get).matched.size
  openFrame
  let stop ← items eval ids cursor
  let elements ← onStore (elementsFrom (← get) base)
  modify fun around ↦ { around with matched := around.matched.take base }
  closeFrame
  match stop with
  | none => return none
  | some stop => return some (← onStore (pushOwner .sequence cursor stop elements))

def repetition (eval : Evaluator τ) (inner : OpId) (least : Nat) (cursor : Cursor) :
    Run τ (Option Match) := do
  let (elements, stop) ← iterations eval inner (cursor.rest.length + 1) [] cursor
  if elements.length < least then return none
  return some (← onStore (pushOwner .repetition cursor stop elements))

def call (setting : Setting τ) (eval : Evaluator τ) (rule : RuleId) (cursor : Cursor) :
    Run τ (Option Match) := do
  match setting.program.rules[rule.index]? with
  | none => throw .danglingReference
  | some entry =>
    onStore (observe setting (.call rule cursor.offset))
    openFrame
    let found ← eval entry.body cursor
    closeFrame
    match found with
    | some found =>
      onStore (changeNode found.node fun node ↦ { node with rule := some rule })
      onStore (observe setting (.leave rule cursor.offset (some found.after.offset)))
    | none => onStore (observe setting (.leave rule cursor.offset none))
    return found

/-- One operation, whose parts are evaluated by `eval`. -/
def step (setting : Setting τ) (eval : Evaluator τ) (id : OpId) (op : Op) (cursor : Cursor) :
    Run τ (Option Match) := do
  match op with
  | .terminal text => onStore (literal setting id text.toList (← get).quiet cursor)
  | .charClass cls => onStore (character setting id cls.contains (← get).quiet cursor)
  | .anyChar => onStore (character setting id (fun _ ↦ true) (← get).quiet cursor)
  | .sequence items => sequence eval items cursor
  | .choice alternatives => choice setting eval cursor alternatives
  | .repetition inner least => repetition eval inner least cursor
  | .optional inner =>
    match ← eval inner cursor with
    | some found => return some found
    | none => return some (← onStore (pushEmpty cursor))
  | .lookahead inner =>
    let mark ← onStore arenaSize
    match ← eval inner cursor with
    | none => return none
    | some _ =>
      onStore (truncate mark)
      return some (← onStore (pushEmpty cursor))
  | .negativeLookahead inner =>
    modify fun around ↦ { around with suppressed := around.suppressed + 1 }
    let found ← eval inner cursor
    modify fun around ↦ { around with suppressed := around.suppressed - 1 }
    match found with
    | some _ => return none
    | none => return some (← onStore (pushEmpty cursor))
  | .predicate hook negated =>
    let elements ← onStore (visible (← get))
    onStore (predicate setting id hook negated elements cursor)
  | .label name inner =>
    let found ← eval inner cursor
    if let some found := found then
      onStore (changeNode found.node fun node ↦ { node with label := some name })
    return found
  | .call rule => call setting eval rule cursor

/-- An operation, with at most `levels` evaluations inside each other, itself included. -/
def eval (setting : Setting τ) : Nat → Evaluator τ
  | 0, _, _ => do
    onStore spendFuel
    throw .recursionLimitExceeded
  | levels + 1, id, cursor => do
    onStore spendFuel
    if setting.depthLimit ≤ (← get).depth then throw .recursionLimitExceeded
    match setting.program.ops[id.index]? with
    | none => throw .danglingReference
    | some op =>
      modify fun around ↦ { around with depth := around.depth + 1 }
      let mark ← onStore arenaSize
      let found ← step setting (eval setting levels) id op cursor
      modify fun around ↦ { around with depth := around.depth - 1 }
      if found.isNone then onStore (truncate mark)
      return found

def matchRule (setting : Setting τ) (rule : RuleId) (consumeAll : Bool) (cursor : Cursor) :
    Run τ (Option Match) := do
  match ← call setting (eval setting setting.depthLimit) rule cursor with
  | none => return none
  | some found =>
    if consumeAll && !found.after.rest.isEmpty then
      onStore (recordFailure found.after.offset .endOfInput)
      return none
    return some found

/-- A whole run with checks. -/
def run (setting : Setting τ) (fuel : Option Nat) (trace : τ) (rule : RuleId) (consumeAll : Bool)
    (cursor : Cursor) : Except RuntimeError Outcome × τ :=
  let (result, store) :=
    ((matchRule setting rule consumeAll cursor).run .empty).run.run ⟨#[], .empty, fuel, trace⟩
  (result.map fun (root, _) ↦ ⟨store.nodes, root, store.failures⟩, store.trace)

end Guarded

/-! ## Doing the same -/

/-- From `store` the two actions do the same, and it is not for a place that is not there that they
end; `post` holds of the result and what is left behind. -/
def Follows {τ α : Type} (store : Store τ) (guarded plain : Work τ α) (post : α → Store τ → Prop) :
    Prop :=
  guarded.run.run store = plain.run.run store ∧
    match plain.run.run store with
    | (.ok value, store') => post value store'
    | (.error error, _) => error ≠ .danglingReference

namespace Follows

variable {τ α β : Type} {store : Store τ} {guarded plain : Work τ α} {post : α → Store τ → Prop}

theorem pure {value : α} (h : post value store) :
    Follows store (Pure.pure value) (Pure.pure value) post := ⟨rfl, h⟩

theorem throw {error : RuntimeError} (h : error ≠ .danglingReference) :
    Follows store (MonadExcept.throw error : Work τ α) (MonadExcept.throw error) post := ⟨rfl, h⟩

theorem mono {post' : α → Store τ → Prop} (h : Follows store guarded plain post)
    (hpost : ∀ value store', post value store' → post' value store') :
    Follows store guarded plain post' := by
  obtain ⟨hsame, hends⟩ := h
  refine ⟨hsame, ?_⟩
  revert hends
  split
  · exact hpost _ _
  · exact id

theorem bind {next next' : α → Work τ β} {post' : β → Store τ → Prop}
    (h : Follows store guarded plain post)
    (hnext : ∀ value store', post value store' →
      Follows store' (next value) (next' value) post') :
    Follows store (guarded >>= next) (plain >>= next') post' := by
  obtain ⟨hsame, hends⟩ := h
  unfold Follows
  rw [ExceptT.run_bind, StateT.run_bind, ExceptT.run_bind, StateT.run_bind, hsame]
  cases hrun : plain.run.run store with
  | mk result store' =>
    rw [hrun] at hends
    cases result with
    | error error => exact ⟨rfl, hends⟩
    | ok value => exact hnext value store' hends

/-- A check that passes. -/
theorem passing {guard : Work τ α} {value : α} {next : α → Work τ β} {plain : Work τ β}
    {post : β → Store τ → Prop} (hguard : guard.run.run store = (.ok value, store))
    (hnext : Follows store (next value) plain post) :
    Follows store (guard >>= next) plain post := by
  obtain ⟨hsame, hends⟩ := hnext
  refine ⟨?_, hends⟩
  rw [← hsame, ExceptT.run_bind, StateT.run_bind, hguard]
  rfl

end Follows

section Actions

variable {τ : Type} {setting : Setting τ} {store : Store τ}

/-! ## Checks that pass -/

theorem check_run {there : Prop} [Decidable there] (h : there) :
    (Guarded.check there : Work τ Unit).run.run store = (.ok (), store) := by
  rw [Guarded.check, if_pos h]
  rfl

theorem checkNodes_run {ids : List NodeId} (h : ∀ id ∈ ids, id.index < store.nodes.size) :
    (Guarded.checkNodes ids).run.run store = (.ok (), store) := check_run h

theorem textFrom_run {cursor : Cursor} (h : cursor.LiesIn setting.input) :
    (Guarded.textFrom setting cursor.offset).run.run store = (.ok cursor.rest, store) := by
  have hdrop : Text.dropBytes? setting.input cursor.offset = some cursor.rest := h
  rw [Guarded.textFrom, hdrop]
  rfl

theorem symbolText_run {symbol : Symbol} (h : symbol.index < setting.program.symbols.size) :
    (Guarded.symbolText setting symbol).run.run store =
      (.ok (setting.program.symbolText symbol), store) := by
  have hfound : setting.program.symbols.resolve? symbol =
      some setting.program.symbols.texts[symbol.index] := Array.getElem?_eq_getElem h
  rw [Guarded.symbolText, hfound, Program.symbolText, Interner.resolve, hfound]
  rfl

theorem elementsFrom_run {around : Stacks} {base : Nat} (h : base ≤ around.matched.size) :
    (Guarded.elementsFrom around base).run.run store =
      (.ok (around.matched.toList.drop base), store) := by
  rw [Guarded.elementsFrom, ExceptT.run_bind, StateT.run_bind, check_run h]
  rfl

/-! ## Actions on what is left behind -/

/-- Nodes were added, and a match that was found is a node and ends in the input. -/
structure Inside (setting : Setting τ) (size : Nat) (found : Option Match) (store : Store τ) :
    Prop where
  grown : size ≤ store.nodes.size
  lies : ∀ result, found = some result →
    result.node.index < store.nodes.size ∧ result.after.LiesIn setting.input

theorem Inside.none {size : Nat} (h : size ≤ store.nodes.size) : Inside setting size none store :=
  ⟨h, by rintro _ ⟨⟩⟩

theorem Inside.some {size : Nat} {found : Match} (h : size ≤ store.nodes.size)
    (hnode : found.node.index < store.nodes.size) (hafter : found.after.LiesIn setting.input) :
    Inside setting size (some found) store := by
  refine ⟨h, ?_⟩
  rintro _ ⟨⟩
  exact ⟨hnode, hafter⟩

theorem Inside.of_le {size size' : Nat} {found : Option Match} (hle : size ≤ size')
    (h : Inside setting size' found store) : Inside setting size found store :=
  ⟨Nat.le_trans hle h.grown, h.lies⟩

theorem observe_follows (event : Event) :
    Follows store (observe setting event) (observe setting event)
      fun _ store' ↦ store'.nodes = store.nodes := ⟨rfl, rfl⟩

theorem recordFailure_follows (offset : Nat) (expected : Expected) :
    Follows store (recordFailure offset expected) (recordFailure offset expected)
      fun _ store' ↦ store'.nodes = store.nodes := ⟨rfl, rfl⟩

theorem arenaSize_follows :
    Follows store arenaSize arenaSize
      fun size store' ↦ size = store.nodes.size ∧ store' = store := ⟨rfl, rfl, rfl⟩

theorem truncate_follows (mark : Nat) :
    Follows store (truncate mark) (truncate mark)
      fun _ store' ↦ store'.nodes.size = min mark store.nodes.size := by
  refine ⟨rfl, ?_⟩
  change (store.nodes.take mark).size = _
  simp

theorem spendFuel_follows :
    Follows store spendFuel spendFuel fun _ store' ↦ store'.nodes = store.nodes := by
  obtain ⟨nodes, failures, fuel, trace⟩ := store
  cases fuel with
  | none => exact ⟨rfl, rfl⟩
  | some fuel =>
    cases fuel with
    | zero => exact ⟨rfl, by rintro ⟨⟩⟩
    | succ fuel => exact ⟨rfl, rfl⟩

theorem push_follows (node : Node) :
    Follows store (push node) (push node) fun id store' ↦
      id.index = store.nodes.size ∧ store'.nodes.size = store.nodes.size + 1 :=
  ⟨rfl, rfl, Array.size_push node⟩

theorem changeNode_follows {id : NodeId} (h : id.index < store.nodes.size)
    (change : Node → Node) :
    Follows store (Guarded.changeNode id change) (changeNode id change)
      fun _ store' ↦ store'.nodes.size = store.nodes.size := by
  apply Follows.passing (checkNodes_run (List.forall_mem_singleton.mpr h))
  refine ⟨rfl, ?_⟩
  change (store.nodes.modify id.index change).size = _
  simp

theorem pushEmpty_follows {cursor : Cursor} (hcursor : cursor.LiesIn setting.input) :
    Follows store (pushEmpty cursor) (pushEmpty cursor)
      fun found store' ↦ Inside setting store.nodes.size (some found) store' := by
  apply (push_follows _).bind
  rintro id store' ⟨hid, hsize⟩
  apply Follows.pure
  apply Inside.some (by omega) _ hcursor
  change id.index < _
  omega

theorem size_adopt (nodes : Arena) (id : NodeId) (elements : List NodeId) :
    (adopt nodes id elements).size = nodes.size := by
  unfold adopt
  induction elements generalizing nodes with
  | nil => rfl
  | cons element rest ih => rw [List.foldl_cons, ih, Array.size_modify]

theorem pushOwner_follows (kind : NodeKind) (start : Cursor) {stop : Cursor}
    {elements : List NodeId} (hstop : stop.LiesIn setting.input)
    (helements : ∀ id ∈ elements, id.index < store.nodes.size) :
    Follows store (Guarded.pushOwner kind start stop elements) (pushOwner kind start stop elements)
      fun found store' ↦ Inside setting store.nodes.size (some found) store' := by
  apply Follows.passing (checkNodes_run helements)
  have hadopted : Follows store
      (modify fun store ↦ { store with
        nodes := adopt store.nodes ⟨store.nodes.size⟩ elements } : Work τ Unit)
      (modify fun store ↦ { store with
        nodes := adopt store.nodes ⟨store.nodes.size⟩ elements })
      fun _ store' ↦ store'.nodes.size = store.nodes.size := ⟨rfl, size_adopt _ _ _⟩
  apply hadopted.bind
  intro _ store' hsize
  apply (push_follows _).bind
  rintro id store'' ⟨hid, hsize'⟩
  apply Follows.pure
  apply Inside.some (by omega) _ hstop
  change id.index < _
  omega

/-! ## Matches without parts -/

theorem succeed_follows (id : OpId) (start : Cursor) {stop : Cursor}
    (hstop : stop.LiesIn setting.input) :
    Follows store (succeed setting id start stop) (succeed setting id start stop)
      (Inside setting store.nodes.size) := by
  apply (observe_follows _).bind
  intro _ store' hnodes
  apply (push_follows _).bind
  rintro node store'' ⟨hnode, hsize⟩
  rw [hnodes] at hnode hsize
  apply Follows.pure
  apply Inside.some (by omega) _ hstop
  change node.index < _
  omega

theorem failAt_follows (id : OpId) (quiet : Bool) (cursor : Cursor) :
    Follows store (failAt setting id quiet cursor) (failAt setting id quiet cursor)
      (Inside setting store.nodes.size) := by
  apply (observe_follows _).bind
  intro _ store' hnodes
  have hsize : store.nodes.size ≤ store'.nodes.size :=
    Nat.le_of_eq (congrArg Array.size hnodes).symm
  cases quiet with
  | true => exact Follows.pure (.none hsize)
  | false =>
    apply (recordFailure_follows _ _).bind
    intro _ store'' hnodes'
    rw [← hnodes'] at hsize
    exact Follows.pure (.none hsize)

theorem literal_follows (id : OpId) (text : List Char) (quiet : Bool) {cursor : Cursor}
    (hcursor : cursor.LiesIn setting.input) :
    Follows store (Guarded.literal setting id text quiet cursor)
      (literal setting id text quiet cursor) (Inside setting store.nodes.size) := by
  apply Follows.passing (textFrom_run hcursor)
  change Follows store (literal setting id text quiet cursor) _ _
  obtain ⟨rest, hlead, hhit⟩ | ⟨-, hmiss⟩ := literal_cases setting id text quiet cursor
  · rw [hhit]
    exact succeed_follows id cursor ((Program.Passes.after hlead).liesIn hcursor)
  · rw [hmiss]
    exact failAt_follows id quiet cursor

theorem character_follows (id : OpId) (accepts : Char → Bool) (quiet : Bool) {cursor : Cursor}
    (hcursor : cursor.LiesIn setting.input) :
    Follows store (Guarded.character setting id accepts quiet cursor)
      (character setting id accepts quiet cursor) (Inside setting store.nodes.size) := by
  apply Follows.passing (textFrom_run hcursor)
  change Follows store (character setting id accepts quiet cursor) _ _
  obtain ⟨c, rest, hrest, -, hhit⟩ | ⟨-, hmiss⟩ :=
    character_cases setting id accepts quiet cursor
  · have hlead : cursor.rest = [c] ++ rest := hrest
    rw [hhit]
    exact succeed_follows id cursor ((Program.Passes.after hlead).liesIn hcursor)
  · rw [hmiss]
    exact failAt_follows id quiet cursor

/-! ## Conditions -/

/-- Frames begin among the elements matched so far, and these are nodes. -/
structure Stacks.Within (around : Stacks) (size : Nat) : Prop where
  frames : ∀ base ∈ around.frames, base ≤ around.matched.size
  matched : ∀ id ∈ around.matched, id.index < size

theorem Stacks.Within.of_le {around : Stacks} {size size' : Nat} (h : around.Within size)
    (hle : size ≤ size') : around.Within size' :=
  ⟨h.frames, fun id hid ↦ Nat.lt_of_lt_of_le (h.matched id hid) hle⟩

theorem visible_run {around : Stacks} {size : Nat} (h : around.Within size) :
    (Guarded.visible around).run.run store = (.ok around.visible, store) := by
  unfold Guarded.visible Stacks.visible
  cases hframes : around.frames with
  | nil => rfl
  | cons base outer =>
    apply elementsFrom_run
    apply h.frames
    rw [hframes]
    exact List.mem_cons_self

theorem Stacks.Within.visible {around : Stacks} {size : Nat} (h : around.Within size) :
    ∀ id ∈ around.visible, id.index < size := by
  unfold Stacks.visible
  split
  · rintro _ ⟨⟩
  · intro id hid
    exact h.matched id (Array.mem_toList_iff.mp (List.mem_of_mem_drop hid))

theorem get_follows :
    Follows store (get : Work τ (Store τ)) get fun value store' ↦ value = store ∧ store' = store :=
  ⟨rfl, rfl, rfl⟩

theorem consult_follows {hook : Symbol} {visible : List NodeId} {cursor : Cursor}
    (hsymbol : hook.index < setting.program.symbols.size)
    (hbound : hook.index < setting.predicates.size)
    (hvisible : ∀ id ∈ visible, id.index < store.nodes.size)
    (hcursor : cursor.LiesIn setting.input) :
    Follows store (Guarded.consult setting hook visible cursor)
      (consult setting hook visible cursor) fun _ store' ↦ store'.nodes = store.nodes := by
  unfold Guarded.consult consult
  rw [Array.getElem?_eq_getElem hbound]
  cases setting.predicates[hook.index] with
  | none =>
    apply Follows.passing (symbolText_run hsymbol)
    exact Follows.throw (by rintro ⟨⟩)
  | some binding =>
    apply Follows.passing (checkNodes_run hvisible)
    apply Follows.passing (textFrom_run hcursor)
    apply get_follows.bind
    rintro _ store ⟨rfl, rfl⟩
    apply (observe_follows _).bind
    intro _ store' hnodes
    cases binding.condition
        ⟨setting.program, setting.input, store.nodes, visible, cursor.offset, cursor.rest⟩ with
    | ok holds => exact Follows.pure hnodes
    | error message =>
      apply Follows.passing (symbolText_run hsymbol)
      exact Follows.throw (by rintro ⟨⟩)

theorem predicate_follows (id : OpId) {hook : Symbol} (negated : Bool) {visible : List NodeId}
    {cursor : Cursor} (hsymbol : hook.index < setting.program.symbols.size)
    (hbound : hook.index < setting.predicates.size)
    (hvisible : ∀ id ∈ visible, id.index < store.nodes.size)
    (hcursor : cursor.LiesIn setting.input) :
    Follows store (Guarded.predicate setting id hook negated visible cursor)
      (predicate setting id hook negated visible cursor) (Inside setting store.nodes.size) := by
  apply (consult_follows hsymbol hbound hvisible hcursor).bind
  intro holds store' hasked
  apply (observe_follows _).bind
  intro _ store'' hobserved
  have hsize : store.nodes.size ≤ store''.nodes.size :=
    Nat.le_of_eq (congrArg Array.size (hobserved.trans hasked)).symm
  split
  · apply (pushEmpty_follows hcursor).bind
    intro found last hends
    exact Follows.pure (hends.of_le hsize)
  · exact Follows.pure (.none hsize)

end Actions

/-! ## Operations with parts -/

section Operations

variable {τ : Type} {setting : Setting τ} {guarded plain : Evaluator τ}

/-- What an evaluation from some stacks leaves: the stacks as they were, and more nodes. -/
def Stays (setting : Setting τ) (around : Stacks) (size : Nat) (result : Option Match × Stacks)
    (store : Store τ) : Prop :=
  result.2 = around ∧ Inside setting size result.1 store

/-- The two evaluators do the same with the operations of the program at places in the input. -/
def Guards (setting : Setting τ) (guarded plain : Evaluator τ) : Prop :=
  ∀ id cursor around store, id.index < setting.program.ops.size → cursor.LiesIn setting.input →
    around.Within store.nodes.size →
      Follows store ((guarded id cursor).run around) ((plain id cursor).run around)
        (Stays setting around store.nodes.size)

theorem onStore_follows {store : Store τ} {action action' : Work τ (Option Match)} {size : Nat}
    (h : Follows store action action' (Inside setting size)) (around : Stacks) :
    Follows store ((onStore action).run around) ((onStore action').run around)
      (Stays setting around size) := by
  unfold onStore
  rw [StateT.run_lift, StateT.run_lift]
  exact h.bind fun value store' hvalue ↦ Follows.pure ⟨rfl, hvalue⟩

section Steps

variable {α β : Type} {store : Store τ} {around : Stacks} {post : β × Stacks → Store τ → Prop}

/-- An action on what is left behind comes first. -/
theorem onStore_bind {action action' : Work τ α} {mid : α → Store τ → Prop}
    {next next' : α → Run τ β} (h : Follows store action action' mid)
    (hnext : ∀ value store', mid value store' →
      Follows store' ((next value).run around) ((next' value).run around) post) :
    Follows store ((onStore action >>= next).run around) ((onStore action' >>= next').run around)
      post := by
  rw [StateT.run_bind, StateT.run_bind, onStore_run, onStore_run, bind_map_left, bind_map_left]
  exact h.bind hnext

/-- The evaluation of a part comes first. -/
theorem Guards.bind (h : Guards setting guarded plain) {id : OpId} {cursor : Cursor}
    {next next' : Option Match → Run τ β} (hid : id.index < setting.program.ops.size)
    (hcursor : cursor.LiesIn setting.input) (haround : around.Within store.nodes.size)
    (hnext : ∀ found store', Inside setting store.nodes.size found store' →
      Follows store' ((next found).run around) ((next' found).run around) post) :
    Follows store ((guarded id cursor >>= next).run around) ((plain id cursor >>= next').run around)
      post := by
  rw [StateT.run_bind, StateT.run_bind]
  apply (h id cursor around store hid hcursor haround).bind
  rintro ⟨found, around'⟩ store' ⟨hsame, hends⟩
  obtain rfl : around' = around := hsame
  exact hnext found store' hends

/-- The empty match ends the evaluation. -/
theorem emptyMatch_follows {cursor : Cursor} (hcursor : cursor.LiesIn setting.input) {size : Nat}
    (hsize : size ≤ store.nodes.size) {ending : Run τ (Option Match)}
    (hending : ending = do return some (← onStore (pushEmpty cursor))) :
    Follows store (ending.run around) (ending.run around) (Stays setting around size) := by
  rw [hending]
  apply onStore_bind (pushEmpty_follows hcursor)
  intro found store' hends
  exact Follows.pure ⟨rfl, hends.of_le hsize⟩

end Steps

/-- What the items of a sequence leave: their matches in addition to those there were. -/
structure Collects (setting : Setting τ) (around : Stacks) (size : Nat)
    (result : Option Cursor × Stacks) (store : Store τ) (elements : List NodeId) : Prop where
  around_eq : result.2 = { around with matched := around.matched ++ elements.toArray }
  grown : size ≤ store.nodes.size
  nodes : ∀ id ∈ elements, id.index < store.nodes.size
  lies : ∀ stop, result.1 = some stop → stop.LiesIn setting.input

theorem Stacks.Within.push {around : Stacks} {size : Nat} (h : around.Within size) {id : NodeId}
    (hid : id.index < size) :
    Stacks.Within { around with matched := around.matched.push id } size := by
  constructor
  · intro base hbase
    have hle := h.frames base hbase
    rw [Array.size_push]
    omega
  · intro found hfound
    rcases Array.mem_push.mp hfound with hold | rfl
    · exact h.matched found hold
    · exact hid

theorem Stacks.Within.openFrame {around : Stacks} {size : Nat} (h : around.Within size) :
    Stacks.Within { around with frames := around.matched.size :: around.frames } size :=
  ⟨List.forall_mem_cons.mpr ⟨Nat.le_refl _, h.frames⟩, h.matched⟩

theorem items_follows (h : Guards setting guarded plain) {ids : List OpId}
    (hids : ∀ id ∈ ids, id.index < setting.program.ops.size) {cursor : Cursor} {around : Stacks}
    {store : Store τ} (hcursor : cursor.LiesIn setting.input)
    (haround : around.Within store.nodes.size) :
    Follows store ((items guarded ids cursor).run around) ((items plain ids cursor).run around)
      fun result store' ↦ ∃ elements,
        Collects setting around store.nodes.size result store' elements := by
  induction ids generalizing cursor around store with
  | nil =>
    apply Follows.pure
    refine ⟨[], by simp, Nat.le_refl _, by rintro _ ⟨⟩, ?_⟩
    rintro _ ⟨⟩
    exact hcursor
  | cons id rest ih =>
    obtain ⟨hid, hrest⟩ := List.forall_mem_cons.mp hids
    apply h.bind hid hcursor haround
    intro found store' hends
    cases found with
    | none =>
      apply Follows.pure
      refine ⟨[], by simp, hends.grown, by rintro _ ⟨⟩, ?_⟩
      rintro _ ⟨⟩
    | some found =>
      obtain ⟨hnode, hafter⟩ := hends.lies found rfl
      simp only [StateT.run_bind, StateT.run_modify, pure_bind]
      apply (ih hrest hafter ((haround.of_le hends.grown).push hnode)).mono
      rintro result store'' ⟨elements, hkept, hgrown, hnodes, hlies⟩
      refine ⟨found.node :: elements, ?_, Nat.le_trans hends.grown hgrown, ?_, hlies⟩
      · rw [hkept]
        simp
      · exact List.forall_mem_cons.mpr ⟨Nat.lt_of_lt_of_le hnode hgrown, hnodes⟩

theorem sequence_follows (h : Guards setting guarded plain) {ids : List OpId}
    (hids : ∀ id ∈ ids, id.index < setting.program.ops.size) {cursor : Cursor} {around : Stacks}
    {store : Store τ} (hcursor : cursor.LiesIn setting.input)
    (haround : around.Within store.nodes.size) :
    Follows store ((Guarded.sequence guarded ids cursor).run around)
      ((sequence plain ids cursor).run around) (Stays setting around store.nodes.size) := by
  simp only [Guarded.sequence, sequence, openFrame, closeFrame, StateT.run_bind, StateT.run_get,
    StateT.run_modify, pure_bind]
  apply (items_follows h hids hcursor haround.openFrame).bind
  rintro ⟨stop, inside⟩ store' ⟨elements, hkept, hgrown, hnodes, hlies⟩
  have hbase : around.matched.size ≤ (around.matched ++ elements.toArray).size := by simp
  have helements : (around.matched ++ elements.toArray).toList.drop around.matched.size =
      elements := by simp
  have hlower : (around.matched ++ elements.toArray).take around.matched.size = around.matched := by
    simp
  obtain rfl := hkept
  simp only [onStore_run, bind_map_left, hlower]
  apply Follows.passing (elementsFrom_run hbase)
  rw [helements]
  cases stop with
  | none => exact Follows.pure ⟨rfl, .none hgrown⟩
  | some stop =>
    apply onStore_bind (pushOwner_follows .sequence cursor (hlies stop rfl) hnodes)
    intro found store'' hends
    exact Follows.pure ⟨rfl, hends.of_le hgrown⟩

theorem choice_follows (h : Guards setting guarded plain) {ids : List OpId}
    (hids : ∀ id ∈ ids, id.index < setting.program.ops.size) {cursor : Cursor} {around : Stacks}
    {store : Store τ} (hcursor : cursor.LiesIn setting.input)
    (haround : around.Within store.nodes.size) :
    Follows store ((choice setting guarded cursor ids).run around)
      ((choice setting plain cursor ids).run around)
      (Stays setting around store.nodes.size) := by
  induction ids generalizing store with
  | nil => exact Follows.pure ⟨rfl, .none (Nat.le_refl _)⟩
  | cons id rest ih =>
    obtain ⟨hid, hrest⟩ := List.forall_mem_cons.mp hids
    cases rest with
    | nil => exact h id cursor around store hid hcursor haround
    | cons next rest =>
      apply h.bind hid hcursor haround
      intro found store' hends
      cases found with
      | some found => exact Follows.pure ⟨rfl, hends⟩
      | none =>
        apply onStore_bind (observe_follows _)
        intro _ store'' hnodes
        have hgrown : store.nodes.size ≤ store''.nodes.size := by
          rw [hnodes]
          exact hends.grown
        apply (ih hrest (haround.of_le hgrown)).mono
        intro _ _ hreturns
        exact ⟨hreturns.1, hreturns.2.of_le hgrown⟩

/-- What the rounds of a repetition leave. -/
structure Rounds (setting : Setting τ) (around : Stacks) (size : Nat)
    (result : (List NodeId × Cursor) × Stacks) (store : Store τ) : Prop where
  around_eq : result.2 = around
  grown : size ≤ store.nodes.size
  nodes : ∀ id ∈ result.1.1, id.index < store.nodes.size
  lies : result.1.2.LiesIn setting.input

theorem iterations_follows (h : Guards setting guarded plain) {inner : OpId}
    (hinner : inner.index < setting.program.ops.size) (bound : Nat) {elements : List NodeId}
    {cursor : Cursor} {around : Stacks} {store : Store τ} (hcursor : cursor.LiesIn setting.input)
    (haround : around.Within store.nodes.size)
    (helements : ∀ id ∈ elements, id.index < store.nodes.size) :
    Follows store ((iterations guarded inner bound elements cursor).run around)
      ((iterations plain inner bound elements cursor).run around)
      (Rounds setting around store.nodes.size) := by
  induction bound generalizing elements cursor store with
  | zero => exact Follows.pure ⟨rfl, Nat.le_refl _, helements, hcursor⟩
  | succ bound ih =>
    apply h.bind hinner hcursor haround
    intro found store' hends
    have hold : ∀ id ∈ elements, id.index < store'.nodes.size := fun id hid ↦
      Nat.lt_of_lt_of_le (helements id hid) hends.grown
    cases found with
    | none => exact Follows.pure ⟨rfl, hends.grown, hold, hcursor⟩
    | some found =>
      obtain ⟨hnode, hafter⟩ := hends.lies found rfl
      have hall : ∀ id ∈ elements ++ [found.node], id.index < store'.nodes.size :=
        List.forall_mem_append.mpr ⟨hold, List.forall_mem_singleton.mpr hnode⟩
      dsimp only
      split
      · apply (ih hafter (haround.of_le hends.grown) hall).mono
        rintro result store'' ⟨hkept, hgrown, hnodes, hlies⟩
        exact ⟨hkept, Nat.le_trans hends.grown hgrown, hnodes, hlies⟩
      · exact Follows.pure ⟨rfl, hends.grown, hall, hafter⟩

theorem repetition_follows (h : Guards setting guarded plain) {inner : OpId}
    (hinner : inner.index < setting.program.ops.size) (least : Nat) {cursor : Cursor}
    {around : Stacks} {store : Store τ} (hcursor : cursor.LiesIn setting.input)
    (haround : around.Within store.nodes.size) :
    Follows store ((Guarded.repetition guarded inner least cursor).run around)
      ((repetition plain inner least cursor).run around)
      (Stays setting around store.nodes.size) := by
  simp only [Guarded.repetition, repetition, StateT.run_bind]
  apply (iterations_follows h hinner _ hcursor haround (by rintro _ ⟨⟩)).bind
  rintro ⟨⟨elements, stop⟩, around'⟩ store' ⟨hsame, hgrown, hnodes, hlies⟩
  obtain rfl : around' = around := hsame
  dsimp only
  split
  · exact Follows.pure ⟨rfl, .none hgrown⟩
  · apply onStore_bind (pushOwner_follows .repetition cursor hlies hnodes)
    intro found store'' hends
    exact Follows.pure ⟨rfl, hends.of_le hgrown⟩

theorem call_follows (h : Guards setting guarded plain)
    (hbodies : ∀ entry ∈ setting.program.rules, entry.body.index < setting.program.ops.size)
    {rule : RuleId} (hrule : rule.index < setting.program.rules.size) {cursor : Cursor}
    {around : Stacks} {store : Store τ} (hcursor : cursor.LiesIn setting.input)
    (haround : around.Within store.nodes.size) :
    Follows store ((Guarded.call setting guarded rule cursor).run around)
      ((call setting plain rule cursor).run around) (Stays setting around store.nodes.size) := by
  have hbody := hbodies _ (Array.getElem_mem hrule)
  unfold Guarded.call call
  rw [Array.getElem?_eq_getElem hrule]
  generalize setting.program.rules[rule.index] = entry at hbody
  apply onStore_bind (observe_follows _)
  intro _ store' hcalled
  rw [← hcalled] at haround ⊢
  simp only [openFrame, closeFrame, StateT.run_bind, StateT.run_modify, pure_bind]
  apply (h entry.body cursor _ store' hbody hcursor haround.openFrame).bind
  rintro ⟨found, inside⟩ store'' ⟨hsame, hends⟩
  obtain rfl := hsame
  cases found with
  | none =>
    apply onStore_bind (observe_follows _)
    intro _ last hnodes
    apply Follows.pure
    refine ⟨rfl, .none ?_⟩
    rw [hnodes]
    exact hends.grown
  | some found =>
    obtain ⟨hnode, hafter⟩ := hends.lies found rfl
    apply onStore_bind (changeNode_follows hnode _)
    intro _ marked hsize
    apply onStore_bind (observe_follows _)
    intro _ last hnodes
    have hlast : last.nodes.size = store''.nodes.size := by rw [hnodes, hsize]
    have hgrown := hends.grown
    apply Follows.pure
    exact ⟨rfl, .some (by omega) (by omega) hafter⟩

/-- The numbers in an operation lead somewhere, and those of its condition to what is bound. -/
structure Sees (setting : Setting τ) (op : Op) : Prop where
  children : ∀ child ∈ op.children, child.index < setting.program.ops.size
  calls : ∀ rule ∈ op.rule?, rule.index < setting.program.rules.size
  symbols : ∀ symbol ∈ op.symbol?, symbol.index < setting.program.symbols.size
  bound : setting.program.symbols.size ≤ setting.predicates.size

/-- Every operation follows when its parts do. -/
theorem step_follows (h : Guards setting guarded plain)
    (hbodies : ∀ entry ∈ setting.program.rules, entry.body.index < setting.program.ops.size)
    (id : OpId) {op : Op} (hop : Sees setting op) {cursor : Cursor} {around : Stacks}
    {store : Store τ} (hcursor : cursor.LiesIn setting.input)
    (haround : around.Within store.nodes.size) :
    Follows store ((Guarded.step setting guarded id op cursor).run around)
      ((step setting plain id op cursor).run around) (Stays setting around store.nodes.size) := by
  have hinner {inner : OpId} (hpart : op.children = [inner]) :
      inner.index < setting.program.ops.size := hop.children inner (by simp [hpart])
  cases op with
  | terminal text => exact onStore_follows (literal_follows id text.toList _ hcursor) around
  | charClass cls => exact onStore_follows (character_follows id cls.contains _ hcursor) around
  | anyChar => exact onStore_follows (character_follows id _ _ hcursor) around
  | sequence ids => exact sequence_follows h hop.children hcursor haround
  | choice ids => exact choice_follows h hop.children hcursor haround
  | repetition inner least => exact repetition_follows h (hinner rfl) least hcursor haround
  | optional inner =>
    apply h.bind (hinner rfl) hcursor haround
    intro found store' hends
    cases found with
    | some found => exact Follows.pure ⟨rfl, hends⟩
    | none => exact emptyMatch_follows hcursor hends.grown rfl
  | lookahead inner =>
    apply onStore_bind arenaSize_follows
    rintro mark _ ⟨rfl, rfl⟩
    apply h.bind (hinner rfl) hcursor haround
    intro found store' hends
    cases found with
    | none => exact Follows.pure ⟨rfl, .none hends.grown⟩
    | some found =>
      apply onStore_bind (truncate_follows _)
      intro _ store'' hsize
      have hgrown := hends.grown
      exact emptyMatch_follows hcursor (by omega) rfl
  | negativeLookahead inner =>
    have hquiet : Stacks.Within { around with suppressed := around.suppressed + 1 }
        store.nodes.size := ⟨haround.frames, haround.matched⟩
    simp only [Guarded.step, step, StateT.run_bind, StateT.run_modify, pure_bind]
    apply (h inner cursor _ store (hinner rfl) hcursor hquiet).bind
    rintro ⟨found, inside⟩ store' ⟨hsame, hends⟩
    obtain rfl := hsame
    cases found with
    | some found => exact Follows.pure ⟨rfl, .none hends.grown⟩
    | none => exact emptyMatch_follows hcursor hends.grown rfl
  | predicate hook negated =>
    have hsymbol := hop.symbols hook rfl
    have hbound := Nat.lt_of_lt_of_le hsymbol hop.bound
    simp only [Guarded.step, step, StateT.run_bind, StateT.run_get, pure_bind, onStore_run,
      bind_map_left]
    apply Follows.passing (visible_run haround)
    rw [← onStore_run, ← onStore_run]
    exact onStore_follows (predicate_follows id negated hsymbol hbound haround.visible hcursor) _
  | label name inner =>
    apply h.bind (hinner rfl) hcursor haround
    intro found store' hends
    cases found with
    | none => exact Follows.pure ⟨rfl, .none hends.grown⟩
    | some found =>
      obtain ⟨hnode, hafter⟩ := hends.lies found rfl
      apply onStore_bind (changeNode_follows hnode _)
      intro _ store'' hsize
      have hgrown := hends.grown
      exact Follows.pure ⟨rfl, .some (by omega) (by omega) hafter⟩
  | call rule => exact call_follows h hbodies (hop.calls rule rfl) hcursor haround

end Operations

/-! ## Whole runs -/

section Runs

variable {τ : Type} {setting : Setting τ}

theorem eval_follows (hprogram : setting.program.WellFormed)
    (hbound : setting.program.symbols.size ≤ setting.predicates.size) (levels : Nat) :
    Guards setting (Guarded.eval setting levels) (eval setting levels) := by
  induction levels with
  | zero =>
    intro id cursor around store _ _ _
    apply onStore_bind spendFuel_follows
    intro _ store' _
    exact Follows.throw (by rintro ⟨⟩)
  | succ levels ih =>
    intro id cursor around store hid hcursor haround
    have hop : setting.program.ops[id.index]? = some setting.program.ops[id.index] :=
      Array.getElem?_eq_getElem hid
    have hmem := Array.getElem_mem hid
    have hsees : Sees setting setting.program.ops[id.index] :=
      ⟨fun child hchild ↦ Nat.lt_trans (hprogram.children hop child hchild) hid,
        hprogram.calls _ hmem, hprogram.symbols _ hmem, hbound⟩
    generalize setting.program.ops[id.index] = op at hop hsees
    apply onStore_bind spendFuel_follows
    intro _ store' hnodes
    rw [← hnodes] at haround ⊢
    simp only [StateT.run_bind, StateT.run_get, pure_bind]
    split
    · exact Follows.throw (by rintro ⟨⟩)
    rw [hop]
    have hdeeper : Stacks.Within { around with depth := around.depth + 1 } store'.nodes.size :=
      ⟨haround.frames, haround.matched⟩
    simp only [StateT.run_bind, StateT.run_modify, pure_bind, onStore_run, bind_map_left]
    apply arenaSize_follows.bind
    rintro mark _ ⟨rfl, rfl⟩
    apply (step_follows ih hprogram.bodies id hsees hcursor hdeeper).bind
    rintro ⟨found, inside⟩ left ⟨hsame, hends⟩
    obtain rfl := hsame
    cases found with
    | some found => exact Follows.pure ⟨rfl, hends⟩
    | none =>
      apply onStore_bind (truncate_follows _)
      intro _ last hsize
      have hgrown := hends.grown
      exact Follows.pure ⟨rfl, .none (by omega)⟩

theorem matchRule_follows (hprogram : setting.program.WellFormed)
    (hbound : setting.program.symbols.size ≤ setting.predicates.size) {rule : RuleId}
    (hrule : rule.index < setting.program.rules.size) (consumeAll : Bool) {cursor : Cursor}
    (hcursor : cursor.LiesIn setting.input) (store : Store τ) :
    Follows store ((Guarded.matchRule setting rule consumeAll cursor).run .empty)
      ((matchRule setting rule consumeAll cursor).run .empty) fun _ _ ↦ True := by
  have hempty : Stacks.Within .empty store.nodes.size := ⟨by rintro _ ⟨⟩, by simp [Stacks.empty]⟩
  have heval := eval_follows hprogram hbound setting.depthLimit
  simp only [Guarded.matchRule, matchRule, StateT.run_bind]
  apply (call_follows heval hprogram.bodies hrule hcursor hempty).bind
  rintro ⟨found, inside⟩ left _
  cases found with
  | none => exact Follows.pure trivial
  | some found =>
    dsimp only
    split
    · apply onStore_bind (recordFailure_follows _ _)
      intro _ last _
      exact Follows.pure trivial
    · exact Follows.pure trivial

/-- On a well-formed program, from a place in the input, no check fails: the run with checks is the
run without them. -/
theorem guarded_run (hprogram : setting.program.WellFormed)
    (hbound : setting.program.symbols.size ≤ setting.predicates.size) (fuel : Option Nat)
    (trace : τ) {rule : RuleId} (hrule : rule.index < setting.program.rules.size)
    (consumeAll : Bool) {cursor : Cursor} (hcursor : cursor.LiesIn setting.input) :
    Guarded.run setting fuel trace rule consumeAll cursor =
        run setting fuel trace rule consumeAll cursor ∧
      (run setting fuel trace rule consumeAll cursor).1 ≠ .error .danglingReference := by
  obtain ⟨hsame, hends⟩ := matchRule_follows hprogram hbound hrule consumeAll hcursor
    ⟨#[], .empty, fuel, trace⟩
  unfold Guarded.run run
  rw [hsame]
  refine ⟨rfl, ?_⟩
  cases hrun : ((matchRule setting rule consumeAll cursor).run .empty).run.run
      ⟨#[], .empty, fuel, trace⟩ with
  | mk result store =>
    rw [hrun] at hends
    cases result with
    | ok value => rintro ⟨⟩
    | error error =>
      rintro ⟨⟩
      exact hends rfl

end Runs

end PegKit.Machine
