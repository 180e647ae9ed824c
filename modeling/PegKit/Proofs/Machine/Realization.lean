import PegKit.Proofs.Machine.Ensures
import PegKit.Proofs.Machine.Scoped
import PegKit.Proofs.Program.Matching

/-!
# Runs realize matches

Every evaluation that ends without an error yields what `Program.Yields` says, and the nodes that it
adds are those of the tree, written after the nodes there were. A failed one adds none.

What predicates see, and what the observer makes of their being asked, depends on where the run was
started. A `Watch` says what is known of both, and any evaluation keeps it.
-/

namespace PegKit.Machine

open ParseTree (rootPlaces)
open Program (Decision Task Yield Yields emptyYield repetitionYield)

variable {τ : Type}

/-- What is known of the predicates that a run asks and of its trace. -/
structure Watch (setting : Setting τ) where
  /-- How the elements that are seen among the nodes stand for trees. -/
  sees : Arena → List NodeId → List ParseTree → Prop
  /-- What is known of the trace. -/
  keeps : τ → Prop
  decides : Decision
  /-- The elements of a sequence are seen in place of those around it. -/
  opened : ∀ {nodes ids trees}, sees nodes ids trees →
    ∀ elements, sees (nodes.write elements) (rootPlaces nodes.size elements) elements
  /-- Nodes that are added hide nothing. -/
  grown : ∀ {nodes ids trees}, sees nodes ids trees → ∀ more, sees (nodes.write more) ids trees
  observed : ∀ {trace event}, keeps trace → (∀ key env, event ≠ .ask key env) →
    keeps (setting.observe trace event)
  asked : ∀ {trace nodes ids trees}, keeps trace → sees nodes ids trees →
    ∀ key position rest, keeps
      (setting.observe trace
        (.ask key ⟨setting.program, setting.input, nodes, ids, position, rest⟩))
  decided : ∀ {nodes ids trees}, sees nodes ids trees →
    ∀ {hook : Symbol} {binding cursor holds},
      setting.predicates[hook.index]?.join = some binding →
        binding.condition
            ⟨setting.program, setting.input, nodes, ids, cursor.offset, cursor.rest⟩ =
          .ok holds →
        decides hook trees cursor holds

/-- What an operation that was given `nodes` leaves: the root and the nodes of the tree that it
yields, or nodes to be dropped when it fails. -/
def Leaves (yields : Yield → Prop) (nodes : Arena) : Option Match → Arena → Prop
  | none, nodes' => yields none ∧ ∃ dropped, nodes' = nodes.write dropped
  | some found, nodes' =>
    ∃ tree, yields (some (tree, found.after)) ∧ found.node = tree.rootPlace nodes.size ∧
      nodes' = nodes.write [tree]

namespace Leaves

variable {yields yields' : Yield → Prop} {nodes nodes' : Arena} {found : Option Match}

theorem mono (h : Leaves yields nodes found nodes')
    (hyields : ∀ yield, yields yield → yields' yield) :
    Leaves yields' nodes found nodes' := by
  cases found with
  | none => exact ⟨hyields _ h.1, h.2⟩
  | some found =>
    obtain ⟨tree, htree, hplace⟩ := h
    exact ⟨tree, hyields _ htree, hplace⟩

end Leaves

/-- An evaluation that also drops the nodes of a failure. -/
def LeavesClean (yields : Yield → Prop) (nodes : Arena) (found : Option Match) (nodes' : Arena) :
    Prop :=
  Leaves yields nodes found nodes' ∧ (found = none → nodes' = nodes)

section Operations

variable {setting : Setting τ} (watch : Watch setting)

/-- What operations yield under the predicates of the run. -/
abbrev Watch.Yields (task : Task) (siblings : List ParseTree) (cursor : Cursor) (yield : Yield) :
    Prop :=
  Program.Yields setting.program watch.decides task siblings cursor yield

/-- What an evaluation of operations has to do. -/
def Watch.Realizes (eval : Scoped.Evaluator τ) : Prop :=
  ∀ id scope cursor siblings nodes, watch.sees nodes scope.siblings siblings →
    Ensures watch.keeps nodes (eval id scope cursor)
      (LeavesClean (watch.Yields (.op id) siblings cursor) nodes)

variable {watch} {nodes : Arena} {yields : Yield → Prop} {siblings : List ParseTree}

theorem observe_watched {event : Event} (h : ∀ key env, event ≠ .ask key env) :
    Ensures watch.keeps nodes (observe setting event) fun _ nodes' ↦ nodes' = nodes :=
  observe_ensures setting event fun _ htrace ↦ watch.observed htrace h

/-! ## Matches without parts -/

theorem pushEmpty_ensures (cursor : Cursor) :
    Ensures watch.keeps nodes (pushEmpty cursor : Work τ Match)
      fun found nodes' ↦ Leaves (· = emptyYield cursor) nodes (some found) nodes' := by
  refine Ensures.bind (push_ensures _) ?_
  rintro _ _ ⟨rfl, rfl⟩
  refine Ensures.pure ⟨_, rfl, ?_, Arena.push_bare nodes _ _⟩
  simp [ParseTree.rootPlace, ParseTree.spanning, ParseTree.size, ParseTree.sizeOfList]

/-- The empty match as the result of an operation. -/
theorem emptyMatch_ensures {cursor : Cursor} (h : yields (emptyYield cursor)) :
    Ensures watch.keeps nodes (do return some (← pushEmpty cursor) : Work τ (Option Match))
      (Leaves yields nodes) := by
  refine Ensures.bind (pushEmpty_ensures cursor) fun found nodes' hfound ↦ Ensures.pure ?_
  exact hfound.mono fun _ hyield ↦ hyield ▸ h

theorem succeed_ensures (id : OpId) {start stop : Cursor}
    (h : yields (some (.spanning .terminal start stop [], stop))) :
    Ensures watch.keeps nodes (succeed setting id start stop) (Leaves yields nodes) := by
  refine Ensures.andThen (observe_watched (by rintro _ _ ⟨⟩)) fun _ ↦ ?_
  refine Ensures.bind (push_ensures _) ?_
  rintro _ _ ⟨rfl, rfl⟩
  refine Ensures.pure ⟨_, h, ?_, Arena.push_bare nodes _ _⟩
  simp [ParseTree.rootPlace, ParseTree.spanning, ParseTree.size, ParseTree.sizeOfList]

theorem failAt_ensures (id : OpId) (quiet : Bool) (cursor : Cursor) (h : yields none) :
    Ensures watch.keeps nodes (failAt setting id quiet cursor) (Leaves yields nodes) := by
  refine Ensures.andThen (observe_watched (by rintro _ _ ⟨⟩)) fun _ ↦ ?_
  have hnone : Leaves yields nodes none nodes := ⟨h, [], by simp⟩
  cases quiet with
  | true => exact Ensures.pure hnone
  | false => exact Ensures.andThen (recordFailure_ensures _ _) fun _ ↦ Ensures.pure hnone

theorem literal_ensures {id : OpId} {text : String}
    (hop : setting.program.ops[id.index]? = some (.terminal text)) (quiet : Bool)
    (cursor : Cursor) :
    Ensures watch.keeps nodes (literal setting id text.toList quiet cursor)
      (Leaves (watch.Yields (.op id) siblings cursor) nodes) := by
  obtain ⟨rest, hlead, hhit⟩ | ⟨hother, hmiss⟩ :=
    literal_cases setting id text.toList quiet cursor
  · rw [hhit]
    exact succeed_ensures id (Yields.terminalHit hop hlead)
  · rw [hmiss]
    exact failAt_ensures id quiet cursor (Yields.terminalMiss hop hother)

theorem classCharacter_ensures {id : OpId} {cls : CharClass}
    (hop : setting.program.ops[id.index]? = some (.charClass cls)) (quiet : Bool)
    (cursor : Cursor) :
    Ensures watch.keeps nodes (character setting id cls.contains quiet cursor)
      (Leaves (watch.Yields (.op id) siblings cursor) nodes) := by
  obtain ⟨c, rest, hlead, haccepted, hhit⟩ | ⟨hother, hmiss⟩ :=
    character_cases setting id cls.contains quiet cursor
  · rw [hhit]
    exact succeed_ensures id (Yields.classHit hop hlead haccepted)
  · rw [hmiss]
    exact failAt_ensures id quiet cursor (Yields.classMiss hop hother)

theorem anyCharacter_ensures {id : OpId}
    (hop : setting.program.ops[id.index]? = some .anyChar) (quiet : Bool) (cursor : Cursor) :
    Ensures watch.keeps nodes (character setting id (fun _ ↦ true) quiet cursor)
      (Leaves (watch.Yields (.op id) siblings cursor) nodes) := by
  unfold character
  cases hrest : cursor.rest with
  | nil => exact failAt_ensures id quiet cursor (Yields.anyMiss hop hrest)
  | cons c rest => exact succeed_ensures id (Yields.anyHit hop hrest)

theorem get_ensures :
    Ensures watch.keeps nodes (get : Work τ (Store τ))
      fun store nodes' ↦ store.nodes = nodes ∧ nodes' = nodes := by
  intro store hnodes htrace
  refine ⟨htrace, ?_⟩
  rintro _ ⟨⟩
  exact ⟨hnodes, hnodes⟩

theorem consult_ensures {ids : List NodeId} (hsees : watch.sees nodes ids siblings)
    (hook : Symbol) (cursor : Cursor) :
    Ensures watch.keeps nodes (consult setting hook ids cursor)
      fun holds nodes' ↦ nodes' = nodes ∧ watch.decides hook siblings cursor holds := by
  unfold consult
  cases hbinding : setting.predicates[hook.index]?.join with
  | none => exact Ensures.throw
  | some binding =>
    refine Ensures.bind get_ensures ?_
    rintro store nodes' ⟨hstore, hsame⟩
    rw [hsame, hstore]
    refine Ensures.andThen
      (observe_ensures setting _ fun _ htrace ↦ watch.asked htrace hsees _ _ _) fun _ ↦ ?_
    cases hcondition : binding.condition
        ⟨setting.program, setting.input, nodes, ids, cursor.offset, cursor.rest⟩ with
    | ok holds => exact Ensures.pure ⟨rfl, watch.decided hsees hbinding hcondition⟩
    | error message => exact Ensures.throw

theorem predicate_ensures {id : OpId} {hook : Symbol} {negated : Bool}
    (hop : setting.program.ops[id.index]? = some (.predicate hook negated)) {ids : List NodeId}
    (hsees : watch.sees nodes ids siblings) (cursor : Cursor) :
    Ensures watch.keeps nodes (predicate setting id hook negated ids cursor)
      (Leaves (watch.Yields (.op id) siblings cursor) nodes) := by
  refine Ensures.bind (consult_ensures hsees hook cursor) ?_
  rintro holds nodes' ⟨hsame, hdecided⟩
  rw [hsame]
  have hyields := Yields.predicate hop hdecided
  refine Ensures.andThen (observe_watched (by rintro _ _ ⟨⟩)) fun _ ↦ ?_
  by_cases hpassed : (holds != negated) = true
  · simp only [hpassed, if_true] at hyields ⊢
    exact emptyMatch_ensures hyields
  · simp only [hpassed] at hyields ⊢
    exact Ensures.pure ⟨hyields, [], by simp⟩

/-! ## Operations with parts -/

/-- The owner of trees at the end is the root of a tree that takes their place. -/
theorem adopt_push (nodes : Arena) (kind : NodeKind) (start stop : Cursor)
    (trees : List ParseTree) :
    (adopt (nodes.write trees) ⟨(nodes.write trees).size⟩ (rootPlaces nodes.size trees)).push
        { Node.bare kind ⟨start.offset, stop.offset⟩ with
          elements := rootPlaces nodes.size trees } =
      nodes.write [.spanning kind start stop trees] := by
  have hadopt (arena : Arena) (id : NodeId) (ids : List NodeId) :
      (adopt arena id ids).toList = ids.foldl (fun nodes element ↦
        nodes.modify element.index fun node ↦ { node with parent := some id }) arena.toList := by
    unfold adopt
    induction ids generalizing arena with
    | nil => rfl
    | cons first rest ih => rw [List.foldl_cons, ih, Array.toList_modify, List.foldl_cons]
  have howner := ParseTree.foldl_modify_owner nodes.toList [] nodes.size (by simp) none
    (some ⟨(nodes.write trees).size⟩) trees
  apply Array.toList_inj.mp
  rw [Array.toList_push, hadopt, Arena.toList_write, Arena.toList_write]
  simp only [List.append_nil] at howner
  rw [howner]
  simp [ParseTree.nodesOfList, ParseTree.nodes, ParseTree.spanning, Node.bare]

theorem pushOwner_ensures (kind : NodeKind) (start stop : Cursor) (trees : List ParseTree) :
    Ensures watch.keeps (nodes.write trees)
      (pushOwner kind start stop (rootPlaces nodes.size trees) : Work τ Match)
      fun found nodes' ↦
        Leaves (· = some (.spanning kind start stop trees, stop)) nodes (some found) nodes' := by
  have hadopt : Ensures watch.keeps (nodes.write trees)
      (modify fun store ↦ { store with
        nodes := adopt store.nodes ⟨store.nodes.size⟩ (rootPlaces nodes.size trees) } :
        Work τ Unit)
      fun _ nodes' ↦ nodes' =
        adopt (nodes.write trees) ⟨(nodes.write trees).size⟩ (rootPlaces nodes.size trees) :=
    Ensures.modify _ (fun _ ↦ rfl) fun store hnodes ↦ by rw [hnodes]
  have hsize (arena : Arena) (id : NodeId) (ids : List NodeId) :
      (adopt arena id ids).size = arena.size := by
    unfold adopt
    induction ids generalizing arena with
    | nil => rfl
    | cons first rest ih => rw [List.foldl_cons, ih, Array.size_modify]
  refine Ensures.bind hadopt fun _ nodes' hnodes ↦ Ensures.bind (push_ensures _) ?_
  rintro _ _ ⟨rfl, rfl⟩
  refine Ensures.pure ⟨_, rfl, ?_, ?_⟩
  · rw [hnodes, hsize, Arena.size_write]
    simp [ParseTree.rootPlace, ParseTree.spanning, ParseTree.size]
  · rw [hnodes]
    exact adopt_push nodes kind start stop trees

/-- An owner of the trees at the end as the result of an operation. -/
theorem owner_ensures {kind : NodeKind} {start stop : Cursor} {trees : List ParseTree}
    (h : yields (some (.spanning kind start stop trees, stop))) :
    Ensures watch.keeps (nodes.write trees)
      (do return some (← pushOwner kind start stop (rootPlaces nodes.size trees)) :
        Work τ (Option Match))
      (Leaves yields nodes) := by
  refine Ensures.bind (pushOwner_ensures kind start stop trees) fun found nodes' hfound ↦
    Ensures.pure ?_
  exact hfound.mono fun _ hyield ↦ hyield ▸ h

section Parts

variable {eval : Scoped.Evaluator τ} (heval : watch.Realizes eval)

include heval

/-- Items of a sequence after those that yielded `elements`. -/
theorem items_ensures {ids : List NodeId} (hsees : watch.sees nodes ids siblings)
    (quiet : Bool) (start : Cursor) (rest : List OpId) (elements : List ParseTree)
    (cursor : Cursor) :
    Ensures watch.keeps (nodes.write elements)
      (Scoped.items eval quiet rest (rootPlaces nodes.size elements) cursor)
      fun result nodes' ↦ ∃ trees, result.1 = rootPlaces nodes.size trees ∧
        nodes' = nodes.write trees ∧
          watch.Yields (.items rest start) elements cursor
            (result.2.map fun stop ↦ (.spanning .sequence start stop trees, stop)) := by
  induction rest generalizing elements cursor with
  | nil => exact Ensures.pure ⟨elements, rfl, rfl, Yields.itemsDone⟩
  | cons item rest ih =>
    refine Ensures.bind (heval item ⟨rootPlaces nodes.size elements, quiet⟩ cursor elements _
      (watch.opened hsees elements)) fun found nodes' hfound ↦ ?_
    cases found with
    | none =>
      refine Ensures.pure ⟨elements, rfl, hfound.2 rfl, ?_⟩
      exact Yields.itemsFail hfound.1.1
    | some found =>
      obtain ⟨⟨tree, htree, hplace, hnodes⟩, _⟩ := hfound
      have hrest := ih (elements ++ [tree]) found.after
      have hplaces : rootPlaces nodes.size (elements ++ [tree]) =
          rootPlaces nodes.size elements ++ [found.node] := by
        rw [hplace]
        simp [rootPlaces]
      rw [hplaces, ← Arena.write_write, ← hnodes] at hrest
      refine hrest.mono ?_
      rintro result nodes'' ⟨trees, hids, hwritten, hyields⟩
      exact ⟨trees, hids, hwritten, Yields.itemsNext htree hyields⟩

theorem sequence_ensures {id : OpId} {rest : List OpId}
    (hop : setting.program.ops[id.index]? = some (.sequence rest)) {ids : List NodeId}
    (hsees : watch.sees nodes ids siblings) (quiet : Bool) (cursor : Cursor) :
    Ensures watch.keeps nodes (Scoped.sequence eval quiet rest cursor)
      (Leaves (watch.Yields (.op id) siblings cursor) nodes) := by
  have hitems := items_ensures heval hsees quiet cursor rest [] cursor
  rw [Arena.write_nil] at hitems
  refine Ensures.bind hitems ?_
  rintro ⟨elements, stop⟩ nodes' ⟨trees, rfl, rfl, hyields⟩
  cases stop with
  | none => exact Ensures.pure ⟨Yields.sequence hop hyields, trees, rfl⟩
  | some stop => exact owner_ensures (Yields.sequence hop hyields)

/-- The alternatives that are left. -/
theorem alternatives_ensures {ids : List NodeId} (hsees : watch.sees nodes ids siblings)
    (quiet : Bool) (rest : List OpId) (cursor : Cursor) :
    Ensures watch.keeps nodes (Scoped.choice setting eval ⟨ids, quiet⟩ cursor rest)
      (Leaves (watch.Yields (.alternatives rest) siblings cursor) nodes) := by
  induction rest with
  | nil => exact Ensures.pure ⟨Yields.alternativesNone, [], by simp⟩
  | cons alternative rest ih =>
    have hfirst := heval alternative ⟨ids, quiet⟩ cursor siblings nodes hsees
    cases rest with
    | nil =>
      refine hfirst.mono fun found nodes' hfound ↦ ?_
      cases found with
      | none => exact ⟨Yields.alternativesNext hfound.1.1 Yields.alternativesNone, hfound.1.2⟩
      | some found =>
        obtain ⟨tree, htree, hplace⟩ := hfound.1
        exact ⟨tree, Yields.alternativesHit htree, hplace⟩
    | cons next rest =>
      refine Ensures.bind hfirst fun found nodes' hfound ↦ ?_
      cases found with
      | none =>
        rw [hfound.2 rfl]
        refine Ensures.andThen (observe_watched (by rintro _ _ ⟨⟩)) fun _ ↦ ?_
        exact ih.mono fun _ _ h ↦ h.mono fun _ hyields ↦
          Yields.alternativesNext hfound.1.1 hyields
      | some found =>
        obtain ⟨tree, htree, hplace⟩ := hfound.1
        exact Ensures.pure ⟨tree, Yields.alternativesHit htree, hplace⟩

/-- A repetition after the matches `found`. There are fewer characters left than `bound`, and every
match but the last takes one, so the bound is never used up. -/
theorem iterations_ensures {ids : List NodeId} (hsees : watch.sees nodes ids siblings)
    (quiet : Bool) (inner : OpId) (least : Nat) (start : Cursor) (bound : Nat)
    (found : List ParseTree) (cursor : Cursor) (hbound : cursor.rest.length < bound) :
    Ensures watch.keeps (nodes.write found)
      (Scoped.iterations eval inner ⟨ids, quiet⟩ bound (rootPlaces nodes.size found) cursor)
      fun result nodes' ↦ ∃ trees, result.1 = rootPlaces nodes.size trees ∧
        nodes' = nodes.write trees ∧
          watch.Yields (.iterations inner least start found) siblings cursor
            (repetitionYield least start trees result.2) := by
  induction bound generalizing found cursor with
  | zero => omega
  | succ bound ih =>
    refine Ensures.bind (heval inner ⟨ids, quiet⟩ cursor siblings _
      (watch.grown hsees found)) fun next nodes' hnext ↦ ?_
    cases next with
    | none => exact Ensures.pure ⟨found, rfl, hnext.2 rfl, Yields.iterationsStop hnext.1.1⟩
    | some next =>
      obtain ⟨⟨tree, htree, hplace, hnodes⟩, _⟩ := hnext
      have hplaces : rootPlaces nodes.size found ++ [next.node] =
          rootPlaces nodes.size (found ++ [tree]) := by
        rw [hplace]
        simp [rootPlaces]
      rw [Arena.write_write] at hnodes
      by_cases hmoved : cursor.offset < next.after.offset
      · have hfewer := htree.passes.length_lt hmoved
        have hrest := ih (found ++ [tree]) next.after (by omega)
        simp only [hmoved, if_true, hplaces, hnodes]
        refine hrest.mono ?_
        rintro result nodes'' ⟨trees, hids, hwritten, hyields⟩
        exact ⟨trees, hids, hwritten, Yields.iterationsNext htree hmoved hyields⟩
      · simp only [hmoved, if_false]
        exact Ensures.pure ⟨found ++ [tree], hplaces, hnodes, Yields.iterationsStay htree hmoved⟩

theorem repetition_ensures {id inner : OpId} {least : Nat}
    (hop : setting.program.ops[id.index]? = some (.repetition inner least)) {ids : List NodeId}
    (hsees : watch.sees nodes ids siblings) (quiet : Bool) (cursor : Cursor) :
    Ensures watch.keeps nodes (Scoped.repetition eval inner least ⟨ids, quiet⟩ cursor)
      (Leaves (watch.Yields (.op id) siblings cursor) nodes) := by
  have hiterations := iterations_ensures heval hsees quiet inner least cursor
    (cursor.rest.length + 1) [] cursor (Nat.lt_succ_self _)
  rw [Arena.write_nil] at hiterations
  refine Ensures.bind hiterations ?_
  rintro ⟨elements, stop⟩ nodes' ⟨trees, rfl, rfl, hyields⟩
  have hwhole := Yields.repetition hop hyields
  simp only [repetitionYield, ParseTree.length_rootPlaces] at hwhole ⊢
  by_cases hfew : trees.length < least
  · simp only [hfew, if_true] at hwhole ⊢
    exact Ensures.pure ⟨hwhole, trees, rfl⟩
  · simp only [hfew, if_false] at hwhole ⊢
    exact owner_ensures hwhole

theorem call_ensures {ids : List NodeId} (hsees : watch.sees nodes ids siblings) (rule : RuleId)
    (quiet : Bool) (cursor : Cursor) :
    Ensures watch.keeps nodes (Scoped.call setting eval rule quiet cursor)
      (Leaves (watch.Yields (.rule rule) siblings cursor) nodes) := by
  unfold Scoped.call
  cases hentry : setting.program.rules[rule.index]? with
  | none => exact Ensures.throw
  | some entry =>
    refine Ensures.andThen (observe_watched (by rintro _ _ ⟨⟩)) fun _ ↦ ?_
    have hempty : watch.sees nodes [] [] := by
      simpa [rootPlaces] using watch.opened hsees []
    refine Ensures.bind (heval entry.body ⟨[], quiet⟩ cursor [] nodes hempty) ?_
    rintro found nodes' ⟨hfound, hclean⟩
    cases found with
    | none =>
      refine Ensures.andThen (observe_watched (by rintro _ _ ⟨⟩)) fun _ ↦ ?_
      exact Ensures.pure ⟨Yields.rule hentry hfound.1, hfound.2⟩
    | some found =>
      obtain ⟨tree, htree, hplace, rfl⟩ := hfound
      refine Ensures.bind (changeNode_ensures _ _) ?_
      rintro _ _ rfl
      rw [hplace, Arena.modify_rule]
      refine Ensures.andThen (observe_watched (by rintro _ _ ⟨⟩)) fun _ ↦ ?_
      refine Ensures.pure ⟨tree.withRule rule, Yields.rule hentry htree, ?_, rfl⟩
      rw [hplace, ParseTree.rootPlace, ParseTree.rootPlace, ParseTree.size_withRule]

/-- Every operation yields what it should when its parts do. -/
theorem step_ensures {id : OpId} {op : Op} (hop : setting.program.ops[id.index]? = some op)
    {scope : Scope} (hsees : watch.sees nodes scope.siblings siblings) (cursor : Cursor) :
    Ensures watch.keeps nodes (Scoped.step setting eval id op scope cursor)
      (Leaves (watch.Yields (.op id) siblings cursor) nodes) := by
  cases op with
  | terminal text => exact literal_ensures hop scope.quiet cursor
  | charClass cls => exact classCharacter_ensures hop scope.quiet cursor
  | anyChar => exact anyCharacter_ensures hop scope.quiet cursor
  | sequence rest => exact sequence_ensures heval hop hsees scope.quiet cursor
  | choice rest =>
    have hparts := alternatives_ensures heval hsees scope.quiet rest cursor
    exact hparts.mono fun _ _ h ↦ h.mono fun _ hyields ↦ Yields.choice hop hyields
  | repetition inner least => exact repetition_ensures heval hop hsees scope.quiet cursor
  | optional inner =>
    refine Ensures.bind (heval inner scope cursor siblings nodes hsees) fun found nodes' hfound ↦ ?_
    cases found with
    | none =>
      rw [hfound.2 rfl]
      exact emptyMatch_ensures (Yields.optionalMiss hop hfound.1.1)
    | some found =>
      obtain ⟨tree, htree, hplace⟩ := hfound.1
      exact Ensures.pure ⟨tree, Yields.optionalHit hop htree, hplace⟩
  | lookahead inner =>
    refine Ensures.bind arenaSize_ensures ?_
    rintro _ nodes' ⟨rfl, hsame⟩
    rw [hsame]
    refine Ensures.bind (heval inner scope cursor siblings nodes hsees) fun found nodes' hfound ↦ ?_
    cases found with
    | none =>
      exact Ensures.pure ⟨Yields.lookaheadMiss hop hfound.1.1, hfound.1.2⟩
    | some found =>
      obtain ⟨tree, htree, _, hnodes⟩ := hfound.1
      refine Ensures.bind (truncate_ensures _) fun _ nodes'' hcut ↦ ?_
      rw [hcut, hnodes, Arena.take_write]
      exact emptyMatch_ensures (Yields.lookaheadHit hop htree)
  | negativeLookahead inner =>
    refine Ensures.bind (heval inner { scope with quiet := true } cursor siblings nodes hsees)
      fun found nodes' hfound ↦ ?_
    cases found with
    | none =>
      rw [hfound.2 rfl]
      exact emptyMatch_ensures (Yields.negativeLookaheadMiss hop hfound.1.1)
    | some found =>
      obtain ⟨tree, htree, _, hnodes⟩ := hfound.1
      exact Ensures.pure ⟨Yields.negativeLookaheadHit hop htree, [tree], hnodes⟩
  | predicate hook negated => exact predicate_ensures hop hsees cursor
  | label name inner =>
    refine Ensures.bind (heval inner scope cursor siblings nodes hsees) fun found nodes' hfound ↦ ?_
    cases found with
    | none => exact Ensures.pure ⟨Yields.label hop hfound.1.1, hfound.1.2⟩
    | some found =>
      obtain ⟨tree, htree, hplace, hnodes⟩ := hfound.1
      refine Ensures.bind (changeNode_ensures _ _) fun _ nodes'' hchanged ↦ ?_
      rw [hnodes, hplace, Arena.modify_label] at hchanged
      refine Ensures.pure ⟨tree.withLabel name, Yields.label hop htree, ?_, hchanged⟩
      rw [hplace, ParseTree.rootPlace, ParseTree.rootPlace, ParseTree.size_withLabel]
  | call rule =>
    have hcallee := call_ensures heval hsees rule scope.quiet cursor
    exact hcallee.mono fun _ _ h ↦ h.mono fun _ hyields ↦ Yields.call hop hyields

end Parts

/-- Evaluation yields what it should, at any number of levels. -/
theorem eval_ensures (watch : Watch setting) (levels : Nat) :
    watch.Realizes (Scoped.eval setting levels) := by
  induction levels with
  | zero => exact fun _ _ _ _ _ _ ↦ Ensures.andThen spendFuel_ensures fun _ ↦ Ensures.throw
  | succ levels ih =>
    intro id scope cursor siblings nodes hsees
    refine Ensures.andThen spendFuel_ensures fun _ ↦ ?_
    cases hop : setting.program.ops[id.index]? with
    | none => exact Ensures.throw
    | some op =>
      refine Ensures.bind arenaSize_ensures ?_
      rintro _ nodes' ⟨rfl, hsame⟩
      rw [hsame]
      refine Ensures.bind (step_ensures ih hop hsees cursor) fun found nodes' hfound ↦ ?_
      cases found with
      | none =>
        obtain ⟨hyields, dropped, hnodes⟩ := hfound
        refine Ensures.bind (truncate_ensures _) fun _ nodes'' hcut ↦ ?_
        rw [hnodes, Arena.take_write] at hcut
        exact Ensures.pure ⟨⟨hyields, [], by simpa using hcut⟩, fun _ ↦ hcut⟩
      | some found => exact Ensures.pure ⟨hfound, by rintro ⟨⟩⟩

/-! ## Whole runs -/

/-- What a match of `rule` at `cursor` comes to. A match that had to consume all input and did not
is none. -/
def Settles (watch : Watch setting) (rule : RuleId) (consumeAll : Bool) (cursor : Cursor)
    (root : Option Match) (nodes : Arena) : Prop :=
  ∃ yield, watch.Yields (.rule rule) [] cursor yield ∧
    root.map (·.after) =
        (yield.map (·.2)).filter (fun stop ↦ !consumeAll || stop.rest.isEmpty) ∧
      ∀ found, root = some found → ∃ tree, yield = some (tree, found.after) ∧
        found.node = tree.rootPlace 0 ∧ nodes = Arena.write #[] [tree]

theorem matchRule_ensures (watch : Watch setting) (hsees : watch.sees #[] [] []) (rule : RuleId)
    (consumeAll : Bool) (cursor : Cursor) :
    Ensures watch.keeps #[] (Scoped.matchRule setting rule consumeAll cursor)
      (Settles watch rule consumeAll cursor) := by
  have hcall := call_ensures (eval_ensures watch setting.depthLimit) hsees rule false cursor
  refine Ensures.bind hcall fun found nodes' hfound ↦ ?_
  cases found with
  | none => exact Ensures.pure ⟨none, hfound.1, rfl, by rintro _ ⟨⟩⟩
  | some found =>
    obtain ⟨tree, htree, hplace, hnodes⟩ := hfound
    by_cases hrest : (consumeAll && !found.after.rest.isEmpty) = true
    · simp only [hrest, if_true]
      have hfails : (!consumeAll || found.after.rest.isEmpty) = false := by
        simpa using hrest
      refine Ensures.andThen (recordFailure_ensures _ _) fun _ ↦ Ensures.pure ?_
      refine ⟨_, htree, ?_, by rintro _ ⟨⟩⟩
      simp [Option.filter, hfails]
    · simp only [hrest]
      have hpasses : (!consumeAll || found.after.rest.isEmpty) = true := by
        simpa [Classical.or_iff_not_imp_left] using hrest
      refine Ensures.pure ⟨_, htree, ?_, ?_⟩
      · simp [Option.filter, hpasses]
      · rintro _ ⟨⟩
        exact ⟨tree, rfl, hplace, hnodes⟩

theorem run_settles (watch : Watch setting) (hsees : watch.sees #[] [] []) (fuel : Option Nat)
    (trace : τ) (htrace : watch.keeps trace) (rule : RuleId) (consumeAll : Bool)
    (cursor : Cursor) :
    watch.keeps (run setting fuel trace rule consumeAll cursor).2 ∧
      ∀ outcome, (run setting fuel trace rule consumeAll cursor).1 = .ok outcome →
        Settles watch rule consumeAll cursor outcome.root outcome.nodes := by
  obtain ⟨hkeeps, hsettles⟩ := matchRule_ensures watch hsees rule consumeAll cursor
    ⟨#[], .empty, fuel, trace⟩ rfl htrace
  rw [run_eq]
  cases hrun : (Scoped.matchRule setting rule consumeAll cursor).run.run
      ⟨#[], .empty, fuel, trace⟩ with
  | mk result store =>
    rw [hrun] at hkeeps hsettles
    refine ⟨hkeeps, ?_⟩
    cases result with
    | error error => rintro _ ⟨⟩
    | ok root =>
      rintro _ ⟨⟩
      exact hsettles root rfl

end Operations

end PegKit.Machine
