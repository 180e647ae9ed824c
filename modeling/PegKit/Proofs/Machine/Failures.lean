import PegKit.Proofs.Machine.Attempts
import PegKit.Proofs.Machine.Leads

/-!
# Runs record their failed attempts

Every evaluation that ends without an error yields what `Tries` says, and of the attempts that fail
on the way it records each one in its turn, or none inside a negative lookahead.
-/

namespace PegKit

open Machine (Miss)

namespace FailureSet

/-- Takes failed attempts into account, one after the other. -/
def recordAll (set : FailureSet) (misses : List Miss) : FailureSet :=
  misses.foldl (fun set miss ↦ set.record miss.offset miss.expected) set

theorem recordAll_concat (set : FailureSet) (misses : List Miss) (miss : Miss) :
    set.recordAll (misses ++ [miss]) =
      (set.recordAll misses).record miss.offset miss.expected := List.foldl_concat ..

/-- Takes failed attempts into account unless `quiet`. -/
def note (set : FailureSet) (quiet : Bool) (misses : List Miss) : FailureSet :=
  if quiet then set else set.recordAll misses

@[simp]
theorem note_nil (set : FailureSet) (quiet : Bool) : set.note quiet [] = set := by
  cases quiet <;> rfl

theorem note_append (set : FailureSet) (quiet : Bool) (misses more : List Miss) :
    set.note quiet (misses ++ more) = (set.note quiet misses).note quiet more := by
  cases quiet with
  | true => rfl
  | false => exact List.foldl_append

end FailureSet

namespace Machine

open ParseTree (rootPlaces)
open Program (Yield emptyYield repetitionYield)

variable {τ : Type} {nodes : Arena} {failures : FailureSet}

/-! ## Operations -/

/-- What an operation that was given `nodes` and `failures` leaves: the nodes of what it yields, and
the failures with its failed attempts, which count unless `quiet`. -/
def Reports (tries : Yield → List Miss → Prop) (quiet : Bool) (nodes : Arena)
    (failures : FailureSet) (found : Option Match) (nodes' : Arena) (failures' : FailureSet) :
    Prop :=
  ∃ misses, Leaves (tries · misses) nodes found nodes' ∧ failures' = failures.note quiet misses

section Operations

variable {setting : Setting τ} {tries tries' : Yield → List Miss → Prop} {quiet : Bool}
  {scene : Scene}

theorem Reports.mono {found : Option Match} {nodes' : Arena} {failures' : FailureSet}
    (h : Reports tries quiet nodes failures found nodes' failures')
    (htries : ∀ yield misses, tries yield misses → tries' yield misses) :
    Reports tries' quiet nodes failures found nodes' failures' := by
  obtain ⟨misses, hleaves, hfailures⟩ := h
  exact ⟨misses, hleaves.mono fun yield ↦ htries yield misses, hfailures⟩

/-- The last action of an operation, after the attempts `misses`. -/
theorem Leads.reports {start : Arena} {misses : List Miss} {action : Work τ (Option Match)}
    (h : Ensures (Watch.blind setting).keeps start action (Leaves (tries · misses) nodes))
    (hspares : Spares action) :
    Leads start (failures.note quiet misses) action (Reports tries quiet nodes failures) := by
  refine (framed h hspares).mono ?_
  rintro found nodes' failures' ⟨hleaves, rfl⟩
  exact ⟨misses, hleaves, rfl⟩

/-- An operation on which no attempt fails. -/
theorem Leads.reportsNone {action : Work τ (Option Match)}
    (h : Ensures (Watch.blind setting).keeps nodes action (Leaves (tries · []) nodes))
    (hspares : Spares action) :
    Leads nodes failures action (Reports tries quiet nodes failures) := by
  have hreports : Leads nodes (failures.note quiet []) action
      (Reports tries quiet nodes failures) := reports h hspares
  rwa [FailureSet.note_nil] at hreports

theorem emptyMatch_leads (setting : Setting τ) {cursor : Cursor} {misses : List Miss}
    (h : tries (emptyYield cursor) misses) :
    Leads nodes (failures.note quiet misses)
      (do return some (← pushEmpty cursor) : Work τ (Option Match))
      (Reports tries quiet nodes failures) := by
  have hempty : Ensures (Watch.blind setting).keeps nodes
      (do return some (← pushEmpty cursor) : Work τ (Option Match))
      (Leaves (tries · misses) nodes) := emptyMatch_ensures h
  exact .reports hempty ((Spares.pushEmpty _).bind fun _ ↦ .pure _)

theorem emptyMatch_leadsNone (setting : Setting τ) {cursor : Cursor}
    (h : tries (emptyYield cursor) []) :
    Leads nodes failures (do return some (← pushEmpty cursor) : Work τ (Option Match))
      (Reports tries quiet nodes failures) := by
  have hempty : Leads nodes (failures.note quiet [])
      (do return some (← pushEmpty cursor) : Work τ (Option Match))
      (Reports tries quiet nodes failures) := emptyMatch_leads setting h
  rwa [FailureSet.note_nil] at hempty

theorem owner_leads (setting : Setting τ) {kind : NodeKind} {start stop : Cursor}
    {trees : List ParseTree} {misses : List Miss}
    (h : tries (some (.spanning kind start stop trees, stop)) misses) :
    Leads (nodes.write trees) (failures.note quiet misses)
      (do return some (← pushOwner kind start stop (rootPlaces nodes.size trees)) :
        Work τ (Option Match))
      (Reports tries quiet nodes failures) := by
  have howner : Ensures (Watch.blind setting).keeps (nodes.write trees)
      (do return some (← pushOwner kind start stop (rootPlaces nodes.size trees)) :
        Work τ (Option Match)) (Leaves (tries · misses) nodes) := owner_ensures h
  exact .reports howner ((Spares.pushOwner _ _ _ _).bind fun _ ↦ .pure _)

theorem failAt_leads (id : OpId) {cursor : Cursor}
    (h : tries none [⟨cursor.offset, .op id⟩]) :
    Leads nodes failures (failAt setting id quiet cursor)
      (Reports tries quiet nodes failures) := by
  have hnone : Leaves (tries · [⟨cursor.offset, .op id⟩]) nodes none nodes := ⟨h, [], by simp⟩
  refine .andThen (observe_leads _ _) fun _ ↦ ?_
  cases quiet with
  | true => exact .pure ⟨_, hnone, rfl⟩
  | false =>
    refine (recordFailure_leads _ _).bind ?_
    rintro _ _ _ ⟨rfl, rfl⟩
    exact .pure ⟨_, hnone, rfl⟩

theorem literal_leads (id : OpId) (text : String) (cursor : Cursor) :
    Leads nodes failures (literal setting id text.toList quiet cursor)
      (Reports (Tries setting (.op id (.terminal text)) scene cursor) quiet nodes failures) := by
  obtain ⟨rest, hlead, hhit⟩ | ⟨hother, hmiss⟩ :=
    literal_cases setting id text.toList quiet cursor
  · rw [hhit]
    exact .reportsNone (succeed_ensures id (Tries.terminalHit hlead)) (.succeed _ _ _ _)
  · rw [hmiss]
    exact failAt_leads id (Tries.terminalMiss hother)

theorem classCharacter_leads (id : OpId) (cls : CharClass) (cursor : Cursor) :
    Leads nodes failures (character setting id cls.contains quiet cursor)
      (Reports (Tries setting (.op id (.charClass cls)) scene cursor) quiet nodes failures) := by
  obtain ⟨c, rest, hlead, haccepted, hhit⟩ | ⟨hother, hmiss⟩ :=
    character_cases setting id cls.contains quiet cursor
  · rw [hhit]
    exact .reportsNone (succeed_ensures id (Tries.classHit hlead haccepted)) (.succeed _ _ _ _)
  · rw [hmiss]
    exact failAt_leads id (Tries.classMiss hother)

theorem anyCharacter_leads (id : OpId) (cursor : Cursor) :
    Leads nodes failures (character setting id (fun _ ↦ true) quiet cursor)
      (Reports (Tries setting (.op id .anyChar) scene cursor) quiet nodes failures) := by
  unfold character
  cases hrest : cursor.rest with
  | nil => exact failAt_leads id (Tries.anyMiss hrest)
  | cons c rest =>
    exact .reportsNone (succeed_ensures id (Tries.anyHit hrest)) (.succeed _ _ _ _)

theorem consult_leads (hook : Symbol) (cursor : Cursor) :
    Leads scene.nodes failures (consult setting hook scene.visible cursor)
      fun holds nodes' failures' ↦ nodes' = scene.nodes ∧ failures' = failures ∧
        setting.answer? hook scene cursor = some holds := by
  unfold consult Setting.answer?
  cases setting.predicates[hook.index]?.join with
  | none => exact .throw
  | some binding =>
    refine get_leads.bind ?_
    rintro store nodes' failures' ⟨hstore, rfl, rfl⟩
    rw [hstore]
    refine .andThen (observe_leads _ _) fun _ ↦ ?_
    simp only [Option.bind_eq_bind, Option.bind_some]
    cases binding.condition ⟨setting.program, setting.input, scene.nodes, scene.visible,
        cursor.offset, cursor.rest⟩ with
    | ok holds => exact .pure ⟨rfl, rfl, rfl⟩
    | error message => exact .throw

theorem predicate_leads (id : OpId) (hook : Symbol) (negated : Bool) (cursor : Cursor) :
    Leads scene.nodes failures (predicate setting id hook negated scene.visible cursor)
      (Reports (Tries setting (.op id (.predicate hook negated)) scene cursor) quiet scene.nodes
        failures) := by
  refine (consult_leads hook cursor).bind ?_
  rintro holds nodes' failures' ⟨rfl, rfl, hanswer⟩
  have htries : Tries setting (.op id (.predicate hook negated)) scene cursor _ [] :=
    .predicate hanswer
  refine .andThen (observe_leads _ _) fun _ ↦ ?_
  by_cases hpassed : (holds != negated) = true
  · simp only [hpassed, if_true] at htries ⊢
    exact emptyMatch_leadsNone setting htries
  · simp only [hpassed] at htries ⊢
    exact .pure ⟨[], ⟨htries, [], by simp⟩, (FailureSet.note_nil _ _).symm⟩

/-! ## Operations with parts -/

/-- What an evaluation of operations has to do: it yields what it should, records its failed
attempts, and drops the nodes of a failure. -/
def Accounts (setting : Setting τ) (eval : Scoped.Evaluator τ) : Prop :=
  ∀ (id : OpId) (quiet : Bool) (cursor : Cursor) (scene : Scene) (failures : FailureSet),
    Leads scene.nodes failures (eval id ⟨scene.visible, quiet⟩ cursor) fun found nodes' failures' ↦
      Reports (Tries setting (.eval id) scene cursor) quiet scene.nodes failures found nodes'
          failures' ∧
        (found = none → nodes' = scene.nodes)

section Parts

variable {eval : Scoped.Evaluator τ} (heval : Accounts setting eval)

include heval

/-- Items of a sequence after those that yielded `elements`. -/
theorem items_leads (quiet : Bool) (start : Cursor) (rest : List OpId)
    (elements : List ParseTree) (cursor : Cursor) (failures : FailureSet) :
    Leads (nodes.write elements) failures
      (Scoped.items eval quiet rest (rootPlaces nodes.size elements) cursor)
      fun result nodes' failures' ↦ ∃ trees misses, result.1 = rootPlaces nodes.size trees ∧
        nodes' = nodes.write trees ∧ failures' = failures.note quiet misses ∧
          Tries setting (.items rest start) ⟨nodes.write elements, nodes.size, elements⟩ cursor
            (result.2.map fun stop ↦ (.spanning .sequence start stop trees, stop)) misses := by
  induction rest generalizing elements cursor failures with
  | nil => exact .pure ⟨elements, [], rfl, rfl, (FailureSet.note_nil _ _).symm, .itemsDone⟩
  | cons item rest ih =>
    have hitem := heval item quiet cursor ⟨nodes.write elements, nodes.size, elements⟩ failures
    refine hitem.bind ?_
    rintro found nodes' failures' ⟨⟨misses, hleaves, rfl⟩, hclean⟩
    cases found with
    | none => exact .pure ⟨elements, misses, rfl, hclean rfl, rfl, .itemsFail hleaves.1⟩
    | some found =>
      obtain ⟨tree, htree, hplace, rfl⟩ := hleaves
      have hrest := ih (elements ++ [tree]) found.after (failures.note quiet misses)
      rw [Arena.rootPlaces_concat, ← hplace, ← Arena.write_write] at hrest
      refine hrest.mono ?_
      rintro result nodes'' failures'' ⟨trees, more, hids, hwritten, rfl, htries⟩
      exact ⟨trees, misses ++ more, hids, hwritten, (FailureSet.note_append _ _ _ _).symm,
        .itemsNext htree htries⟩

theorem sequence_leads (id : OpId) (rest : List OpId) (cursor : Cursor) :
    Leads scene.nodes failures (Scoped.sequence eval quiet rest cursor)
      (Reports (Tries setting (.op id (.sequence rest)) scene cursor) quiet scene.nodes
        failures) := by
  have hitems := @items_leads _ scene.nodes _ _ heval quiet cursor rest [] cursor failures
  rw [Arena.write_nil] at hitems
  refine hitems.bind ?_
  rintro ⟨elements, stop⟩ nodes' failures' ⟨trees, misses, rfl, rfl, rfl, htries⟩
  cases stop with
  | none => exact .pure ⟨misses, ⟨.sequence htries, trees, rfl⟩, rfl⟩
  | some stop => exact owner_leads setting (.sequence htries)

/-- The alternatives that are left. -/
theorem alternatives_leads (rest : List OpId) (cursor : Cursor) (failures : FailureSet) :
    Leads scene.nodes failures (Scoped.choice setting eval ⟨scene.visible, quiet⟩ cursor rest)
      (Reports (Tries setting (.alternatives rest) scene cursor) quiet scene.nodes failures) := by
  induction rest generalizing failures with
  | nil =>
    exact .pure ⟨[], ⟨.alternativesNone, [], by simp⟩, (FailureSet.note_nil _ _).symm⟩
  | cons alternative rest ih =>
    have hfirst := heval alternative quiet cursor scene failures
    cases rest with
    | nil =>
      refine hfirst.mono ?_
      rintro found nodes' failures' ⟨⟨misses, hleaves, rfl⟩, _⟩
      cases found with
      | none =>
        have htries := Tries.alternativesNext hleaves.1 .alternativesNone
        rw [List.append_nil] at htries
        exact ⟨misses, ⟨htries, hleaves.2⟩, rfl⟩
      | some found =>
        obtain ⟨tree, htree, hplace⟩ := hleaves
        exact ⟨misses, ⟨tree, .alternativesHit htree, hplace⟩, rfl⟩
    | cons next rest =>
      refine hfirst.bind ?_
      rintro found nodes' failures' ⟨⟨misses, hleaves, rfl⟩, hclean⟩
      cases found with
      | none =>
        rw [hclean rfl]
        refine .andThen (observe_leads _ _) fun _ ↦ (ih (failures.note quiet misses)).mono ?_
        rintro found nodes'' failures'' ⟨more, hmore, rfl⟩
        refine ⟨misses ++ more, ?_, (FailureSet.note_append _ _ _ _).symm⟩
        exact hmore.mono fun _ htries ↦ .alternativesNext hleaves.1 htries
      | some found =>
        obtain ⟨tree, htree, hplace⟩ := hleaves
        exact .pure ⟨misses, ⟨tree, .alternativesHit htree, hplace⟩, rfl⟩

/-- A repetition after the matches `found`, with a bound that is never used up. -/
theorem iterations_leads (scene : Scene) (quiet : Bool) (inner : OpId) (least : Nat)
    (start : Cursor) (bound : Nat) (found : List ParseTree) (cursor : Cursor)
    (failures : FailureSet) (hbound : cursor.rest.length < bound) :
    Leads (scene.nodes.write found) failures
      (Scoped.iterations eval inner ⟨scene.visible, quiet⟩ bound
        (rootPlaces scene.nodes.size found) cursor)
      fun result nodes' failures' ↦ ∃ trees misses,
        result.1 = rootPlaces scene.nodes.size trees ∧ nodes' = scene.nodes.write trees ∧
          failures' = failures.note quiet misses ∧
            Tries setting (.iterations inner least start found)
              { scene with nodes := scene.nodes.write found } cursor
              (repetitionYield least start trees result.2) misses := by
  induction bound generalizing found cursor failures with
  | zero => omega
  | succ bound ih =>
    have hnext := heval inner quiet cursor { scene with nodes := scene.nodes.write found } failures
    refine hnext.bind ?_
    rintro next nodes' failures' ⟨⟨misses, hleaves, rfl⟩, hclean⟩
    cases next with
    | none => exact .pure ⟨found, misses, rfl, hclean rfl, rfl, .iterationsStop hleaves.1⟩
    | some next =>
      obtain ⟨tree, htree, hplace, rfl⟩ := hleaves
      have hplaces : rootPlaces scene.nodes.size found ++ [next.node] =
          rootPlaces scene.nodes.size (found ++ [tree]) := by
        rw [hplace, Arena.rootPlaces_concat]
      rw [Arena.write_write]
      by_cases hmoved : cursor.offset < next.after.offset
      · have hfewer := (htree.onward.stops rfl).length_lt hmoved
        have hrest := ih (found ++ [tree]) next.after (failures.note quiet misses) (by omega)
        simp only [hmoved, if_true, hplaces]
        refine hrest.mono ?_
        rintro result nodes'' failures'' ⟨trees, more, hids, hwritten, rfl, htries⟩
        have hgrown : Scene.grown { scene with nodes := scene.nodes.write found } tree =
            { scene with nodes := scene.nodes.write (found ++ [tree]) } := by
          rw [Scene.grown, Arena.write_write]
        rw [← hgrown] at htries
        exact ⟨trees, misses ++ more, hids, hwritten, (FailureSet.note_append _ _ _ _).symm,
          .iterationsNext htree hmoved htries⟩
      · simp only [hmoved, if_false]
        exact .pure ⟨found ++ [tree], misses, hplaces, rfl, rfl, .iterationsStay htree hmoved⟩

theorem repetition_leads (id inner : OpId) (least : Nat) (cursor : Cursor) :
    Leads scene.nodes failures (Scoped.repetition eval inner least ⟨scene.visible, quiet⟩ cursor)
      (Reports (Tries setting (.op id (.repetition inner least)) scene cursor) quiet scene.nodes
        failures) := by
  have hiterations := iterations_leads heval scene quiet inner least cursor
    (cursor.rest.length + 1) [] cursor failures (Nat.lt_succ_self _)
  rw [Arena.write_nil] at hiterations
  refine hiterations.bind ?_
  rintro ⟨elements, stop⟩ nodes' failures' ⟨trees, misses, rfl, rfl, rfl, htries⟩
  have hwhole : Tries setting (.op id (.repetition inner least)) scene cursor _ misses :=
    .repetition htries
  simp only [repetitionYield, ParseTree.length_rootPlaces] at hwhole ⊢
  by_cases hfew : trees.length < least
  · simp only [hfew, if_true] at hwhole ⊢
    exact .pure ⟨misses, ⟨hwhole, trees, rfl⟩, rfl⟩
  · simp only [hfew, if_false] at hwhole ⊢
    exact owner_leads setting hwhole

theorem call_leads (rule : RuleId) (cursor : Cursor) :
    Leads scene.nodes failures (Scoped.call setting eval rule quiet cursor)
      (Reports (Tries setting (.rule rule) scene cursor) quiet scene.nodes failures) := by
  unfold Scoped.call
  cases hentry : setting.program.rules[rule.index]? with
  | none => exact .throw
  | some entry =>
    refine .andThen (observe_leads _ _) fun _ ↦ ?_
    have hbody := heval entry.body quiet cursor scene.opened failures
    refine hbody.bind ?_
    rintro found nodes' failures' ⟨⟨misses, hleaves, rfl⟩, _⟩
    cases found with
    | none =>
      refine .andThen (observe_leads _ _) fun _ ↦ .pure ?_
      exact ⟨misses, ⟨.rule hentry hleaves.1, hleaves.2⟩, rfl⟩
    | some found =>
      obtain ⟨tree, htree, hplace, rfl⟩ := hleaves
      refine (changeNode_leads _ _).bind ?_
      rintro _ _ _ ⟨rfl, rfl⟩
      refine .andThen (observe_leads _ _) fun _ ↦ .pure ?_
      rw [hplace, Arena.modify_rule]
      refine ⟨misses, ⟨tree.withRule rule, .rule hentry htree, ?_, rfl⟩, rfl⟩
      rw [hplace, ParseTree.rootPlace, ParseTree.rootPlace, ParseTree.size_withRule]
      rfl

/-- Every operation accounts for its failed attempts when its parts do. -/
theorem step_leads (id : OpId) (op : Op) (cursor : Cursor) :
    Leads scene.nodes failures (Scoped.step setting eval id op ⟨scene.visible, quiet⟩ cursor)
      (Reports (Tries setting (.op id op) scene cursor) quiet scene.nodes failures) := by
  cases op with
  | terminal text => exact literal_leads id text cursor
  | charClass cls => exact classCharacter_leads id cls cursor
  | anyChar => exact anyCharacter_leads id cursor
  | sequence rest => exact sequence_leads heval id rest cursor
  | choice rest =>
    refine (alternatives_leads heval rest cursor failures).mono ?_
    exact fun _ _ _ h ↦ h.mono fun _ _ htries ↦ .choice htries
  | repetition inner least => exact repetition_leads heval id inner least cursor
  | optional inner =>
    refine (heval inner quiet cursor scene failures).bind ?_
    rintro found nodes' failures' ⟨⟨misses, hleaves, rfl⟩, hclean⟩
    cases found with
    | none =>
      rw [hclean rfl]
      exact emptyMatch_leads setting (.optionalMiss hleaves.1)
    | some found =>
      obtain ⟨tree, htree, hplace⟩ := hleaves
      exact .pure ⟨misses, ⟨tree, .optionalHit htree, hplace⟩, rfl⟩
  | lookahead inner =>
    refine arenaSize_leads.bind ?_
    rintro _ _ failures' ⟨rfl, rfl, rfl⟩
    refine (heval inner quiet cursor scene failures').bind ?_
    rintro found nodes' failures' ⟨⟨misses, hleaves, rfl⟩, hclean⟩
    cases found with
    | none => exact .pure ⟨misses, ⟨.lookaheadMiss hleaves.1, hleaves.2⟩, rfl⟩
    | some found =>
      obtain ⟨tree, htree, _, rfl⟩ := hleaves
      refine (truncate_leads _).bind ?_
      rintro _ _ _ ⟨rfl, rfl⟩
      rw [Arena.take_write]
      exact emptyMatch_leads setting (.lookaheadHit htree)
  | negativeLookahead inner =>
    refine (heval inner true cursor scene failures).bind ?_
    rintro found nodes' failures' ⟨⟨misses, hleaves, rfl⟩, hclean⟩
    cases found with
    | none =>
      rw [hclean rfl]
      exact emptyMatch_leadsNone setting (.negativeLookaheadMiss hleaves.1)
    | some found =>
      obtain ⟨tree, htree, _, rfl⟩ := hleaves
      exact .pure ⟨[], ⟨.negativeLookaheadHit htree, [tree], rfl⟩, (FailureSet.note_nil _ _).symm⟩
  | predicate hook negated => exact predicate_leads id hook negated cursor
  | label name inner =>
    refine (heval inner quiet cursor scene failures).bind ?_
    rintro found nodes' failures' ⟨⟨misses, hleaves, rfl⟩, hclean⟩
    cases found with
    | none => exact .pure ⟨misses, ⟨.label hleaves.1, hleaves.2⟩, rfl⟩
    | some found =>
      obtain ⟨tree, htree, hplace, rfl⟩ := hleaves
      refine (changeNode_leads _ _).bind ?_
      rintro _ _ _ ⟨rfl, rfl⟩
      rw [hplace, Arena.modify_label]
      refine .pure ⟨misses, ⟨tree.withLabel name, .label htree, ?_, rfl⟩, rfl⟩
      rw [hplace, ParseTree.rootPlace, ParseTree.rootPlace, ParseTree.size_withLabel]
  | call rule =>
    refine (call_leads heval rule cursor).mono ?_
    exact fun _ _ _ h ↦ h.mono fun _ _ htries ↦ .call htries

end Parts

/-- Evaluation accounts for its failed attempts, at any number of levels. -/
theorem eval_accounts (setting : Setting τ) (levels : Nat) :
    Accounts setting (Scoped.eval setting levels) := by
  induction levels with
  | zero => exact fun _ _ _ _ _ ↦ spendFuel_leads.andThen fun _ ↦ .throw
  | succ levels ih =>
    intro id quiet cursor scene failures
    refine spendFuel_leads.andThen fun _ ↦ ?_
    cases hop : setting.program.ops[id.index]? with
    | none => exact .throw
    | some op =>
      refine arenaSize_leads.bind ?_
      rintro _ _ _ ⟨rfl, rfl, rfl⟩
      refine (step_leads ih id op cursor).bind ?_
      rintro found nodes' failures' ⟨misses, hleaves, rfl⟩
      cases found with
      | none =>
        obtain ⟨htries, dropped, rfl⟩ := hleaves
        refine (truncate_leads _).bind ?_
        rintro _ _ _ ⟨rfl, rfl⟩
        rw [Arena.take_write]
        exact .pure ⟨⟨misses, ⟨.eval hop htries, [], by simp⟩, rfl⟩, fun _ ↦ rfl⟩
      | some found =>
        obtain ⟨tree, htree, hplace⟩ := hleaves
        exact .pure ⟨⟨misses, ⟨tree, .eval hop htree, hplace⟩, rfl⟩, nofun⟩

end Operations

/-! ## Whole runs -/

theorem matchRule_leads (setting : Setting τ) (rule : RuleId) (consumeAll : Bool)
    (cursor : Cursor) :
    Leads #[] .empty (Scoped.matchRule setting rule consumeAll cursor)
      fun found _ failures' ↦ ∃ misses,
        Ends setting rule consumeAll cursor (found.map (·.after)) misses ∧
          failures' = FailureSet.empty.recordAll misses := by
  have hcall : Leads Scene.start.nodes .empty
      (Scoped.call setting (Scoped.eval setting setting.depthLimit) rule false cursor)
      (Reports (Tries setting (.rule rule) .start cursor) false Scene.start.nodes .empty) :=
    call_leads (eval_accounts setting setting.depthLimit) rule cursor
  refine hcall.bind ?_
  rintro found nodes' failures' ⟨misses, hleaves, rfl⟩
  cases found with
  | none => exact .pure ⟨misses, .miss hleaves.1, rfl⟩
  | some found =>
    obtain ⟨tree, htree, _⟩ := hleaves
    by_cases hshort : (consumeAll && !found.after.rest.isEmpty) = true
    · obtain ⟨hall, hleft⟩ : consumeAll = true ∧ found.after.rest ≠ [] := by simpa using hshort
      simp only [hshort, if_true]
      refine (recordFailure_leads _ _).bind ?_
      rintro _ _ _ ⟨_, hrecorded⟩
      refine .pure ⟨_, .short htree hall hleft, ?_⟩
      rw [hrecorded, FailureSet.recordAll_concat]
      rfl
    · have hconsumed : consumeAll = true → found.after.rest = [] := by simpa using hshort
      simp only [hshort]
      exact .pure ⟨misses, .hit htree hconsumed, rfl⟩

/-- A run that ends without an error records its failed attempts, and nothing else. -/
theorem run_ends (setting : Setting τ) (fuel : Option Nat) (trace : τ) (rule : RuleId)
    (consumeAll : Bool) (cursor : Cursor) {outcome : Outcome}
    (h : (run setting fuel trace rule consumeAll cursor).1 = .ok outcome) :
    ∃ misses, Ends setting rule consumeAll cursor (outcome.root.map (·.after)) misses ∧
      outcome.failures = FailureSet.empty.recordAll misses := by
  have hleads := matchRule_leads setting rule consumeAll cursor ⟨#[], .empty, fuel, trace⟩ rfl rfl
  rw [run_eq] at h
  cases hrun : (Scoped.matchRule setting rule consumeAll cursor).run.run
      ⟨#[], .empty, fuel, trace⟩ with
  | mk result store =>
    rw [hrun] at h hleads
    cases result with
    | error error => cases h
    | ok root =>
      cases h
      exact hleads root rfl

end Machine

end PegKit
