import PegKit.Parser
import PegKit.Proofs.Machine.Planted

/-!
# Failed attempts leave no trace

Whatever the machine has in progress, an evaluation that fails leaves the nodes and the stacks as it
found them, and one that succeeds adds the nodes of one tree. So among the nodes of a run there are
never links that lead nowhere, and the nodes of a finished tree are the ones below its root.
-/

namespace PegKit

open ParseTree (rootPlace rootPlaces sizeOfList)

/-- The elements and the owner of every node lie in the array too. -/
def Arena.Closed (arena : Arena) : Prop :=
  ∀ node ∈ arena, (∀ element ∈ node.elements, element.index < arena.size) ∧
    ∀ owner, node.parent = some owner → owner.index < arena.size

/-- The links between the nodes of a tree agree, and the root leads to every node once. -/
structure SyntaxTree.WellLinked (tree : SyntaxTree) : Prop where
  reached : (tree.nodes.preorder tree.root).Perm ((List.range tree.nodes.size).map NodeId.mk)
  elements_before : ∀ (id : NodeId) (node : Node), tree.nodes[id.index]? = some node →
    ∀ element ∈ node.elements, element.index < id.index
  parent_iff : ∀ id owner : NodeId,
    (∃ node, tree.nodes[id.index]? = some node ∧ node.parent = some owner) ↔
      ∃ node, tree.nodes[owner.index]? = some node ∧ id ∈ node.elements
  parent_none_iff : ∀ (id : NodeId) (node : Node), tree.nodes[id.index]? = some node →
    (node.parent = none ↔ id = tree.root)

/-! ## Links among trees written from the start -/

namespace Arena

theorem closed_write (trees : List ParseTree) : (Arena.write #[] trees).Closed := by
  have hheld := holds_write #[] trees
  intro node hnode
  obtain ⟨place, hplace⟩ := Array.mem_iff_getElem?.mp hnode
  have hbound : place < sizeOfList trees := by
    obtain ⟨hlt, _⟩ := Array.getElem?_eq_some_iff.mp hplace
    simpa using hlt
  rw [size_write]
  constructor
  · intro element helement
    obtain ⟨_, hbefore, _⟩ :=
      nodesOfList_linksDown _ _ trees hheld place (by simp) (by simpa using hbound) node hplace
        element helement
    simp only [Array.size_empty]
    omega
  · intro owner howner
    rcases nodesOfList_linksUp _ _ trees hheld place (by simp) (by simpa using hbound) with
      ⟨_, root, hroot, hparent⟩ | ⟨child, id, _, hchild, hparent, _, hlast, _⟩
    · rw [hplace, Option.some.injEq] at hroot
      rw [← hroot, howner] at hparent
      cases hparent
    · rw [hplace, Option.some.injEq] at hchild
      rw [← hchild, howner, Option.some.injEq] at hparent
      rw [hparent]
      exact hlast

/-- A single tree written from the start is well linked from its root. -/
theorem wellLinked_write (input : List Char) (program : Program) (tree : ParseTree) :
    SyntaxTree.WellLinked ⟨input, program, Arena.write #[] [tree], tree.rootPlace 0⟩ := by
  have hheld : (Arena.write #[] [tree]).Holds 0 (tree.nodes 0 none) := holds_write_root #[] tree
  have hsize : (Arena.write #[] [tree]).size = tree.size := by
    simp [ParseTree.sizeOfList]
  have hpos := tree.size_pos
  have hdown (place : Nat) (node : Node) (hnode : (Arena.write #[] [tree])[place]? = some node) :
      (Arena.write #[] [tree]).LinksDown 0 place := by
    obtain ⟨hlt, _⟩ := Array.getElem?_eq_some_iff.mp hnode
    exact nodes_linksDown 0 none tree hheld place (Nat.zero_le _) (by omega)
  have hroot : ∃ node, (Arena.write #[] [tree])[(tree.rootPlace 0).index]? = some node ∧
      node.parent = none := by
    have hmember : tree.rootPlace 0 ∈ rootPlaces (#[] : Arena).size [tree] := by
      simp [rootPlaces]
    exact (rootPlaces_owned (holds_write #[] [tree]) hmember).2.2
  have hup (place : Nat) (node : Node) (hnode : (Arena.write #[] [tree])[place]? = some node)
      (hother : place ≠ (tree.rootPlace 0).index) :
      (Arena.write #[] [tree]).LinksUp (0 + tree.size) place := by
    obtain ⟨hlt, _⟩ := Array.getElem?_eq_some_iff.mp hnode
    simp only [rootPlace] at hother
    exact nodes_linksUp 0 none tree hheld place (Nat.zero_le _) (by omega)
  refine ⟨?_, ?_, ?_, ?_⟩
  · have hwalk := preorderTo_perm_postorderTo (Arena.write #[] [tree])
      ((tree.rootPlace 0).index + 1) (tree.rootPlace 0)
    have hplaces := postorder_rootPlace hheld
    rw [postorder] at hplaces
    rw [hplaces] at hwalk
    simpa [preorder, hsize, List.range_eq_range'] using hwalk
  · intro id node hnode element helement
    exact (hdown id.index node hnode node hnode element helement).2.1
  · intro id owner
    constructor
    · rintro ⟨node, hnode, hparent⟩
      by_cases hother : id.index = (tree.rootPlace 0).index
      · obtain ⟨root, hroot, hnone⟩ := hroot
        rw [hother, hroot, Option.some.injEq] at hnode
        rw [← hnode, hnone] at hparent
        cases hparent
      · obtain ⟨child, above, parent, hchild, habove, _, _, hparent', hmember⟩ :=
          hup id.index node hnode hother
        rw [hnode, Option.some.injEq] at hchild
        rw [← hchild, hparent, Option.some.injEq] at habove
        exact ⟨parent, habove ▸ hparent', hmember⟩
    · rintro ⟨node, hnode, hmember⟩
      exact (hdown owner.index node hnode node hnode id hmember).2.2
  -- Only the root names no parent: any other node is linked up to one that it is an element of.
  · intro id node hnode
    constructor
    · intro hnone
      by_cases hother : id.index = (tree.rootPlace 0).index
      · exact congrArg NodeId.mk hother
      · obtain ⟨child, above, _, hchild, habove, _⟩ := hup id.index node hnode hother
        rw [hnode, Option.some.injEq] at hchild
        rw [← hchild, hnone] at habove
        cases habove
    · intro hid
      obtain ⟨root, hroot, hnone⟩ := hroot
      rw [hid, hroot, Option.some.injEq] at hnode
      rw [← hnode, hnone]

end Arena

namespace Machine

namespace Planted

variable {nodes : Arena} {ids : List NodeId} {trees : List ParseTree}

theorem closed (h : Planted nodes ids trees) : nodes.Closed := by
  obtain ⟨before, after, rfl, _⟩ := h
  exact Arena.closed_write _

theorem bounded (h : Planted nodes ids trees) : ∀ id ∈ ids, id.index < nodes.size := by
  obtain ⟨base, rfl, hheld⟩ := h.holds
  intro id hid
  obtain ⟨_, _, _, hnode, _⟩ := Arena.rootPlaces_owned hheld hid
  exact (Array.getElem?_eq_some_iff.mp hnode).1

end Planted

variable {τ : Type}

/-! ## Single evaluations -/

/-- Nothing is known of the predicates and of the trace. -/
def Watch.blind (setting : Setting τ) : Watch setting where
  sees _ _ _ := True
  keeps _ := True
  decides _ _ _ _ := True
  opened _ _ := trivial
  grown _ _ := trivial
  observed _ _ := trivial
  asked _ _ _ _ _ := trivial
  decided _ _ _ _ _ _ _ := trivial

/-- What an evaluation that found nodes and stacks leaves in their place: the same when it fails,
and else the nodes below its result in addition, in post-order, with the result last. -/
def Tidy (nodes : Arena) (around : Stacks) (found : Option Match) (nodes' : Arena)
    (around' : Stacks) : Prop :=
  around' = around ∧
    match found with
    | none => nodes' = nodes
    | some found =>
      nodes'.take nodes.size = nodes ∧ found.node.index + 1 = nodes'.size ∧
        nodes'.postorder found.node =
          (List.range' nodes.size (nodes'.size - nodes.size)).map NodeId.mk

theorem LeavesClean.tidy {yields : Program.Yield → Prop} {nodes nodes' : Arena}
    {found : Option Match} (h : LeavesClean yields nodes found nodes') (around : Stacks) :
    Tidy nodes around found nodes' around := by
  cases found with
  | none => exact ⟨rfl, h.2 rfl⟩
  | some found =>
    obtain ⟨tree, _, hplace, rfl⟩ := h.1
    have hpos := tree.size_pos
    have hsize : (nodes.write [tree]).size = nodes.size + tree.size := by
      simp [sizeOfList]
    have hheld := nodes.holds_write_root tree
    refine ⟨rfl, nodes.take_write [tree], ?_, ?_⟩
    · rw [hplace, hsize]
      simp only [rootPlace]
      omega
    · rw [hplace, Arena.postorder_rootPlace hheld, hsize, Nat.add_sub_cancel_left]

/-- Any evaluation is tidy, from any stacks and nodes. -/
theorem eval_tidy (setting : Setting τ) (levels : Nat) (id : OpId) (cursor : Cursor)
    (around around' : Stacks) (store store' : Store τ) (found : Option Match)
    (h : ((eval setting levels id cursor).run around).run.run store =
      (.ok (found, around'), store')) :
    Tidy store.nodes around found store'.nodes around' := by
  rw [eval_run, ExceptT.run_map, StateT.run_map] at h
  have hclean := (eval_ensures (Watch.blind setting)
    (min levels (setting.depthLimit - around.depth)) id around.scope cursor [] store.nodes trivial
      store rfl trivial).2
  cases hrun : (Scoped.eval setting (min levels (setting.depthLimit - around.depth)) id
      around.scope cursor).run.run store with
  | mk result after =>
    rw [hrun] at h hclean
    cases result with
    | error error => cases h
    | ok found' =>
      cases h
      exact (hclean found rfl).tidy around

/-! ## Whole runs -/

/-- All events of a run, in order. -/
def record (events : List Event) (event : Event) : List Event := events ++ [event]

/-- Conditions are asked while all links lead somewhere. -/
def AskedClosed (events : List Event) : Prop :=
  ∀ key env, .ask key env ∈ events →
    env.nodes.Closed ∧ ∀ element ∈ env.elements, element.index < env.nodes.size

/-- A run with all of its events, from no nodes. -/
def Watch.recording (setting : Setting (List Event)) (hobserve : setting.observe = record) :
    Watch setting :=
  .planted setting AskedClosed
    (by
      intro events event hevents hevent key env hasked
      rw [hobserve, record, List.mem_append, List.mem_singleton] at hasked
      rcases hasked with hasked | hasked
      · exact hevents key env hasked
      · exact absurd hasked.symm (hevent key env))
    (by
      intro events key env hevents hseen key' env' hasked
      rw [hobserve, record, List.mem_append, List.mem_singleton] at hasked
      rcases hasked with hasked | hasked
      · exact hevents key' env' hasked
      · cases hasked
        obtain ⟨trees, hplanted⟩ := hseen
        exact ⟨hplanted.closed, hplanted.bounded⟩)

theorem run_askedClosed (setting : Setting (List Event)) (hobserve : setting.observe = record)
    (fuel : Option Nat) (rule : RuleId) (consumeAll : Bool) (cursor : Cursor) :
    AskedClosed (run setting fuel [] rule consumeAll cursor).2 := by
  have hnothing : AskedClosed [] := by
    rintro _ _ ⟨⟩
  exact (run_settles (.recording setting hobserve) .empty fuel [] hnothing rule consumeAll
    cursor).1

/-- The nodes of a run with a result are those of one tree, with the result as its root. -/
theorem run_root (setting : Setting τ) (fuel : Option Nat) (trace : τ) (rule : RuleId)
    (consumeAll : Bool) (cursor : Cursor) {outcome : Outcome} {found : Match}
    (hrun : (run setting fuel trace rule consumeAll cursor).1 = .ok outcome)
    (hroot : outcome.root = some found) :
    ∃ tree : ParseTree, found.node = tree.rootPlace 0 ∧
      outcome.nodes = Arena.write #[] [tree] := by
  obtain ⟨_, _, _, htree⟩ := (run_settles (.blind setting) trivial fuel trace trivial rule
    consumeAll cursor).2 outcome hrun
  obtain ⟨tree, _, hplace, hnodes⟩ := htree found hroot
  exact ⟨tree, hplace, hnodes⟩

end Machine

namespace Parser

open Machine (Event Stacks Store Tidy AskedClosed record)

theorem runFrom_trace {τ : Type} (parser : Parser) (input : List Char) (consumeAll : Bool)
    (rule : RuleId) (cursor : Cursor) (observe : τ → Event → τ) (trace : τ) :
    (parser.runFrom input consumeAll rule cursor observe trace).trace =
      (Machine.run (parser.setting input observe) parser.limits.execFuel trace rule consumeAll
        cursor).2 := by
  unfold runFrom
  rcases Machine.run (parser.setting input observe) parser.limits.execFuel trace rule consumeAll
    cursor with ⟨error | outcome, trace'⟩ <;> rfl

theorem runFrom_result {τ : Type} (parser : Parser) (input : List Char) (consumeAll : Bool)
    (rule : RuleId) (cursor : Cursor) (observe : τ → Event → τ) (trace : τ) :
    (parser.runFrom input consumeAll rule cursor observe trace).result =
      (Machine.run (parser.setting input observe) parser.limits.execFuel trace rule consumeAll
        cursor).1.map fun outcome ↦ outcome.root.map fun found ↦
          ⟨input, parser.program, outcome.nodes, found.node⟩ := by
  unfold runFrom
  rcases Machine.run (parser.setting input observe) parser.limits.execFuel trace rule consumeAll
    cursor with ⟨error | outcome, trace'⟩ <;> rfl

/-- A parse that ends without an error is a run from a place in the input. -/
theorem parseWith_ok {τ : Type} {parser : Parser} {input : String} {options : ParseOptions}
    {observe : τ → Event → τ} {trace : τ} {result : Option SyntaxTree}
    (h : (parser.parseWith input options observe trace).result = .ok result) :
    ∃ rule cursor outcome, parser.startOf input.toList options = .ok (rule, cursor) ∧
      (Machine.run (parser.setting input.toList observe) parser.limits.execFuel trace rule
        (options.consumeAll.getD parser.consumeAll) cursor).1 = .ok outcome ∧
      (outcome.root.map fun found ↦
        ⟨input.toList, parser.program, outcome.nodes, found.node⟩) = result ∧
      (parser.parseWith input options observe trace).parser.report =
        .ofFailures parser.program input.toList outcome.failures := by
  unfold parseWith at h ⊢
  cases hstart : parser.startOf input.toList options with
  | error error =>
    rw [hstart] at h
    cases h
  | ok start =>
    obtain ⟨rule, cursor⟩ := start
    simp only [hstart, runFrom] at h ⊢
    cases hrun : Machine.run (parser.setting input.toList observe) parser.limits.execFuel trace
      rule (options.consumeAll.getD parser.consumeAll) cursor with
    | mk finished left =>
      cases finished with
      | error error =>
        rw [hrun] at h
        cases h
      | ok outcome =>
        rw [hrun] at h
        exact ⟨rule, cursor, outcome, rfl, by rw [hrun], Except.ok.inj h, rfl⟩

theorem startOf_ok {parser : Parser} {input : List Char} {options : ParseOptions} {rule : RuleId}
    {cursor : Cursor} (h : parser.startOf input options = .ok (rule, cursor)) :
    cursor.offset = options.start ∧ cursor.LiesIn input := by
  have hplaced (root : Except RuntimeError RuleId) (cursor' : Cursor)
      (hroot : (do return (← root, cursor')) = Except.ok (rule, cursor)) : cursor' = cursor := by
    cases root with
    | error error => cases hroot
    | ok found =>
      cases hroot
      rfl
  have hunplaced (root : Except RuntimeError RuleId) (error : RuntimeError) :
      (do
        let _ ← root
        throw error) ≠ Except.ok (rule, cursor) := by
    cases root <;> rintro ⟨⟩
  unfold startOf at h
  cases hdrop : Text.dropBytes? input options.start with
  | none =>
    rw [hdrop] at h
    cases hname : options.root <;> rw [hname] at h <;> exact absurd h (hunplaced _ _)
  | some rest =>
    have hcursor : ⟨options.start, rest⟩ = cursor := by
      rw [hdrop] at h
      cases hname : options.root <;> rw [hname] at h <;> exact hplaced _ _ h
    subst hcursor
    exact ⟨rfl, hdrop⟩

theorem parseWith_askedClosed (parser : Parser) (input : String) (options : ParseOptions) :
    AskedClosed (parser.parseWith input options record []).trace := by
  unfold parseWith
  cases parser.startOf input.toList options with
  | error error => rintro _ _ ⟨⟩
  | ok start =>
    simp only [runFrom_trace]
    exact Machine.run_askedClosed _ rfl _ _ _ _

theorem parse_wellLinked (parser : Parser) (input : String) (options : ParseOptions)
    (tree : SyntaxTree) (h : (parser.parse input options).result = .ok (some tree)) :
    tree.WellLinked := by
  unfold parse parseWith at h
  cases hstart : parser.startOf input.toList options with
  | error error =>
    rw [hstart] at h
    cases h
  | ok start =>
    simp only [hstart, runFrom_result] at h
    cases hrun : (Machine.run (parser.setting input.toList fun _ _ ↦ ())
        parser.limits.execFuel () start.1 (options.consumeAll.getD parser.consumeAll)
        start.2).1 with
    | error error =>
      rw [hrun] at h
      cases h
    | ok outcome =>
      rw [hrun] at h
      obtain ⟨found, hroot, rfl⟩ := Option.map_eq_some_iff.mp (Except.ok.inj h)
      obtain ⟨written, hplace, hnodes⟩ := Machine.run_root _ _ _ _ _ _ hrun hroot
      rw [hplace, hnodes]
      exact Arena.wellLinked_write _ _ written

/-- Failed attempts leave no trace: every evaluation is tidy, whatever surrounds it, so conditions
are asked while all links lead somewhere, and in a finished tree the links agree and the root leads
to every node once. -/
theorem attempts_leave_no_trace :
    (∀ {τ : Type} (setting : Machine.Setting τ) (levels : Nat) (id : OpId) (cursor : Cursor)
        (around around' : Stacks) (store store' : Store τ) (found : Option Machine.Match),
      ((Machine.eval setting levels id cursor).run around).run.run store =
          (.ok (found, around'), store') →
        Tidy store.nodes around found store'.nodes around') ∧
    (∀ (parser : Parser) (input : String) (options : ParseOptions),
      AskedClosed (parser.parseWith input options record []).trace) ∧
    (∀ (parser : Parser) (input : String) (options : ParseOptions) (tree : SyntaxTree),
      (parser.parse input options).result = .ok (some tree) → tree.WellLinked) :=
  ⟨Machine.eval_tidy, parseWith_askedClosed, parse_wellLinked⟩

/-- A predicate rejects the first alternative after it matched a character. -/
def rejecting : Parser :=
  let ops := #[.anyChar, .predicate ⟨0⟩ false, .sequence [⟨0⟩, ⟨1⟩], .anyChar,
    .choice [⟨2⟩, ⟨3⟩]]
  (ofProgram ⟨"rejecting", [], ops, #[⟨"start", ⟨4⟩⟩], ⟨#["never"]⟩⟩).bind "never" fun _ ↦ .ok false

theorem attempts_leave_no_trace_of_rejecting :
    (∃ store : Store Unit,
      ((Machine.eval (rejecting.setting ['a'] fun _ _ ↦ ()) 2 ⟨2⟩ ⟨0, ['a']⟩).run .empty).run.run
          store = (.ok (none, .empty), store) ∧
        Tidy store.nodes .empty none store.nodes .empty) ∧
    AskedClosed (rejecting.parseWith "a" {} record []).trace ∧
    ∃ tree, (rejecting.parse "a" {}).result = .ok (some tree) ∧ tree.WellLinked := by
  obtain ⟨htidy, hasked, hlinked⟩ := attempts_leave_no_trace
  let store : Store Unit := ⟨#[.bare .empty (.emptyAt 0)], .empty, none, ()⟩
  have hfails : ((Machine.eval (rejecting.setting ['a'] fun _ _ ↦ ()) 2 ⟨2⟩
      ⟨0, ['a']⟩).run .empty).run.run store = (.ok (none, .empty), store) := rfl
  exact ⟨⟨store, hfails, htidy _ _ _ _ _ _ _ _ _ hfails⟩, hasked rejecting "a" {}, _, rfl,
    hlinked rejecting "a" {} _ rfl⟩

end Parser

end PegKit
