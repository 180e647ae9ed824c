import PegKit.Proofs.Grammar.Distinct
import PegKit.Proofs.Grammar.LeftRecursion

/-!
# Cycles of leftmost calls

What the analysis of left recursion reports, said without the iterations that find it: the nullable
rules are the least closed set, an expression may call a rule where it starts if a path through its
nullable items leads there, and a rule is reported exactly when it lies on a cycle of such calls.
Searching the graph with a stack and the names visited so far finds the same rules.
-/

namespace PegKit

/-! ## Calls -/

namespace Expr

/-- `expr` may call the rule `name` at the place where it starts, when the rules of `nullable` may
succeed without consuming input. -/
inductive MayCall (nullable : List String) : Expr → String → Prop
  | ruleRef (name : String) : MayCall nullable (.ruleRef name) name
  | sequence {before after : List Expr} {item : Expr} {name : String}
      (hbefore : ∀ expr ∈ before, expr.isNullable nullable = true)
      (hitem : MayCall nullable item name) :
      MayCall nullable (.sequence (before ++ item :: after)) name
  | choice {alternatives : List Expr} {alternative : Expr} {name : String}
      (hmem : alternative ∈ alternatives) (halternative : MayCall nullable alternative name) :
      MayCall nullable (.choice alternatives) name
  | repetition {inner : Expr} {least : Nat} {name : String} (hinner : MayCall nullable inner name) :
      MayCall nullable (.repetition inner least) name
  | optional {inner : Expr} {name : String} (hinner : MayCall nullable inner name) :
      MayCall nullable (.optional inner) name
  | lookahead {inner : Expr} {name : String} (hinner : MayCall nullable inner name) :
      MayCall nullable (.lookahead inner) name
  | negativeLookahead {inner : Expr} {name : String} (hinner : MayCall nullable inner name) :
      MayCall nullable (.negativeLookahead inner) name
  | label {tag : String} {inner : Expr} {name : String} (hinner : MayCall nullable inner name) :
      MayCall nullable (.label tag inner) name

variable {nullable : List String}

/-- The calls that are listed are those that may be made. -/
theorem mem_leftmostCalls_of_mayCall {expr : Expr} {name : String}
    (h : expr.MayCall nullable name) : name ∈ expr.leftmostCalls nullable := by
  induction h with
  | ruleRef name => exact List.mem_singleton_self name
  | @sequence before after item name hbefore hitem ih =>
    rw [leftmostCalls]
    induction before with
    | nil => exact List.mem_append_left _ ih
    | cons first rest ihbefore =>
      obtain ⟨hfirst, hrest⟩ := List.forall_mem_cons.mp hbefore
      rw [List.cons_append, leftmostOfSequence, if_pos hfirst]
      exact List.mem_append_right _ (ihbefore hrest)
  | @choice alternatives alternative name hmem halternative ih =>
    rw [leftmostCalls]
    induction alternatives with
    | nil => cases hmem
    | cons first rest ihrest =>
      rw [leftmostOfChoice]
      rcases List.mem_cons.mp hmem with hfirst | hrest
      · rw [← hfirst]
        exact List.mem_append_left _ ih
      · exact List.mem_append_right _ (ihrest hrest)
  | repetition _ ih => exact ih
  | optional _ ih => exact ih
  | lookahead _ ih => exact ih
  | negativeLookahead _ ih => exact ih
  | label _ ih => exact ih

mutual

theorem mayCall_of_mem : (expr : Expr) → {name : String} → name ∈ expr.leftmostCalls nullable →
    expr.MayCall nullable name
  | .terminal _, _, h => nomatch h
  | .charClass _, _, h => nomatch h
  | .anyChar, _, h => nomatch h
  | .predicate _ _, _, h => nomatch h
  | .sequence items, name, h => by
    obtain ⟨before, item, after, hitems, hbefore, hitem⟩ := mayCall_of_mem_sequence items h
    rw [hitems]
    exact .sequence hbefore hitem
  | .choice alternatives, name, h => by
    obtain ⟨alternative, hmem, halternative⟩ := mayCall_of_mem_choice alternatives h
    exact .choice hmem halternative
  | .repetition inner _, _, h => .repetition (mayCall_of_mem inner h)
  | .optional inner, _, h => .optional (mayCall_of_mem inner h)
  | .lookahead inner, _, h => .lookahead (mayCall_of_mem inner h)
  | .negativeLookahead inner, _, h => .negativeLookahead (mayCall_of_mem inner h)
  | .label _ inner, _, h => .label (mayCall_of_mem inner h)
  | .ruleRef called, name, h => by
    rw [List.mem_singleton.mp h]
    exact .ruleRef called

theorem mayCall_of_mem_sequence : (items : List Expr) → {name : String} →
    name ∈ leftmostOfSequence nullable items → ∃ before item after,
      items = before ++ item :: after ∧ (∀ expr ∈ before, expr.isNullable nullable = true) ∧
        item.MayCall nullable name
  | [], _, h => nomatch h
  | first :: rest, name, h => by
    rw [leftmostOfSequence, List.mem_append] at h
    rcases h with hfirst | hlater
    · refine ⟨[], first, rest, rfl, ?_, mayCall_of_mem first hfirst⟩
      intro expr hexpr
      cases hexpr
    · by_cases hnullable : first.isNullable nullable = true
      · rw [if_pos hnullable] at hlater
        obtain ⟨before, item, after, hrest, hbefore, hitem⟩ := mayCall_of_mem_sequence rest hlater
        refine ⟨first :: before, item, after, ?_, ?_, hitem⟩
        · rw [hrest, List.cons_append]
        · exact List.forall_mem_cons.mpr ⟨hnullable, hbefore⟩
      · rw [if_neg hnullable] at hlater
        cases hlater

theorem mayCall_of_mem_choice : (alternatives : List Expr) → {name : String} →
    name ∈ leftmostOfChoice nullable alternatives →
      ∃ alternative ∈ alternatives, alternative.MayCall nullable name
  | [], _, h => nomatch h
  | first :: rest, name, h => by
    rw [leftmostOfChoice, List.mem_append] at h
    rcases h with hfirst | hlater
    · exact ⟨first, List.mem_cons_self, mayCall_of_mem first hfirst⟩
    · obtain ⟨alternative, hmem, halternative⟩ := mayCall_of_mem_choice rest hlater
      exact ⟨alternative, List.mem_cons_of_mem _ hmem, halternative⟩

end

theorem mem_leftmostCalls_iff {expr : Expr} {name : String} :
    name ∈ expr.leftmostCalls nullable ↔ expr.MayCall nullable name :=
  ⟨mayCall_of_mem expr, mem_leftmostCalls_of_mayCall⟩

end Expr

namespace Grammar

/-! ## The least closed set -/

/-- `names` are closed under the rule bodies, and every closed set holds them. -/
structure LeastNullable (grammar : Grammar) (names : List String) : Prop where
  closed : NullClosed grammar.rules names
  least : ∀ names', NullClosed grammar.rules names' → names ⊆ names'

theorem nullableRules_least (grammar : Grammar) :
    grammar.LeastNullable grammar.nullableRules := by
  constructor
  · exact nullableRules_closed grammar
  · intro names hclosed
    have hsteps : ∀ steps, Nat.repeat (sweep grammar.rules) steps [] ⊆ names := by
      intro steps
      induction steps with
      | zero => exact List.nil_subset names
      | succ steps ih => exact hclosed.sweep_subset ih
    exact hsteps grammar.rules.length

/-! ## Cycles -/

/-- The body of the rule `caller` may call the rule `callee` where it starts. A name that no rule
has calls nothing. -/
def LeftCall (grammar : Grammar) (nullable : List String) (caller callee : String) : Prop :=
  ∃ rule, grammar.rule? caller = some rule ∧ rule.body.MayCall nullable callee

theorem edge_callGraph_iff {grammar : Grammar} {caller callee : String} :
    Edge grammar.callGraph caller callee ↔
      grammar.LeftCall grammar.nullableRules caller callee := by
  rw [Edge, LeftCall, lookup_callGraph]
  cases grammar.rule? caller with
  | none => simp
  | some rule => simp [Expr.mem_leftmostCalls_iff]

section Reaching

variable {graph : List (String × List String)} {start : String}

/-- What spreading from the successors of a name finds lies on a path from it. -/
theorem isOnCycle_iff :
    isOnCycle graph start = true ↔ Relation.TransGen (Edge graph) start start := by
  constructor
  · intro h
    let successors := (graph.lookup start).getD []
    have hreached : ∀ steps, ∀ name ∈ Nat.repeat (spread graph) steps successors,
        Relation.TransGen (Edge graph) start name := by
      intro steps
      induction steps with
      | zero =>
        intro name hname
        exact .single hname
      | succ steps ih =>
        intro name hname
        rcases mem_spread.mp hname with hold | ⟨source, hsource, hedge⟩
        · exact ih name hold
        · exact .tail (ih source hsource) hedge
    rw [isOnCycle, List.contains_iff_mem] at h
    exact hreached graph.length start h
  · exact isOnCycle_of_path

/-- The names with successors that were not visited. -/
def unvisited (graph : List (String × List String)) (visited : List String) : Finset String :=
  (graph.map Prod.fst).toFinset.filter (· ∉ visited)

/-- Visiting a name leaves fewer, or there is nothing to put on the stack. -/
theorem unvisited_cons (graph : List (String × List String)) {visited : List String} {name : String}
    (hnew : name ∉ visited) :
    (unvisited graph (name :: visited)).card < (unvisited graph visited).card ∨
      unvisited graph (name :: visited) = unvisited graph visited ∧
        (graph.lookup name).getD [] = [] := by
  by_cases hkey : name ∈ graph.map Prod.fst
  · left
    apply Finset.card_lt_card
    rw [Finset.ssubset_iff_of_subset]
    · exact ⟨name, by simpa [unvisited, hnew] using hkey, by simp [unvisited]⟩
    · intro other hother
      simp only [unvisited, Finset.mem_filter, List.mem_cons, not_or] at hother ⊢
      exact ⟨hother.1, hother.2.2⟩
  · right
    constructor
    · apply Finset.filter_congr
      intro other hother
      have hdifferent : other ≠ name := by
        intro hsame
        rw [hsame, List.mem_toFinset] at hother
        exact hkey hother
      rw [List.mem_cons, not_or]
      exact and_iff_right hdifferent
    · apply List.eq_nil_iff_forall_not_mem.mpr
      intro target hedge
      exact hkey (Edge.mem_keys hedge)

/-- Whether `start` is met among the names on `stack` and what they lead to, those that were
visited apart. The successors of a name are put on the stack one after the other. -/
def search (graph : List (String × List String)) (start : String) (visited : List String) :
    List String → Bool
  | [] => false
  | name :: stack =>
    if name = start then true
    else if name ∈ visited then search graph start visited stack
    else search graph start (name :: visited) (((graph.lookup name).getD []).reverse ++ stack)
termination_by stack => ((unvisited graph visited).card, stack.length)
decreasing_by
  · exact Prod.Lex.right _ (Nat.lt_succ_self _)
  · next hnew =>
    rcases unvisited_cons graph hnew with hfewer | ⟨hsame, hnone⟩
    · exact Prod.Lex.left _ _ hfewer
    · rw [hsame, hnone]
      exact Prod.Lex.right _ (Nat.lt_succ_self _)

/-- Whether a search from the successors of `start` comes back to it. -/
def reaches (graph : List (String × List String)) (start : String) : Bool :=
  search graph start [] ((graph.lookup start).getD []).reverse

/-- How far a search from `start` has come: what one edge leads to from a visited name, or from
`start`, is visited or on the stack, and all of the stack lies on paths from `start`. -/
structure Frontier (graph : List (String × List String)) (start : String)
    (visited stack : List String) : Prop where
  fresh : start ∉ visited
  closed : ∀ source target, source = start ∨ source ∈ visited → Edge graph source target →
    target ∈ visited ∨ target ∈ stack
  reached : ∀ name ∈ stack, Relation.TransGen (Edge graph) start name

theorem Frontier.initial (graph : List (String × List String)) (start : String) :
    Frontier graph start [] ((graph.lookup start).getD []).reverse := by
  constructor
  · exact List.not_mem_nil
  · intro source target hsource hedge
    rcases hsource with hstart | hvisited
    · right
      rw [hstart] at hedge
      exact List.mem_reverse.mpr hedge
    · cases hvisited
  · intro name hname
    exact .single (List.mem_reverse.mp hname)

/-- Nothing is lost with a name that was visited before. -/
theorem Frontier.skip {visited stack : List String} {name : String}
    (h : Frontier graph start visited (name :: stack)) (hvisited : name ∈ visited) :
    Frontier graph start visited stack := by
  constructor
  · exact h.fresh
  · intro source target hsource hedge
    rcases h.closed source target hsource hedge with hold | hstack
    · exact .inl hold
    · rcases List.mem_cons.mp hstack with hname | hstack
      · rw [hname]
        exact .inl hvisited
      · exact .inr hstack
  · intro other hother
    exact h.reached other (List.mem_cons_of_mem _ hother)

/-- A name is visited by putting its successors on the stack. -/
theorem Frontier.visit {visited stack : List String} {name : String}
    (h : Frontier graph start visited (name :: stack)) (hname : name ≠ start) :
    Frontier graph start (name :: visited) (((graph.lookup name).getD []).reverse ++ stack) := by
  constructor
  · rw [List.mem_cons, not_or]
    exact ⟨Ne.symm hname, h.fresh⟩
  · intro source target hsource hedge
    by_cases hthis : source = name
    · right
      rw [hthis] at hedge
      exact List.mem_append_left _ (List.mem_reverse.mpr hedge)
    · have hbefore : source = start ∨ source ∈ visited :=
        hsource.imp_right fun hmem ↦ (List.mem_cons.mp hmem).resolve_left hthis
      rcases h.closed source target hbefore hedge with hold | hstack
      · exact .inl (List.mem_cons_of_mem _ hold)
      · rcases List.mem_cons.mp hstack with hfirst | hstack
        · rw [hfirst]
          exact .inl List.mem_cons_self
        · exact .inr (List.mem_append_right _ hstack)
  · intro other hother
    rcases List.mem_append.mp hother with hnext | hstack
    · exact .tail (h.reached name List.mem_cons_self) (List.mem_reverse.mp hnext)
    · exact h.reached other (List.mem_cons_of_mem _ hstack)

/-- Once the stack is empty, all that `start` leads to has been visited. -/
theorem Frontier.exhausted {visited : List String} (h : Frontier graph start visited []) :
    ¬Relation.TransGen (Edge graph) start start := by
  have hvisited : ∀ name, Relation.TransGen (Edge graph) start name → name ∈ visited := by
    intro name hpath
    induction hpath with
    | single hedge => exact (h.closed _ _ (.inl rfl) hedge).resolve_right List.not_mem_nil
    | tail _ hedge ih => exact (h.closed _ _ (.inr ih) hedge).resolve_right List.not_mem_nil
  intro hcycle
  exact h.fresh (hvisited start hcycle)

theorem search_iff {visited stack : List String} (h : Frontier graph start visited stack) :
    search graph start visited stack = true ↔ Relation.TransGen (Edge graph) start start := by
  fun_induction search graph start visited stack with
  | case1 visited => exact iff_of_false Bool.false_ne_true h.exhausted
  | case2 visited stack => exact iff_of_true rfl (h.reached start List.mem_cons_self)
  | case3 visited name stack hname hvisited ih => exact ih (h.skip hvisited)
  | case4 visited name stack hname hvisited ih => exact ih (h.visit hname)

theorem reaches_eq_isOnCycle (graph : List (String × List String)) (start : String) :
    reaches graph start = isOnCycle graph start := by
  rw [Bool.eq_iff_iff, isOnCycle_iff, reaches]
  exact search_iff (.initial graph start)

end Reaching

theorem mem_leftRecursiveRules_iff {grammar : Grammar} {name : String} :
    name ∈ grammar.leftRecursiveRules ↔
      Relation.TransGen (grammar.LeftCall grammar.nullableRules) name name := by
  have hsame : Edge grammar.callGraph = grammar.LeftCall grammar.nullableRules := by
    funext caller callee
    exact propext edge_callGraph_iff
  rw [leftRecursiveRules, List.mem_filter, isOnCycle_iff, hsame]
  apply and_iff_right_of_imp
  intro hcycle
  obtain ⟨_, ⟨rule, hrule, _⟩, _⟩ := Relation.TransGen.head'_iff.mp hcycle
  have hname : rule.name = name := by simpa using List.find?_some hrule
  rw [← hname]
  exact List.mem_map_of_mem (List.mem_of_find?_eq_some hrule)

/-- The rules reported are, in the order of declaration and each once, those on a cycle of leftmost
calls, where a sequence calls up to its first item that is not nullable over the least set. -/
theorem leftRecursiveRules_exact (grammar : DistinctGrammar) :
    grammar.LeastNullable grammar.nullableRules ∧
      grammar.leftRecursiveRules.Sublist grammar.ruleNames ∧ grammar.leftRecursiveRules.Nodup ∧
      (∀ name, name ∈ grammar.leftRecursiveRules ↔
        Relation.TransGen (grammar.LeftCall grammar.nullableRules) name name) ∧
      grammar.leftRecursiveRules = grammar.ruleNames.filter (reaches grammar.callGraph) := by
  have hsublist : grammar.leftRecursiveRules.Sublist grammar.ruleNames := List.filter_sublist
  refine ⟨nullableRules_least grammar.toGrammar, hsublist, hsublist.nodup grammar.distinct,
    fun name ↦ mem_leftRecursiveRules_iff, ?_⟩
  apply List.filter_congr
  intro name _
  exact (reaches_eq_isOnCycle grammar.callGraph name).symm

/-- `list` comes back to itself past `blank`, which may read nothing; `item` does not get past its
terminal. -/
theorem leftRecursiveRules_exact_hidden : ∃ grammar : DistinctGrammar,
    grammar.toGrammar = ⟨"g", [⟨"list", .sequence [.ruleRef "blank", .choice [.ruleRef "list",
      .ruleRef "other"]]⟩, ⟨"blank", .zeroOrMore (.terminal " ")⟩,
      ⟨"item", .sequence [.terminal "x", .ruleRef "item"]⟩], []⟩ ∧
    Relation.TransGen (grammar.LeftCall grammar.nullableRules) "list" "list" ∧
    ¬Relation.TransGen (grammar.LeftCall grammar.nullableRules) "item" "item" := by
  obtain ⟨grammar, hgrammar⟩ : ∃ grammar : DistinctGrammar,
      grammar.toGrammar = ⟨"g", [⟨"list", .sequence [.ruleRef "blank", .choice [.ruleRef "list",
        .ruleRef "other"]]⟩, ⟨"blank", .zeroOrMore (.terminal " ")⟩,
        ⟨"item", .sequence [.terminal "x", .ruleRef "item"]⟩], []⟩ := ⟨⟨_, by decide⟩, rfl⟩
  have hreported : grammar.leftRecursiveRules = ["list"] := by
    rw [hgrammar]
    decide +kernel
  obtain ⟨-, -, -, hcycles, -⟩ := leftRecursiveRules_exact grammar
  refine ⟨grammar, hgrammar, ?_, ?_⟩
  · apply (hcycles "list").mp
    rw [hreported]
    exact List.mem_singleton_self "list"
  · apply (hcycles "item").not.mp
    rw [hreported]
    decide

end Grammar

end PegKit
