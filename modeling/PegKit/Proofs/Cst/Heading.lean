import PegKit.Cst.View
import PegKit.Proofs.Cst.Levels

/-!
# What stands before a grammar

A grammar is read at the first token that is no trivia, and only when that token is the keyword of a
grammar. The trivia passed on the way is added in front of the grammar's node, and what follows the
grammar is added after it. So the children of the root up to the grammar are the tokens up to the
keyword, and of a text that begins with any other token the tree has no grammar.
-/

namespace PegKit.Cst

def IsGrammar (tree : Cst) : Prop := ∃ children, tree = .node .grammarNode children

namespace Parse

variable {tokens : List Token} {s s' : State} {u : Unit}

/-! ## Before the grammar -/

/-- Of `tokens`, nothing but trivia has been passed. -/
structure Leading (tokens : List Token) (s : State) : Prop where
  built : s.built = #[]
  pending : ∀ token ∈ s.pending, token.isTrivia = true
  ahead : s.pending ++ s.remaining = tokens

theorem passTrivia_leads (h : Leading tokens s) (hrun : passTrivia.run s = .ok (u, s')) :
    Leading tokens s' := by
  rw [run_modify hrun]
  refine ⟨h.built, ?_, ?_⟩
  · intro token htoken
    rcases List.mem_append.mp htoken with hpending | hpassed
    · exact h.pending token hpending
    · exact List.mem_takeWhile_imp hpassed
  · rw [List.append_assoc, List.takeWhile_append_dropWhile, h.ahead]

theorem current_leads (h : Leading tokens s) {kind : Kind}
    (hrun : current.run s = .ok (kind, s')) :
    Leading tokens s' ∧ kind = (s'.remaining.head?.map (·.kind)).getD .error := by
  refine ⟨?_, run_current hrun⟩
  obtain ⟨_, s₁, hpass, hrest⟩ := run_bind hrun
  have hpassed := passTrivia_leads h hpass
  obtain ⟨_, s₂, hcount, hlook⟩ := run_bind hrest
  obtain ⟨lookaheads, rfl⟩ := countLookahead_reads hcount
  obtain ⟨_, rfl⟩ := run_gets hlook
  exact ⟨hpassed.built, hpassed.pending, hpassed.ahead⟩

theorem currentIs_leads (h : Leading tokens s) {kind : Kind} {b : Bool}
    (hrun : (currentIs kind).run s = .ok (b, s')) : Leading tokens s' := by
  obtain ⟨_, s₁, hcurrent, hrest⟩ := run_bind hrun
  obtain ⟨_, rfl⟩ := run_pure hrest
  exact (current_leads h hcurrent).1

theorem expect_leads (h : Leading tokens s) {kind : Kind}
    (hrun : (expect kind).run s = .ok (u, s')) :
    Leading tokens s' ∧ kind = (s'.remaining.head?.map (·.kind)).getD .error := by
  obtain ⟨found, s₁, hcurrent, hrest⟩ := run_bind hrun
  split at hrest
  · cases hrest
  · next hfound =>
    obtain ⟨_, rfl⟩ := run_pure hrest
    rw [← not_not.mp hfound]
    exact current_leads h hcurrent

/-- What was passed are the tokens up to the keyword of the grammar. -/
theorem Leading.takeWhile (h : Leading tokens s)
    (hkeyword : Kind.keywordGrammar = (s.remaining.head?.map (·.kind)).getD .error) :
    tokens.takeWhile (·.kind ≠ .keywordGrammar) = s.pending := by
  have hpending : ∀ token ∈ s.pending, decide (token.kind ≠ .keywordGrammar) = true := by
    intro token htoken
    exact decide_eq_true (Token.kind_ne_of_isTrivia (h.pending token htoken) rfl)
  rw [← h.ahead, List.takeWhile_append_of_pos hpending]
  cases hremaining : s.remaining with
  | nil =>
    rw [hremaining] at hkeyword
    cases hkeyword
  | cons token rest =>
    rw [hremaining] at hkeyword
    have hkind : token.kind = .keywordGrammar := hkeyword.symm
    rw [List.takeWhile_cons_of_neg (by simp [hkind]), List.append_nil]

/-- A grammar is added after the trivia that was passed. -/
theorem grammar_leads {levels : Nat} (h : Leading tokens s)
    (hrun : (grammar levels).run s = .ok (u, s')) : ∃ children,
      s'.built.toList = (tokens.takeWhile (·.kind ≠ .keywordGrammar)).map Cst.leaf ++
        [.node .grammarNode children] ∧
      ∀ token ∈ tokens.takeWhile (·.kind ≠ .keywordGrammar), token.isTrivia = true := by
  obtain ⟨_, s₁, hexpect, hnode⟩ := run_bind hrun
  obtain ⟨hleading, hkeyword⟩ := expect_leads h hexpect
  obtain ⟨s₂, _, rfl⟩ := run_node hnode
  rw [hleading.takeWhile hkeyword]
  exact ⟨s₂.built.toList, by simp [hleading.built], hleading.pending⟩

/-! ## After the grammar -/

/-- Only trees that are no grammars are added to the open node. -/
def Extends (s s' : State) : Prop :=
  ∃ added, s'.built.toList = s.built.toList ++ added ∧ ∀ tree ∈ added, ¬ tree.IsGrammar

theorem extends_of_leaves (added : List Token)
    (hbuilt : s'.built = s.built ++ (added.map Cst.leaf).toArray) : Extends s s' := by
  refine ⟨added.map Cst.leaf, by simp [hbuilt], ?_⟩
  intro tree htree
  obtain ⟨token, _, rfl⟩ := List.mem_map.mp htree
  rintro ⟨_, ⟨⟩⟩

theorem extends_of_same (hbuilt : s'.built = s.built) : Extends s s' :=
  extends_of_leaves [] (by simp [hbuilt])

theorem extends_tracked : Tracked Extends where
  refl _ := extends_of_same rfl
  trans := by
    rintro s s' s'' ⟨added, hadded, hfree⟩ ⟨added', hadded', hfree'⟩
    refine ⟨added ++ added', by rw [hadded', hadded, List.append_assoc], ?_⟩
    intro tree htree
    rcases List.mem_append.mp htree with htree | htree
    · exact hfree tree htree
    · exact hfree' tree htree
  looked _ _ := extends_of_same rfl
  passed _ := extends_of_same rfl
  flushed s := extends_of_leaves s.pending rfl
  taken _ token _ _ _ := extends_of_leaves [token] (by simp)
  placed _ _ := extends_of_same rfl
  reported _ _ := extends_of_same rfl

theorem bumpRest_extends : Preserves Extends bumpRest where
  holds {s _ _} hrun := by
    obtain ⟨s₁, _, rfl⟩ := run_node hrun
    have hflushed : Extends s { s₁ with built := s.built ++ (s.pending.map Cst.leaf).toArray } :=
      extends_of_leaves s.pending rfl
    refine extends_tracked.trans hflushed ⟨[.node .error s₁.built.toList], by simp, ?_⟩
    intro tree htree
    rw [List.mem_singleton.mp htree]
    rintro ⟨_, ⟨⟩⟩

theorem endOfText_extends : Preserves Extends endOfText :=
  have hflush : Preserves Extends addTrivia := addTrivia_preserves extends_tracked
  .bind extends_tracked (atEnd_preserves extends_tracked) fun _ ↦ .ite
    (.bind extends_tracked (error_preserves extends_tracked .trailingInput) fun _ ↦
      .bind extends_tracked bumpRest_extends fun _ ↦ hflush) hflush

/-! ## Whole texts -/

theorem grammar?_node {kind : Kind} {children : List Cst}
    (h : ∀ tree ∈ children, ¬ tree.IsGrammar) : (Cst.node kind children).grammar? = none := by
  rw [grammar?, childNode?, List.find?_eq_none]
  intro tree htree hgrammar
  cases tree with
  | leaf token => cases hgrammar
  | node found trees =>
    obtain rfl : found = .grammarNode := by simpa using hgrammar
    exact h _ htree ⟨trees, rfl⟩

/-- The children of the root, where one of them is a grammar. -/
theorem root_leads {levels : Nat} (hbuilt : s.built = #[]) (hpending : s.pending = [])
    (hrun : (root levels).run s = .ok (u, s')) : ∃ children,
      s'.built = #[.node .rootNode children] ∧
      ((Cst.node .rootNode children).grammar?.isSome → ∃ inner after, children =
          (s.remaining.takeWhile (·.kind ≠ .keywordGrammar)).map Cst.leaf ++
            .node .grammarNode inner :: after ∧
        ∀ token ∈ s.remaining.takeWhile (·.kind ≠ .keywordGrammar), token.isTrivia = true) := by
  obtain ⟨s₁, hbody, rfl⟩ := run_node hrun
  refine ⟨s₁.built.toList, by simp [hbuilt, hpending], ?_⟩
  intro hsome
  have hopened : Leading s.remaining { s with pending := [], built := #[] } :=
    ⟨rfl, by rintro _ ⟨⟩, rfl⟩
  obtain ⟨begun, s₂, hbegin, hrest⟩ := run_bind hbody
  have hleading := currentIs_leads hopened hbegin
  split at hrest
  · obtain ⟨_, s₃, hgrammar, hend⟩ := run_bind hrest
    obtain ⟨inner, hchildren, htrivia⟩ := grammar_leads hleading hgrammar
    obtain ⟨after, hafter, _⟩ := endOfText_extends.holds hend
    exact ⟨inner, after, by rw [hafter, hchildren, List.append_assoc]; rfl, htrivia⟩
  · obtain ⟨_, s₃, herror, hend⟩ := run_bind hrest
    obtain ⟨added, hadded, hfree⟩ := extends_tracked.trans
      ((error_preserves extends_tracked .expectedGrammar).holds herror)
      (endOfText_extends.holds hend)
    rw [hleading.built] at hadded
    rw [hadded, grammar?_node (by simpa using hfree)] at hsome
    cases hsome

end Parse

/-- In a text with a grammar only trivia stands before the keyword, and it is what stands in the
root before the grammar. -/
theorem parse_leads {source : String} {limits : Limits} {parsed : Parsed}
    (hparse : Cst.parse source limits = .ok parsed) (hsome : parsed.root.grammar?.isSome) :
    ∃ inner after, parsed.root.children =
        ((Token.lex source.toList).takeWhile (·.kind ≠ .keywordGrammar)).map Cst.leaf ++
          .node .grammarNode inner :: after ∧
      ∀ token ∈ (Token.lex source.toList).takeWhile (·.kind ≠ .keywordGrammar),
        token.isTrivia = true := by
  obtain ⟨s, hrun, ⟨_, _, hroot⟩, _⟩ := parse_run hparse
  obtain ⟨children, hbuilt, hleads⟩ := Parse.root_leads rfl rfl hrun
  have hroot : parsed.root = .node .rootNode children := by simpa [hbuilt] using hroot.symm
  rw [hroot] at hsome ⊢
  exact hleads hsome

end PegKit.Cst
