import PegKit.Proofs.Cst.References
import PegKit.Proofs.Cst.Origin
import PegKit.Proofs.Machine.Nesting

/-!
# How deep trees nest

Expression nodes inside each other, and what bounds their number: layers of nodes that are no
repetitions, and between two of them as many repetitions as there are repetition marks in a row in
the text. The expression that a tree stands for nests no deeper than its nodes.
-/

namespace PegKit

namespace Token

def isMark (token : Token) : Bool :=
  KindSet.quantifiers.contains token.kind

theorem isTrivia_of_isMark {token : Token} (h : token.isMark = true) : token.isTrivia = false := by
  unfold isMark at h
  unfold isTrivia
  cases hkind : token.kind <;> rw [hkind] at h <;> first | rfl | cases h

/-- The most tokens in a row that are repetition marks. -/
def mostInARow : List Token → Nat
  | [] => 0
  | token :: rest => max ((token :: rest).takeWhile isMark).length (mostInARow rest)

/-- The most repetition marks in a row, trivia between them aside. -/
def mostMarks (tokens : List Token) : Nat :=
  mostInARow (significant tokens)

/-- Marks that stand together. -/
structure InARow (marks tokens : List Token) : Prop where
  together : marks <:+: significant tokens
  marks : ∀ token ∈ marks, token.isMark = true

theorem InARow.widen {marks tokens tokens' : List Token} (h : InARow marks tokens)
    (hwithin : tokens <:+: tokens') : InARow marks tokens' :=
  ⟨h.together.trans (hwithin.filter _), h.marks⟩

theorem le_mostInARow {before marks after : List Token}
    (h : ∀ token ∈ marks, token.isMark = true) :
    marks.length ≤ mostInARow (before ++ marks ++ after) := by
  induction before with
  | nil =>
    cases marks with
    | nil => exact Nat.zero_le _
    | cons mark others =>
      calc
        (mark :: others).length ≤ ((mark :: others ++ after).takeWhile isMark).length := by
          rw [List.takeWhile_append_of_pos h, List.length_append]
          exact Nat.le_add_right _ _
        _ ≤ mostInARow (mark :: others ++ after) := le_max_left _ _
  | cons token rest ih => exact ih.trans (le_max_right _ _)

theorem InARow.length_le {marks tokens : List Token} (h : InARow marks tokens) :
    marks.length ≤ mostMarks tokens := by
  obtain ⟨before, after, hsplit⟩ := h.together
  rw [mostMarks, ← hsplit]
  exact le_mostInARow h.marks

end Token

namespace Cst

mutual

/-- The most expression nodes inside each other. -/
def nesting : Cst → Nat
  | .leaf _ => 0
  | .node kind children => (if kind.isExpression then 1 else 0) + nestingOfList children

def nestingOfList : List Cst → Nat
  | [] => 0
  | tree :: rest => max tree.nesting (nestingOfList rest)

end

theorem nestingOfList_le {trees : List Cst} {bound : Nat}
    (h : ∀ tree ∈ trees, tree.nesting ≤ bound) :
    nestingOfList trees ≤ bound := by
  induction trees with
  | nil => exact Nat.zero_le _
  | cons tree rest ih =>
    exact max_le (h tree List.mem_cons_self) (ih fun other hother ↦
      h other (List.mem_cons_of_mem _ hother))

theorem nesting_le_of_mem {tree : Cst} {trees : List Cst} (h : tree ∈ trees) :
    tree.nesting ≤ nestingOfList trees := by
  induction trees with
  | nil => cases h
  | cons first rest ih =>
    rw [nestingOfList]
    rcases List.mem_cons.mp h with rfl | hrest
    · exact le_max_left _ _
    · exact (ih hrest).trans (le_max_right _ _)

theorem nestingOfList_children_le (tree : Cst) : nestingOfList tree.children ≤ tree.nesting := by
  cases tree with
  | leaf token => exact Nat.le_refl _
  | node kind children => exact Nat.le_add_left _ _

theorem nesting_le_of_mem_children {tree child : Cst} (h : child ∈ tree.children) :
    child.nesting ≤ tree.nesting :=
  (nesting_le_of_mem h).trans (nestingOfList_children_le tree)

/-! ## Layers -/

/-- A tree of at most `layers` nodes inside each other that are no repetitions. A repetition is of
one thing, and its mark comes last. -/
inductive Layered : Nat → Cst → Prop
  | leaf {layers : Nat} (token : Token) : Layered layers (.leaf token)
  | node {layers : Nat} {kind : Kind} {children : List Cst} (other : kind ≠ .quantifierNode)
      (within : ∀ child ∈ children, Layered layers child) :
      Layered (layers + 1) (.node kind children)
  | repetition {layers : Nat} {children inner : List Cst} {mark : Token}
      (parts : significant children = inner ++ [.leaf mark]) (single : inner.length ≤ 1)
      (isMark : mark.isMark = true) (within : ∀ child ∈ children, Layered layers child) :
      Layered layers (.node .quantifierNode children)

theorem Layered.mono {layers layers' : Nat} {tree : Cst} (h : Layered layers tree)
    (hle : layers ≤ layers') : Layered layers' tree := by
  induction h generalizing layers' with
  | leaf token => exact .leaf token
  | node other _ ih =>
    obtain ⟨more, rfl⟩ := Nat.exists_eq_add_of_lt hle
    exact .node other fun child hchild ↦ ih child hchild (Nat.le_add_right _ _)
  | repetition parts single isMark _ ih =>
    exact .repetition parts single isMark fun child hchild ↦ ih child hchild hle

/-- The tokens of a child stand together. -/
theorem tokens_within {child : Cst} {children : List Cst} (h : child ∈ children) :
    child.tokens <:+: tokensOfList children := by
  obtain ⟨before, after, rfl⟩ := List.append_of_mem h
  refine ⟨tokensOfList before, tokensOfList after, ?_⟩
  rw [Parse.tokensOfList_append, tokensOfList, List.append_assoc]

/-- Trivia is a token among the children, or is left out of them. -/
theorem significant_tokensOfList (trees : List Cst) :
    Token.significant (tokensOfList (significant trees)) =
      Token.significant (tokensOfList trees) := by
  induction trees with
  | nil => rfl
  | cons tree rest ih =>
    have hcons : Token.significant (tokensOfList (tree :: rest)) =
        Token.significant tree.tokens ++ Token.significant (tokensOfList rest) :=
      List.filter_append _ _
    cases hsignificant : tree.isSignificant with
    | true =>
      rw [significant, List.filter_cons_of_pos hsignificant, hcons, ← ih]
      exact List.filter_append _ _
    | false =>
      rw [significant, List.filter_cons_of_neg (by simp [hsignificant]), hcons, ← ih]
      cases tree with
      | leaf token =>
        have htrivia : token.isTrivia = true := by simpa [isSignificant] using hsignificant
        rw [tokens, Token.significant_cons, if_pos htrivia]
        rfl
      | node kind children => cases hsignificant

theorem nestingOfList_append (trees trees' : List Cst) :
    nestingOfList (trees ++ trees') = max (nestingOfList trees) (nestingOfList trees') := by
  induction trees with
  | nil => exact (Nat.zero_max _).symm
  | cons tree rest ih =>
    rw [List.cons_append, nestingOfList, nestingOfList, ih, max_assoc]

theorem nestingOfList_significant (trees : List Cst) :
    nestingOfList (significant trees) = nestingOfList trees := by
  induction trees with
  | nil => rfl
  | cons tree rest ih =>
    cases hsignificant : tree.isSignificant with
    | true =>
      rw [significant, List.filter_cons_of_pos hsignificant, nestingOfList, nestingOfList, ← ih]
      rfl
    | false =>
      rw [significant, List.filter_cons_of_neg (by simp [hsignificant]), nestingOfList, ← ih]
      cases tree with
      | leaf token => exact (Nat.zero_max _).symm
      | node kind children => cases hsignificant

/-- Of `depth` nodes inside each other all but `most` are repetitions by the last of the tokens. -/
def Capped (tokens : List Token) (depth most : Nat) : Prop :=
  ∃ before marks, Token.significant tokens = before ++ marks ∧
    (∀ token ∈ marks, token.isMark = true) ∧ depth ≤ most + marks.length

theorem Capped.of_le {tokens : List Token} {depth most : Nat} (h : depth ≤ most) :
    Capped tokens depth most :=
  ⟨Token.significant tokens, [], (List.append_nil _).symm, by rintro _ ⟨⟩, h⟩

/-- One more mark makes one more repetition. -/
theorem Capped.marked {tokens tokens' : List Token} {depth most : Nat} {mark : Token}
    (h : Capped tokens depth most) (hmark : mark.isMark = true)
    (htokens : Token.significant tokens' = Token.significant tokens ++ [mark]) :
    Capped tokens' (depth + 1) most := by
  obtain ⟨before, marks, hsplit, hmarks, hle⟩ := h
  refine ⟨before, marks ++ [mark], ?_, ?_, ?_⟩
  · rw [htokens, hsplit, List.append_assoc]
  · intro token htoken
    rcases List.mem_append.mp htoken with htoken | htoken
    · exact hmarks token htoken
    · exact List.mem_singleton.mp htoken ▸ hmark
  · rw [List.length_append, List.length_singleton, ← Nat.add_assoc]
    exact Nat.succ_le_succ hle

theorem Capped.depth_le {tokens : List Token} {depth most bound : Nat}
    (h : Capped tokens depth most)
    (hbound : ∀ marks, Token.InARow marks tokens → marks.length ≤ bound) :
    depth ≤ most + bound := by
  obtain ⟨before, marks, hsplit, hmarks, hle⟩ := h
  have hrow : Token.InARow marks tokens := ⟨⟨before, [], by rw [hsplit, List.append_nil]⟩, hmarks⟩
  exact hle.trans (Nat.add_le_add_left (hbound marks hrow) _)

/-- The tokens of a repetition are those of what it repeats and its mark. -/
theorem significant_repetition {children inner : List Cst} {mark : Token}
    (hparts : significant children = inner ++ [.leaf mark]) (hmark : mark.isMark = true) :
    Token.significant (tokensOfList children) =
      Token.significant (tokensOfList inner) ++ [mark] := by
  have htrivia : mark.isTrivia = false := Token.isTrivia_of_isMark hmark
  calc
    Token.significant (tokensOfList children) =
        Token.significant (tokensOfList (inner ++ [.leaf mark])) := by
      rw [← significant_tokensOfList, hparts]
    _ = Token.significant (tokensOfList inner) ++ Token.significant [mark] := by
      rw [Parse.tokensOfList_append, Parse.tokensOfList_singleton, tokens]
      exact List.filter_append _ _
    _ = Token.significant (tokensOfList inner) ++ [mark] := by
      rw [Token.significant_cons, htrivia]
      rfl

theorem nesting_repetition {children inner : List Cst} {mark : Token}
    (hparts : significant children = inner ++ [.leaf mark]) :
    (Cst.node .quantifierNode children).nesting = nestingOfList inner + 1 := by
  calc
    (Cst.node .quantifierNode children).nesting = nestingOfList (significant children) + 1 := by
      rw [nestingOfList_significant, Nat.add_comm]
      rfl
    _ = nestingOfList inner + 1 := by
      rw [hparts, nestingOfList_append]
      exact congrArg (· + 1) (Nat.max_zero _)

/-- Repetitions stand between the layers of a tree and on top of them, there as many as the tree
ends with marks. -/
theorem Layered.capped {layers most : Nat} {tree : Cst} (h : Layered layers tree)
    (hmost : ∀ marks, Token.InARow marks tree.tokens → marks.length ≤ most) :
    Capped tree.tokens tree.nesting (layers * (most + 1)) := by
  induction h with
  | leaf token => exact .of_le (Nat.zero_le _)
  | @node layers kind children other within ih =>
    have hchildren : nestingOfList children ≤ layers * (most + 1) + most := by
      apply nestingOfList_le
      intro child hchild
      have hrows (marks : List Token) (hrow : Token.InARow marks child.tokens) :
          marks.length ≤ most :=
        hmost marks (hrow.widen (tokens_within hchild))
      exact (ih child hchild hrows).depth_le hrows
    apply Capped.of_le
    calc
      (Cst.node kind children).nesting ≤ 1 + nestingOfList children := by
        rw [nesting]
        exact Nat.add_le_add_right (by split <;> decide) _
      _ ≤ 1 + (layers * (most + 1) + most) := Nat.add_le_add_left hchildren _
      _ = (layers + 1) * (most + 1) := by
        rw [Nat.add_one_mul]
        omega
  | @repetition layers children inner mark parts single isMark within ih =>
    have hinner : Capped (tokensOfList inner) (nestingOfList inner) (layers * (most + 1)) := by
      rcases inner with _ | ⟨tree, _ | ⟨second, others⟩⟩
      · exact .of_le (Nat.zero_le _)
      · have hchild : tree ∈ children :=
          List.mem_of_mem_filter (parts ▸ List.mem_cons_self : tree ∈ significant children)
        rw [Parse.tokensOfList_singleton, nestingOfList, nestingOfList, Nat.max_zero]
        exact ih tree hchild fun marks hrow ↦ hmost marks (hrow.widen (tokens_within hchild))
      · exact absurd single (by simp)
    rw [nesting_repetition parts]
    exact hinner.marked isMark (significant_repetition parts isMark)

theorem Layered.nesting_lt {layers : Nat} {tree : Cst} (h : Layered layers tree) :
    tree.nesting < (layers + 1) * (Token.mostMarks tree.tokens + 1) := by
  have hcapped := h.capped fun _ hrow ↦ hrow.length_le
  calc
    tree.nesting ≤ layers * (Token.mostMarks tree.tokens + 1) + Token.mostMarks tree.tokens :=
      hcapped.depth_le fun _ hrow ↦ hrow.length_le
    _ < layers * (Token.mostMarks tree.tokens + 1) + (Token.mostMarks tree.tokens + 1) :=
      Nat.lt_succ_self _
    _ = (layers + 1) * (Token.mostMarks tree.tokens + 1) := (Nat.add_one_mul _ _).symm

end Cst

/-! ## Meanings -/

namespace Meaning

open PegKit.Expr (heightOfList)

theorem quantify_height (mark : Option Kind) (inner : Expr) :
    (quantify mark inner).height = inner.height + 1 := by
  unfold quantify
  split <;> rfl

mutual

theorem expr_height : (tree : Cst) → (reports : Diagnostics) →
    ((expr tree).run reports).1.height ≤ tree.nesting + 1
  | .leaf _, _ => Nat.le_refl _
  | .node kind children, reports => by
    have hexprs := exprs_height children reports
    have hoperand := operand_height children reports
    have hleaf : 1 ≤ (Cst.node kind children).nesting + 1 := Nat.le_add_left _ _
    cases kind <;> rw [expr]
    case choiceNode => exact Nat.succ_le_succ (hexprs.trans (Nat.add_comm _ _).le)
    case seqNode => exact Nat.succ_le_succ (hexprs.trans (Nat.add_comm _ _).le)
    case labelNode => exact Nat.succ_le_succ (hoperand.trans (Nat.add_comm _ _).le)
    case groupNode => exact hoperand.trans (Nat.succ_le_succ (Nat.le_add_left _ _))
    case quantifierNode =>
      refine (quantify_height _ _).le.trans ?_
      exact Nat.succ_le_succ (hoperand.trans (Nat.add_comm _ _).le)
    case lookaheadNode =>
      change Expr.height (if _ then _ else _) ≤ _
      split <;> exact Nat.succ_le_succ (hoperand.trans (Nat.add_comm _ _).le)
    case strNode =>
      change Expr.height (.terminal _) ≤ _
      exact hleaf
    case charClassNode =>
      change Expr.height ((charClass _).run reports).1 ≤ _
      rw [charClass]
      split
      · exact hleaf
      · split <;> exact hleaf
    all_goals first | exact hleaf | rintro ⟨⟩

theorem exprs_height : (trees : List Cst) → (reports : Diagnostics) →
    heightOfList ((exprs trees).run reports).1 ≤ Cst.nestingOfList trees + 1
  | [], _ => Nat.zero_le _
  | tree :: rest, reports => by
    have hrest (reports : Diagnostics) : heightOfList ((exprs rest).run reports).1 ≤
        Cst.nestingOfList (tree :: rest) + 1 :=
      (exprs_height rest reports).trans (Nat.succ_le_succ (le_max_right _ _))
    rw [exprs]
    split
    · refine max_le ?_ (hrest _)
      exact (expr_height tree reports).trans (Nat.succ_le_succ (le_max_left _ _))
    · exact hrest reports

theorem operand_height : (trees : List Cst) → (reports : Diagnostics) →
    ((operand trees).run reports).1.height ≤ Cst.nestingOfList trees + 1
  | [], _ => Nat.le_refl _
  | tree :: rest, reports => by
    rw [operand]
    split
    · exact (expr_height tree reports).trans (Nat.succ_le_succ (le_max_left _ _))
    · exact (operand_height rest reports).trans (Nat.succ_le_succ (le_max_right _ _))

end

end Meaning

/-- No rule of a text nests deeper than the tree. -/
theorem Analysis.tallest_le (root : Cst) :
    (Analysis.ofRoot root).grammar.tallest ≤ root.nesting + 1 := by
  apply Expr.heightOfList_le
  intro body hbody
  obtain ⟨rule, hrule, rfl⟩ := List.mem_map.mp hbody
  obtain ⟨entry, hentry, reports, hmeaning⟩ :=
    (Meaning.rules_of_table (RuleTable.ofRoot root).1 []).2 rule hrule
  cases hgrammar : root.grammar? with
  | none =>
    rw [RuleTable.ofRoot, hgrammar] at hentry
    cases hentry
  | some grammar =>
    have hdeclared : entry.2 ∈ grammar.children :=
      List.mem_of_mem_filter ((RuleTable.ofRoot_of hgrammar).trees entry hentry)
    calc
      rule.body.height ≤ Cst.nestingOfList entry.2.children + 1 := by
        rw [hmeaning]
        exact Meaning.operand_height _ _
      _ ≤ entry.2.nesting + 1 := Nat.succ_le_succ (Cst.nestingOfList_children_le _)
      _ ≤ grammar.nesting + 1 := Nat.succ_le_succ (Cst.nesting_le_of_mem_children hdeclared)
      _ ≤ root.nesting + 1 := Nat.succ_le_succ
        (Cst.nesting_le_of_mem_children (List.mem_of_find?_eq_some hgrammar))

end PegKit
