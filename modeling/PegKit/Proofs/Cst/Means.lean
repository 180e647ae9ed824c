import Mathlib.Data.List.Basic
import PegKit.Analysis.Meaning
import PegKit.Proofs.Cst.Syntax

/-!
# What trees mean

The expression that a tree stands for depends on the nodes and the tokens in it, and not on where
trivia stands between them. For each kind of node: which children give it which meaning, and that
every part its views look for is there.
-/

namespace PegKit.Cst

/-! ## Trivia in trees -/

/-- Whether a child is anything but trivia. -/
def isSignificant : Cst → Bool
  | .leaf token => !token.isTrivia
  | .node _ _ => true

/-- The children that mean something. -/
def significant (trees : List Cst) : List Cst := trees.filter isSignificant

@[simp]
theorem significant_append (trees trees' : List Cst) :
    significant (trees ++ trees') = significant trees ++ significant trees' :=
  List.filter_append trees trees'

@[simp]
theorem significant_node (kind : Kind) (children : List Cst) :
    significant [.node kind children] = [.node kind children] := rfl

theorem significant_leaf {token : Token} (h : token.isTrivia = false) :
    significant [.leaf token] = [.leaf token] := by
  refine List.filter_cons_of_pos ?_
  rw [isSignificant, h]
  rfl

theorem significant_trivia {tokens : List Token} (h : ∀ token ∈ tokens, token.isTrivia = true) :
    significant (tokens.map Cst.leaf) = [] := by
  rw [significant, List.filter_eq_nil_iff]
  intro tree htree
  obtain ⟨token, htoken, rfl⟩ := List.mem_map.mp htree
  rw [isSignificant, h token htoken]
  exact Bool.false_ne_true

/-- A selection that leaves trivia out. -/
theorem filterMap_significant {α : Type} {select : Cst → Option α}
    (h : ∀ token : Token, token.isTrivia = true → select (.leaf token) = none) (trees : List Cst) :
    (significant trees).filterMap select = trees.filterMap select := by
  rw [significant, List.filterMap_filter]
  refine List.filterMap_congr fun tree _ ↦ ?_
  cases tree with
  | node kind children => rfl
  | leaf token =>
    cases htrivia : token.isTrivia with
    | false => simp [isSignificant, htrivia]
    | true => simp [isSignificant, htrivia, h token htrivia]

theorem findSome?_significant {α : Type} {select : Cst → Option α}
    (h : ∀ token : Token, token.isTrivia = true → select (.leaf token) = none) (trees : List Cst) :
    (significant trees).findSome? select = trees.findSome? select := by
  rw [← List.head?_filterMap, filterMap_significant h, List.head?_filterMap]

theorem filter_significant {select : Cst → Bool}
    (h : ∀ token : Token, token.isTrivia = true → select (.leaf token) = false)
    (trees : List Cst) : (significant trees).filter select = trees.filter select := by
  rw [significant, List.filter_filter]
  refine List.filter_congr fun tree _ ↦ ?_
  cases tree with
  | node kind children => exact Bool.and_true _
  | leaf token =>
    cases htrivia : token.isTrivia with
    | false => simp [isSignificant, htrivia]
    | true => simp [isSignificant, htrivia, h token htrivia]

theorem not_isExpression_of_isTrivia {token : Token} (h : token.isTrivia = true) :
    isExpression (.leaf token) = false := by
  rw [Token.isTrivia] at h
  rw [isExpression, kind]
  cases hkind : token.kind <;> rw [hkind] at h <;> first | rfl | cases h

section Views

variable (outer : Kind) (trees : List Cst)

theorem childToken?_significant {kind : Kind} (hkind : kind.isTrivia = false) :
    (node outer (significant trees)).childToken? kind = (node outer trees).childToken? kind := by
  refine findSome?_significant (fun token htrivia ↦ if_neg ?_) trees
  rintro rfl
  rw [Token.isTrivia, hkind] at htrivia
  cases htrivia

theorem childTokens_significant {kind : Kind} (hkind : kind.isTrivia = false) :
    (node outer (significant trees)).childTokens kind = (node outer trees).childTokens kind := by
  refine filterMap_significant (fun token htrivia ↦ if_neg ?_) trees
  rintro rfl
  rw [Token.isTrivia, hkind] at htrivia
  cases htrivia

theorem operator?_significant :
    (node outer (significant trees)).operator? = (node outer trees).operator? := by
  refine findSome?_significant (fun token htrivia ↦ if_neg ?_) trees
  rw [Token.isTrivia] at htrivia
  cases hkind : token.kind <;> rw [hkind] at htrivia <;> first | decide | cases htrivia

theorem expressions_significant :
    (node outer (significant trees)).expressions = (node outer trees).expressions :=
  filter_significant (fun _ htrivia ↦ not_isExpression_of_isTrivia htrivia) trees

theorem expression?_significant :
    (node outer (significant trees)).expression? = (node outer trees).expression? := by
  have hexpressions := congrArg List.head? (expressions_significant outer trees)
  rwa [expressions, expressions, List.head?_filter, List.head?_filter] at hexpressions

theorem childNodes_significant (kind : Kind) :
    (node outer (significant trees)).childNodes kind = (node outer trees).childNodes kind :=
  filter_significant (fun _ _ ↦ rfl) trees

theorem childNode?_significant (kind : Kind) :
    (node outer (significant trees)).childNode? kind = (node outer trees).childNode? kind := by
  have hnodes := congrArg List.head? (childNodes_significant outer trees kind)
  rwa [childNodes, childNodes, List.head?_filter, List.head?_filter] at hnodes

end Views

theorem nodesOfList_eq_flatMap (trees : List Cst) : nodesOfList trees = trees.flatMap nodes := by
  induction trees with
  | nil => rfl
  | cons tree rest ih => rw [nodesOfList, ih, List.flatMap_cons]

/-- Tokens have no nodes, so trivia adds none. -/
theorem nodesOfList_significant (trees : List Cst) :
    nodesOfList (significant trees) = nodesOfList trees := by
  induction trees with
  | nil => rfl
  | cons tree rest ih =>
    cases tree with
    | node kind children =>
      change _ ++ nodesOfList (significant rest) = _ ++ nodesOfList rest
      rw [ih]
    | leaf token =>
      rw [significant, List.filter_cons]
      split
      · exact ih
      · exact ih

theorem mem_nodesOfList_significant {trees : List Cst} {found : Cst} :
    found ∈ nodesOfList trees ↔ ∃ tree ∈ significant trees, found ∈ tree.nodes := by
  rw [← nodesOfList_significant, nodesOfList_eq_flatMap, List.mem_flatMap]

end PegKit.Cst

namespace PegKit.Meaning

open Cst (significant)

theorem exprs_significant (trees : List Cst) : exprs (significant trees) = exprs trees := by
  induction trees with
  | nil => rfl
  | cons tree rest ih =>
    rw [significant, List.filter_cons]
    split
    · rw [exprs, exprs]
      simp only [significant] at ih
      rw [ih]
    · next htrivia =>
      cases tree with
      | node kind children => exact absurd rfl htrivia
      | leaf token =>
        have htrivia : token.isTrivia = true := by simpa [Cst.isSignificant] using htrivia
        rw [exprs, Cst.not_isExpression_of_isTrivia htrivia, ← ih]
        rfl

theorem operand_eq (trees : List Cst) :
    operand trees = ((Cst.node .groupNode trees).expression?.map expr).getD
      (return .sequence []) := by
  induction trees with
  | nil => rfl
  | cons tree rest ih =>
    rw [operand, Cst.expression?, Cst.children, List.find?_cons]
    cases tree.isExpression with
    | true => rfl
    | false => exact ih

end PegKit.Meaning

namespace PegKit.Cst

/-! ## Complete nodes -/

/-- Every part is there that the views of the node look for. -/
def Complete (tree : Cst) : Prop :=
  match tree.kind with
  | .rootNode => tree.grammar?.isSome
  | .grammarNode => tree.grammarName?.isSome
  | .grammarNameNode => tree.nameSegments ≠ []
  | .ruleNode => tree.name?.isSome ∧ tree.expression?.isSome
  | .choiceNode => 2 ≤ tree.expressions.length
  | .seqNode => 2 ≤ tree.expressions.length
  | .quantifierNode => tree.operator?.isSome ∧ tree.expression?.isSome
  | .lookaheadNode => tree.expression?.isSome
  | .predicateNode => tree.hook?.isSome
  | .labelNode => tree.name?.isSome ∧ tree.expression?.isSome
  | .refNode => tree.name?.isSome
  | .charClassNode => tree.classToken?.isSome
  | .groupNode => tree.expression?.isSome
  | .error => False
  | _ => True

/-- All nodes of the tree are complete. -/
def Entire (tree : Cst) : Prop := ∀ found ∈ tree.nodes, found.Complete

theorem leaf_entire (token : Token) : (leaf token).Entire := by rintro _ ⟨⟩

theorem node_entire {kind : Kind} {children trees : List Cst}
    (hchildren : significant children = trees) (hself : (node kind children).Complete)
    (hparts : ∀ tree ∈ trees, tree.Entire) : (node kind children).Entire := by
  intro found hfound
  rcases List.mem_cons.mp hfound with rfl | hfound
  · exact hself
  · obtain ⟨tree, htree, hfound⟩ := mem_nodesOfList_significant.mp hfound
    exact hparts tree (hchildren ▸ htree) found hfound

/-! ## Malformed text -/

/-- The report on what is between the quotes of a string, when an escape in it is malformed. -/
def escapeFault? (value : Token) : Option Diagnostic :=
  match Terminal.unescape value.text with
  | .ok _ => none
  | .error bad =>
    let escape := String.ofList (Text.slice value.text.toList bad.start bad.stop)
    some (.detailed .invalidEscape ⟨value.start + bad.start, value.start + bad.stop⟩
      ("`" ++ escape ++ "`"))

/-- The report on a malformed class. -/
def classFault? (brackets : Token) : Option Diagnostic :=
  match CharClass.ofBrackets brackets.text with
  | .ok _ => none
  | .error reason => some (.detailed .invalidCharClass brackets.span reason.message)

/-- The report on the text of a single node. -/
def fault? (tree : Cst) : Option Diagnostic :=
  match tree.kind with
  | .strNode => (tree.childToken? .stringValue).bind escapeFault?
  | .charClassNode => tree.classToken?.bind classFault?
  | _ => none

/-- The reports on the texts of the nodes, from left to right. -/
def faults (tree : Cst) : Diagnostics := tree.nodes.filterMap fault?

@[simp]
theorem faults_leaf (token : Token) : (leaf token).faults = [] := rfl

theorem faults_node {kind : Kind} {children trees : List Cst}
    (hchildren : significant children = trees) :
    (node kind children).faults = (node kind children).fault?.toList ++ trees.flatMap faults := by
  have hbelow : (nodesOfList children).filterMap fault? = trees.flatMap faults := by
    calc
      (nodesOfList children).filterMap fault?
      _ = (trees.flatMap nodes).filterMap fault? := by
        rw [← nodesOfList_significant, hchildren, nodesOfList_eq_flatMap]
      _ = trees.flatMap faults := List.filterMap_flatMap
  rw [faults, nodes, ← hbelow]
  cases hfault : (node kind children).fault? with
  | none => exact List.filterMap_cons_none hfault
  | some report => exact List.filterMap_cons_some hfault

/-! ## Expressions -/

/-- The tree is a complete expression node that stands for the expression, and what is reported on
the way are the faults in its text. -/
structure Means (tree : Cst) (expr : Expr) : Prop where
  node : ∃ kind children, tree = .node kind children ∧ kind.isExpression = true
  value : ∀ reports, ((Meaning.expr tree).run reports).1 = expr
  told : ∀ reports, ((Meaning.expr tree).run reports).2 = reports ++ tree.faults
  entire : tree.Entire

theorem Means.isExpression {tree : Cst} {expr : Expr} (h : tree.Means expr) :
    tree.isExpression = true := by
  obtain ⟨kind, children, rfl, hkind⟩ := h.node
  exact hkind

theorem Means.run {tree : Cst} {expr : Expr} (h : tree.Means expr) (reports : Diagnostics) :
    (Meaning.expr tree).run reports = (expr, reports ++ tree.faults) :=
  Prod.ext (h.value reports) (h.told reports)

theorem operand_run {children : List Cst} {kind : Kind} {tree : Cst} {expr : Expr}
    (hfirst : (node kind children).expression? = some tree) (htree : tree.Means expr)
    (reports : Diagnostics) :
    (Meaning.operand children).run reports = (expr, reports ++ tree.faults) := by
  have hgroup : (node .groupNode children).expression? = some tree := hfirst
  rw [Meaning.operand_eq, hgroup, Option.map_some, Option.getD_some]
  exact htree.run reports

section Nodes

variable {kind : Kind} {children trees : List Cst} (hchildren : significant children = trees)

include hchildren

theorem childToken?_eq {kind' : Kind} (hkind : kind'.isTrivia = false) :
    (node kind children).childToken? kind' = (node kind trees).childToken? kind' := by
  rw [← hchildren, childToken?_significant _ _ hkind]

theorem operator?_eq : (node kind children).operator? = (node kind trees).operator? := by
  rw [← hchildren, operator?_significant]

theorem expression?_eq : (node kind children).expression? = (node kind trees).expression? := by
  rw [← hchildren, expression?_significant]

theorem expressions_eq : (node kind children).expressions = (node kind trees).expressions := by
  rw [← hchildren, expressions_significant]

theorem means_intro {expr : Expr} (hkind : kind.isExpression = true)
    (hrun : ∀ reports, (Meaning.expr (node kind children)).run reports =
      (expr, reports ++ ((node kind children).fault?.toList ++ trees.flatMap faults)))
    (hself : (node kind children).Complete) (hparts : ∀ tree ∈ trees, tree.Entire) :
    (node kind children).Means expr := by
  rw [← faults_node hchildren] at hrun
  exact ⟨⟨kind, children, rfl, hkind⟩, fun reports ↦ congrArg Prod.fst (hrun reports),
    fun reports ↦ congrArg Prod.snd (hrun reports), node_entire hchildren hself hparts⟩

end Nodes

section Leaves

variable {children : List Cst} {token : Token}

theorem means_reference (hchildren : significant children = [.leaf token])
    (hname : token.kind = .identifier) : (node .refNode children).Means (.ruleRef token.text) := by
  have hview : (node .refNode children).name? = some token := by
    rw [name?, childToken?_eq hchildren rfl]
    simp [childToken?, Cst.children, hname]
  have htext : Meaning.nameText (node .refNode children) = token.text := by
    rw [Meaning.nameText, hview]
    rfl
  refine means_intro hchildren rfl (fun reports ↦ ?_) ?_ ?_
  · change (Expr.ruleRef (Meaning.nameText (node .refNode children)), reports) = _
    rw [htext]
    simp [fault?, kind]
  · rw [Complete, kind, hview]
    rfl
  · simp [leaf_entire]

theorem means_charClass (hchildren : significant children = [.leaf token])
    (hclass : token.kind = .charClass) :
    (node .charClassNode children).Means (Syntax.classExpr token.text) := by
  have hview : (node .charClassNode children).classToken? = some token := by
    rw [classToken?, childToken?_eq hchildren rfl]
    simp [childToken?, Cst.children, hclass]
  refine means_intro hchildren rfl (fun reports ↦ ?_) ?_ ?_
  · change (Meaning.charClass (node .charClassNode children)).run reports = _
    rw [Meaning.charClass, fault?, kind, hview, Option.bind_some, classFault?, Syntax.classExpr]
    simp only
    cases CharClass.ofBrackets token.text with
    | ok cls => exact Prod.ext rfl (List.append_nil _).symm
    | error reason => rfl
  · rw [Complete, kind, hview]
    rfl
  · simp [leaf_entire]

theorem means_dot (hchildren : significant children = [.leaf token]) :
    (node .anyNode children).Means .anyChar := by
  refine means_intro hchildren rfl (fun _ ↦ Prod.ext rfl (List.append_nil _).symm) trivial ?_
  simp [leaf_entire]

theorem literalText_empty : Syntax.literalText "" = "" := by
  simp [Syntax.literalText, Terminal.unescape, Terminal.unescapeFrom]

/-- A string is reported on when there is something between its quotes and an escape in it is
malformed. -/
theorem string_run (tree : Cst) (reports : Diagnostics) :
    (Meaning.string tree).run reports = (Syntax.literalText tree.rawValue,
      reports ++ ((tree.childToken? .stringValue).bind escapeFault?).toList) := by
  rw [Meaning.string, Syntax.literalText, rawValue, valueSpan]
  cases tree.childToken? .stringValue with
  | none =>
    have hempty : Terminal.unescape "" = .ok "" := by
      simp [Terminal.unescape, Terminal.unescapeFrom]
    simp only [Option.map_none, Option.getD_none, hempty]
    exact Prod.ext rfl (List.append_nil _).symm
  | some value =>
    simp only [Option.map_some, Option.getD_some, Option.bind_some, escapeFault?]
    cases Terminal.unescape value.text with
    | ok text => exact Prod.ext rfl (List.append_nil _).symm
    | error bad => rfl

/-- Quotes and what is between them: all parts are tokens. -/
theorem means_quoted (tokens : List Token) {raw : String}
    (hchildren : significant children = tokens.map leaf)
    (hraw : (node .strNode children).rawValue = raw) :
    (node .strNode children).Means (.terminal (Syntax.literalText raw)) := by
  refine means_intro hchildren rfl (fun reports ↦ ?_) trivial ?_
  · have hstring := string_run (node .strNode children) reports
    rw [hraw] at hstring
    refine (congrArg (Prod.map Expr.terminal id) hstring).trans ?_
    simp [fault?, kind]
  · simp [leaf_entire]

theorem IsQuote.ne {opening : Token} (h : Syntax.IsQuote opening) :
    opening.kind ≠ .stringValue := by
  rcases h with h | h <;> rw [h] <;> decide

theorem means_emptyString {opening closing : Token}
    (hchildren : significant children = [.leaf opening, .leaf closing])
    (hquote : Syntax.IsQuote opening) (hsame : closing.kind = opening.kind) :
    (node .strNode children).Means (.terminal "") := by
  have hview : (node .strNode children).rawValue = "" := by
    rw [rawValue, childToken?_eq hchildren rfl]
    simp [childToken?, Cst.children, hsame, IsQuote.ne hquote]
  rw [← literalText_empty]
  exact means_quoted [opening, closing] hchildren hview

theorem means_string {opening value closing : Token}
    (hchildren : significant children = [.leaf opening, .leaf value, .leaf closing])
    (hquote : Syntax.IsQuote opening) (hvalue : value.kind = .stringValue) :
    (node .strNode children).Means (.terminal (Syntax.literalText value.text)) := by
  have hview : (node .strNode children).rawValue = value.text := by
    rw [rawValue, childToken?_eq hchildren rfl]
    simp [childToken?, Cst.children, hvalue, IsQuote.ne hquote]
  exact means_quoted [opening, value, closing] hchildren hview

end Leaves

/-! ## Operators -/

theorem expression?_leaf {outer : Kind} {token : Token} (htoken : token.kind.isExpression = false)
    (rest : List Cst) :
    (node outer (.leaf token :: rest)).expression? = (node outer rest).expression? :=
  List.find?_cons_of_neg (by simp [isExpression, kind, htoken])

theorem Means.expression?_cons {outer : Kind} {tree : Cst} {expr : Expr} (h : tree.Means expr)
    (rest : List Cst) : (Cst.node outer (tree :: rest)).expression? = some tree :=
  List.find?_cons_of_pos h.isExpression

theorem childToken?_leaf {outer : Kind} {token : Token} {kind : Kind} (htoken : token.kind = kind)
    (rest : List Cst) : (node outer (.leaf token :: rest)).childToken? kind = some token := by
  simp [childToken?, Cst.children, htoken]

theorem childToken?_skip {outer : Kind} {token : Token} {kind : Kind} (htoken : token.kind ≠ kind)
    (rest : List Cst) :
    (node outer (.leaf token :: rest)).childToken? kind = (node outer rest).childToken? kind := by
  simp [childToken?, Cst.children, htoken]

theorem Means.childToken?_cons {outer kind : Kind} {tree : Cst} {expr : Expr}
    (h : tree.Means expr) (rest : List Cst) :
    (Cst.node outer (tree :: rest)).childToken? kind = (Cst.node outer rest).childToken? kind := by
  obtain ⟨kind', children, rfl, _⟩ := h.node
  rfl

section Operators

variable {children : List Cst} {mark : Token} {tree : Cst} {expr : Expr}

theorem means_group (htree : tree.Means expr) {opening closing : Token}
    (hchildren : significant children = [.leaf opening, tree, .leaf closing])
    (hopening : opening.kind = .parenOpen) : (node .groupNode children).Means expr := by
  have hview : (node .groupNode children).expression? = some tree := by
    rw [expression?_eq hchildren, expression?_leaf (by rw [hopening]; rfl),
      htree.expression?_cons]
  refine means_intro hchildren rfl (fun reports ↦ ?_) ?_ ?_
  · refine (operand_run hview htree reports).trans ?_
    simp [fault?, kind]
  · rw [Complete, kind, hview]
    rfl
  · simp [leaf_entire, htree.entire]

theorem means_quantified (htree : tree.Means expr)
    (hchildren : significant children = [tree, .leaf mark])
    (hmark : KindSet.quantifiers.contains mark.kind = true) :
    (node .quantifierNode children).Means (Meaning.quantify (some mark.kind) expr) := by
  have hview : (node .quantifierNode children).expression? = some tree := by
    rw [expression?_eq hchildren, htree.expression?_cons]
  have hoperator : (node .quantifierNode children).operator? = some mark := by
    obtain ⟨kind, children', rfl, _⟩ := htree.node
    rw [operator?_eq hchildren]
    simp [operator?, Cst.children, hmark]
  refine means_intro hchildren rfl (fun reports ↦ ?_) ?_ ?_
  · change Prod.map (Meaning.quantify ((node .quantifierNode children).operator?.map (·.kind))) id
      ((Meaning.operand children).run reports) = _
    rw [hoperator, operand_run hview htree]
    simp [fault?, kind]
  · rw [Complete, kind, hview, hoperator]
    exact ⟨rfl, rfl⟩
  · simp [leaf_entire, htree.entire]

/-- A lookahead of either sign. -/
theorem means_lookahead (htree : tree.Means expr)
    (hchildren : significant children = [.leaf mark, tree])
    (hmark : mark.kind = .amp ∨ mark.kind = .bang) :
    (node .lookaheadNode children).Means
      (if mark.kind = .bang then .negativeLookahead expr else .lookahead expr) := by
  have hkind : mark.kind.isExpression = false := by
    rcases hmark with hmark | hmark <;> rw [hmark] <;> rfl
  have hview : (node .lookaheadNode children).expression? = some tree := by
    rw [expression?_eq hchildren, expression?_leaf hkind, htree.expression?_cons]
  have hnegative : (node .lookaheadNode children).isNegative = decide (mark.kind = .bang) := by
    rw [isNegative, childToken?_eq hchildren rfl]
    rcases hmark with hmark | hmark
    · rw [childToken?_skip (by rw [hmark]; decide), htree.childToken?_cons, hmark]
      rfl
    · rw [childToken?_leaf hmark, hmark]
      rfl
  refine means_intro hchildren rfl (fun reports ↦ ?_) ?_ ?_
  · change Prod.map (fun inner ↦ if (node .lookaheadNode children).isNegative then
      Expr.negativeLookahead inner else .lookahead inner) id
        ((Meaning.operand children).run reports) = _
    rw [hnegative, operand_run hview htree]
    simp [fault?, kind]
  · rw [Complete, kind, hview]
    rfl
  · simp [leaf_entire, htree.entire]

theorem means_predicate {block : Token} {inner : List Char}
    (hchildren : significant children = [.leaf mark, .leaf block])
    (hmark : mark.kind = .amp ∨ mark.kind = .bang) (hblock : block.kind = .block)
    (hbraces : block.text.toList = '{' :: inner ++ ['}']) :
    (node .predicateNode children).Means
      (.predicate (String.ofList (Unicode.trimBlanks inner)) (mark.kind == .bang)) := by
  have hview : (node .predicateNode children).hook? =
      some (String.ofList (Unicode.trimBlanks inner)) := by
    have hother : mark.kind ≠ .block := by
      rcases hmark with hmark | hmark <;> rw [hmark] <;> decide
    rw [hook?, block?, childToken?_eq hchildren rfl, childToken?_skip hother,
      childToken?_leaf hblock, Option.bind_some, hbraces]
    simp [hookChars?]
  have hnegative : (node .predicateNode children).isNegative = (mark.kind == .bang) := by
    rw [isNegative, childToken?_eq hchildren rfl]
    rcases hmark with hmark | hmark
    · rw [childToken?_skip (by rw [hmark]; decide), childToken?_skip (by rw [hblock]; decide),
        hmark]
      rfl
    · rw [childToken?_leaf hmark, hmark]
      rfl
  refine means_intro hchildren rfl (fun reports ↦ ?_) ?_ ?_
  · change (Expr.predicate ((node .predicateNode children).hook?.getD "")
      (node .predicateNode children).isNegative, reports) = _
    rw [hview, hnegative]
    simp [fault?, kind]
  · rw [Complete, kind, hview]
    rfl
  · simp [leaf_entire]

theorem means_label (htree : tree.Means expr) {name colon : Token}
    (hchildren : significant children = [.leaf name, .leaf colon, tree])
    (hname : name.kind = .identifier) (hcolon : colon.kind = .colon) :
    (node .labelNode children).Means (.label name.text expr) := by
  have hview : (node .labelNode children).expression? = some tree := by
    rw [expression?_eq hchildren, expression?_leaf (by rw [hname]; rfl),
      expression?_leaf (by rw [hcolon]; rfl), htree.expression?_cons]
  have htoken : (node .labelNode children).name? = some name := by
    rw [name?, childToken?_eq hchildren rfl, childToken?_leaf hname]
  refine means_intro hchildren rfl (fun reports ↦ ?_) ?_ ?_
  · change Prod.map (Expr.label (Meaning.nameText (node .labelNode children))) id
      ((Meaning.operand children).run reports) = _
    rw [Meaning.nameText, htoken, operand_run hview htree]
    simp [fault?, kind]
  · rw [Complete, kind, hview, htoken]
    exact ⟨rfl, rfl⟩
  · simp [leaf_entire, htree.entire]

end Operators

/-! ## Lists of expressions -/

/-- Trees that stand for the expressions, with tokens between them. -/
inductive Members : List Cst → List Expr → Prop
  | nil : Members [] []
  | tree {tree : Cst} {expr : Expr} {trees : List Cst} {exprs : List Expr}
      (first : tree.Means expr) (rest : Members trees exprs) :
      Members (tree :: trees) (expr :: exprs)
  | leaf {token : Token} {trees : List Cst} {exprs : List Expr}
      (other : token.kind.isExpression = false) (rest : Members trees exprs) :
      Members (.leaf token :: trees) exprs

namespace Members

variable {trees trees' : List Cst} {exprs exprs' : List Expr}

theorem ofMeans (h : List.Forall₂ Means trees exprs) : Members trees exprs := by
  induction h with
  | nil => exact .nil
  | cons first _ ih => exact .tree first ih

theorem append (h : Members trees exprs) (h' : Members trees' exprs') :
    Members (trees ++ trees') (exprs ++ exprs') := by
  induction h with
  | nil => exact h'
  | tree first _ ih => exact .tree first ih
  | leaf other _ ih => exact .leaf other ih

theorem entire (h : Members trees exprs) : ∀ tree ∈ trees, tree.Entire := by
  induction h with
  | nil => rintro _ ⟨⟩
  | tree first _ ih =>
    intro tree htree
    rcases List.mem_cons.mp htree with rfl | htree
    · exact first.entire
    · exact ih tree htree
  | leaf _ _ ih =>
    intro tree htree
    rcases List.mem_cons.mp htree with rfl | htree
    · exact leaf_entire _
    · exact ih tree htree

theorem length_expressions (h : Members trees exprs) (kind : Kind) :
    (node kind trees).expressions.length = exprs.length := by
  induction h with
  | nil => rfl
  | tree first _ ih =>
    refine (congrArg List.length (List.filter_cons_of_pos first.isExpression)).trans ?_
    exact congrArg (· + 1) ih
  | @leaf token trees exprs other _ ih =>
    have hleft : isExpression (.leaf token) ≠ true := by
      simp [isExpression, Cst.kind, other]
    exact (congrArg List.length (List.filter_cons_of_neg hleft)).trans ih

theorem exprs_run (h : Members trees exprs) (reports : Diagnostics) :
    (Meaning.exprs trees).run reports = (exprs, reports ++ trees.flatMap faults) := by
  induction h generalizing reports with
  | nil => exact Prod.ext rfl (List.append_nil _).symm
  | @tree tree expr trees exprs first _ ih =>
    rw [Meaning.exprs, if_pos first.isExpression]
    change Prod.map (((Meaning.expr tree).run reports).1 :: ·) id
      ((Meaning.exprs trees).run ((Meaning.expr tree).run reports).2) = _
    rw [first.run, ih, List.flatMap_cons, ← List.append_assoc]
    rfl
  | @leaf token trees exprs other _ ih =>
    have hleft : isExpression (.leaf token) ≠ true := by
      simp [isExpression, kind, other]
    rw [Meaning.exprs, if_neg hleft]
    exact ih reports

end Members

variable {children trees : List Cst} {exprs : List Expr}

/-- A node for several expressions at once, whose meaning is made by `many`. -/
theorem means_many {kind : Kind} {many : List Expr → Expr}
    (hchildren : significant children = trees) (hmembers : Members trees exprs)
    (hmany : 2 ≤ exprs.length) (hkind : kind.isExpression = true)
    (hplain : (node kind children).fault? = none)
    (hexpr : ∀ reports, (Meaning.expr (node kind children)).run reports =
      Prod.map many id ((Meaning.exprs children).run reports))
    (hself : (node kind children).Complete ↔ 2 ≤ (node kind children).expressions.length) :
    (node kind children).Means (many exprs) := by
  refine means_intro hchildren hkind (fun reports ↦ ?_) ?_ hmembers.entire
  · have hrun := hmembers.exprs_run reports
    rw [← hchildren, Meaning.exprs_significant, hchildren] at hrun
    rw [hexpr, hrun, hplain]
    rfl
  · rw [hself, expressions_eq hchildren, hmembers.length_expressions]
    exact hmany

theorem means_sequence (hchildren : significant children = trees) (hmembers : Members trees exprs)
    (hmany : 2 ≤ exprs.length) : (node .seqNode children).Means (.sequence exprs) :=
  means_many hchildren hmembers hmany rfl rfl (fun _ ↦ rfl) Iff.rfl

theorem means_choice (hchildren : significant children = trees) (hmembers : Members trees exprs)
    (hmany : 2 ≤ exprs.length) : (node .choiceNode children).Means (.choice exprs) :=
  means_many hchildren hmembers hmany rfl rfl (fun _ ↦ rfl) Iff.rfl

end PegKit.Cst
