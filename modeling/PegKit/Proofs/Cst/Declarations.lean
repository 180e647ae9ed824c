import Mathlib.Data.List.Forall2
import PegKit.Analysis
import PegKit.Proofs.Cst.Means

/-!
# What trees of rules and grammars mean

The tree of a rule gives a name and a body, that of a grammar a name and rules. A text means the
grammar in it, with the first rule of every name.
-/

namespace PegKit.Cst

/-- The tree is a complete rule node with the name and the body of the rule. -/
structure Declares (tree : Cst) (rule : Rule) : Prop where
  node : ∃ children, tree = .node .ruleNode children
  name : ∃ token, tree.name? = some token ∧ token.text = rule.name
  body : ∀ reports, ((Meaning.operand tree.children).run reports).1 = rule.body
  told : ∀ reports, ((Meaning.operand tree.children).run reports).2 = reports ++ tree.faults
  entire : tree.Entire

theorem declares_rule {keyword name closing : Token} {between : List Token} {tree : Cst}
    {body : Expr} {children : List Cst} (htree : tree.Means body)
    (hchildren : significant children =
      .leaf keyword :: .leaf name :: between.map Cst.leaf ++ [tree] ++ [Cst.leaf closing])
    (hkeyword : keyword.kind = .keywordRule) (hname : name.kind = .identifier)
    (hdo : Syntax.Optional .keywordDo between) :
    (node .ruleNode children).Declares ⟨name.text, body⟩ := by
  simp only [List.cons_append] at hchildren
  have htoken : (node .ruleNode children).name? = some name := by
    rw [name?, childToken?_eq hchildren rfl, childToken?_skip (by rw [hkeyword]; decide),
      childToken?_leaf hname]
  have hview : (node .ruleNode children).expression? = some tree := by
    rw [expression?_eq hchildren, expression?_leaf (by rw [hkeyword]; rfl),
      expression?_leaf (by rw [hname]; rfl)]
    rcases hdo with rfl | ⟨token, rfl, hkind⟩
    · exact htree.expression?_cons _
    · exact (expression?_leaf (by rw [hkind]; rfl) _).trans (htree.expression?_cons _)
  refine ⟨⟨children, rfl⟩, ⟨name, htoken, rfl⟩, fun reports ↦ ?_, fun reports ↦ ?_,
    node_entire hchildren ?_ ?_⟩
  · exact congrArg Prod.fst (operand_run hview htree reports)
  · have hleaves : (between.map Cst.leaf).flatMap faults = [] := by simp [List.flatMap_map]
    rw [faults_node hchildren]
    refine (congrArg Prod.snd (operand_run hview htree reports)).trans ?_
    simp [fault?, kind, hleaves]
  · rw [Complete, kind, htoken, hview]
    exact ⟨rfl, rfl⟩
  · simp [or_imp, forall_and, leaf_entire, htree.entire]

/-! ## Names -/

/-- The tree is a complete name node with the segments. -/
structure Names (tree : Cst) (segments : List String) : Prop where
  node : ∃ children, tree = .node .grammarNameNode children
  segments : tree.nameSegments = segments
  entire : tree.Entire

theorem nameText_segments {tokens : List Token} {segments : List String}
    (h : Syntax.NameText tokens segments) (kind : Kind) :
    (node kind (tokens.map Cst.leaf)).nameSegments = segments ∧ segments ≠ [] := by
  induction h with
  | one hname => simp [nameSegments, childTokens, children, hname]
  | more outer hcolons hname ih =>
    simp only [nameSegments, childTokens, children] at ih ⊢
    rw [List.map_append, List.filterMap_append, List.map_append, ih.1]
    simp [hcolons, hname]

theorem names_intro {tokens : List Token} {segments : List String} {children : List Cst}
    (h : Syntax.NameText tokens segments) (hchildren : significant children = tokens.map Cst.leaf) :
    (node .grammarNameNode children).Names segments := by
  obtain ⟨hsegments, hsome⟩ := nameText_segments h .grammarNameNode
  have hview : (node .grammarNameNode children).nameSegments = segments := by
    rw [← hsegments, nameSegments, nameSegments, ← hchildren, childTokens_significant _ _ rfl]
  refine ⟨⟨children, rfl⟩, hview, node_entire hchildren ?_ ?_⟩
  · rw [Complete, kind, hview]
    exact hsome
  · intro tree htree
    obtain ⟨token, _, rfl⟩ := List.mem_map.mp htree
    exact leaf_entire token

/-! ## Grammars -/

/-- The tree is a complete grammar node with the name and the rules. -/
structure Gives (tree : Cst) (contents : Syntax.Contents) : Prop where
  node : ∃ children, tree = .node .grammarNode children
  keyword : (tree.childToken? .keywordGrammar).isSome = true
  name : ∃ name, tree.grammarName? = some name ∧ name.nameSegments = contents.name
  rules : List.Forall₂ Declares tree.rules contents.rules
  entire : tree.Entire

theorem childNodes_append (outer kind : Kind) (trees trees' : List Cst) :
    (Cst.node outer (trees ++ trees')).childNodes kind =
      (Cst.node outer trees).childNodes kind ++ (Cst.node outer trees').childNodes kind :=
  List.filter_append trees trees'

theorem childNodes_leaves (outer kind : Kind) (tokens : List Token) :
    (Cst.node outer (tokens.map Cst.leaf)).childNodes kind = [] := by
  rw [childNodes, List.filter_eq_nil_iff]
  intro tree htree
  obtain ⟨token, _, rfl⟩ := List.mem_map.mp htree
  exact Bool.false_ne_true

theorem childNodes_rules {trees : List Cst} {rules : List Rule}
    (h : List.Forall₂ Declares trees rules) (outer : Kind) :
    (Cst.node outer trees).childNodes .ruleNode = trees := by
  refine List.filter_eq_self.mpr fun tree htree ↦ ?_
  replace htree : tree ∈ trees := htree
  induction h with
  | nil => cases htree
  | cons hdeclares _ ih =>
    rcases List.mem_cons.mp htree with rfl | htree
    · obtain ⟨children, rfl⟩ := hdeclares.node
      rfl
    · exact ih htree

theorem declares_entire {trees : List Cst} {rules : List Rule}
    (h : List.Forall₂ Declares trees rules) : ∀ tree ∈ trees, tree.Entire := by
  induction h with
  | nil => rintro _ ⟨⟩
  | cons hdeclares _ ih => exact List.forall_mem_cons.mpr ⟨hdeclares.entire, ih⟩

section Grammars

variable {keyword closing : Token} {between : List Token} {name : Cst} {segments : List String}
  {trees children : List Cst} {rules : List Rule}

theorem rules_eq (hname : name.Names segments) (hrules : List.Forall₂ Declares trees rules)
    (hchildren : significant children =
      [Cst.leaf keyword, name] ++ between.map Cst.leaf ++ trees ++ [Cst.leaf closing]) :
    (node .grammarNode children).rules = trees := by
  have hhead : (node .grammarNode [.leaf keyword, name]).childNodes .ruleNode = [] := by
    obtain ⟨inside, rfl⟩ := hname.node
    rfl
  have hlast : (node .grammarNode [.leaf closing]).childNodes .ruleNode = [] := rfl
  rw [Cst.rules, ← childNodes_significant, hchildren, childNodes_append, childNodes_append,
    childNodes_append, hhead, childNodes_leaves, childNodes_rules hrules, hlast]
  simp

theorem gives_intro (hkeyword : keyword.kind = .keywordGrammar) (hname : name.Names segments)
    (hrules : List.Forall₂ Declares trees rules)
    (hchildren : significant children =
      [Cst.leaf keyword, name] ++ between.map Cst.leaf ++ trees ++ [Cst.leaf closing]) :
    (node .grammarNode children).Gives ⟨segments, rules⟩ := by
  have hview : (node .grammarNode children).grammarName? = some name := by
    obtain ⟨inside, rfl⟩ := hname.node
    rw [grammarName?, ← childNode?_significant, hchildren]
    rfl
  have htrees := rules_eq hname hrules hchildren
  have hfirst : (node .grammarNode children).childToken? .keywordGrammar = some keyword := by
    rw [childToken?_eq hchildren rfl]
    exact childToken?_leaf hkeyword _
  refine ⟨⟨children, rfl⟩, by rw [hfirst]; rfl, ⟨name, hview, hname.segments⟩, htrees ▸ hrules,
    node_entire hchildren ?_ ?_⟩
  · rw [Complete, kind, hview]
    rfl
  · simpa [or_imp, forall_and, leaf_entire, hname.entire] using declares_entire hrules

end Grammars

/-! ## Tables of rules -/

/-- The entry has the name and the tree of the rule. -/
structure Entered (entry : String × Cst) (rule : Rule) : Prop where
  name : entry.1 = rule.name
  declares : entry.2.Declares rule

section Tables

variable {table : RuleTable} {rules : List Rule}

theorem lookup_isSome (h : List.Forall₂ Entered table rules) (name : String) :
    (table.lookup name).isSome = rules.any (·.name == name) := by
  induction h with
  | nil => rfl
  | @cons entry rule _ _ hentered _ ih =>
    rw [List.lookup_cons, List.any_cons, ← ih, hentered.name, BEq.comm]
    cases rule.name == name <;> rfl

/-- A rule is entered unless its name is taken. -/
theorem declare_entered {reports : Diagnostics} {tree : Cst} {rule : Rule}
    (h : List.Forall₂ Entered table rules) (htree : tree.Declares rule) :
    List.Forall₂ Entered (RuleTable.declare (table, reports) tree).1
      (if rules.any (·.name == rule.name) then rules else rules ++ [rule]) := by
  obtain ⟨name, hname, htext⟩ := htree.name
  have htaken := lookup_isSome h rule.name
  rw [RuleTable.declare, hname, ← htaken, ← htext]
  cases hlookup : table.lookup name.text with
  | some first =>
    simp only [hlookup]
    exact h
  | none =>
    simp only [hlookup]
    exact List.rel_append h (.cons ⟨htext, htree⟩ .nil)

theorem table_entered {trees : List Cst} {rules' : List Rule} {reports : Diagnostics}
    (h : List.Forall₂ Entered table rules) (htrees : List.Forall₂ Declares trees rules') :
    List.Forall₂ Entered (trees.foldl RuleTable.declare (table, reports)).1
      (rules'.foldl (fun found rule ↦
        if found.any (·.name == rule.name) then found else found ++ [rule]) rules) := by
  induction htrees generalizing table rules reports with
  | nil => exact h
  | cons hdeclares _ ih => exact ih (declare_entered h hdeclares)

theorem rules_value (h : List.Forall₂ Entered table rules) (reports : Diagnostics) :
    ((Meaning.rules table).run reports).1 = rules := by
  induction h generalizing reports with
  | nil => rfl
  | @cons entry rule _ _ hentered _ ih =>
    change Rule.mk entry.1 ((Meaning.operand entry.2.children).run reports).1 ::
      ((Meaning.rules _).run ((Meaning.operand entry.2.children).run reports).2).1 = _
    rw [hentered.declares.body, hentered.name, ih]

end Tables

section Roots

variable {tree : Cst} {contents : Syntax.Contents} {children : List Cst}

theorem grammar?_eq (htree : tree.Gives contents) (hchildren : significant children = [tree]) :
    (node .rootNode children).grammar? = some tree := by
  obtain ⟨inside, rfl⟩ := htree.node
  rw [grammar?, ← childNode?_significant, hchildren]
  rfl

/-- The table of a text has the rules of the grammar in it, of each name the first. -/
theorem ofRoot_entered (htree : tree.Gives contents) (hchildren : significant children = [tree]) :
    List.Forall₂ Entered (RuleTable.ofRoot (node .rootNode children)).1
      (Syntax.firstRules contents.rules) := by
  rw [RuleTable.ofRoot, grammar?_eq htree hchildren]
  exact table_entered .nil htree.rules

/-- The meaning of a text with one grammar in it. -/
theorem analysis_of_gives (htree : tree.Gives contents) (hchildren : significant children = [tree]) :
    (Analysis.ofRoot (node .rootNode children)).grammar.name = "::".intercalate contents.name ∧
      (Analysis.ofRoot (node .rootNode children)).grammar.rules =
        Syntax.firstRules contents.rules ∧
      (node .rootNode children).Entire := by
  have hview := grammar?_eq htree hchildren
  obtain ⟨name, hname, hsegments⟩ := htree.name
  refine ⟨?_, rules_value (ofRoot_entered htree hchildren) [], node_entire hchildren ?_ ?_⟩
  · change Meaning.grammarName (node .rootNode children) = _
    rw [Meaning.grammarName, hview, Option.bind_some, hname]
    exact congrArg ("::".intercalate ·) hsegments
  · rw [Complete, kind, hview]
    rfl
  · simpa using htree.entire

end Roots

end PegKit.Cst
