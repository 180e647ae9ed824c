import PegKit.Proofs.Cst.Acceptance
import PegKit.Proofs.Cst.Rereading
import PegKit.Proofs.Grammar.Written

/-!
# Reading written grammars

In front of the words of a grammar whose rule bodies are written expressions, reading gives a tree
that declares the same rules, and no check of the analysis reports an error on it.
-/

namespace PegKit

namespace Cst

variable {names : List String} {children : List Cst}

/-- The tree declares the rule, and no check reports on it. -/
structure Restates (names : List String) (tree : Cst) (rule : Rule) : Prop where
  declares : tree.Declares rule
  faultless : tree.Faultless names
  quiet : ∀ reports, ((Meaning.operand tree.children).run reports).2 = reports

theorem restates_rule {keyword name closing : Token} {tree : Cst} {body : Expr}
    (htree : tree.Conveys names body)
    (hchildren : significant children = [.leaf keyword, .leaf name, tree, .leaf closing])
    (hkeyword : keyword.kind = .keywordRule) (hname : name.kind = .identifier) :
    (node .ruleNode children).Restates names ⟨name.text, body⟩ := by
  have hparts : ∀ part ∈ [.leaf keyword, .leaf name, tree, .leaf closing],
      part.Faultless names := by
    simp [leaf_faultless, htree.faultless]
  have hquiet : ∀ part ∈ children, part.Quiet :=
    quiet_of_significant fun part hpart ↦ (hparts part (hchildren ▸ hpart)).quiet
  have hdeclares := @declares_rule keyword name closing [] tree body children htree.means
    hchildren hkeyword hname (.inl rfl)
  exact ⟨hdeclares, operator_faultless hchildren (by decide) hparts, Meaning.operand_quiet hquiet⟩

/-- The tree gives the name and the rules, and no check reports on it. -/
structure Restores (names : List String) (tree : Cst) (contents : Syntax.Contents) : Prop where
  gives : tree.Gives contents
  rules : List.Forall₂ (Restates names) tree.rules contents.rules
  faultless : tree.Faultless names

theorem restates_faultless {trees : List Cst} {rules : List Rule}
    (h : List.Forall₂ (Restates names) trees rules) : ∀ tree ∈ trees, tree.Faultless names :=
  ((List.forall₂_and_left trees rules).mp (h.imp fun _ _ h ↦ ⟨h.faultless, h⟩)).1

theorem restores_grammar {keyword closing : Token} {name : Cst} {segments : List String}
    {trees : List Cst} {rules : List Rule} (hkeyword : keyword.kind = .keywordGrammar)
    (hname : name.Names segments) (hfaultless : name.Faultless names)
    (hrules : List.Forall₂ (Restates names) trees rules)
    (hchildren : significant children = [Cst.leaf keyword, name] ++ trees ++ [Cst.leaf closing]) :
    (node .grammarNode children).Restores names ⟨segments, rules⟩ := by
  have hdeclares : List.Forall₂ Declares trees rules := hrules.imp fun _ _ h ↦ h.declares
  have hparts : ∀ part ∈ [Cst.leaf keyword, name] ++ trees ++ [Cst.leaf closing],
      part.Faultless names := by
    simpa [or_imp, forall_and, leaf_faultless, hfaultless] using restates_faultless hrules
  have hself : significant children =
      [Cst.leaf keyword, name] ++ [].map Cst.leaf ++ trees ++ [Cst.leaf closing] := hchildren
  refine ⟨gives_intro hkeyword hname hdeclares hself, ?_,
    operator_faultless hchildren (by decide) hparts⟩
  rw [rules_eq hname hdeclares hself]
  exact hrules

end Cst

namespace Cst.Parse

open Grammar (segmentWords)
open Token (firstKind word)

variable {names : List String} {spell : Expr → List (Kind × String)} {levels : Nat}
  {outer trees : List Cst}
  {rest words : List (Kind × String)} {body : Expr}

/-! ## Rules -/

theorem endRule_goes (opening : Text.Span) (u : Unit) :
    Settles never (Standing 32 outer trees ((.keywordEnd, "end") :: rest)) (endRule opening u)
      fun result s ↦ result = none ∧ ∃ token : Token, token.kind = .keywordEnd ∧
        Standing 0 outer (trees ++ [Cst.leaf token]) rest s := by
  apply atEnd_goes.knowing
  apply ((current_goes (by decide)).weaken Facing.toStanding).knowing
  apply bump_goes.adding
  intro _ token htoken
  exact .pure fun ⟨hs, _⟩ ↦ ⟨rfl, token, congrArg Prod.fst htoken, hs⟩

/-- A loop that ends at once. -/
theorem untilDone_ends {α : Type} {step : α → Parse (Option α)} {before : State → Prop}
    {after : State → Prop} {a : α}
    (h : Settles never before (step a) fun result s ↦ result = none ∧ after s) :
    Settles never before (untilDone step a) fun _ ↦ after := by
  apply Settles.get_bind
  intro s
  apply (h.weaken And.right).knowing
  exact .pure id

theorem ruleBody_goes (hbody : Recovers names 0 (choice (prefixed levels)) words body)
    (hbegins : Begins words) (opening : Text.Span) :
    Settles never (Standing 0 outer trees (words ++ (.keywordEnd, "end") :: rest))
      (ruleBody levels opening) fun _ s ↦ ∃ tree closing, tree.Conveys names body ∧
        Standing 0 outer (trees ++ [tree] ++ [Cst.leaf closing]) rest s := by
  have hfirst := hbegins.first ((.keywordEnd, "end") :: rest)
  have hdo : firstKind (words ++ (.keywordEnd, "end") :: rest) ≠ .keywordDo := by
    intro hkind
    rw [hkind] at hfirst
    cases hfirst
  apply ((eat_passes (by decide) hdo).weaken id).knowing
  apply ((currentIsIn_goes (by decide) .expressionFirst).weaken Facing.toStanding).knowing
  rw [if_pos hfirst]
  apply ((hbody.goes rfl).weaken fun hs ↦ hs.toStanding.mono (by decide)).adding
  intro _ tree htree
  apply (untilDone_ends (endRule_goes opening ())).imp id
  rintro _ s ⟨closing, hclosing, hs⟩
  exact ⟨tree, closing, htree, hs⟩

theorem rule_goes {declared : Rule}
    (hbody : Recovers names 0 (choice (prefixed levels)) (spell declared.body) declared.body)
    (hbegins : Begins (spell declared.body)) :
    Settles never (Standing 32 outer trees (declared.wordsAs spell ++ rest)) (rule levels) fun _ s ↦
      ∃ tree, tree.Restates names declared ∧ Standing 0 outer (trees ++ [tree]) rest s := by
  rw [Rule.wordsAs, List.cons_append, List.cons_append, List.append_assoc]
  apply (expect_goes (by decide) rfl).bind
  intro _
  apply node_goes
  apply (currentSpan_goes.weaken Facing.toStanding).bind
  intro opening
  apply bump_goes.adding
  intro _ keyword hkeyword
  apply ((eat_goes (by decide)).weaken And.left).knowing
  apply Settles.choose
  intro name
  apply Settles.assume
  intro hname
  obtain ⟨hkind, htext⟩ := Prod.mk.inj hname
  rw [if_neg (by decide)]
  apply (ruleBody_goes hbody hbegins opening).imp id
  rintro _ s ⟨tree, closing, htree, hs⟩
  refine ⟨_, fun children hchildren ↦ ?_, hs⟩
  have hrestates := restates_rule htree hchildren (congrArg Prod.fst hkeyword) hkind
  rwa [htext] at hrestates

/-! ## Names -/

/-- The trees are the tokens of a name. -/
def Segments (trees : List Cst) (segments : List String) : Prop :=
  ∃ tokens : List Token, trees = tokens.map Cst.leaf ∧ Syntax.NameText tokens segments

theorem nextSegment_goes {segment : String} {all ahead : List String} (u : Unit) :
    Settles never (Midway Segments segmentWords 8 outer rest all (segment :: ahead)) (nextSegment u)
      fun result s ↦ ∃ next, result = some next ∧
        Midway Segments segmentWords 8 outer rest all ahead s := by
  apply Midway.step
  rintro read _ hwhole ⟨tokens, rfl, hname⟩
  apply (currentIs_goes (by decide) .doubleColon).knowing
  rw [if_neg (by simp [segmentWords, firstKind])]
  apply bump_goes.adding
  intro _ colons hcolons
  apply ((eat_goes (by decide)).weaken And.left).knowing
  rw [if_pos rfl]
  apply Settles.pure
  rintro s ⟨token, htoken, hs⟩
  obtain ⟨hkind, htext⟩ := Prod.mk.inj htoken
  have hmore := hname.more (congrArg Prod.fst hcolons) hkind
  rw [htext] at hmore
  rw [List.append_cons] at hwhole
  exact ⟨(), rfl, hwhole, ⟨_, by simp, hmore⟩, hs.mono (by decide)⟩

theorem nextSegment_ends {all : List String} (hrest : firstKind rest ≠ .doubleColon) (u : Unit) :
    Settles never (Midway Segments segmentWords 8 outer rest all []) (nextSegment u)
      fun result s ↦ result = none ∧ ∃ trees, Segments trees all ∧
        Standing 16 outer trees rest s := by
  apply Midway.done
  intro trees hname
  apply (currentIs_goes (by decide) .doubleColon).knowing
  rw [if_pos (by simpa using hrest)]
  exact .pure fun hs ↦ ⟨rfl, trees, hname, hs.toStanding.mono (by decide)⟩

theorem grammarName_goes {first : String} {others : List String}
    (hrest : firstKind rest ≠ .doubleColon) :
    Settles never
      (Standing 0 outer trees ((.identifier, first) :: (others.flatMap segmentWords ++ rest)))
      grammarName fun _ s ↦ ∃ tree, (tree.Names (first :: others) ∧ tree.Faultless names) ∧
        Standing 16 outer (trees ++ [tree]) rest s := by
  apply (currentIs_goes (by decide) .identifier).knowing
  rw [if_pos (by rfl)]
  apply node_goes
  apply bump_goes.adding
  intro _ token htoken
  obtain ⟨hkind, rfl⟩ := Prod.mk.inj htoken
  have hloop : Settles never (Midway Segments segmentWords 8 [] rest (token.text :: others) others)
      (untilDone nextSegment ()) fun _ s ↦ ∃ trees, Segments trees (token.text :: others) ∧
        Standing 16 [] trees rest s :=
    untilDone_goes (fun _ _ u ↦ nextSegment_goes u) (fun u ↦ nextSegment_ends hrest u)
      (Midway.length_le (by simp [segmentWords])) others ()
  apply hloop.imp
  · rintro s ⟨hs, _⟩
    exact ⟨rfl, ⟨[token], rfl, .one hkind⟩, hs.mono (by decide)⟩
  · rintro _ s ⟨_, ⟨tokens, rfl, hname⟩, hs⟩
    refine ⟨_, fun children hchildren ↦ ⟨names_intro hname hchildren, ?_⟩, hs⟩
    exact operator_faultless hchildren (by decide) (by simp [leaf_faultless])

/-! ## Grammars -/

/-- The trees are a keyword, a name and rules. -/
def Listed (names : List String) (keyword : Token) (name : Cst) (trees : List Cst)
    (rules : List Rule) : Prop :=
  ∃ found, trees = [Cst.leaf keyword, name] ++ found ∧ List.Forall₂ (Restates names) found rules

/-- Rules with bodies that are read again. -/
structure Rewritable (spell : Expr → List (Kind × String)) (names : List String) (levels : Nat)
    (rules : List Rule) : Prop where
  recovers : ∀ rule ∈ rules,
    Recovers names 0 (choice (prefixed levels)) (spell rule.body) rule.body
  begins : ∀ rule ∈ rules, Begins (spell rule.body)

section Rules

variable {rules ahead : List Rule} {declared : Rule} {keyword : Token} {name : Cst}

theorem nextRule_goes (hrules : Rewritable spell names levels rules) (opening : Text.Span)
    (u : Unit) :
    Settles never
      (Midway (Listed names keyword name) (Rule.wordsAs spell) 24 outer rest rules
        (declared :: ahead))
      (nextRule levels opening u) fun result s ↦ ∃ next, result = some next ∧
        Midway (Listed names keyword name) (Rule.wordsAs spell) 24 outer rest rules ahead s := by
  apply Midway.step
  rintro read _ hwhole ⟨trees, rfl, hread⟩
  have hmem : declared ∈ rules := by
    rw [← hwhole]
    simp
  apply atEnd_goes.knowing
  rw [if_neg (by simp [Rule.wordsAs])]
  apply ((current_goes (by decide)).weaken Facing.toStanding).knowing
  apply ((rule_goes (hrules.recovers _ hmem) (hrules.begins _ hmem)).weaken
    fun hs ↦ hs.toStanding.mono (by decide)).adding
  intro _ tree htree
  apply Settles.pure
  intro s hs
  rw [List.append_cons] at hwhole
  refine ⟨(), rfl, hwhole, ⟨_, List.append_assoc _ _ _, ?_⟩, hs.mono (by decide)⟩
  exact List.rel_append hread (.cons htree .nil)

theorem nextRule_ends (opening : Text.Span) (u : Unit) :
    Settles never
      (Midway (Listed names keyword name) (Rule.wordsAs spell) 24 outer
        ((.keywordEnd, "end") :: rest) rules [])
      (nextRule levels opening u) fun result s ↦ result = none ∧ ∃ trees closing,
        Listed names keyword name trees rules ∧
          Standing 0 outer (trees ++ [Cst.leaf closing]) rest s := by
  apply Midway.done
  intro trees hread
  apply atEnd_goes.knowing
  apply ((current_goes (by decide)).weaken Facing.toStanding).knowing
  apply bump_goes.adding
  intro _ closing _
  exact .pure fun ⟨hs, _⟩ ↦ ⟨rfl, trees, closing, hread, hs⟩

theorem grammar_goes {first : String} {others : List String}
    (hrules : Rewritable spell names levels rules) :
    Settles never (Standing 8 outer trees (Grammar.wordsAs spell first others rules))
      (grammar levels) fun _ s ↦ ∃ tree, tree.Restores names ⟨first :: others, rules⟩ ∧
        Standing 0 outer (trees ++ [tree]) [] s := by
  have hnext := Grammar.firstKind_rules spell rules
  have hcolons : firstKind (rules.flatMap (Rule.wordsAs spell) ++ [(.keywordEnd, "end")]) ≠
      .doubleColon := by
    rcases hnext with hnext | hnext <;> rw [hnext] <;> decide
  have hdo : firstKind (rules.flatMap (Rule.wordsAs spell) ++ [(.keywordEnd, "end")]) ≠
      .keywordDo := by
    rcases hnext with hnext | hnext <;> rw [hnext] <;> decide
  apply (expect_goes (by decide) rfl).bind
  intro _
  apply node_goes
  apply (currentSpan_goes.weaken Facing.toStanding).bind
  intro opening
  apply bump_goes.adding
  intro _ keyword hkeyword
  apply ((grammarName_goes hcolons).weaken And.left).adding
  rintro _ name ⟨hname, hfaultless⟩
  apply (eat_passes (by decide) hdo).knowing
  have hloop : Settles never
      (Midway (Listed names keyword name) (Rule.wordsAs spell) 24 [] [(.keywordEnd, "end")] rules
        rules)
      (untilDone (nextRule levels opening) ()) fun _ s ↦ ∃ trees closing,
        Listed names keyword name trees rules ∧ Standing 0 [] (trees ++ [Cst.leaf closing]) [] s :=
    untilDone_goes (fun _ _ u ↦ nextRule_goes hrules opening u)
      (fun u ↦ nextRule_ends opening u) (Midway.length_le (by simp [Rule.wordsAs])) rules ()
  apply hloop.imp
  · intro s hs
    exact ⟨rfl, ⟨[], rfl, .nil⟩, hs.toStanding.mono (by decide)⟩
  · rintro _ s ⟨_, closing, ⟨found, rfl, hfound⟩, hs⟩
    exact ⟨_, fun children hchildren ↦
      restores_grammar (congrArg Prod.fst hkeyword) hname hfaultless hfound hchildren, hs⟩

/-! ## Whole texts -/

theorem endOfText_goes : Settles never (Standing 0 outer trees []) endOfText
    fun _ ↦ Standing 0 outer trees [] := by
  apply atEnd_goes.knowing
  rw [if_neg (by decide)]
  exact addTrivia_goes.imp id Facing.toStanding

theorem root_runs {first : String} {others : List String} {s : State}
    (hrules : Rewritable spell names levels rules)
    (hs : Standing 0 [] [] (Grammar.wordsAs spell first others rules) s) (hbuilt : s.built = #[])
    (hpending : s.pending = []) : ∃ s' tree children, (root levels).run s = .ok ((), s') ∧
      tree.Restores names ⟨first :: others, rules⟩ ∧ significant children = [tree] ∧
      s'.built = #[.node .rootNode children] ∧ s'.diagnostics = [] := by
  have hopened : Standing 0 [] [] (Grammar.wordsAs spell first others rules)
      { s with pending := [], built := #[] } :=
    ⟨hs.ahead.opened, hs.spoken, hs.joined, hs.looks, hs.fuel, hs.unreported⟩
  have hbody : Settles never (Standing 0 [] [] (Grammar.wordsAs spell first others rules))
      (do
        if ← currentIs .keywordGrammar then grammar levels
        else error .expectedGrammar
        endOfText)
      fun _ s ↦ ∃ tree, tree.Restores names ⟨first :: others, rules⟩ ∧
        Standing 0 [] [tree] [] s := by
    apply (currentIs_goes (by decide) .keywordGrammar).knowing
    rw [if_pos (by rfl)]
    apply ((grammar_goes hrules).weaken fun hs ↦ hs.toStanding.mono (by decide)).adding
    intro _ tree htree
    exact endOfText_goes.imp id fun hs ↦ ⟨tree, htree, hs⟩
  rcases hbody.holds hopened with ⟨_, s₁, hrun, tree, htree, hended⟩ | ⟨_, _, ⟨⟩⟩
  obtain ⟨children, hchildren, hsignificant⟩ := hended.ahead.built
  refine ⟨_, tree, children, node_run .rootNode hrun, htree, hsignificant, ?_, hended.unreported⟩
  simp [hbuilt, hpending, hchildren]

end Rules

end Cst.Parse

namespace Cst

open Parse (Rewritable)

/-- A text that spells a grammar with bodies that are read again is read as that grammar. -/
theorem parse_restores {spell : Expr → List (Kind × String)} {names : List String}
    {source : String} {limits : Limits} {first : String}
    {others : List String} {rules : List Rule}
    (hspelled : Token.Spelled source.toList (Grammar.wordsAs spell first others rules))
    (hfuel : ∀ fuel ∈ limits.execFuel, (Grammar.wordsAs spell first others rules).length ≤ fuel)
    (hrules : Rewritable spell names
      (limits.recursionFuel.getD ((Token.lex source.toList).length + 1)) rules) :
    ∃ parsed tree children, Cst.parse source limits = .ok parsed ∧ parsed.diagnostics = [] ∧
      parsed.root = .node .rootNode children ∧ significant children = [tree] ∧
      tree.Restores names ⟨first :: others, rules⟩ := by
  have hs : Parse.Standing 0 [] [] (Grammar.wordsAs spell first others rules)
      (Parse.start (Token.lex source.toList) source.utf8ByteSize limits.execFuel) :=
    ⟨Parse.start_at _ _ _, hspelled.words 0, hspelled.joined 0, Nat.le_refl _, hfuel, rfl⟩
  obtain ⟨s', tree, children, hrun, htree, hchildren, hbuilt, hclean⟩ :=
    Parse.root_runs hrules hs rfl rfl
  obtain ⟨root, hroot, hparse⟩ := parse_of_run hrun
  rw [hbuilt] at hroot
  cases hroot
  exact ⟨_, tree, children, hparse, hclean, rfl, hchildren, htree⟩

end Cst

end PegKit
