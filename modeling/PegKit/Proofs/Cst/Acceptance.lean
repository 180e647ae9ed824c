import PegKit.Proofs.Cst.Declarations
import PegKit.Proofs.Cst.Expressions
import PegKit.Proofs.Cst.Totality

/-!
# Accepted texts

A text that is read without an error is a grammar, and its tree means what the grammar language says
it means.
-/

namespace PegKit.Cst.Parse

open Token (Whole)

variable {outer trees : List Cst} {tokens : List Token} {s s' : State}

theorem eat_optional (h : At outer trees tokens s) (hwhole : Whole tokens) {kind : Kind}
    (hpart : kind.isLiteralPart = false) {b : Bool} (hrun : (eat kind).run s = .ok (b, s')) :
    ∃ between rest, tokens = between ++ rest ∧ Syntax.Optional kind between ∧ Whole rest ∧
      At outer (trees ++ between.map Cst.leaf) rest s' := by
  rcases eat_reads h hrun with ⟨_, token, rest, rfl, hkind, hat⟩ | ⟨_, _, hat⟩
  · exact ⟨[token], rest, rfl, .inr ⟨token, rfl, hkind⟩, hwhole.tail (hkind ▸ hpart), hat⟩
  · exact ⟨[], tokens, rfl, .inl rfl, hwhole, by simpa using hat⟩

/-! ## Rules -/

/-- The end of a rule or grammar is next, or was just read. -/
inductive Ended (outer trees : List Cst) (tokens : List Token) (s : State) : Prop
  | intro {closing : Token} {rest : List Token} (split : tokens = closing :: rest)
      (isClosing : closing.kind = .keywordEnd)
      (ahead : At outer (trees ++ [Cst.leaf closing]) rest s)

theorem endRule_reads {opening : Text.Span} {u : Unit} {result : Option Unit}
    (h : At outer trees tokens s) (hrun : (endRule opening u).run s = .ok (result, s')) :
    Reported s' ∨ Onward (fun _ ↦ At outer trees tokens) (fun _ ↦ Ended outer trees tokens) u result
      s' := by
  obtain ⟨_, s₁, hempty, hrest⟩ := run_bind hrun
  obtain ⟨hat, _, rfl⟩ := atEnd_reads h hempty
  split at hrest
  · obtain ⟨_, s₂, herror, hdone⟩ := run_bind hrest
    obtain ⟨rfl, rfl⟩ := run_pure hdone
    exact .inl (errorUnclosed_reads hat rfl herror)
  obtain ⟨kind, s₂, hcurrent, hrest⟩ := run_bind hrest
  obtain ⟨hat, hpassed, rfl⟩ := current_reads hat hcurrent
  split at hrest
  · next hkind =>
    obtain ⟨_, s₃, hbump, hdone⟩ := run_bind hrest
    obtain ⟨rfl, rfl⟩ := run_pure hdone
    obtain ⟨closing, rest, rfl, hclosed⟩ := bump_reads hat hpassed hbump
    exact .inr ⟨rfl, hkind, hclosed⟩
  · obtain ⟨_, s₃, herror, hdone⟩ := run_bind hrest
    obtain ⟨rfl, rfl⟩ := run_pure hdone
    exact .inl (errorUnclosed_reads hat rfl herror)
  · obtain ⟨_, s₃, herror, hdone⟩ := run_bind hrest
    obtain ⟨rfl, rfl⟩ := run_pure hdone
    exact .inl (errorAndRecover_reads hat rfl herror)

theorem ruleBody_reads {levels : Nat} {opening : Text.Span} (h : At outer trees tokens s)
    (hwhole : Whole tokens) {u : Unit} (hrun : (ruleBody levels opening).run s = .ok (u, s')) :
    Reported s' ∨ ∃ between read closing rest body tree,
      tokens = between ++ read ++ closing :: rest ∧ Syntax.Optional .keywordDo between ∧
      Syntax.Choice read body ∧ closing.kind = .keywordEnd ∧ tree.Means body ∧ Whole rest ∧
      At outer (trees ++ between.map Cst.leaf ++ [tree] ++ [Cst.leaf closing]) rest s' := by
  have hstays := stays_respected
  have hend := endRule_preserves hstays opening
  obtain ⟨_, s₁, heat, hrest⟩ := run_bind hrun
  obtain ⟨between, left, rfl, hdo, hleft, hbegun⟩ := eat_optional h hwhole rfl heat
  obtain ⟨_, s₂, hbegin, hrest⟩ := run_bind hrest
  obtain ⟨hbegun, _, rfl⟩ := currentIsIn_reads hbegun hbegin
  split at hrest
  · next hbegins =>
    obtain ⟨_, s₃, hread, hrest⟩ := run_bind hrest
    rcases choice_reads (prefixed_reads levels) hbegun hleft hbegins hread with hreported | hfound
    · exact .inl ((Preserves.untilDone hstays hend ()).holds hrest hreported)
    obtain ⟨hsplit, hchoice, hmeans, hwhole, hafter⟩ := hfound
    rcases untilDone_reads hend endRule_reads hafter hrest with hreported | ⟨rfl, hclosing, hclosed⟩
    · exact .inl hreported
    · refine .inr ⟨between, _, _, _, _, _, ?_, hdo, hchoice, hclosing, hmeans,
        hwhole.tail (by rw [hclosing]; rfl), hclosed⟩
      rw [hsplit, List.append_assoc]
  · obtain ⟨_, s₃, herror, hrest⟩ := run_bind hrest
    exact .inl ((Preserves.untilDone hstays hend ()).holds hrest
      (errorDetailed_reads hbegun rfl herror))

theorem rule_reads {levels : Nat} (h : At outer trees tokens s) (hwhole : Whole tokens) {u : Unit}
    (hrun : (rule levels).run s = .ok (u, s')) :
    Reported s' ∨ Found Syntax.RuleText Declares outer trees tokens s' := by
  obtain ⟨_, s₁, hexpect, hnode⟩ := run_bind hrun
  obtain ⟨hat, _, hkeyword⟩ := expect_reads h hexpect
  obtain ⟨s₂, s₃, hinner, _, hbody, hreported, hfilled, _⟩ :=
    node_ends Syntax.RuleText Declares hat hnode
  suffices Reported s₃ ∨ Filled Syntax.RuleText Declares .ruleNode [] tokens s₃ from
    this.imp hreported hfilled
  obtain ⟨opening, s₄, hspan, hrest⟩ := run_bind hbody
  obtain ⟨hinner, hpassed⟩ := currentSpan_reads hinner hspan
  obtain ⟨_, s₅, hbump, hrest⟩ := run_bind hrest
  obtain ⟨keyword, left, rfl, hbegun⟩ := bump_reads hinner hpassed hbump
  rw [first_cons] at hkeyword
  have hleft := hwhole.tail (by rw [hkeyword]; rfl)
  obtain ⟨_, s₆, heat, hrest⟩ := run_bind hrest
  rcases eat_reads hbegun heat with ⟨rfl, name, left, rfl, hname, hnamed⟩ | ⟨rfl, _, hunnamed⟩
  · rcases ruleBody_reads hnamed (hleft.tail (by rw [hname]; rfl)) hrest with hreported | hfound
    · exact .inl hreported
    obtain ⟨between, read, closing, rest, body, tree, rfl, hdo, hchoice, hclosing, hmeans, hwhole,
      hclosed⟩ := hfound
    refine .inr ⟨?_, .intro hkeyword hname hdo hchoice hclosing, fun _ hchildren ↦
      declares_rule hmeans hchildren hkeyword hname hdo, hwhole, hclosed⟩
    simp
  · obtain ⟨_, s₇, herror, hrest⟩ := run_bind hrest
    exact .inl ((ruleBody_preserves stays_respected levels opening).holds hrest
      (error_reads hunnamed rfl herror))

/-! ## Names -/

/-- The segments of a name read so far, with the colons between them. -/
inductive Naming (tokens : List Token) : Unit → State → Prop
  | intro {read rest : List Token} {segments : List String} {s : State}
      (split : tokens = read ++ rest) (derived : Syntax.NameText read segments)
      (whole : Whole rest) (ahead : At [] (read.map Cst.leaf) rest s) : Naming tokens () s

theorem nextSegment_reads {u : Unit} {result : Option Unit} (h : Naming tokens u s)
    (hrun : (nextSegment u).run s = .ok (result, s')) :
    Reported s' ∨ Onward (Naming tokens) (Naming tokens) u result s' := by
  obtain ⟨hsplit, hderived, hwhole, hat⟩ := h
  obtain ⟨_, s₁, hcolons, hrest⟩ := run_bind hrun
  obtain ⟨hat, hpassed, rfl⟩ := currentIs_reads hat hcolons
  split at hrest
  · obtain ⟨rfl, rfl⟩ := run_pure hrest
    exact .inr ⟨hsplit, hderived, hwhole, hat⟩
  next hcolons =>
  obtain ⟨_, s₂, hbump, hrest⟩ := run_bind hrest
  obtain ⟨colons, left, rfl, hbumped⟩ := bump_reads hat hpassed hbump
  have hkind : colons.kind = .doubleColon := by simpa [first_cons] using hcolons
  have hleft := hwhole.tail (by rw [hkind]; rfl)
  obtain ⟨_, s₃, heat, hrest⟩ := run_bind hrest
  rcases eat_reads hbumped heat with ⟨rfl, name, left, rfl, hname, hnamed⟩ | ⟨rfl, _, hunnamed⟩
  · obtain ⟨rfl, rfl⟩ := run_pure hrest
    refine .inr ⟨?_, hderived.more hkind hname, hleft.tail (by rw [hname]; rfl), ?_⟩
    · rw [hsplit]
      simp
    · simpa using hnamed
  · obtain ⟨_, s₄, herror, hdone⟩ := run_bind hrest
    obtain ⟨rfl, rfl⟩ := run_pure hdone
    exact .inl (error_reads hunnamed rfl herror)

theorem grammarName_reads (h : At outer trees tokens s) (hwhole : Whole tokens) {u : Unit}
    (hrun : grammarName.run s = .ok (u, s')) :
    Reported s' ∨ Found Syntax.NameText Names outer trees tokens s' := by
  obtain ⟨_, s₁, hname, hrest⟩ := run_bind hrun
  obtain ⟨hat, hpassed, rfl⟩ := currentIs_reads h hname
  split at hrest
  · next hname =>
    obtain ⟨s₂, s₃, hinner, hkept, hbody, hreported, hfilled, _⟩ :=
      node_ends Syntax.NameText Names hat hrest
    obtain ⟨_, s₄, hbump, hloop⟩ := run_bind hbody
    obtain ⟨name, left, rfl, hnamed⟩ := bump_reads hinner (hkept hpassed) hbump
    have hkind : name.kind = .identifier := beq_iff_eq.mp hname
    rcases untilDone_reads (nextSegment_preserves stays_respected) nextSegment_reads
      ⟨rfl, .one hkind, hwhole.tail (by rw [hkind]; rfl), hnamed⟩ hloop with hbad | hnaming
    · exact .inl (hreported hbad)
    obtain ⟨hsplit, hderived, hwhole, hafter⟩ := hnaming
    exact .inr (hfilled ⟨hsplit, hderived, fun _ hchildren ↦ names_intro hderived hchildren,
      hwhole, hafter⟩)
  · exact .inl (error_reads hat rfl hrest)

/-! ## Grammars -/

/-- Rules have been read after `head`. -/
inductive Ruling (head : List Cst) (tokens : List Token) : Unit → State → Prop
  | intro {read rest : List Token} {rules : List Rule} {trees : List Cst} {s : State}
      (split : tokens = read ++ rest) (derived : Syntax.Rules read rules)
      (declares : List.Forall₂ Declares trees rules) (whole : Whole rest)
      (ahead : At [] (head ++ trees) rest s) : Ruling head tokens () s

/-- All rules have been read after `head`, and the end of the grammar after them. -/
inductive Ruled (head : List Cst) (tokens : List Token) : Unit → State → Prop
  | intro {read rest : List Token} {closing : Token} {rules : List Rule} {trees : List Cst}
      {s : State} (split : tokens = read ++ closing :: rest) (derived : Syntax.Rules read rules)
      (isClosing : closing.kind = .keywordEnd) (declares : List.Forall₂ Declares trees rules)
      (whole : Whole rest) (ahead : At [] (head ++ trees ++ [Cst.leaf closing]) rest s) :
      Ruled head tokens () s

theorem nextRule_reads {head : List Cst} {levels : Nat} {opening : Text.Span} {u : Unit}
    {result : Option Unit} (h : Ruling head tokens u s)
    (hrun : (nextRule levels opening u).run s = .ok (result, s')) :
    Reported s' ∨ Onward (Ruling head tokens) (Ruled head tokens) u result s' := by
  obtain ⟨hsplit, hrules, hdeclares, hwhole, hat⟩ := h
  obtain ⟨_, s₁, hempty, hrest⟩ := run_bind hrun
  obtain ⟨hat, _, rfl⟩ := atEnd_reads hat hempty
  split at hrest
  · obtain ⟨_, s₂, herror, hdone⟩ := run_bind hrest
    obtain ⟨rfl, rfl⟩ := run_pure hdone
    exact .inl (errorUnclosed_reads hat rfl herror)
  obtain ⟨kind, s₂, hcurrent, hrest⟩ := run_bind hrest
  obtain ⟨hat, hpassed, rfl⟩ := current_reads hat hcurrent
  split at hrest
  · obtain ⟨_, s₃, hread, hdone⟩ := run_bind hrest
    obtain ⟨rfl, rfl⟩ := run_pure hdone
    rcases rule_reads hat hwhole hread with hreported | hfound
    · exact .inl hreported
    obtain ⟨hsplit', hrule, hdeclares', hwhole, hafter⟩ := hfound
    rw [hsplit', ← List.append_assoc] at hsplit
    rw [List.append_assoc] at hafter
    exact .inr ⟨hsplit, hrules.more hrule,
      List.rel_append hdeclares (.cons hdeclares' .nil), hwhole, hafter⟩
  · next hkind =>
    obtain ⟨_, s₃, hbump, hdone⟩ := run_bind hrest
    obtain ⟨rfl, rfl⟩ := run_pure hdone
    obtain ⟨closing, left, rfl, hclosed⟩ := bump_reads hat hpassed hbump
    have hleft := hwhole.tail (by rw [show closing.kind = .keywordEnd from hkind]; rfl)
    exact .inr ⟨hsplit, hrules, hkind, hdeclares, hleft, hclosed⟩
  · obtain ⟨_, s₃, herror, hdone⟩ := run_bind hrest
    obtain ⟨rfl, rfl⟩ := run_pure hdone
    exact .inl (errorAndBump_reads hat rfl herror)

theorem grammar_reads {levels : Nat} (h : At outer trees tokens s) (hwhole : Whole tokens)
    {u : Unit} (hrun : (grammar levels).run s = .ok (u, s')) :
    Reported s' ∨ Found Syntax.GrammarText Gives outer trees tokens s' := by
  have hstays := stays_respected
  obtain ⟨_, s₁, hexpect, hnode⟩ := run_bind hrun
  obtain ⟨hat, _, hkeyword⟩ := expect_reads h hexpect
  obtain ⟨s₂, s₃, hinner, _, hbody, hreported, hfilled, _⟩ :=
    node_ends Syntax.GrammarText Gives hat hnode
  suffices Reported s₃ ∨ Filled Syntax.GrammarText Gives .grammarNode [] tokens s₃ from
    this.imp hreported hfilled
  obtain ⟨opening, s₄, hspan, hrest⟩ := run_bind hbody
  obtain ⟨hinner, hpassed⟩ := currentSpan_reads hinner hspan
  obtain ⟨_, s₅, hbump, hrest⟩ := run_bind hrest
  obtain ⟨keyword, left, rfl, hbegun⟩ := bump_reads hinner hpassed hbump
  rw [first_cons] at hkeyword
  obtain ⟨_, s₆, hread, hrest⟩ := run_bind hrest
  have hloop := nextRule_preserves hstays levels opening
  rcases grammarName_reads hbegun (hwhole.tail (by rw [hkeyword]; rfl)) hread with
    hreported | hfound
  · have hafter := Preserves.bind hstays (eat_preserves hstays .keywordDo) fun _ ↦
      .untilDone hstays hloop ()
    exact .inl (hafter.holds hrest hreported)
  obtain ⟨rfl, hname, hnames, hleft, hnamed⟩ := hfound
  obtain ⟨_, s₇, heat, hrest⟩ := run_bind hrest
  obtain ⟨between, left, rfl, hdo, hleft, hopened⟩ := eat_optional hnamed hleft rfl heat
  rcases untilDone_reads hloop nextRule_reads
    ⟨rfl, .none, .nil, hleft, by rwa [List.append_nil]⟩ hrest with hreported | hruled
  · exact .inl hreported
  obtain ⟨rfl, hrules, hclosing, hdeclares, hlast, hclosed⟩ := hruled
  refine .inr ⟨?_, .intro hkeyword hname hdo hrules hclosing, fun _ hchildren ↦
    gives_intro hkeyword hnames hdeclares hchildren, hlast, hclosed⟩
  simp

/-! ## Whole texts -/

theorem endOfText_reads (h : At outer trees tokens s) {u : Unit}
    (hrun : endOfText.run s = .ok (u, s')) :
    Reported s' ∨ tokens = [] ∧ At outer trees [] s' := by
  have hstays := stays_respected
  obtain ⟨_, s₁, hempty, hrest⟩ := run_bind hrun
  obtain ⟨hat, _, rfl⟩ := atEnd_reads h hempty
  split at hrest
  · obtain ⟨_, s₂, herror, hskip⟩ := run_bind hrest
    have hafter := Preserves.bind hstays (bumpRest_preserves hstays) fun _ ↦
      addTrivia_preserves hstays
    exact .inl (hafter.holds hskip (error_reads hat rfl herror))
  · next hempty =>
    obtain rfl : tokens = [] := by simpa using hempty
    exact .inr ⟨rfl, (addTrivia_reads hat hrest).1⟩

theorem root_reads {levels : Nat} (h : At [] [] tokens s) (hwhole : Whole tokens)
    (hbuilt : s.built = #[]) (hpending : s.pending = []) {u : Unit}
    (hrun : (root levels).run s = .ok (u, s')) :
    Reported s' ∨ ∃ contents tree children, Syntax.GrammarText tokens contents ∧
      tree.Gives contents ∧ significant children = [tree] ∧
      s'.built = #[.node .rootNode children] := by
  have hstays := stays_respected
  obtain ⟨s₁, hbody, rfl⟩ := run_node hrun
  obtain ⟨_, s₂, hbegin, hrest⟩ := run_bind hbody
  obtain ⟨hat, _, rfl⟩ := currentIs_reads h.opened hbegin
  split at hrest
  · obtain ⟨_, s₃, hread, hend⟩ := run_bind hrest
    rcases grammar_reads hat hwhole hread with hreported | hfound
    · have hlate := (endOfText_preserves hstays).holds hend hreported
      exact .inl hlate
    obtain ⟨rfl, hderived, hgives, _, hafter⟩ := hfound
    rcases endOfText_reads hafter hend with hreported | ⟨rfl, hended⟩
    · exact .inl hreported
    obtain ⟨children, hchildren, hsignificant⟩ := hended.built
    rw [List.append_nil] at hwhole ⊢
    refine .inr ⟨_, _, children, hderived, hgives, hsignificant, ?_⟩
    simp [hbuilt, hpending, hchildren]
  · obtain ⟨_, s₃, herror, hend⟩ := run_bind hrest
    have hlate := (endOfText_preserves hstays).holds hend (error_reads hat rfl herror)
    exact .inl hlate

theorem start_at (tokens : List Token) (textLength : Nat) (fuel : Option Nat) :
    At [] [] (Token.significant tokens) (start tokens textLength fuel) :=
  ⟨rfl, by rintro _ ⟨⟩, rfl, [], rfl, rfl⟩

end Parse

/-- The tree of a text that is read without an error is the tree of a grammar. -/
theorem parse_gives {source : String} {limits : Limits} {parsed : Parsed}
    (hparse : Cst.parse source limits = .ok parsed)
    (hclean : parsed.diagnostics.hasErrors = false) : ∃ contents tree children,
      Syntax.GrammarText (Token.significant (Token.lex source.toList)) contents ∧
        tree.Gives contents ∧ significant children = [tree] ∧
        parsed.root = .node .rootNode children := by
  have hwhole := (Token.lex_whole source.toList).significant
  obtain ⟨s, hrun, ⟨_, _, hroot⟩, hreports⟩ := parse_run hparse
  rcases Parse.root_reads (Parse.start_at _ _ _) hwhole rfl rfl hrun with hreported | hread
  · rw [hreports] at hclean
    exact absurd hreported (by simpa [Parse.Reported] using hclean)
  · obtain ⟨contents, tree, children, hderived, hgives, hchildren, hbuilt⟩ := hread
    have hroot : parsed.root = .node .rootNode children := by simpa [hbuilt] using hroot.symm
    exact ⟨contents, tree, children, hderived, hgives, hchildren, hroot⟩

/-- The grammar of a text that was read is the one child of the root that is significant. -/
theorem parse_grammar {source : String} {limits : Limits} {parsed : Parsed}
    (hparse : Cst.parse source limits = .ok parsed)
    (hclean : parsed.diagnostics.hasErrors = false) : ∃ contents tree children,
      tree.Gives contents ∧ significant children = [tree] ∧
        parsed.root = .node .rootNode children ∧ parsed.root.grammar? = some tree := by
  obtain ⟨contents, tree, children, _, hgives, hchildren, hroot⟩ := parse_gives hparse hclean
  refine ⟨contents, tree, children, hgives, hchildren, hroot, ?_⟩
  rw [hroot]
  exact grammar?_eq hgives hchildren

theorem parse_entire {source : String} {limits : Limits} {parsed : Parsed}
    (hparse : Cst.parse source limits = .ok parsed)
    (hclean : parsed.diagnostics.hasErrors = false) : parsed.root.Entire := by
  obtain ⟨contents, tree, children, _, hgives, hchildren, hroot⟩ := parse_gives hparse hclean
  rw [hroot]
  exact (analysis_of_gives hgives hchildren).2.2

/-- Whatever text is read without an error is a grammar, by its tokens apart from trivia. Its
analysis gives the name and, of each name, the first rule, with no part missing anywhere in the
tree. -/
theorem parse_accepts_grammars {source : String} {limits : Limits} {parsed : Parsed}
    (hparse : Cst.parse source limits = .ok parsed)
    (hclean : parsed.diagnostics.hasErrors = false) :
    ∃ contents, Syntax.GrammarText (Token.significant (Token.lex source.toList)) contents ∧
      (Analysis.ofRoot parsed.root).grammar.name = "::".intercalate contents.name ∧
      (Analysis.ofRoot parsed.root).grammar.rules = Syntax.firstRules contents.rules ∧
      parsed.root.Entire := by
  obtain ⟨contents, tree, children, hderived, hgives, hchildren, hroot⟩ := parse_gives hparse hclean
  rw [hroot]
  exact ⟨contents, hderived, analysis_of_gives hgives hchildren⟩

theorem parse_accepts_grammars_labelled : ∃ parsed,
    Cst.parse "grammar g rule a !(x:'b'* / .) end end" .unlimited = .ok parsed ∧
      parsed.diagnostics.hasErrors = false ∧ ∃ contents,
        Syntax.GrammarText (Token.significant
          (Token.lex "grammar g rule a !(x:'b'* / .) end end".toList)) contents ∧
        (Analysis.ofRoot parsed.root).grammar.name = "::".intercalate contents.name ∧
        (Analysis.ofRoot parsed.root).grammar.rules = Syntax.firstRules contents.rules ∧
        parsed.root.Entire := by
  have hclean : (Cst.parse "grammar g rule a !(x:'b'* / .) end end" .unlimited).toOption.map
      (·.diagnostics.hasErrors) = some false := by decide +kernel
  cases hparse : Cst.parse "grammar g rule a !(x:'b'* / .) end end" .unlimited with
  | error fault =>
    rw [hparse] at hclean
    cases hclean
  | ok parsed =>
    rw [hparse] at hclean
    have hclean := Option.some.inj hclean
    exact ⟨parsed, rfl, hclean, parse_accepts_grammars hparse hclean⟩

end PegKit.Cst
