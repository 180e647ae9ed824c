import PegKit.Proofs.Analysis.Repeats
import PegKit.Proofs.Compilation.Legible
import PegKit.Proofs.Terminal.Escapes

/-!
# What an analysis reports

The analysis of a text that is read without an error reports every fault once and nothing else. Its
checks walk the tree in different ways, but each comes down to a list: the rules of the grammar, the
references and the sequences of the whole text, and the nodes of those rules that define a name.
-/

namespace PegKit

open Text (byteLength byteLength_append byteLength_cons slice slice_self)

/-! ## Places in a text -/

/-- A token stands in the text where it says. -/
theorem Token.Tiles.place {start : Nat} {tokens : List Token} (h : Token.Tiles start tokens) :
    ∀ token ∈ tokens, ∃ before after,
      Token.characters tokens = before ++ token.text.toList ++ after ∧
        token.start = start + byteLength before := by
  induction h with
  | nil =>
    intro token htoken
    cases htoken
  | @cons start first rest begins _ _ ih =>
    have hall : characters (first :: rest) = first.text.toList ++ characters rest :=
      List.flatMap_cons
    intro token htoken
    rcases List.mem_cons.mp htoken with rfl | htoken
    · exact ⟨[], characters rest, hall, begins⟩
    · obtain ⟨before, after, hrest, hstart⟩ := ih token htoken
      refine ⟨first.text.toList ++ before, after, ?_, ?_⟩
      · rw [hall, hrest]
        simp
      · rw [hstart, Token.stop, byteLength_append, Text.byteLength_toList, begins, Nat.add_assoc]

namespace Cst

theorem tokens_of_mem_nodes {root found : Cst} (h : found ∈ root.nodes) :
    found.tokens ⊆ root.tokens :=
  of_mem_nodes (P := fun tree ↦ tree.tokens ⊆ root.tokens)
    (fun htree hchild ↦ List.Subset.trans (tokens_subset hchild) htree) root
    (List.Subset.refl _) found h

/-- Where a token of a text that was read stands. -/
theorem parse_place {source : String} {limits : Limits} {parsed : Parsed} {token : Token}
    (hparse : Cst.parse source limits = .ok parsed) (htoken : token ∈ parsed.root.tokens) :
    ∃ before after, source.toList = before ++ token.text.toList ++ after ∧
      token.start = byteLength before := by
  have hplace := (Token.lex_tiles source.toList).place token (parse_tokens hparse ▸ htoken)
  rw [Token.lex_characters] at hplace
  obtain ⟨before, after, hsource, hstart⟩ := hplace
  exact ⟨before, after, hsource, by rw [hstart, Nat.zero_add]⟩

/-- Rules, references and labels of a text that was read have their names. -/
theorem parse_named {source : String} {limits : Limits} {parsed : Parsed}
    (hparse : Cst.parse source limits = .ok parsed)
    (hclean : parsed.diagnostics.hasErrors = false) :
    ∀ node ∈ parsed.root.nodes, node.kind ∈ [.ruleNode, .refNode, .labelNode] →
      node.name?.isSome := by
  intro node hnode hkind
  have hcomplete := parse_entire hparse hclean node hnode
  rw [Complete] at hcomplete
  simp only [List.mem_cons, List.not_mem_nil, or_false] at hkind
  rcases hkind with hkind | hkind | hkind <;> rw [hkind] at hcomplete
  · exact hcomplete.1
  · exact hcomplete
  · exact hcomplete.1

/-- The rules of a grammar are nodes of the text. -/
theorem mem_nodes_of_mem_rules {root grammar rule : Cst} (hgrammar : root.grammar? = some grammar)
    (hrule : rule ∈ grammar.rules) : rule ∈ root.nodes ∧ rule.kind = .ruleNode := by
  obtain ⟨hmem, hkind⟩ := List.mem_filter.mp hrule
  cases rule with
  | leaf => cases hkind
  | node kind inside =>
    have hwithin := List.Subset.trans (nodes_subset_of_mem_children hmem)
      (nodes_subset_of_mem_children (List.mem_of_find?_eq_some hgrammar))
    exact ⟨hwithin List.mem_cons_self, beq_iff_eq.mp hkind⟩

/-! ## Malformed strings and classes -/

open Terminal (WellEscaped Offends)

/-- What is reported of the text of one node. In a string it is the first place where a backslash
begins no escape: what stands before it from the quote on is well formed. -/
inductive Malformed (source : String) (tree : Cst) : Diagnostic → Prop
  | escape {value : Token} {before good text bad rest after : List Char}
      (isString : tree.kind = .strNode) (quoted : tree.childToken? .stringValue = some value)
      (read : value.text.toList = good ++ (bad ++ rest))
      (place : source.toList = before ++ value.text.toList ++ after)
      (start : value.start = byteLength before)
      (wellEscaped : WellEscaped good text) (offends : Offends bad rest) :
      Malformed source tree (.detailed .invalidEscape
        ⟨byteLength (before ++ good), byteLength (before ++ good ++ bad)⟩
        ("`" ++ String.ofList bad ++ "`"))
  | charClass {brackets : Token} {reason : CharClass.BracketError}
      (isClass : tree.kind = .charClassNode) (bracketed : tree.classToken? = some brackets)
      (refused : CharClass.ofBrackets brackets.text = .error reason) :
      Malformed source tree (.detailed .invalidCharClass brackets.span reason.message)

theorem escapeFault?_eq_some_iff {value : Token} {before : List Char} {report : Diagnostic}
    (hstart : value.start = byteLength before) :
    escapeFault? value = some report ↔ ∃ good text bad rest,
      value.text.toList = good ++ (bad ++ rest) ∧ WellEscaped good text ∧ Offends bad rest ∧
      report = .detailed .invalidEscape
        ⟨byteLength (before ++ good), byteLength (before ++ good ++ bad)⟩
        ("`" ++ String.ofList bad ++ "`") := by
  have hreport {good bad rest : List Char} (hread : value.text.toList = good ++ (bad ++ rest)) :
      Diagnostic.detailed .invalidEscape
        ⟨value.start + byteLength good, value.start + (byteLength good + byteLength bad)⟩
        ("`" ++ String.ofList (slice value.text.toList (byteLength good)
          (byteLength good + byteLength bad)) ++ "`") =
      .detailed .invalidEscape ⟨byteLength (before ++ good), byteLength (before ++ good ++ bad)⟩
        ("`" ++ String.ofList bad ++ "`") := by
    rw [hread, Text.slice_middle, hstart, byteLength_append, byteLength_append, byteLength_append,
      Nat.add_assoc]
  unfold escapeFault?
  constructor
  · intro h
    cases hunescape : Terminal.unescape value.text with
    | ok text =>
      rw [hunescape] at h
      cases h
    | error span =>
      rw [hunescape] at h
      obtain ⟨good, text, bad, rest, hread, hgood, hbad, rfl⟩ :=
        Terminal.unescape_eq_error_iff.mp hunescape
      have hsame := (Option.some.inj h).symm.trans (hreport hread)
      exact ⟨good, text, bad, rest, hread, hgood, hbad, hsame⟩
  · rintro ⟨good, text, bad, rest, hread, hgood, hbad, rfl⟩
    rw [Terminal.unescape_eq_error_iff.mpr ⟨good, text, bad, rest, hread, hgood, hbad, rfl⟩]
    exact congrArg some (hreport hread)

/-- A node of a text that was read is reported on exactly when its text is malformed. -/
theorem fault?_eq_some_iff {source : String} {limits : Limits} {parsed : Parsed} {found : Cst}
    {report : Diagnostic} (hparse : Cst.parse source limits = .ok parsed)
    (hfound : found ∈ parsed.root.nodes) :
    found.fault? = some report ↔ Malformed source found report := by
  constructor
  · intro h
    unfold fault? at h
    split at h
    · next hstring =>
      obtain ⟨value, hvalue, hfault⟩ := Option.bind_eq_some_iff.mp h
      have htoken := tokens_of_mem_nodes hfound (childToken?_eq_some hvalue).2
      obtain ⟨before, after, hplace, hstart⟩ := parse_place hparse htoken
      obtain ⟨good, text, bad, rest, hread, hgood, hbad, rfl⟩ :=
        (escapeFault?_eq_some_iff hstart).mp hfault
      exact .escape hstring hvalue hread hplace hstart hgood hbad
    · next hclass =>
      obtain ⟨brackets, hbrackets, hfault⟩ := Option.bind_eq_some_iff.mp h
      unfold classFault? at hfault
      cases hread : CharClass.ofBrackets brackets.text with
      | ok cls =>
        rw [hread] at hfault
        cases hfault
      | error reason =>
        rw [hread] at hfault
        cases hfault
        exact .charClass hclass hbrackets hread
    · cases h
  · intro h
    cases h with
    | escape hstring hvalue hread hplace hstart hgood hbad =>
      rw [fault?, hstring, hvalue]
      exact (escapeFault?_eq_some_iff hstart).mpr ⟨_, _, _, _, hread, hgood, hbad, rfl⟩
    | charClass hclass hbrackets hrefused =>
      rw [fault?, hclass, hbrackets, Option.bind_some, classFault?, hrefused]

end Cst

/-! ## The reports of every check -/

namespace Analysis

open Cst (firstDefinitions)

/-- The names of the rules of a grammar, repeated ones too. -/
def declaredNames (grammar : Cst) : List Token := grammar.rules.filterMap Cst.name?

/-- One report on each reference to a name that no rule has. -/
def undefinedNames (root grammar : Cst) : Diagnostics :=
  (((root.nodes.filter (·.kind == .refNode)).filterMap Cst.name?).filter fun name ↦
    !(declaredNames grammar).any (·.text == name.text)).map fun name ↦
      .detailed .undefinedRule name.span name.text

/-- One report on each label of a sequence that an item before it has. -/
def repeatedLabels (root : Cst) : Diagnostics :=
  (root.nodes.filter (·.kind == .seqNode)).flatMap fun sequence ↦
    repeated .duplicateLabel "first used here" sequence.labelNames

/-- The reports on the strings and classes of the rules that define a name. -/
def malformedTexts (grammar : Cst) : Diagnostics :=
  (firstDefinitions grammar.rules).flatMap Cst.faults

def firstNames (grammar : Cst) (names : List String) : List Token :=
  names.filterMap fun name ↦ (declaredNames grammar).find? (·.text == name)

/-- The errors of an analysis, in the order of the checks. -/
def errors (root grammar : Cst) : Diagnostics :=
  repeated .duplicateRule "first defined here" (declaredNames grammar) ++
    undefinedNames root grammar ++ repeatedLabels root ++ malformedTexts grammar

def warnings (grammar : Cst) (keyword : Token) (recursive : List String) : Diagnostics :=
  (if grammar.rules = [] then [.plain .emptyGrammar keyword.span] else []) ++
    (firstNames grammar recursive).map fun name ↦
      .detailed .leftRecursion name.span name.text

/-- What keeps an analysed text from being accepted. -/
def faultKinds : List DiagnosticKind :=
  [.duplicateRule, .undefinedRule, .duplicateLabel, .invalidEscape, .invalidCharClass]

theorem isError_of_mem_faultKinds {report : Diagnostic} (h : report.kind ∈ faultKinds) :
    report.isError = true := by
  have hall : ∀ kind ∈ faultKinds, (kind.severity == .error) = true := by decide
  exact hall report.kind h

theorem kind_of_mem_faults {tree : Cst} {report : Diagnostic} (h : report ∈ tree.faults) :
    report.kind ∈ [.invalidEscape, .invalidCharClass] := by
  obtain ⟨found, _, hfault⟩ := List.mem_filterMap.mp h
  unfold Cst.fault? at hfault
  split at hfault
  · obtain ⟨value, _, hreport⟩ := Option.bind_eq_some_iff.mp hfault
    unfold Cst.escapeFault? at hreport
    split at hreport <;> cases hreport
    exact List.mem_cons_self
  · obtain ⟨brackets, _, hreport⟩ := Option.bind_eq_some_iff.mp hfault
    unfold Cst.classFault? at hreport
    split at hreport <;> cases hreport
    exact List.mem_cons_of_mem _ List.mem_cons_self
  · cases hfault

theorem kind_of_mem_errors {root grammar : Cst} {report : Diagnostic}
    (h : report ∈ errors root grammar) : report.kind ∈ faultKinds := by
  simp only [errors, List.mem_append] at h
  rcases h with ((hrule | hreference) | hlabel) | htext
  · rw [kind_of_mem_repeated hrule]
    decide
  · obtain ⟨name, _, rfl⟩ := List.mem_map.mp hreference
    change DiagnosticKind.undefinedRule ∈ faultKinds
    decide
  · obtain ⟨sequence, _, hrepeated⟩ := List.mem_flatMap.mp hlabel
    rw [kind_of_mem_repeated hrepeated]
    decide
  · obtain ⟨rule, _, hfault⟩ := List.mem_flatMap.mp htext
    have hall : [DiagnosticKind.invalidEscape, .invalidCharClass] ⊆ faultKinds := by decide
    exact hall (kind_of_mem_faults hfault)

theorem warnings_quiet (grammar : Cst) (keyword : Token) (recursive : List String) :
    ∀ report ∈ warnings grammar keyword recursive, report.isError = false := by
  intro report hreport
  rcases List.mem_append.mp hreport with hempty | hrecursive
  · split at hempty
    · rw [List.mem_singleton.mp hempty]
      rfl
    · cases hempty
  · obtain ⟨name, _, rfl⟩ := List.mem_map.mp hrecursive
    rfl

end Analysis

/-! ## The checks -/

namespace RuleTable

open Cst (isNamed find?_isNamed)

section Table

variable {found : RuleTable × Diagnostics} {rules : List Cst} {text : String}

/-- What the table has for a name is the rule with its first declaration. -/
theorem Enters.find? (h : Enters found rules) (text : String) :
    (rules.filterMap Cst.name?).find? (·.text == text) = (found.1.lookup text).bind Cst.name? := by
  rw [find?_isNamed, h.kept]

theorem Enters.named {rule : Cst} (h : Enters found rules)
    (hrule : found.1.lookup text = some rule) :
    ∃ name, rule.name? = some name ∧ name.text = text := by
  rw [h.kept] at hrule
  have hnamed := List.find?_some hrule
  cases hname : rule.name? with
  | none =>
    rw [isNamed, hname] at hnamed
    cases hnamed
  | some name =>
    rw [isNamed, hname] at hnamed
    exact ⟨name, rfl, beq_iff_eq.mp hnamed⟩

theorem Enters.declares_eq (h : Enters found rules) (text : String) :
    found.1.declares text = (rules.filterMap Cst.name?).any (·.text == text) := by
  rw [declares, ← List.isSome_find?, h.find?]
  cases hlookup : found.1.lookup text with
  | none => rfl
  | some rule =>
    obtain ⟨name, hname, _⟩ := h.named hlookup
    rw [Option.bind_some, hname]
    rfl

/-- References are checked against all rules. -/
theorem Enters.undefined_eq (h : Enters found rules) (references : List Cst) :
    references.filterMap found.1.undefined? =
      ((references.filterMap Cst.name?).filter fun name ↦
        !(rules.filterMap Cst.name?).any (·.text == name.text)).map fun name ↦
          .detailed .undefinedRule name.span name.text := by
  induction references with
  | nil => rfl
  | cons reference rest ih =>
    cases hname : reference.name? with
    | none =>
      have hsilent : found.1.undefined? reference = none := by rw [undefined?, hname]
      rw [List.filterMap_cons_none hsilent, List.filterMap_cons_none hname, ih]
    | some name =>
      rw [List.filterMap_cons_some hname]
      cases hdeclared : found.1.declares name.text with
      | true =>
        have hsilent : found.1.undefined? reference = none := by
          rw [undefined?, hname]
          exact if_pos hdeclared
        rw [h.declares_eq] at hdeclared
        rw [List.filterMap_cons_none hsilent, List.filter_cons_of_neg (by rw [hdeclared]; decide),
          ih]
      | false =>
        have hreported : found.1.undefined? reference =
            some (.detailed .undefinedRule name.span name.text) := by
          rw [undefined?, hname]
          exact if_neg (Bool.eq_false_iff.mp hdeclared)
        rw [h.declares_eq] at hdeclared
        rw [List.filterMap_cons_some hreported, List.filter_cons_of_pos (by rw [hdeclared]; rfl),
          List.map_cons, ih]

/-- Left recursion is reported where a rule is declared first. -/
theorem Enters.leftRecursion_eq (h : Enters found rules) (recursive : List String) :
    recursive.filterMap (fun name ↦ (found.1.lookup name).map fun rule ↦
        Diagnostic.detailed .leftRecursion (nameSpan rule) name) =
      (recursive.filterMap fun name ↦
        (rules.filterMap Cst.name?).find? (·.text == name)).map fun name ↦
          .detailed .leftRecursion name.span name.text := by
  rw [List.map_filterMap]
  apply List.filterMap_congr
  intro text _
  rw [h.find?]
  cases hlookup : found.1.lookup text with
  | none => rfl
  | some rule =>
    obtain ⟨name, hname, rfl⟩ := h.named hlookup
    rw [Option.bind_some, hname, Option.map_some, Option.map_some, nameSpan_eq hname]

theorem Enters.firstNames_text (h : Enters found rules) {names : List String}
    (hnames : names ⊆ found.1.map Prod.fst) :
    (names.filterMap fun name ↦
      (rules.filterMap Cst.name?).find? (·.text == name)).map (·.text) = names := by
  rw [List.map_filterMap]
  calc
    _ = names.filterMap some := by
      apply List.filterMap_congr
      intro text htext
      obtain ⟨rule, hlookup⟩ := Option.isSome_iff_exists.mp (declares_iff.mpr (hnames htext))
      obtain ⟨name, hname, rfl⟩ := h.named hlookup
      rw [h.find?, hlookup, Option.bind_some, hname, Option.map_some]
    _ = names := List.filterMap_some

/-- A grammar has rules when its table has any. -/
theorem Enters.eq_nil_iff (h : Enters found rules)
    (hnamed : ∀ rule ∈ rules, rule.name?.isSome) : found.1 = [] ↔ rules = [] := by
  constructor
  · intro hempty
    by_contra hsome
    obtain ⟨first, rest, rfl⟩ := List.exists_cons_of_ne_nil hsome
    obtain ⟨name, hname⟩ := Option.isSome_iff_exists.mp (hnamed first List.mem_cons_self)
    have hfirst := h.find? name.text
    have hfound : (name :: rest.filterMap Cst.name?).find? (·.text == name.text) = some name :=
      List.find?_cons_of_pos (beq_self_eq_true name.text)
    rw [hempty, List.filterMap_cons_some hname, hfound] at hfirst
    cases hfirst
  · rintro rfl
    exact List.map_eq_nil_iff.mp h.listed

end Table

end RuleTable

namespace Meaning

/-- The bodies of rules are reported on one after the other. -/
theorem rules_told {table : RuleTable} {rules : List Rule}
    (h : List.Forall₂ Cst.Entered table rules) (reports : Diagnostics) :
    ((Meaning.rules table).run reports).2 = reports ++ (table.map Prod.snd).flatMap Cst.faults := by
  induction h generalizing reports with
  | nil => exact (List.append_nil _).symm
  | @cons entry rule table rules hentered _ ih =>
    calc
      ((Meaning.rules (entry :: table)).run reports).2
      _ = ((Meaning.rules table).run ((operand entry.2.children).run reports).2).2 := rfl
      _ = reports ++ entry.2.faults ++ (table.map Prod.snd).flatMap Cst.faults := by
        rw [ih, hentered.declares.told]
      _ = reports ++ ((entry :: table).map Prod.snd).flatMap Cst.faults := by
        rw [List.append_assoc, List.map_cons, List.flatMap_cons]

end Meaning

namespace Analysis

/-- What an analysis says of a complete text: the errors of every check, and then the warnings. -/
theorem ofRoot_reports {root grammar : Cst} {keyword : Token} {rules : List Rule}
    (hgrammar : root.grammar? = some grammar)
    (hkeyword : grammar.childToken? .keywordGrammar = some keyword)
    (hnamed : ∀ rule ∈ grammar.rules, rule.name?.isSome)
    (hentered : List.Forall₂ Cst.Entered (RuleTable.ofRoot root).1 rules) :
    (ofRoot root).diagnostics = errors root grammar ++
        warnings grammar keyword (ofRoot root).grammar.leftRecursiveRules ∧
      (firstNames grammar (ofRoot root).grammar.leftRecursiveRules).map (·.text) =
        (ofRoot root).grammar.leftRecursiveRules := by
  have henters := RuleTable.foldl_declare grammar.rules
  have htable : (RuleTable.ofRoot root).1 =
      (grammar.rules.foldl RuleTable.declare ([], [])).1 := by
    rw [RuleTable.ofRoot, hgrammar]
  have hlisted : (ofRoot root).grammar.ruleNames = (RuleTable.ofRoot root).1.map Prod.fst :=
    (Meaning.rules_of_table (RuleTable.ofRoot root).1 []).1
  rw [htable] at hlisted hentered
  have hnames : (RuleTable.ofRoot root).2 =
      repeated .duplicateRule "first defined here" (declaredNames grammar) ++
        undefinedNames root grammar := by
    rw [RuleTable.ofRoot, hgrammar]
    exact congrArg₂ (· ++ ·) henters.reports (henters.undefined_eq _)
  have hlabels : Labels.check root = repeatedLabels root :=
    congrArg (List.flatMap · _) (funext Labels.checkSequence_eq)
  have htexts : ((Meaning.grammar root (RuleTable.ofRoot root).1).run []).2 =
      malformedTexts grammar := by
    rw [malformedTexts, ← henters.listed, htable]
    exact Meaning.rules_told hentered []
  have hempty : emptyGrammar root (ofRoot root).grammar =
      if grammar.rules = [] then [.plain .emptyGrammar keyword.span] else [] := by
    have hrules : (ofRoot root).grammar.rules.isEmpty = true ↔ grammar.rules = [] := by
      rw [List.isEmpty_iff, ← henters.eq_nil_iff hnamed, ← List.map_eq_nil_iff (f := Prod.fst),
        ← hlisted]
      exact List.map_eq_nil_iff.symm
    rw [emptyGrammar, hgrammar, Option.bind_some, hkeyword]
    exact if_congr hrules rfl rfl
  have hrecursive : leftRecursion (RuleTable.ofRoot root).1 (ofRoot root).grammar =
      (firstNames grammar (ofRoot root).grammar.leftRecursiveRules).map fun name ↦
        .detailed .leftRecursion name.span name.text := by
    rw [leftRecursion, htable]
    exact henters.leftRecursion_eq _
  constructor
  · calc
      (ofRoot root).diagnostics
      _ = (RuleTable.ofRoot root).2 ++ Labels.check root ++
          ((Meaning.grammar root (RuleTable.ofRoot root).1).run []).2 ++
          emptyGrammar root (ofRoot root).grammar ++
          leftRecursion (RuleTable.ofRoot root).1 (ofRoot root).grammar := rfl
      _ = _ := by
        rw [hnames, hlabels, htexts, hempty, hrecursive, errors, warnings]
        simp only [List.append_assoc]
  · apply henters.firstNames_text
    rw [← hlisted]
    exact List.filter_subset_self _

end Analysis

namespace Compilation

open Analysis (errors warnings firstNames faultKinds isError_of_mem_faultKinds kind_of_mem_errors
  warnings_quiet)
open Cst (Malformed)

theorem accept_ok_iff (analyzed : Analyzed) : (∃ grammar, analyzed.accept = .ok grammar) ↔
    ∀ report ∈ analyzed.diagnostics, report.isError = false := by
  have hvalid : analyzed.isValid = true ↔
      ∀ report ∈ analyzed.diagnostics, report.isError = false := by
    rw [Analyzed.isValid, Bool.not_eq_true', Diagnostics.hasErrors, List.any_eq_false]
    simp
  rw [← hvalid, Analyzed.accept]
  split
  · next haccepted => exact ⟨fun _ ↦ haccepted, fun _ ↦ ⟨_, rfl⟩⟩
  · next hrefused =>
    constructor
    · rintro ⟨grammar, haccept⟩
      cases haccept
    · intro haccepted
      exact absurd haccepted hrefused

/-- Where only faults are errors, a text without them is accepted. -/
theorem accept_iff_of_errors {analyzed : Analyzed}
    (herrors : ∀ report ∈ analyzed.diagnostics, report.isError = true →
      report.kind ∈ faultKinds) :
    (∃ grammar, analyzed.accept = .ok grammar) ↔
      ∀ report ∈ analyzed.diagnostics, report.kind ∉ faultKinds := by
  rw [accept_ok_iff]
  constructor
  · intro hquiet report hreport hfault
    have herror := isError_of_mem_faultKinds hfault
    rw [hquiet report hreport] at herror
    cases herror
  · intro hnone report hreport
    rw [Bool.eq_false_iff]
    intro herror
    exact hnone report hreport (herrors report hreport herror)

/-- The analysis of a text that is read without an error adds to the reports one for each fault: in
order, for each name of a rule that was declared before, each reference to a name that no rule has,
each label of a sequence that an item before it has, and each string and class that is malformed in
a rule that defines its name; then the warnings. Of a malformed string it reports the first place
that is no escape, and the text is accepted exactly when none of these errors is there. -/
theorem analysis_reports_faults {limits : Cst.Limits} {source : String} {parsed : Cst.Parsed}
    (hparse : Cst.parse source limits = .ok parsed)
    (hclean : parsed.diagnostics.hasErrors = false) :
    ∃ grammar keyword analyzed, parsed.root.grammar? = some grammar ∧
      grammar.childToken? .keywordGrammar = some keyword ∧
      analyze parsed = .ok analyzed ∧
      (∀ node ∈ parsed.root.nodes, node.kind ∈ [.ruleNode, .refNode, .labelNode] →
        node.name?.isSome) ∧
      analyzed.diagnostics = parsed.diagnostics ++ (errors parsed.root grammar ++
        warnings grammar keyword analyzed.grammar.leftRecursiveRules) ∧
      (firstNames grammar analyzed.grammar.leftRecursiveRules).map (·.text) =
        analyzed.grammar.leftRecursiveRules ∧
      (∀ node ∈ parsed.root.nodes, ∀ report,
        node.fault? = some report ↔ Malformed source node report) ∧
      ((∃ accepted, analyzed.accept = .ok accepted) ↔
        ∀ report ∈ analyzed.diagnostics, report.kind ∉ faultKinds) := by
  obtain ⟨contents, grammar, children, hgives, hchildren, hroot, hgrammar⟩ :=
    Cst.parse_grammar hparse hclean
  have hentered := Cst.ofRoot_entered hgives hchildren
  rw [← hroot] at hentered
  obtain ⟨keyword, hkeyword⟩ := Option.isSome_iff_exists.mp hgives.keyword
  have hnamed := Cst.parse_named hparse hclean
  have hrules : ∀ rule ∈ grammar.rules, rule.name?.isSome := by
    intro rule hrule
    obtain ⟨hmem, hkind⟩ := Cst.mem_nodes_of_mem_rules hgrammar hrule
    exact hnamed rule hmem (hkind ▸ List.mem_cons_self)
  obtain ⟨hreports, hfirst⟩ := Analysis.ofRoot_reports hgrammar hkeyword hrules hentered
  have hanalyze : analyze parsed = .ok {
      parsed, table := (Analysis.ofRoot parsed.root).table
      grammar := (Analysis.ofRoot parsed.root).grammar
      diagnostics := parsed.diagnostics ++ (Analysis.ofRoot parsed.root).diagnostics } := by
    rw [analyze, hclean]
    rfl
  rw [hreports] at hanalyze
  refine ⟨grammar, keyword, _, hgrammar, hkeyword, hanalyze, hnamed, rfl, hfirst, ?_, ?_⟩
  · intro node hnode report
    exact Cst.fault?_eq_some_iff hparse hnode
  · apply accept_iff_of_errors
    intro report hreport herror
    rcases List.mem_append.mp hreport with hread | hadded
    · exact absurd herror (List.any_eq_false.mp hclean report hread)
    · rcases List.mem_append.mp hadded with hfault | hwarned
      · exact kind_of_mem_errors hfault
      · rw [warnings_quiet _ _ _ report hwarned] at herror
        cases herror

/-- A text with something to report for every check but that of empty grammars. -/
def faultyText : String := "grammar G rule a a c x:'\\q' x:[z-a] end rule a [z-a] end end"

theorem analysis_reports_faults_repeated : ∃ parsed,
    Cst.parse faultyText {} = .ok parsed ∧
      parsed.diagnostics.hasErrors = false ∧ ∃ grammar keyword analyzed,
        parsed.root.grammar? = some grammar ∧
        grammar.childToken? .keywordGrammar = some keyword ∧
        analyze parsed = .ok analyzed ∧
        (∀ node ∈ parsed.root.nodes, node.kind ∈ [.ruleNode, .refNode, .labelNode] →
          node.name?.isSome) ∧
        analyzed.diagnostics = parsed.diagnostics ++ (errors parsed.root grammar ++
          warnings grammar keyword analyzed.grammar.leftRecursiveRules) ∧
        (firstNames grammar analyzed.grammar.leftRecursiveRules).map (·.text) =
          analyzed.grammar.leftRecursiveRules ∧
        (∀ node ∈ parsed.root.nodes, ∀ report,
          node.fault? = some report ↔ Malformed faultyText node report) ∧
        ((∃ accepted, analyzed.accept = .ok accepted) ↔
          ∀ report ∈ analyzed.diagnostics, report.kind ∉ faultKinds) := by
  have hclean : (Cst.parse faultyText {}).toOption.map (·.diagnostics.hasErrors) = some false := by
    decide +kernel
  cases hparse : Cst.parse faultyText {} with
  | error fault =>
    rw [hparse] at hclean
    cases hclean
  | ok parsed =>
    rw [hparse] at hclean
    have hclean := Option.some.inj hclean
    exact ⟨parsed, rfl, hclean, analysis_reports_faults hparse hclean⟩

end Compilation

end PegKit
