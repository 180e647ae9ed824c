import PegKit.Proofs.Compilation.Accepted
import PegKit.Proofs.Compilation.Legible
import PegKit.Proofs.Emission.Rebuilding
import PegKit.Proofs.Namespace.Loads
import PegKit.Proofs.Program.Faithful
import PegKit.Proofs.Text.Casing

/-!
# Methods of generated parsers

A generated parser type has a method for each rule. The methods are read back from the lines of the
type, each with its name and the rule that it parses from. Their names are those of the rules in
snake case, so that rules whose names only differ in capitals share one.
-/

namespace PegKit.Emission

open Reading Text.Casing
open Token (isIdentifierPart)

/-! ## Reading methods -/

/-- A method that parses: its name, and the rule that its body hands on as the root. -/
structure Method where
  name : String
  root : Option String
  deriving DecidableEq, Repr

namespace Method

/-- The name that a line gives to a method that parses, if it opens one. -/
def name? (line : String) : Option String :=
  (Text.stripLead? "pub fn parse_".toList line.toList).map fun rest ↦
    "parse_" ++ String.ofList (rest.takeWhile isIdentifierPart)

/-- The text that the first call of `root` is given. -/
def rootIn? : List Reading.Token → Option String
  | .word callee :: .mark opening :: .text value :: rest =>
    if callee = "root" ∧ opening = '(' then some value
    else rootIn? (.mark opening :: .text value :: rest)
  | _ :: rest => rootIn? rest
  | [] => none

/-- The methods among the lines of a type, each with the root in the line after its first. -/
def read : List String → List Method
  | [] => []
  | line :: rest =>
    match name? line with
    | some name => ⟨name, (rest.head?.bind tokens?).bind rootIn?⟩ :: read rest
    | none => read rest

theorem name?_eq_none {line : String} {i : Nat}
    (h : line.toList[i]? ≠ "pub fn parse_".toList[i]?) (hi : i < 13) : name? line = none := by
  unfold name?
  cases hrest : Text.stripLead? "pub fn parse_".toList line.toList with
  | none => rfl
  | some rest =>
    rw [Text.stripLead?_eq_some_iff] at hrest
    rw [hrest, List.getElem?_append_left hi] at h
    exact absurd rfl h

/-- Only the first line of a block can open a method, and the next one is its body. -/
theorem read_block (head : String) {line : String} (hline : line ≠ "") (rest : List String) :
    read (block head [line] ++ rest) =
      ((name? (head ++ r" {")).map fun name ↦
        (⟨name, (tokens? ("    " ++ line)).bind rootIn?⟩ : Method)).toList ++ read rest := by
  have hblock : block head [line] = [head ++ r" {", "    " ++ line, r"}"] := by
    simp [block, indent, String.isEmpty_iff, hline]
  have hbody : name? ("    " ++ line) = none := by
    apply @name?_eq_none _ 0 _ (by decide)
    rw [String.toList_append]
    rintro ⟨⟩
  have hclose : name? r"}" = none := rfl
  rw [hblock, List.cons_append, List.cons_append, List.cons_append, List.nil_append]
  cases hname : name? (head ++ r" {") <;> simp [read, hname, hbody, hclose]

theorem read_blank (rest : List String) : read ("" :: rest) = read rest := by
  have hblank : name? "" = none := rfl
  rw [read, hblank]

end Method

theorem methodName_toList (rule : String) :
    (methodName rule).toList = "parse_".toList ++ snake rule.toList := by
  rw [methodName, snakeName, String.toList_append, @String.toList_ofList (snake rule.toList)]

theorem snake_identifier {name : List Char} (h : ∀ c ∈ name, isIdentifierPart c = true) :
    ∀ c ∈ snake name, isIdentifierPart c = true := by
  intro c hc
  rcases mem_snake hc with rfl | hold | ⟨d, _, hupper, rfl⟩
  · rfl
  · exact h c hold
  · simp [isIdentifierPart, Char.isAlphanum, Char.isAlpha, hupper]

theorem name?_methodName {rule more : String}
    (hrule : ∀ c ∈ rule.toList, isIdentifierPart c = true)
    (hmore : more.toList.head?.any isIdentifierPart = false) :
    Method.name? ("pub fn " ++ methodName rule ++ more) = some (methodName rule) := by
  have hstrip : Text.stripLead? "pub fn parse_".toList
      ("pub fn " ++ methodName rule ++ more).toList = some (snake rule.toList ++ more.toList) := by
    rw [Text.stripLead?_eq_some_iff, String.toList_append, String.toList_append, methodName_toList]
    rfl
  have hname : (snake rule.toList ++ more.toList).takeWhile isIdentifierPart =
      snake rule.toList := by
    rw [List.takeWhile_append_of_pos (snake_identifier hrule)]
    cases hrest : more.toList with
    | nil => simp
    | cons c cs =>
      rw [hrest] at hmore
      have hc : isIdentifierPart c = false := by simpa using hmore
      rw [List.takeWhile_cons_of_neg (by simp [hc]), List.append_nil]
  rw [Method.name?, hstrip, Option.map_some, hname]
  rfl

/-- The body of a method hands on the rule that it was made for. -/
theorem rootIn?_body {runtime : String} (hpath : IsWord runtime) (rule : String) :
    (tokens? ("    " ++ ("self.0.parse(input, " ++ runtime ++ "::vm::ParseOptions::new().root(" ++
      Text.Quoted.quote rule ++ "))"))).bind Method.rootIn? = some rule := by
  have hfront : Printed "    self.0.parse(input, " [.word "self", .mark '.', .word "0", .mark '.',
      .word "parse", .mark '(', .word "input", .mark ','] := rfl
  have hoptions : IsWord (runtime ++ "::vm::ParseOptions::new") := hpath.append (by decide)
  have hcall : Printed "().root(" [.mark '(', .mark ')', .mark '.', .word "root", .mark '('] := rfl
  have hquote : Printed (Text.Quoted.quote rule) [.text rule] := scans_quote rule
  have hclose : Printed "))" [.mark ')', .mark ')'] := rfl
  have hend : EndsWord "().root(" := ⟨'(', _, rfl, rfl⟩
  have hall := hfront.append (Printed.word_append hoptions (hend.append _)
    (hcall.append (hquote.append hclose)))
  have htext : "    " ++ ("self.0.parse(input, " ++ runtime ++ "::vm::ParseOptions::new().root(" ++
      Text.Quoted.quote rule ++ "))") = "    self.0.parse(input, " ++
        (runtime ++ "::vm::ParseOptions::new" ++
          ("().root(" ++ (Text.Quoted.quote rule ++ "))"))) := by
    have hmargin : "    self.0.parse(input, " = "    " ++ "self.0.parse(input, " := rfl
    have hsplit : "::vm::ParseOptions::new().root(" = "::vm::ParseOptions::new" ++ "().root(" := rfl
    rw [hmargin, hsplit]
    simp only [String.append_assoc]
  rw [htext, tokens?, hall]
  simp [Method.rootIn?]

/-- The lines of a method are read as the method with the name and the root of its rule. -/
theorem read_ruleMethod {settings : Settings} (hpath : IsWord settings.runtimePath) {rule : String}
    (hrule : ∀ c ∈ rule.toList, isIdentifierPart c = true) (rest : List String) :
    Method.read (ruleMethod settings rule ++ rest) =
      ⟨methodName rule, some rule⟩ :: Method.read rest := by
  have hhead (more : String) : Method.name? ("pub fn " ++ methodName rule ++
      ("<'i>(&mut self, input: &'i str) -> Result<Option<" ++ more)) = some (methodName rule) := by
    apply name?_methodName hrule
    rw [String.toList_append]
    rfl
  rw [ruleMethod, Method.read_block _ (by simp), rootIn?_body hpath]
  simp only [String.append_assoc] at hhead ⊢
  rw [hhead]
  rfl

/-- The lines of the parser type hold one method for each rule. -/
def methodLines (settings : Settings) (program : Program) (segment : String) : List String :=
  constructorMethod settings segment ++
    program.rules.toList.flatMap fun rule ↦ "" :: ruleMethod settings rule.name

theorem read_methodLines {settings : Settings} (hpath : IsWord settings.runtimePath)
    {program : Program}
    (hnames : ∀ entry ∈ program.rules, ∀ c ∈ entry.name.toList, isIdentifierPart c = true)
    (segment : String) :
    Method.read (methodLines settings program segment) =
      program.rules.toList.map fun entry ↦ ⟨methodName entry.name, some entry.name⟩ := by
  have hconstructor (more : String) :
      Method.name? ("pub fn new() -> Result<Self, " ++ more) = none := by
    apply @Method.name?_eq_none _ 7 _ (by decide)
    rw [String.toList_append]
    rintro ⟨⟩
  have hrules (entries : List RuleEntry)
      (h : ∀ entry ∈ entries, ∀ c ∈ entry.name.toList, isIdentifierPart c = true) :
      Method.read (entries.flatMap fun entry ↦ "" :: ruleMethod settings entry.name) =
        entries.map fun entry ↦ ⟨methodName entry.name, some entry.name⟩ := by
    induction entries with
    | nil => rfl
    | cons entry rest ih =>
      rw [List.flatMap_cons, List.cons_append, Method.read_blank,
        read_ruleMethod hpath (h entry List.mem_cons_self),
        ih fun other hother ↦ h other (List.mem_cons_of_mem entry hother)]
      rfl
  rw [methodLines, constructorMethod, Method.read_block _ (by simp)]
  simp only [String.append_assoc]
  rw [hconstructor, hrules _ fun entry hentry ↦ hnames entry (Array.mem_toList_iff.mp hentry)]
  rfl

/-! ## The place of the methods -/

theorem indent_append (lines more : List String) :
    indent (lines ++ more) = indent lines ++ indent more := List.map_append

/-- Modules around lines indent some of them as a whole. -/
theorem nest_indents {lines before inside after : List String} {depth : Nat}
    (hlines : lines = before ++ indent^[depth] inside ++ after) (outer : List String) :
    ∃ before' depth' after', nest lines outer = before' ++ indent^[depth'] inside ++ after' := by
  induction outer with
  | nil => exact ⟨before, depth, after, hlines⟩
  | cons segment inner ih =>
    obtain ⟨before', depth', after', hinner⟩ := ih
    refine ⟨["", "pub mod " ++ moduleName segment ++ r" {"] ++ indent before', depth' + 1,
      indent after' ++ [r"}"], ?_⟩
    rw [nest, hinner, block, indent_append, indent_append, ← Function.iterate_succ_apply' indent]
    simp only [List.append_assoc, List.cons_append, List.nil_append]

theorem parserType_methods (settings : Settings) (program : Program) (segment : String) :
    ∃ before after, parserType settings program segment = before ++
      block ("impl " ++ parserTypeName segment) (methodLines settings program segment) ++
        after := by
  have hparts (front methods second third fourth fifth : List String) :
      front ++ methods ++ second ++ third ++ fourth ++ fifth =
        front ++ methods ++ (second ++ third ++ fourth ++ fifth) := by
    simp only [List.append_assoc]
  exact ⟨_, _, hparts _ _ _ _ _ _⟩

/-- The generated source holds the type of the methods, at some depth of nested modules. -/
theorem programLines_methods (settings : Settings) (program : Program) :
    let segment := (Text.nameSegments program.name).getLastD ""
    ∃ before depth after, programLines settings program = before ++
      indent^[depth] (block ("impl " ++ parserTypeName segment)
        (methodLines settings program segment)) ++ after := by
  intro segment
  obtain ⟨front, back, htype⟩ := parserType_methods settings program segment
  rw [programLines, htype]
  generalize block _ _ = inside
  generalize programFunction settings program _ = function
  generalize (if settings.nestedAlias then _ else _) = aliased
  generalize program.comments ++ _ = header
  have hbody : function ++ (front ++ inside ++ back) ++ aliased =
      (function ++ front) ++ indent^[0] inside ++ (back ++ aliased) := by
    simp only [List.append_assoc, Function.iterate_zero, id_eq]
  rw [hbody]
  split
  · exact ⟨header ++ "" :: (function ++ front), 0, back ++ aliased, by simp⟩
  · obtain ⟨before, depth, after, hnest⟩ :=
      nest_indents rfl (Text.nameSegments program.name).dropLast
    exact ⟨header ++ before, depth, after, by rw [hnest]; simp only [List.append_assoc]⟩

/-- The generated source for `grammar` has a parser type with the lines `inside`. -/
def TypeHolds (settings : Settings) (grammar : Grammar) (inside : List String) : Prop :=
  ∃ before depth after, ofGrammar settings grammar = .ok (indented 0 (before ++
    indent^[depth] (block
      ("impl " ++ parserTypeName ((Text.nameSegments grammar.name).getLastD "")) inside) ++ after))

theorem ofGrammar_typeHolds (settings : Settings) {grammar : Grammar} {program : Program}
    (h : grammar.toProgram = .ok program) :
    TypeHolds settings grammar
      (methodLines settings program ((Text.nameSegments grammar.name).getLastD "")) := by
  obtain ⟨before, depth, after, hlines⟩ := programLines_methods settings program
  rw [(Grammar.header_toProgram h).1] at hlines
  refine ⟨before, depth, after, ?_⟩
  rw [ofGrammar, h, ← hlines, ← source_eq]
  rfl

/-! ## Methods of accepted grammars -/

open Compilation (compileWithin compileWithin_writable toProgram_ok)

theorem methodName_eq_iff {rule other : String} : methodName rule = methodName other ↔
    Relation.EqvGen Lowers rule.toList other.toList := by
  rw [← snake_eq_iff, ← String.toList_inj, methodName_toList, methodName_toList]
  exact List.append_right_inj _

/-- The methods of the parser type for an accepted grammar. -/
theorem compiled_methods {limits : Cst.Limits} {source : String} {grammar : Grammar}
    (h : compileWithin limits source = .ok grammar) {settings : Settings}
    (hpath : IsWord settings.runtimePath) :
    ∃ inside, TypeHolds settings grammar inside ∧
      Method.read inside = grammar.rules.map fun rule ↦ ⟨methodName rule.name, some rule.name⟩ := by
  obtain ⟨program, hprogram⟩ := toProgram_ok h
  have hwritable := compileWithin_writable h
  have hrules : program.rules.toList.map (·.name) = grammar.rules.map (·.name) :=
    (Grammar.toProgram_mirrors ⟨grammar, hwritable.distinct⟩ hprogram).names
  have hparts : ∀ entry ∈ program.rules, ∀ c ∈ entry.name.toList, isIdentifierPart c = true := by
    intro entry hentry c hc
    have hlisted : entry.name ∈ program.rules.toList.map (·.name) :=
      List.mem_map_of_mem (Array.mem_toList_iff.mpr hentry)
    rw [hrules] at hlisted
    obtain ⟨rule, hrule, hname⟩ := List.mem_map.mp hlisted
    exact (hname ▸ hwritable.names rule hrule).part hc
  refine ⟨_, ofGrammar_typeHolds settings hprogram, ?_⟩
  have hmethods := congrArg (List.map fun name ↦ (⟨methodName name, some name⟩ : Method)) hrules
  rw [List.map_map, List.map_map] at hmethods
  exact (read_methodLines hpath hparts _).trans hmethods

/-- For every accepted text, the parser type has one method for each rule, in their order, and each
hands on the rule that it is named for. The methods have different names unless two rules have names
that only differ in capitals and in how these are set apart. -/
theorem methods_of_rules {limits : Cst.Limits} {source : String} {grammar : Grammar}
    (h : compileWithin limits source = .ok grammar) {settings : Settings}
    (hpath : IsWord settings.runtimePath) :
    ∃ inside, TypeHolds settings grammar inside ∧
      Method.read inside = (grammar.rules.map fun rule ↦
        ⟨methodName rule.name, some rule.name⟩) ∧
      (((Method.read inside).map (·.name)).Nodup ↔ grammar.rules.Pairwise fun rule other ↦
        ¬ Relation.EqvGen Lowers rule.name.toList other.name.toList) := by
  obtain ⟨inside, hholds, hread⟩ := compiled_methods h hpath
  refine ⟨inside, hholds, hread, ?_⟩
  rw [hread, List.map_map, List.Nodup, List.pairwise_map]
  simp only [Function.comp_apply, ne_eq, methodName_eq_iff]

def casedText : String := "grammar G rule TopLevel 'a' end rule top 'b' end end"

theorem methods_of_rules_cased : ∃ grammar inside,
    compileWithin {} casedText = .ok grammar ∧ TypeHolds {} grammar inside ∧
      Method.read inside =
        [⟨"parse_top_level", some "TopLevel"⟩, ⟨"parse_top", some "top"⟩] ∧
      grammar.rules.Pairwise fun rule other ↦
        ¬ Relation.EqvGen Lowers rule.name.toList other.name.toList := by
  have hnames : ((compileWithin {} casedText).toOption.map fun grammar ↦
      grammar.rules.map (·.name)) = some ["TopLevel", "top"] := by decide +kernel
  cases hcompile : compileWithin {} casedText with
  | error cause =>
    rw [hcompile] at hnames
    cases hnames
  | ok grammar =>
    rw [hcompile] at hnames
    have hlisted : grammar.rules.map (·.name) = ["TopLevel", "top"] := Option.some.inj hnames
    have hpath : IsWord ({} : Settings).runtimePath := by decide
    obtain ⟨inside, hholds, hread, hdistinct⟩ := methods_of_rules hcompile hpath
    have hmethods : Method.read inside =
        [⟨"parse_top_level", some "TopLevel"⟩, ⟨"parse_top", some "top"⟩] := by
      have hmap := congrArg (List.map fun name ↦ (⟨methodName name, some name⟩ : Method)) hlisted
      rw [List.map_map] at hmap
      exact hread.trans (hmap.trans (by decide +kernel))
    refine ⟨grammar, inside, rfl, hholds, hmethods, hdistinct.mp ?_⟩
    rw [hmethods]
    decide

/-- Two rules with one name for the methods. -/
def collidingText : String := "grammar G rule Foo 'a' end rule foo 'b' end end"

theorem methods_collide : ¬ ∀ (source : String) (grammar : Grammar) (inside : List String),
    compileWithin {} source = .ok grammar → TypeHolds {} grammar inside →
      ((Method.read inside).map (·.name)).Nodup := by
  intro hall
  have hnames : ((compileWithin {} collidingText).toOption.map fun grammar ↦
      grammar.rules.map (methodName ·.name)) = some ["parse_foo", "parse_foo"] := by
    decide +kernel
  cases hcompile : compileWithin {} collidingText with
  | error cause =>
    rw [hcompile] at hnames
    cases hnames
  | ok grammar =>
    rw [hcompile] at hnames
    have hlisted : grammar.rules.map (methodName ·.name) = ["parse_foo", "parse_foo"] :=
      Option.some.inj hnames
    have hpath : IsWord ({} : Settings).runtimePath := by decide
    obtain ⟨inside, hholds, hread⟩ := compiled_methods hcompile hpath
    have hdistinct := hall collidingText grammar inside hcompile hholds
    rw [hread, List.map_map] at hdistinct
    exact absurd (hlisted ▸ hdistinct) (by decide)

end PegKit.Emission
