import PegKit.Emission
import PegKit.Proofs.Emission.Replay

/-!
# Generated code rebuilds its program

The generated source holds the function that rebuilds the program, at some depth of nested modules.
Its body, read and carried out as a whole, makes the program it was printed from.
-/

namespace PegKit.Emission

open Reading

/-! ## The text of a body -/

/-- White space before the lines at some depth. -/
def margin (depth : Nat) : String := String.ofList (List.replicate (4 * depth) ' ')

/-- The text of lines at some depth. -/
def indented (depth : Nat) (content : List String) : String :=
  String.join (content.map fun line ↦ margin depth ++ line ++ "\n")

theorem printed_margin (depth : Nat) : Printed (margin depth) [] := by
  have hblanks (n : Nat) : scan .between (List.replicate n ' ') = some ([], .between) := by
    induction n with
    | zero => rfl
    | succ n ih => simp [List.replicate_succ, scan, step, begin, ih]
  rw [Printed, Scans, margin, String.toList_ofList]
  exact hblanks (4 * depth)

theorem printed_line {line : String} {tokens : List Reading.Token}
    (h : Printed line tokens) (depth : Nat) : Printed (margin depth ++ line ++ "\n") tokens := by
  have hbreak : Printed "\n" [] := rfl
  have hall := ((printed_margin depth).append h).append hbreak
  rwa [List.nil_append, List.append_nil] at hall

/-- Lines of statements are read one after the other. -/
theorem statements_read {runtime : String} (hruntime : IsWord runtime) (depth : Nat)
    {statements : List Statement} (hlast : .finish ∉ statements) :
    ∃ tokens, Printed (indented depth (statements.map (Statement.text runtime))) tokens ∧
      statements.length ≤ tokens.length ∧
      ∀ bound rest, readLines (statements.length + bound) (tokens ++ rest) =
        (readLines bound rest).map (statements.map Statement.line ++ ·) := by
  induction statements with
  | nil =>
    refine ⟨[], rfl, Nat.le_refl 0, fun bound rest ↦ ?_⟩
    simp
  | cons statement others ih =>
    rw [List.mem_cons, not_or] at hlast
    obtain ⟨tokens, hprinted, hlength, hread⟩ := ih hlast.2
    obtain ⟨first, more, hline, hreads⟩ := statement.reads hruntime (Ne.symm hlast.1)
    refine ⟨first :: more ++ tokens, ?_, ?_, fun bound rest ↦ ?_⟩
    · rw [List.map_cons, indented, List.map_cons, String.join_cons]
      exact (printed_line hline depth).append hprinted
    · simp only [List.length_cons, List.length_append]
      omega
    · have hbound : (statement :: others).length + bound = others.length + bound + 1 := by
        simp only [List.length_cons]
        omega
      have hfirst : readLines (others.length + bound + 1) (first :: more ++ tokens ++ rest) =
          (readLine (first :: more ++ (tokens ++ rest))).bind fun found ↦
            (readLines (others.length + bound) found.2).map (found.1 :: ·) := by
        rw [List.append_assoc]
        rfl
      rw [hbound, hfirst, hreads, Option.bind_some, hread, Option.map_map]
      rfl

theorem finish_printed (runtime : String) : Printed (Statement.finish.text runtime)
    [.word "b", .mark '.', .word "finish", .mark '(', .mark ')'] := by
  change Printed "b.finish()" _
  rfl

/-- The body of a function that rebuilds a program is read as the statements it was printed from. -/
theorem body_read {runtime : String} (hruntime : IsWord runtime) (depth : Nat)
    {statements : List Statement} (hlast : .finish ∉ statements) :
    ∃ tokens,
      tokens? (indented depth ((statements ++ [Statement.finish]).map (Statement.text runtime))) =
        some tokens ∧
      readLines tokens.length tokens =
        some ((statements ++ [Statement.finish]).map Statement.line) := by
  obtain ⟨tokens, hprinted, hlength, hread⟩ := statements_read hruntime depth hlast
  have hfinish := printed_line (finish_printed runtime) depth
  refine ⟨tokens ++ [Reading.Token.word "b", .mark '.', .word "finish", .mark '(',
    .mark ')'], ?_, ?_⟩
  · have hall : Printed
        (indented depth ((statements ++ [Statement.finish]).map (Statement.text runtime)))
        (tokens ++ [Reading.Token.word "b", .mark '.', .word "finish", .mark '(',
          .mark ')']) := by
      rw [indented, List.map_append, List.map_append, String.join_append]
      refine hprinted.append ?_
      simpa [String.join_cons] using hfinish
    rw [tokens?, hall]
  · obtain ⟨spare, hspare⟩ := Nat.exists_eq_add_of_le hlength
    have hbound : (tokens ++ [Reading.Token.word "b", .mark '.', .word "finish", .mark '(',
        .mark ')']).length = statements.length + (spare + 4 + 1) := by
      simp only [List.length_append, List.length_cons, List.length_nil]
      omega
    rw [hbound, hread, List.map_append]
    rfl

theorem Statement.finish_last (program : Program) :
    ∃ statements, Statement.ofProgram program = statements ++ [Statement.finish] ∧
      .finish ∉ statements := by
  refine ⟨_, rfl, ?_⟩
  simp

theorem rebuild_ofProgram {runtime : String} (hruntime : IsWord runtime) (depth : Nat)
    {program : Program} (hsound : (Builder.ofProgram program).Sound) :
    rebuild (indented depth ((Statement.ofProgram program).map (Statement.text runtime))) =
      some (.ok program) := by
  obtain ⟨lines, hlines, hrun⟩ := run_ofProgram hsound
  obtain ⟨statements, hstatements, hlast⟩ := Statement.finish_last program
  obtain ⟨tokens, htokens, hread⟩ := body_read hruntime depth hlast
  rw [← hstatements] at htokens hread
  rw [rebuild, htokens, Option.bind_some, hread, hlines]
  exact hrun

/-! ## The place of the function -/

/-- The lines of a function at some depth; those of its body are one level deeper. -/
def functionLines (depth : Nat) (head : String) (content : List String) : List String :=
  (margin depth ++ head ++ r" {") :: content.map (margin (depth + 1) ++ ·) ++
    [margin depth ++ r"}"]

theorem margin_succ (depth : Nat) : margin (depth + 1) = "    " ++ margin depth := by
  have hblanks : (List.replicate 4 ' ') = "    ".toList := rfl
  have hsum : 4 * (depth + 1) = 4 + 4 * depth := by omega
  rw [margin, margin, hsum, List.replicate_add, String.ofList_append, hblanks, String.ofList_toList]

theorem indent_eq_map {lines : List String} (h : ∀ line ∈ lines, line ≠ "") :
    indent lines = lines.map ("    " ++ ·) := by
  refine List.map_congr_left fun line hline ↦ if_neg ?_
  simpa [String.isEmpty_iff] using h line hline

/-- A function moves one level further in as a whole. -/
theorem indent_functionLines (depth : Nat) (head : String) {content : List String}
    (hcontent : ∀ line ∈ content, line ≠ "") :
    indent (functionLines depth head content) = functionLines (depth + 1) head content := by
  rw [indent_eq_map]
  · simp only [functionLines, List.map_cons, List.map_append, List.map_map, List.map_nil,
      margin_succ, String.append_assoc, Function.comp_def, List.cons_append]
  · intro line hline
    rw [functionLines, List.mem_append, List.mem_cons, List.mem_map, List.mem_singleton] at hline
    rcases hline with (rfl | ⟨line, hline, rfl⟩) | rfl
    · simp
    · simp [hcontent line hline]
    · simp

theorem block_eq_functionLines (head : String) {content : List String}
    (hcontent : ∀ line ∈ content, line ≠ "") :
    block head content = functionLines 0 head content := by
  have hnone : margin 0 = "" := rfl
  rw [block, functionLines, indent_eq_map hcontent, margin_succ, hnone]
  simp only [String.empty_append, String.append_empty]

/-- Modules around lines indent a function in them. -/
theorem nest_functionLines {lines before after content : List String} {depth : Nat} {head : String}
    (hlines : lines = before ++ functionLines depth head content ++ after)
    (hcontent : ∀ line ∈ content, line ≠ "") (outer : List String) :
    ∃ before' after' depth',
      nest lines outer = before' ++ functionLines depth' head content ++ after' := by
  induction outer with
  | nil => exact ⟨before, after, depth, hlines⟩
  | cons segment inner ih =>
    obtain ⟨before', after', depth', hinner⟩ := ih
    refine ⟨["", "pub mod " ++ moduleName segment ++ r" {"] ++ indent before',
      indent after' ++ [r"}"], depth' + 1, ?_⟩
    rw [nest, hinner, block, ← indent_functionLines depth' head hcontent]
    simp only [indent, List.map_append, List.append_assoc, List.cons_append, List.nil_append]

theorem Statement.text_ne_empty {runtime : String} (hruntime : IsWord runtime)
    (statement : Statement) : statement.text runtime ≠ "" := by
  intro hempty
  by_cases hlast : statement = .finish
  · subst hlast
    change "b.finish()" = "" at hempty
    exact absurd hempty (by decide)
  · obtain ⟨first, others, hprinted, _⟩ := statement.reads hruntime hlast
    rw [hempty] at hprinted
    cases hprinted

/-- The head of the function that rebuilds a program. -/
def programHead (settings : Settings) (program : Program) : String :=
  "pub fn " ++ programFunctionName ((Text.nameSegments program.name).getLastD "") ++
    "() -> Result<" ++ settings.runtimePath ++ "::ir::Program, " ++ settings.runtimePath ++
      "::ir::BuildError>"

/-- The generated source holds the function, with a statement in each line of its body. -/
theorem programLines_function (settings : Settings) (hpath : IsWord settings.runtimePath)
    (program : Program) :
    ∃ before after depth, programLines settings program =
      before ++ functionLines depth (programHead settings program)
        ((Statement.ofProgram program).map (Statement.text settings.runtimePath)) ++ after := by
  have hcontent : ∀ line ∈ (Statement.ofProgram program).map
      (Statement.text settings.runtimePath), line ≠ "" := by
    intro line hline
    obtain ⟨statement, _, rfl⟩ := List.mem_map.mp hline
    exact statement.text_ne_empty hpath
  obtain ⟨comment, hfunction⟩ : ∃ comment, programFunction settings program
      ((Text.nameSegments program.name).getLastD "") = comment ::
        functionLines 0 (programHead settings program)
          ((Statement.ofProgram program).map (Statement.text settings.runtimePath)) :=
    ⟨_, congrArg (_ :: ·) (block_eq_functionLines (programHead settings program) hcontent)⟩
  rw [programLines]
  simp only [hfunction, List.cons_append]
  generalize (Statement.ofProgram program).map (Statement.text settings.runtimePath) = content
    at hcontent ⊢
  generalize program.comments ++ _ = header
  generalize parserType settings program _ = others
  generalize (if settings.nestedAlias then _ else _) = aliased
  split
  · exact ⟨header ++ ["", comment], others ++ aliased, 0, by simp⟩
  · have hbody : comment :: (functionLines 0 (programHead settings program) content ++ others ++
        aliased) = [comment] ++ functionLines 0 (programHead settings program) content ++
          (others ++ aliased) := by simp
    rw [hbody]
    obtain ⟨before, after, depth, hnest⟩ := nest_functionLines rfl hcontent
      (Text.nameSegments program.name).dropLast
    exact ⟨header ++ before, after, depth, by rw [hnest]; simp⟩

theorem source_eq (settings : Settings) (program : Program) :
    source settings program = indented 0 (programLines settings program) := by
  have hnone : margin 0 = "" := rfl
  rw [source, indented, hnone]
  simp only [String.empty_append]

theorem indented_functionLines (depth : Nat) (head : String) (content : List String) :
    indented 0 (functionLines depth head content) = margin depth ++ head ++ r" {" ++ "\n" ++
      indented (depth + 1) content ++ margin depth ++ r"}" ++ "\n" := by
  have hnone : margin 0 = "" := rfl
  rw [functionLines, indented, indented, hnone]
  simp only [List.map_append, List.map_cons, List.map_map, List.map_nil, String.join_append,
    String.join_cons, String.join_nil, String.empty_append, String.append_empty,
    String.append_assoc, Function.comp_def, List.cons_append]

theorem indented_append (depth : Nat) (lines more : List String) :
    indented depth (lines ++ more) = indented depth lines ++ indented depth more := by
  rw [indented, List.map_append, String.join_append]
  rfl

/-- From every program that a builder finished with, and so from the program of every grammar, the
generated source holds a function whose body, carried out, gives that program back: name, comments,
operations, rules and symbols, each under its old number. -/
theorem source_rebuilds_program (settings : Settings) (hpath : IsWord settings.runtimePath) :
    (∀ program : Program, program.IsBuilt → ∃ before after depth content,
      programLines settings program =
        before ++ functionLines depth (programHead settings program) content ++ after ∧
      source settings program = indented 0 before ++
        (margin depth ++ programHead settings program ++ r" {" ++ "\n" ++
          indented (depth + 1) content ++ margin depth ++ r"}" ++ "\n") ++ indented 0 after ∧
      rebuild (indented (depth + 1) content) = some (.ok program)) ∧
    ∀ (grammar : Grammar) (program : Program), grammar.toProgram = .ok program →
      program.IsBuilt := by
  refine ⟨fun program hbuilt ↦ ?_, fun grammar program h ↦ Grammar.toProgram_isBuilt h⟩
  obtain ⟨before, after, depth, hlines⟩ := programLines_function settings hpath program
  refine ⟨before, after, depth, _, hlines, ?_, rebuild_ofProgram hpath (depth + 1) hbuilt.sound⟩
  rw [source_eq, hlines, indented_append, indented_append, indented_functionLines]

/-- Two rules, one under a label, with a class whose range is reversed. -/
def pairGrammar : Grammar :=
  ⟨"data::Pair", [⟨"Pair", .sequence [.label "first" (.ruleRef "Item"), .terminal "\"\n",
    .ruleRef "Item"]⟩, ⟨"Item", .choice [.charClass (.ofRangesAs "[z-a]" [⟨'z', 'a'⟩] true),
      .predicate "first" false]⟩], []⟩

theorem source_rebuilds_program_pair : IsWord "thicket" ∧ ∃ program,
    pairGrammar.toProgram = .ok program ∧ ∃ before after depth content,
      programLines ⟨"thicket", true⟩ program =
        before ++ functionLines depth (programHead ⟨"thicket", true⟩ program) content ++ after ∧
      rebuild (indented (depth + 1) content) = some (.ok program) := by
  have hpath : IsWord "thicket" := by decide
  have hlowered : pairGrammar.toProgram.isOk = true := by decide +kernel
  obtain ⟨program, hprogram⟩ : ∃ program, pairGrammar.toProgram = .ok program := by
    cases hresult : pairGrammar.toProgram with
    | error error =>
      rw [hresult] at hlowered
      cases hlowered
    | ok program => exact ⟨program, rfl⟩
  obtain ⟨hsource, hgrammar⟩ := source_rebuilds_program ⟨"thicket", true⟩ hpath
  obtain ⟨before, after, depth, content, hlines, _, hrebuild⟩ :=
    hsource program (hgrammar pairGrammar program hprogram)
  exact ⟨hpath, program, hprogram, before, after, depth, content, hlines, hrebuild⟩

end PegKit.Emission
