import PegKit.CommandLine.Run
import PegKit.Files.FileTree
import PegKit.Proofs.Compilation.Accepted

/-!
# Commands on checked grammars

A grammar that passes the check has a program, and every command that needs the program gets it:
what is left to fail is reading the input, finding the root and writing the result.
-/

namespace PegKit

namespace Loading

/-- An accepted text loads, whatever it is loaded for. -/
theorem loads_of_compile {source : String} {grammar : Grammar}
    (h : Compilation.compile source = .ok grammar) :
    ∃ program, grammar.toProgram = .ok program ∧ programOf source = .ok program ∧
      (∀ settings, Emission.ofGrammar settings grammar = .ok (Emission.source settings program) ∧
        emit settings source = .ok (Emission.source settings program)) ∧
      parserOf source = .ok (Parser.ofProgram program) ∧
      ∀ registry, loadText registry source = .ok (program, registry.register program) := by
  obtain ⟨program, hprogram⟩ := Compilation.toProgram_ok h
  have hloaded : programOf source = .ok program := by
    rw [programOf, h]
    change (grammar.toProgram.mapError _).mapError _ = _
    rw [hprogram]
    rfl
  have hemitted (settings : Emission.Settings) :
      Emission.ofGrammar settings grammar = .ok (Emission.source settings program) := by
    rw [Emission.ofGrammar, hprogram]
    rfl
  refine ⟨program, hprogram, hloaded, fun settings ↦ ⟨hemitted settings, ?_⟩, ?_, fun registry ↦ ?_⟩
  · rw [emit, h]
    change ((Emission.ofGrammar settings grammar).mapError _).mapError _ = _
    rw [hemitted]
    rfl
  · rw [parserOf, hloaded]
    rfl
  · rw [loadText, hloaded]
    rfl

end Loading

theorem Compilation.compile_ne_build {source : String} {error : BuildError} :
    compile source ≠ .error (.build error) := by
  intro h
  rw [compile, compileWithin, parse] at h
  cases hparse : Cst.parse source {} with
  | error fault =>
    rw [hparse] at h
    cases h
  | ok parsed =>
    rw [hparse] at h
    change (analyze parsed >>= Analyzed.accept) = _ at h
    rw [analyze] at h
    split at h
    · cases h
    · change Analyzed.accept _ = _ at h
      rw [Analyzed.accept] at h
      split at h <;> cases h

namespace CommandLine

/-! ## Running on files and an input -/

/-- What a task comes to where the files and the input are those of `site`. -/
def perform {α : Type} (task : Task (StateM Site) α) (site : Site) : Except Outcome α × Site :=
  task.run.run site

/-- What a command leaves where the files and the input are those of `site`. -/
def execute (command : Command) (site : Site) : Outcome × Site :=
  (CommandLine.run command : StateM Site Outcome).run site

section

variable {α β : Type} {site after : Site}

@[simp]
theorem perform_pure (value : α) (site : Site) :
    perform (pure value) site = (.ok value, site) := rfl

theorem perform_orEnd {ε : Type} (outcome : ε → Outcome) (result : Except ε α) (site : Site) :
    perform (orEnd outcome result) site = (result.mapError outcome, site) := rfl

theorem perform_bind (task : Task (StateM Site) α) (next : α → Task (StateM Site) β)
    (site : Site) :
    perform (task >>= next) site =
      match perform task site with
      | (.ok value, after) => perform (next value) after
      | (.error outcome, after) => (.error outcome, after) := by
  change (do let result ← task.run; ExceptT.bindCont next result : StateM Site _).run site = _
  rw [StateT.run_bind, perform]
  generalize task.run.run site = ran
  obtain ⟨result, after⟩ := ran
  cases result <;> rfl

theorem perform_bind_ok {task : Task (StateM Site) α} {value : α}
    (h : perform task site = (.ok value, after)) (next : α → Task (StateM Site) β) :
    perform (task >>= next) site = perform (next value) after := by
  rw [perform_bind, h]

theorem execute_eq (command : Command) (site : Site) :
    execute command site =
      match perform (task command) site with
      | (.ok outcome, after) => (outcome, after)
      | (.error outcome, after) => (outcome, after) := by
  cases hrun : perform (task command) site with
  | mk result after =>
    unfold perform at hrun
    rw [execute, CommandLine.run, StateT.run_bind, hrun]
    cases result <;> rfl

theorem perform_writeFile (path text : String) (site : Site) :
    perform (Host.writeFile path text) site =
      match site.files.write path text with
      | .ok files => (.ok (.ok ()), { site with files })
      | .error error => (.ok (.error error), site) := by
  have hrun : (Host.writeFile path text : StateM Site (Except FileError Unit)).run site =
      match site.files.write path text with
      | .ok files => (.ok (), { site with files })
      | .error error => (.error error, site) := rfl
  unfold perform
  change (do let result ← (Host.writeFile path text : StateM Site (Except FileError Unit))
             pure (Except.ok result) : StateM Site (Except Outcome _)).run site = _
  rw [StateT.run_bind, hrun]
  cases site.files.write path text <;> rfl

/-- A task that ends a command early ends it with a status other than 0. -/
def Refuses (task : Task (StateM Site) α) : Prop :=
  ∀ site outcome after, perform task site = (.error outcome, after) → outcome.status ≠ 0

theorem refuses_pure (value : α) : Refuses (pure value) := by
  intro site outcome after h
  cases h

theorem refuses_lift (action : StateM Site α) : Refuses (ExceptT.lift action) := by
  intro site outcome after h
  cases h

theorem refuses_orEnd {ε : Type} {outcome : ε → Outcome} (result : Except ε α)
    (h : ∀ error, (outcome error).status ≠ 0) : Refuses (orEnd outcome result) := by
  intro site outcome' after hrun
  rw [perform_orEnd] at hrun
  cases result with
  | ok value => cases hrun
  | error error =>
    cases hrun
    exact h error

theorem Refuses.bind {task : Task (StateM Site) α} {next : α → Task (StateM Site) β}
    (h : Refuses task) (hnext : ∀ value, Refuses (next value)) : Refuses (task >>= next) := by
  intro site outcome after hrun
  rw [perform_bind] at hrun
  cases hfirst : perform task site with
  | mk result between =>
    rw [hfirst] at hrun
    cases result with
    | ok value => exact hnext value between outcome after hrun
    | error refusal =>
      cases hrun
      exact h site _ _ hfirst

end

theorem firstFile?_refuses (paths : List String) :
    Refuses (Loading.firstFile? paths : Task (StateM Site) (Option String)) := by
  induction paths with
  | nil => exact refuses_pure none
  | cons path rest ih =>
    unfold Loading.firstFile?
    apply Refuses.bind (refuses_lift _)
    intro found
    cases found with
    | true => exact refuses_pure (some path)
    | false => exact ih

theorem resolve_refuses (path : String) :
    Refuses (Loading.resolve path : Task (StateM Site) (Except LoadError String)) := by
  unfold Loading.resolve
  apply Refuses.bind (firstFile?_refuses _)
  intro found
  cases found with
  | some path => exact refuses_pure _
  | none => exact refuses_pure _

theorem readSource_refuses (path : String) :
    Refuses (Loading.readSource path : Task (StateM Site) (Except LoadError String)) := by
  unfold Loading.readSource
  apply Refuses.bind (refuses_lift _)
  intro text
  exact refuses_pure _

theorem readStdin_refuses : Refuses (readStdin : Task (StateM Site) String) := by
  unfold readStdin
  apply Refuses.bind (refuses_lift _)
  intro text
  exact refuses_orEnd text fun _ ↦ Nat.one_ne_zero

theorem loadGrammar_refuses (choice : GrammarChoice) :
    Refuses (loadGrammar choice : Task (StateM Site) LoadedGrammar) := by
  obtain ⟨path, text⟩ := choice
  unfold loadGrammar
  cases text with
  | some source => exact refuses_pure _
  | none =>
    cases path with
    | none =>
      intro site outcome after h
      cases h
      exact Nat.one_ne_zero
    | some path =>
      have hloaded : ∀ {α : Type} (result : Except LoadError α),
          Refuses (orEnd loadFailure result : Task (StateM Site) α) :=
        fun result ↦ refuses_orEnd result fun _ ↦ Nat.one_ne_zero
      by_cases hstdin : path = "-"
      · simp only [hstdin, if_true]
        apply Refuses.bind readStdin_refuses
        intro source
        exact refuses_pure _
      · simp only [hstdin, if_false]
        apply Refuses.bind (resolve_refuses path)
        intro found
        apply Refuses.bind (hloaded found)
        intro found
        apply Refuses.bind (readSource_refuses found)
        intro source
        apply Refuses.bind (hloaded source)
        intro source
        exact refuses_pure _

/-! ## Commands that need the program -/

/-- The parser over `program` that a run asks for. -/
def rooted (run : RunChoice) (program : Program) : Except RuntimeError Parser :=
  let fresh := { Parser.ofProgram program with limits := { execFuel := some run.fuel } }
  match run.root with
  | none => .ok fresh
  | some root => fresh.setRoot root

/-- What commands do at `site` with the grammar of `choice`, which is `loaded` by `after` and has the
program `program`. -/
structure Serves (choice : GrammarChoice) (loaded : LoadedGrammar) (program : Program)
    (site after : Site) : Prop where
  dump : ∀ color, execute (.dump choice false color) site =
    (.success (program.dump (.ofBool color)), after)
  compile : ∀ output settings color, execute (.compile choice output true settings color) site =
    (.success (Emission.source settings program), after)
  /-- The text goes to the output that is named, or beside the file that the grammar is from. Writing
  may fail, and then for reasons of the file. -/
  compileTo : ∀ output target settings color,
    output.or (loaded.path.map Loading.outputPath) = some target →
      execute (.compile choice output false settings color) site =
        match after.files.write target (Emission.source settings program) with
        | .ok files => (⟨0, "", s!"wrote {target}\n"⟩, { after with files })
        | .error error =>
          (.failure s!"failed to write '{target}': {FileError.message error}", after)
  /-- A grammar that is from no file has no place of its own for the text. -/
  compileNowhere : ∀ settings color, loaded.path = none →
    execute (.compile choice none false settings color) site =
      (.failure "--output is required for grammars read from stdin", after)
  /-- Before a parse or a trace begins, only the root and the input may be missing. -/
  prepare : ∀ run, run.grammar = choice → perform (prepare run) site =
    perform (do
      let parser ← orEnd (fun error ↦ .failure (RuntimeError.message error)) (rooted run program)
      return (parser, ← loadInput run)) after

section

variable {choice : GrammarChoice} {loaded : LoadedGrammar} {grammar : Grammar} {program : Program}
  {site after : Site}

theorem perform_grammarOf (hcompile : Compilation.compile loaded.source = .ok grammar)
    (color : Bool) (site : Site) : perform (grammarOf loaded color) site = (.ok grammar, site) := by
  rw [grammarOf, hcompile]
  rfl

theorem perform_programOf (hcompile : Compilation.compile loaded.source = .ok grammar)
    (hprogram : grammar.toProgram = .ok program) (color : Bool) (site : Site) :
    perform (programOf loaded color) site = (.ok program, site) := by
  rw [programOf, perform_bind_ok (perform_grammarOf hcompile color site), hprogram]
  rfl

theorem compileFailure_status (loaded : LoadedGrammar) (color : Bool) (error : CompileError) :
    (compileFailure loaded color error).status = 1 := by
  unfold compileFailure
  split <;> rfl

/-- A check that ends with status 0 has loaded and accepted its grammar. -/
theorem check_accepts {strict color : Bool}
    (h : (execute (.check choice strict color) site).1.status = 0) :
    ∃ loaded after grammar, perform (loadGrammar choice) site = (.ok loaded, after) ∧
      Compilation.compile loaded.source = .ok grammar := by
  rw [execute_eq, task, check, perform_bind] at h
  cases hload : perform (loadGrammar choice) site with
  | mk result after =>
    rw [hload] at h
    cases result with
    | error outcome => exact absurd h (loadGrammar_refuses choice site outcome after hload)
    | ok loaded =>
      simp only [perform_bind, perform_orEnd] at h
      cases hanalyzed : Compilation.parse loaded.source {} >>= Compilation.analyze with
      | error error =>
        rw [hanalyzed] at h
        exact absurd h (compileFailure_status loaded color error ▸ Nat.one_ne_zero)
      | ok analyzed =>
        rw [hanalyzed] at h
        have hvalid : analyzed.isValid = true := by
          by_contra hinvalid
          rw [Bool.not_eq_true] at hinvalid
          simp [hinvalid, Except.mapError] at h
        have haccepted : Compilation.compile loaded.source = .ok analyzed.grammar := by
          change (Compilation.parse loaded.source {} >>= Compilation.analyze) >>=
            Compilation.Analyzed.accept = _
          rw [hanalyzed]
          exact if_pos hvalid
        exact ⟨loaded, after, analyzed.grammar, rfl, haccepted⟩

theorem serves_of_compile (hload : perform (loadGrammar choice) site = (.ok loaded, after))
    (hcompile : Compilation.compile loaded.source = .ok grammar)
    (hprogram : grammar.toProgram = .ok program) : Serves choice loaded program site after := by
  have hemitted (settings : Emission.Settings) :
      Emission.ofGrammar settings grammar = .ok (Emission.source settings program) := by
    rw [Emission.ofGrammar, hprogram]
    rfl
  constructor
  case dump =>
    intro color
    rw [execute_eq, task, CommandLine.dump, perform_bind_ok hload]
    simp only [Bool.false_eq_true, if_false]
    rw [perform_bind_ok (perform_programOf hcompile hprogram color after)]
    rfl
  case compile =>
    intro output settings color
    rw [execute_eq, task, CommandLine.compile, perform_bind_ok hload,
      perform_bind_ok (perform_grammarOf hcompile color after), hemitted]
    rfl
  case compileTo =>
    intro output target settings color htarget
    rw [execute_eq, task, CommandLine.compile, perform_bind_ok hload,
      perform_bind_ok (perform_grammarOf hcompile color after), hemitted, htarget]
    simp only [Bool.false_eq_true, if_false]
    simp only [perform_bind, perform_orEnd, Except.mapError, perform_writeFile]
    cases after.files.write target (Emission.source settings program) <;> rfl
  case compileNowhere =>
    intro settings color hpath
    rw [execute_eq, task, CommandLine.compile, perform_bind_ok hload,
      perform_bind_ok (perform_grammarOf hcompile color after), hemitted, hpath]
    rfl
  case prepare =>
    rintro run rfl
    rw [CommandLine.prepare, perform_bind_ok hload,
      perform_bind_ok (perform_programOf hcompile hprogram run.color after), rooted]
    cases run.root <;> rfl

end

/-- Every accepted grammar has a program: no source leads to an error of building, an accepted one
loads and is emitted under all settings, and a grammar that passes the check serves every command
that needs its program. -/
theorem accepted_grammars_compile :
    (∀ source error, Loading.programOf source ≠ .error (.compile (.build error)) ∧
      (∀ registry, Loading.loadText registry source ≠ .error (.compile (.build error))) ∧
      ∀ settings, Loading.emit settings source ≠ .error (.compile (.build error))) ∧
    (∀ source grammar, Compilation.compile source = .ok grammar →
      ∃ program, grammar.toProgram = .ok program ∧ Loading.programOf source = .ok program ∧
        (∀ settings, Emission.ofGrammar settings grammar = .ok (Emission.source settings program) ∧
          Loading.emit settings source = .ok (Emission.source settings program)) ∧
        Loading.parserOf source = .ok (Parser.ofProgram program) ∧
        ∀ registry, Loading.loadText registry source = .ok (program, registry.register program)) ∧
    ∀ choice strict color site, (execute (.check choice strict color) site).1.status = 0 →
      ∃ loaded after program, perform (loadGrammar choice) site = (.ok loaded, after) ∧
        Loading.programOf loaded.source = .ok program ∧
          Serves choice loaded program site after := by
  refine ⟨fun source error ↦ ?_, fun source grammar ↦ Loading.loads_of_compile, ?_⟩
  · cases hcompile : Compilation.compile source with
    | error cause =>
      have hcause : cause ≠ .build error := by
        rintro rfl
        exact Compilation.compile_ne_build hcompile
      simp [Loading.loadText, Loading.programOf, Loading.emit, hcompile, hcause, Except.mapError,
        Except.map, bind, Except.bind]
    | ok grammar =>
      obtain ⟨program, _, hloaded, hemitted, _, hregistered⟩ := Loading.loads_of_compile hcompile
      simp [hloaded, hemitted, hregistered]
  · intro choice strict color site hstatus
    obtain ⟨loaded, after, grammar, hload, hcompile⟩ := check_accepts hstatus
    obtain ⟨program, hprogram, hloaded, _⟩ := Loading.loads_of_compile hcompile
    exact ⟨loaded, after, program, hload, hloaded, serves_of_compile hload hcompile hprogram⟩

theorem accepted_grammars_compile_pair :
    (∃ grammar program, Compilation.compile "grammar g rule a b 'c' end rule b . end end" =
      .ok grammar ∧ grammar.toProgram = .ok program) ∧
    ∃ loaded after program,
      perform (loadGrammar ⟨none, some "grammar g rule a b 'c' end rule b . end end"⟩)
        ⟨.empty, .empty⟩ = (.ok loaded, after) ∧ Loading.programOf loaded.source = .ok program ∧
      Serves ⟨none, some "grammar g rule a b 'c' end rule b . end end"⟩ loaded program
        ⟨.empty, .empty⟩ after := by
  have haccepted : (Compilation.compile
      "grammar g rule a b 'c' end rule b . end end").toOption.isSome = true := by decide +kernel
  have hstatus : (execute (.check ⟨none, some "grammar g rule a b 'c' end rule b . end end"⟩ true
      false) ⟨.empty, .empty⟩).1.status = 0 := by decide +kernel
  constructor
  · cases hcompile : Compilation.compile "grammar g rule a b 'c' end rule b . end end" with
    | error cause =>
      rw [hcompile] at haccepted
      cases haccepted
    | ok grammar =>
      obtain ⟨program, hprogram, _⟩ := accepted_grammars_compile.2.1 _ grammar hcompile
      exact ⟨grammar, program, rfl, hprogram⟩
  · exact accepted_grammars_compile.2.2 _ true false _ hstatus

end CommandLine

end PegKit
