import PegKit.CommandLine.Command
import PegKit.Loading
import PegKit.Program.Dump
import PegKit.Snippet
import PegKit.SyntaxTree.Render

/-!
# Running commands

What commands print and write. A command ends with status 0 when it succeeds, with 1 when a grammar
or an input is refused or a file is missing, and with 2 when a parse breaks off.
-/

namespace PegKit.CommandLine

/-- What a command leaves. -/
structure Outcome where
  status : Nat
  stdout : String
  stderr : String
  deriving DecidableEq, Repr

namespace Outcome

def success (stdout : String) : Outcome := ⟨0, stdout, ""⟩

/-- The outcome of a command that is refused for the reason `text`. -/
def failure (text : String) : Outcome := ⟨1, "", s!"error: {text}\n"⟩

end Outcome

/-- A computation that may end the command before its time. -/
abbrev Task (m : Type → Type) := ExceptT Outcome m

/-- A grammar text, and the file it is from. -/
structure LoadedGrammar where
  source : String
  path : Option String
  deriving DecidableEq, Repr

section

variable {m : Type → Type} [Monad m] [Host m]

def orEnd {ε α : Type} (outcome : ε → Outcome) (result : Except ε α) : Task m α :=
  ExceptT.mk (pure (result.mapError outcome))

def readStdin : Task m String := do
  let text ← Host.readInput
  orEnd (fun error ↦ .failure s!"failed to read stdin: {FileError.message error}") text

def loadFailure (error : LoadError) : Outcome := .failure error.message

def loadGrammar (choice : GrammarChoice) : Task m LoadedGrammar := do
  match choice.text, choice.path with
  | some source, _ => return ⟨source, none⟩
  | none, none => throw (.failure "grammar is required: pass GRAMMAR or -g <TEXT>")
  | none, some path =>
    if path = "-" then return ⟨← readStdin, none⟩
    let found ← Loading.resolve path
    let found ← orEnd loadFailure found
    let source ← Loading.readSource found
    return ⟨← orEnd loadFailure source, some found⟩

def loadInput (run : RunChoice) : Task m String := do
  match run.inputText, run.inputPath with
  | some text, _ => return text
  | none, none =>
    throw (.failure "input is required: pass INPUT, -s <TEXT>, or \"-\" for stdin")
  | none, some path =>
    if path = "-" then readStdin
    else
      let text ← Host.readFile path
      orEnd (fun error ↦
        .failure s!"failed to read input file '{path}': {FileError.message error}") text

/-- Reports drawn with the lines of the grammar. -/
def drawn (loaded : LoadedGrammar) (color : Bool) (diagnostics : Diagnostics) : String :=
  diagnostics.snippets loaded.source ⟨loaded.path, color⟩

/-- What is printed for a grammar that is not accepted. -/
def compileFailure (loaded : LoadedGrammar) (color : Bool) (error : CompileError) : Outcome :=
  match error.diagnostics? with
  | some diagnostics => ⟨1, "", drawn loaded color diagnostics⟩
  | none => .failure error.message

def grammarOf (loaded : LoadedGrammar) (color : Bool) : Task m Grammar :=
  orEnd (compileFailure loaded color) (Compilation.compile loaded.source)

def programOf (loaded : LoadedGrammar) (color : Bool) : Task m Program := do
  let grammar ← grammarOf loaded color
  orEnd (fun error ↦ .failure error.message) grammar.toProgram

/-- Validates a grammar. Prints its reports and nothing else. -/
def check (choice : GrammarChoice) (strict color : Bool) : Task m Outcome := do
  let loaded ← loadGrammar choice
  let analyzed ← orEnd (compileFailure loaded color)
    (Compilation.parse loaded.source {} >>= Compilation.analyze)
  let diagnostics := analyzed.diagnostics
  let valid := analyzed.isValid && !(strict && diagnostics.hasWarnings)
  return ⟨if valid then 0 else 1, "", drawn loaded color diagnostics⟩

/-- Prints or writes the source text of a parser. -/
def compile (choice : GrammarChoice) (output : Option String) (toStdout : Bool)
    (settings : Emission.Settings) (color : Bool) : Task m Outcome := do
  let loaded ← loadGrammar choice
  let grammar ← grammarOf loaded color
  let emitted ← orEnd (fun error ↦ .failure (BuildError.message error))
    (Emission.ofGrammar settings grammar)
  if toStdout then return .success emitted
  match output.or (loaded.path.map Loading.outputPath) with
  | none => return .failure "--output is required for grammars read from stdin"
  | some target =>
    let written ← Host.writeFile target emitted
    orEnd (fun error ↦
      .failure s!"failed to write '{target}': {FileError.message error}") written
    return ⟨0, "", s!"wrote {target}\n"⟩

/-- Prints the tree of a grammar text, which even a malformed one has, or its program. -/
def dump (choice : GrammarChoice) (cst color : Bool) : Task m Outcome := do
  let loaded ← loadGrammar choice
  if cst then
    let parsed ← orEnd (fun error ↦ .failure (CompileError.message error))
      (Compilation.parse loaded.source {})
    return ⟨0, parsed.root.outline, drawn loaded color parsed.diagnostics⟩
  let program ← programOf loaded color
  return .success (program.dump (Palette.ofBool color))

def prepare (run : RunChoice) : Task m (Parser × String) := do
  let loaded ← loadGrammar run.grammar
  let program ← programOf loaded run.color
  let usual : RunLimits := {}
  let fresh := { Parser.ofProgram program with limits := { usual with execFuel := some run.fuel } }
  let parser ← match run.root with
    | none => pure fresh
    | some root => orEnd (fun error ↦ .failure (RuntimeError.message error)) (fresh.setRoot root)
  return (parser, ← loadInput run)

def RunChoice.options (run : RunChoice) : ParseOptions :=
  ⟨none, if run.acceptRest then some false else none, run.start.getD 0⟩

def runtimeFailure (stdout : String) (error : RuntimeError) : Outcome :=
  ⟨2, stdout, s!"runtime error: {error.message}\n"⟩

/-- Parses an input and prints its tree. -/
def parse (run : RunChoice) (json : Bool) : Task m Outcome := do
  let (parser, input) ← prepare run
  let outcome := parser.parse input run.options
  match outcome.result with
  | .error error => return runtimeFailure "" error
  | .ok (some tree) =>
    return .success (if json then tree.jsonText ++ "\n" else tree.outline (.ofBool run.color))
  | .ok none =>
    let report := outcome.parser.report
    let stdout := if json then report.json.text ++ "\n" else ""
    let reason := report.reason?.getD "no match"
    return ⟨1, stdout, s!"error: {reason}\n"⟩

/-- Parses an input and prints how, and then the tree. -/
def trace (run : RunChoice) (verbosity : Verbosity) (showTree : Bool) : Task m Outcome := do
  let (parser, input) ← prepare run
  let palette := Palette.ofBool run.color
  let style : TraceStyle := ⟨input.toList, parser.program, verbosity, palette⟩
  let outcome := parser.parseWith input run.options (Trace.record style) .empty
  let lines := String.join (outcome.trace.lines.toList.map (· ++ "\n"))
  match outcome.result with
  | .error error => return runtimeFailure lines error
  | .ok (some tree) =>
    let shown := if showTree then palette.paint palette.dim "---" ++ "\n" ++ tree.outline palette
      else ""
    return .success (lines ++ shown)
  | .ok none =>
    let reason := (outcome.parser.report.reason?.map fun text ↦ s!"error: {text}\n").getD ""
    return ⟨1, lines, reason⟩

/-- What `--version` prints. -/
def versionLine : String := "thicket 0.1.0\n"

/-- How to write a command line. -/
def usageText : String :=
  "usage: thicket check [GRAMMAR] [-g TEXT] [--strict]\n" ++
  "       thicket compile [GRAMMAR] [-g TEXT] [-o FILE | --stdout]\n" ++
  "       thicket dump [GRAMMAR] [-g TEXT] [--cst]\n" ++
  "       thicket parse [GRAMMAR] [INPUT] [-g TEXT] [-s TEXT] [--json]\n" ++
  "       thicket trace [GRAMMAR] [INPUT] [-g TEXT] [-s TEXT] [-v] [--no-result]\n"

def task : Command → Task m Outcome
  | .version => return .success versionLine
  | .check grammar strict color => check grammar strict color
  | .compile grammar output toStdout settings color =>
    compile grammar output toStdout settings color
  | .dump grammar cst color => dump grammar cst color
  | .parse run json => parse run json
  | .trace run verbosity showTree => trace run verbosity showTree

def run (command : Command) : m Outcome := do
  match ← (task command).run with
  | .ok outcome => return outcome
  | .error outcome => return outcome

end

end PegKit.CommandLine
