import PegKit.CommandLine.Arguments
import PegKit.Emission
import PegKit.Machine.Trace

/-!
# Commands

What a command line asks for. Commands that run a parser accept each other's options and pass over
those that mean nothing to them.
-/

namespace PegKit.CommandLine

/-- Where the grammar comes from. A text goes before a path. -/
structure GrammarChoice where
  path : Option String
  text : Option String
  deriving DecidableEq, Repr

/-- What `parse` and `trace` have in common. -/
structure RunChoice where
  grammar : GrammarChoice
  inputPath : Option String
  inputText : Option String
  root : Option String
  /-- Whether a match may leave input over. -/
  acceptRest : Bool
  start : Option Nat
  fuel : Nat
  color : Bool
  deriving DecidableEq, Repr

inductive Command
  | version
  | check (grammar : GrammarChoice) (strict color : Bool)
  | compile (grammar : GrammarChoice) (output : Option String) (toStdout : Bool)
      (settings : Emission.Settings) (color : Bool)
  | dump (grammar : GrammarChoice) (cst color : Bool)
  | parse (run : RunChoice) (json : Bool)
  | trace (run : RunChoice) (verbosity : Verbosity) (showTree : Bool)

/-- A path may not be empty. -/
def pathValue : Option String → Except Refusal (Option String)
  | some "" => .error (.invalidValue "")
  | path => .ok path

/-- Whether to color. Without a terminal, leaving it to the program means no. -/
def colorValue (given : Given) : Except Refusal Bool :=
  match given.value? .color with
  | none => .ok false
  | some "auto" => .ok false
  | some "never" => .ok false
  | some "always" => .ok true
  | some text => .error (.invalidValue text)

def grammarChoice (given : Given) : Except Refusal GrammarChoice := do
  return ⟨← pathValue given.plain[0]?, given.value? .grammar⟩

/-- How many steps a parse is allowed where nothing is said. -/
def usualFuel : Nat := 1000000

/-- The choices of a run. With a grammar text, a single plain argument names the input. -/
def runChoice (given : Given) : Except Refusal RunChoice := do
  let grammar ← grammarChoice given
  let second ← pathValue given.plain[1]?
  let shifted := grammar.text.isSome && grammar.path.isSome && second.isNone
  let start ← (given.value? .index).mapM readIndex
  let fuel ← (given.value? .fuel).mapM readFuel
  return {
    grammar := if shifted then { grammar with path := none } else grammar
    inputPath := if shifted then grammar.path else second
    inputText := given.value? .source
    root := given.value? .root
    acceptRest := given.isSet .acceptRest
    start
    fuel := fuel.getD usualFuel
    color := ← colorValue given }

/-- The verbosity that so many letters ask for. -/
def verbosityOf : Nat → Verbosity
  | 0 => .rules
  | 1 => .terminals
  | _ => .texts

def runKeys : List Key :=
  [.grammar, .source, .root, .acceptRest, .index, .fuel, .color, .json, .compact, .verbose,
    .noResult]

def readCheck (words : List String) : Except Refusal Command := do
  let given ← readWords (Switch.having [.grammar, .strict, .color]) 1 (.empty, none) words
  return .check (← grammarChoice given) (given.isSet .strict) (← colorValue given)

/-- A grammar text has no file to write beside, so its source text is printed unless there is a file
to write. -/
def readCompile (words : List String) : Except Refusal Command := do
  let keys : List Key := [.grammar, .output, .stdout, .runtimePath, .noAlias, .color]
  let given ← readWords (Switch.having keys) 1 (.empty, none) words
  let grammar ← grammarChoice given
  let output ← pathValue (given.value? .output)
  if given.isSet .stdout && output.isSome then throw (.conflict .stdout .output)
  let usual : Emission.Settings := {}
  let settings : Emission.Settings :=
    ⟨(given.value? .runtimePath).getD usual.runtimePath, !given.isSet .noAlias⟩
  let toStdout := given.isSet .stdout || (grammar.text.isSome && output.isNone)
  return .compile grammar output toStdout settings (← colorValue given)

def readDump (words : List String) : Except Refusal Command := do
  let given ← readWords (Switch.having [.grammar, .cst, .color]) 1 (.empty, none) words
  return .dump (← grammarChoice given) (given.isSet .cst) (← colorValue given)

def readParse (words : List String) : Except Refusal Command := do
  let given ← readWords (Switch.having runKeys) 2 (.empty, none) words
  return .parse (← runChoice given) (given.isSet .json)

def readTrace (words : List String) : Except Refusal Command := do
  let given ← readWords (Switch.having runKeys) 2 (.empty, none) words
  return .trace (← runChoice given) (verbosityOf (given.count .verbose)) (!given.isSet .noResult)

def commandNames : List String := ["check", "compile", "dump", "parse", "trace"]

/-- The command that the words of a command line ask for. -/
def Command.ofWords : List String → Except Refusal Command
  | [] => .error .missingCommand
  | word :: rest =>
    match word with
    | "check" => readCheck rest
    | "compile" => readCompile rest
    | "dump" => readDump rest
    | "parse" => readParse rest
    | "trace" => readTrace rest
    | "--version" => .ok .version
    | "--help" => .error .help
    | "help" =>
      match rest with
      | [] => .error .help
      | [name] =>
        if (commandNames ++ ["help"]).contains name then .error .help
        else .error (.unknownCommand name)
      | _ :: name :: _ => .error (.unknownCommand name)
    | other =>
      if "-V".isPrefixOf other then .ok .version
      else if "-h".isPrefixOf other then .error .help
      else .error (.unknownCommand other)

end PegKit.CommandLine
