import PegKit.Compilation
import PegKit.Emission
import PegKit.Files.Host
import PegKit.Files.PathName
import PegKit.Namespace
import PegKit.Parser
import PegKit.Program.Lowering

/-!
# Loading grammars

Grammar files by path or by bare name, compiled into programs that a namespace keeps, or into source
text that is written beside them. A load that fails leaves the namespace as it was.
-/

namespace PegKit

/-- Why a grammar could not be loaded, or a parser not be found. -/
inductive LoadError
  | compile (error : CompileError)
  | file (path : String) (error : FileError)
  /-- There is no file at the path nor under any grammar extension. -/
  | grammarNotFound (candidates : List String)
  | unknownParser (name : String)

namespace LoadError

def message : LoadError → String
  | .compile error => error.message
  | .file path error => s!"cannot access `{path}`: {error.message}"
  | .grammarNotFound candidates =>
    "grammar not found (tried " ++
      ", ".intercalate (candidates.map fun path ↦ "`" ++ path ++ "`") ++ ")"
  | .unknownParser name => s!"no parser named `{name}` is loaded"

/-- The reports on the grammar, if the error has any. -/
def diagnostics? : LoadError → Option Diagnostics
  | .compile error => error.diagnostics?
  | .file _ _ => none
  | .grammarNotFound _ => none
  | .unknownParser _ => none

end LoadError

namespace Loading

/-- The extensions of grammar files, in the order in which they are tried. -/
def extensions : List String := ["thicket", "tkt"]

/-- The paths under which a grammar may be found. -/
def candidates (path : String) : List String :=
  path :: extensions.map fun extension ↦
    String.ofList (PathName.appendExtension path.toList extension.toList)

/-- Where the source text compiled from a grammar file goes. A grammar extension is replaced, and
any other one stays. -/
def outputPath (path : String) : String :=
  let replaced := String.ofList (PathName.withExtension path.toList "rs".toList)
  match PathName.extension? path.toList with
  | none => replaced
  | some extension =>
    if extensions.contains (String.ofList extension) then replaced
    else String.ofList (PathName.appendExtension path.toList "rs".toList)

/-- The program of a grammar text. -/
def programOf (source : String) : Except LoadError Program :=
  (Compilation.compile source >>= fun grammar ↦ grammar.toProgram.mapError .build).mapError .compile

/-- The source text of a parser for a grammar text. -/
def emit (settings : Emission.Settings) (source : String) : Except LoadError String :=
  (Compilation.compile source >>= fun grammar ↦
    (Emission.ofGrammar settings grammar).mapError .build).mapError .compile

/-- A parser for a grammar text. -/
def parserOf (source : String) : Except LoadError Parser :=
  (programOf source).map Parser.ofProgram

/-- Compiles a grammar text and registers its program. -/
def loadText (registry : Namespace) (source : String) : Except LoadError (Program × Namespace) :=
  (programOf source).map fun program ↦ (program, registry.register program)

/-- A fresh parser for a registered name. -/
def parserNamed (registry : Namespace) (name : String) : Except LoadError Parser :=
  match registry.find? name with
  | some program => .ok (Parser.ofProgram program)
  | none => .error (.unknownParser name)

section Files

variable {m : Type → Type} [Monad m] [Host m]

/-- The first of several paths that leads to a file. -/
def firstFile? : List String → m (Option String)
  | [] => return none
  | path :: rest => do
    if ← Host.isFile path then return some path else firstFile? rest

/-- The grammar file for a path, whose extension may be left out. -/
def resolve (path : String) : m (Except LoadError String) := do
  match ← firstFile? (candidates path) with
  | some found => return .ok found
  | none => return .error (.grammarNotFound (candidates path))

def readSource (path : String) : m (Except LoadError String) := do
  return (← Host.readFile path).mapError (.file path)

/-- Loads the grammar file for a path. -/
def load (registry : Namespace) (path : String) : m (Except LoadError (Program × Namespace)) :=
  ExceptT.run do
    let found ← ExceptT.mk (resolve path)
    let source ← ExceptT.mk (readSource found)
    ExceptT.mk (pure (loadText registry source))

/-- Compiles a grammar file into source text at `target`, or beside the file. Returns the path
written. -/
def compileFile (settings : Emission.Settings) (path : String) (target : Option String) :
    m (Except LoadError String) :=
  ExceptT.run do
    let source ← ExceptT.mk (readSource path)
    let emitted ← ExceptT.mk (pure (emit settings source))
    let target := target.getD (outputPath path)
    ExceptT.mk (do return (← Host.writeFile target emitted).mapError (.file target))
    return target

end Files

end Loading

end PegKit
