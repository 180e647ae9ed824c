import PegKit.Emission.Statement
import PegKit.Program.Lowering
import PegKit.Text.Casing
import PegKit.Text.NestedName

/-!
# Generated parsers

Source text of a parser for a grammar: a function that rebuilds the program, and a parser type with
one method for each rule, inside one module for each outer segment of the grammar's name.
-/

namespace PegKit.Emission

open Text.Casing (identifier pascalName snakeName)

structure Settings where
  /-- The path under which generated code finds the runtime library. -/
  runtimePath : String := "thicket"
  /-- Whether to name the parser type by a nested module too. -/
  nestedAlias : Bool := true
  deriving DecidableEq, Repr

/-- Lines one level further in; blank lines stay blank. -/
def indent (lines : List String) : List String :=
  lines.map fun line ↦ if line.isEmpty then line else "    " ++ line

/-- `head`, an opening brace, the lines of `body` one level further in, and a closing brace. -/
def block (head : String) (body : List String) : List String :=
  (head ++ r" {") :: indent body ++ [r"}"]

def moduleName (segment : String) : String :=
  identifier (snakeName segment)

def programFunctionName (segment : String) : String :=
  snakeName segment ++ "_program"

def parserTypeName (segment : String) : String :=
  pascalName segment ++ "Parser"

def methodName (rule : String) : String :=
  "parse_" ++ snakeName rule

/-- The function that rebuilds `program`. -/
def programFunction (settings : Settings) (program : Program) (segment : String) : List String :=
  let runtime := settings.runtimePath
  ("/// Builds the compiled program for grammar `" ++ program.name ++ "`.") ::
    block
      ("pub fn " ++ programFunctionName segment ++ "() -> Result<" ++ runtime ++
        "::ir::Program, " ++ runtime ++ "::ir::BuildError>")
      ((Statement.ofProgram program).map (Statement.text runtime))

/-- The method that parses from `rule`. -/
def ruleMethod (settings : Settings) (rule : String) : List String :=
  let runtime := settings.runtimePath
  block
    ("pub fn " ++ methodName rule ++
      "<'i>(&mut self, input: &'i str) -> Result<Option<" ++ runtime ++
      "::vm::SyntaxTree<'i>>, " ++ runtime ++ "::vm::RuntimeError>")
    ["self.0.parse(input, " ++ runtime ++ "::vm::ParseOptions::new().root(" ++
      Text.Quoted.quote rule ++ "))"]

/-- The method that makes a parser. -/
def constructorMethod (settings : Settings) (segment : String) : List String :=
  let runtime := settings.runtimePath
  block ("pub fn new() -> Result<Self, " ++ runtime ++ "::ir::BuildError>")
    ["Ok(Self(" ++ runtime ++ "::vm::CompiledParser::new(" ++ programFunctionName segment ++
      "()?)))"]

/-- The parser type, its methods, and its use as a plain parser. -/
def parserType (settings : Settings) (program : Program) (segment : String) : List String :=
  let runtime := settings.runtimePath
  let name := parserTypeName segment
  let methods := program.rules.toList.flatMap fun rule ↦ "" :: ruleMethod settings rule.name
  let wrapped := runtime ++ "::vm::CompiledParser"
  ["", "#[derive(Clone)]", "pub struct " ++ name ++ "(" ++ wrapped ++ ");", ""] ++
    block ("impl " ++ name) (constructorMethod settings segment ++ methods) ++
    [""] ++
    block ("impl std::ops::Deref for " ++ name)
      (["type Target = " ++ runtime ++ "::vm::CompiledParser;", ""] ++
        block "fn deref(&self) -> &Self::Target" ["&self.0"]) ++
    [""] ++
    block ("impl std::ops::DerefMut for " ++ name)
      (block "fn deref_mut(&mut self) -> &mut Self::Target" ["&mut self.0"])

/-- The module through which the parser type has the nested name `Parser`. -/
def aliasModule (segment : String) : List String :=
  "" :: block ("pub mod " ++ moduleName segment)
    ["pub type Parser = super::" ++ parserTypeName segment ++ ";"]

/-- `body` inside the modules of the outer segments. -/
def nest (body : List String) : List String → List String
  | [] => body
  | segment :: inner => "" :: block ("pub mod " ++ moduleName segment) (nest body inner)

def programLines (settings : Settings) (program : Program) : List String :=
  let segments := Text.nameSegments program.name
  let segment := segments.getLastD ""
  let outer := segments.dropLast
  let body :=
    programFunction settings program segment ++ parserType settings program segment ++
      if settings.nestedAlias then aliasModule segment else []
  program.comments ++
    ["// @generated by thicket from grammar `" ++ program.name ++ "`. Do not edit."] ++
    (if outer.isEmpty then "" :: body else nest body outer)

/-- The generated source for `program`. -/
def source (settings : Settings) (program : Program) : String :=
  String.join (programLines settings program |>.map (· ++ "\n"))

/-- The generated source for `grammar`. -/
def ofGrammar (settings : Settings) (grammar : Grammar) : Except BuildError String :=
  source settings <$> grammar.toProgram

end PegKit.Emission
