import PegKit.Palette
import PegKit.SyntaxTree
import PegKit.Text.Json
import PegKit.Text.Quoted

/-!
# Showing syntax trees

A tree as an indented outline, one node to a line, and as JSON. Outlines show the text of terminals,
JSON that of every node.
-/

namespace PegKit

open Text (Json Span)

namespace ParseTree

mutual

/-- The lines of an outline, the root `depth` levels in. -/
def outlineLines (input : List Char) (program : Program) (palette : Palette) (depth : Nat) :
    ParseTree → List String
  | .node kind span rule label elements =>
    let indent := String.ofList (List.replicate (2 * depth) ' ')
    let labelText := match label with
      | some symbol => palette.paint palette.blue (program.symbolText symbol) ++ ":"
      | none => ""
    let ruleText := match rule with
      | some id => "(" ++ palette.paint palette.blue (program.ruleName id) ++ ") "
      | none => ""
    let matched :=
      if kind = .terminal then
        " " ++ palette.paint palette.green
          (Text.Quoted.quote (String.ofList (Text.slice input span.start span.stop)))
      else ""
    (indent ++ labelText ++ ruleText ++ kind.shortName ++ " " ++
      palette.paint palette.dim span.text ++ matched) ::
      outlineLinesOfList input program palette (depth + 1) elements

def outlineLinesOfList (input : List Char) (program : Program) (palette : Palette) (depth : Nat) :
    List ParseTree → List String
  | [] => []
  | tree :: rest =>
    tree.outlineLines input program palette depth ++
      outlineLinesOfList input program palette depth rest

end

mutual

/-- The tree as JSON. Rule, label and elements are left out where there are none. -/
def json (input : List Char) (program : Program) : ParseTree → Json
  | .node kind span rule label elements =>
    let ruleField := match rule with
      | some id => [("rule", Json.string (program.ruleName id))]
      | none => []
    let labelField := match label with
      | some symbol => [("label", Json.string (program.symbolText symbol))]
      | none => []
    let elementsField :=
      if elements.isEmpty then []
      else [("elements", Json.array (jsonOfList input program elements))]
    .object <|
      [("kind", .string kind.jsonName)] ++ ruleField ++ labelField ++
        [("span", .array [.number span.start, .number span.stop]),
          ("text", .string (String.ofList (Text.slice input span.start span.stop)))] ++
        elementsField

def jsonOfList (input : List Char) (program : Program) : List ParseTree → List Json
  | [] => []
  | tree :: rest => tree.json input program :: jsonOfList input program rest

end

end ParseTree

namespace SyntaxTree

/-- The outline of a tree, each line ended by a newline. -/
def outline (tree : SyntaxTree) (palette : Palette) : String :=
  String.join ((tree.unfold.outlineLines tree.input tree.program palette 0).map (· ++ "\n"))

def jsonText (tree : SyntaxTree) : String :=
  (tree.unfold.json tree.input tree.program).text

end SyntaxTree

namespace NodeView

def optionText (text : Option String) : String :=
  match text with
  | some s => "Some(" ++ Text.Quoted.quote s ++ ")"
  | none => "None"

/-- A node with all that it says, for inspection. -/
def inspect (view : NodeView) : String :=
  r"Node { id: " ++ toString view.id.index ++ ", kind: " ++ view.kind.name ++ ", interval: " ++
    view.span.text ++ ", rule: " ++ optionText view.ruleName? ++ ", label: " ++
    optionText view.label? ++ ", text: " ++ Text.Quoted.quote view.text ++ r" }"

/-- A node in brief: its place and its owner's, label, rule, kind, span and number of elements. -/
def brief (view : NodeView) : String :=
  let parent := match view.parent? with
    | some owner => toString owner.id.index
    | none => "-"
  let label := match view.label? with
    | some name => name ++ ":"
    | none => ""
  let rule := match view.ruleName? with
    | some name => "(" ++ name ++ ")"
    | none => ""
  s!"#{view.id.index}^{parent} " ++ label ++ rule ++ " " ++ view.kind.name ++ " " ++
    view.span.text ++ s!" n={view.elementCount}"

end NodeView

end PegKit
