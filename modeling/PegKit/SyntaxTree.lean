import PegKit.Program
import PegKit.Text.Offset
import PegKit.Text.Span

/-!
# Syntax trees

What a successful parse leaves. Nodes lie in one array and refer to each other by their places in
it; a node owns its elements, which come before it, and each element knows its owner. Unfolding a
node gives the tree below it without places.
-/

namespace PegKit

open Text (Span)

/-- A place in the array of nodes. -/
structure NodeId where
  index : Nat
  deriving DecidableEq, Repr, Inhabited

/-- What produced a node. -/
inductive NodeKind
  /-- A literal, a class or any character. -/
  | terminal
  | sequence
  | repetition
  /-- An absent optional, a lookahead or a predicate; it covers no text. -/
  | empty
  deriving DecidableEq, Repr, Inhabited

namespace NodeKind

def name : NodeKind → String
  | .terminal => "Terminal"
  | .sequence => "Sequence"
  | .repetition => "Repetition"
  | .empty => "Empty"

/-- The name in outlines. -/
def shortName : NodeKind → String
  | .terminal => "terminal"
  | .sequence => "seq"
  | .repetition => "rep"
  | .empty => "empty"

def jsonName : NodeKind → String
  | .terminal => "terminal"
  | .sequence => "sequence"
  | .repetition => "repetition"
  | .empty => "empty"

end NodeKind

structure Node where
  kind : NodeKind
  span : Span
  elements : List NodeId
  parent : Option NodeId
  /-- The rule the node was produced for, the outermost one where rules delegate. -/
  rule : Option RuleId
  label : Option Symbol
  deriving DecidableEq, Repr, Inhabited

/-- A node without elements, owner, rule and label. -/
def Node.bare (kind : NodeKind) (span : Span) : Node :=
  ⟨kind, span, [], none, none, none⟩

abbrev Arena := Array Node

/-- A tree without places. -/
inductive ParseTree
  | node (kind : NodeKind) (span : Span) (rule : Option RuleId) (label : Option Symbol)
      (elements : List ParseTree)
  deriving Repr, Inhabited

namespace Arena

/-- The tree below `id`, at most `depth` levels of it. -/
def unfoldTo (arena : Arena) : Nat → NodeId → ParseTree
  | 0, _ => .node .empty (.emptyAt 0) none none []
  | depth + 1, id =>
    match arena[id.index]? with
    | none => .node .empty (.emptyAt 0) none none []
    | some node =>
      .node node.kind node.span node.rule node.label (node.elements.map (arena.unfoldTo depth))

/-- The tree below `id`. Elements come before their owner, so no branch is longer than `id`'s place
allows. -/
def unfold (arena : Arena) (id : NodeId) : ParseTree :=
  arena.unfoldTo (id.index + 1) id

/-- `id` and the nodes below it, each before its elements, at most `depth` levels of them. -/
def preorderTo (arena : Arena) : Nat → NodeId → List NodeId
  | 0, _ => []
  | depth + 1, id =>
    id :: ((arena[id.index]?.map (·.elements)).getD []).flatMap (arena.preorderTo depth)

def preorder (arena : Arena) (id : NodeId) : List NodeId :=
  arena.preorderTo (id.index + 1) id

end Arena

structure SyntaxTree where
  /-- The whole input, including what lies outside the root. -/
  input : List Char
  program : Program
  nodes : Arena
  root : NodeId

/-- A node, with what is needed to say what it stands for. -/
structure NodeView where
  input : List Char
  program : Program
  nodes : Arena
  id : NodeId

namespace NodeView

def node (view : NodeView) : Node :=
  view.nodes[view.id.index]?.getD default

def span (view : NodeView) : Span := view.node.span

def text (view : NodeView) : String :=
  String.ofList (Text.slice view.input view.span.start view.span.stop)

def kind (view : NodeView) : NodeKind := view.node.kind

def isTerminal (view : NodeView) : Bool := view.kind == .terminal

def isEmpty (view : NodeView) : Bool := view.span.isEmpty

def elements (view : NodeView) : List NodeView :=
  view.node.elements.map fun id ↦ { view with id }

def elementCount (view : NodeView) : Nat := view.node.elements.length

def parent? (view : NodeView) : Option NodeView :=
  view.node.parent.map fun id ↦ { view with id }

def ruleName? (view : NodeView) : Option String :=
  view.node.rule.map view.program.ruleName

def label? (view : NodeView) : Option String :=
  view.node.label.map view.program.symbolText

/-- The first element with the label `name`. -/
def childLabelled? (view : NodeView) (name : String) : Option NodeView :=
  view.elements.find? fun child ↦ child.label? == some name

end NodeView

namespace SyntaxTree

def view (tree : SyntaxTree) (id : NodeId) : NodeView :=
  ⟨tree.input, tree.program, tree.nodes, id⟩

def rootView (tree : SyntaxTree) : NodeView := tree.view tree.root

def text (tree : SyntaxTree) : String := tree.rootView.text

/-- The number of nodes. -/
def size (tree : SyntaxTree) : Nat := tree.nodes.size

/-- All nodes below the root and the root itself, each before its elements. -/
def views (tree : SyntaxTree) : List NodeView :=
  (tree.nodes.preorder tree.root).map tree.view

/-- The tree below the root without places. -/
def unfold (tree : SyntaxTree) : ParseTree := tree.nodes.unfold tree.root

end SyntaxTree

end PegKit
