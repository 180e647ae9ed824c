import PegKit.Text.Quoted
import PegKit.Token

/-!
# Concrete syntax trees

The tree of a grammar text, lossless: the tokens in order are the text. Nodes carry only their kind
and children; where a node is follows from its tokens.
-/

namespace PegKit

inductive Cst
  | leaf (token : Token)
  | node (kind : Kind) (children : List Cst)
  deriving Repr, Inhabited

namespace Cst

def kind : Cst → Kind
  | .leaf token => token.kind
  | .node kind _ => kind

/-- The children of a node; a token has none. -/
def children : Cst → List Cst
  | .leaf _ => []
  | .node _ children => children

mutual

/-- The tokens of a tree, from left to right. -/
def tokens : Cst → List Token
  | .leaf token => [token]
  | .node _ children => tokensOfList children

def tokensOfList : List Cst → List Token
  | [] => []
  | tree :: rest => tree.tokens ++ tokensOfList rest

end

theorem tokensOfList_eq_flatMap (trees : List Cst) : tokensOfList trees = trees.flatMap tokens := by
  induction trees with
  | nil => simp [tokensOfList]
  | cons tree rest ih => simp [tokensOfList, ih]

def text (tree : Cst) : String :=
  String.join (tree.tokens.map (·.text))

/-- From the first token's start to the last one's end; a tree without tokens is at the start of the
text. -/
def span (tree : Cst) : Text.Span :=
  match tree.tokens.head?, tree.tokens.getLast? with
  | some first, some last => ⟨first.start, last.stop⟩
  | _, _ => .emptyAt 0

mutual

/-- The nodes of a tree, each before those below it. -/
def nodes : Cst → List Cst
  | .leaf _ => []
  | .node kind children => .node kind children :: nodesOfList children

def nodesOfList : List Cst → List Cst
  | [] => []
  | tree :: rest => tree.nodes ++ nodesOfList rest

end

/-- The first token of `kind` among the children. -/
def childToken? (tree : Cst) (kind : Kind) : Option Token :=
  tree.children.findSome? fun
    | .leaf token => if token.kind = kind then some token else none
    | .node _ _ => none

/-- The first node of `kind` among the children. -/
def childNode? (tree : Cst) (kind : Kind) : Option Cst :=
  tree.children.find? fun
    | .leaf _ => false
    | .node k _ => k == kind

def childNodes (tree : Cst) (kind : Kind) : List Cst :=
  tree.children.filter fun
    | .leaf _ => false
    | .node k _ => k == kind

def childTokens (tree : Cst) (kind : Kind) : List Token :=
  tree.children.filterMap fun
    | .leaf token => if token.kind = kind then some token else none
    | .node _ _ => none

mutual

/-- One line for each node and each token that is no trivia, indented by depth. -/
def outlineLines (depth : Nat) : Cst → List String
  | .leaf token =>
    if token.isTrivia then []
    else [String.ofList (List.replicate (2 * depth) ' ') ++ token.kind.name ++ " " ++
      Text.Quoted.quote token.text]
  | .node kind children =>
    (String.ofList (List.replicate (2 * depth) ' ') ++ kind.name) ::
      outlineLinesOfList (depth + 1) children

def outlineLinesOfList (depth : Nat) : List Cst → List String
  | [] => []
  | tree :: rest => tree.outlineLines depth ++ outlineLinesOfList depth rest

end

/-- The outline of a tree, each line ended by a newline. -/
def outline (tree : Cst) : String :=
  String.join ((tree.outlineLines 0).map (· ++ "\n"))

end Cst

end PegKit
