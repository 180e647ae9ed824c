import PegKit.Cst
import PegKit.Unicode.Blank

/-!
# Views of grammar trees

What the nodes of a grammar tree say: names, bodies, operators, literal texts. A tree keeps
malformed text too, so a part may be absent; whoever read the tree has reported it then.
-/

namespace PegKit

open Text (Span)

/-- Whether nodes of `kind` are expressions. -/
def Kind.isExpression (kind : Kind) : Bool :=
  [Kind.choiceNode, .seqNode, .quantifierNode, .lookaheadNode, .predicateNode, .labelNode, .refNode,
    .strNode, .charClassNode, .anyNode, .groupNode].contains kind

namespace Cst

def isExpression (tree : Cst) : Bool := tree.kind.isExpression

def expressions (tree : Cst) : List Cst := tree.children.filter isExpression

/-- The body of a rule, or the operand of an operator. -/
def expression? (tree : Cst) : Option Cst := tree.children.find? isExpression

/-! ## The whole text -/

/-- The grammar of a whole text. -/
def grammar? (root : Cst) : Option Cst := root.childNode? .grammarNode

/-- What follows the first place where `word` stands in `cs`. -/
def afterFirst? (word : List Char) : List Char → Option (List Char)
  | [] => none
  | c :: cs =>
    if word.isPrefixOf (c :: cs) then some ((c :: cs).drop word.length) else afterFirst? word cs

/-- Whether a comment names an encoding: the word `coding` first stands in it before a colon or an
equals sign. -/
def isEncodingPragma (comment : List Char) : Bool :=
  match afterFirst? "coding".toList comment with
  | some rest => rest.head? == some ':' || rest.head? == some '='
  | none => false

/-- The comments before the grammar that name an encoding. -/
def leadingComments (root : Cst) : List String :=
  (root.children.takeWhile (·.kind != .grammarNode)).filterMap fun
    | .leaf token =>
      if token.kind = .lineComment ∧ isEncodingPragma token.text.toList then some token.text
      else none
    | .node _ _ => none

/-! ## Grammars and rules -/

def grammarName? (grammar : Cst) : Option Cst := grammar.childNode? .grammarNameNode

def rules (grammar : Cst) : List Cst := grammar.childNodes .ruleNode

def nameSegments (name : Cst) : List String :=
  (name.childTokens .identifier).map (·.text)

/-- A grammar's name, without the trivia inside it. -/
def nameText (name : Cst) : String :=
  "::".intercalate name.nameSegments

/-- The name of a rule, label or reference. -/
def name? (tree : Cst) : Option Token := tree.childToken? .identifier

/-! ## Expressions -/

/-- Whether a lookahead or predicate is negative. -/
def isNegative (tree : Cst) : Bool := (tree.childToken? .bang).isSome

/-- The mark of a repetition. -/
def operator? (tree : Cst) : Option Token :=
  tree.children.findSome? fun
    | .leaf token => if KindSet.quantifiers.contains token.kind then some token else none
    | .node _ _ => none

/-- The braces of a predicate with what is between them. -/
def block? (tree : Cst) : Option Token := tree.childToken? .block

/-- What stands between the braces `cs` begins and ends with, less the blanks around it. -/
def hookChars? (cs : List Char) : Option (List Char) :=
  match cs with
  | [] => none
  | c :: rest =>
    if c = '{' && rest.getLast? == some '}' then some (Unicode.trimBlanks rest.dropLast)
    else none

/-- What the host knows a predicate by. -/
def hook? (tree : Cst) : Option String :=
  tree.block?.bind fun block ↦ (hookChars? block.text.toList).map String.ofList

/-- What stands between the quotes of a string, its escapes not yet read. -/
def rawValue (tree : Cst) : String :=
  ((tree.childToken? .stringValue).map (·.text)).getD ""

/-- Where the value of a string is; the whole string when it is empty. -/
def valueSpan (tree : Cst) : Span :=
  ((tree.childToken? .stringValue).map Token.span).getD tree.span

def isDoubleQuoted (tree : Cst) : Bool := (tree.childToken? .doubleQuote).isSome

/-- The brackets of a class with what is between them. -/
def classToken? (tree : Cst) : Option Token := tree.childToken? .charClass

end Cst

end PegKit
