import PegKit.Text.Span

/-!
# Tokens of the grammar language

The kinds of tokens and of tree nodes, and tokens with their places. Blanks, newlines and comments
are trivia: they are kept, but mean nothing.
-/

namespace PegKit

/-- What a token or a tree node is. Tokens come first. -/
inductive Kind
  | parenOpen
  | parenClose
  | doubleColon
  | colon
  | slash
  | star
  | plus
  | question
  | amp
  | bang
  | dot
  /-- A predicate's braces with what is between them. -/
  | block
  | charClass
  /-- A whole string literal; it is split into quotes and value before it becomes a token. -/
  | stringLiteral
  | doubleQuote
  | singleQuote
  | stringValue
  | keywordGrammar
  | keywordRule
  | keywordDo
  | keywordEnd
  | identifier
  | whitespace
  | newline
  | lineComment
  /-- A run of characters that begin no token. -/
  | garbage
  | error
  | rootNode
  | grammarNode
  | grammarNameNode
  | ruleNode
  | choiceNode
  | seqNode
  | quantifierNode
  | lookaheadNode
  | predicateNode
  | labelNode
  | refNode
  | strNode
  | charClassNode
  | anyNode
  | groupNode
  deriving DecidableEq, Repr, Inhabited

namespace Kind

/-- All kinds in order, with the names they are shown by. -/
def named : List (Kind × String) :=
  [(.parenOpen, "ParenOpen"), (.parenClose, "ParenClose"), (.doubleColon, "DoubleColon"),
    (.colon, "Colon"), (.slash, "Slash"), (.star, "Star"), (.plus, "Plus"),
    (.question, "Question"), (.amp, "Amp"), (.bang, "Bang"), (.dot, "Dot"), (.block, "Block"),
    (.charClass, "Class"), (.stringLiteral, "StringLiteral"), (.doubleQuote, "DoubleQuote"),
    (.singleQuote, "SingleQuote"), (.stringValue, "StrVal"), (.keywordGrammar, "KwGrammar"),
    (.keywordRule, "KwRule"), (.keywordDo, "KwDo"), (.keywordEnd, "KwEnd"), (.identifier, "Id"),
    (.whitespace, "Whitespace"), (.newline, "Newline"), (.lineComment, "LineComment"),
    (.garbage, "Garbage"), (.error, "Error"), (.rootNode, "Root"), (.grammarNode, "Grammar"),
    (.grammarNameNode, "GrammarName"), (.ruleNode, "Rule"), (.choiceNode, "Choice"),
    (.seqNode, "Seq"), (.quantifierNode, "Quantifier"), (.lookaheadNode, "Lookahead"),
    (.predicateNode, "Predicate"), (.labelNode, "Label"), (.refNode, "Ref"), (.strNode, "Str"),
    (.charClassNode, "CharClass"), (.anyNode, "Any"), (.groupNode, "Group")]

def name (kind : Kind) : String :=
  (named.lookup kind).getD ""

def named? (name : String) : Option Kind :=
  (named.find? (·.2 == name)).map (·.1)

/-- Blanks, newlines and comments. -/
def isTrivia (kind : Kind) : Bool :=
  kind == .whitespace || kind == .newline || kind == .lineComment

end Kind

structure KindSet where
  members : List Kind

namespace KindSet

def contains (set : KindSet) (kind : Kind) : Bool :=
  set.members.contains kind

/-- The members in the order of kinds. -/
def sorted (set : KindSet) : List Kind :=
  (Kind.named.map (·.1)).filter set.contains

/-- The names of the members between braces. -/
def text (set : KindSet) : String :=
  r"{" ++ ", ".intercalate (set.sorted.map Kind.name) ++ r"}"

/-- Tokens that can start an expression. -/
def expressionFirst : KindSet :=
  ⟨[.parenOpen, .identifier, .doubleQuote, .singleQuote, .charClass, .dot, .amp, .bang]⟩

def quantifiers : KindSet := ⟨[.star, .plus, .question]⟩

/-- Tokens at which a sequence stops without complaint. -/
def sequenceEnd : KindSet := ⟨[.slash, .parenClose, .keywordEnd, .keywordRule]⟩

/-- Tokens at which reading a rule takes up again after an error. -/
def ruleRecovery : KindSet := ⟨[.keywordRule, .keywordEnd]⟩

end KindSet

structure Token where
  kind : Kind
  /-- The byte offset of the first character. -/
  start : Nat
  text : String
  deriving DecidableEq, Repr, Inhabited

namespace Token

/-- The byte offset after the last character. -/
def stop (token : Token) : Nat :=
  token.start + token.text.utf8ByteSize

def span (token : Token) : Text.Span :=
  ⟨token.start, token.stop⟩

def isTrivia (token : Token) : Bool :=
  token.kind.isTrivia

end Token

end PegKit
