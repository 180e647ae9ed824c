import PegKit.Text.Offset
import PegKit.Token

/-!
# Reading tokens

Splits a text into tokens, each the longest that can start where it starts. Where no token fits, the
characters up to the first at which every attempt has failed, one at least, are garbage, and garbage
next to garbage is one token. The token texts in order make up the whole text.
-/

namespace PegKit.Token

/-- What stands at the front of a text: a token of some kind or garbage, and how many characters it
takes after the first. -/
structure Lexeme where
  kind : Option Kind
  following : Nat
  deriving DecidableEq, Repr

def isIdentifierStart (c : Char) : Bool :=
  c.isAlpha || c == '_'

def isIdentifierPart (c : Char) : Bool :=
  c.isAlphanum || c == '_'

def keyword? (name : List Char) : Option Kind :=
  if name = "grammar".toList then some .keywordGrammar
  else if name = "rule".toList then some .keywordRule
  else if name = "do".toList then some .keywordDo
  else if name = "end".toList then some .keywordEnd
  else none

/-- How far a literal closed by `close` goes, given what follows its opening character: the number
of characters, and whether the last of them closes it. A backslash takes the next character along,
and no newline is passed. -/
def literalReach (close : Char) : List Char → Nat × Bool
  | [] => (0, false)
  | c :: cs =>
    if c = close then (1, true)
    else if c = '\n' then (0, false)
    else if c = '\\' then
      match cs with
      | [] => (1, false)
      | d :: ds =>
        if d = '\n' then (1, false)
        else
          let (count, closed) := literalReach close ds
          (count + 2, closed)
    else
      let (count, closed) := literalReach close cs
      (count + 1, closed)

/-- How many characters there are up to the brace that closes `depth + 1` open ones. -/
def blockReach? (depth : Nat) : List Char → Option Nat
  | [] => none
  | c :: cs =>
    if c = '{' then (blockReach? (depth + 1) cs).map (· + 1)
    else if c = '}' then
      match depth with
      | 0 => some 1
      | depth + 1 => (blockReach? depth cs).map (· + 1)
    else (blockReach? depth cs).map (· + 1)

/-- A literal of `kind`, or garbage as far as it went when it is not closed. -/
def literal (kind : Kind) (close : Char) (cs : List Char) : Lexeme :=
  let (count, closed) := literalReach close cs
  ⟨if closed then some kind else none, count⟩

/-- The number of characters up to the end of the line. -/
def lineReach (cs : List Char) : Nat :=
  (cs.takeWhile (· != '\n')).length

/-- What stands at the front of `c :: cs`. -/
def scan (c : Char) (cs : List Char) : Lexeme :=
  if c = '(' then ⟨some .parenOpen, 0⟩
  else if c = ')' then ⟨some .parenClose, 0⟩
  else if c = ':' then
    if cs.head? = some ':' then ⟨some .doubleColon, 1⟩ else ⟨some .colon, 0⟩
  else if c = '/' then
    if cs.head? = some '/' then ⟨some .lineComment, lineReach cs⟩ else ⟨some .slash, 0⟩
  else if c = '*' then ⟨some .star, 0⟩
  else if c = '+' then ⟨some .plus, 0⟩
  else if c = '?' then ⟨some .question, 0⟩
  else if c = '&' then ⟨some .amp, 0⟩
  else if c = '!' then ⟨some .bang, 0⟩
  else if c = '.' then ⟨some .dot, 0⟩
  else if c = '{' then
    match blockReach? 0 cs with
    | some count => ⟨some .block, count⟩
    | none => ⟨none, 0⟩
  else if c = '[' then literal .charClass ']' cs
  else if c = '"' then literal .stringLiteral '"' cs
  else if c = '\'' then literal .stringLiteral '\'' cs
  else if isIdentifierStart c then
    let rest := cs.takeWhile isIdentifierPart
    ⟨some ((keyword? (c :: rest)).getD .identifier), rest.length⟩
  else if c = ' ' || c = '\t' then
    ⟨some .whitespace, (cs.takeWhile fun d ↦ d == ' ' || d == '\t').length⟩
  else if c = '\n' then ⟨some .newline, 0⟩
  else if c = '\r' then
    if cs.head? = some '\n' then ⟨some .newline, 1⟩ else ⟨none, 0⟩
  else if c = '#' then ⟨some .lineComment, lineReach cs⟩
  else ⟨none, 0⟩

/-- The text cut into what stands at the front, again and again. -/
def cut : List Char → List (Option Kind × List Char)
  | [] => []
  | c :: cs =>
    let lexeme := scan c cs
    (lexeme.kind, c :: cs.take lexeme.following) :: cut (cs.drop lexeme.following)
termination_by cs => cs.length
decreasing_by
  simp only [List.length_drop, List.length_cons]
  omega

/-- Garbage as a piece, unless there is none. -/
def garbagePiece (garbage : List Char) : List (Kind × List Char) :=
  if garbage.isEmpty then [] else [(.garbage, garbage)]

/-- Joins adjacent garbage; `garbage` is what came right before. -/
def gather (garbage : List Char) : List (Option Kind × List Char) → List (Kind × List Char)
  | [] => garbagePiece garbage
  | (none, text) :: rest => gather (garbage ++ text) rest
  | (some kind, text) :: rest => garbagePiece garbage ++ (kind, text) :: gather [] rest

/-- A string literal as its quotes and the value between them, which is left out when empty. -/
def splitLiteral (piece : Kind × List Char) : List (Kind × List Char) :=
  match piece with
  | (.stringLiteral, mark :: rest) =>
    let quote := if mark = '"' then Kind.doubleQuote else Kind.singleQuote
    let value := rest.dropLast
    (quote, [mark]) :: (if value.isEmpty then [] else [(.stringValue, value)]) ++ [(quote, [mark])]
  | _ => [piece]

/-- Pieces as tokens, the first of them at byte `start`. -/
def place (start : Nat) : List (Kind × List Char) → List Token
  | [] => []
  | (kind, text) :: rest =>
    ⟨kind, start, String.ofList text⟩ :: place (start + Text.byteLength text) rest

/-- The tokens of a text, trivia included. -/
def lex (source : List Char) : List Token :=
  place 0 ((gather [] (cut source)).flatMap splitLiteral)

end PegKit.Token
