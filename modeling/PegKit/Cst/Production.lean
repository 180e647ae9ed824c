import PegKit.Cst.Parser
import PegKit.Token.Lexer

/-!
# Productions

The productions of the grammar language:

* a grammar is `grammar`, a name, perhaps `do`, rules, and `end`;
* a rule is `rule`, a name, perhaps `do`, a choice, and `end`;
* a choice is sequences between slashes, a sequence one or more prefixed expressions;
* a prefixed expression is a predicate, a lookahead, a label with its operand, or an operand with
  repetition marks after it;
* an operand is a name, a class, a dot, a string, or a choice in parentheses.

A choice or sequence of one gets no node of its own. Expressions nest only through prefixed ones, so
the productions below those take the prefixed expression they recur to as an argument.
-/

namespace PegKit.Cst.Parse

open Text (Span)

variable {m : Type → Type} [Reading m]

/-- One token as a node. -/
def single (kind : Kind) : m Unit := node kind bump

/-- A quote, perhaps a value, and the same quote. -/
def string : m Unit :=
  node .strNode do
    let quote ← current
    bump
    let _ ← eat .stringValue
    let _ ← eat quote

/-- One more prefixed expression, unless the sequence ends here. -/
def nextItem (item : m Unit) (count : Nat) : m (Option Nat) := do
  if (← atEnd) then return none
  if ← currentIsIn .sequenceEnd then return none
  if ← currentIsIn .expressionFirst then
    item
    return some (count + 1)
  errorAndBump .unexpectedToken "expected an expression"
  return some count

/-- Prefixed expressions up to the end of a sequence; counts them. -/
def sequenceItems (item : m Unit) : m Nat :=
  untilDone (nextItem item) 0

/-- A sequence, with a node when it has more than one item. -/
def sequence (item : m Unit) : m Unit := do
  let start ← mark
  let count ← sequenceItems item
  if 1 < count then wrapFrom start .seqNode

/-- A slash and the sequence after it, unless no slash is next. -/
def nextAlternative (item : m Unit) (_ : Unit) : m (Option Unit) := do
  if !(← currentIs .slash) then return none
  bump
  if ← currentIsIn .expressionFirst then sequence item
  else errorDetailed .expectedExpression "alternative after `/`"
  return some ()

/-- Sequences between slashes, with a node when there is a slash. -/
def choice (item : m Unit) : m Unit := do
  let start ← mark
  sequence item
  if ← currentIs .slash then
    untilDone (nextAlternative item) ()
    wrapFrom start .choiceNode

/-- A choice in parentheses. -/
def group (item : m Unit) : m Unit := do
  expect .parenOpen
  node .groupNode do
    let opening ← currentSpan
    bump
    if ← currentIs .parenClose then
      error .emptyGroup
      bump
    else
      if ← currentIsIn .expressionFirst then choice item
      if !(← eat .parenClose) then
        errorUnclosed .unclosedGroup "group starts here" opening

/-- A name, a class, a dot, a string or a group. -/
def primary (item : m Unit) : m Unit := do
  match ← current with
  | .identifier => single .refNode
  | .charClass => single .charClassNode
  | .dot => single .anyNode
  | .doubleQuote => string
  | .singleQuote => string
  | .parenOpen => group item
  | _ => errorAndBump .unexpectedToken "expected an expression"

/-- A repetition mark, with a node around it and what the open node holds from `start` on, unless
no mark is next. -/
def nextQuantifier (start : Nat) (_ : Unit) : m (Option Unit) := do
  if !(← currentIsIn .quantifiers) then return none
  bump
  wrapFrom start .quantifierNode
  return some ()

/-- An operand with any number of repetition marks, each a node around what stands before it. -/
def repeated (item : m Unit) : m Unit := do
  let start ← mark
  primary item
  untilDone (nextQuantifier start) ()

/-- The expression that a lookahead or label applies to. -/
def operand (item : m Unit) (what : String) : m Unit := do
  if ← currentIsIn .expressionFirst then item
  else errorDetailed .expectedExpression (what ++ " needs an operand")

/-- A predicate or lookahead, which begin alike. -/
def guarded (item : m Unit) : m Unit := do
  if ← nextIs .block then
    node .predicateNode do
      bump
      bump
  else
    node .lookaheadNode do
      bump
      operand item "lookahead"

/-- A label with its operand, or else an operand with repetition marks. -/
def labelled (item : m Unit) : m Unit := do
  if ← nextIs .colon then
    node .labelNode do
      bump
      bump
      operand item "label"
  else repeated item

/-- A prefixed expression whose inner expressions are read by `item`. -/
def prefixedBody (item : m Unit) : m Unit := do
  match ← current with
  | .amp => guarded item
  | .bang => guarded item
  | .identifier => labelled item
  | _ => repeated item

/-- A prefixed expression with at most `levels` of them inside each other, itself included. Nothing
is read when there is no level left. -/
def prefixed : Nat → m Unit
  | 0 => Reading.giveUp .recursionLimitExceeded
  | levels + 1 => do
    restoreLookaheads
    prefixedBody (prefixed levels)
    restoreLookaheads

/-- The end of the rule that began at `opening`, or a report on what stands before it. -/
def endRule (opening : Span) (_ : Unit) : m (Option Unit) := do
  if ← atEnd then
    errorUnclosed .unclosedRule "rule starts here" opening
    return none
  match ← current with
  | .keywordEnd =>
    bump
    return none
  | .keywordRule =>
    errorUnclosed .unclosedRule "rule starts here" opening
    return none
  | _ =>
    errorAndRecover .unexpectedToken "expected `end`" .ruleRecovery
    return some ()

/-- What follows the name of the rule that began at `opening`. -/
def ruleBody (levels : Nat) (opening : Span) : m Unit := do
  let _ ← eat .keywordDo
  if ← currentIsIn .expressionFirst then choice (prefixed levels)
  else errorDetailed .expectedExpression "rule body is missing"
  untilDone (endRule opening) ()

def rule (levels : Nat) : m Unit := do
  expect .keywordRule
  node .ruleNode do
    let opening ← currentSpan
    bump
    if !(← eat .identifier) then error .expectedRuleName
    ruleBody levels opening

/-- A double colon and the name after it, unless no double colon is next. -/
def nextSegment (_ : Unit) : m (Option Unit) := do
  if !(← currentIs .doubleColon) then return none
  bump
  if ← eat .identifier then return some ()
  error .expectedGrammarName
  return none

/-- Names between double colons. -/
def grammarName : m Unit := do
  if ← currentIs .identifier then
    node .grammarNameNode do
      bump
      untilDone nextSegment ()
  else error .expectedGrammarName

/-- One more rule, or the end of the grammar that began at `opening`. -/
def nextRule (levels : Nat) (opening : Span) (_ : Unit) : m (Option Unit) := do
  if ← atEnd then
    errorUnclosed .unclosedGrammar "grammar starts here" opening
    return none
  match ← current with
  | .keywordRule =>
    rule levels
    return some ()
  | .keywordEnd =>
    bump
    return none
  | _ =>
    errorAndBump .unexpectedToken "expected `rule` or `end`"
    return some ()

def grammar (levels : Nat) : m Unit := do
  expect .keywordGrammar
  node .grammarNode do
    let opening ← currentSpan
    bump
    grammarName
    let _ ← eat .keywordDo
    untilDone (nextRule levels opening) ()

/-- The end of the text, or a report on what stands before it. -/
def endOfText : m Unit := do
  if !(← atEnd) then
    error .trailingInput
    bumpRest
  addTrivia

/-- A whole text: a grammar and nothing after it. -/
def root (levels : Nat) : m Unit :=
  node .rootNode do
    if ← currentIs .keywordGrammar then grammar levels
    else error .expectedGrammar
    endOfText

end Parse

/-- Limits on reading a text; an absent limit is none. -/
structure Limits where
  /-- The most tokens consumed. -/
  execFuel : Option Nat := some 1000000
  /-- The deepest nesting of prefixed expressions. -/
  recursionFuel : Option Nat := some 4096
  deriving DecidableEq, Repr

def Limits.unlimited : Limits := ⟨none, none⟩

structure Parsed where
  root : Cst
  diagnostics : Diagnostics
  /-- The tokens consumed, when their number is limited. -/
  fuelConsumed : Nat

/-- Reads a text. Without a limit on nesting there is room for one level for each token, and no
expression nests deeper. -/
def parse (source : String) (limits : Limits) : Except Fault Parsed := do
  let tokens := Token.lex source.toList
  let levels := limits.recursionFuel.getD (tokens.length + 1)
  let start := Parse.start tokens source.utf8ByteSize limits.execFuel
  let reading : Lasting Unit := do
    Parse.root levels
    Parse.addTrivia
  let ((), state) ← reading.run start
  match state.exhausted, state.built.toList with
  | some fault, _ => throw fault
  | none, [root] =>
    return {
      root
      diagnostics := state.diagnostics
      fuelConsumed := if limits.execFuel.isSome then state.consumed else 0 }
  | none, _ => throw .misplaced

end Cst

end PegKit
