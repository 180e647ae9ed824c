/-!
# Kinds of diagnostics

What can be wrong with a grammar. The order of the kinds is their priority: of two reports that
collide, the one whose kind stands first is kept.
-/

namespace PegKit

inductive Severity
  | error
  | warning
  deriving DecidableEq, Repr

def Severity.text : Severity → String
  | .error => "error"
  | .warning => "warning"

inductive DiagnosticKind
  -- A construct left open swallows everything after it.
  | unclosedGrammar
  | unclosedRule
  | unclosedGroup
  -- Missing pieces.
  | expectedGrammar
  | expectedGrammarName
  | expectedRuleName
  | expectedExpression
  -- Misplaced or malformed pieces.
  | emptyGroup
  | invalidEscape
  | invalidCharClass
  | unexpectedToken
  | trailingInput
  -- Well-formed but meaningless.
  | duplicateRule
  | undefinedRule
  | duplicateLabel
  | leftRecursion
  | emptyGrammar
  deriving DecidableEq, Repr, Inhabited

namespace DiagnosticKind

/-- All kinds by priority, with their names. -/
def named : List (DiagnosticKind × String) :=
  [(.unclosedGrammar, "UnclosedGrammar"), (.unclosedRule, "UnclosedRule"),
    (.unclosedGroup, "UnclosedGroup"), (.expectedGrammar, "ExpectedGrammar"),
    (.expectedGrammarName, "ExpectedGrammarName"), (.expectedRuleName, "ExpectedRuleName"),
    (.expectedExpression, "ExpectedExpression"), (.emptyGroup, "EmptyGroup"),
    (.invalidEscape, "InvalidEscape"), (.invalidCharClass, "InvalidCharClass"),
    (.unexpectedToken, "UnexpectedToken"), (.trailingInput, "TrailingInput"),
    (.duplicateRule, "DuplicateRule"), (.undefinedRule, "UndefinedRule"),
    (.duplicateLabel, "DuplicateLabel"), (.leftRecursion, "LeftRecursion"),
    (.emptyGrammar, "EmptyGrammar")]

def name (kind : DiagnosticKind) : String :=
  (named.lookup kind).getD ""

def named? (name : String) : Option DiagnosticKind :=
  (named.find? (·.2 == name)).map (·.1)

/-- The place of a kind in the order of priority; the first place is the highest. -/
def rank : DiagnosticKind → Nat
  | .unclosedGrammar => 0
  | .unclosedRule => 1
  | .unclosedGroup => 2
  | .expectedGrammar => 3
  | .expectedGrammarName => 4
  | .expectedRuleName => 5
  | .expectedExpression => 6
  | .emptyGroup => 7
  | .invalidEscape => 8
  | .invalidCharClass => 9
  | .unexpectedToken => 10
  | .trailingInput => 11
  | .duplicateRule => 12
  | .undefinedRule => 13
  | .duplicateLabel => 14
  | .leftRecursion => 15
  | .emptyGrammar => 16

/-- Whether a report of `kind` has priority over one of `other`. -/
def suppresses (kind other : DiagnosticKind) : Bool :=
  kind.rank < other.rank

def severity : DiagnosticKind → Severity
  | .leftRecursion => .warning
  | .emptyGrammar => .warning
  | _ => .error

/-- Reported where an open construct should have been closed. -/
def isStructural (kind : DiagnosticKind) : Bool :=
  kind == .unclosedGrammar || kind == .unclosedRule || kind == .unclosedGroup

/-- A missing piece, which usually explains a construct left open at the same place. -/
def isRootCause (kind : DiagnosticKind) : Bool :=
  kind == .expectedGrammar || kind == .expectedGrammarName || kind == .expectedRuleName ||
    kind == .expectedExpression

def headline : DiagnosticKind → String
  | .unclosedGrammar => "missing `end` for grammar"
  | .unclosedRule => "missing `end` for rule"
  | .unclosedGroup => "missing closing `)`"
  | .expectedGrammar => "expected a `grammar` declaration"
  | .expectedGrammarName => "expected grammar name"
  | .expectedRuleName => "expected rule name"
  | .expectedExpression => "expected an expression"
  | .emptyGroup => "empty `()` is not allowed"
  | .invalidEscape => "invalid escape sequence"
  | .invalidCharClass => "invalid character class"
  | .unexpectedToken => "unexpected token"
  | .trailingInput => "unexpected input after grammar"
  | .duplicateRule => "duplicate rule"
  | .undefinedRule => "undefined rule"
  | .duplicateLabel => "duplicate label"
  | .leftRecursion => "left recursion"
  | .emptyGrammar => "grammar has no rules"

/-- The wording around a detail, which is usually a name. -/
def withDetail (kind : DiagnosticKind) (detail : String) : String :=
  match kind with
  | .duplicateRule => "`" ++ detail ++ "` is already defined"
  | .undefinedRule => "`" ++ detail ++ "` is not defined"
  | .duplicateLabel => "label `" ++ detail ++ "` is used more than once in this sequence"
  | .leftRecursion => "rule `" ++ detail ++ "` is left-recursive and will never match"
  | _ => kind.headline ++ (if kind.isStructural then "; " else ": ") ++ detail

end DiagnosticKind

end PegKit
