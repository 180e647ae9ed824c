/-!
# Patterns

The language that bracket bodies are written in is that of regular expressions, because a class
written with an early closing bracket goes on as a pattern. A pattern holds sets of characters,
built from ranges and named sets by the set operations, and joins them by sequence, choice, grouping
and repetition. Flags inside it change how what follows them is read and what it stands for.
-/

namespace PegKit.CharClass

/-- Sets named by what ASCII characters they hold, as in `[:alpha:]`. -/
inductive AsciiSet
  | alnum | alpha | ascii | blank | cntrl | digit | graph | lower | print | punct | space | upper
  | word | xdigit
  deriving DecidableEq, Repr

/-- Sets with a one-letter escape. -/
inductive Shorthand
  | digit | space | word
  deriving DecidableEq, Repr

/-- How a property escape names its set. -/
inductive PropertyName
  | binary (name : String)
  | valued (name value : String)
  deriving DecidableEq, Repr

/-- A character as a pattern writes it. -/
structure Literal where
  char : Char
  /-- Whether it is written as two hexadecimal digits, which stand for a byte where the pattern is
  one of bytes. -/
  byte : Bool
  deriving DecidableEq, Repr

inductive ClassSet
  | empty
  | range (first last : Literal)
  | ascii (set : AsciiSet)
  | shorthand (set : Shorthand)
  | property (name : PropertyName)
  | union (left right : ClassSet)
  | intersection (left right : ClassSet)
  | difference (left right : ClassSet)
  | symmetricDifference (left right : ClassSet)
  | complement (set : ClassSet)
  deriving DecidableEq, Repr

/-- Settings of the pattern language. -/
inductive Flag
  /-- Letters stand for themselves in either case. -/
  | caseless
  /-- Line ends are places like the ends of the text. -/
  | multiLine
  /-- The dot takes line feeds too. -/
  | dotAll
  /-- Repetitions are lazy, and greedy when marked. -/
  | swapGreed
  /-- The pattern is one of characters, not bytes. -/
  | unicode
  /-- Carriage returns end lines too. -/
  | crlf
  /-- Blanks and comments in the pattern stand for nothing. -/
  | spaced
  deriving DecidableEq, Repr

/-- Flags that are set or cleared. -/
abbrev FlagChanges := List (Flag × Bool)

inductive Pattern
  | empty
  /-- A change of flags up to the end of the group. It matches nothing and takes no repetition. -/
  | flags (changes : FlagChanges)
  | literal (literal : Literal)
  /-- Any character but a line end. -/
  | dot
  /-- A condition on the place, such as a word boundary. -/
  | place
  | set (set : ClassSet)
  /-- Parentheses that capture what they match. -/
  | capture (body : Pattern)
  /-- Parentheses that hold together, with the flags that differ inside. -/
  | group (changes : FlagChanges) (body : Pattern)
  | repeated (body : Pattern) (least : Nat) (most : Option Nat)
  | sequence (left right : Pattern)
  | choice (left right : Pattern)
  deriving DecidableEq, Repr

/-- Why a text is no pattern, or a pattern no set of characters. -/
inductive PatternError
  | classEscapeInvalid
  | classRangeInvalid
  | classRangeLiteral
  | classUnclosed
  | decimalInvalid
  | escapeHexEmpty
  | escapeHexInvalid
  | escapeHexInvalidDigit
  | escapeUnexpectedEnd
  | escapeUnrecognized
  | flagDanglingNegation
  | flagDuplicate
  | flagRepeatedNegation
  | flagUnexpectedEnd
  | flagUnrecognized
  | groupNameDuplicate
  | groupNameEmpty
  | groupNameInvalid
  | groupNameUnexpectedEnd
  | groupUnclosed
  | groupUnopened
  | nestingTooDeep (limit : Nat)
  | repetitionCountInvalid
  | repetitionCountDecimalEmpty
  | repetitionCountUnclosed
  | repetitionMissing
  | wordBoundaryUnclosed
  | wordBoundaryUnrecognized
  | wordBoundaryUnexpectedEnd
  | propertyEscapeInvalid
  | backreference
  | lookAround
  | propertyNotFound
  | propertyValueNotFound
  | unicodeNotAllowed
  | invalidUtf8
  deriving DecidableEq, Repr

def PatternError.message : PatternError → String
  | .classEscapeInvalid => "invalid escape sequence found in character class"
  | .classRangeInvalid => "invalid character class range, the start must be <= the end"
  | .classRangeLiteral => "invalid range boundary, must be a literal"
  | .classUnclosed => "unclosed character class"
  | .decimalInvalid => "decimal literal invalid"
  | .escapeHexEmpty => "hexadecimal literal empty"
  | .escapeHexInvalid => "hexadecimal literal is not a Unicode scalar value"
  | .escapeHexInvalidDigit => "invalid hexadecimal digit"
  | .escapeUnexpectedEnd => "incomplete escape sequence, reached end of pattern prematurely"
  | .escapeUnrecognized => "unrecognized escape sequence"
  | .flagDanglingNegation => "dangling flag negation operator"
  | .flagDuplicate => "duplicate flag"
  | .flagRepeatedNegation => "flag negation operator repeated"
  | .flagUnexpectedEnd => "expected flag but got end of regex"
  | .flagUnrecognized => "unrecognized flag"
  | .groupNameDuplicate => "duplicate capture group name"
  | .groupNameEmpty => "empty capture group name"
  | .groupNameInvalid => "invalid capture group character"
  | .groupNameUnexpectedEnd => "unclosed capture group name"
  | .groupUnclosed => "unclosed group"
  | .groupUnopened => "unopened group"
  | .nestingTooDeep limit =>
    "exceed the maximum number of nested parentheses/brackets (" ++ toString limit ++ ")"
  | .repetitionCountInvalid => "invalid repetition count range, the start must be <= the end"
  | .repetitionCountDecimalEmpty => "repetition quantifier expects a valid decimal"
  | .repetitionCountUnclosed => "unclosed counted repetition"
  | .repetitionMissing => "repetition operator missing expression"
  | .wordBoundaryUnclosed =>
    "special word boundary assertion is either unclosed or contains an invalid character"
  | .wordBoundaryUnrecognized =>
    "unrecognized special word boundary assertion, valid choices are: start, end, start-half " ++
      "or end-half"
  | .wordBoundaryUnexpectedEnd =>
    "found either the beginning of a special word boundary or a bounded repetition on a \\b " ++
      "with an opening brace, but no closing brace"
  | .propertyEscapeInvalid => "invalid Unicode character class"
  | .backreference => "backreferences are not supported"
  | .lookAround => "look-around, including look-ahead and look-behind, is not supported"
  | .propertyNotFound => "Unicode property not found"
  | .propertyValueNotFound => "Unicode property value not found"
  | .unicodeNotAllowed => "Unicode not allowed here"
  | .invalidUtf8 => "pattern can match invalid UTF-8"

end PegKit.CharClass
