import PegKit.CharClass.Bracket
import PegKit.Grammar
import PegKit.Token
import PegKit.Unicode.Blank

/-!
# The grammar language

The language itself, apart from how it is read: which tokens, trivia left out, make an expression, a
rule and a grammar, and what they mean. A choice or a sequence of one means what its only part
means, groups mean what is in them, and repetition marks apply from the inside out before any
prefix.
-/

namespace PegKit.Syntax

/-- What a string with an inner text stands for; one with a malformed escape stands for itself. -/
def literalText (raw : String) : String :=
  match Terminal.unescape raw with
  | .ok value => value
  | .error _ => raw

/-- What a class stands for; a malformed one is the class of no characters. -/
def classExpr (text : String) : Expr :=
  match CharClass.ofBrackets text with
  | .ok cls => .charClass cls
  | .error _ => .charClass (.ofRangesAs "" [] false)

/-- One expression as it is, and others under one operator. -/
def oneOrMany (many : List Expr → Expr) : List Expr → Expr
  | [expr] => expr
  | exprs => many exprs

theorem oneOrMany_of_one_lt {many : List Expr → Expr} {exprs : List Expr}
    (h : 1 < exprs.length) : oneOrMany many exprs = many exprs := by
  rcases exprs with _ | ⟨first, _ | ⟨second, rest⟩⟩
  · cases h
  · exact absurd h (Nat.lt_irrefl 1)
  · rfl

def IsQuote (token : Token) : Prop := token.kind = .doubleQuote ∨ token.kind = .singleQuote

mutual

inductive Prefixed : List Token → Expr → Prop
  | predicate {mark block : Token} {inner : List Char}
      (isMark : mark.kind = .amp ∨ mark.kind = .bang) (isBlock : block.kind = .block)
      (braces : block.text.toList = '{' :: inner ++ ['}']) :
      Prefixed [mark, block]
        (.predicate (String.ofList (Unicode.trimBlanks inner)) (mark.kind == .bang))
  | lookahead {mark : Token} {tokens : List Token} {expr : Expr} (isMark : mark.kind = .amp)
      (operand : Prefixed tokens expr) : Prefixed (mark :: tokens) (.lookahead expr)
  | negativeLookahead {mark : Token} {tokens : List Token} {expr : Expr}
      (isMark : mark.kind = .bang) (operand : Prefixed tokens expr) :
      Prefixed (mark :: tokens) (.negativeLookahead expr)
  | label {name colon : Token} {tokens : List Token} {expr : Expr}
      (isName : name.kind = .identifier) (isColon : colon.kind = .colon)
      (operand : Prefixed tokens expr) :
      Prefixed (name :: colon :: tokens) (.label name.text expr)
  | repeated {tokens : List Token} {expr : Expr} (inner : Repeated tokens expr) :
      Prefixed tokens expr

inductive Repeated : List Token → Expr → Prop
  | primary {tokens : List Token} {expr : Expr} (inner : Primary tokens expr) :
      Repeated tokens expr
  | star {tokens : List Token} {mark : Token} {expr : Expr} (inner : Repeated tokens expr)
      (isMark : mark.kind = .star) : Repeated (tokens ++ [mark]) (.zeroOrMore expr)
  | plus {tokens : List Token} {mark : Token} {expr : Expr} (inner : Repeated tokens expr)
      (isMark : mark.kind = .plus) : Repeated (tokens ++ [mark]) (.oneOrMore expr)
  | question {tokens : List Token} {mark : Token} {expr : Expr} (inner : Repeated tokens expr)
      (isMark : mark.kind = .question) : Repeated (tokens ++ [mark]) (.optional expr)

inductive Primary : List Token → Expr → Prop
  | reference {name : Token} (isName : name.kind = .identifier) :
      Primary [name] (.ruleRef name.text)
  | charClass {token : Token} (isClass : token.kind = .charClass) :
      Primary [token] (classExpr token.text)
  | dot {token : Token} (isDot : token.kind = .dot) : Primary [token] .anyChar
  | emptyString {opening closing : Token} (quote : IsQuote opening)
      (same : closing.kind = opening.kind) : Primary [opening, closing] (.terminal "")
  | string {opening value closing : Token} (quote : IsQuote opening)
      (isValue : value.kind = .stringValue) (same : closing.kind = opening.kind) :
      Primary [opening, value, closing] (.terminal (literalText value.text))
  | group {opening closing : Token} {tokens : List Token} {expr : Expr}
      (isOpening : opening.kind = .parenOpen) (inner : Choice tokens expr)
      (isClosing : closing.kind = .parenClose) : Primary (opening :: tokens ++ [closing]) expr

/-- Prefixed expressions, one at least. -/
inductive Items : List Token → List Expr → Prop
  | one {tokens : List Token} {expr : Expr} (item : Prefixed tokens expr) : Items tokens [expr]
  | more {tokens tokens' : List Token} {exprs : List Expr} {expr : Expr}
      (items : Items tokens exprs) (item : Prefixed tokens' expr) :
      Items (tokens ++ tokens') (exprs ++ [expr])

inductive Sequence : List Token → Expr → Prop
  | ofItems {tokens : List Token} {exprs : List Expr} (items : Items tokens exprs) :
      Sequence tokens (oneOrMany .sequence exprs)

/-- Sequences between slashes. -/
inductive Alternatives : List Token → List Expr → Prop
  | one {tokens : List Token} {expr : Expr} (first : Sequence tokens expr) :
      Alternatives tokens [expr]
  | more {tokens tokens' : List Token} {slash : Token} {exprs : List Expr} {expr : Expr}
      (alternatives : Alternatives tokens exprs) (isSlash : slash.kind = .slash)
      (next : Sequence tokens' expr) : Alternatives (tokens ++ slash :: tokens') (exprs ++ [expr])

inductive Choice : List Token → Expr → Prop
  | ofAlternatives {tokens : List Token} {exprs : List Expr}
      (alternatives : Alternatives tokens exprs) : Choice tokens (oneOrMany .choice exprs)

end

theorem Items.ne_nil {tokens : List Token} {exprs : List Expr} (h : Items tokens exprs) :
    exprs ≠ [] := by
  cases h with
  | one => exact List.cons_ne_nil _ _
  | more => exact List.append_ne_nil_of_right_ne_nil _ (List.cons_ne_nil _ _)

/-- After a sequence, another one makes more than one. -/
theorem Alternatives.one_lt {tokens : List Token} {exprs : List Expr}
    (h : Alternatives tokens exprs) (expr : Expr) : 1 < (exprs ++ [expr]).length := by
  rw [List.length_append]
  cases h with
  | one => exact Nat.lt_add_one 1
  | more =>
    rw [List.length_append]
    exact Nat.succ_lt_succ (Nat.succ_pos _)

/-- No token, or one of `kind`. -/
def Optional (kind : Kind) (tokens : List Token) : Prop :=
  tokens = [] ∨ ∃ token, tokens = [token] ∧ token.kind = kind

inductive RuleText : List Token → Rule → Prop
  | intro {keyword name closing : Token} {between tokens : List Token} {body : Expr}
      (isKeyword : keyword.kind = .keywordRule) (isName : name.kind = .identifier)
      (hasDo : Optional .keywordDo between) (inner : Choice tokens body)
      (isClosing : closing.kind = .keywordEnd) :
      RuleText (keyword :: name :: between ++ tokens ++ [closing]) ⟨name.text, body⟩

inductive Rules : List Token → List Rule → Prop
  | none : Rules [] []
  | more {tokens tokens' : List Token} {rules : List Rule} {rule : Rule}
      (before : Rules tokens rules) (next : RuleText tokens' rule) :
      Rules (tokens ++ tokens') (rules ++ [rule])

/-- Names between double colons. -/
inductive NameText : List Token → List String → Prop
  | one {name : Token} (isName : name.kind = .identifier) : NameText [name] [name.text]
  | more {tokens : List Token} {colons name : Token} {segments : List String}
      (outer : NameText tokens segments) (isColons : colons.kind = .doubleColon)
      (isName : name.kind = .identifier) :
      NameText (tokens ++ [colons, name]) (segments ++ [name.text])

/-- What a text says: its name by segments, and its rules. -/
structure Contents where
  name : List String
  rules : List Rule

/-- A whole text. -/
inductive GrammarText : List Token → Contents → Prop
  | intro {keyword closing : Token} {name between tokens : List Token} {segments : List String}
      {rules : List Rule} (isKeyword : keyword.kind = .keywordGrammar)
      (named : NameText name segments) (hasDo : Optional .keywordDo between)
      (body : Rules tokens rules) (isClosing : closing.kind = .keywordEnd) :
      GrammarText (keyword :: name ++ between ++ tokens ++ [closing]) ⟨segments, rules⟩

/-- The rules of a text, of each name the first. -/
def firstRules (rules : List Rule) : List Rule :=
  rules.foldl (fun found rule ↦
    if found.any (·.name == rule.name) then found else found ++ [rule]) []

end PegKit.Syntax
