import PegKit.Analysis.RuleTable
import PegKit.CharClass.Bracket
import PegKit.Grammar

/-!
# The meaning of a grammar text

From trees to expressions. Groups leave no trace, escapes of strings are read, and classes become
sets of characters; a malformed escape or class is reported here and replaced by what keeps the
grammar whole: the text as written, or the class of no characters.
-/

namespace PegKit.Meaning

open Text (Span)

/-- A meaning, with the reports made on the way. -/
abbrev Reported := StateM Diagnostics

def report (diagnostic : Diagnostic) : Reported Unit :=
  modify (· ++ [diagnostic])

/-- The text a string literal stands for. -/
def string (tree : Cst) : Reported String :=
  match Terminal.unescape tree.rawValue with
  | .ok value => return value
  | .error bad => do
    let base := tree.valueSpan.start
    let escape := String.ofList (Text.slice tree.rawValue.toList bad.start bad.stop)
    report (.detailed .invalidEscape ⟨base + bad.start, base + bad.stop⟩ ("`" ++ escape ++ "`"))
    return tree.rawValue

/-- The class a bracketed text stands for. -/
def charClass (tree : Cst) : Reported Expr :=
  match tree.classToken? with
  | none => return .anyChar
  | some token =>
    match CharClass.ofBrackets token.text with
    | .ok cls => return .charClass cls
    | .error reason => do
      report (.detailed .invalidCharClass token.span reason.message)
      return .charClass (.ofRangesAs "" [] false)

/-- The repetition that a mark asks for. -/
def quantify (mark : Option Kind) (inner : Expr) : Expr :=
  match mark with
  | some .plus => .oneOrMore inner
  | some .question => .optional inner
  | _ => .zeroOrMore inner

def nameText (tree : Cst) : String :=
  (tree.name?.map (·.text)).getD ""

mutual

/-- The expression that a node stands for. -/
def expr : Cst → Reported Expr
  | .leaf _ => return .sequence []
  | .node kind children =>
    let tree := Cst.node kind children
    match kind with
    | .choiceNode => return .choice (← exprs children)
    | .seqNode => return .sequence (← exprs children)
    | .quantifierNode => return quantify (tree.operator?.map (·.kind)) (← operand children)
    | .lookaheadNode => do
      let inner ← operand children
      return if tree.isNegative then .negativeLookahead inner else .lookahead inner
    | .predicateNode => return .predicate (tree.hook?.getD "") tree.isNegative
    | .labelNode => return .label (nameText tree) (← operand children)
    | .refNode => return .ruleRef (nameText tree)
    | .strNode => return .terminal (← string tree)
    | .charClassNode => charClass tree
    | .anyNode => return .anyChar
    | .groupNode => operand children
    | _ => return .sequence []

/-- The expressions that the expression nodes of a list stand for. -/
def exprs : List Cst → Reported (List Expr)
  | [] => return []
  | tree :: rest => do
    if tree.isExpression then
      let first ← expr tree
      return first :: (← exprs rest)
    else exprs rest

/-- The expression that the first expression node of a list stands for. -/
def operand : List Cst → Reported Expr
  | [] => return .sequence []
  | tree :: rest => if tree.isExpression then expr tree else operand rest

end

def rules : RuleTable → Reported (List Rule)
  | [] => return []
  | (name, rule) :: rest => do
    let body ← operand rule.children
    return ⟨name, body⟩ :: (← rules rest)

/-- The name a text gives its grammar. -/
def grammarName (root : Cst) : String :=
  ((root.grammar?.bind Cst.grammarName?).map Cst.nameText).getD ""

/-- The grammar of a text whose rules are those of `table`. -/
def grammar (root : Cst) (table : RuleTable) : Reported Grammar :=
  return ⟨grammarName root, ← rules table, root.leadingComments⟩

end PegKit.Meaning
