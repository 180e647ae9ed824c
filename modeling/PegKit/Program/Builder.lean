import PegKit.Program

/-!
# Building programs

Rules are declared before their bodies are built, or while they are, so a reference gets its rule's
number at once even when the rule is defined later. Operations get numbers in the order they are
built, parts before the whole. Finishing refuses a rule that was defined twice and one that was
declared but never defined.
-/

namespace PegKit

/-- Why no program came out of a builder. -/
inductive BuildError
  /-- A rule has no body. -/
  | undefinedRule (name : String)
  /-- A rule was given a body more than once. -/
  | duplicateRule (name : String)
  deriving DecidableEq, Repr

def BuildError.message : BuildError → String
  | .undefinedRule name => s!"rule `{name}` is referenced but never defined"
  | .duplicateRule name => s!"rule `{name}` is defined more than once"

/-- A declared rule, with its body once it is defined. -/
structure DeclaredRule where
  name : String
  body : Option OpId
  deriving DecidableEq, Repr

structure Builder where
  name : String
  comments : List String
  ops : Array Op
  rules : Array DeclaredRule
  symbols : Interner
  /-- The first rule that was defined a second time. -/
  duplicate : Option String
  deriving DecidableEq, Repr

namespace Builder

def new (name : String) : Builder := ⟨name, [], #[], #[], .empty, none⟩

abbrev Step (α : Type) := StateM Builder α

def comment (line : String) : Step Unit :=
  modify fun builder ↦ { builder with comments := builder.comments ++ [line] }

/-- The number of the rule `name`, declaring it when it is new. -/
def declare (name : String) : Step RuleId := do
  let builder ← get
  match builder.rules.findIdx? (·.name == name) with
  | some i => return ⟨i⟩
  | none =>
    set { builder with rules := builder.rules.push ⟨name, none⟩ }
    return ⟨builder.rules.size⟩

/-- Gives a declared rule its body. A second body is refused at the end. -/
def define (rule : RuleId) (body : OpId) : Step Unit :=
  modify fun builder ↦
    match builder.rules[rule.index]? with
    | none => builder
    | some declared =>
      if declared.body.isSome then
        { builder with duplicate := builder.duplicate.or (some declared.name) }
      else
        let defined := { declared with body := body }
        { builder with rules := builder.rules.setIfInBounds rule.index defined }

def add (op : Op) : Step OpId := do
  let builder ← get
  set { builder with ops := builder.ops.push op }
  return ⟨builder.ops.size⟩

def intern (text : String) : Step Symbol := do
  let builder ← get
  let (symbol, symbols) := builder.symbols.intern text
  set { builder with symbols }
  return symbol

def predicate (hook : String) (negated : Bool) : Step OpId := do
  add (.predicate (← intern hook) negated)

def label (name : String) (inner : OpId) : Step OpId := do
  add (.label (← intern name) inner)

/-- A call of the rule `name`, which is declared when it is new. -/
def reference (name : String) : Step OpId := do
  add (.call (← declare name))

mutual

/-- Adds the operations of `expr`, its parts before the whole; returns the whole. -/
def addExpr : Expr → Step OpId
  | .terminal text => add (.terminal text)
  | .charClass cls => add (.charClass cls)
  | .anyChar => add .anyChar
  | .sequence items => do add (.sequence (← addExprs items))
  | .choice alternatives => do add (.choice (← addExprs alternatives))
  | .repetition inner least => do add (.repetition (← addExpr inner) least)
  | .optional inner => do add (.optional (← addExpr inner))
  | .lookahead inner => do add (.lookahead (← addExpr inner))
  | .negativeLookahead inner => do add (.negativeLookahead (← addExpr inner))
  | .predicate hook negated => predicate hook negated
  | .label name inner => do label name (← addExpr inner)
  | .ruleRef name => reference name

def addExprs : List Expr → Step (List OpId)
  | [] => return []
  | expr :: rest => return (← addExpr expr) :: (← addExprs rest)

end

/-- The entries of `rules`, or the first rule without a body. -/
def entries : List DeclaredRule → Except BuildError (List RuleEntry)
  | [] => .ok []
  | rule :: rest =>
    match rule.body with
    | none => .error (.undefinedRule rule.name)
    | some body => return ⟨rule.name, body⟩ :: (← entries rest)

/-- The program built. A rule defined twice is reported before one never defined. -/
def finish (builder : Builder) : Except BuildError Program :=
  match builder.duplicate with
  | some name => .error (.duplicateRule name)
  | none => do
    let rules ← entries builder.rules.toList
    return ⟨builder.name, builder.comments, builder.ops, rules.toArray, builder.symbols⟩

end Builder

end PegKit
