import PegKit.Program
import PegKit.Text.Quoted

/-!
# Building statements

The generated function that rebuilds a program is a list of statements, one for each step of
building: texts stand in them as literals, numbers as the names of earlier results.
-/

namespace PegKit.Emission

open Text.Quoted (quote quoteChar)

/-- The call that adds one operation, with labels and hooks given by their texts. -/
inductive Call
  | terminal (text : String)
  | charClass (text : String) (ranges : List CharRange) (negated : Bool)
  | anyChar
  | sequence (items : List OpId)
  | choice (alternatives : List OpId)
  | repetition (inner : OpId) (least : Nat)
  | optional (inner : OpId)
  | lookahead (inner : OpId)
  | negativeLookahead (inner : OpId)
  | predicate (hook : String) (negated : Bool)
  | label (name : String) (inner : OpId)
  | call (rule : RuleId)
  deriving DecidableEq, Repr

namespace Call

def ofOp (program : Program) : Op → Call
  | .terminal text => .terminal text
  | .charClass cls => .charClass cls.text cls.ranges.toList cls.negated
  | .anyChar => .anyChar
  | .sequence items => .sequence items
  | .choice alternatives => .choice alternatives
  | .repetition inner least => .repetition inner least
  | .optional inner => .optional inner
  | .lookahead inner => .lookahead inner
  | .negativeLookahead inner => .negativeLookahead inner
  | .predicate hook negated => .predicate (program.symbolText hook) negated
  | .label name inner => .label (program.symbolText name) inner
  | .call rule => .call rule

def opVariable (id : OpId) : String := s!"e{id.index}"

def ruleVariable (id : RuleId) : String := s!"r{id.index}"

def opVariables (ids : List OpId) : String :=
  ", ".intercalate (ids.map opVariable)

/-- A range of a class; `runtime` is the path of the runtime library. -/
def rangeText (runtime : String) (range : CharRange) : String :=
  runtime ++ "::ir::ClassRange::new(" ++ quoteChar range.first ++ ", " ++
    quoteChar range.last ++ ")"

def text (runtime : String) : Call → String
  | .terminal text => "terminal(" ++ quote text ++ ")"
  | .charClass text ranges negated =>
    "class(" ++ runtime ++ "::ir::CharClass::new(" ++ quote text ++ ", vec![" ++
      ", ".intercalate (ranges.map (rangeText runtime)) ++ "], " ++ toString negated ++ "))"
  | .anyChar => "any_char()"
  | .sequence items => "sequence(vec![" ++ opVariables items ++ "])"
  | .choice alternatives => "choice(vec![" ++ opVariables alternatives ++ "])"
  | .repetition inner least => "repetition(" ++ opVariable inner ++ ", " ++ toString least ++ ")"
  | .optional inner => "optional(" ++ opVariable inner ++ ")"
  | .lookahead inner => "lookahead(" ++ opVariable inner ++ ")"
  | .negativeLookahead inner => "negative_lookahead(" ++ opVariable inner ++ ")"
  | .predicate hook negated => "predicate(" ++ quote hook ++ ", " ++ toString negated ++ ")"
  | .label name inner => "label(" ++ quote name ++ ", " ++ opVariable inner ++ ")"
  | .call rule => "call(" ++ ruleVariable rule ++ ")"

end Call

inductive Statement
  | start (name : String)
  | comment (line : String)
  | declare (rule : RuleId) (name : String)
  | add (id : OpId) (call : Call)
  | define (rule : RuleId) (body : OpId)
  | finish
  deriving DecidableEq, Repr

namespace Statement

/-- One line of the generated function. -/
def text (runtime : String) : Statement → String
  | .start name => "let mut b = " ++ runtime ++ "::ir::ProgramBuilder::new(" ++ quote name ++ ");"
  | .comment line => "b.leading_comment(" ++ quote line ++ ");"
  | .declare rule name =>
    "let " ++ Call.ruleVariable rule ++ " = b.declare_rule(" ++ quote name ++ ");"
  | .add id call => "let " ++ Call.opVariable id ++ " = b." ++ call.text runtime ++ ";"
  | .define rule body =>
    "b.define_rule(" ++ Call.ruleVariable rule ++ ", " ++ Call.opVariable body ++ ");"
  | .finish => "b.finish()"

/-- The statements that rebuild `program`: all rules are declared first and defined last, and the
operations are added in the order of the table. -/
def ofProgram (program : Program) : List Statement :=
  [.start program.name] ++ program.comments.map .comment ++
    (program.rules.toList.zipIdx.map fun (rule, i) ↦ .declare ⟨i⟩ rule.name) ++
    (program.ops.toList.zipIdx.map fun (op, i) ↦ .add ⟨i⟩ (.ofOp program op)) ++
    (program.rules.toList.zipIdx.map fun (rule, i) ↦ .define ⟨i⟩ rule.body) ++ [.finish]

end Statement

end PegKit.Emission
