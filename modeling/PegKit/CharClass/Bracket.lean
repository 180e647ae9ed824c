import PegKit.CharClass
import PegKit.CharClass.Denotation
import PegKit.CharClass.Pattern.Reader

/-!
# Classes in brackets

The class that a bracketed text stands for. One leading caret negates the class; what follows it is
read as a bracketed set, where a further caret complements that set.
-/

namespace PegKit.CharClass

/-- Why a bracketed text is no class. -/
inductive BracketError
  | missingBrackets
  | emptyBody
  | unsupported
  | pattern (error : PatternError)
  deriving DecidableEq, Repr

def BracketError.message : BracketError → String
  | .missingBrackets => "missing brackets"
  | .emptyBody => "class is empty"
  | .unsupported => "unsupported class syntax"
  | .pattern error => error.message

/-- What stands between the brackets. -/
def bracketBody? (cs : List Char) : Option (List Char) :=
  match cs with
  | '[' :: rest => if rest.getLast? = some ']' then some rest.dropLast else none
  | _ => none

def bodyRanges (body : List Char) : Except BracketError (List CharRange) :=
  match Pattern.read ('[' :: body ++ [']']) >>= Pattern.shape with
  | .error error => .error (.pattern error)
  | .ok (.text (c :: cs)) => .ok ((c :: cs).map fun c ↦ ⟨c, c⟩)
  | .ok (.set codes) => .ok (codes.map fun range ↦ ⟨Char.ofNat range.1, Char.ofNat range.2⟩)
  | .ok _ => .error .unsupported

/-- The class written `text`, brackets included. -/
def ofBrackets (text : String) : Except BracketError CharClass := do
  let some inner := bracketBody? text.toList | throw .missingBrackets
  let negated := inner.head? == some '^'
  let body := if negated then inner.tail else inner
  if body.isEmpty then throw .emptyBody
  return ofRangesAs (String.ofList body) (← bodyRanges body) negated

end PegKit.CharClass
