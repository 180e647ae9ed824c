import PegKit.Predicate
import PegKit.Text.Quoted

/-!
# Ready-made conditions

A small vocabulary of conditions for predicates, for hosts that have no code of their own to bind.
-/

namespace PegKit

inductive Guard
  | always
  | never
  /-- Fails with a message. -/
  | fail (message : String)
  /-- Fails with the quoted input and the place. -/
  | failWithInput
  /-- Whether there are so many elements. -/
  | countIs (n : Nat)
  /-- Whether it is asked at that byte. -/
  | positionIs (n : Nat)
  /-- Whether the rest of the input starts so. -/
  | restStarts (text : String)
  /-- Whether the element at a place has that text. -/
  | elementText (n : Nat) (text : String)
  /-- Whether the latest element with a label has that text. -/
  | labelText (label text : String)
  /-- Whether there are elements with both labels and their texts agree. -/
  | labelsEqual (a b : String)
  deriving DecidableEq, Repr

namespace Guard

def condition : Guard → Condition
  | .always => fun _ ↦ .ok true
  | .never => fun _ ↦ .ok false
  | .fail message => fun _ ↦ .error message
  | .failWithInput => fun env ↦
    .error (Text.Quoted.quote (String.ofList env.input) ++ "@" ++ toString env.position)
  | .countIs n => fun env ↦ .ok (env.elements.length == n)
  | .positionIs n => fun env ↦ .ok (env.position == n)
  | .restStarts text => fun env ↦ .ok (text.toList.isPrefixOf env.rest)
  | .elementText n text => fun env ↦ .ok ((env.element? n).any (·.text == text))
  | .labelText label text => fun env ↦ .ok ((env.labelled? label).any (·.text == text))
  | .labelsEqual a b => fun env ↦
    match env.labelled? a, env.labelled? b with
    | some left, some right => .ok (left.text == right.text)
    | _, _ => .ok false

end Guard

end PegKit
