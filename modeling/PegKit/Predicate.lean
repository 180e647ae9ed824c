import PegKit.SyntaxTree
import PegKit.Unicode.Blank

/-!
# Predicates

The conditions that a host binds to the predicates of a grammar. A predicate is bound under the text
between its braces, blanks around it aside. When it is asked, it sees the input, the place, and the
elements matched so far by the innermost sequence around it in the same rule.
-/

namespace PegKit

/-- What a predicate can see. -/
structure MatchEnv where
  program : Program
  input : List Char
  nodes : Arena
  elements : List NodeId
  /-- The byte offset it is asked at. -/
  position : Nat
  /-- The input from there on. -/
  rest : List Char

namespace MatchEnv

def view (env : MatchEnv) (id : NodeId) : NodeView :=
  ⟨env.input, env.program, env.nodes, id⟩

def elementViews (env : MatchEnv) : List NodeView := env.elements.map env.view

def element? (env : MatchEnv) (index : Nat) : Option NodeView :=
  env.elements[index]?.map env.view

/-- The latest element with the label `name`. -/
def labelled? (env : MatchEnv) (name : String) : Option NodeView :=
  env.elementViews.reverse.find? fun view ↦ view.label? == some name

end MatchEnv

/-- A condition that the host decides. Failing ends the parse with a message. -/
abbrev Condition := MatchEnv → Except String Bool

/-- A condition under the key it was bound by, as the host wrote it. -/
structure Binding where
  key : String
  condition : Condition

namespace Binding

/-- The form of keys that counts: without blanks around it. -/
def trim (key : String) : String :=
  String.ofList (Unicode.trimBlanks key.toList)

end Binding

/-- Conditions by trimmed key, each key once. -/
abbrev Bindings := List (String × Binding)

namespace Bindings

/-- Binds `condition` under `key`, in place of what was bound there. -/
def bind (bindings : Bindings) (key : String) (condition : Condition) : Bindings :=
  (Binding.trim key, ⟨key, condition⟩) ::
    bindings.filter fun entry ↦ entry.1 != Binding.trim key

/-- Removes what is bound under `key`; tells whether something was. -/
def unbind (bindings : Bindings) (key : String) : Bool × Bindings :=
  ((bindings.lookup (Binding.trim key)).isSome,
    bindings.filter fun entry ↦ entry.1 != Binding.trim key)

/-- What is bound for the hook `hook`. -/
def find? (bindings : Bindings) (hook : String) : Option Binding :=
  bindings.lookup hook

/-- What is bound to each symbol of `program`, by its number. Labels share the symbols of hooks. -/
def resolve (bindings : Bindings) (program : Program) : Array (Option Binding) :=
  (program.symbols.entries.map fun entry ↦ bindings.find? entry.2).toArray

end Bindings

end PegKit
