import PegKit.Program

/-!
# Namespaces

Loaded programs by name. Each program has two names, one flat and one nested, which always lead to
the same program. A program whose grammar has the name of an earlier one takes its place.
-/

namespace PegKit

/-- Programs in the order in which their names were first registered. -/
structure Namespace where
  entries : List (String × Program)
  deriving DecidableEq, Repr

namespace Namespace

def empty : Namespace := ⟨[]⟩

/-- The flat and the nested name of the parser of a grammar. -/
def parserNames (grammar : String) : List String :=
  [grammar ++ "Parser", grammar ++ "::Parser"]

/-- Registers `program` as `name`, in place of what had the name. -/
def put (entries : List (String × Program)) (name : String) (program : Program) :
    List (String × Program) :=
  if entries.any (·.1 == name) then
    entries.map fun entry ↦ if entry.1 == name then (name, program) else entry
  else entries ++ [(name, program)]

def register (registry : Namespace) (program : Program) : Namespace :=
  ⟨(parserNames program.name).foldl (put · · program) registry.entries⟩

def find? (registry : Namespace) (name : String) : Option Program :=
  registry.entries.lookup name

def contains (registry : Namespace) (name : String) : Bool :=
  (registry.find? name).isSome

def names (registry : Namespace) : List String :=
  registry.entries.map (·.1)

def size (registry : Namespace) : Nat := registry.entries.length

/-- Whether two names are registered for one program. -/
def same (registry : Namespace) (a b : String) : Bool :=
  match registry.find? a, registry.find? b with
  | some p, some q => p == q
  | _, _ => false

end Namespace

end PegKit
