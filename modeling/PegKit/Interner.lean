/-!
# Interned texts

Label names and predicate keys are stored once per program and stand in expressions as numbers, so
that comparing two of them compares numbers. Symbols count from zero in the order of first
interning, and a text keeps its symbol for good.
-/

namespace PegKit

/-- The number of an interned text. -/
structure Symbol where
  index : Nat
  deriving DecidableEq, Repr, Inhabited

/-- The texts interned so far; the text of symbol `i` stands at place `i`. -/
structure Interner where
  texts : Array String
  deriving DecidableEq, Repr

namespace Interner

def empty : Interner := ⟨#[]⟩

def size (interner : Interner) : Nat := interner.texts.size

/-- The symbol of `text`, if it was interned already. -/
def find? (interner : Interner) (text : String) : Option Symbol :=
  (interner.texts.findIdx? (· == text)).map Symbol.mk

/-- The symbol of `text`, interning it when it is new. -/
def intern (interner : Interner) (text : String) : Symbol × Interner :=
  match interner.find? text with
  | some symbol => (symbol, interner)
  | none => (⟨interner.size⟩, ⟨interner.texts.push text⟩)

/-- The text of `symbol`, if the interner has given that number. -/
def resolve? (interner : Interner) (symbol : Symbol) : Option String :=
  interner.texts[symbol.index]?

/-- The text of `symbol`; a number never given has the empty text. -/
def resolve (interner : Interner) (symbol : Symbol) : String :=
  (interner.resolve? symbol).getD ""

/-- Symbols with their texts, in the order of interning. -/
def entries (interner : Interner) : List (Symbol × String) :=
  interner.texts.toList.zipIdx.map fun entry ↦ (⟨entry.2⟩, entry.1)

end Interner

end PegKit
