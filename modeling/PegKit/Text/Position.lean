import PegKit.Text.Offset

/-!
# Line and column

The line and column of a byte offset, both counted from one. A column counts characters of its
line, not bytes, and an offset inside a character counts that character as already passed. An offset
past the end has the position of the end.
-/

namespace PegKit.Text

structure Position where
  line : Nat
  column : Nat
  deriving DecidableEq, Repr, Inhabited

def Position.advance (position : Position) (c : Char) : Position :=
  if c = '\n' then ⟨position.line + 1, 1⟩ else ⟨position.line, position.column + 1⟩

/-- The characters of `cs` that begin before byte `n`. -/
def beginningBefore : List Char → Nat → List Char
  | [], _ => []
  | c :: cs, n => if n = 0 then [] else c :: beginningBefore cs (n - c.utf8Size)

/-- The position of byte `index` of `input`. -/
def positionOf (input : List Char) (index : Nat) : Position :=
  (beginningBefore input index).foldl Position.advance ⟨1, 1⟩

@[simp]
theorem beginningBefore_zero (cs : List Char) : beginningBefore cs 0 = [] := by
  cases cs <;> simp [beginningBefore]

end PegKit.Text
