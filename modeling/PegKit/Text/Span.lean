/-!
# Spans

Half-open intervals of byte offsets, the way tokens, tree nodes and reports say where they are.
-/

namespace PegKit.Text

/-- The bytes from `start` up to, and not including, `stop`. -/
structure Span where
  start : Nat
  stop : Nat
  deriving DecidableEq, Repr, Inhabited

namespace Span

/-- The span of no bytes at `offset`. -/
def emptyAt (offset : Nat) : Span := ⟨offset, offset⟩

def isEmpty (span : Span) : Bool := span.start == span.stop

/-- Written `start..stop`. -/
def text (span : Span) : String := s!"{span.start}..{span.stop}"

end Span

end PegKit.Text
