/-!
# Terminal palette

Escape sequences for dumps, traces and rendered trees. Names are blue, matched text is green and
structure is dim; without color every sequence is empty.
-/

namespace PegKit

structure Palette where
  blue : String
  green : String
  dim : String
  reset : String
  deriving DecidableEq, Repr

namespace Palette

def plain : Palette := ⟨"", "", "", ""⟩

def colored : Palette := ⟨"\x1b[34m", "\x1b[32m", "\x1b[2m", "\x1b[0m"⟩

def ofBool (color : Bool) : Palette :=
  if color then colored else plain

/-- `text` set off by the escape sequence `start`. -/
def paint (palette : Palette) (start text : String) : String :=
  start ++ text ++ palette.reset

end Palette

end PegKit
