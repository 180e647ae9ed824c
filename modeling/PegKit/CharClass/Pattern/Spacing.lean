import PegKit.Unicode.Blank

/-!
# Blanks and comments in patterns

Where a pattern may be spaced out, blanks between its parts stand for nothing, and neither do
comments, which start with a number sign and end with their line. Elsewhere both are ordinary
characters.
-/

namespace PegKit.CharClass.Pattern

/-- The characters that come first and are in `keep`, and the text after them. In a spaced pattern,
blanks and comments before, between and after them are left out. -/
def takeSpaced (spaced : Bool) (keep : Char → Bool) (inComment : Bool) :
    List Char → List Char × List Char
  | [] => ([], [])
  | c :: cs =>
    if inComment then takeSpaced spaced keep (c != '\n') cs
    else if spaced && Unicode.isBlank c then takeSpaced spaced keep false cs
    else if spaced && c == '#' then takeSpaced spaced keep true cs
    else if keep c then
      let (taken, rest) := takeSpaced spaced keep false cs
      (c :: taken, rest)
    else ([], c :: cs)

/-- The text after the blanks and comments that come first. -/
def skipSpace (spaced : Bool) (cs : List Char) : List Char :=
  (takeSpaced spaced (fun _ ↦ false) false cs).2

theorem takeSpaced_of_not_spaced (keep : Char → Bool) (cs : List Char) :
    takeSpaced false keep false cs = (cs.takeWhile keep, cs.dropWhile keep) := by
  induction cs with
  | nil => rfl
  | cons c cs ih => by_cases h : keep c <;> simp [takeSpaced, h, ih]

@[simp]
theorem skipSpace_of_not_spaced (cs : List Char) : skipSpace false cs = cs := by
  cases cs <;> simp [skipSpace, takeSpaced_of_not_spaced]

/-- What a dash is followed by: the first character of `cs`, in a spaced pattern the first one after
blanks, one number sign and blanks. The words of a comment count here. -/
def afterDash (spaced : Bool) (cs : List Char) : Option Char :=
  if spaced then
    let text := cs.dropWhile Unicode.isBlank
    let text := if text.head? == some '#' then text.tail.dropWhile Unicode.isBlank else text
    text.head?.or cs.head?
  else cs.head?

end PegKit.CharClass.Pattern
