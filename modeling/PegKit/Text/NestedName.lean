/-!
# Nested names

Grammar names may be nested, with two colons between the segments.
-/

namespace PegKit.Text

/-- The segments between double colons, read from the left. There is always one. -/
def splitAtColons : List Char → List (List Char)
  | [] => [[]]
  | ':' :: ':' :: cs => [] :: splitAtColons cs
  | c :: cs =>
    match splitAtColons cs with
    | [] => [[c]]
    | segment :: segments => (c :: segment) :: segments

def nameSegments (name : String) : List String :=
  (splitAtColons name.toList).map String.ofList

end PegKit.Text
