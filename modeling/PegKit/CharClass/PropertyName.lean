import PegKit.CharClass.Pattern
import PegKit.Unicode.Property.Names

/-!
# Sets named by properties

The characters that a property escape names. Names are compared loosely. A name by itself is that of
a property, of a general category or of a script, looked for in this order.
-/

namespace PegKit.CharClass.PropertyName

open PegKit.Unicode (RangeTable)

/-- The form in which names are compared: small ASCII letters without blanks, dashes and
underscores. A leading `is` is dropped, unless it would leave the name of another set. -/
def loose (name : String) : String :=
  let hasIs := (name.toList.take 2).map Char.toLower == ['i', 's']
  let rest := if hasIs then name.toList.drop 2 else name.toList
  let kept := rest.filter fun c ↦ c.toNat < 0x80 && !([' ', '_', '-'].contains c)
  let small := String.ofList (kept.map Char.toLower)
  if hasIs && small == "c" then "isc" else small

/-- Short names that a general category shares with a property. They mean the category. -/
def categoryFirst : List String :=
  ["cf", "sc", "lc"]

/-- Categories and scripts that are known by name, but hold no character of their own. -/
def withoutCharacters : List String :=
  ["cs", "surrogate", "zzzz", "unknown", "hrkt", "katakanaorhiragana"]

/-- Whether some property is called `name`. -/
def isKnown (name : String) : Bool :=
  (Unicode.Property.lookup? name Unicode.Property.binaries).isSome ||
    (Unicode.Property.lookup? name Unicode.Property.valued).isSome ||
    Unicode.Property.unsupported.contains name

/-- The characters that have the property called `name`, in loose form. -/
def binaryRanges (name : String) : Except PatternError RangeTable :=
  if isKnown name && !categoryFirst.contains name then
    match Unicode.Property.lookup? name Unicode.Property.binaries with
    | some table => .ok table
    | none => .error .propertyNotFound
  else if withoutCharacters.contains name then .error .propertyValueNotFound
  else
    match (Unicode.Property.category? name).or
        (Unicode.Property.lookup? name Unicode.scriptsNamed) with
    | some table => .ok table
    | none => .error .propertyNotFound

/-- The characters whose property called `name` has the value called `value`, in loose form. -/
def valuedRanges (name value : String) : Except PatternError RangeTable :=
  match Unicode.Property.lookup? name Unicode.Property.valued with
  | some property =>
    match property.value? value with
    | some table => .ok table
    | none => .error .propertyValueNotFound
  | none => .error (if isKnown name then .propertyValueNotFound else .propertyNotFound)

/-- The characters that the escape names. -/
def ranges : PropertyName → Except PatternError RangeTable
  | .binary name => binaryRanges (loose name)
  | .valued name value => valuedRanges (loose name) (loose value)

end PegKit.CharClass.PropertyName
