/-!
# JSON text

JSON values without fractions, whose objects keep the order of their fields, and their text without
any blanks.
-/

namespace PegKit.Text

inductive Json
  | null
  | number (n : Nat)
  | string (s : String)
  | array (items : List Json)
  | object (fields : List (String × Json))

namespace Json

def hexDigits2 (n : Nat) : List Char :=
  [Nat.digitChar (n / 16), Nat.digitChar (n % 16)]

/-- How `c` is written in a JSON string: quotes, backslashes and controls as escapes. -/
def escape (c : Char) : List Char :=
  if c = '"' || c = '\\' then ['\\', c]
  else if c = '\x08' then ['\\', 'b']
  else if c = '\x0c' then ['\\', 'f']
  else if c = '\n' then ['\\', 'n']
  else if c = '\r' then ['\\', 'r']
  else if c = '\t' then ['\\', 't']
  else if c.toNat < 0x20 then ['\\', 'u', '0', '0'] ++ hexDigits2 c.toNat
  else [c]

def quote (s : String) : String :=
  String.ofList ('"' :: s.toList.flatMap escape ++ ['"'])

mutual

/-- The text of a value. -/
def text : Json → String
  | .null => "null"
  | .number n => toString n
  | .string s => quote s
  | .array items => "[" ++ textOfItems items ++ "]"
  | .object fields => r"{" ++ textOfFields fields ++ r"}"

def textOfItems : List Json → String
  | [] => ""
  | [only] => only.text
  | item :: next :: rest => item.text ++ "," ++ textOfItems (next :: rest)

def textOfFields : List (String × Json) → String
  | [] => ""
  | [(name, only)] => quote name ++ ":" ++ only.text
  | (name, value) :: next :: rest =>
    quote name ++ ":" ++ value.text ++ "," ++ textOfFields (next :: rest)

end

end Json

end PegKit.Text
