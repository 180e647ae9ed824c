/-!
# Command-line arguments

Reads the words of a command line into options and plain arguments. Options have a long name, a
letter, or both. Letters may be joined, and a value may stand in the word of its option or be the
next one, but then it must not look like an option itself. After two dashes all words are plain.
-/

namespace PegKit.CommandLine

/-- The options of all commands. -/
inductive Key
  | grammar
  | source
  | color
  | strict
  | cst
  | output
  | stdout
  | runtimePath
  | noAlias
  | root
  | acceptRest
  | index
  | json
  | compact
  | verbose
  | noResult
  | fuel
  deriving DecidableEq, Repr

/-- What an option says. -/
inductive Arity
  /-- That it is there; once. -/
  | flag
  /-- How often it is there. -/
  | counted
  /-- A value; once. -/
  | value
  deriving DecidableEq, Repr

structure Switch where
  key : Key
  letter : Option Char
  name : Option String
  arity : Arity
  deriving DecidableEq, Repr

namespace Switch

def all : List Switch :=
  [⟨.grammar, some 'g', some "grammar", .value⟩, ⟨.source, some 's', some "source", .value⟩,
    ⟨.color, none, some "color", .value⟩, ⟨.strict, none, some "strict", .flag⟩,
    ⟨.cst, none, some "cst", .flag⟩, ⟨.output, some 'o', some "output", .value⟩,
    ⟨.stdout, none, some "stdout", .flag⟩, ⟨.runtimePath, none, some "runtime-path", .value⟩,
    ⟨.noAlias, none, some "no-alias", .flag⟩, ⟨.root, some 'r', some "root", .value⟩,
    ⟨.acceptRest, none, some "partial", .flag⟩, ⟨.index, none, some "index", .value⟩,
    ⟨.json, none, some "json", .flag⟩, ⟨.compact, none, some "compact", .flag⟩,
    ⟨.verbose, some 'v', none, .counted⟩, ⟨.noResult, none, some "no-result", .flag⟩,
    ⟨.fuel, none, some "fuel", .value⟩]

/-- The options with the given keys. -/
def having (keys : List Key) : List Switch :=
  all.filter fun switch ↦ keys.contains switch.key

end Switch

/-- Why a command line is not run. -/
inductive Refusal
  /-- It asks how to write one. -/
  | help
  | missingCommand
  | unknownCommand (word : String)
  | unknownArgument (word : String)
  | repeated (key : Key)
  | missingValue (key : Key)
  | unexpectedValue (key : Key)
  | invalidValue (text : String)
  | conflict (a b : Key)
  deriving DecidableEq, Repr

/-- The options and plain arguments read so far. -/
structure Given where
  /-- Options without a value, the counted ones as often as they were there. -/
  flags : List Key
  values : List (Key × String)
  plain : List String
  deriving DecidableEq, Repr

namespace Given

def empty : Given := ⟨[], [], []⟩

def isSet (given : Given) (key : Key) : Bool := given.flags.contains key

def count (given : Given) (key : Key) : Nat := given.flags.count key

def value? (given : Given) (key : Key) : Option String := given.values.lookup key

def addFlag (given : Given) (switch : Switch) : Except Refusal Given :=
  if switch.arity = .flag && given.isSet switch.key then .error (.repeated switch.key)
  else .ok { given with flags := given.flags ++ [switch.key] }

def addValue (given : Given) (key : Key) (text : String) : Except Refusal Given :=
  if (given.value? key).isSome then .error (.repeated key)
  else .ok { given with values := given.values ++ [(key, text)] }

/-- Adds a plain argument, of which at most `most` are allowed. -/
def addPlain (given : Given) (most : Nat) (word : String) : Except Refusal Given :=
  if given.plain.length < most then .ok { given with plain := given.plain ++ [word] }
  else .error (.unknownArgument word)

end Given

/-- What an option is given with, and the option that the next word is the value of. -/
abbrev Reading := Given × Option Key

/-- Reads the letters after a single dash. -/
def readLetters (switches : List Switch) (given : Given) : List Char → Except Refusal Reading
  | [] => .ok (given, none)
  | letter :: rest =>
    match switches.find? (·.letter == some letter) with
    | none =>
      if letter = 'h' then .error .help
      else .error (.unknownArgument (String.ofList ['-', letter]))
    | some switch =>
      match switch.arity with
      | .value =>
        if rest.isEmpty then .ok (given, some switch.key)
        else
          let text := if rest.head? = some '=' then rest.tail else rest
          (given.addValue switch.key (String.ofList text)).map (·, none)
      | .flag => given.addFlag switch >>= fun given ↦ readLetters switches given rest
      | .counted => given.addFlag switch >>= fun given ↦ readLetters switches given rest

/-- Reads what stands after two dashes: a name, and after an equals sign a value. -/
def readName (switches : List Switch) (given : Given) (cs : List Char) : Except Refusal Reading :=
  let name := String.ofList (cs.takeWhile (· != '='))
  let attached := (cs.dropWhile (· != '=')).tail?
  match switches.find? (·.name == some name) with
  | none =>
    if name = "help" && attached.isNone then .error .help
    else .error (.unknownArgument ("--" ++ String.ofList cs))
  | some switch =>
    match switch.arity, attached with
    | .value, some text => (given.addValue switch.key (String.ofList text)).map (·, none)
    | .value, none => .ok (given, some switch.key)
    | _, some _ => .error (.unexpectedValue switch.key)
    | _, none => (given.addFlag switch).map (·, none)

/-- Whether a word is read as an option. A single dash is not. -/
def looksLikeOption (word : String) : Bool :=
  match word.toList with
  | '-' :: _ :: _ => true
  | _ => false

/-- Reads a word that is no value of the option before it. -/
def readWord (switches : List Switch) (most : Nat) (given : Given) (word : String) :
    Except Refusal Reading :=
  match word.toList with
  | '-' :: '-' :: name => readName switches given name
  | '-' :: c :: letters => readLetters switches given (c :: letters)
  | _ => (given.addPlain most word).map (·, none)

/-- Reads words, the first of which may be the value of an option before it. -/
def readWords (switches : List Switch) (most : Nat) :
    Reading → List String → Except Refusal Given
  | (given, none), [] => .ok given
  | (_, some key), [] => .error (.missingValue key)
  | (given, some key), word :: rest =>
    if looksLikeOption word then .error (.missingValue key)
    else given.addValue key word >>= fun given ↦ readWords switches most (given, none) rest
  | (given, none), word :: rest =>
    if word = "--" then rest.foldlM (Given.addPlain · most) given
    else readWord switches most given word >>= fun reading ↦
      readWords switches most reading rest

/-- The decimal digits of `cs` as a number; there has to be one. -/
def decimal? (cs : List Char) : Option Nat :=
  if !cs.isEmpty && cs.all Char.isDigit then
    some (cs.foldl (fun n c ↦ 10 * n + (c.toNat - '0'.toNat)) 0)
  else none

/-- The largest byte index. -/
def largestIndex : Nat := 0xFFFFFFFFFFFFFFFF

/-- The most steps a parse may be allowed. -/
def largestFuel : Nat := 0xFFFFFFFF

/-- A number without a sign or with a plus sign. -/
def readIndex (text : String) : Except Refusal Nat :=
  let digits := if text.toList.head? = some '+' then text.toList.tail else text.toList
  match decimal? digits with
  | some n => if n ≤ largestIndex then .ok n else .error (.invalidValue text)
  | none => .error (.invalidValue text)

/-- A number of steps. It may have a sign; zero is zero under either. -/
def readFuel (text : String) : Except Refusal Nat :=
  let sign := text.toList.head?
  let signed := sign = some '+' || sign = some '-'
  match decimal? (if signed then text.toList.tail else text.toList) with
  | some n =>
    if n ≤ largestFuel && (sign ≠ some '-' || n = 0) then .ok n else .error (.invalidValue text)
  | none => .error (.invalidValue text)

end PegKit.CommandLine
