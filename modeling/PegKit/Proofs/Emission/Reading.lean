import PegKit.Program.Builder

/-!
# Reading generated code back

A reader for the body of a function that builds a program. The text is cut into words, literals and
marks, with literals decoded as the generated language has them; the tokens are read as statements
that call methods of a builder; and the statements are carried out on a builder of their own, with
the results under the names that they are bound to.

Words are names, numbers and whole paths, so the colons of a path belong to its word.
-/

namespace PegKit.Emission.Reading

/-! ## Tokens -/

inductive Token
  | word (text : String)
  /-- A literal between double quotes, decoded. -/
  | text (value : String)
  /-- A literal between single quotes, decoded. -/
  | character (value : Char)
  | mark (c : Char)
  deriving DecidableEq, Repr

/-- Whether `c` may stand in a name or between the names of a path. -/
def isPathChar (c : Char) : Bool :=
  c.isAlphanum || c == '_' || c == '#' || c == ':' || 0x80 ≤ c.toNat

/-- What has been read of the token in progress. In a literal, `read` holds the decoded characters
before the place. -/
inductive Mode
  | between
  | word (read : List Char)
  | literal (quote : Char) (read : List Char)
  /-- After a backslash. -/
  | escape (quote : Char) (read : List Char)
  /-- After `\x`. -/
  | byte (quote : Char) (read digits : List Char)
  /-- After `\u`. -/
  | brace (quote : Char) (read : List Char)
  /-- After `\u` and an opening brace. -/
  | code (quote : Char) (read digits : List Char)
  deriving DecidableEq, Repr

/-- The character with the code that hexadecimal digits write, at most `size` of them. -/
def scalar? (size : Nat) (digits : List Char) : Option Char :=
  if digits.isEmpty || size < digits.length then none
  else (Terminal.hexNumber? 0 digits).bind fun n ↦
    if n.isValidChar then some (Char.ofNat n) else none

/-- A token that `c` begins, or is. -/
def begin (c : Char) : List Token × Mode :=
  if c = ' ' || c = '\n' then ([], .between)
  else if c = '"' || c = '\'' then ([], .literal c [])
  else if isPathChar c then ([], .word [c])
  else ([.mark c], .between)

/-- The literal that ends at its second quote. -/
def literal? (quote : Char) (read : List Char) : Option Token :=
  if quote = '"' then some (.text (String.ofList read))
  else match read with
    | [c] => some (.character c)
    | _ => none

def step : Mode → Char → Option (List Token × Mode)
  | .between, c => some (begin c)
  | .word read, c =>
    if isPathChar c then some ([], .word (read ++ [c]))
    else some (.word (String.ofList read) :: (begin c).1, (begin c).2)
  | .literal quote read, c =>
    if c = quote then (literal? quote read).map fun token ↦ ([token], .between)
    else if c = '\\' then some ([], .escape quote read)
    else some ([], .literal quote (read ++ [c]))
  | .escape quote read, c =>
    if c = 'x' then some ([], .byte quote read [])
    else if c = 'u' then some ([], .brace quote read)
    else (Terminal.escapedChar? c).map fun value ↦ ([], .literal quote (read ++ [value]))
  | .byte quote read [], c => some ([], .byte quote read [c])
  | .byte quote read digits, c =>
    (scalar? 2 (digits ++ [c])).bind fun value ↦
      if value.toNat < 0x80 then some ([], .literal quote (read ++ [value])) else none
  | .brace quote read, c => if c = '{' then some ([], .code quote read []) else none
  | .code quote read digits, c =>
    if c = '}' then (scalar? 6 digits).map fun value ↦ ([], .literal quote (read ++ [value]))
    else some ([], .code quote read (digits ++ [c]))

/-- The tokens that end in a text, and what is left in progress. -/
def scan : Mode → List Char → Option (List Token × Mode)
  | mode, [] => some ([], mode)
  | mode, c :: cs =>
    (step mode c).bind fun first ↦
      (scan first.2 cs).map fun rest ↦ (first.1 ++ rest.1, rest.2)

/-- The tokens of a text that ends between two of them. -/
def tokens? (text : String) : Option (List Token) :=
  match scan .between text.toList with
  | some (tokens, .between) => some tokens
  | _ => none

/-! ## Statements -/

inductive Argument
  | text (value : String)
  /-- A name or a number. -/
  | word (text : String)
  /-- A list of names. -/
  | words (texts : List String)
  | charClass (text : String) (ranges : List CharRange) (negated : String)
  deriving DecidableEq, Repr

/-- A call of a method. -/
structure Invocation where
  receiver : String
  method : String
  arguments : List Argument
  deriving DecidableEq, Repr

inductive Line
  /-- A builder with a program name, bound to a variable. -/
  | create (target name : String)
  /-- A call whose result is bound to a variable. -/
  | bind (target : String) (call : Invocation)
  | perform (call : Invocation)
  /-- The call at the end, whose result is that of the function. -/
  | result (call : Invocation)
  deriving DecidableEq, Repr

/-- Whether the path `path` leads to `item` of some library. -/
def leadsTo (path item : String) : Bool :=
  item.toList.isSuffixOf path.toList

/-- Names up to a closing bracket. -/
def readWords : List Token → Option (List String × List Token)
  | .mark ']' :: rest => some ([], rest)
  | .word text :: .mark ']' :: rest => some ([text], rest)
  | .word text :: .mark ',' :: rest =>
    (readWords rest).map fun found ↦ (text :: found.1, found.2)
  | _ => none

/-- Ranges of a class up to a closing bracket. -/
def readRanges : List Token → Option (List CharRange × List Token)
  | .mark ']' :: rest => some ([], rest)
  | .word path :: .mark '(' :: .character first :: .mark ',' :: .character last :: .mark ')' ::
      .mark ']' :: rest =>
    if leadsTo path "::ir::ClassRange::new" then some ([⟨first, last⟩], rest) else none
  | .word path :: .mark '(' :: .character first :: .mark ',' :: .character last :: .mark ')' ::
      .mark ',' :: rest =>
    if leadsTo path "::ir::ClassRange::new" then
      (readRanges rest).map fun found ↦ (⟨first, last⟩ :: found.1, found.2)
    else none
  | _ => none

/-- What stands in the call that makes a class after its text and the bracket of its ranges. -/
def readClass (text : String) (tokens : List Token) : Option (Argument × List Token) :=
  match readRanges tokens with
  | some (ranges, .mark ',' :: .word negated :: .mark ')' :: rest) =>
    some (.charClass text ranges negated, rest)
  | _ => none

def readArgument : List Token → Option (Argument × List Token)
  | .text value :: rest => some (.text value, rest)
  | .word name :: .mark '!' :: .mark '[' :: rest =>
    if name = "vec" then (readWords rest).map fun found ↦ (.words found.1, found.2) else none
  | .word path :: .mark '(' :: .text text :: .mark ',' :: .word name :: .mark '!' :: .mark '[' ::
      rest =>
    if leadsTo path "::ir::CharClass::new" && name == "vec" then readClass text rest else none
  | .word text :: rest => some (.word text, rest)
  | _ => none

/-- Up to two arguments and a closing parenthesis. -/
def readArguments : List Token → Option (List Argument × List Token)
  | .mark ')' :: rest => some ([], rest)
  | tokens =>
    match readArgument tokens with
    | some (first, .mark ')' :: rest) => some ([first], rest)
    | some (first, .mark ',' :: rest) =>
      match readArgument rest with
      | some (second, .mark ')' :: rest) => some ([first, second], rest)
      | _ => none
    | _ => none

def readInvocation : List Token → Option (Invocation × List Token)
  | .word receiver :: .mark '.' :: .word method :: .mark '(' :: rest =>
    (readArguments rest).map fun found ↦ (⟨receiver, method, found.1⟩, found.2)
  | _ => none

/-- A call, which ends a statement or the function. -/
def readCall (tokens : List Token) : Option (Line × List Token) :=
  match readInvocation tokens with
  | some (call, .mark ';' :: rest) => some (.perform call, rest)
  | some (call, []) => some (.result call, [])
  | _ => none

/-- What a variable is bound to. -/
def readBinding (target : String) : List Token → Option (Line × List Token)
  | .word path :: .mark '(' :: .text name :: .mark ')' :: .mark ';' :: rest =>
    if leadsTo path "::ir::ProgramBuilder::new" then some (.create target name, rest) else none
  | tokens =>
    match readInvocation tokens with
    | some (call, .mark ';' :: rest) => some (.bind target call, rest)
    | _ => none

def readLine : List Token → Option (Line × List Token)
  | .word first :: .word target :: .mark '=' :: rest =>
    if first = "let" then readBinding target rest else none
  | .word first :: .word second :: .word target :: .mark '=' :: rest =>
    if first = "let" ∧ second = "mut" then readBinding target rest else none
  | tokens => readCall tokens

/-- All statements, at most `bound` of them. -/
def readLines : Nat → List Token → Option (List Line)
  | _, [] => some []
  | 0, _ => none
  | bound + 1, tokens =>
    (readLine tokens).bind fun first ↦ (readLines bound first.2).map (first.1 :: ·)

/-! ## Carrying statements out -/

/-- The number that decimal digits write. -/
def number? (text : String) : Option Nat :=
  if text.toList.all Char.isDigit && !text.isEmpty then some (Nat.ofDigitChars 10 text.toList 0)
  else none

def flag? (text : String) : Option Bool :=
  if text = "true" then some true else if text = "false" then some false else none

/-- What a builder gives out. -/
inductive Value
  | rule (id : RuleId)
  | op (id : OpId)
  deriving DecidableEq, Repr

/-- A builder in a variable, with the values of the other variables. -/
structure Session where
  target : String
  builder : Builder
  values : String → Option Value

namespace Session

def rule? (session : Session) (name : String) : Option RuleId :=
  match session.values name with
  | some (.rule id) => some id
  | _ => none

def op? (session : Session) (name : String) : Option OpId :=
  match session.values name with
  | some (.op id) => some id
  | _ => none

def ops? (session : Session) : List String → Option (List OpId)
  | [] => some []
  | name :: rest =>
    (session.op? name).bind fun id ↦ (session.ops? rest).map (id :: ·)

/-- The step of building that adds an operation. -/
def addition? (session : Session) : String → List Argument → Option (Builder.Step OpId)
  | "terminal", [.text text] => some (Builder.add (.terminal text))
  | "class", [.charClass text ranges negated] =>
    (flag? negated).map fun negated ↦
      Builder.add (.charClass (.ofRangesAs text ranges negated))
  | "any_char", [] => some (Builder.add .anyChar)
  | "sequence", [.words items] => (session.ops? items).map fun ids ↦ Builder.add (.sequence ids)
  | "choice", [.words items] => (session.ops? items).map fun ids ↦ Builder.add (.choice ids)
  | "repetition", [.word inner, .word least] =>
    (session.op? inner).bind fun inner ↦
      (number? least).map fun least ↦ Builder.add (.repetition inner least)
  | "optional", [.word inner] =>
    (session.op? inner).map fun inner ↦ Builder.add (.optional inner)
  | "lookahead", [.word inner] =>
    (session.op? inner).map fun inner ↦ Builder.add (.lookahead inner)
  | "negative_lookahead", [.word inner] =>
    (session.op? inner).map fun inner ↦ Builder.add (.negativeLookahead inner)
  | "predicate", [.text hook, .word negated] =>
    (flag? negated).map fun negated ↦ Builder.predicate hook negated
  | "label", [.text name, .word inner] =>
    (session.op? inner).map fun inner ↦ Builder.label name inner
  | "call", [.word rule] => (session.rule? rule).map fun rule ↦ Builder.add (.call rule)
  | _, _ => none

/-- The value of a call that gives one, and the builder after it. -/
def evaluate? (session : Session) (call : Invocation) : Option (Value × Builder) :=
  if call.receiver = session.target then
    match call.method, call.arguments with
    | "declare_rule", [.text name] =>
      let (id, builder) := (Builder.declare name).run session.builder
      some (.rule id, builder)
    | method, arguments =>
      (session.addition? method arguments).map fun addition ↦
        let (id, builder) := addition.run session.builder
        (.op id, builder)
  else none

/-- The builder after a call that gives no value. -/
def perform? (session : Session) (call : Invocation) : Option Builder :=
  if call.receiver = session.target then
    match call.method, call.arguments with
    | "leading_comment", [.text line] => some ((Builder.comment line).run session.builder).2
    | "define_rule", [.word rule, .word body] =>
      (session.rule? rule).bind fun rule ↦
        (session.op? body).map fun body ↦ ((Builder.define rule body).run session.builder).2
    | _, _ => none
  else none

/-- Carries out statements after the one that makes the builder. -/
def run (session : Session) : List Line → Option (Except BuildError Program)
  | [.result call] =>
    if call = ⟨session.target, "finish", []⟩ then some session.builder.finish else none
  | .bind target call :: rest =>
    (session.evaluate? call).bind fun found ↦
      run { session with
        builder := found.2
        values := fun name ↦ if name = target then some found.1 else session.values name } rest
  | .perform call :: rest =>
    (session.perform? call).bind fun builder ↦ run { session with builder } rest
  | _ => none

end Session

/-- What the body of a function that builds a program returns, unless it cannot be read. -/
def rebuild (body : String) : Option (Except BuildError Program) :=
  (tokens? body).bind fun tokens ↦
    match readLines tokens.length tokens with
    | some (.create target name :: rest) =>
      Session.run ⟨target, .new name, fun _ ↦ none⟩ rest
    | _ => none

end PegKit.Emission.Reading
