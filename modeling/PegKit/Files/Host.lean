/-!
# Hosts

What a program may ask of the machine it runs on: files by their path, and the standard input. All
else is computed, so a program can run over real files as well as over a value.
-/

namespace PegKit

/-- Why a file could not be read or written. -/
inductive FileError
  | notFound
  | isADirectory
  | notADirectory
  | invalidText
  | nameTooLong
  | nulInName
  | other (text : String)
  deriving DecidableEq, Repr

def FileError.message : FileError → String
  | .notFound => "No such file or directory (os error 2)"
  | .isADirectory => "Is a directory (os error 21)"
  | .notADirectory => "Not a directory (os error 20)"
  | .invalidText => "stream did not contain valid UTF-8"
  | .nameTooLong => "File name too long (os error 36)"
  | .nulInName => "file name contained an unexpected NUL byte"
  | .other text => text

/-- The text in UTF-8, if it is that. -/
def decodeText (bytes : ByteArray) : Except FileError String :=
  match String.fromUTF8? bytes with
  | some text => .ok text
  | none => .error .invalidText

class Host (m : Type → Type) where
  /-- Whether a path leads to a file. -/
  isFile : String → m Bool
  readFile : String → m (Except FileError String)
  /-- Makes a file, or replaces what is in it. -/
  writeFile : String → String → m (Except FileError Unit)
  /-- What is left of the standard input. -/
  readInput : m (Except FileError String)

/-- A computation that may break off asks what it is made from. -/
instance {m : Type → Type} [Monad m] [Host m] {ε : Type} : Host (ExceptT ε m) where
  isFile path := ExceptT.lift (Host.isFile path)
  readFile path := ExceptT.lift (Host.readFile path)
  writeFile path text := ExceptT.lift (Host.writeFile path text)
  readInput := ExceptT.lift Host.readInput

end PegKit
