import PegKit.CommandLine.Run

/-!
# The program

Runs the command line over the real files and streams.
-/

namespace PegKit

/-- What an error of the system means for a file. -/
def FileError.ofSystem (error : IO.Error) : FileError :=
  match error with
  | .noFileOrDirectory _ _ _ => .notFound
  | .inappropriateType _ 20 _ => .notADirectory
  | .inappropriateType _ 21 _ => .isADirectory
  | unusual => .other (toString unusual)

/-- The bytes of a file. -/
def readSystemFile (path : String) : IO (Except FileError ByteArray) := do
  try
    return .ok (← IO.FS.readBinFile path)
  catch error => return .error (.ofSystem error)

/-- All bytes that a stream still has. -/
partial def drain (stream : IO.FS.Stream) (before : ByteArray) : IO ByteArray := do
  let more ← stream.read 65536
  if more.isEmpty then return before else drain stream (before ++ more)

instance : Host IO where
  isFile path := do
    match ← readSystemFile path with
    | .ok _ => return true
    | .error .notFound => return false
    | .error .isADirectory => return false
    | .error .notADirectory => return false
    | .error _ => return true
  readFile path := return (← readSystemFile path) >>= decodeText
  writeFile path text := do
    try
      IO.FS.writeFile path text
      return .ok ()
    catch error => return .error (.ofSystem error)
  readInput := return decodeText (← drain (← IO.getStdin) ByteArray.empty)

end PegKit

open PegKit in
def main (words : List String) : IO UInt32 := do
  match CommandLine.Command.ofWords words with
  | .error refusal =>
    if refusal = .help then
      IO.print CommandLine.usageText
      return 0
    else
      IO.eprint CommandLine.usageText
      return 2
  | .ok command =>
    let outcome ← CommandLine.run command
    IO.print outcome.stdout
    IO.eprint outcome.stderr
    return outcome.status.toUInt32
