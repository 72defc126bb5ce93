import WaitingRoom.Command.Response

/-!
# The program

The outer layer of the command line: it reads the file that a request names, prints the response
and returns its exit code. What is read and printed is decided in `WaitingRoom.Command.Response`.
-/

namespace WaitingRoom

/-- The environment variable that holds the log filter. -/
def filterVariable : String := "RUST_LOG"

/-- Why the system could not read a file. -/
def ReadFailure.ofSystem : IO.Error → ReadFailure
  | .noFileOrDirectory .. => .notFound
  | .inappropriateType _ 21 _ => .isDirectory
  | .permissionDenied _ code details => .other s!"{details} (os error {code})"
  | e => .other (toString e)

/-- What the system finds at a path. -/
def readFile (path : String) : IO (Except ReadFailure ByteArray) := do
  match ← (IO.FS.readBinFile path).toBaseIO with
  | .ok bytes => return .ok bytes
  | .error e => return .error (.ofSystem e)

end WaitingRoom

/-- Answers the command line. -/
def main (words : List String) : IO UInt32 := do
  let filter := WaitingRoom.Log.Filter.ofSetting (← IO.getEnv WaitingRoom.filterVariable)
  match ← WaitingRoom.Command.run WaitingRoom.readFile filter words with
  | none => return 1
  | some response =>
    IO.eprint response.errors
    IO.print response.output
    return response.exit.toUInt32
