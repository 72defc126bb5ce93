import WaitingRoom.Command.Arguments
import WaitingRoom.Layout.Load
import WaitingRoom.Log.Line

/-!
# Answering a command line

* **`Command.Response`**: what the program leaves behind.
* **`Command.respond`**: the answer to a request, given what the system found at its path.
* **`Command.runWith`**: the whole program, given how a command line is understood and how files are
  read. The command line is checked before any file is opened. Only a room that never comes to rest
  gets no answer.
* **`Command.run`**: the same with `Command.parse`.
-/

namespace WaitingRoom.Command

/-- What the program leaves behind. -/
structure Response where
  /-- The exit code. -/
  exit : Nat
  /-- The text on standard output. -/
  output : String := ""
  /-- The text on standard error. -/
  errors : String := ""
deriving DecidableEq, Repr

namespace Response

/-- The response to a command line that is refused. -/
def ofUsageError (e : UsageError) : Response where
  exit := 2
  errors := s!"{e.line}\n"

/-- The response to a path from which no plan can be loaded. -/
def ofLoadError (path : String) (e : LoadError) : Response where
  exit := 1
  errors :=
    s!"Error: Failed to read map of seats layout from given input file({path}).\n\n" ++
      s!"Caused by:\n    {e.message}\n"

/-- The response that shows a room at rest, or only the number of taken seats. -/
def ofOutcome (countOnly : Bool) (outcome : Outcome) (log : List String) : Response where
  exit := 0
  output := if countOnly then s!"{outcome.occupied}\n" else s!"{outcome.text}\n"
  errors := String.join (log.map (· ++ "\n"))

/-- The response to a call for help. -/
def ofHelp : Response where
  exit := 0
  output := help

end Response

/-- The answer to a request, given what the system found at its path. -/
def respond (filter : Log.Filter) (request : Request) (content : Except ReadFailure ByteArray) :
    Option Response :=
  match Layout.load content with
  | .error e => some (.ofLoadError request.path e)
  | .ok g =>
    (g.settle request.mode).map fun (outcome, events) =>
      .ofOutcome request.countOnly outcome (Log.lines filter events)

/-- The whole program: a way to understand the words of a command line, a way to read the file at a
path, and the words. -/
def runWith {m : Type → Type} [Monad m] (understand : List String → Except Stop Request)
    (read : String → m (Except ReadFailure ByteArray)) (filter : Log.Filter) (words : List String) :
    m (Option Response) :=
  match understand words with
  | .error .help => pure (some .ofHelp)
  | .error (.refused e) => pure (some (.ofUsageError e))
  | .ok request => respond filter request <$> read request.path

/-- The program with the command line that it documents. -/
def run {m : Type → Type} [Monad m] (read : String → m (Except ReadFailure ByteArray))
    (filter : Log.Filter) (words : List String) : m (Option Response) :=
  runWith parse read filter words

end WaitingRoom.Command
