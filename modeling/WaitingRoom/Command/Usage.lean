import WaitingRoom.Mode
import WaitingRoom.Text.Terminal

/-!
# The command line's contract

* **`Command.Request`**: what a command line asks for.
* **`Command.UsageError`**: why a command line asks for nothing. Its wording is for a terminal and
  sets off the words of the command line; **`Command.UsageError.line`** is the first line of what
  is seen of it elsewhere.
* **`Command.help`**: the text that explains the command line.

The names, the values and the explanations of the arguments are the program's own. The wording of a
refusal is that of the library which reads the command line.
-/

namespace WaitingRoom.Command

/-- What a command line asks for. -/
structure Request where
  /-- The path of the plan. -/
  path : String
  /-- The mode under which people move. -/
  mode : Mode
  /-- Whether only the number of taken seats is wanted. -/
  countOnly : Bool
deriving DecidableEq, Repr

/-- An option that takes no value. -/
inductive Switch where
  | countOnly
  | help
deriving DecidableEq, Repr

/-- The option as it is written. -/
def Switch.name : Switch → String
  | countOnly => "--count-only"
  | help => "--help"

/-- Why a command line is refused. -/
inductive UsageError where
  /-- The mode option has no value. -/
  | modeMissing
  /-- The value of the mode option names no mode. -/
  | modeUnknown (error : UnknownMode)
  /-- The mode option is given twice. -/
  | modeRepeated
  /-- The option that asks for the number only is given twice. -/
  | countOnlyRepeated
  /-- An option that takes no value is given one. -/
  | valueUnexpected (switch : Switch) (value : String)
  /-- An unknown option, or one path too many. -/
  | argumentUnexpected (argument : String)
  /-- The path is empty. -/
  | pathEmpty
  /-- No path is given. -/
  | pathMissing
deriving DecidableEq, Repr

open Text.Terminal (emphasize strip)

/-- What is wrong, with the words of the command line set off. -/
def UsageError.message : UsageError → String
  | modeMissing => "a value is required for '--mode <MODE>' but none was supplied"
  | modeUnknown error =>
    s!"invalid value '{emphasize error.name}' for '--mode <MODE>': {error.message}"
  | modeRepeated => "the argument '--mode <MODE>' cannot be used multiple times"
  | countOnlyRepeated => "the argument '--count-only' cannot be used multiple times"
  | valueUnexpected switch value =>
    s!"unexpected value '{emphasize value}' for '{switch.name}' found; no more were expected"
  | argumentUnexpected argument => s!"unexpected argument '{emphasize argument}' found"
  | pathEmpty => "a value is required for '<INPUT_PATH>' but none was supplied"
  | pathMissing => "the following required arguments were not provided:"

/-- The wording of a refusal for a terminal. -/
def UsageError.text (e : UsageError) : String :=
  let label := emphasize "error:"
  let flag := emphasize "--help"
  s!"{label} {e.message}\n\nFor more information, try '{flag}'.\n"

/-- The first line of a refusal where there is no terminal, without the line feed that ends it. -/
def UsageError.line (e : UsageError) : String :=
  String.ofList ((strip e.text).toList.takeWhile (· ≠ '\n'))

/-- The lines that explain the command line. -/
def helpLines : List String :=
  ["Seat selection simulator",
   "",
   "Usage: seating [OPTIONS] <INPUT_PATH>",
   "",
   "Arguments:",
   "  <INPUT_PATH>  Path of the seat layout, made of '.'(floor) and 'L'(empty seat)",
   "",
   "Options:",
   "  -m, --mode <MODE>  How neighbors are counted: adjacent or visible [default: adjacent]",
   "      --count-only   Print the count of occupied seats only, skip the layout",
   "  -h, --help         Print help"]

/-- The text that explains the command line. -/
def help : String := String.join (helpLines.map (· ++ "\n"))

end WaitingRoom.Command
