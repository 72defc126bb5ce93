import WaitingRoom.Command.Usage

/-!
# Reading the command line

* **`Command.Word`**: what a word of the command line looks like before it is known what it means.
* **`Command.Reading`**: the command line as far as it is read. A value is looked at only when the
  next argument begins, so it stays pending until then: `Reading.settle` takes it up, with all that
  can be wrong with it.
* **`Command.Reading.word`**, **`Command.Reading.finish`**: one more word, and the end.
* **`Command.parse`**: a whole command line: a request, a call for help, or a refusal.

Words that cannot be an argument at all are refused at once, before a pending value is looked at.

The program leaves this to a library, of which the module stands for the part that three arguments
need, after its documentation and its answers. No theorem is about it: what is proved of the whole
program holds for any way to understand a command line (`Command.runWith`).
-/

namespace WaitingRoom.Command

/-- A word of the command line by its form. -/
inductive Word where
  /-- The word `--`, after which there are no options. -/
  | separator
  /-- An option by its name, and the value joined to it by `=`. -/
  | long (name : String) (value? : Option String)
  /-- An option by its letter, and what follows the letter. -/
  | short (letter : Char) (rest : List Char)
  /-- Any other word. -/
  | plain
deriving DecidableEq, Repr

/-- The form of a word. -/
def Word.ofString (word : String) : Word :=
  match word.toList with
  | ['-', '-'] => .separator
  | '-' :: '-' :: rest =>
    let name := String.ofList (rest.takeWhile (· ≠ '='))
    match rest.dropWhile (· ≠ '=') with
    | [] => .long name none
    | _ :: value => .long name (some (String.ofList value))
  | '-' :: letter :: rest => .short letter rest
  | _ => .plain

/-- A value that has been read and not yet been looked at. -/
inductive Pending where
  /-- Nothing is pending. -/
  | nothing
  /-- The mode option, whose value may follow. -/
  | modeOption
  /-- The value of the mode option. -/
  | mode (value : String)
  /-- The path. -/
  | path (value : String)
deriving DecidableEq, Repr

/-- Why reading ends before the request is known. -/
inductive Stop where
  /-- The command line asks for help. -/
  | help
  /-- The command line is refused. -/
  | refused (error : UsageError)
deriving DecidableEq, Repr

/-- The command line as far as it is read. -/
structure Reading where
  /-- The mode, once it is given. -/
  mode? : Option Mode := none
  /-- Whether only the number of taken seats is wanted. -/
  countOnly : Bool := false
  /-- The path, once it is given. -/
  path? : Option String := none
  /-- The value that has not been looked at. -/
  pending : Pending := .nothing
  /-- Whether `--` has ended the options. -/
  optionsEnded : Bool := false
deriving DecidableEq, Repr

namespace Reading

/-- Takes up a value of the mode option. -/
def setMode (r : Reading) (value : String) : Except Stop Reading :=
  if r.mode?.isSome then .error (.refused .modeRepeated)
  else
    match Mode.ofName value with
    | .ok mode => .ok { r with mode? := some mode }
    | .error e => .error (.refused (.modeUnknown e))

/-- Takes up the option that asks for the number only. -/
def setCountOnly (r : Reading) : Except Stop Reading :=
  if r.countOnly then .error (.refused .countOnlyRepeated)
  else .ok { r with countOnly := true }

/-- Takes up the path. -/
def setPath (r : Reading) (value : String) : Except Stop Reading :=
  if value = "" then .error (.refused .pathEmpty)
  else .ok { r with path? := some value }

/-- Takes up the pending value. -/
def settle (r : Reading) : Except Stop Reading :=
  let rest := { r with pending := .nothing }
  match r.pending with
  | .nothing => .ok rest
  | .modeOption => .error (.refused .modeMissing)
  | .mode value => rest.setMode value
  | .path value => rest.setPath value

/-- Whether a path has been read. -/
def hasPath (r : Reading) : Bool :=
  r.path?.isSome || match r.pending with
    | .path _ => true
    | _ => false

/-- Reads a word that is no option: the one path. -/
def argument (r : Reading) (word : String) : Except Stop Reading :=
  if r.hasPath then .error (.refused (.argumentUnexpected word))
  else do return { ← r.settle with pending := .path word }

/-- Reads the mode option, with a value joined to it or to follow. -/
def modeOption (r : Reading) : Option String → Except Stop Reading
  | none => do return { ← r.settle with pending := .modeOption }
  | some value => do (← r.settle).setMode value

/-- Reads an option by its name. -/
def long (r : Reading) (name : String) (value? : Option String) : Except Stop Reading :=
  if name = "mode" then r.modeOption value?
  else if name = "count-only" then
    match value? with
    | none => do (← r.settle).setCountOnly
    | some value => .error (.refused (.valueUnexpected .countOnly value))
  else if name = "help" then
    match value? with
    | none => do let _ ← r.settle; .error .help
    | some value => .error (.refused (.valueUnexpected .help value))
  else .error (.refused (.argumentUnexpected s!"--{name}"))

/-- Reads an option by its letter. What follows `m` is its value, less one `=` before it. -/
def short (r : Reading) (letter : Char) (rest : List Char) : Except Stop Reading :=
  if letter = 'm' then
    match rest with
    | [] => r.modeOption none
    | '=' :: value => r.modeOption (some (String.ofList value))
    | value => r.modeOption (some (String.ofList value))
  else if letter = 'h' then do let _ ← r.settle; .error .help
  else .error (.refused (.argumentUnexpected s!"-{letter}"))

/-- Reads one word. -/
def word (r : Reading) (word : String) : Except Stop Reading :=
  if r.optionsEnded then r.argument word
  else
    match Word.ofString word with
    | .separator => .ok { r with optionsEnded := true }
    | .long name value? => r.long name value?
    | .short letter rest => r.short letter rest
    | .plain =>
      if r.pending = .modeOption then .ok { r with pending := .mode word }
      else r.argument word

/-- The request, when all words have been read. -/
def finish (r : Reading) : Except Stop Request := do
  let r ← r.settle
  match r.path? with
  | none => .error (.refused .pathMissing)
  | some path => .ok { path, mode := r.mode?.getD .adjacent, countOnly := r.countOnly }

end Reading

/-- Reads a command line, given by its words after the program's name. -/
def parse (words : List String) : Except Stop Request := do
  (← words.foldlM Reading.word {}).finish

end WaitingRoom.Command
