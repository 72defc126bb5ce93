import WaitingRoom.Layout.Builder

/-!
# Loading a layout from a file

* **`ReadFailure`**: why a file gives no text.
* **`LoadError`**: why a file gives no layout: it cannot be read, or a row is refused.
* **`Layout.ofBytes`**: reads a plan from the bytes of a file. All lines are decoded before the
  first row is looked at, so bad text anywhere goes before a bad row.
-/

namespace WaitingRoom

/-- Why a file gives no text. -/
inductive ReadFailure where
  /-- There is no such file. -/
  | notFound
  /-- The path leads to a directory. -/
  | isDirectory
  /-- The bytes are no UTF-8. -/
  | notText
  /-- Any other failure of the system, in its own words. -/
  | other (description : String)
deriving DecidableEq, Repr

/-- The wording of a failure to read. -/
def ReadFailure.message : ReadFailure → String
  | notFound => "No such file or directory (os error 2)"
  | isDirectory => "Is a directory (os error 21)"
  | notText => "stream did not contain valid UTF-8"
  | other description => description

/-- Why a file gives no layout. -/
inductive LoadError where
  /-- There is no text to read. -/
  | unreadable (failure : ReadFailure)
  /-- A row of the plan is refused. -/
  | refused (error : RowError)
deriving DecidableEq, Repr

/-- The wording of a failure to load. -/
def LoadError.message : LoadError → String
  | unreadable failure => s!"I/O error: {failure.message}"
  | refused error => error.message

namespace Layout

/-- Reads a plan from the bytes of a file. -/
def ofBytes (bytes : ByteArray) : Except LoadError Layout :=
  match (Text.byteLines bytes).mapM String.fromUTF8? with
  | none => .error (.unreadable .notText)
  | some lines => (ofLines lines).mapError .refused

/-- Reads a plan from what the system gave for a file. -/
def load (content : Except ReadFailure ByteArray) : Except LoadError Layout :=
  match content with
  | .ok bytes => ofBytes bytes
  | .error failure => .error (.unreadable failure)

end Layout

end WaitingRoom
