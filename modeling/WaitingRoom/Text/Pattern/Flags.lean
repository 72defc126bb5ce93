import WaitingRoom.Text.Alphanumeric

/-!
# Settings of a search pattern

* **`Flags`**: the settings that matter to whether a pattern can be used, in force from some place
  of it on.
* **`Flags.parse?`**: reads letters that change settings, **`Flags.change`**: makes the changes.
* **`Flags.skip`**: the text after what is skipped under the settings.

Part of what stands for a library of regular expressions; see `WaitingRoom.Text.Pattern`.
-/

namespace WaitingRoom.Text.Pattern

/-- The settings in force at a place of a pattern. -/
structure Flags where
  /-- Whether small letters and capitals are the same. -/
  ignoresCase : Bool := false
  /-- Whether the characters of all scripts are meant, rather than ASCII and single bytes. -/
  allScripts : Bool := true
  /-- Whether white space and comments are skipped. -/
  isSpaced : Bool := false
deriving DecidableEq, Repr

/-- The text after white space and comments. A comment goes from `#` to the end of its line. -/
def skipSpace : (inComment : Bool) → List Char → List Char
  | _, [] => []
  | true, c :: rest => skipSpace (c ≠ '\n') rest
  | false, c :: rest =>
    if isBlank c then skipSpace false rest
    else if c = '#' then skipSpace true rest
    else c :: rest

namespace Flags

/-- Reads letters for settings up to a colon or a closing parenthesis. They are distinct, and one
dash may stand before those to be cleared. -/
def parse? (text : List Char) : Option (List Char × List Char) :=
  let letters := text.takeWhile fun c => c ≠ ':' && c ≠ ')'
  let isLetter (c : Char) : Bool := c ∈ ['i', 'm', 's', 'U', 'u', 'x', 'R', '-']
  if letters.all isLetter && letters.Nodup && letters.getLast? ≠ some '-' then
    some (letters, text.drop letters.length)
  else none

/-- The settings after letters that set some, and clear those after a dash. -/
def change (flags : Flags) (letters : List Char) : Flags :=
  let cleared := letters.dropWhile (· ≠ '-')
  let setting (letter : Char) (before : Bool) : Bool :=
    if letter ∈ letters then letter ∉ cleared else before
  { ignoresCase := setting 'i' flags.ignoresCase
    allScripts := setting 'u' flags.allScripts
    isSpaced := setting 'x' flags.isSpaced }

/-- The text after what is skipped. -/
def skip (flags : Flags) (text : List Char) : List Char :=
  if flags.isSpaced then skipSpace false text else text

/-- The character found at the start of a text when looking past white space and the mark of a
comment, though not past the comment. -/
def peek? (flags : Flags) (text : List Char) : Option Char :=
  if flags.isSpaced then
    match text.dropWhile isBlank with
    | '#' :: rest => (rest.dropWhile isBlank).head?
    | rest => rest.head?
  else text.head?

end Flags

end WaitingRoom.Text.Pattern
