import WaitingRoom.Text.Pattern.Flags

/-!
# Least parts of a search pattern

* **`Atom`**: a part of a pattern without parts of its own.
* **`Atom.escape?`**: reads an atom after a backslash.
* **`Atom.isUsable`**, **`Atom.isItem`**: whether an atom can be used under some settings, in a row
  of parts and in a set.

No tables of the scripts are at hand. So where the characters of all scripts are meant, small
letters and capitals cannot be paired, and it is not known what is a digit, a blank or a word. Where
they are not, nothing may stand for a part of a character beyond ASCII.

Part of what stands for a library of regular expressions; see `WaitingRoom.Text.Pattern`.
-/

namespace WaitingRoom.Text.Pattern

/-- A part of a pattern without parts of its own. -/
inductive Atom where
  /-- The character with a code, which may have been given as a byte. -/
  | char (code : Nat) (isByte : Bool)
  /-- The digits, the blanks or the characters of words, or else all but these. -/
  | charClass (isNegated : Bool)
  /-- The start or end of the text or of a line. -/
  | textEdge
  /-- The start or end of a word. -/
  | wordEdge
deriving DecidableEq, Repr

namespace Atom

/-- The character itself. -/
def ofChar (c : Char) : Atom := char c.toNat false

/-- The value of a hexadecimal digit. -/
def hexDigit? (c : Char) : Option Nat :=
  if c.isDigit then some (c.toNat - '0'.toNat)
  else if 'a' ≤ c.toLower && c.toLower ≤ 'f' then some (c.toLower.toNat - 'a'.toNat + 10)
  else none

/-- Reads the last digits of a character given by hexadecimal digits, the earlier of which have the
value `code`. -/
def hex? (flags : Flags) (isByte : Bool) :
    (digits code : Nat) → List Char → Option (Atom × List Char)
  | 0, code, text => if code.isValidChar then some (char code isByte, text) else none
  | n + 1, code, text =>
    match flags.skip text with
    | [] => none
    | c :: rest =>
      match hexDigit? c with
      | some digit => hex? flags isByte n (16 * code + digit) rest
      | none => none

/-- Reads what follows a backslash. No property of characters is known by a name. -/
def escape? (flags : Flags) : List Char → Option (Atom × List Char)
  | [] => none
  | c :: rest =>
    if c = 'x' then hex? flags true 2 0 rest
    else if c = 'u' then hex? flags false 4 0 rest
    else if c = 'U' then hex? flags false 8 0 rest
    else if c ∈ ['d', 's', 'w'] then some (charClass false, rest)
    else if c ∈ ['D', 'S', 'W'] then some (charClass true, rest)
    else if c ∈ ['A', 'z'] then some (textEdge, rest)
    else if c ∈ ['b', 'B', '<', '>'] then some (wordEdge, rest)
    else
      match [('a', 7), ('t', 9), ('n', 10), ('v', 11), ('f', 12), ('r', 13)].lookup c with
      | some code => some (char code false, rest)
      | none => if 0x7f < c.toNat || c.isAlphanum then none else some (ofChar c, rest)

/-- Whether an atom can be used in a row of parts. -/
def isUsable (flags : Flags) : Atom → Bool
  | char code isByte =>
    if flags.allScripts then !flags.ignoresCase else !isByte || code < 0x80
  | charClass isNegated => !flags.allScripts && !isNegated
  | textEdge => true
  | wordEdge => !flags.allScripts

/-- Whether an atom can be an item of a set. -/
def isItem (flags : Flags) : Atom → Bool
  | char code _ => if flags.allScripts then !flags.ignoresCase else code < 0x80
  | charClass isNegated => !flags.allScripts && !isNegated
  | textEdge | wordEdge => false

end Atom

end WaitingRoom.Text.Pattern
