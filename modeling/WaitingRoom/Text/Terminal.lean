/-!
# Control sequences of a terminal

A text written for a terminal holds control sequences: an escape character, and what belongs to it.
Where there is no terminal they have to go, and with them every other control character that is not
white space.

* **`Terminal.emphasize`**: a text between sequences that set it off.
* **`Terminal.State`**: what the characters read so far have opened: nothing, a short sequence, a
  sequence with parameters, or a string that the terminal keeps to itself.
* **`Terminal.State.next`**, **`Terminal.State.shows`**: what a character does to that, and whether
  it is seen.
* **`Terminal.strip`**: the text that is seen. White space inside a sequence is seen, and what
  follows it is read as if nothing were open until the next hidden character.

The program leaves this to the library that reads its command line. The module stands for what that
library does when standard error is no terminal, after its answers. No theorem is about it.
-/

namespace WaitingRoom.Text.Terminal

/-- The text set off from its surroundings. -/
def emphasize (text : String) : String := "\x1b[1m" ++ text ++ "\x1b[0m"

/-- What the characters read so far have opened. -/
inductive State where
  /-- Nothing is open. -/
  | ground
  /-- An escape character was read. -/
  | escape
  /-- An escape character and characters that put off its end. -/
  | escapeTail
  /-- A sequence with parameters. -/
  | control
  /-- A command to the system, ended by a bell. -/
  | command
  /-- A device string, of which nothing was read. -/
  | device
  /-- A device string with parameters. -/
  | deviceNumbers
  /-- A device string with characters that put off its data. -/
  | deviceTail
  /-- A string for the device or for nobody, ended by a string terminator. -/
  | string
deriving DecidableEq, Repr

/-- Whether the code of a character lies between two others. -/
def between (first last : Nat) (c : Char) : Bool := first ≤ c.toNat && c.toNat ≤ last

/-- Whether one of the bytes of a character ends a string. -/
def endsString (c : Char) : Bool := (String.singleton c).toUTF8.data.contains 0x9c

namespace State

/-- What is open after a character. -/
def next (s : State) (c : Char) : State :=
  if c = '\x1b' then escape
  else if c = '\x18' || c = '\x1a' then ground
  else
    match s with
    | ground => ground
    | escape =>
      if between 0x20 0x2f c then escapeTail
      else if c = '[' then control
      else if c = ']' then command
      else if c = 'P' then device
      else if c = 'X' || c = '^' || c = '_' then string
      else if between 0x30 0x7e c then ground
      else escape
    | escapeTail => if between 0x30 0x7e c then ground else escapeTail
    | control => if between 0x40 0x7e c then ground else control
    | command => if c = '\x07' then ground else command
    | device =>
      if between 0x20 0x2f c then deviceTail
      else if between 0x30 0x3f c then deviceNumbers
      else if between 0x40 0x7e c then string
      else device
    | deviceNumbers =>
      if between 0x20 0x2f c then deviceTail
      else if between 0x3c 0x7e c then string
      else deviceNumbers
    | deviceTail => if between 0x30 0x7e c then string else deviceTail
    | string => if endsString c then ground else string

/-- Whether a character is a control character that takes up room in a text. -/
def isSpacing (c : Char) : Bool := c = '\t' || c = '\n' || c = '\x0c' || c = '\r'

/-- Whether a character is seen. -/
def shows (s : State) (c : Char) : Bool :=
  match s with
  | ground => isSpacing c || 0x20 ≤ c.toNat && c ≠ '\x7f'
  | escape | escapeTail | control => isSpacing c
  | command | device | deviceNumbers | deviceTail | string => false

end State

/-- The characters of a text that are seen. In a `run` of seen characters nothing counts as open. -/
def visible (s : State) (run : Bool) : List Char → List Char
  | [] => []
  | c :: rest =>
    if (if run then State.ground else s).shows c then
      c :: visible (if 0x7f < c.toNat then .ground else if run then s else s.next c) true rest
    else visible (s.next c) false rest

/-- The text that is seen. -/
def strip (text : String) : String :=
  String.ofList (visible .ground false text.toList)

end WaitingRoom.Text.Terminal
