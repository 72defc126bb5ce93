/-!
# Log levels

* **`Log.Level`**: how much an event matters.
* **`Log.Level.rank`**: how talkative a log has to be to show it, from `1` to `5`.
* **`Log.verbosity?`**: how talkative a log is to be, by a word in any case or by a number, where
  `0` stands for silence.

Levels and their words are those of a logging library; see `WaitingRoom.Log.Directive`.
-/

namespace WaitingRoom.Log

/-- How much an event matters. -/
inductive Level where
  | error
  | warn
  | info
  | debug
  | trace
deriving DecidableEq, Repr

namespace Level

/-- How talkative a log has to be to show events of the level. -/
def rank : Level → Nat
  | error => 1
  | warn => 2
  | info => 3
  | debug => 4
  | trace => 5

/-- The level's name in a log. -/
def name : Level → String
  | error => "ERROR"
  | warn => "WARN"
  | info => "INFO"
  | debug => "DEBUG"
  | trace => "TRACE"

end Level

/-- A number in decimal digits, after a plus sign or not. -/
def number? (word : List Char) : Option Nat :=
  let digits := if word.head? = some '+' then word.tail else word
  if digits ≠ [] ∧ digits.all Char.isDigit then
    some (digits.foldl (fun sum c => 10 * sum + (c.toNat - '0'.toNat)) 0)
  else none

/-- The rank of the last level that is shown, or `0` for none. -/
def verbosity? (word : List Char) : Option Nat :=
  match number? word with
  | some n => if n ≤ Level.trace.rank then some n else none
  | none =>
    [("off", 0), ("error", 1), ("warn", 2), ("info", 3), ("debug", 4), ("trace", 5)].lookup
      (String.ofList (word.map Char.toLower))

end WaitingRoom.Log
