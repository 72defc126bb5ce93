import WaitingRoom.Log.Level
import WaitingRoom.Text.Bytes
import WaitingRoom.Text.Pattern

/-!
# Log directives

A directive says how talkative a log is for some events. It is one of

* a level, for all events;
* a target, a scope between brackets, or both, and perhaps `=` and a level.

An event is meant when its target begins with that of the directive and it lies in the scope. A
scope is `[span]`, `[span{field}]` or `[{field}]`, where a field may come with a value to look for.

* **`Log.Scope`**: what a scope asks for. Events here lie in no span, so a scope with a span, or
  with the value of a span's field, holds none of them; a lone field's name holds the events with
  that field.
* **`Log.Directive.parse?`**: reads a directive. White space around it does not count when its
  parts are told apart, and yet the parts are cut out of the full text, each at the place, in bytes,
  that it has in the trimmed one. So white space at the end belongs to the last word, unless that is
  a scope, and white space at the front puts every part out of place. A part whose place is inside
  of a character cannot be read.
* **`Log.Directive.atLeast`**: the order of precision: by target, then by scope.

The program leaves directives to a logging library. This module stands for what that library does with
the text of a setting, after its documentation and its answers, and so do `WaitingRoom.Log.Level` and
`WaitingRoom.Log.Filter`. No theorem is about them: those about the program hold for any filter.
-/

namespace WaitingRoom.Log

/-- Which events of its targets a directive is about. -/
inductive Scope where
  /-- All events. -/
  | all
  /-- The events with a field. -/
  | field (name : String)
  /-- The events inside of some spans. -/
  | spans
deriving DecidableEq, Repr

/-- How talkative a log is for some events. -/
structure Directive where
  /-- How the targets begin, if that matters. -/
  target? : Option String := none
  /-- The events of those targets. -/
  scope : Scope := .all
  /-- The rank of the last level shown, or `0` for none. -/
  verbosity : Nat := Level.trace.rank
deriving DecidableEq, Repr

namespace Directive

/-- Whether a target may begin with the character. -/
def isTargetStart (c : Char) : Bool :=
  c == '-' || c == ':' || c == '_' || Text.isAlphanumeric c

/-- Whether a text is a decimal number, with a fraction or a power of ten, or one of the words for
infinity and for no number. -/
def isNumeral (text : List Char) : Bool :=
  let whole := text.takeWhile Char.isDigit
  let rest := text.drop whole.length
  let (fraction, rest) := match rest with
    | '.' :: rest => (rest.takeWhile Char.isDigit, rest.dropWhile Char.isDigit)
    | _ => ([], rest)
  let isPower (power : List Char) : Bool :=
    let digits := if power.head? = some '+' || power.head? = some '-' then power.tail else power
    digits ≠ [] && digits.all Char.isDigit
  let endsWell := match rest with
    | [] => true
    | e :: power => (e == 'e' || e == 'E') && isPower power
  (whole ≠ [] || fraction ≠ []) && endsWell ||
    String.ofList (text.map Char.toLower) ∈ ["inf", "infinity", "nan"]

/-- Whether a text can be looked for in a field: a number with a sign, or a search pattern, to which
all other numbers belong. -/
def isValue (text : List Char) : Bool :=
  text.head? == some '+' && isNumeral text.tail || Text.Pattern.isWellFormed text

/-- The scope of a field, with the value to look for after `=`. -/
def fieldScope? (text : List Char) : Option Scope :=
  match text.splitOn '=' with
  | [name] => if name = [] then none else some (.field (String.ofList name))
  | _ :: value :: _ => if isValue value then some .spans else none
  | [] => none

/-- Reads a scope after its opening bracket. The trimmed text goes on with `inner` at the place
`start` of `text`; the result has what follows the closing bracket, and its place. -/
def scope? (text inner : List Char) (start : Nat) : Option (Scope × List Char × Nat) :=
  let span := inner.takeWhile fun c => c ≠ ']' && c ≠ '{'
  let stop := start + Text.byteSize span
  match inner.drop span.length with
  | ']' :: rest => some (.spans, rest, stop + 1)
  | '{' :: inner =>
    let field := inner.takeWhile (· ≠ '}')
    let size := Text.byteSize field
    match inner.drop field.length with
    | '}' :: ']' :: rest => do
      let scope ← fieldScope? (← Text.slice? text (stop + 1) size)
      return (if span = [] then scope else .spans, rest, stop + 1 + size + 2)
    | _ => none
  | _ => none

/-- Reads a level at a place of the text, after a target or scope or both. -/
def withLevel? (target? : Option String) (scope : Scope) (text : List Char) (place : Nat) :
    Option Directive := do
  let (_, level) ← Text.splitAtByte? place text
  if level = [] then return { target?, scope }
  else return { target?, scope, verbosity := ← verbosity? level }

/-- Reads a directive. -/
def parse? (text : List Char) : Option Directive :=
  let inner := Text.trim text
  let name := inner.takeWhile fun c => c ≠ '=' && c ≠ '['
  let size := Text.byteSize name
  if name.head?.all isTargetStart then
    match inner.drop name.length with
    | [] =>
      if name = [] then none
      else
        match verbosity? text with
        | some verbosity => some { verbosity }
        | none => some { target? := some (String.ofList text) }
    | '=' :: _ => do
      let (target, _) ← Text.splitAtByte? size text
      if name = [] then none else withLevel? (some (String.ofList target)) .all text (size + 1)
    | _ :: rest => do
      let (target, _) ← Text.splitAtByte? size text
      let target? := if name = [] then none else some (String.ofList target)
      match ← scope? text rest (size + 1) with
      | (scope, [], _) => return { target?, scope }
      | (scope, '=' :: _, place) => withLevel? target? scope text (place + 1)
      | _ => none
  else none

/-- Whether an event with a target and with fields is meant. -/
def concerns (d : Directive) (target : String) (fields : List String) : Bool :=
  (d.target?.all fun t => t.toList.isPrefixOf target.toList) &&
    match d.scope with
    | .all => true
    | .field name => fields.contains name
    | .spans => false

/-- Whether a directive that means an event is at least as precise as another one that does: its
target is longer, or it is as long and the scope holds less, or a field of a later name. -/
def atLeast (d e : Directive) : Bool :=
  let reach (d : Directive) : Nat := match d.target? with
    | none => 0
    | some target => target.length + 1
  if reach d = reach e then
    match d.scope, e.scope with
    | .field a, .field b => b ≤ a
    | .field _, _ => true
    | _, .field _ => false
    | _, _ => true
  else reach e < reach d

end Directive

end WaitingRoom.Log
