import WaitingRoom.Log.Directive

/-!
# Log filters

* **`Log.Filter.parse?`**: reads directives between commas.
* **`Log.Filter.ofSetting`**: the filter in force. Without a text, or with one that cannot be read,
  warnings and errors are shown; an empty list of directives shows errors.
* **`Log.Filter.allows`**: the most precise directive that means an event decides about it, the last
  one among equals.

Filters stand for those of a logging library; see `WaitingRoom.Log.Directive`. Only the default, by
which warnings and errors are shown, is the program's own.
-/

namespace WaitingRoom.Log

/-- The directives in force. -/
structure Filter where
  /-- The directives, in the order given. -/
  directives : List Directive
deriving DecidableEq, Repr

namespace Filter

/-- The filter with one level for all events. -/
def ofLevel (level : Level) : Filter where
  directives := [{ verbosity := level.rank }]

/-- Reads the directives between commas. -/
def parse? (text : String) : Option Filter :=
  match ((text.toList.splitOn ',').filter (· ≠ [])).mapM Directive.parse? with
  | none => none
  | some [] => some (ofLevel .error)
  | some directives => some { directives }

/-- The filter in force, given the text that was set for it. -/
def ofSetting (text? : Option String) : Filter :=
  (text?.bind parse?).getD (ofLevel .warn)

/-- The directive that decides about an event. -/
def deciding? (f : Filter) (target : String) (fields : List String) : Option Directive :=
  (f.directives.filter (·.concerns target fields)).foldl
    (fun best? d =>
      match best? with
      | none => some d
      | some best => if d.atLeast best then some d else some best)
    none

/-- Whether an event is shown. -/
def allows (f : Filter) (target : String) (fields : List String) (level : Level) : Bool :=
  match f.deciding? target fields with
  | none => false
  | some d => level.rank ≤ d.verbosity

end Filter

end WaitingRoom.Log
