import WaitingRoom.Log.Filter
import WaitingRoom.Outcome

/-!
# Log lines

* **`Event.level`**, **`Event.fields`**: how much an event matters and what it tells. Ticks are for
  those who look closely, the end is for everybody.
* **`Event.line`**: an event as a line of the log, its fields after its words.
* **`Log.lines`**: the lines of the events that a filter lets through.
-/

namespace WaitingRoom

namespace Event

/-- The target under which events are logged. -/
def target : String := "seating::sim"

/-- How much an event matters. -/
def level : Event → Log.Level
  | tickDone _ => .debug
  | settled .. => .info

/-- The names of what an event tells. The time that was needed is told to the filter alone. -/
def fields : Event → List String
  | tickDone _ => ["message", "tick", "changed"]
  | settled .. => ["message", "policy", "ticks", "occupied", "elapsed_ms"]

/-- What an event says, with its fields. -/
def text : Event → String
  | tickDone record => s!"tick done tick={record.tick} changed={record.changed}"
  | settled mode ticks occupied =>
    s!"seat layout stabilized policy={mode.name} ticks={ticks} occupied={occupied}"

/-- An event as a line of the log. -/
def line (e : Event) : String :=
  s!"{e.level.name} {target}: {e.text}"

end Event

/-- The lines of the events that the filter lets through, in order. -/
def Log.lines (filter : Log.Filter) (events : List Event) : List String :=
  (events.filter fun e => filter.allows Event.target e.fields e.level).map Event.line

end WaitingRoom
