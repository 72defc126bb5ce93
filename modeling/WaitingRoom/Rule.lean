import WaitingRoom.Mode

/-!
# Rules

* **`Rule`**: how a seat's next occupancy follows from a layout: what is counted, whether ticks may
  rely on the tallies instead, and what a count leads to. Asked the same, a rule always answers the
  same. Whoever answers by what was asked before, or by anything else outside the question, is no
  rule.
* **`Rule.standard`**: the usual decision: a free seat is taken when nobody is near, and a taken
  seat is left when the count has reached the threshold.
* **`Mode.rule`**: the rule of each mode. Looking around tolerates fewer than four and keeps
  tallies; looking further tolerates fewer than five and always counts.
-/

namespace WaitingRoom

/-- How seats are taken and left. Both answers are functions of what is asked: a rule has no state of
its own that could change between two questions. -/
structure Rule where
  /-- The count at which a taken seat is left. -/
  threshold : Nat
  /-- The number of taken neighbours of a position. -/
  occupied : Layout → Position → Nat
  /-- Whether ticks keep the tallies of adjacent seats and read those in place of `occupied`. -/
  tracked : Bool
  /-- Whether a seat is taken next, given whether it is now and its count of neighbours. -/
  next : Bool → Nat → Bool

namespace Rule

/-- A rule with the usual decision. -/
def standard (threshold : Nat) (occupied : Layout → Position → Nat) (tracked : Bool) : Rule where
  threshold := threshold
  occupied := occupied
  tracked := tracked
  next
    | true, count => count < threshold
    | false, count => count = 0

end Rule

namespace Mode

/-- The count at which a taken seat is left. -/
def threshold : Mode → Nat
  | adjacent => 4
  | visible => 5

/-- Whether ticks keep tallies: they hold the adjacent seats only. -/
def tracked : Mode → Bool
  | adjacent => true
  | visible => false

/-- The rule of a mode. -/
def rule (m : Mode) : Rule := .standard m.threshold m.occupied m.tracked

end Mode

end WaitingRoom
