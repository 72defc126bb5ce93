/-!
# Lines

* **`lines`**: the lines of a text, given as a list of characters, bytes or anything else that has
  a line feed and a carriage return. A line feed ends a line, together with one carriage return
  right before it. What follows the last line feed is a line of its own unless it is empty, and
  keeps its carriage returns.
-/

namespace WaitingRoom.Text

variable {α : Type} [DecidableEq α]

/-- The list without one `a` at its end, if there is one. -/
def dropEnd (a : α) (l : List α) : List α :=
  if l.getLast? = some a then l.dropLast else l

/-- The lines of a text with the line feed `lf` and the carriage return `cr`. -/
def lines (lf cr : α) (text : List α) : List (List α) :=
  let pieces := text.splitOn lf
  -- every piece but the last was ended by a line feed
  pieces.dropLast.map (dropEnd cr) ++ pieces.getLast?.toList.filter (· ≠ [])

/-- The lines of a text of characters. -/
def charLines (text : String) : List (List Char) :=
  lines '\n' '\r' text.toList

/-- The lines of a text of bytes. -/
def byteLines (bytes : ByteArray) : List ByteArray :=
  (lines 10 13 bytes.data.toList).map fun line => ⟨line.toArray⟩

end WaitingRoom.Text
