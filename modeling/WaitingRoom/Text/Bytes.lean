/-!
# Cuts between bytes

A character takes up one to four bytes, and a place in a text may be given by the bytes before it.

* **`byteSize`**: how many bytes a text takes up.
* **`splitAtByte?`**: the text before and after a place. There is none past the end or inside of a
  character.
* **`slice?`**: the text between two places.
-/

namespace WaitingRoom.Text

/-- How many bytes a text takes up. -/
def byteSize : List Char → Nat
  | [] => 0
  | c :: rest => c.utf8Size + byteSize rest

/-- The text before and after a place given by the number of bytes before it. -/
def splitAtByte? : (place : Nat) → List Char → Option (List Char × List Char)
  | 0, text => some ([], text)
  | _ + 1, [] => none
  | n + 1, c :: rest =>
    if c.utf8Size ≤ n + 1 then
      (splitAtByte? (n + 1 - c.utf8Size) rest).map fun (before, after) => (c :: before, after)
    else none

/-- The text of a size in bytes that begins at a place. -/
def slice? (text : List Char) (place size : Nat) : Option (List Char) := do
  let (_, rest) ← splitAtByte? place text
  let (inside, _) ← splitAtByte? size rest
  return inside

end WaitingRoom.Text
