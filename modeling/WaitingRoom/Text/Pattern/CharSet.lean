import WaitingRoom.Text.Pattern.Atom

/-!
# Sets of characters in a search pattern

A set stands between brackets and holds characters, ranges, classes and other sets, with operators
between them.

* **`depthOfRow`**: how deep parts side by side are nested.
* **`OpenSet`**: what has been read of a set that is not closed yet.
* **`OpenSet.close?`**: reads a set to its end, and says how deep it is nested.

A reader takes a bound on the number of items that are left to read, for which the length of the
text is enough, and the characters that are left. It returns those after what it has read.

Part of what stands for a library of regular expressions; see `WaitingRoom.Text.Pattern`.
-/

namespace WaitingRoom.Text.Pattern

/-- How deep parts side by side are nested, given how deep each one is. Putting two parts or more
side by side is a level of its own. -/
def depthOfRow : (depths : List Nat) → Nat
  | [] => 0
  | [depth] => depth
  | depths => depths.foldl max 0 + 1

/-- The names of classes that may stand between `[:` and `:]`. -/
def classNames : List String :=
  ["alnum", "alpha", "ascii", "blank", "cntrl", "digit", "graph", "lower", "print", "punct",
   "space", "upper", "word", "xdigit"]

/-- Reads a named class after its opening bracket, and whether it is negated. -/
def namedClass? : List Char → Option (Bool × List Char)
  | ':' :: rest =>
    let isNegated := rest.head? = some '^'
    let rest := if isNegated then rest.tail else rest
    let name := rest.takeWhile (· ≠ ':')
    match rest.drop name.length with
    | ':' :: ']' :: rest =>
      if String.ofList name ∈ classNames then some (isNegated, rest) else none
    | _ => none
  | _ => none

/-- Whether a named class can be an item of a set. -/
def Flags.hasNamedClass (flags : Flags) (isNegated : Bool) : Bool :=
  if flags.allScripts then !flags.ignoresCase else !isNegated

/-- Reads an atom inside of a set, where only the backslash has a meaning. -/
def setAtom? (flags : Flags) : List Char → Option (Atom × List Char)
  | [] => none
  | '\\' :: rest => Atom.escape? flags rest
  | c :: rest => some (.ofChar c, rest)

/-- Whether two atoms are the ends of a range. -/
def isRange (flags : Flags) (first last : Atom) : Bool :=
  first.isItem flags && last.isItem flags &&
    match first, last with
    | .char a _, .char b _ => a ≤ b
    | _, _ => false

/-- Reads an atom of a set, or a range of them. A dash makes no range before another dash or a
closing bracket. -/
def range? (flags : Flags) (text : List Char) : Option (List Char) :=
  match setAtom? flags text with
  | none => none
  | some (first, rest) =>
    let rest := flags.skip rest
    let isAlone := match rest with
      | '-' :: rest => flags.peek? rest = some ']' || flags.peek? rest = some '-'
      | _ => true
    if isAlone then if first.isItem flags then some rest else none
    else
      match setAtom? flags (flags.skip rest.tail) with
      | none => none
      | some (last, rest) => if isRange flags first last then some rest else none

/-- What has been read of a set that is not closed yet. -/
structure OpenSet where
  /-- How deep the operand before the last operator is nested. -/
  left? : Option Nat := none
  /-- How deep the items after that are nested, one by one. -/
  items : List Nat := []
  /-- Whether there was nothing but dashes so far, which stand for themselves. -/
  isFresh : Bool := false
deriving DecidableEq, Repr

namespace OpenSet

/-- How deep what is between the brackets is nested. -/
def depth (set : OpenSet) : Nat :=
  match set.left? with
  | none => depthOfRow set.items
  | some left => max left (depthOfRow set.items) + 1

/-- The set with one more item. -/
def push (set : OpenSet) (depth : Nat) : OpenSet :=
  { set with items := depth :: set.items, isFresh := false }

/-- The set after an operator. All that was before is its left operand. -/
def operator (set : OpenSet) : OpenSet where
  left? := some set.depth

/-- Reads the beginning of a set after its opening bracket, with the sign of a negation if there is
one. A negated set holds characters beyond ASCII. -/
def start? (flags : Flags) (text : List Char) : Option (OpenSet × List Char) :=
  match flags.skip text with
  | '^' :: rest => if flags.allScripts then some ({ isFresh := true }, rest) else none
  | rest => some ({ isFresh := true }, rest)

/-- Reads the rest of a set, and of the sets `around` it, and how deep the outermost is nested. -/
def close? (flags : Flags) :
    (bound : Nat) → OpenSet → (around : List OpenSet) → List Char → Option (Nat × List Char)
  | 0, _, _, _ => none
  | bound + 1, set, around, text =>
    let text := flags.skip text
    -- at the front, dashes stand for themselves, and so does a closing bracket without them
    let standsForItself := set.isFresh &&
      (text.head? = some '-' || text.head? = some ']' && set.items = [])
    if standsForItself then
      if (Atom.ofChar '-').isItem flags then
        let isFresh := text.head? = some '-'
        close? flags bound { set.push 0 with isFresh } around text.tail
      else none
    else
      match text with
      | ']' :: rest =>
        match around with
        | [] => some (set.depth + 1, rest)
        | outer :: around => close? flags bound (outer.push (set.depth + 1)) around rest
      | '[' :: rest =>
        match namedClass? rest with
        | some (isNegated, rest) =>
          if flags.hasNamedClass isNegated then close? flags bound (set.push 0) around rest
          else none
        | none =>
          match start? flags rest with
          | some (inner, rest) => close? flags bound inner (set :: around) rest
          | none => none
      | '&' :: '&' :: rest | '-' :: '-' :: rest | '~' :: '~' :: rest =>
        close? flags bound set.operator around rest
      | _ =>
        match range? flags text with
        | some rest => close? flags bound (set.push 0) around rest
        | none => none

end OpenSet

end WaitingRoom.Text.Pattern
