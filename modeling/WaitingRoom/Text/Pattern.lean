import WaitingRoom.Text.Pattern.CharSet

/-!
# Search patterns

* **`Pattern.isWellFormed`**: whether a text is a regular expression that can be looked for: groups
  and sets are closed and not nested too deep, names of groups are distinct, each repetition has
  something to repeat, and each atom can be used under the settings at its place. A repetition
  between braces would need a closing brace and is not known here.
* **`Pattern.OpenGroup`**: what has been read of a group that is not closed yet. Its settings end
  with it.

The program reads no patterns itself. It hands the setting of its log to a logging library, and that
one leaves patterns to a library for regular expressions. This module and those below it stand for
the latter, after what its documentation says of the syntax. They are there so that the program
accepts the settings that it should. No theorem is about them.
-/

namespace WaitingRoom.Text.Pattern

/-- How deep a pattern may be nested. -/
def maxDepth : Nat := 250

/-- What opens at a parenthesis. -/
inductive Opening where
  /-- A group, inside of which the letters change settings. -/
  | group (letters : List Char)
  /-- A group with a name. -/
  | named (name : List Char)
  /-- No group: the letters change settings from here on. -/
  | settings (letters : List Char)
deriving DecidableEq, Repr

/-- Reads the name of a group to its closing angle. -/
def groupName? (text : List Char) : Option (List Char × List Char) :=
  let name := text.takeWhile (· ≠ '>')
  let startsWell := name.head?.any fun c => c = '_' || isAlphabetic c
  let goesOn (c : Char) : Bool := isAlphanumeric c || c ∈ ['_', '.', '[', ']']
  match text.drop name.length with
  | '>' :: rest => if startsWell && name.all goesOn then some (name, rest) else none
  | _ => none

/-- Reads what opens at a parenthesis, after it. -/
def opening? : List Char → Option (Opening × List Char)
  | '?' :: 'P' :: '<' :: rest | '?' :: '<' :: rest =>
    (groupName? rest).map fun (name, rest) => (.named name, rest)
  | '?' :: rest =>
    match Flags.parse? rest with
    | some (letters, ':' :: rest) => some (.group letters, rest)
    | some (letters, ')' :: rest) => if letters = [] then none else some (.settings letters, rest)
    | _ => none
  | rest => some (.group [], rest)

/-- What has been read of a group that is not closed yet, or of the whole pattern. -/
structure OpenGroup where
  /-- The settings in force. -/
  flags : Flags := {}
  /-- How deep the choices before the last one are nested. -/
  choices : List Nat := []
  /-- How deep the parts of the last choice are nested, the last part first. A change of settings
  counts as a part and has no depth. -/
  parts : List (Option Nat) := []
deriving DecidableEq, Repr

namespace OpenGroup

/-- How deep the parts of the last choice are nested side by side. -/
def choiceDepth (g : OpenGroup) : Nat := depthOfRow (g.parts.map (·.getD 0))

/-- How deep what is inside the group is nested. -/
def depth (g : OpenGroup) : Nat := depthOfRow (g.choiceDepth :: g.choices)

/-- The group with one more part. -/
def push (g : OpenGroup) (depth : Nat) : OpenGroup := { g with parts := some depth :: g.parts }

/-- The group at the start of one more choice. -/
def nextChoice (g : OpenGroup) : OpenGroup :=
  { g with choices := g.choiceDepth :: g.choices, parts := [] }

/-- The group with its settings changed. -/
def change (g : OpenGroup) (letters : List Char) : OpenGroup :=
  { g with flags := g.flags.change letters, parts := none :: g.parts }

/-- The group with its last part repeated, if it can be. -/
def repeatLast? (g : OpenGroup) : Option OpenGroup :=
  match g.parts with
  | some depth :: parts => some { g with parts := some (depth + 1) :: parts }
  | _ => none

end OpenGroup

/-- Whether the text goes on well after the names of groups in it and after what was read of the
innermost group and of those around it. -/
def isBody : (bound : Nat) → (names : List (List Char)) → OpenGroup → (around : List OpenGroup) →
    List Char → Bool
  | 0, _, _, _, _ => false
  | bound + 1, names, group, around, text =>
    let withAtom (atom : Atom) (rest : List Char) : Bool :=
      atom.isUsable group.flags && isBody bound names (group.push 0) around rest
    match group.flags.skip text with
    | [] => around = [] && group.depth ≤ maxDepth
    | '|' :: rest => isBody bound names group.nextChoice around rest
    | '(' :: rest =>
      match opening? (group.flags.skip rest) with
      | none => false
      | some (.settings letters, rest) => isBody bound names (group.change letters) around rest
      | some (.group letters, rest) =>
        isBody bound names { flags := group.flags.change letters } (group :: around) rest
      | some (.named name, rest) =>
        name ∉ names &&
          isBody bound (name :: names) { flags := group.flags } (group :: around) rest
    | ')' :: rest =>
      match around with
      | [] => false
      | outer :: around => isBody bound names (outer.push (group.depth + 1)) around rest
    | '[' :: rest =>
      match OpenSet.start? group.flags rest with
      | none => false
      | some (set, rest) =>
        match set.close? group.flags bound [] rest with
        | none => false
        | some (depth, rest) => isBody bound names (group.push depth) around rest
    | '{' :: _ => false
    | '\\' :: rest =>
      match Atom.escape? group.flags rest with
      | none => false
      | some (atom, rest) => withAtom atom rest
    | '.' :: rest =>
      -- any character, which is known only where all scripts are meant
      group.flags.allScripts && isBody bound names (group.push 0) around rest
    | c :: rest =>
      if c = '?' || c = '*' || c = '+' then
        match group.repeatLast? with
        | none => false
        | some group =>
          isBody bound names group around (if rest.head? = some '?' then rest.tail else rest)
      else withAtom (if c = '^' || c = '$' then .textEdge else .ofChar c) rest

/-- Whether a text is a regular expression that can be looked for. -/
def isWellFormed (text : List Char) : Bool :=
  isBody (text.length + 1) [] {} [] text

end WaitingRoom.Text.Pattern
