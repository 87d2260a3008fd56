/-
Classes of characters in brackets, as in `[a-z_]`.

The members of a class are characters, ranges, shorthands, classes of ASCII
by their names, and classes in brackets; all characters but a few stand for
themselves. Hyphens at the start are characters, and so is a bracket `]` in
the first place. `&&`, `--` and `~~` take intersections and differences of
what stands before and behind them, from the left.
-/
import DocPortal.Pattern.Escape

namespace DocPortal.Pattern

/-- The classes of ASCII that have names. -/
def asciiClasses : List String :=
  ["alnum", "alpha", "ascii", "blank", "cntrl", "digit", "graph", "lower", "print", "punct",
   "space", "upper", "word", "xdigit"]

/-- A class of ASCII by its name, as in `[:alpha:]` or `[:^alpha:]`, and what follows it, read
from behind its bracket. -/
def readNamed (text : List Char) : Option (Members × List Char) := do
  let ':' :: text := text | none
  let (negated, text) := match text with
    | '^' :: rest => (true, rest)
    | text => (false, text)
  let ':' :: ']' :: rest := text.dropWhile (· ≠ ':') | none
  if String.ofList (text.takeWhile (· ≠ ':')) ∈ asciiClasses then some (.named negated, rest)
  else none

/-- One character of a class, perhaps escaped, and what follows it. -/
def readCharacter (spaced : Bool) : List Char → Option (Atom × List Char)
  | [] => none
  | '\\' :: rest => readEscape spaced rest
  | c :: rest => some (.literal c false, rest)

/-- The members that an atom names. -/
def Atom.members? : Atom → Option Members
  | literal c _ => some (.range c c)
  | shorthand negated => some (.shorthand negated)
  | any | anchor | wordBoundary => none

/-- The range between two atoms: both are characters, in their order. -/
def range? : Atom → Atom → Option Members
  | .literal first _, .literal last _ => if first ≤ last then some (.range first last) else none
  | _, _ => none

/-- The character that decides what a hyphen in front of the text means. In a spaced pattern
blanks do not count, nor does the mark of a comment, but the text of the comment does. -/
def glance (spaced : Bool) (text : List Char) : Option Char :=
  if spaced then
    match text.dropWhile Text.isBlankChar with
    | '#' :: rest => (rest.dropWhile Text.isBlankChar).head?
    | rest => rest.head?
  else text.head?

/-- A character, range or shorthand, and what follows it. -/
def readMember (spaced : Bool) (text : List Char) : Option (Members × List Char) := do
  let (first, rest) ← readCharacter spaced text
  match skip spaced rest with
  | '-' :: rest =>
    if glance spaced rest ∈ [some ']', some '-'] then
      return (← first.members?, '-' :: rest)
    else do
      let (last, rest) ← readCharacter spaced (skip spaced rest)
      return (← range? first last, rest)
  | rest => return (← first.members?, rest)

/-- How far the inside of a class is read. -/
structure ClassReading where
  /-- Only hyphens have been read. -/
  isOpening : Bool := true
  /-- What stands before the last operator. -/
  left? : Option Members := none
  /-- What stands behind it, the last first. -/
  members : List Members := []

namespace ClassReading

/-- One more member is read. -/
def add (reading : ClassReading) (part : Members) : ClassReading :=
  { reading with isOpening := false, members := part :: reading.members }

/-- One more hyphen at the start is read. -/
def addHyphen (reading : ClassReading) : ClassReading :=
  { reading with members := .range '-' '-' :: reading.members }

/-- All that is read. -/
def all (reading : ClassReading) : Members :=
  let right := Members.ofList reading.members.reverse
  match reading.left? with
  | none => right
  | some left => .operation left right

/-- An operator is read. -/
def operator (reading : ClassReading) : ClassReading :=
  { isOpening := false, left? := some reading.all }

end ClassReading

/-- What follows the `^` of a class that is negated, and whether it is. -/
def readNegation (spaced : Bool) (text : List Char) : Bool × List Char :=
  match skip spaced text with
  | '^' :: rest => (true, rest)
  | rest => (false, rest)

/-- The members of a class up to its bracket, and what follows that. -/
def readMembers (spaced : Bool) : (fuel : Nat) → ClassReading → List Char →
    Option (Members × List Char)
  | 0, _, _ => none
  | fuel + 1, reading, text =>
    match skip spaced text, reading.isOpening with
    | [], _ => none
    | '-' :: rest, true => readMembers spaced fuel reading.addHyphen rest
    | ']' :: rest, isOpening =>
      if isOpening ∧ reading.members.isEmpty then
        readMembers spaced fuel (reading.add (.range ']' ']')) rest
      else some (reading.all, rest)
    | '[' :: rest, _ =>
      match readNamed rest with
      | some (named, rest) => readMembers spaced fuel (reading.add named) rest
      | none => do
        let (negated, rest) := readNegation spaced rest
        let (members, rest) ← readMembers spaced fuel {} rest
        readMembers spaced fuel (reading.add (.nested negated members)) rest
    | '&' :: '&' :: rest, _ | '-' :: '-' :: rest, _ | '~' :: '~' :: rest, _ =>
      readMembers spaced fuel reading.operator rest
    | text, _ => do
      let (member, rest) ← readMember spaced text
      readMembers spaced fuel (reading.add member) rest

/-- A class and what follows it, read from behind its bracket. -/
def readClass (spaced : Bool) (text : List Char) : Option (Pattern × List Char) := do
  let (negated, rest) := readNegation spaced text
  let (members, rest) ← readMembers spaced (rest.length + 1) {} rest
  return (.oneOf negated members, rest)

end DocPortal.Pattern
