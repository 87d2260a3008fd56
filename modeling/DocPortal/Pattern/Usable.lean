/-
Which patterns can be used.

A pattern is about characters or, where the flag `u` is off, about bytes. No
properties of characters are at hand: of characters it is not known which
are digits or letters, nor how their case is changed. So shorthands and word
boundaries are about bytes only, and where letter case does not count no
character can be named but as a byte. A part about bytes, on the other hand,
may not match a piece of a character, so it takes ASCII alone and negates
nothing.
-/
import DocPortal.Pattern.Reader

namespace DocPortal.Pattern

/-- A character of ASCII. -/
def isAscii (c : Char) : Bool :=
  c.toNat < 0x80

/-- Whether an atom can be used under some flags. -/
def Atom.isUsable (flags : Flags) : Atom → Bool
  | literal c isByte => if flags.unicode then !flags.caseless else !isByte || isAscii c
  | shorthand negated => !flags.unicode && !negated
  | any => flags.unicode
  | anchor => true
  | wordBoundary => !flags.unicode

mutual

/-- Whether the members of a class can be used under some flags. -/
def Members.isUsable (flags : Flags) : Members → Bool
  | none => true
  | range first last => if flags.unicode then !flags.caseless else isAscii first && isAscii last
  | named negated => if flags.unicode then !flags.caseless else !negated
  | shorthand negated => !flags.unicode && !negated
  | union parts => Members.areUsable flags parts
  | nested negated members => (flags.unicode || !negated) && members.isUsable flags
  | operation left right => left.isUsable flags && right.isUsable flags

/-- Whether all of some members can be used under some flags. -/
def Members.areUsable (flags : Flags) : List Members → Bool
  | [] => true
  | part :: rest => part.isUsable flags && Members.areUsable flags rest

end

mutual

/-- The flags behind a pattern that can be used under the flags before it. Those that are switched
inside of a group hold up to its end. -/
def flagsBehind (flags : Flags) : Pattern → Option Flags
  | empty => some flags
  | setting change => some (flags.after change)
  | atom part => if part.isUsable flags then some flags else none
  | oneOf negated members =>
    if (flags.unicode || !negated) && members.isUsable flags then some flags else none
  | repetition pattern => flagsBehind flags pattern
  | group _ change pattern => do
    let _ ← flagsBehind (flags.after change) pattern
    return flags
  | sequence parts => flagsBehindAll flags parts
  | alternation branches => flagsBehindAll flags branches

/-- The flags behind patterns that follow each other in the text. -/
def flagsBehindAll (flags : Flags) : List Pattern → Option Flags
  | [] => some flags
  | part :: rest => do flagsBehindAll (← flagsBehind flags part) rest

end

/-- The deepest nesting that is taken. -/
def maxDepth : Nat := 250

/-- Whether a pattern can be used: no two of its groups have one name, its parts do not lie too
deep in each other, and each can be used under the flags that are in force there. -/
def isUsable (pattern : Pattern) : Bool :=
  pattern.groupNames.Nodup && pattern.depth ≤ maxDepth && (flagsBehind {} pattern).isSome

/-- Whether a text writes a pattern that can be used. -/
def isUsableText (text : List Char) : Bool :=
  (parse? text).any isUsable

end DocPortal.Pattern
