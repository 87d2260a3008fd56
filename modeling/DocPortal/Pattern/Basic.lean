/-
Patterns: regular expressions by their shape.

A log directive can ask a pattern only of a span, and no event happens in
one before the service listens, so nothing that a start prints depends on
what a pattern matches. What counts is whether a text is a pattern that
could be used. So a pattern keeps what decides that: how its parts lie in
each other, the characters it names, what is negated, and the flags.
-/
import DocPortal.Pattern.Flags

namespace DocPortal

/-- A part of a pattern that has no parts. -/
inductive Pattern.Atom where
  /-- A character that stands for itself; it may be written as the number of a byte. -/
  | literal (c : Char) (isByte : Bool)
  /-- Digits, blanks or the characters of words, or what is none of them: `\d`, `\S`. -/
  | shorthand (negated : Bool)
  /-- Any character: the dot. -/
  | any
  /-- The start or the end of a line or of the text. -/
  | anchor
  /-- The start or the end of a word, or a place that is neither. -/
  | wordBoundary
deriving DecidableEq, Repr

/-- The characters that a class in brackets names. -/
inductive Pattern.Members where
  | none
  /-- The characters from one to another; one character is a range of its own. -/
  | range (first last : Char)
  /-- A class of ASCII by its name: `[:alpha:]`. -/
  | named (negated : Bool)
  | shorthand (negated : Bool)
  | union (parts : List Members)
  /-- A class inside a class. -/
  | nested (negated : Bool) (members : Members)
  /-- An intersection or a difference. -/
  | operation (left right : Members)

/-- A regular expression. -/
inductive Pattern where
  | empty
  /-- A switch of flags up to the end of the group it stands in. -/
  | setting (change : Pattern.FlagChange)
  | atom (atom : Pattern.Atom)
  /-- One character of a class in brackets. -/
  | oneOf (negated : Bool) (members : Pattern.Members)
  | repetition (pattern : Pattern)
  /-- A group, perhaps with a name and with flags of its own. -/
  | group (name? : Option (List Char)) (change : Pattern.FlagChange) (pattern : Pattern)
  | sequence (parts : List Pattern)
  | alternation (branches : List Pattern)

namespace Pattern

/-! ## Putting together -/

/-- The characters that a list of members names together. -/
def Members.ofList : List Members → Members
  | [] => none
  | [part] => part
  | parts => union parts

/-- The pattern whose parts follow each other. -/
def ofParts : List Pattern → Pattern
  | [] => empty
  | [part] => part
  | parts => sequence parts

/-- The pattern that has a choice of branches. -/
def ofBranches : List Pattern → Pattern
  | [] => empty
  | [branch] => branch
  | branches => alternation branches

/-! ## Nesting -/

mutual

/-- How deep the members of a class lie in each other. -/
def Members.depth : Members → Nat
  | none | range .. | named _ | shorthand _ => 0
  | union parts => 1 + Members.deepest parts
  | nested _ members => 1 + members.depth
  | operation left right => 1 + max left.depth right.depth

/-- The depth of the deepest of some members. -/
def Members.deepest : List Members → Nat
  | [] => 0
  | part :: rest => max part.depth (Members.deepest rest)

end

mutual

/-- How deep the parts of a pattern lie in each other. -/
def depth : Pattern → Nat
  | empty | setting _ | atom _ => 0
  | oneOf _ members => 1 + members.depth
  | repetition pattern => 1 + pattern.depth
  | group _ _ pattern => 1 + pattern.depth
  | sequence parts => 1 + deepest parts
  | alternation branches => 1 + deepest branches

/-- The depth of the deepest of some patterns. -/
def deepest : List Pattern → Nat
  | [] => 0
  | part :: rest => max part.depth (deepest rest)

end

/-! ## Names -/

mutual

/-- The names of the groups, in the order of the text. -/
def groupNames : Pattern → List (List Char)
  | empty | setting _ | atom _ | oneOf .. => []
  | repetition pattern => pattern.groupNames
  | group name? _ pattern => name?.toList ++ pattern.groupNames
  | sequence parts => namesIn parts
  | alternation branches => namesIn branches

/-- The names of the groups of some patterns. -/
def namesIn : List Pattern → List (List Char)
  | [] => []
  | part :: rest => part.groupNames ++ namesIn rest

end

end Pattern

end DocPortal
