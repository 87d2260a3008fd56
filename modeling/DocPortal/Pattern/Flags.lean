/-
Flags of a pattern: how the part of it is read where they are in force.

Flags are switched by their letters, first those that go on and, behind one
hyphen, those that go off, as in `im-x`. No letter is written twice. Three
of the seven decide whether a pattern can be used; the others only change
what it matches.
-/

namespace DocPortal.Pattern

/-- The flags in force at some place of a pattern. -/
structure Flags where
  /-- Letter case does not count. -/
  caseless : Bool := false
  /-- The pattern is about characters and not about bytes. -/
  unicode : Bool := true
  /-- Blanks and comments in the pattern do not count. -/
  spaced : Bool := false
deriving DecidableEq, Repr

/-- A switch of flags, by their letters. -/
structure FlagChange where
  on : List Char := []
  off : List Char := []
deriving DecidableEq, Repr

namespace FlagChange

/-- The letters of the flags there are. -/
def letters : List Char :=
  ['i', 'm', 's', 'U', 'u', 'R', 'x']

/-- The switch that a text writes. -/
def parse? (text : List Char) : Option FlagChange :=
  if text.all (fun c => c = '-' || c ∈ letters) ∧ text.Nodup ∧ text.getLast? ≠ some '-' then
    some { on := text.takeWhile (· ≠ '-'), off := (text.dropWhile (· ≠ '-')).drop 1 }
  else none

/-- A flag behind the switch. -/
def switch (change : FlagChange) (letter : Char) (before : Bool) : Bool :=
  if letter ∈ change.on then true else if letter ∈ change.off then false else before

end FlagChange

/-- The flags in force behind a switch. -/
def Flags.after (flags : Flags) (change : FlagChange) : Flags :=
  { caseless := change.switch 'i' flags.caseless
    unicode := change.switch 'u' flags.unicode
    spaced := change.switch 'x' flags.spaced }

end DocPortal.Pattern
