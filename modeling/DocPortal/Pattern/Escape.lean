/-
The smallest parts of a pattern: characters and what a backslash makes of them.

A backslash in front of a mark takes away its meaning, and in front of some
letters it gives them one. Characters can also be written by their number
in two, four or eight hexadecimal digits (`\x41`, `\u0041`, `\U00000041`).
Neither classes of characters by their property (`\p`) nor references to
groups (`\1`) are known.
-/
import DocPortal.Pattern.Basic
import DocPortal.Text.Blank
import DocPortal.Text.Hex

namespace DocPortal.Pattern

/-! ## Spacing -/

/-- The text behind the blanks and comments at its start. A comment goes from `#` to the end of
the line; `inComment` tells that the text begins inside of one. -/
def dropSpacing (inComment : Bool) : List Char → List Char
  | [] => []
  | c :: rest =>
    if inComment then dropSpacing (c ≠ '\n') rest
    else if Text.isBlankChar c then dropSpacing false rest
    else if c = '#' then dropSpacing true rest
    else c :: rest

/-- The text behind what does not count at its start: blanks and comments in a spaced pattern,
nothing in another. -/
def skip (spaced : Bool) (text : List Char) : List Char :=
  if spaced then dropSpacing false text else text

/-! ## Escapes -/

/-- The characters whose escapes are letters. -/
def controlOf : Char → Option Char
  | 'a' => some '\x07'
  | 'f' => some '\x0c'
  | 'n' => some '\n'
  | 'r' => some '\r'
  | 't' => some '\t'
  | 'v' => some '\x0b'
  | _ => none

/-- What a backslash makes of one character. -/
def escaped (c : Char) : Option Atom :=
  if c ∈ ['d', 's', 'w'] then some (.shorthand false)
  else if c ∈ ['D', 'S', 'W'] then some (.shorthand true)
  else if c ∈ ['A', 'z'] then some .anchor
  else if c ∈ ['b', 'B', '<', '>'] then some .wordBoundary
  else if c.toNat < 0x80 ∧ ¬c.isAlphanum then some (.literal c false)
  else (controlOf c).map (.literal · false)

/-- The character whose number is written in some more hexadecimal digits, and what follows it;
`value` is the number of the digits before. -/
def readScalar (spaced : Bool) (value : Nat) : (digits : Nat) → List Char →
    Option (Char × List Char)
  | 0, text => if value.isValidChar then some (Char.ofNat value, text) else none
  | digits + 1, text =>
    match skip spaced text with
    | [] => none
    | c :: rest => do readScalar spaced (16 * value + (← Text.hexValue? c)) digits rest

/-- What a backslash makes of the text behind it, and what follows. -/
def readEscape (spaced : Bool) : List Char → Option (Atom × List Char)
  | [] => none
  | 'x' :: rest => (readScalar spaced 0 2 rest).map fun (c, rest) => (.literal c true, rest)
  | 'u' :: rest => (readScalar spaced 0 4 rest).map fun (c, rest) => (.literal c false, rest)
  | 'U' :: rest => (readScalar spaced 0 8 rest).map fun (c, rest) => (.literal c false, rest)
  | c :: rest => (escaped c).map (·, rest)

end DocPortal.Pattern
