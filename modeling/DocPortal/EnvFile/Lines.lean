/-
The lines of a `.env` file.

Quotes hold a line together: it ends at the first line break outside them.
A `#` behind a blank starts a comment, which goes to the end of its line of
the text, and so does a `#` with nothing but blanks in front. Of two blanks
in a row the second counts as a character like others, so that a `#` behind
it starts no comment here; that one is left to the value it stands behind.

A text that stops in the middle of a line has no last line. It stops there
inside quotes, behind a backslash and behind a blank, unless one more blank
stands before it.
-/
import DocPortal.Text.Blank

namespace DocPortal.EnvFile

/-- A place in a line. -/
inductive LinePlace where
  /-- Behind nothing but blanks. -/
  | start
  | plain
  | blank
  | escaped
  | quoted (quote : Char)
  /-- Inside quotes, behind a backslash. -/
  | quotedEscaped (quote : Char)
  | comment
deriving DecidableEq, Repr

namespace LinePlace

/-- Whether a line break at the place belongs to the line. -/
def holdsBreaks : LinePlace → Bool
  | quoted _ | quotedEscaped _ => true
  | start | plain | blank | escaped | comment => false

/-- Whether the text may end at the place. -/
def mayEnd : LinePlace → Bool
  | start | plain | comment => true
  | blank | escaped | quoted _ | quotedEscaped _ => false

/-- The place behind a character that is no blank and is outside quotes and comments. -/
def behind (c : Char) : LinePlace :=
  if c = '\\' then escaped
  else if c = '"' ∨ c = '\'' then quoted c
  else plain

/-- The place behind one more character. -/
def next (c : Char) : LinePlace → LinePlace
  | start =>
    if c = '#' then comment
    else if Text.isBlankChar c then start
    else behind c
  | plain => if Text.isBlankChar c ∧ c ≠ '\r' then blank else behind c
  | blank => if c = '#' then comment else behind c
  | escaped => plain
  | quoted quote =>
    if c = '\\' then quotedEscaped quote
    else if c = quote then plain
    else quoted quote
  | quotedEscaped quote => quoted quote
  | comment => comment

end LinePlace

/-- The lines of a text from a place on, without their comments; no line at all if the text stops
in the middle of the first. -/
def linesFrom : LinePlace → List Char → List (List Char)
  | place, [] => if place.mayEnd then [[]] else []
  | place, c :: rest =>
    if c = '\n' ∧ !place.holdsBreaks then [] :: linesFrom .start rest
    else
      match linesFrom (place.next c) rest with
      | [] => []
      | line :: lines =>
        if place.next c = .comment then line :: lines else (c :: line) :: lines

/-- The lines of a text. A byte order mark in front is no part of them. -/
def lines (text : String) : List (List Char) :=
  linesFrom .start <| match text.toList with
    | '\uFEFF' :: rest => rest
    | cs => cs

end DocPortal.EnvFile
