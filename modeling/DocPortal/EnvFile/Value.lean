/-
The values in a `.env` file.

A value goes up to its first blank, behind which only a comment may follow.
Single quotes take what is between them as it is. Outside them a backslash
escapes the character behind it, and `$NAME` and `${NAME}` stand for the
value of a variable, also inside double quotes. The name behind a bare `$`
consists of letters and digits; whatever ends it is taken as it is, even a
quote or a blank.
-/
import DocPortal.Text.Alphanumeric

namespace DocPortal.EnvFile

/-- A piece of a value: a character, or a variable whose value stands there. -/
inductive Piece where
  | char (c : Char)
  | reference (variableName : String)
deriving DecidableEq, Repr

/-- A place in a value. The first four are inside double quotes or outside all, as they tell. -/
inductive ValuePlace where
  | text (quoted : Bool)
  /-- Behind a backslash. -/
  | escaped (quoted : Bool)
  /-- In a name behind a `$`. -/
  | name (quoted : Bool) (read : List Char)
  /-- In a name behind `${`. -/
  | braced (quoted : Bool) (read : List Char)
  /-- Inside single quotes. -/
  | verbatim
  /-- Behind the end of the value. -/
  | ended
deriving DecidableEq, Repr

/-- The character that a backslash and a character stand for. -/
def unescape? (c : Char) : Option Char :=
  if c ∈ ['\\', '\'', '"', '$', ' '] then some c
  else if c = 'n' then some '\n'
  else none

/-- The reference to the variable of a name. -/
def referenceTo (name : List Char) : Piece := .reference (String.ofList name)

/-- A value, read on from a place. -/
def readFrom : ValuePlace → List Char → Option (List Piece)
  | .text false, [] | .escaped false, [] | .ended, [] => some []
  | .name false name, [] => some [referenceTo name]
  | .text true, [] | .escaped true, [] | .name true _, [] | .braced _ _, [] | .verbatim, [] => none
  | .text quoted, c :: rest =>
    if c = '$' then readFrom (.name quoted []) rest
    else if c = '\\' then readFrom (.escaped quoted) rest
    else if c = '"' then readFrom (.text !quoted) rest
    else if quoted then (readFrom (.text true) rest).map (.char c :: ·)
    else if c = '\'' then readFrom .verbatim rest
    else if c = ' ' ∨ c = '\t' then readFrom .ended rest
    else (readFrom (.text false) rest).map (.char c :: ·)
  | .escaped quoted, c :: rest =>
    match unescape? c with
    | some c => (readFrom (.text quoted) rest).map (.char c :: ·)
    | none => none
  | .name quoted name, c :: rest =>
    if Text.isAlphanumeric c then readFrom (.name quoted (name ++ [c])) rest
    else if c = '{' ∧ name = [] then readFrom (.braced quoted []) rest
    else if c = '$' then (readFrom (.name quoted []) rest).map (referenceTo name :: ·)
    else (readFrom (.text quoted) rest).map ([referenceTo name, .char c] ++ ·)
  | .braced quoted name, c :: rest =>
    if c = '}' then (readFrom (.text quoted) rest).map (referenceTo name :: ·)
    else readFrom (.braced quoted (name ++ [c])) rest
  | .verbatim, c :: rest =>
    if c = '\'' then readFrom (.text false) rest
    else (readFrom .verbatim rest).map (.char c :: ·)
  | .ended, c :: rest =>
    if c = ' ' ∨ c = '\t' then readFrom .ended rest
    else if c = '#' then some []
    else none

/-- The value that a text writes, which may be empty or a comment. -/
def readValue : List Char → Option (List Piece)
  | [] | '#' :: _ => some []
  | cs => readFrom (.text false) cs

/-- The text that a value stands for, given what its references stand for. -/
def textOf (held : String → String) (value : List Piece) : String :=
  String.ofList <| value.flatMap fun
    | .char c => [c]
    | .reference variableName => (held variableName).toList

end DocPortal.EnvFile
