/-
What a line of a `.env` file says: `NAME=VALUE`, perhaps after `export`. A
blank line and a line that starts with `#` say nothing.
-/
import DocPortal.EnvFile.Value
import DocPortal.Text.Blank

namespace DocPortal.EnvFile

/-- A variable and the value that a line gives to it. -/
structure Entry where
  name : String
  value : List Piece
deriving DecidableEq, Repr

/-- A character a variable's name may start with. -/
def isNameStart (c : Char) : Bool := c.isAlpha || c = '_'

/-- A character a variable's name may go on with. -/
def isNameChar (c : Char) : Bool := c.isAlphanum || c = '_' || c = '.'

/-- A name, and what follows it and the blanks after it. -/
def readName : List Char → Option (List Char × List Char)
  | [] => none
  | c :: rest =>
    if isNameStart c then
      some (c :: rest.takeWhile isNameChar,
        (rest.dropWhile isNameChar).dropWhile Text.isBlankChar)
    else none

/-- A name and what follows its `=`, the word `export` in front of it left out. -/
def readAssigned (line : List Char) : Option (List Char × List Char) :=
  match readName line with
  | some (name, '=' :: rest) => some (name, rest)
  | some (word, rest) =>
    if word = "export".toList then
      match readName rest with
      | some (name, '=' :: rest) => some (name, rest)
      | _ => none
    else none
  | none => none

/-- What a line says: an entry or nothing; or that it breaks the rules. -/
def readLine (line : List Char) : Option (Option Entry) :=
  match Text.trimChars line with
  | [] | '#' :: _ => some none
  | content => do
    let (name, rest) ← readAssigned content
    let value ← readValue (rest.dropWhile Text.isBlankChar)
    return some { name := String.ofList name, value }

end DocPortal.EnvFile
