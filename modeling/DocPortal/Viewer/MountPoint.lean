/-
The page element the viewer is mounted on, named by an id selector: `#` and
an ASCII identifier of CSS.

An identifier starts with a letter or `_`, or with `-` and one more
character that is no digit, and goes on with letters, digits, `-` and `_`.
Such a selector needs no escaping in a script, in JSON or in an attribute.
-/
import DocPortal.Viewer.Error

namespace DocPortal.Viewer

/-- A character an identifier may start with. -/
def isIdentifierStart (c : Char) : Bool :=
  c.isAlpha || c = '_' || c = '-'

/-- A character an identifier may go on with. -/
def isIdentifierChar (c : Char) : Bool :=
  c.isAlphanum || c = '_' || c = '-'

/-- The characters of an identifier. -/
def isIdentifier : List Char → Bool
  | [] => false
  | ['-'] => false
  | '-' :: second :: rest =>
    !second.isDigit && (second :: rest).all isIdentifierChar
  | first :: rest => isIdentifierStart first && rest.all isIdentifierChar

/-- The characters of an id selector. -/
def isIdSelector : List Char → Bool
  | '#' :: identifier => isIdentifier identifier
  | _ => false

/-- The selector of the element the viewer is mounted on. -/
structure MountPoint where
  selector : String
  isId : isIdSelector selector.toList = true
deriving DecidableEq

namespace MountPoint

/-- Reads a selector as it is written: no blank is trimmed. -/
def parse (selector : String) : Except ConfigError MountPoint :=
  if h : isIdSelector selector.toList then .ok ⟨selector, h⟩
  else .error (.invalidMountPoint selector)

/-- The id of the element, which is the selector without its `#`. -/
def elementId (mount : MountPoint) : String :=
  String.ofList mount.selector.toList.tail

/-- Where the viewer is mounted unless told otherwise. -/
def defaultSelector : String := "#swagger-ui"

end MountPoint

end DocPortal.Viewer
