/-
How the text of a variable is read as a number or as a switch. Blanks
around the text do not matter.
-/
import DocPortal.Text.Blank
import DocPortal.Text.Number

namespace DocPortal.Settings

/-- The port a text writes: a number that is at most 65535. -/
def readPort (text : String) : Option UInt16 :=
  match Text.readNumber (Text.trimChars text.toList) with
  | some n => if n < UInt16.size then some (UInt16.ofNat n) else none
  | none => none

/-- The words that turn a switch on. -/
def onWords : List String := ["1", "true", "yes", "on"]

/-- The words that turn a switch off. -/
def offWords : List String := ["0", "false", "no", "off"]

/-- The position of a switch that a text names, whatever its letter case. -/
def readSwitch (text : String) : Option Bool :=
  let word := (Text.trim text).toLower
  if word ∈ onWords then some true
  else if word ∈ offWords then some false
  else none

end DocPortal.Settings
