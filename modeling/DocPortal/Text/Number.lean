/-
Numbers as an operator writes them.

A natural number is ASCII digits with any number of leading zeros, perhaps
after one `+`. A number in general may have either sign, a point before,
between or behind its digits, and an exponent; `inf`, `infinity` and `nan`
in any letter case are numbers too.
-/

namespace DocPortal.Text

/-! ## Natural numbers -/

/-- The digits of a written number: all of it, or what follows one `+`. -/
def digitsOf : List Char → List Char
  | '+' :: digits => digits
  | digits => digits

/-- One ASCII digit or more, and nothing else. -/
def isDigits (text : List Char) : Bool :=
  text ≠ [] && text.all Char.isDigit

/-- The number that a text writes. -/
def readNumber (text : List Char) : Option Nat :=
  let digits := digitsOf text
  if isDigits digits then some (Nat.ofDigitChars 10 digits 0) else none

/-! ## Numbers in general -/

/-- What follows the sign of a number; the sign may be missing. -/
def unsigned : List Char → List Char
  | '+' :: rest | '-' :: rest => rest
  | text => text

/-- What follows the digits of a number: nothing, or an exponent. -/
def isExponent : List Char → Bool
  | [] => true
  | c :: rest => c.toLower = 'e' && isDigits (unsigned rest)

/-- A number in digits, without a sign: one digit at least, before or behind the point. -/
def isMagnitude (text : List Char) : Bool :=
  let whole := text.takeWhile Char.isDigit
  match text.dropWhile Char.isDigit with
  | '.' :: rest =>
    (whole ≠ [] || rest.takeWhile Char.isDigit ≠ []) && isExponent (rest.dropWhile Char.isDigit)
  | rest => whole ≠ [] && isExponent rest

/-- Whether a text is a number. -/
def isNumber (text : List Char) : Bool :=
  let magnitude := unsigned text
  isMagnitude magnitude ||
    magnitude.map Char.toLower ∈ [['i', 'n', 'f'], "infinity".toList, ['n', 'a', 'n']]

end DocPortal.Text
