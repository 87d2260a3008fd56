/-
JSON string literals: writing and reading.

The service escapes the quote, the backslash and the control characters
below U+0020, with the short escape where JSON has one, and every other
character stands for itself. The reader takes every escape of JSON apart
from halves of surrogate pairs, which the writer never needs. Reading what
was written gives back the text, whatever follows the literal
(`readString_escapeChars`).
-/
import DocPortal.Text.Hex

namespace DocPortal.Json

/-- What is written for one character between the quotes. -/
def escapeChar (c : Char) : List Char :=
  match c with
  | '"' => ['\\', '"']
  | '\\' => ['\\', '\\']
  | '\x08' => ['\\', 'b']
  | '\x0c' => ['\\', 'f']
  | '\n' => ['\\', 'n']
  | '\r' => ['\\', 'r']
  | '\t' => ['\\', 't']
  | c =>
    if c.toNat < 0x20 then
      ['\\', 'u', '0', '0', Text.hexDigit (c.toNat / 16), Text.hexDigit (c.toNat % 16)]
    else [c]

/-- What is written between the quotes for a whole text. -/
def escapeChars (cs : List Char) : List Char :=
  cs.flatMap escapeChar

/-- A text as a JSON string literal, its quotes included. -/
def quoted (s : String) : String :=
  "\"" ++ String.ofList (escapeChars s.toList) ++ "\""

@[simp]
theorem escapeChars_nil : escapeChars [] = [] := rfl

@[simp]
theorem escapeChars_cons (c : Char) (cs : List Char) :
    escapeChars (c :: cs) = escapeChar c ++ escapeChars cs := by
  simp [escapeChars]

@[simp]
theorem toList_quoted (s : String) :
    (quoted s).toList = '"' :: (escapeChars s.toList ++ ['"']) := by
  simp [quoted]

/-! ## Reading -/

/-- The character that `\u` and four hexadecimal digits stand for, if they stand for a whole one. -/
def unicodeChar? (a b c d : Char) : Option Char := do
  let value := 4096 * (← Text.hexValue? a) + 256 * (← Text.hexValue? b) +
    16 * (← Text.hexValue? c) + (← Text.hexValue? d)
  if value.isValidChar then some (Char.ofNat value) else none

/-- The character that a backslash and one more character stand for. -/
def shortEscape? : Char → Option Char
  | '"' => some '"'
  | '\\' => some '\\'
  | '/' => some '/'
  | 'b' => some '\x08'
  | 'f' => some '\x0c'
  | 'n' => some '\n'
  | 'r' => some '\r'
  | 't' => some '\t'
  | _ => none

/-- The text of a literal and what follows its closing quote, read from behind its opening one. -/
def readString : List Char → Option (List Char × List Char)
  | [] => none
  | '"' :: rest => some ([], rest)
  | '\\' :: 'u' :: a :: b :: c :: d :: rest => do
    let char ← unicodeChar? a b c d
    let (text, after) ← readString rest
    return (char :: text, after)
  | '\\' :: c :: rest => do
    let char ← shortEscape? c
    let (text, after) ← readString rest
    return (char :: text, after)
  | c :: rest =>
    if c.toNat < 0x20 ∨ c = '\\' then none
    else do
      let (text, after) ← readString rest
      return (c :: text, after)

theorem unicodeChar?_control {n : Nat} (h : n < 0x20) :
    unicodeChar? '0' '0' (Text.hexDigit (n / 16)) (Text.hexDigit (n % 16)) =
      some (Char.ofNat n) := by
  have hall : ∀ m < 0x20, unicodeChar? '0' '0' (Text.hexDigit (m / 16)) (Text.hexDigit (m % 16)) =
      some (Char.ofNat m) := by decide
  exact hall n h

/-- What is written for a character is read as that character. -/
theorem readString_escapeChar (c : Char) (rest : List Char) :
    readString (escapeChar c ++ rest) =
      (readString rest).map fun (text, after) => (c :: text, after) := by
  unfold escapeChar
  split
  iterate 7
    · cases hrest : readString rest <;> simp [readString, shortEscape?, hrest]
  · next hquote hbackslash _ _ _ _ _ =>
    split
    · next hcontrol =>
      have hchar := unicodeChar?_control hcontrol
      rw [Char.ofNat_toNat] at hchar
      cases hrest : readString rest <;> simp [readString, hchar, hrest]
    · next hcontrol =>
      rw [List.singleton_append, readString, if_neg (not_or.2 ⟨hcontrol, hbackslash⟩)]
      · cases readString rest <;> rfl
      · exact hquote
      · exact fun _ _ _ _ _ h _ => hbackslash h
      · exact fun _ _ h _ => hbackslash h

/-- A written literal is read as its text, up to its closing quote and no further. -/
theorem readString_escapeChars (cs rest : List Char) :
    readString (escapeChars cs ++ '"' :: rest) = some (cs, rest) := by
  induction cs with
  | nil => simp [readString]
  | cons c cs ih => rw [escapeChars_cons, List.append_assoc, readString_escapeChar, ih]; rfl

end DocPortal.Json
