/-
Blank characters, and trimming by them.

A character is blank when it has the Unicode property White_Space. That is
more than ASCII's blanks (the no-break space U+00A0, the ideographic space
U+3000 and the line separators belong to it) and less than what prints as
nothing (the zero width space U+200B and the byte order mark U+FEFF do
not). Every setting, entry and name the service reads is trimmed by this
one rule.
-/

namespace DocPortal.Text

/-- The code points of White_Space, as ranges with both ends included. -/
def blankRanges : List (Nat × Nat) :=
  [(0x0009, 0x000D), (0x0020, 0x0020), (0x0085, 0x0085), (0x00A0, 0x00A0), (0x1680, 0x1680),
   (0x2000, 0x200A), (0x2028, 0x2029), (0x202F, 0x202F), (0x205F, 0x205F), (0x3000, 0x3000)]

example : (blankRanges.map fun (low, high) => high + 1 - low).sum = 25 := rfl

/-- A character of White_Space. -/
def isBlankChar (c : Char) : Bool :=
  blankRanges.any fun (low, high) => low ≤ c.toNat && c.toNat ≤ high

/-- A text without a character that is not blank; the empty text is one. -/
def isBlank (s : String) : Bool :=
  s.toList.all isBlankChar

/-- The characters left when those that `drop` marks are taken off the end. -/
def dropEndWhile (drop : Char → Bool) (cs : List Char) : List Char :=
  (cs.reverse.dropWhile drop).reverse

/-- The characters between the blanks at both ends. -/
def trimChars (cs : List Char) : List Char :=
  dropEndWhile isBlankChar (cs.dropWhile isBlankChar)

/-- The text between the blanks at both ends. -/
def trim (s : String) : String :=
  String.ofList (trimChars s.toList)

/-- The text without the `c`s at its end. -/
def trimEndOf (c : Char) (s : String) : String :=
  String.ofList (dropEndWhile (· == c) s.toList)

@[simp]
theorem toList_trim (s : String) : (trim s).toList = trimChars s.toList := by
  simp [trim]

@[simp]
theorem toList_trimEndOf (c : Char) (s : String) :
    (trimEndOf c s).toList = dropEndWhile (· == c) s.toList := by
  simp [trimEndOf]

end DocPortal.Text
