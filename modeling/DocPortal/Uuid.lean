/-
UUIDs: the texts that write one, and the text of a new one.

A text is matched against a form, where `x` stands for a hexadecimal digit
and any other character for itself, in either letter case. There are four
forms; a new UUID is written in the hyphenated one, in lower case.
-/
import DocPortal.Text.Hex

namespace DocPortal

open Text (isHexDigit isHexDigit_hexDigit)

namespace Uuid

/-! ## Forms -/

/-- Whether a text has a form. -/
def fits : (form text : List Char) → Bool
  | [], [] => true
  | f :: form, c :: text => (if f = 'x' then isHexDigit c else c.toLower = f) && fits form text
  | _, _ => false

/-- The digits in groups of eight, four, four, four and twelve, with hyphens between. -/
def hyphenatedForm : String := "xxxxxxxx-xxxx-xxxx-xxxx-xxxxxxxxxxxx"

/-- The forms of a UUID. -/
def forms : List String :=
  ["xxxxxxxxxxxxxxxxxxxxxxxxxxxxxxxx",
   hyphenatedForm,
   "\x7b" ++ hyphenatedForm ++ "\x7d",
   "urn:uuid:" ++ hyphenatedForm]

/-- A text that writes a UUID in one of its forms. -/
def isWritten (text : List Char) : Bool :=
  forms.any fun form => fits form.toList text

/-- A form with the digits for its `x`s, one after the other. -/
def fill : (form digits : List Char) → List Char
  | [], _ => []
  | 'x' :: form, d :: digits => d :: fill form digits
  | f :: form, digits => f :: fill form digits

/-- What fills the `x`s of a form in lower case with enough digits has the form. -/
theorem fits_fill {form digits : List Char} (hform : (form.all fun f => f.toLower = f) = true)
    (hdigits : ∀ d ∈ digits, isHexDigit d = true) (hcount : form.count 'x' ≤ digits.length) :
    fits form (fill form digits) = true := by
  induction form, digits using fill.induct with
  | case1 digits => rfl
  | case2 form d digits ih =>
    simp only [List.all_cons, Bool.and_eq_true] at hform
    simp only [List.count_cons_self, List.length_cons, Nat.add_le_add_iff_right] at hcount
    simp only [fill, fits, if_true, hdigits d (by simp), Bool.true_and]
    exact ih hform.2 (fun e he => hdigits e (by simp [he])) hcount
  | case3 f form digits hx ih =>
    have hne : f ≠ 'x' := by
      rintro rfl
      cases digits with
      | nil => simp at hcount
      | cons d digits => exact hx d digits rfl rfl
    simp only [List.all_cons, Bool.and_eq_true] at hform
    rw [List.count_cons_of_ne hne] at hcount
    simp only [fill, fits, if_neg hne, hform.1, Bool.true_and]
    exact ih hform.2 hdigits hcount

end Uuid

/-! ## New UUIDs -/

/-- A UUID, which is 128 bits. -/
structure Uuid where
  bits : BitVec 128
deriving DecidableEq, Repr

namespace Uuid

/-- The thirty-two hexadecimal digits, the most significant first. -/
def digits (uuid : Uuid) : List Char :=
  (List.range 32).map fun i => Text.hexDigit (uuid.bits.toNat >>> (4 * (31 - i)) % 16)

/-- The hyphenated text in lower case. -/
def text (uuid : Uuid) : String :=
  String.ofList (fill hyphenatedForm.toList uuid.digits)

theorem fits_text (uuid : Uuid) : fits hyphenatedForm.toList uuid.text.toList = true := by
  rw [text, String.toList_ofList]
  refine fits_fill (by decide) (fun d hd => ?_) (by simp [digits, hyphenatedForm])
  simp only [digits, List.mem_map] at hd
  obtain ⟨i, _, rfl⟩ := hd
  exact isHexDigit_hexDigit (Nat.mod_lt _ (by decide))

/-- What is written for a UUID is read as one. -/
theorem isWritten_text (uuid : Uuid) : isWritten uuid.text.toList = true := by
  simp [isWritten, forms, fits_text]

end Uuid

end DocPortal
