/-
What texts write a number. A natural number is read from its digits, with
any zeros in front and perhaps one `+`, and from no other text
(`readNumber_eq_some_iff`).
-/
import Mathlib.Data.List.Induction
import Mathlib.Data.Nat.Digits.Defs
import DocPortal.Text.Number

namespace DocPortal.Text

/-- The number that digits write, with the digit of the ones last. -/
def decimalValue (digits : List Char) : Nat :=
  Nat.ofDigits 10 (digits.reverse.map fun c => c.toNat - '0'.toNat)

theorem decimalValue_concat (digits : List Char) (c : Char) :
    decimalValue (digits ++ [c]) = 10 * decimalValue digits + (c.toNat - '0'.toNat) := by
  rw [decimalValue, List.reverse_append, List.reverse_singleton, List.singleton_append,
    List.map_cons, Nat.ofDigits_cons, ← decimalValue, Nat.add_comm]

theorem ofDigitChars_eq_decimalValue (digits : List Char) :
    Nat.ofDigitChars 10 digits 0 = decimalValue digits := by
  induction digits using List.reverseRecOn with
  | nil => rfl
  | append_singleton digits c ih =>
    rw [Nat.ofDigitChars_append, ih, decimalValue_concat, Nat.ofDigitChars_cons,
      Nat.ofDigitChars_nil]

/-- Characters write a number: a `+` or none, and the digits of the number, with any zeros in
front. -/
def WritesNumber (cs : List Char) (n : Nat) : Prop :=
  ∃ sign digits, cs = sign ++ digits ∧ (sign = [] ∨ sign = ['+']) ∧ digits ≠ [] ∧
    (∀ c ∈ digits, c.isDigit = true) ∧ decimalValue digits = n

theorem exists_sign_append_digitsOf (cs : List Char) :
    ∃ sign, cs = sign ++ digitsOf cs ∧ (sign = [] ∨ sign = ['+']) := by
  unfold digitsOf
  split
  · exact ⟨['+'], rfl, .inr rfl⟩
  · exact ⟨[], rfl, .inl rfl⟩

theorem digitsOf_sign_append {sign digits : List Char} (hsign : sign = [] ∨ sign = ['+'])
    (hdigits : ∀ c ∈ digits, c.isDigit = true) : digitsOf (sign ++ digits) = digits := by
  rcases hsign with rfl | rfl
  · unfold digitsOf
    split
    next rest heq =>
      have hmem : '+' ∈ digits := by
        rw [← List.nil_append digits, heq]
        exact List.mem_cons_self
      exact absurd (hdigits '+' hmem) (by decide)
    next => rfl
  · rfl

theorem isDigits_iff {cs : List Char} :
    isDigits cs = true ↔ cs ≠ [] ∧ ∀ c ∈ cs, c.isDigit = true := by
  rw [isDigits, Bool.and_eq_true, decide_eq_true_iff, List.all_eq_true]

theorem readNumber_eq_some_iff {cs : List Char} {n : Nat} :
    readNumber cs = some n ↔ WritesNumber cs n := by
  rw [readNumber, Option.ite_none_right_eq_some, isDigits_iff, ofDigitChars_eq_decimalValue,
    Option.some.injEq]
  constructor
  · rintro ⟨⟨hne, hdigits⟩, hvalue⟩
    obtain ⟨sign, hcs, hsign⟩ := exists_sign_append_digitsOf cs
    exact ⟨sign, digitsOf cs, hcs, hsign, hne, hdigits, hvalue⟩
  · rintro ⟨sign, digits, rfl, hsign, hne, hdigits, hvalue⟩
    rw [digitsOf_sign_append hsign hdigits]
    exact ⟨⟨hne, hdigits⟩, hvalue⟩

end DocPortal.Text
