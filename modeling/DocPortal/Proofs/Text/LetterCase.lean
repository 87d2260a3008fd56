/-
Letter case. Lower case changes the twenty-six capitals of ASCII and no
other character, so it makes no character blank, and a text is trimmed and
lowered in either order. What a text writes in any letter case, and with
any blanks around it, is one word (`writesWord_iff`).
-/
import Mathlib.Data.List.Forall2
import DocPortal.Proofs.Text.Blank

namespace DocPortal.Text

theorem toList_toLower (text : String) : text.toLower.toList = text.toList.map Char.toLower :=
  String.toList_map

theorem isAlpha_iff {c : Char} :
    c.isAlpha = true ↔ 65 ≤ c.toNat ∧ c.toNat ≤ 90 ∨ 97 ≤ c.toNat ∧ c.toNat ≤ 122 := by
  show (decide (c.val ≥ 'A'.val ∧ c.val ≤ 'Z'.val) ||
    decide (c.val ≥ 'a'.val) && decide (c.val ≤ 'z'.val)) = true ↔ _
  simp only [Bool.or_eq_true, Bool.and_eq_true, decide_eq_true_eq, ge_iff_le,
    UInt32.le_iff_toNat_le]
  rfl

theorem exists_capital_eq {c : Char} (h : 'A' ≤ c ∧ c ≤ 'Z') :
    ∃ n < 26, c = Char.ofNat ('A'.toNat + n) := by
  have hlow : 'A'.toNat ≤ c.toNat := UInt32.le_iff_toNat_le.1 h.1
  have hhigh : c.toNat ≤ 90 := UInt32.le_iff_toNat_le.1 h.2
  have hA : 'A'.toNat = 65 := rfl
  refine ⟨c.toNat - 'A'.toNat, by omega, ?_⟩
  rw [Nat.add_sub_cancel' hlow, Char.ofNat_toNat]

/-- Lower case changes nothing but the twenty-six letters. -/
theorem toLower_cases (c : Char) : c.toLower = c ∨ ∃ n < 26, c = Char.ofNat ('A'.toNat + n) := by
  by_cases hcapital : 'A' ≤ c ∧ c ≤ 'Z'
  · exact .inr (exists_capital_eq hcapital)
  · exact .inl (dif_neg hcapital)

/-- Only a letter is lowered to a letter. -/
theorem toLower_eq_iff {c d : Char} (h : d.isAlpha = false) : c.toLower = d ↔ c = d := by
  rcases toLower_cases c with hsame | ⟨n, hn, rfl⟩
  · rw [hsame]
  · have hletters : ∀ n < 26, (Char.ofNat ('A'.toNat + n)).isAlpha = true ∧
        (Char.ofNat ('A'.toNat + n)).toLower.isAlpha = true := by decide
    obtain ⟨hupper, hlower⟩ := hletters n hn
    constructor
    · rintro rfl
      rw [hlower] at h
      cases h
    · rintro rfl
      rw [hupper] at h
      cases h

theorem isBlankChar_toLower (c : Char) : isBlankChar c.toLower = isBlankChar c := by
  rcases toLower_cases c with hsame | ⟨n, hn, rfl⟩
  · rw [hsame]
  · revert n
    decide

theorem isBlank_toLower (text : String) : isBlank text.toLower = isBlank text := by
  have hblank : isBlankChar ∘ Char.toLower = isBlankChar := funext isBlankChar_toLower
  rw [isBlank, toList_toLower, List.all_map, hblank, ← isBlank]

theorem toLower_toLower (text : String) : text.toLower.toLower = text.toLower := by
  have hchar (c : Char) : c.toLower.toLower = c.toLower := by
    rcases toLower_cases c with hsame | ⟨n, hn, rfl⟩
    · rw [hsame, hsame]
    · revert n
      decide
  rw [← String.toList_inj, toList_toLower, toList_toLower, List.map_map]
  exact List.map_congr_left fun c _ => hchar c

theorem dropEndWhile_map_toLower (cs : List Char) :
    dropEndWhile isBlankChar (cs.map Char.toLower) =
      (dropEndWhile isBlankChar cs).map Char.toLower := by
  have hblank : isBlankChar ∘ Char.toLower = isBlankChar := funext isBlankChar_toLower
  rw [dropEndWhile, ← List.map_reverse, List.dropWhile_map, hblank, ← List.map_reverse,
    ← dropEndWhile]

theorem trim_toLower (text : String) : trim text.toLower = (trim text).toLower := by
  have hblank : isBlankChar ∘ Char.toLower = isBlankChar := funext isBlankChar_toLower
  rw [← String.toList_inj, toList_trim, toList_toLower, toList_toLower, toList_trim, trimChars,
    List.dropWhile_map, hblank, dropEndWhile_map_toLower, ← trimChars]

/-! ## Words -/

/-- A character is another one in lower case: the small letter of a capital of ASCII, and any other
character itself. -/
def IsLowerOf (c lower : Char) : Prop :=
  if 'A' ≤ c ∧ c ≤ 'Z' then lower.toNat = c.toNat + ('a'.toNat - 'A'.toNat) else lower = c

theorem isLowerOf_iff {c lower : Char} : IsLowerOf c lower ↔ c.toLower = lower := by
  unfold IsLowerOf
  split
  · next hcapital =>
    have hsmall : ∀ n < 26, (Char.ofNat ('A'.toNat + n)).toNat + ('a'.toNat - 'A'.toNat) =
        (Char.ofNat ('A'.toNat + n)).toLower.toNat := by decide
    obtain ⟨n, hn, rfl⟩ := exists_capital_eq hcapital
    rw [hsmall n hn, Char.toNat_inj, eq_comm]
  · next hother =>
    have hsame : c.toLower = c := dif_neg hother
    rw [hsame, eq_comm]

/-- A text is another one in lower case, character by character. -/
def IsLowered (text lower : String) : Prop :=
  List.Forall₂ IsLowerOf text.toList lower.toList

theorem isLowered_iff {text lower : String} : IsLowered text lower ↔ text.toLower = lower := by
  have hchars : IsLowerOf = fun c lower => c.toLower = lower :=
    funext₂ fun _ _ => propext isLowerOf_iff
  rw [IsLowered, hchars, ← String.toList_inj, toList_toLower, ← List.forall₂_eq_eq_eq,
    List.forall₂_map_left_iff]

/-- A text writes a word: in any letter case, and with blanks around it or without. -/
def WritesWord (text word : String) : Prop :=
  IsTrimmed word ∧ ∃ cased, IsLowered cased word ∧ IsPadded cased text

theorem writesWord_iff {text word : String} :
    WritesWord text word ↔ (trim text).toLower = word := by
  constructor
  · rintro ⟨htrimmed, cased, hlowered, hpadded⟩
    rw [hpadded.trim_eq, ← trim_toLower, isLowered_iff.1 hlowered, htrimmed.trim_eq]
  · rintro rfl
    refine ⟨?_, trim text, isLowered_iff.2 rfl, isPadded_trim text⟩
    rw [isTrimmed_iff, trim_toLower, trim_trim]

/-- A mark that is in no word is in none that is written in another letter case. -/
theorem WritesWord.not_mem {text word : String} {mark : Char} (h : WritesWord text word)
    (halpha : mark.isAlpha = false) (hblank : isBlankChar mark = false)
    (hmem : mark ∉ word.toList) : mark ∉ text.toList := by
  obtain ⟨-, cased, hlowered, hpadded⟩ := h
  refine hpadded.not_mem hblank fun hcased => hmem ?_
  rw [← isLowered_iff.1 hlowered, toList_toLower, List.mem_map]
  exact ⟨mark, hcased, (toLower_eq_iff halpha).2 rfl⟩

end DocPortal.Text
