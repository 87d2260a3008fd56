/-
What a selector holds: a `#`, and behind it nothing but the characters of an
identifier. So it has no blank to be trimmed.
-/
import DocPortal.Proofs.Text.LetterCase
import DocPortal.Viewer.MountPoint

namespace DocPortal.Viewer

theorem isIdentifierChar_of_isIdentifierStart {c : Char} (h : isIdentifierStart c = true) :
    isIdentifierChar c = true := by
  simp only [isIdentifierStart, isIdentifierChar, Char.isAlphanum, Bool.or_eq_true] at h ⊢
  tauto

theorem isIdentifierChar_of_mem {cs : List Char} (h : isIdentifier cs = true) :
    ∀ c ∈ cs, isIdentifierChar c = true := by
  unfold isIdentifier at h
  split at h
  · exact absurd h (by decide)
  · exact absurd h (by decide)
  · next second rest =>
    rw [Bool.and_eq_true, List.all_eq_true] at h
    intro c hc
    rcases List.mem_cons.1 hc with rfl | hc
    · decide
    · exact h.2 c hc
  · next first rest =>
    rw [Bool.and_eq_true, List.all_eq_true] at h
    intro c hc
    rcases List.mem_cons.1 hc with rfl | hc
    · exact isIdentifierChar_of_isIdentifierStart h.1
    · exact h.2 c hc

theorem eq_or_isIdentifierChar_of_mem {cs : List Char} (h : isIdSelector cs = true) :
    ∀ c ∈ cs, c = '#' ∨ isIdentifierChar c = true := by
  unfold isIdSelector at h
  split at h
  next identifier =>
    intro c hc
    rcases List.mem_cons.1 hc with rfl | hc
    · exact .inl rfl
    · exact .inr (isIdentifierChar_of_mem h c hc)
  next => cases h

theorem isBlankChar_of_isIdentifierChar {c : Char} (h : isIdentifierChar c = true) :
    Text.isBlankChar c = false := by
  simp only [isIdentifierChar, Char.isAlphanum, Text.isAlpha_iff, Char.isDigit, Bool.or_eq_true,
    Bool.and_eq_true, decide_eq_true_eq, UInt32.le_iff_toNat_le, ge_iff_le] at h
  have hcode : c.toNat = c.val.toNat := rfl
  have h0 : '0'.val.toNat = 48 ∧ '9'.val.toNat = 57 := by decide
  rcases h with (h | rfl) | rfl
  · exact Text.isBlankChar_eq_false_of_visible (by omega) (by omega)
  · decide
  · decide

/-- No writer gives a character of an identifier another meaning. -/
theorem plain_of_isIdentifierChar {c : Char} (h : isIdentifierChar c = true) :
    0x20 ≤ c.toNat ∧ c ∉ "\"\\&<>".toList := by
  have hcontrol : ∀ n < 0x20, isIdentifierChar (Char.ofNat n) = false := by decide
  have hmarks : ("\"\\&<>".toList.all fun d => !isIdentifierChar d) = true := by decide
  constructor
  · by_contra hlow
    have hnot := hcontrol c.toNat (by omega)
    rw [Char.ofNat_toNat, h] at hnot
    cases hnot
  · intro hmem
    have hnot := List.all_eq_true.1 hmarks c hmem
    rw [h] at hnot
    cases hnot

namespace MountPoint

theorem plain_of_mem_selector (mount : MountPoint) {c : Char} (hc : c ∈ mount.selector.toList) :
    0x20 ≤ c.toNat ∧ c ∉ "\"\\&<>".toList := by
  rcases eq_or_isIdentifierChar_of_mem mount.isId c hc with rfl | hchar
  · decide
  · exact plain_of_isIdentifierChar hchar

theorem selector_eq_cons (mount : MountPoint) :
    mount.selector.toList = '#' :: mount.elementId.toList := by
  have hid := mount.isId
  rw [elementId, String.toList_ofList]
  unfold isIdSelector at hid
  split at hid
  · next identifier hselector => rw [hselector, List.tail_cons]
  · cases hid

end MountPoint

theorem MountPoint.trim_selector (mount : MountPoint) :
    Text.trim mount.selector = mount.selector := by
  refine (Text.isTrimmed_of_forall fun c hc => ?_).trim_eq
  rcases eq_or_isIdentifierChar_of_mem mount.isId c hc with rfl | hchar
  · decide
  · exact isBlankChar_of_isIdentifierChar hchar

end DocPortal.Viewer
