/-
Request ids: a request keeps the id it comes with when that is a UUID, and
is given a new one otherwise.

An id is visible ASCII in every form a UUID has, so it can always be sent
on in a header, and the next service that applies the same rule keeps it.
-/
import DocPortal.Http.Header
import DocPortal.Text.Blank
import DocPortal.Uuid

namespace DocPortal

open Http (HeaderValue)

/-- The id of a request: a UUID in one of its forms. -/
structure RequestId where
  text : String
  isWritten : Uuid.isWritten text.toList = true
deriving DecidableEq

namespace RequestId

/-- The id that a text is, apart from blanks around it. -/
def ofText? (text : String) : Option RequestId :=
  if h : Uuid.isWritten (Text.trim text).toList then some ⟨Text.trim text, h⟩ else none

/-- The id of a new UUID. -/
def ofUuid (uuid : Uuid) : RequestId :=
  ⟨uuid.text, uuid.isWritten_text⟩

/-- The incoming id if it is one, and otherwise that of the new UUID. -/
def resolve (fresh : Uuid) (incoming : Option String) : RequestId :=
  (incoming.bind ofText?).getD (ofUuid fresh)

/-! ## Ids as header values -/

theorem isVisibleChar_of_toLower {c : Char} (h : HeaderValue.isVisibleChar c.toLower = true) :
    HeaderValue.isVisibleChar c = true := by
  by_cases hupper : c.val ≥ 'A'.val ∧ c.val ≤ 'Z'.val
  · obtain ⟨hlow, hhigh⟩ := hupper
    have hlow : 65 ≤ c.toNat := UInt32.le_iff_toNat_le.1 hlow
    have hhigh : c.toNat ≤ 90 := UInt32.le_iff_toNat_le.1 hhigh
    simp only [HeaderValue.isVisibleChar, Bool.or_eq_true, Bool.and_eq_true, decide_eq_true_eq]
    omega
  · have hsame : c.toLower = c := dif_neg hupper
    rwa [hsame] at h

theorem isVisibleChar_of_isHexDigit {c : Char} (h : Text.isHexDigit c = true) :
    HeaderValue.isVisibleChar c = true := by
  simp only [Text.isHexDigit, Bool.or_eq_true, Bool.and_eq_true, decide_eq_true_eq] at h
  obtain h | ⟨hlow, hhigh⟩ := h
  · have h := Char.isDigit_iff_toNat.1 h
    simp only [HeaderValue.isVisibleChar, Bool.or_eq_true, Bool.and_eq_true, decide_eq_true_eq]
    have : '0'.toNat = 48 ∧ '9'.toNat = 57 := by decide
    omega
  · refine isVisibleChar_of_toLower ?_
    have hlow : 97 ≤ c.toLower.toNat := UInt32.le_iff_toNat_le.1 hlow
    have hhigh : c.toLower.toNat ≤ 102 := UInt32.le_iff_toNat_le.1 hhigh
    simp only [HeaderValue.isVisibleChar, Bool.or_eq_true, Bool.and_eq_true, decide_eq_true_eq]
    omega

/-- What has a visible form is visible. -/
theorem all_isVisibleChar_of_fits {form text : List Char}
    (hform : form.all HeaderValue.isVisibleChar = true) (h : Uuid.fits form text = true) :
    text.all HeaderValue.isVisibleChar = true := by
  induction form, text using Uuid.fits.induct with
  | case1 => rfl
  | case2 f form c text ih =>
    simp only [Uuid.fits, Bool.and_eq_true] at h
    simp only [List.all_cons, Bool.and_eq_true] at hform ⊢
    refine ⟨?_, ih hform.2 h.2⟩
    obtain ⟨hc, -⟩ := h
    split at hc
    · exact isVisibleChar_of_isHexDigit hc
    · refine isVisibleChar_of_toLower ?_
      rw [of_decide_eq_true hc]
      exact hform.1
  | case3 => simp_all [Uuid.fits]

theorem all_isVisibleChar (id : RequestId) :
    id.text.toList.all HeaderValue.isVisibleChar = true := by
  have h := id.isWritten
  simp only [Uuid.isWritten, List.any_eq_true] at h
  obtain ⟨form, hmem, hfits⟩ := h
  have hforms : ∀ form ∈ Uuid.forms, form.toList.all HeaderValue.isVisibleChar = true := by decide
  exact all_isVisibleChar_of_fits (hforms form hmem) hfits

/-- The id as a header value. -/
def headerValue (id : RequestId) : HeaderValue :=
  .ofVisible id.text id.all_isVisibleChar

end RequestId

end DocPortal
