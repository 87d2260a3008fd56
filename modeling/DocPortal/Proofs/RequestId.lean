/-
Request ids by what a request brings: a text that is a UUID between blanks
is kept, and for any other the new UUID takes its place. Every id is a
header value.
-/
import DocPortal.RequestId

namespace DocPortal

open Http (HeaderValue)

namespace Uuid

theorem mem_fill {form digits : List Char} {c : Char} (h : c ∈ fill form digits) :
    c ∈ form ∨ c ∈ digits := by
  induction form, digits using fill.induct with
  | case1 digits => cases h
  | case2 form d digits ih =>
    rw [fill, List.mem_cons] at h
    rcases h with rfl | h
    · exact .inr List.mem_cons_self
    · exact (ih h).imp (List.mem_cons_of_mem _) (List.mem_cons_of_mem _)
  | case3 f form digits hx ih =>
    rw [fill, List.mem_cons] at h
    · rcases h with rfl | h
      · exact .inl List.mem_cons_self
      · exact (ih h).imp_left (List.mem_cons_of_mem _)
    · exact hx

/-- The hyphenated form of a UUID, in lower case. -/
def IsPlain (text : String) : Prop :=
  fits hyphenatedForm.toList text.toList = true ∧ ∀ c ∈ text.toList, c.isUpper = false

theorem isPlain_text (uuid : Uuid) : IsPlain uuid.text := by
  have hform : (hyphenatedForm.toList.all fun c => c.isUpper == false) = true := by decide
  have hdigit : ∀ n < 16, (Text.hexDigit n).isUpper = false := by decide
  refine ⟨uuid.fits_text, ?_⟩
  intro c hc
  rw [text, String.toList_ofList] at hc
  rcases mem_fill hc with hc | hc
  · exact eq_of_beq (List.all_eq_true.1 hform c hc)
  · simp only [digits, List.mem_map] at hc
    obtain ⟨i, -, rfl⟩ := hc
    exact hdigit _ (Nat.mod_lt _ (by decide))

end Uuid

namespace RequestId

theorem text_resolve_of_written {text : String}
    (h : Uuid.isWritten (Text.trim text).toList = true) (fresh : Uuid) :
    (resolve fresh (some text)).text = Text.trim text := by
  rw [resolve, Option.bind_some, ofText?, dif_pos h, Option.getD_some]

theorem resolve_of_not_written {incoming : Option String}
    (h : ∀ text, incoming = some text → ¬ Uuid.isWritten (Text.trim text).toList = true)
    (fresh : Uuid) : resolve fresh incoming = ofUuid fresh := by
  cases incoming with
  | none => rfl
  | some text => rw [resolve, Option.bind_some, ofText?, dif_neg (h text rfl), Option.getD_none]

theorem text_ne {text : String} (h : Uuid.isWritten text.toList = false) (id : RequestId) :
    id.text ≠ text := by
  rintro rfl
  rw [id.isWritten] at h
  cases h

theorem ofText?_text (id : RequestId) : HeaderValue.ofText? id.text = some id.headerValue :=
  HeaderValue.ofText?_eq_some_iff.2 rfl

theorem visible?_headerValue (id : RequestId) : id.headerValue.visible? = some id.text :=
  HeaderValue.visible?_ofVisible id.text id.all_isVisibleChar

end RequestId

end DocPortal
