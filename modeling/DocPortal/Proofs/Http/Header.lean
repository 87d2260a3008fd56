/-
Header values as texts, and what a field list has for a name after a field
was set only where there was none.
-/
import DocPortal.Http.Header

namespace DocPortal.Http

namespace HeaderValue

theorem encode_inj {cs ds : List Char} (h : encode cs = encode ds) : cs = ds := by
  have hbytes : (String.ofList cs).toByteArray = (String.ofList ds).toByteArray :=
    congrArg List.toByteArray h
  exact String.ofList_injective (String.toByteArray_inj.1 hbytes)

theorem isVisibleChar_of_mem_visible {bytes : List UInt8} (h : bytes.all isVisibleByte = true) :
    (bytes.map fun b => Char.ofNat b.toNat).all isVisibleChar = true := by
  rw [List.all_map]
  exact h

theorem encode_map_ofNat {bytes : List UInt8} (h : bytes.all isVisibleByte = true) :
    encode (bytes.map fun b => Char.ofNat b.toNat) = bytes := by
  rw [encode_of_visible (isVisibleChar_of_mem_visible h), List.map_map]
  refine (List.map_congr_left fun b _ => ?_).trans (List.map_id _)
  have hvalid : b.toNat.isValidChar := .inl (Nat.lt_trans b.toNat_lt (by decide))
  have hcode : (Char.ofNat b.toNat).toNat = b.toNat := by
    rw [Char.ofNat, dif_pos hvalid]
    rfl
  rw [Function.comp_apply, hcode, UInt8.ofNat_toNat, id]

/-- The text of a value is the one that is visible throughout and has the bytes of the value. -/
theorem visible?_eq_some_iff {value : HeaderValue} {text : String} :
    value.visible? = some text ↔
      text.toList.all isVisibleChar = true ∧ value.bytes = encode text.toList := by
  constructor
  · intro h
    unfold visible? at h
    split at h
    · next hvisible =>
      obtain rfl := Option.some.inj h
      rw [String.toList_ofList]
      exact ⟨isVisibleChar_of_mem_visible hvisible, (encode_map_ofNat hvisible).symm⟩
    · cases h
  · rintro ⟨hvisible, hbytes⟩
    obtain ⟨bytes, hvalue⟩ := value
    subst hbytes
    exact visible?_ofVisible text hvisible

end HeaderValue

namespace Headers

theorem values_setIfAbsent (headers : Headers) (field name : HeaderName) (value : HeaderValue) :
    (headers.setIfAbsent field value).values name =
      if name = field ∧ headers.values name = [] then [value] else headers.values name := by
  by_cases hname : name = field
  · subst hname
    have hself : values [(name, value)] name = [value] := by simp [values]
    unfold setIfAbsent first?
    cases hvalues : headers.values name with
    | nil => simp [hvalues, hself]
    | cons first rest => simp [hvalues]
  · rw [values_setIfAbsent_other headers value hname, if_neg fun h => hname h.1]

/-- A name that has values keeps them. -/
theorem values_setIfAbsent_of_ne_nil {headers : Headers} {name : HeaderName}
    (h : headers.values name ≠ []) (field : HeaderName) (value : HeaderValue) :
    (headers.setIfAbsent field value).values name = headers.values name := by
  rw [values_setIfAbsent, if_neg fun hnil => h hnil.2]

theorem values_setIfAbsent_congr {headers other : Headers} {field name : HeaderName}
    {value otherValue : HeaderValue} (h : headers.values name = other.values name)
    (hvalue : name = field → value = otherValue) :
    (headers.setIfAbsent field value).values name =
      (other.setIfAbsent field otherValue).values name := by
  rw [values_setIfAbsent, values_setIfAbsent, h]
  by_cases hname : name = field
  · rw [hvalue hname]
  · simp only [hname, false_and, if_false]

end Headers

end DocPortal.Http
