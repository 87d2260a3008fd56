/-
HTTP methods and header fields.

A header name is read in any letter case and kept in lower case. A header
value is bytes, which need not be a text's. A field list keeps the fields in
the order they were added; a name may occur more than once, and what is
looked up is its first value.
-/

namespace DocPortal.Http

/-- A request method. Its letter case matters. -/
structure Method where
  token : String
deriving DecidableEq, Repr

namespace Method

def get : Method := ⟨"GET"⟩
def head : Method := ⟨"HEAD"⟩
def options : Method := ⟨"OPTIONS"⟩

end Method

/-! ## Names -/

/-- A character of a header name. -/
def isNameChar (c : Char) : Bool :=
  c.isAlphanum || c ∈ "!#$%&'*+-.^_`|~".toList

/-- A header name that is written in lower case: 1 to 65535 characters, all of them ASCII. -/
def isLowerName (cs : List Char) : Bool :=
  cs ≠ [] && cs.length ≤ 65535 && cs.all fun c => isNameChar c && !c.isUpper

/-- A header name, in lower case. -/
structure HeaderName where
  text : String
  isLower : isLowerName text.toList = true
deriving DecidableEq

namespace HeaderName

/-- The name a text writes, in any letter case. -/
def ofText? (text : String) : Option HeaderName :=
  if h : isLowerName text.toLower.toList then some ⟨text.toLower, h⟩ else none

def contentLength : HeaderName := ⟨"content-length", by decide⟩
def contentType : HeaderName := ⟨"content-type", by decide⟩
def allow : HeaderName := ⟨"allow", by decide⟩
def vary : HeaderName := ⟨"vary", by decide⟩
def origin : HeaderName := ⟨"origin", by decide⟩
def requestHeaders : HeaderName := ⟨"access-control-request-headers", by decide⟩
def allowOrigin : HeaderName := ⟨"access-control-allow-origin", by decide⟩
def allowCredentials : HeaderName := ⟨"access-control-allow-credentials", by decide⟩
def allowMethods : HeaderName := ⟨"access-control-allow-methods", by decide⟩
def allowHeaders : HeaderName := ⟨"access-control-allow-headers", by decide⟩

end HeaderName

/-! ## Values -/

/-- A byte a header value may hold: a tab, or no control character. -/
def isValueByte (b : UInt8) : Bool :=
  b = 0x09 || (0x20 ≤ b && b ≠ 0x7F)

/-- A header value. From 0x80 on its bytes may be any, and need not write a text. -/
structure HeaderValue where
  bytes : List UInt8
  isValue : bytes.all isValueByte = true
deriving DecidableEq

namespace HeaderValue

/-- The bytes that characters are written with. -/
def encode (cs : List Char) : List UInt8 :=
  cs.flatMap String.utf8EncodeChar

/-- The value that a text is, if its bytes allow it. -/
def ofText? (text : String) : Option HeaderValue :=
  if h : (encode text.toList).all isValueByte then some ⟨encode text.toList, h⟩ else none

/-- A text is a value byte for byte or not at all. -/
theorem ofText?_eq_some_iff {text : String} {value : HeaderValue} :
    ofText? text = some value ↔ encode text.toList = value.bytes := by
  obtain ⟨bytes, hbytes⟩ := value
  unfold ofText?
  split
  · simp
  · next hnot =>
    simp only [reduceCtorEq, false_iff]
    intro heq
    exact hnot (heq ▸ hbytes)

/-- The text that a value is shown as, which is empty where its bytes write none. -/
def text (value : HeaderValue) : String :=
  (String.fromUTF8? value.bytes.toByteArray).getD ""

/-- A character that can be read as text: visible ASCII, a space or a tab. -/
def isVisibleChar (c : Char) : Bool :=
  c = '\t' || (0x20 ≤ c.toNat && c.toNat < 0x7F)

/-- The byte of such a character. -/
def isVisibleByte (b : UInt8) : Bool :=
  isVisibleChar (Char.ofNat b.toNat)

/-- The text of a value that is visible ASCII throughout. -/
def visible? (value : HeaderValue) : Option String :=
  if value.bytes.all isVisibleByte then
    some (String.ofList (value.bytes.map fun b => Char.ofNat b.toNat))
  else none

theorem toNat_lt_of_isVisibleChar {c : Char} (h : isVisibleChar c = true) : c.toNat < 0x7F := by
  simp only [isVisibleChar, Bool.or_eq_true, Bool.and_eq_true, decide_eq_true_eq] at h
  rcases h with rfl | ⟨-, hhigh⟩
  · decide
  · exact hhigh

/-- A visible character is written with one byte, which is its code. -/
theorem encode_of_visible {cs : List Char} (h : cs.all isVisibleChar = true) :
    encode cs = cs.map fun c => UInt8.ofNat c.toNat := by
  induction cs with
  | nil => rfl
  | cons c cs ih =>
    simp only [List.all_cons, Bool.and_eq_true] at h
    have hcode : c.val.toNat ≤ 0x7F := Nat.le_of_lt (toNat_lt_of_isVisibleChar h.1)
    have hchar : String.utf8EncodeChar c = [UInt8.ofNat c.toNat] := by
      rw [String.utf8EncodeChar, if_pos hcode]
      rfl
    rw [encode, List.flatMap_cons, hchar, ← encode, ih h.2, List.map_cons, List.singleton_append]

theorem toNat_ofNat_of_isVisibleChar {c : Char} (h : isVisibleChar c = true) :
    (UInt8.ofNat c.toNat).toNat = c.toNat := by
  have hlow := toNat_lt_of_isVisibleChar h
  rw [UInt8.toNat_ofNat']
  omega

theorem isValueByte_of_isVisibleChar {c : Char} (h : isVisibleChar c = true) :
    isValueByte (UInt8.ofNat c.toNat) = true := by
  have hall : ∀ n < 0x7F, (n = 9 ∨ 0x20 ≤ n) → isValueByte (UInt8.ofNat n) = true := by decide
  refine hall c.toNat (toNat_lt_of_isVisibleChar h) ?_
  simp only [isVisibleChar, Bool.or_eq_true, Bool.and_eq_true, decide_eq_true_eq] at h
  rcases h with rfl | ⟨hlow, -⟩
  · exact .inl rfl
  · exact .inr hlow

/-- A text of visible characters as a value. -/
def ofVisible (text : String) (h : text.toList.all isVisibleChar = true) : HeaderValue where
  bytes := encode text.toList
  isValue := by
    rw [encode_of_visible h, List.all_map, List.all_eq_true]
    exact fun c hc => isValueByte_of_isVisibleChar (List.all_eq_true.1 h c hc)

/-- A text of visible characters is read from its value. -/
theorem visible?_ofVisible (text : String) (h : text.toList.all isVisibleChar = true) :
    (ofVisible text h).visible? = some text := by
  have hchars : ∀ c ∈ text.toList, Char.ofNat (UInt8.ofNat c.toNat).toNat = c := fun c hc => by
    rw [toNat_ofNat_of_isVisibleChar (List.all_eq_true.1 h c hc), Char.ofNat_toNat]
  have hbytes : (ofVisible text h).bytes = text.toList.map fun c => UInt8.ofNat c.toNat :=
    encode_of_visible h
  have hvisible : (ofVisible text h).bytes.all isVisibleByte = true := by
    rw [hbytes, List.all_map, List.all_eq_true]
    intro c hc
    rw [Function.comp_apply, isVisibleByte, hchars c hc]
    exact List.all_eq_true.1 h c hc
  have hread : (text.toList.map fun c => UInt8.ofNat c.toNat).map (fun b => Char.ofNat b.toNat) =
      text.toList := by
    rw [List.map_map]
    exact (List.map_congr_left hchars).trans (List.map_id _)
  rw [visible?, if_pos hvisible, hbytes, hread, String.ofList_toList]

/-- A number as a value, in decimal. -/
def ofNat (n : Nat) : HeaderValue :=
  .ofVisible (toString n) <| List.all_eq_true.2 fun c hc => by
    have hdigit : c.isDigit = true := by
      rw [Nat.toString_eq_repr, Nat.repr, String.toList_ofList] at hc
      exact Nat.isDigit_of_mem_toDigits (by decide) (by decide) hc
    have hrange := Char.isDigit_iff_toNat.1 hdigit
    have : '0'.toNat = 48 ∧ '9'.toNat = 57 := by decide
    simp only [isVisibleChar, Bool.or_eq_true, Bool.and_eq_true, decide_eq_true_eq]
    omega

end HeaderValue

/-! ## Field lists -/

/-- Header fields in the order they were added. -/
abbrev Headers := List (HeaderName × HeaderValue)

namespace Headers

/-- The values of a name, in order. -/
def values (headers : Headers) (name : HeaderName) : List HeaderValue :=
  (headers.filter (·.1 = name)).map (·.2)

/-- The first value of a name. -/
def first? (headers : Headers) (name : HeaderName) : Option HeaderValue :=
  (headers.values name).head?

/-- The fields with one value for a name in place of those it had. -/
def set (headers : Headers) (name : HeaderName) (value : HeaderValue) : Headers :=
  headers.filter (·.1 ≠ name) ++ [(name, value)]

/-- The fields with a value for a name that has none yet. -/
def setIfAbsent (headers : Headers) (name : HeaderName) (value : HeaderValue) : Headers :=
  if (headers.first? name).isSome then headers else headers ++ [(name, value)]

/-- The fields by name, those of one name in the order they were added. -/
def sorted (headers : Headers) : Headers :=
  headers.mergeSort fun a b => a.1.text ≤ b.1.text

@[simp]
theorem values_append (a b : Headers) (name : HeaderName) :
    values (a ++ b) name = a.values name ++ b.values name := by
  simp [values]

@[simp]
theorem values_set_self (headers : Headers) (name : HeaderName) (value : HeaderValue) :
    (headers.set name value).values name = [value] := by
  simp [values, set]

theorem values_set_other (headers : Headers) {name other : HeaderName} (value : HeaderValue)
    (h : other ≠ name) : (headers.set name value).values other = headers.values other := by
  have hkept :
      (headers.filter (·.1 ≠ name)).filter (·.1 = other) = headers.filter (·.1 = other) := by
    rw [List.filter_filter]
    refine List.filter_congr fun p _ => ?_
    by_cases hp : p.1 = other <;> simp [hp, h]
  simp only [values, set, List.filter_append, hkept]
  simp [Ne.symm h]

theorem first?_set_other (headers : Headers) {name other : HeaderName} (value : HeaderValue)
    (h : other ≠ name) : (headers.set name value).first? other = headers.first? other := by
  rw [first?, values_set_other headers value h, ← first?]

theorem values_setIfAbsent_other (headers : Headers) {name other : HeaderName}
    (value : HeaderValue) (h : other ≠ name) :
    (headers.setIfAbsent name value).values other = headers.values other := by
  unfold setIfAbsent
  split
  · rfl
  · simp [values, Ne.symm h]

end Headers

end DocPortal.Http
