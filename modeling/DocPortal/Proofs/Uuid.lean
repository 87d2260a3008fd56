/-
The texts that write a UUID, in two other ways than by the forms: as a
grammar of groups of hexadecimal digits, and as a reader of UTF-8 that goes
by the number of bytes first. All three tell the same texts, whatever
characters they are made of.
-/
import DocPortal.Proofs.Text.LetterCase
import DocPortal.Proofs.Text.Utf8
import DocPortal.RequestId
import Mathlib.Data.List.Forall2

namespace DocPortal.Uuid

open Http.HeaderValue (encode)
open Text (asciiByte isAsciiChar isHexDigit)

/-! ## The grammar -/

/-- So many hexadecimal digits, each in either letter case. -/
def IsHex (n : Nat) (cs : List Char) : Prop :=
  cs.length = n ∧ ∀ c ∈ cs, c ∈ "0123456789abcdefABCDEF".toList

/-- Groups of hexadecimal digits, so many in each, with a hyphen between any two. -/
def IsGrouped (sizes : List Nat) (cs : List Char) : Prop :=
  ∃ groups, List.Forall₂ IsHex sizes groups ∧ cs = ['-'].intercalate groups

def IsHyphenated (cs : List Char) : Prop :=
  IsGrouped [8, 4, 4, 4, 12] cs

/-- The texts of UUIDs. -/
inductive IsUuidText : List Char → Prop
  | digits {cs} (h : IsHex 32 cs) : IsUuidText cs
  | hyphenated {cs} (h : IsHyphenated cs) : IsUuidText cs
  | braced {cs} (h : IsHyphenated cs) : IsUuidText ('\x7b' :: cs ++ ['\x7d'])
  | urn {scheme cs} (hscheme : scheme.map Char.toLower = "urn:uuid:".toList)
      (h : IsHyphenated cs) : IsUuidText (scheme ++ cs)

/-! ## Forms and the grammar -/

theorem isHexDigit_iff_mem {c : Char} :
    isHexDigit c = true ↔ c ∈ "0123456789abcdefABCDEF".toList := by
  constructor
  · intro h
    have hascii := Text.isAsciiChar_of_isVisibleChar (RequestId.isVisibleChar_of_isHexDigit h)
    revert h
    refine Text.forall_ascii c hascii ?_
    decide
  · intro h
    have hall : "0123456789abcdefABCDEF".toList.all isHexDigit = true := by decide
    exact List.all_eq_true.1 hall c h

theorem fits_nil {text : List Char} : fits [] text = true ↔ text = [] := by
  cases text <;> simp [fits]

theorem fits_cons {f : Char} {form text : List Char} :
    fits (f :: form) text = true ↔
      ∃ c rest, text = c :: rest ∧ (if f = 'x' then isHexDigit c else c.toLower = f) = true ∧
        fits form rest = true := by
  cases text with
  | nil => simp [fits]
  | cons c rest =>
    simp only [fits, Bool.and_eq_true, List.cons.injEq]
    constructor
    · exact fun h => ⟨c, rest, ⟨rfl, rfl⟩, h⟩
    · rintro ⟨_, _, ⟨rfl, rfl⟩, h⟩
      exact h

theorem fits_append {before after text : List Char} :
    fits (before ++ after) text = true ↔
      ∃ first last, text = first ++ last ∧ fits before first = true ∧ fits after last = true := by
  induction before generalizing text with
  | nil =>
    simp only [List.nil_append, fits_nil]
    constructor
    · exact fun h => ⟨[], text, rfl, rfl, h⟩
    · rintro ⟨_, last, rfl, rfl, h⟩
      exact h
  | cons f before ih =>
    simp only [List.cons_append, fits_cons, ih]
    constructor
    · rintro ⟨c, _, rfl, hc, first, last, rfl, hfirst, hlast⟩
      exact ⟨c :: first, last, rfl, ⟨c, first, rfl, hc, hfirst⟩, hlast⟩
    · rintro ⟨_, last, rfl, ⟨c, first, rfl, hc, hfirst⟩, hlast⟩
      exact ⟨c, first ++ last, rfl, hc, first, last, rfl, hfirst, hlast⟩

theorem fits_replicate {n : Nat} {text : List Char} :
    fits (List.replicate n 'x') text = true ↔ IsHex n text := by
  induction n generalizing text with
  | zero =>
    rw [List.replicate_zero, fits_nil]
    constructor
    · rintro rfl
      exact ⟨rfl, nofun⟩
    · exact fun h => List.length_eq_zero_iff.1 h.1
  | succ n ih =>
    simp only [List.replicate_succ, fits_cons, ih, if_true, isHexDigit_iff_mem]
    constructor
    · rintro ⟨c, rest, rfl, hc, hlength, hrest⟩
      exact ⟨by rw [List.length_cons, hlength], List.forall_mem_cons.2 ⟨hc, hrest⟩⟩
    · rintro ⟨hlength, hall⟩
      obtain ⟨c, rest, rfl⟩ := List.exists_cons_of_length_eq_add_one hlength
      obtain ⟨hc, hrest⟩ := List.forall_mem_cons.1 hall
      exact ⟨c, rest, rfl, hc, Nat.succ.inj hlength, hrest⟩

/-- A form without digits is a text in lower case. -/
theorem fits_iff_map_toLower {form text : List Char} (h : 'x' ∉ form) :
    fits form text = true ↔ text.map Char.toLower = form := by
  induction form generalizing text with
  | nil => rw [fits_nil, List.map_eq_nil_iff]
  | cons f form ih =>
    rw [List.mem_cons, not_or] at h
    simp only [fits_cons, if_neg (Ne.symm h.1), ih h.2, decide_eq_true_eq, List.map_eq_cons_iff]

/-- A character that is neither a letter nor a digit is in a text only where the form has it. -/
theorem not_mem_of_fits {mark : Char} (halpha : mark.isAlpha = false)
    (hdigit : isHexDigit mark = false) {form text : List Char} (hform : mark ∉ form)
    (h : fits form text = true) : mark ∉ text := by
  induction form generalizing text with
  | nil =>
    rw [fits_nil.1 h]
    exact List.not_mem_nil
  | cons f form ih =>
    obtain ⟨c, rest, rfl, hc, hrest⟩ := fits_cons.1 h
    rw [List.mem_cons, not_or] at hform ⊢
    refine ⟨?_, ih hform.2 hrest⟩
    rintro rfl
    split at hc
    · rw [hdigit] at hc
      cases hc
    · have hsame := (Text.toLower_eq_iff halpha).2 rfl
      exact hform.1 (hsame.symm.trans (of_decide_eq_true hc))

theorem fits_mark {mark : Char} {text : List Char} (h : mark.isAlpha = false) :
    fits [mark] text = true ↔ text = [mark] := by
  have hx : mark ≠ 'x' := by
    rintro rfl
    cases h
  simp only [fits_cons, fits_nil, if_neg hx, decide_eq_true_eq, Text.toLower_eq_iff h]
  constructor
  · rintro ⟨_, _, rfl, rfl, rfl⟩
    rfl
  · rintro rfl
    exact ⟨mark, [], rfl, rfl, rfl⟩

theorem isGrouped_nil {cs : List Char} : IsGrouped [] cs ↔ cs = [] := by
  simp only [IsGrouped, List.forall₂_nil_left_iff, exists_eq_left, List.intercalate_nil]

theorem isGrouped_singleton {n : Nat} {cs : List Char} : IsGrouped [n] cs ↔ IsHex n cs := by
  constructor
  · rintro ⟨groups, hgroups, rfl⟩
    obtain ⟨group, _, hgroup, hnone, rfl⟩ := List.forall₂_cons_left_iff.1 hgroups
    obtain rfl := List.forall₂_nil_left_iff.1 hnone
    rwa [List.intercalate_singleton]
  · exact fun h => ⟨[cs], .cons h .nil, List.intercalate_singleton.symm⟩

theorem isGrouped_cons_cons {n m : Nat} {sizes : List Nat} {cs : List Char} :
    IsGrouped (n :: m :: sizes) cs ↔
      ∃ group rest, cs = group ++ '-' :: rest ∧ IsHex n group ∧ IsGrouped (m :: sizes) rest := by
  constructor
  · rintro ⟨groups, hgroups, rfl⟩
    obtain ⟨group, others, hgroup, hothers, rfl⟩ := List.forall₂_cons_left_iff.1 hgroups
    obtain ⟨next, more, -, -, rfl⟩ := List.forall₂_cons_left_iff.1 hothers
    rw [List.intercalate_cons_cons, List.append_assoc]
    exact ⟨group, _, rfl, hgroup, _, hothers, rfl⟩
  · rintro ⟨group, _, rfl, hgroup, others, hothers, rfl⟩
    obtain ⟨next, more, -, -, rfl⟩ := List.forall₂_cons_left_iff.1 hothers
    refine ⟨group :: next :: more, .cons hgroup hothers, ?_⟩
    rw [List.intercalate_cons_cons, List.append_assoc, List.singleton_append]

theorem fits_grouped {sizes : List Nat} {text : List Char} :
    fits (['-'].intercalate (sizes.map fun n => List.replicate n 'x')) text = true ↔
      IsGrouped sizes text := by
  have hdash : '-'.isAlpha = false := by decide
  induction sizes generalizing text with
  | nil => rw [List.map_nil, List.intercalate_nil, fits_nil, isGrouped_nil]
  | cons n sizes ih =>
    cases sizes with
    | nil =>
      rw [List.map_singleton, List.intercalate_singleton, fits_replicate, isGrouped_singleton]
    | cons m sizes =>
      rw [isGrouped_cons_cons, List.map_cons, List.map_cons, List.intercalate_cons_cons,
        List.append_assoc]
      rw [List.map_cons] at ih
      simp only [fits_append, fits_mark hdash, fits_replicate, ih]
      constructor
      · rintro ⟨group, _, rfl, hgroup, _, rest, rfl, rfl, hrest⟩
        exact ⟨group, rest, rfl, hgroup, hrest⟩
      · rintro ⟨group, rest, rfl, hgroup, hrest⟩
        exact ⟨group, '-' :: rest, rfl, hgroup, ['-'], rest, rfl, rfl, hrest⟩

theorem fits_hyphenatedForm {text : List Char} :
    fits hyphenatedForm.toList text = true ↔ IsHyphenated text := by
  have hform : hyphenatedForm.toList =
      ['-'].intercalate ([8, 4, 4, 4, 12].map fun n => List.replicate n 'x') := by decide
  rw [hform, fits_grouped, IsHyphenated]

/-- **The forms are told by the grammar.** -/
theorem isWritten_iff {text : List Char} : isWritten text = true ↔ IsUuidText text := by
  have hdigits : "xxxxxxxxxxxxxxxxxxxxxxxxxxxxxxxx".toList = List.replicate 32 'x' := by decide
  have hopen : ("\x7b" ++ hyphenatedForm ++ "\x7d").toList =
      ['\x7b'] ++ (hyphenatedForm.toList ++ ['\x7d']) := by decide
  have hurn : ("urn:uuid:" ++ hyphenatedForm).toList =
      "urn:uuid:".toList ++ hyphenatedForm.toList := by decide
  have hmark : '\x7b'.isAlpha = false ∧ '\x7d'.isAlpha = false := by decide
  have hscheme : 'x' ∉ "urn:uuid:".toList := by decide
  simp only [isWritten, forms, List.any_cons, List.any_nil, Bool.or_false, Bool.or_eq_true,
    hdigits, hopen, hurn, fits_replicate, fits_hyphenatedForm, fits_append, fits_mark hmark.1,
    fits_mark hmark.2, fits_iff_map_toLower hscheme]
  constructor
  · rintro (h | h | ⟨_, _, rfl, rfl, _, _, rfl, h, rfl⟩ | ⟨_, _, rfl, hscheme, h⟩)
    · exact .digits h
    · exact .hyphenated h
    · exact .braced h
    · exact .urn hscheme h
  · intro h
    cases h with
    | digits h => exact .inl h
    | hyphenated h => exact .inr (.inl h)
    | @braced cs h =>
      exact .inr (.inr (.inl ⟨['\x7b'], cs ++ ['\x7d'], rfl, rfl, cs, ['\x7d'], rfl, h, rfl⟩))
    | urn hscheme h => exact .inr (.inr (.inr ⟨_, _, rfl, hscheme, h⟩))

/-! ## The reader of bytes -/

def isHexByte (b : UInt8) : Bool :=
  (0x30 ≤ b && b ≤ 0x39) || (0x41 ≤ b && b ≤ 0x46) || (0x61 ≤ b && b ≤ 0x66)

def toLowerByte (b : UInt8) : UInt8 :=
  if 0x41 ≤ b ∧ b ≤ 0x5A then b + 0x20 else b

/-- The places of the hyphens among the groups. -/
def hyphenPlaces : List Nat := [8, 13, 18, 23]

/-- Thirty-six bytes with hyphens at their places and digits at the others. -/
def isHyphenatedBytes (bytes : List UInt8) : Bool :=
  bytes.length = 36 &&
    bytes.zipIdx.all fun (b, i) => if i ∈ hyphenPlaces then b = 0x2D else isHexByte b

/-- The bytes of a UUID, where their number says which of the four shapes to look for. -/
def readsBytes (bytes : List UInt8) : Bool :=
  match bytes.length with
  | 32 => bytes.all isHexByte
  | 36 => isHyphenatedBytes bytes
  | 38 => bytes.take 1 = [0x7B] && isHyphenatedBytes ((bytes.drop 1).take 36) &&
      bytes.drop 37 = [0x7D]
  | 45 => (bytes.take 9).map toLowerByte = encode "urn:uuid:".toList &&
      isHyphenatedBytes (bytes.drop 9)
  | _ => false

theorem byte_tests {c : Char} (h : isAsciiChar c = true) :
    isHexByte (asciiByte c) = isHexDigit c ∧
      decide (asciiByte c = 0x2D) = decide (c.toLower = '-') ∧
      toLowerByte (asciiByte c) = asciiByte c.toLower ∧ isAsciiChar c.toLower = true := by
  refine Text.forall_ascii c h ?_
  decide

theorem fits_iff_forall₂ {form text : List Char} :
    fits form text = true ↔
      List.Forall₂ (fun f c => (if f = 'x' then isHexDigit c else c.toLower = f) = true)
        form text := by
  induction form generalizing text with
  | nil => rw [fits_nil, List.forall₂_nil_left_iff]
  | cons f form ih =>
    simp only [fits_cons, ih, List.forall₂_cons_left_iff]
    constructor
    · rintro ⟨c, rest, rfl, hc, hrest⟩
      exact ⟨c, rest, hc, hrest, rfl⟩
    · rintro ⟨c, rest, hc, hrest, rfl⟩
      exact ⟨c, rest, rfl, hc, hrest⟩

theorem getElem_hyphenatedForm {i : Nat} (hi : i < hyphenatedForm.toList.length) :
    hyphenatedForm.toList[i] = if i ∈ hyphenPlaces then '-' else 'x' := by
  have hall : ∀ i (hi : i < hyphenatedForm.toList.length), hyphenatedForm.toList[i] =
      if i ∈ hyphenPlaces then '-' else 'x' := by decide
  exact hall i hi

/-- What the hyphenated form asks for at a place. -/
theorem place_hyphenatedForm {i : Nat} (hi : i < hyphenatedForm.toList.length) (c : Char) :
    (if hyphenatedForm.toList[i] = 'x' then isHexDigit c
      else decide (c.toLower = hyphenatedForm.toList[i])) =
    if i ∈ hyphenPlaces then decide (c.toLower = '-') else isHexDigit c := by
  rw [getElem_hyphenatedForm hi]
  by_cases hplace : i ∈ hyphenPlaces
  · simp only [if_pos hplace]
    rfl
  · simp only [if_neg hplace, if_true]

/-- A hyphenated text place by place. -/
theorem isHyphenated_iff_getElem? {cs : List Char} :
    IsHyphenated cs ↔ cs.length = 36 ∧ ∀ i c, cs[i]? = some c →
      (if i ∈ hyphenPlaces then decide (c.toLower = '-') else isHexDigit c) = true := by
  have hlength : hyphenatedForm.toList.length = 36 := by decide
  rw [← fits_hyphenatedForm, fits_iff_forall₂, List.forall₂_iff_get]
  simp only [List.get_eq_getElem, place_hyphenatedForm]
  constructor
  · rintro ⟨hcs, hall⟩
    refine ⟨by omega, fun i c hc => ?_⟩
    obtain ⟨hi, rfl⟩ := List.getElem?_eq_some_iff.1 hc
    exact hall i (by omega) hi
  · rintro ⟨hcs, hall⟩
    exact ⟨by omega, fun i _ hi => hall i _ (List.getElem?_eq_getElem hi)⟩

theorem IsHyphenated.length_map {cs : List Char} (h : IsHyphenated cs) :
    (cs.map asciiByte).length = 36 := by
  rw [List.length_map, (isHyphenated_iff_getElem?.1 h).1]

theorem isHyphenatedBytes_map {cs : List Char} (h : cs.all isAsciiChar = true) :
    isHyphenatedBytes (cs.map asciiByte) = true ↔ IsHyphenated cs := by
  rw [isHyphenated_iff_getElem?]
  simp only [isHyphenatedBytes, Bool.and_eq_true, decide_eq_true_eq, List.all_eq_true,
    List.length_map, Prod.forall, List.mem_zipIdx_iff_getElem?, List.getElem?_map,
    Option.map_eq_some_iff]
  have hplace : ∀ i c, cs[i]? = some c →
      (if i ∈ hyphenPlaces then decide (asciiByte c = 0x2D) else isHexByte (asciiByte c)) =
        if i ∈ hyphenPlaces then decide (c.toLower = '-') else isHexDigit c := by
    intro i c hc
    obtain ⟨hhex, hdash, -, -⟩ := byte_tests (List.all_eq_true.1 h c (List.mem_of_getElem? hc))
    rw [hhex, hdash]
  refine and_congr_right fun _ => ⟨fun hall i c hc => ?_, ?_⟩
  · rw [← hplace i c hc]
    exact hall _ i ⟨c, hc, rfl⟩
  · rintro hall b i ⟨c, hc, rfl⟩
    rw [hplace i c hc]
    exact hall i c hc

theorem all_isAsciiChar_of_isWritten {cs : List Char} (h : isWritten cs = true) :
    cs.all isAsciiChar = true := by
  have hid : isWritten (String.ofList cs).toList = true := by rwa [String.toList_ofList]
  have hvisible := RequestId.all_isVisibleChar ⟨String.ofList cs, hid⟩
  rw [String.toList_ofList, List.all_eq_true] at hvisible
  exact List.all_eq_true.2 fun c hc => Text.isAsciiChar_of_isVisibleChar (hvisible c hc)

theorem toNat_lt_of_isHexByte {b : UInt8} (h : isHexByte b = true) : b.toNat < 0x80 := by
  simp only [isHexByte, Bool.or_eq_true, Bool.and_eq_true, decide_eq_true_eq,
    UInt8.le_iff_toNat_le, UInt8.reduceToNat] at h
  omega

theorem toNat_lt_of_toLowerByte {b : UInt8} (h : (toLowerByte b).toNat < 0x80) :
    b.toNat < 0x80 := by
  unfold toLowerByte at h
  split at h
  · next hupper =>
    simp only [UInt8.le_iff_toNat_le, UInt8.reduceToNat] at hupper
    omega
  · exact h

theorem forall_lt_of_isHyphenatedBytes {bytes : List UInt8}
    (h : isHyphenatedBytes bytes = true) : ∀ b ∈ bytes, b.toNat < 0x80 := by
  intro b hb
  obtain ⟨i, hi⟩ := List.mem_iff_getElem?.1 hb
  rw [isHyphenatedBytes, Bool.and_eq_true, List.all_eq_true] at h
  have hplace := h.2 (b, i) (List.mem_zipIdx_iff_getElem?.2 hi)
  dsimp only at hplace
  split at hplace
  · rw [of_decide_eq_true hplace]
    decide
  · exact toNat_lt_of_isHexByte hplace

theorem forall_lt_of_readsBytes {bytes : List UInt8} (h : readsBytes bytes = true) :
    ∀ b ∈ bytes, b.toNat < 0x80 := by
  intro b hb
  unfold readsBytes at h
  -- the four lengths, and any other
  split at h
  · exact toNat_lt_of_isHexByte (List.all_eq_true.1 h b hb)
  · exact forall_lt_of_isHyphenatedBytes h b hb
  · simp only [Bool.and_eq_true, decide_eq_true_eq] at h
    obtain ⟨⟨hopen, hmiddle⟩, hclose⟩ := h
    rw [← List.take_append_drop 1 bytes, hopen, ← List.take_append_drop 36 (bytes.drop 1),
      List.drop_drop, hclose] at hb
    simp only [List.mem_append, List.mem_singleton] at hb
    rcases hb with rfl | hb | rfl
    · decide
    · exact forall_lt_of_isHyphenatedBytes hmiddle b hb
    · decide
  · simp only [Bool.and_eq_true, decide_eq_true_eq] at h
    obtain ⟨hscheme, hrest⟩ := h
    rw [← List.take_append_drop 9 bytes, List.mem_append] at hb
    rcases hb with hb | hb
    · have hall : ((encode "urn:uuid:".toList).all fun b => b.toNat < 0x80) = true := by decide
      have hmem : toLowerByte b ∈ encode "urn:uuid:".toList := hscheme ▸ List.mem_map_of_mem hb
      exact toNat_lt_of_toLowerByte (of_decide_eq_true (List.all_eq_true.1 hall _ hmem))
    · exact forall_lt_of_isHyphenatedBytes hrest b hb
  · cases h

theorem all_isHexByte_map {cs : List Char} (h : cs.all isAsciiChar = true) :
    (cs.map asciiByte).all isHexByte = true ↔ ∀ c ∈ cs, c ∈ "0123456789abcdefABCDEF".toList := by
  rw [List.all_map, List.all_eq_true]
  refine forall₂_congr fun c hc => ?_
  rw [Function.comp_apply, (byte_tests (List.all_eq_true.1 h c hc)).1, isHexDigit_iff_mem]

theorem map_toLowerByte_map {cs : List Char} (h : cs.all isAsciiChar = true) :
    (cs.map asciiByte).map toLowerByte = (cs.map Char.toLower).map asciiByte := by
  rw [List.map_map, List.map_map]
  exact List.map_congr_left fun c hc => (byte_tests (List.all_eq_true.1 h c hc)).2.2.1

theorem all_isAsciiChar_map_toLower {cs : List Char} (h : cs.all isAsciiChar = true) :
    (cs.map Char.toLower).all isAsciiChar = true := by
  rw [List.all_map, List.all_eq_true]
  exact fun c hc => (byte_tests (List.all_eq_true.1 h c hc)).2.2.2

theorem encode_scheme : encode "urn:uuid:".toList = "urn:uuid:".toList.map asciiByte :=
  Text.encode_of_ascii (by decide)

theorem isUuidText_of_readsBytes {cs : List Char} (h : cs.all isAsciiChar = true)
    (hreads : readsBytes (cs.map asciiByte) = true) : IsUuidText cs := by
  unfold readsBytes at hreads
  split at hreads
  case h_1 hlength =>
    rw [List.length_map] at hlength
    exact .digits ⟨hlength, (all_isHexByte_map h).1 hreads⟩
  case h_2 => exact .hyphenated ((isHyphenatedBytes_map h).1 hreads)
  case h_3 =>
    simp only [← List.map_take, ← List.map_drop, Bool.and_eq_true, decide_eq_true_eq] at hreads
    obtain ⟨⟨hopen, hmiddle⟩, hclose⟩ := hreads
    have hopen : cs.take 1 = ['\x7b'] :=
      Text.map_asciiByte_inj (Text.all_isAsciiChar_take h 1) (by decide) hopen
    have hclose : cs.drop 37 = ['\x7d'] :=
      Text.map_asciiByte_inj (Text.all_isAsciiChar_drop h 37) (by decide) hclose
    have hascii := Text.all_isAsciiChar_take (Text.all_isAsciiChar_drop h 1) 36
    have hgroups := (isHyphenatedBytes_map hascii).1 hmiddle
    have hcut : cs = cs.take 1 ++ ((cs.drop 1).take 36 ++ (cs.drop 1).drop 36) := by
      rw [List.take_append_drop, List.take_append_drop]
    rw [List.drop_drop, hopen, hclose] at hcut
    rw [hcut]
    exact .braced hgroups
  case h_4 =>
    simp only [← List.map_take, ← List.map_drop, Bool.and_eq_true, decide_eq_true_eq] at hreads
    obtain ⟨hscheme, hrest⟩ := hreads
    have htake := Text.all_isAsciiChar_take h 9
    rw [map_toLowerByte_map htake, encode_scheme] at hscheme
    have hscheme := Text.map_asciiByte_inj (all_isAsciiChar_map_toLower htake) (by decide) hscheme
    have hgroups := (isHyphenatedBytes_map (Text.all_isAsciiChar_drop h 9)).1 hrest
    rw [← List.take_append_drop 9 cs]
    exact .urn hscheme hgroups
  case h_5 => cases hreads

theorem readsBytes_of_isUuidText {cs : List Char} (h : cs.all isAsciiChar = true)
    (htext : IsUuidText cs) : readsBytes (cs.map asciiByte) = true := by
  cases htext with
  | digits hdigits =>
    rw [readsBytes, List.length_map, hdigits.1]
    exact (all_isHexByte_map h).2 hdigits.2
  | hyphenated hgroups =>
    rw [readsBytes, hgroups.length_map]
    exact (isHyphenatedBytes_map h).2 hgroups
  | @braced cs hgroups =>
    simp only [List.all_append, List.all_cons, Bool.and_eq_true] at h
    have hmiddle := (isHyphenatedBytes_map h.1.2).2 hgroups
    have hbytes : ('\x7b' :: cs ++ ['\x7d']).map asciiByte =
        0x7B :: (cs.map asciiByte ++ [0x7D]) := List.map_append
    have htake : (cs.map asciiByte ++ [0x7D]).take 36 = cs.map asciiByte :=
      List.take_left' hgroups.length_map
    have hdrop : (cs.map asciiByte ++ [0x7D]).drop 36 = [0x7D] :=
      List.drop_left' hgroups.length_map
    rw [hbytes, readsBytes, List.length_cons, List.length_append, hgroups.length_map]
    simp only [List.length_singleton, List.take_succ_cons, List.take_zero, List.drop_succ_cons,
      List.drop_zero, htake, hdrop, hmiddle, decide_true, Bool.and_self]
  | @urn scheme cs hscheme hgroups =>
    rw [List.all_append, Bool.and_eq_true] at h
    have hsize : (scheme.map asciiByte).length = 9 := by
      have hlength := congrArg List.length hscheme
      rw [List.length_map] at hlength ⊢
      exact hlength
    have hrest := (isHyphenatedBytes_map h.2).2 hgroups
    have hlower : (scheme.map asciiByte).map toLowerByte = encode "urn:uuid:".toList := by
      rw [map_toLowerByte_map h.1, hscheme, encode_scheme]
    rw [List.map_append, readsBytes, List.length_append, hsize, hgroups.length_map]
    simp only [List.take_left' hsize, List.drop_left' hsize, hlower, hrest, decide_true,
      Bool.and_self]

theorem readsBytes_map {cs : List Char} (h : cs.all isAsciiChar = true) :
    readsBytes (cs.map asciiByte) = true ↔ IsUuidText cs :=
  ⟨isUuidText_of_readsBytes h, readsBytes_of_isUuidText h⟩

/-- What is read by the number of bytes is what the grammar says, in any text. -/
theorem readsBytes_encode {cs : List Char} :
    readsBytes (encode cs) = true ↔ IsUuidText cs := by
  cases hascii : cs.all isAsciiChar with
  | true => rw [Text.encode_of_ascii hascii, readsBytes_map hascii]
  | false =>
    obtain ⟨b, hb, hhigh⟩ := Text.exists_mem_encode hascii
    constructor
    · intro hreads
      have hlow := forall_lt_of_readsBytes hreads b hb
      omega
    · intro htext
      rw [all_isAsciiChar_of_isWritten (isWritten_iff.2 htext)] at hascii
      cases hascii

end DocPortal.Uuid
