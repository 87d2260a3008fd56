/-
Which texts are mount points. The identifiers are the words of a regular
expression, and the same texts pass a test that looks at single bytes of
UTF-8: at the first, at the second behind a leading `-`, and at all of them.
Bytes of characters beyond ASCII pass none of these.
-/
import DocPortal.Proofs.Text.Utf8
import DocPortal.Proofs.Viewer.Draft
import DocPortal.Proofs.Viewer.MountPoint
import DocPortal.Text.Bytes
import Mathlib.Computability.RegularExpressions

namespace DocPortal.Viewer

open Http.HeaderValue (encode)
open Text (asciiByte isAsciiChar)

/-! ## The grammar -/

/-- One of some characters. -/
def oneOf (cs : List Char) : RegularExpression Char :=
  (cs.map .char).sum

def letters : List Char :=
  "ABCDEFGHIJKLMNOPQRSTUVWXYZabcdefghijklmnopqrstuvwxyz".toList

def decimalDigits : List Char :=
  "0123456789".toList

/-- `( -- | -? [A-Za-z_] ) [A-Za-z0-9_-]*` -/
def identifierGrammar : RegularExpression Char :=
  (.char '-' * .char '-' + (1 + .char '-') * oneOf ('_' :: letters)) *
    (oneOf ('_' :: '-' :: letters ++ decimalDigits)).star

theorem mem_matches'_oneOf {cs word : List Char} :
    word ∈ (oneOf cs).matches' ↔ ∃ c ∈ cs, word = [c] := by
  induction cs with
  | nil => simp [oneOf]
  | cons c cs ih =>
    rw [oneOf, List.map_cons, List.sum_cons, ← oneOf, RegularExpression.matches'_add,
      Language.mem_add, ih, RegularExpression.matches'_char, List.exists_mem_cons_iff]
    exact Iff.rfl

theorem mem_matches'_star_oneOf {cs word : List Char} :
    word ∈ (oneOf cs).star.matches' ↔ ∀ c ∈ word, c ∈ cs := by
  rw [RegularExpression.matches'_star, Language.mem_kstar]
  constructor
  · rintro ⟨parts, rfl, hparts⟩ c hc
    obtain ⟨part, hpart, hc⟩ := List.mem_flatten.1 hc
    obtain ⟨d, hd, rfl⟩ := mem_matches'_oneOf.1 (hparts part hpart)
    rwa [List.mem_singleton.1 hc]
  · intro h
    refine ⟨word.map fun c => [c], ?_, fun part hpart => ?_⟩
    · rw [← List.flatMap_def, List.flatMap_singleton']
    · obtain ⟨c, hc, rfl⟩ := List.mem_map.1 hpart
      exact mem_matches'_oneOf.2 ⟨c, h c hc, rfl⟩

/-- A word is a start, in one of three shapes, and any further characters. -/
theorem mem_identifierGrammar {word : List Char} :
    word ∈ identifierGrammar.matches' ↔
      ∃ rest, (∀ c ∈ rest, c ∈ '_' :: '-' :: letters ++ decimalDigits) ∧
        (word = '-' :: '-' :: rest ∨
          ∃ c ∈ '_' :: letters, word = c :: rest ∨ word = '-' :: c :: rest) := by
  simp only [identifierGrammar, RegularExpression.matches'_mul, RegularExpression.matches'_add,
    RegularExpression.matches'_epsilon, RegularExpression.matches'_char, Language.mem_mul,
    Language.mem_add, Language.mem_one, mem_matches'_oneOf, mem_matches'_star_oneOf]
  constructor
  · rintro ⟨start, ⟨_, rfl, _, rfl, rfl⟩ | ⟨_, rfl | rfl, _, ⟨c, hc, rfl⟩, rfl⟩, rest, hrest, rfl⟩
    · exact ⟨rest, hrest, .inl rfl⟩
    · exact ⟨rest, hrest, .inr ⟨c, hc, .inl rfl⟩⟩
    · exact ⟨rest, hrest, .inr ⟨c, hc, .inr rfl⟩⟩
  · rintro ⟨rest, hrest, rfl | ⟨c, hc, rfl | rfl⟩⟩
    · exact ⟨['-', '-'], .inl ⟨['-'], rfl, ['-'], rfl, rfl⟩, rest, hrest, rfl⟩
    · exact ⟨[c], .inr ⟨[], .inl rfl, [c], ⟨c, hc, rfl⟩, rfl⟩, rest, hrest, rfl⟩
    · exact ⟨['-', c], .inr ⟨['-'], .inr rfl, [c], ⟨c, hc, rfl⟩, rfl⟩, rest, hrest, rfl⟩

/-! ## Its characters -/

theorem isAsciiChar_of_isIdentifierChar {c : Char} (h : isIdentifierChar c = true) :
    isAsciiChar c = true := by
  simp only [isIdentifierChar, Char.isAlphanum, Text.isAlpha_iff, Char.isDigit_iff_toNat,
    Bool.or_eq_true, decide_eq_true_eq] at h
  have h9 : '9'.toNat = 57 := rfl
  rw [isAsciiChar, decide_eq_true_eq]
  rcases h with ((h | h) | rfl) | rfl
  · omega
  · omega
  · decide
  · decide

theorem isIdentifierChar_of_start {c : Char} (h : c.isAlpha = true ∨ c = '_') :
    isIdentifierChar c = true := by
  rcases h with halpha | rfl
  · simp only [isIdentifierChar, Char.isAlphanum, halpha, Bool.true_or]
  · decide

theorem mem_start_iff {c : Char} : c ∈ '_' :: letters ↔ c.isAlpha = true ∨ c = '_' := by
  constructor
  · intro h
    have hall : ('_' :: letters).all (fun c => c.isAlpha || c = '_') = true := by decide
    simpa using List.all_eq_true.1 hall c h
  · intro h
    have hascii := isAsciiChar_of_isIdentifierChar (isIdentifierChar_of_start h)
    revert h
    refine Text.forall_ascii c hascii ?_
    decide

theorem mem_rest_iff {c : Char} :
    c ∈ '_' :: '-' :: letters ++ decimalDigits ↔ isIdentifierChar c = true := by
  constructor
  · intro h
    have hall : ('_' :: '-' :: letters ++ decimalDigits).all isIdentifierChar = true := by decide
    exact List.all_eq_true.1 hall c h
  · intro h
    have hascii := isAsciiChar_of_isIdentifierChar h
    revert h
    refine Text.forall_ascii c hascii ?_
    decide

theorem isDigit_eq_false_of_start {c : Char} (h : c.isAlpha = true ∨ c = '_') :
    c.isDigit = false := by
  rcases h with halpha | rfl
  · rw [Text.isAlpha_iff] at halpha
    have h9 : '9'.toNat = 57 := rfl
    rw [← Bool.not_eq_true, Char.isDigit_iff_toNat]
    omega
  · decide

/-- A character that is none of the digits is `-` or may start an identifier. -/
theorem dash_or_start {c : Char} (h : isIdentifierChar c = true) (hdigit : c.isDigit = false) :
    c = '-' ∨ c.isAlpha = true ∨ c = '_' := by
  simp only [isIdentifierChar, Char.isAlphanum, hdigit, Bool.or_false, Bool.or_eq_true,
    decide_eq_true_eq] at h
  exact h.symm

/-! ## The identifiers are the words -/

theorem isIdentifier_dash_cons (second : Char) (rest : List Char) :
    isIdentifier ('-' :: second :: rest) =
      (!second.isDigit && (second :: rest).all isIdentifierChar) :=
  rfl

theorem isIdentifier_cons_of_ne {first : Char} (h : first ≠ '-') (rest : List Char) :
    isIdentifier (first :: rest) = (isIdentifierStart first && rest.all isIdentifierChar) := by
  cases rest <;> simp [isIdentifier, h]

theorem isIdentifier_iff {word : List Char} :
    isIdentifier word = true ↔
      ∃ rest, (∀ c ∈ rest, isIdentifierChar c = true) ∧
        (word = '-' :: '-' :: rest ∨
          ∃ c, (c.isAlpha = true ∨ c = '_') ∧ (word = c :: rest ∨ word = '-' :: c :: rest)) := by
  constructor
  · intro h
    fun_cases isIdentifier word
    case case1 => cases h
    case case2 => cases h
    case case3 second rest =>
      rw [isIdentifier_dash_cons, Bool.and_eq_true, Bool.not_eq_true', List.all_cons,
        Bool.and_eq_true, List.all_eq_true] at h
      obtain ⟨hdigit, hsecond, hrest⟩ := h
      rcases dash_or_start hsecond hdigit with rfl | hstart
      · exact ⟨rest, hrest, .inl rfl⟩
      · exact ⟨rest, hrest, .inr ⟨second, hstart, .inr rfl⟩⟩
    case case4 first rest hlone hdash =>
      have hne : first ≠ '-' := by
        rintro rfl
        cases rest with
        | nil => exact hlone rfl rfl
        | cons second rest => exact hdash second rest rfl rfl
      rw [isIdentifier_cons_of_ne hne, Bool.and_eq_true, List.all_eq_true] at h
      obtain ⟨hstart, hrest⟩ := h
      simp only [isIdentifierStart, hne, decide_false, Bool.or_false, Bool.or_eq_true,
        decide_eq_true_eq] at hstart
      exact ⟨rest, hrest, .inr ⟨first, hstart, .inl rfl⟩⟩
  · rintro ⟨rest, hrest, rfl | ⟨c, hc, rfl | rfl⟩⟩
    · rw [isIdentifier_dash_cons, List.all_cons, List.all_eq_true.2 hrest]
      rfl
    · have hne : c ≠ '-' := by
        rintro rfl
        revert hc
        decide
      rw [isIdentifier_cons_of_ne hne, List.all_eq_true.2 hrest, Bool.and_true]
      simp only [isIdentifierStart, Bool.or_eq_true, decide_eq_true_eq]
      exact .inl hc
    · rw [isIdentifier_dash_cons, isDigit_eq_false_of_start hc, List.all_cons,
        isIdentifierChar_of_start hc, List.all_eq_true.2 hrest]
      rfl

theorem isIdentifier_iff_mem {word : List Char} :
    isIdentifier word = true ↔ word ∈ identifierGrammar.matches' := by
  rw [isIdentifier_iff, mem_identifierGrammar]
  simp only [mem_rest_iff, mem_start_iff]

/-! ## The test of bytes -/

def isLetterByte (b : UInt8) : Bool :=
  (0x41 ≤ b && b ≤ 0x5A) || (0x61 ≤ b && b ≤ 0x7A)

def isDigitByte (b : UInt8) : Bool :=
  0x30 ≤ b && b ≤ 0x39

def dashByte : UInt8 := 0x2D

/-- A letter, `_` or `-`. -/
def isStartByte (b : UInt8) : Bool :=
  isLetterByte b || b = 0x5F || b = dashByte

def isIdentifierByte (b : UInt8) : Bool :=
  isLetterByte b || isDigitByte b || b = 0x5F || b = dashByte

/-- The bytes of an identifier, by the first, by the second if the first is `-`, and by all. -/
def isIdentifierBytes : List UInt8 → Bool
  | [] => false
  | first :: rest =>
    isStartByte first && !(first = dashByte && rest.head?.all isDigitByte) &&
      (first :: rest).all isIdentifierByte

/-- The tests of a byte are those of the ASCII character it writes. -/
theorem byte_tests {c : Char} (h : isAsciiChar c = true) :
    isStartByte (asciiByte c) = isIdentifierStart c ∧
      isDigitByte (asciiByte c) = c.isDigit ∧
      isIdentifierByte (asciiByte c) = isIdentifierChar c ∧
      decide (asciiByte c = dashByte) = decide (c = '-') := by
  refine Text.forall_ascii c h ?_
  decide

theorem toNat_lt_of_isIdentifierByte {b : UInt8} (h : isIdentifierByte b = true) :
    b.toNat < 0x80 := by
  simp only [isIdentifierByte, isLetterByte, isDigitByte, dashByte, Bool.or_eq_true,
    Bool.and_eq_true, decide_eq_true_eq, UInt8.le_iff_toNat_le, ← UInt8.toNat_inj] at h
  simp only [UInt8.reduceToNat] at h
  omega

theorem all_isIdentifierByte_map {word : List Char} (h : word.all isAsciiChar = true) :
    (word.map asciiByte).all isIdentifierByte = word.all isIdentifierChar := by
  rw [List.all_map, Bool.eq_iff_iff, List.all_eq_true, List.all_eq_true]
  refine forall₂_congr fun c hc => ?_
  rw [Function.comp_apply, (byte_tests (List.all_eq_true.1 h c hc)).2.2.1]

theorem isIdentifierBytes_map {word : List Char} (h : word.all isAsciiChar = true) :
    isIdentifierBytes (word.map asciiByte) = isIdentifier word := by
  have htests := fun c hc => byte_tests (List.all_eq_true.1 h c hc)
  have hall := all_isIdentifierByte_map h
  cases word with
  | nil => rfl
  | cons first rest =>
    obtain ⟨hstart, -, -, hdash⟩ := htests first List.mem_cons_self
    rw [List.map_cons] at hall ⊢
    rw [isIdentifierBytes, hall, hstart, hdash]
    by_cases hne : first = '-'
    · subst hne
      cases rest with
      | nil => rfl
      | cons second rest =>
        have hsecond := (htests second (by simp)).2.1
        rw [List.map_cons, List.head?_cons, Option.all_some, hsecond, isIdentifier_dash_cons,
          List.all_cons]
        rfl
    · rw [isIdentifier_cons_of_ne hne, decide_eq_false hne, Bool.false_and, Bool.not_false,
        Bool.and_true, List.all_cons]
      cases hchar : isIdentifierStart first with
      | false => rfl
      | true => rw [isIdentifierChar_of_isIdentifierStart hchar, Bool.true_and, Bool.true_and]

theorem isIdentifierBytes_of_not_ascii {word : List Char} (h : word.all isAsciiChar = false) :
    isIdentifierBytes (encode word) = false := by
  obtain ⟨b, hb, hhigh⟩ := Text.exists_mem_encode h
  have hnot : (encode word).all isIdentifierByte = false := by
    refine List.all_eq_false.2 ⟨b, hb, fun hbyte => ?_⟩
    have hlow := toNat_lt_of_isIdentifierByte hbyte
    omega
  unfold isIdentifierBytes
  split
  · rfl
  · next first rest hbytes => rw [← hbytes, hnot, Bool.and_false]

/-- The test of bytes is that of characters. -/
theorem isIdentifierBytes_encode (word : List Char) :
    isIdentifierBytes (encode word) = isIdentifier word := by
  cases hascii : word.all isAsciiChar with
  | true => rw [Text.encode_of_ascii hascii, isIdentifierBytes_map hascii]
  | false =>
    rw [isIdentifierBytes_of_not_ascii hascii, eq_comm, ← Bool.not_eq_true]
    intro hword
    obtain ⟨c, hc, hnot⟩ := List.all_eq_false.1 hascii
    exact hnot (isAsciiChar_of_isIdentifierChar (isIdentifierChar_of_mem hword c hc))

/-! ## Mount points -/

theorem isIdSelector_iff {cs : List Char} :
    isIdSelector cs = true ↔ ∃ word, cs = '#' :: word ∧ isIdentifier word = true := by
  constructor
  · intro h
    unfold isIdSelector at h
    split at h
    · next word => exact ⟨word, rfl, h⟩
    · cases h
  · rintro ⟨word, rfl, hword⟩
    exact hword

namespace MountPoint

theorem exists_parse_eq_ok_iff {selector : String} :
    (∃ mount, parse selector = .ok mount) ↔ isIdSelector selector.toList = true := by
  constructor
  · rintro ⟨mount, hmount⟩
    rw [← selector_of_parse hmount]
    exact mount.isId
  · exact fun hid => ⟨⟨selector, hid⟩, dif_pos hid⟩

theorem parse_of_not_isIdSelector {selector : String}
    (h : ¬ isIdSelector selector.toList = true) :
    parse selector = .error (.invalidMountPoint selector) :=
  dif_neg h

/-- The `#` is one byte, so the cut behind it is at a character. -/
theorem dropBytes?_selector (mount : MountPoint) :
    Text.dropBytes? 1 mount.selector.toList = some mount.elementId.toList := by
  have hsize : '#'.utf8Size = 1 := by decide
  rw [selector_eq_cons, Text.dropBytes?, hsize, if_pos (Nat.le_refl 1), Nat.sub_self,
    Text.dropBytes?]

theorem append_elementId (mount : MountPoint) : "#" ++ mount.elementId = mount.selector := by
  rw [← String.toList_inj, String.toList_append, selector_eq_cons]
  rfl

/-- **A text is a mount point exactly if it is `#` and a word of the grammar, or a text whose bytes
behind the `#` pass the test of bytes; it is kept as it is written, its element id is cut off at a
character and makes the same mount point again, and any other text is refused as it stands.** -/
theorem parse_by_grammar (selector : String) :
    ((∃ mount, parse selector = .ok mount) ↔
        ∃ word ∈ identifierGrammar.matches', selector.toList = '#' :: word) ∧
      ((∃ mount, parse selector = .ok mount) ↔
        ∃ word, selector.toList = '#' :: word ∧ isIdentifierBytes (encode word) = true) ∧
      (∀ mount, parse selector = .ok mount →
        mount.selector = selector ∧
          mount.elementId.toList = selector.toList.tail ∧
          Text.dropBytes? 1 selector.toList = some mount.elementId.toList ∧
          parse ("#" ++ mount.elementId) = .ok mount) ∧
      ((¬ ∃ word ∈ identifierGrammar.matches', selector.toList = '#' :: word) →
        parse selector = .error (.invalidMountPoint selector)) := by
  have hgrammar : isIdSelector selector.toList = true ↔
      ∃ word ∈ identifierGrammar.matches', selector.toList = '#' :: word := by
    simp only [isIdSelector_iff, isIdentifier_iff_mem, and_comm]
  have hbytes : isIdSelector selector.toList = true ↔
      ∃ word, selector.toList = '#' :: word ∧ isIdentifierBytes (encode word) = true := by
    simp only [isIdSelector_iff, isIdentifierBytes_encode]
  refine ⟨exists_parse_eq_ok_iff.trans hgrammar, exists_parse_eq_ok_iff.trans hbytes, ?_, ?_⟩
  · intro mount hmount
    obtain rfl := selector_of_parse hmount
    refine ⟨rfl, ?_, mount.dropBytes?_selector, ?_⟩
    · rw [selector_eq_cons, List.tail_cons]
    · rw [append_elementId, parse_selector]
  · intro hnot
    exact parse_of_not_isIdSelector fun hid => hnot (hgrammar.1 hid)

/-- Two dashes may start an identifier, and one may not be all of it. -/
theorem parse_by_grammar_dashes :
    parse "#--" = .ok ⟨"#--", by decide⟩ ∧
      (∃ word ∈ identifierGrammar.matches', "#--".toList = '#' :: word) ∧
      Text.dropBytes? 1 "#--".toList = some "--".toList ∧
      (¬ ∃ word ∈ identifierGrammar.matches', "#-".toList = '#' :: word) ∧
      parse "#-" = .error (.invalidMountPoint "#-") := by
  have hdashes := parse_by_grammar "#--"
  have hparse : parse "#--" = .ok ⟨"#--", by decide⟩ := dif_pos (by decide)
  have hdash := parse_by_grammar "#-"
  have hnot : ¬ ∃ word ∈ identifierGrammar.matches', "#-".toList = '#' :: word := by
    rw [← hdash.1, exists_parse_eq_ok_iff]
    decide
  refine ⟨hparse, hdashes.1.1 ⟨_, hparse⟩, ?_, hnot, hdash.2.2.2 hnot⟩
  exact (hdashes.2.2.1 _ hparse).2.2.1

end MountPoint

end DocPortal.Viewer
