/-
Characters and the bytes they are written with. An ASCII character is one
byte, its code; any other is bytes from 0x80 on throughout. So what a test
of single bytes says of a text is what the same test says of the characters,
as long as it accepts ASCII only.
-/
import DocPortal.Http.Header

namespace DocPortal.Text

open Http.HeaderValue (encode isVisibleChar toNat_lt_of_isVisibleChar)

/-- The characters that are written with one byte. -/
def isAsciiChar (c : Char) : Bool :=
  c.toNat < 0x80

theorem isAsciiChar_of_isVisibleChar {c : Char} (h : isVisibleChar c = true) :
    isAsciiChar c = true :=
  decide_eq_true (Nat.lt_succ_of_lt (toNat_lt_of_isVisibleChar h))

/-- The byte of an ASCII character. -/
def asciiByte (c : Char) : UInt8 :=
  UInt8.ofNat c.toNat

/-- What is so for each of the 128 codes is so for every ASCII character. -/
@[elab_as_elim]
theorem forall_ascii {P : Char → Prop} (c : Char) (hc : isAsciiChar c = true)
    (h : ∀ n < 0x80, P (Char.ofNat n)) : P c := by
  have hcode := h c.toNat (of_decide_eq_true hc)
  rwa [Char.ofNat_toNat] at hcode

theorem toNat_asciiByte {c : Char} (h : isAsciiChar c = true) :
    (asciiByte c).toNat = c.toNat := by
  have hcode : c.toNat < 0x80 := of_decide_eq_true h
  rw [asciiByte, UInt8.toNat_ofNat']
  omega

theorem map_ofNat_asciiByte {cs : List Char} (h : cs.all isAsciiChar = true) :
    (cs.map asciiByte).map (fun b => Char.ofNat b.toNat) = cs := by
  rw [List.map_map]
  refine (List.map_congr_left fun c hc => ?_).trans (List.map_id _)
  rw [Function.comp_apply, toNat_asciiByte (List.all_eq_true.1 h c hc), Char.ofNat_toNat, id]

theorem map_asciiByte_inj {cs ds : List Char} (hcs : cs.all isAsciiChar = true)
    (hds : ds.all isAsciiChar = true) (h : cs.map asciiByte = ds.map asciiByte) : cs = ds := by
  rw [← map_ofNat_asciiByte hcs, h, map_ofNat_asciiByte hds]

theorem all_isAsciiChar_take {cs : List Char} (h : cs.all isAsciiChar = true) (n : Nat) :
    (cs.take n).all isAsciiChar = true :=
  List.all_eq_true.2 fun c hc => List.all_eq_true.1 h c (List.mem_of_mem_take hc)

theorem all_isAsciiChar_drop {cs : List Char} (h : cs.all isAsciiChar = true) (n : Nat) :
    (cs.drop n).all isAsciiChar = true :=
  List.all_eq_true.2 fun c hc => List.all_eq_true.1 h c (List.mem_of_mem_drop hc)

theorem utf8EncodeChar_of_ascii {c : Char} (h : isAsciiChar c = true) :
    String.utf8EncodeChar c = [asciiByte c] := by
  have hcode : c.val.toNat ≤ 0x7F := Nat.le_of_lt_succ (of_decide_eq_true h)
  rw [String.utf8EncodeChar, if_pos hcode]
  rfl

/-- No byte of another character can be taken for an ASCII character. -/
theorem le_of_mem_utf8EncodeChar {c : Char} (h : isAsciiChar c = false) :
    ∀ b ∈ String.utf8EncodeChar c, 0x80 ≤ b.toNat := by
  have hcode : ¬ c.val.toNat ≤ 0x7F := fun hle =>
    of_decide_eq_false h (Nat.lt_succ_of_le hle)
  intro b hb
  rw [String.utf8EncodeChar, if_neg hcode] at hb
  split at hb
  case isTrue =>
    simp only [List.mem_cons, List.not_mem_nil, or_false] at hb
    rcases hb with rfl | rfl <;> rw [UInt8.toNat_ofNat'] <;> omega
  case isFalse =>
    split at hb
    case isTrue =>
      simp only [List.mem_cons, List.not_mem_nil, or_false] at hb
      rcases hb with rfl | rfl | rfl <;> rw [UInt8.toNat_ofNat'] <;> omega
    case isFalse =>
      simp only [List.mem_cons, List.not_mem_nil, or_false] at hb
      rcases hb with rfl | rfl | rfl | rfl <;> rw [UInt8.toNat_ofNat'] <;> omega

theorem encode_cons (c : Char) (cs : List Char) :
    encode (c :: cs) = String.utf8EncodeChar c ++ encode cs :=
  List.flatMap_cons

theorem encode_of_ascii {cs : List Char} (h : cs.all isAsciiChar = true) :
    encode cs = cs.map asciiByte := by
  induction cs with
  | nil => rfl
  | cons c cs ih =>
    rw [List.all_cons, Bool.and_eq_true] at h
    rw [encode_cons, utf8EncodeChar_of_ascii h.1, ih h.2, List.map_cons, List.singleton_append]

theorem utf8EncodeChar_ne_nil (c : Char) : String.utf8EncodeChar c ≠ [] := by
  rw [← List.length_pos_iff, String.length_utf8EncodeChar]
  exact c.utf8Size_pos

/-- A text that is not ASCII throughout has a byte that no ASCII character has. -/
theorem exists_mem_encode {cs : List Char} (h : cs.all isAsciiChar = false) :
    ∃ b ∈ encode cs, 0x80 ≤ b.toNat := by
  obtain ⟨c, hc, hascii⟩ := List.all_eq_false.1 h
  obtain ⟨b, hb⟩ := List.exists_mem_of_ne_nil _ (utf8EncodeChar_ne_nil c)
  exact ⟨b, List.mem_flatMap.2 ⟨c, hc, hb⟩,
    le_of_mem_utf8EncodeChar (eq_false_of_ne_true hascii) b hb⟩

end DocPortal.Text
