/-
A literal is its text in quotes. It opens with a quote and ends with one,
and in front of every other quote in it stands an odd run of backslashes;
it holds no control character and no `</`; and read as JSON it is the text
it was made from, so that different texts have different literals
(`isLiteralOf_literal_and_inj`).

Whether a quote is escaped is said here by the backslashes in front of it
and not by a reader's state, so that it can be asked of a quote anywhere in
a text.
-/
import Mathlib.Algebra.Group.Nat.Even
import Mathlib.Data.List.DropRight
import DocPortal.Json.Reader
import DocPortal.Proofs.Viewer.Literal

namespace DocPortal.Viewer

/-! ## Runs of backslashes -/

/-- How many backslashes a text ends with. -/
def endBackslashes (cs : List Char) : Nat :=
  (cs.rtakeWhile (· == '\\')).length

/-- What is in front of another character does not count. -/
theorem endBackslashes_append_cons {c : Char} (hc : c ≠ '\\') (front cs : List Char) :
    endBackslashes (front ++ c :: cs) = endBackslashes cs := by
  have hstop : (c :: front.reverse).takeWhile (· == '\\') = [] := by simp [hc]
  have hreverse : (front ++ c :: cs).reverse = cs.reverse ++ c :: front.reverse := by simp
  rw [endBackslashes, endBackslashes, List.rtakeWhile, List.rtakeWhile, hreverse,
    List.takeWhile_append, hstop, List.append_nil]
  split
  · next hall => rw [(List.takeWhile_prefix _).eq_of_length hall]
  · rfl

/-- Two backslashes in front leave the run even or odd, as it was. -/
theorem even_endBackslashes_pair (cs : List Char) :
    Even (endBackslashes ('\\' :: '\\' :: cs)) ↔ Even (endBackslashes cs) := by
  have hreverse : ('\\' :: '\\' :: cs).reverse = cs.reverse ++ ['\\', '\\'] := by simp
  rw [endBackslashes, endBackslashes, List.rtakeWhile, List.rtakeWhile, hreverse,
    List.takeWhile_append]
  split
  · next hall =>
    rw [(List.takeWhile_prefix _).eq_of_length hall]
    simp [Nat.even_add]
  · rfl

/-- So does a backslash with the character that it escapes. -/
theorem even_endBackslashes_escape (c : Char) (cs : List Char) :
    Even (endBackslashes ('\\' :: c :: cs)) ↔ Even (endBackslashes cs) := by
  by_cases hc : c = '\\'
  · subst hc
    exact even_endBackslashes_pair cs
  · rw [← List.singleton_append, endBackslashes_append_cons hc]

namespace IsBody

/-- Behind the body of a literal a quote is not escaped. -/
theorem even_endBackslashes {body : List Char} (h : IsBody body) : Even (endBackslashes body) := by
  induction h with
  | nil => exact ⟨0, rfl⟩
  | @plain c rest _ hbackslash _ ih =>
    rwa [← List.nil_append (c :: rest), endBackslashes_append_cons hbackslash]
  | escape _ ih => rwa [even_endBackslashes_escape]

/-- In it every quote is. -/
theorem not_even_endBackslashes {body before after : List Char} (h : IsBody body)
    (hsplit : body = before ++ '"' :: after) : ¬ Even (endBackslashes before) := by
  induction h generalizing before with
  | nil => exact absurd hsplit.symm (by simp)
  | @plain c rest hquote hbackslash _ ih =>
    cases before with
    | nil => exact absurd (List.cons.inj hsplit).1 hquote
    | cons d before =>
      rw [List.cons_append, List.cons.injEq] at hsplit
      obtain ⟨rfl, hrest⟩ := hsplit
      rw [← List.nil_append (c :: before), endBackslashes_append_cons hbackslash]
      exact ih hrest
  | @escape c rest _ ih =>
    match before with
    | [] => exact absurd (List.cons.inj hsplit).1 (by decide)
    | [d] =>
      -- the quote is the one that the backslash escapes
      obtain ⟨rfl, -⟩ := List.cons.inj hsplit
      decide
    | d :: e :: before =>
      rw [List.cons_append, List.cons_append, List.cons.injEq, List.cons.injEq] at hsplit
      obtain ⟨rfl, rfl, hrest⟩ := hsplit
      rw [even_endBackslashes_escape]
      exact ih hrest

end IsBody

/-! ## Literals -/

/-- A written text is a literal of a text. -/
structure IsLiteralOf (text written : String) : Prop where
  /-- It opens with a quote and ends with another. -/
  quoted : ∃ body, written.toList = '"' :: (body ++ ['"'])
  /-- These two are not escaped, and all others are. -/
  unescaped_iff : ∀ before after, written.toList = before ++ '"' :: after →
    (Even (endBackslashes before) ↔ before = [] ∨ after = [])
  noControl : ∀ c ∈ written.toList, 0x20 ≤ c.toNat
  noEndTag : ¬ "</".toList <:+: written.toList
  read : Json.read written = some (.str text)

/-- The quotes of a literal that are not escaped are its first character and its last. -/
theorem unescaped_iff_of_literal {text : String} {before after : List Char}
    (h : (literal text).toList = before ++ '"' :: after) :
    Even (endBackslashes before) ↔ before = [] ∨ after = [] := by
  rw [toList_literal] at h
  have hbody := isBody_literalBody text
  cases before with
  | nil => simp [endBackslashes]
  | cons c before =>
    obtain ⟨rfl, hrest⟩ := List.cons.inj h
    rw [← List.nil_append ('"' :: before), endBackslashes_append_cons (by decide)]
    rcases List.eq_nil_or_concat after with rfl | ⟨after, last, rfl⟩
    · have hclosing : literalBody text = before := (List.append_inj' hrest rfl).1
      rw [← hclosing]
      simp [hbody.even_endBackslashes]
    · have hlast : literalBody text ++ ['"'] = before ++ '"' :: after ++ [last] := by
        simpa using hrest
      have hinside : literalBody text = before ++ '"' :: after := (List.append_inj' hlast rfl).1
      simp [hbody.not_even_endBackslashes hinside]

theorem noControl_literal {text : String} {c : Char} (h : c ∈ (literal text).toList) :
    0x20 ≤ c.toNat := by
  rw [toList_literal, List.mem_cons, List.mem_append, List.mem_singleton] at h
  rcases h with rfl | h | rfl
  · decide
  · exact not_control_of_mem_literalBody h
  · decide

theorem not_endTag_infix_literal (text : String) : ¬ "</".toList <:+: (literal text).toList := by
  have hquote : '"' ∉ "</".toList := by decide
  rw [toList_literal, List.infix_cons_iff]
  rintro (h | h)
  · simp at h
  · rw [Text.infix_append_cons_iff hquote] at h
    rcases h with h | h
    · exact not_endTag_infix_literalBody text h
    · simp at h

/-- Read as JSON, a literal is its text. -/
theorem read_literal (text : String) : Json.read (literal text) = some (.str text) := by
  have hread := readString_literal text []
  rw [Json.read, toList_literal, List.length_cons, Json.readValue, hread]
  simp

theorem isLiteralOf_literal (text : String) : IsLiteralOf text (literal text) where
  quoted := ⟨literalBody text, toList_literal text⟩
  unescaped_iff _ _ := unescaped_iff_of_literal
  noControl _ := noControl_literal
  noEndTag := not_endTag_infix_literal text
  read := read_literal text

/-- What is a literal of two texts was made from one. -/
theorem IsLiteralOf.text_eq {a b written : String} (ha : IsLiteralOf a written)
    (hb : IsLiteralOf b written) : a = b := by
  have hread : some (Json.str a) = some (.str b) := ha.read.symm.trans hb.read
  cases hread
  rfl

/-- **Every text has a literal of its own**, which ends at its last quote and nowhere before, may
stand inside a script of a page, and is read back as the text. -/
theorem isLiteralOf_literal_and_inj :
    (∀ text, IsLiteralOf text (literal text)) ∧ Function.Injective literal := by
  refine ⟨isLiteralOf_literal, fun a b h => ?_⟩
  have ha := isLiteralOf_literal a
  rw [h] at ha
  exact ha.text_eq (isLiteralOf_literal b)

end DocPortal.Viewer
