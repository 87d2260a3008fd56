/-
String literals in a script that may stand inside a page.

A JSON string literal is a script literal too, but in a page the script
ends at the first end tag, wherever that stands. So every `</` is written
`<\/`, which reads as the same text: the literal is still a JSON literal
of what it was made from (`readString_literal`).
-/
import DocPortal.Json.Quoted

namespace DocPortal.Viewer

/-- The characters with every `</` broken up by a backslash. -/
def breakEndTags : List Char → List Char
  | '<' :: '/' :: rest => '<' :: '\\' :: '/' :: breakEndTags rest
  | c :: rest => c :: breakEndTags rest
  | [] => []

/-- A text as a string literal of the script, its quotes included. -/
def literal (s : String) : String :=
  String.ofList (breakEndTags (Json.quoted s).toList)

/-- The characters between the quotes of a literal. -/
def literalBody (s : String) : List Char :=
  breakEndTags (Json.escapeChars s.toList)

/-! ## Breaking up -/

theorem breakEndTags_cons {c : Char} (hc : c ≠ '<') (rest : List Char) :
    breakEndTags (c :: rest) = c :: breakEndTags rest := by
  rw [breakEndTags]
  rintro _ rfl
  exact absurd rfl hc

theorem breakEndTags_open_cons {d : Char} (hd : d ≠ '/') (rest : List Char) :
    breakEndTags ('<' :: d :: rest) = '<' :: breakEndTags (d :: rest) := by
  rw [breakEndTags]
  rintro _ _ ⟨⟩
  exact absurd rfl hd

/-- What stands in front of a text that does not start with a slash is broken up on its own. -/
theorem breakEndTags_append {cs : List Char} {d : Char} (hd : d ≠ '/') (rest : List Char) :
    breakEndTags (cs ++ d :: rest) = breakEndTags cs ++ breakEndTags (d :: rest) := by
  induction cs using breakEndTags.induct with
  | case1 cs ih => simp [breakEndTags, ih]
  | case2 c cs hpair ih =>
    by_cases hc : c = '<'
    · subst hc
      cases cs with
      | nil => simp [breakEndTags_open_cons hd, breakEndTags]
      | cons e cs =>
        have he : e ≠ '/' := by rintro rfl; exact hpair cs rfl rfl
        rw [List.cons_append, List.cons_append, breakEndTags_open_cons he,
          ← List.cons_append, ih, breakEndTags_open_cons he, List.cons_append]
    · rw [List.cons_append, breakEndTags_cons hc, ih, breakEndTags_cons hc, List.cons_append]
  | case3 => rfl

/-- A literal is its body between quotes. -/
@[simp]
theorem toList_literal (s : String) : (literal s).toList = '"' :: (literalBody s ++ ['"']) := by
  rw [literal, String.toList_ofList, Json.toList_quoted, breakEndTags_cons (by decide),
    breakEndTags_append (by decide), breakEndTags_cons (by decide), breakEndTags, literalBody]

/-! ## Reading -/

/-- A character that is no slash is not written with one in front. -/
theorem exists_escapeChar_cons {c : Char} (hc : c ≠ '/') :
    ∃ d ds, Json.escapeChar c = d :: ds ∧ d ≠ '/' := by
  unfold Json.escapeChar
  split
  iterate 7
    · exact ⟨'\\', _, rfl, by decide⟩
  · split
    · exact ⟨'\\', _, rfl, by decide⟩
    · exact ⟨c, [], rfl, hc⟩

/-- A character that does not open a tag is written without one. -/
theorem not_mem_escapeChar {c : Char} (hc : c ≠ '<') : '<' ∉ Json.escapeChar c := by
  have hdigit : ∀ n < 16, Text.hexDigit n ≠ '<' := by decide
  unfold Json.escapeChar
  split
  iterate 7
    · decide
  · split
    · next hcontrol =>
      simp only [List.mem_cons, List.not_mem_nil, or_false, not_or]
      refine ⟨by decide, by decide, by decide, by decide, ?_, ?_⟩
      · exact (hdigit _ (by omega)).symm
      · exact (hdigit _ (by omega)).symm
    · simpa using hc.symm

theorem breakEndTags_append_of_not_mem {cs : List Char} (h : '<' ∉ cs) (rest : List Char) :
    breakEndTags (cs ++ rest) = cs ++ breakEndTags rest := by
  induction cs with
  | nil => rfl
  | cons c cs ih =>
    simp only [List.mem_cons, not_or] at h
    rw [List.cons_append, breakEndTags_cons (Ne.symm h.1), ih h.2, List.cons_append]

/-- A `</` of the text is broken up. -/
theorem breakEndTags_escapeChars_pair (cs : List Char) :
    breakEndTags (Json.escapeChars ('<' :: '/' :: cs)) =
      '<' :: '\\' :: '/' :: breakEndTags (Json.escapeChars cs) := by
  have hopen : Json.escapeChar '<' = ['<'] := by decide
  have hslash : Json.escapeChar '/' = ['/'] := by decide
  simp [hopen, hslash, breakEndTags]

/-- Apart from that, a text is written character by character. -/
theorem breakEndTags_escapeChars_cons {c : Char} {cs : List Char}
    (hpair : ∀ rest, c = '<' → cs = '/' :: rest → False) :
    breakEndTags (Json.escapeChars (c :: cs)) =
      Json.escapeChar c ++ breakEndTags (Json.escapeChars cs) := by
  rw [Json.escapeChars_cons]
  by_cases hc : c = '<'
  · subst hc
    have hopen : Json.escapeChar '<' = ['<'] := by decide
    cases cs with
    | nil => rfl
    | cons d cs =>
      have hd : d ≠ '/' := by rintro rfl; exact hpair cs rfl rfl
      obtain ⟨e, es, hes, he⟩ := exists_escapeChar_cons hd
      rw [hopen, Json.escapeChars_cons, hes]
      exact breakEndTags_open_cons he _
  · exact breakEndTags_append_of_not_mem (not_mem_escapeChar hc) _

/-- The body of a literal is read as its text, up to the closing quote and no further. -/
theorem readString_breakEndTags (cs rest : List Char) :
    Json.readString (breakEndTags (Json.escapeChars cs) ++ '"' :: rest) = some (cs, rest) := by
  induction cs using breakEndTags.induct with
  | case1 cs ih =>
    rw [breakEndTags_escapeChars_pair]
    simp [Json.readString, Json.shortEscape?, ih]
  | case2 c cs hpair ih =>
    rw [breakEndTags_escapeChars_cons hpair, List.append_assoc, Json.readString_escapeChar, ih]
    rfl
  | case3 => simp [breakEndTags, Json.readString]

/-- A literal is read back as the text it was made from. -/
theorem readString_literal (s : String) (rest : List Char) :
    Json.readString (literalBody s ++ '"' :: rest) = some (s.toList, rest) :=
  readString_breakEndTags s.toList rest

end DocPortal.Viewer
