/-
What stands between the quotes of a literal, whatever text it was made
from: no quote without a backslash before it (`isBody_literalBody`), no
control character, and no `</`. A reader that goes by quotes and
backslashes therefore takes in the body whole and leaves the literal at
its own closing quote.
-/
import DocPortal.Proofs.Text.Occurrence
import DocPortal.Viewer.Literal
import DocPortal.Viewer.ScriptText

namespace DocPortal.Viewer

/-! ## How one character is written -/

/-- A character stands for itself, or it is a control character, a quote or a backslash and is
written as a backslash and what says which one it is. -/
theorem escapeChar_cases (c : Char) :
    (Json.escapeChar c = [c] ∧ 0x20 ≤ c.toNat ∧ c ≠ '"' ∧ c ≠ '\\') ∨
    ((c.toNat < 0x20 ∨ c = '"' ∨ c = '\\') ∧ ∃ d ds, Json.escapeChar c = '\\' :: d :: ds ∧
      (∀ e ∈ d :: ds, 0x20 ≤ e.toNat ∧ e ≠ '<' ∧ e ≠ '/' ∧ e ≠ '-') ∧
      ∀ e ∈ ds, e ≠ '"' ∧ e ≠ '\\') := by
  have hdigit : ∀ n < 16, 0x20 ≤ (Text.hexDigit n).toNat ∧ Text.hexDigit n ≠ '<' ∧
      Text.hexDigit n ≠ '/' ∧ Text.hexDigit n ≠ '-' ∧ Text.hexDigit n ≠ '"' ∧
      Text.hexDigit n ≠ '\\' := by decide
  unfold Json.escapeChar
  split
  iterate 7
    · exact .inr ⟨by decide, _, _, rfl, by simp, by simp⟩
  · next hquote hbackslash _ _ _ _ _ =>
    split
    · next hcontrol =>
      have hhigh := hdigit (c.toNat / 16) (by omega)
      have hlow := hdigit (c.toNat % 16) (by omega)
      refine .inr ⟨.inl hcontrol, _, _, rfl, ?_, ?_⟩
      · intro e he
        simp only [List.mem_cons, List.not_mem_nil, or_false] at he
        rcases he with rfl | rfl | rfl | rfl | rfl
        · decide
        · decide
        · decide
        · exact ⟨hhigh.1, hhigh.2.1, hhigh.2.2.1, hhigh.2.2.2.1⟩
        · exact ⟨hlow.1, hlow.2.1, hlow.2.2.1, hlow.2.2.2.1⟩
      · intro e he
        simp only [List.mem_cons, List.not_mem_nil, or_false] at he
        rcases he with rfl | rfl | rfl | rfl
        · decide
        · decide
        · exact hhigh.2.2.2.2
        · exact hlow.2.2.2.2
    · next hcontrol => exact .inl ⟨rfl, by omega, hquote, hbackslash⟩

/-- What is written character by character as it stands is the text itself. -/
theorem flatMap_eq_self {write : Char → List Char} {cs : List Char}
    (h : ∀ c ∈ cs, write c = [c]) : cs.flatMap write = cs := by
  rw [List.flatMap_def, List.map_congr_left h, ← List.flatMap_def, List.flatMap_singleton']

theorem escapeChars_eq_self {cs : List Char}
    (h : ∀ c ∈ cs, 0x20 ≤ c.toNat ∧ c ≠ '"' ∧ c ≠ '\\') : Json.escapeChars cs = cs := by
  refine flatMap_eq_self fun c hc => ?_
  obtain ⟨hcontrol, hquote, hbackslash⟩ := h c hc
  rcases escapeChar_cases c with ⟨hsame, -⟩ | ⟨hcontrol' | rfl | rfl, -⟩
  · exact hsame
  · omega
  · exact absurd rfl hquote
  · exact absurd rfl hbackslash

/-- A text that is written starting with a slash starts with one. -/
theorem exists_of_breakEndTags_escapeChars {cs rest : List Char}
    (h : breakEndTags (Json.escapeChars cs) = '/' :: rest) : ∃ cs', cs = '/' :: cs' := by
  cases cs using breakEndTags.induct with
  | case1 cs => rw [breakEndTags_escapeChars_pair] at h; simp at h
  | case2 c cs hpair =>
    rw [breakEndTags_escapeChars_cons hpair] at h
    rcases escapeChar_cases c with ⟨hc, -⟩ | ⟨-, d, ds, hc, -⟩
    · rw [hc] at h
      simp only [List.singleton_append, List.cons.injEq] at h
      exact ⟨cs, by rw [h.1]⟩
    · rw [hc] at h; simp at h
  | case3 => simp [breakEndTags] at h

/-! ## Quotes and backslashes -/

/-- Characters in which a reader of literals finds no end: a quote comes only behind a backslash,
and the last backslash has a character behind it. -/
inductive IsBody : List Char → Prop
  | nil : IsBody []
  | plain {c : Char} {rest : List Char} : c ≠ '"' → c ≠ '\\' → IsBody rest → IsBody (c :: rest)
  | escape {c : Char} {rest : List Char} : IsBody rest → IsBody ('\\' :: c :: rest)

namespace IsBody

theorem of_forall {cs : List Char} (h : ∀ c ∈ cs, c ≠ '"' ∧ c ≠ '\\') : IsBody cs := by
  induction cs with
  | nil => exact .nil
  | cons c cs ih =>
    obtain ⟨hquote, hbackslash⟩ := h c List.mem_cons_self
    exact .plain hquote hbackslash (ih fun d hd => h d (List.mem_cons_of_mem _ hd))

theorem append {a b : List Char} (ha : IsBody a) (hb : IsBody b) : IsBody (a ++ b) := by
  induction ha with
  | nil => exact hb
  | plain hquote hbackslash _ ih => exact .plain hquote hbackslash ih
  | escape _ ih => exact .escape ih

open ScriptText

theorem placeAfter {body : List Char} (h : IsBody body) : placeAfter .inside body = .inside := by
  induction h with
  | nil => rfl
  | plain hquote hbackslash _ ih =>
    simpa [ScriptText.placeAfter, Place.next, hquote, hbackslash] using ih
  | escape _ ih => simpa [ScriptText.placeAfter, Place.next] using ih

theorem skeletonFrom {body : List Char} (h : IsBody body) : skeletonFrom .inside body = [] := by
  induction h with
  | nil => rfl
  | plain hquote hbackslash _ ih =>
    simpa [ScriptText.skeletonFrom, isContent, Place.next, hquote, hbackslash] using ih
  | escape _ ih => simpa [ScriptText.skeletonFrom, isContent, Place.next] using ih

/-- Read from behind its opening quote, a literal has its body as contents and ends at the
closing quote. -/
theorem contentsFrom {body : List Char} (h : IsBody body) (rest : List Char) :
    contentsFrom .inside (body ++ '"' :: rest) = (body, (contentsFrom .outside rest).2) := by
  induction h with
  | nil => simp [ScriptText.contentsFrom, isContent, Place.next]
  | plain hquote hbackslash _ ih =>
    simp [ScriptText.contentsFrom, isContent, Place.next, hquote, hbackslash, ih]
  | escape _ ih => simp [ScriptText.contentsFrom, isContent, Place.next, ih]

end IsBody

theorem isBody_escapeChar (c : Char) : IsBody (Json.escapeChar c) := by
  rcases escapeChar_cases c with ⟨hc, -, hquote, hbackslash⟩ | ⟨-, d, ds, hc, -, hds⟩
  · rw [hc]; exact .plain hquote hbackslash .nil
  · rw [hc]; exact .escape (.of_forall hds)

theorem isBody_breakEndTags_escapeChars (cs : List Char) :
    IsBody (breakEndTags (Json.escapeChars cs)) := by
  induction cs using breakEndTags.induct with
  | case1 cs ih =>
    rw [breakEndTags_escapeChars_pair]
    exact .plain (by decide) (by decide) (.escape ih)
  | case2 c cs hpair ih =>
    rw [breakEndTags_escapeChars_cons hpair]
    exact (isBody_escapeChar c).append ih
  | case3 => exact .nil

/-- The body of a literal never ends the literal. -/
theorem isBody_literalBody (s : String) : IsBody (literalBody s) :=
  isBody_breakEndTags_escapeChars s.toList

/-! ## Control characters and end tags -/

theorem not_control_of_mem_breakEndTags_escapeChars {cs : List Char} :
    ∀ d ∈ breakEndTags (Json.escapeChars cs), 0x20 ≤ d.toNat := by
  induction cs using breakEndTags.induct with
  | case1 cs ih =>
    intro d hd
    rw [breakEndTags_escapeChars_pair] at hd
    simp only [List.mem_cons] at hd
    rcases hd with rfl | rfl | rfl | hd
    · decide
    · decide
    · decide
    · exact ih d hd
  | case2 c cs hpair ih =>
    intro d hd
    rw [breakEndTags_escapeChars_cons hpair, List.mem_append] at hd
    rcases hd with hd | hd
    · rcases escapeChar_cases c with ⟨hc, hcontrol, -⟩ | ⟨-, e, es, hc, hes, -⟩
      · rw [hc, List.mem_singleton] at hd
        rw [hd]; exact hcontrol
      · rw [hc, List.mem_cons] at hd
        rcases hd with rfl | hd
        · decide
        · exact (hes d hd).1
    · exact ih d hd
  | case3 => simp [breakEndTags]

/-- No control character stands in a literal. -/
theorem not_control_of_mem_literalBody {s : String} {c : Char} (h : c ∈ literalBody s) :
    0x20 ≤ c.toNat :=
  not_control_of_mem_breakEndTags_escapeChars c h

theorem not_endTag_infix_breakEndTags_escapeChars (cs : List Char) :
    ¬ ['<', '/'] <:+: breakEndTags (Json.escapeChars cs) := by
  induction cs using breakEndTags.induct with
  | case1 cs ih =>
    intro h
    rw [breakEndTags_escapeChars_pair, List.infix_cons_iff] at h
    rcases h with h | h
    · simp [List.cons_prefix_cons] at h
    · have hmem : '<' ∉ ['\\', '/'] := by decide
      exact ih (Text.infix_of_head_not_mem hmem h)
  | case2 c cs hpair ih =>
    intro h
    rw [breakEndTags_escapeChars_cons hpair] at h
    rcases escapeChar_cases c with ⟨hc, -⟩ | ⟨-, d, ds, hc, hds, -⟩
    · rw [hc, List.singleton_append, List.infix_cons_iff, List.cons_prefix_cons] at h
      rcases h with ⟨hopen, hslash⟩ | h
      · obtain ⟨rest, hrest⟩ := hslash
        obtain ⟨cs', hcs'⟩ := exists_of_breakEndTags_escapeChars hrest.symm
        exact hpair cs' hopen.symm hcs'
      · exact ih h
    · rw [hc] at h
      refine ih (Text.infix_of_head_not_mem ?_ h)
      rw [List.mem_cons, not_or]
      exact ⟨by decide, fun hmem => (hds _ hmem).2.1 rfl⟩
  | case3 => simp [breakEndTags]

/-- No end tag starts in the body of a literal. -/
theorem not_endTag_infix_literalBody (s : String) : ¬ ['<', '/'] <:+: literalBody s :=
  not_endTag_infix_breakEndTags_escapeChars s.toList

end DocPortal.Viewer
