/-
What trimming leaves. Of a text it leaves nothing exactly when the text is
blank, and everything exactly when neither end of it is; what is left is
the one trimmed text that the whole pads with blanks (`trim_eq_iff`). Blanks
around a text make no difference to that, but they do to what is left when
a character is taken off its end (`trimEndOf_eq_iff`).
-/
import Mathlib.Data.List.DropRight
import Mathlib.Data.List.TakeWhile
import DocPortal.Text.Blank

namespace DocPortal.Text

theorem isBlankChar_eq_false_of_visible {c : Char} (hlow : 0x20 < c.toNat)
    (hhigh : c.toNat < 0x7F) : isBlankChar c = false := by
  simp only [isBlankChar, blankRanges, List.any_cons, List.any_nil, Bool.or_false,
    Bool.or_eq_false_iff, Bool.and_eq_false_iff, decide_eq_false_iff_not]
  omega

theorem isBlankChar_eq_false_of_isDigit {c : Char} (h : c.isDigit = true) :
    isBlankChar c = false := by
  have hrange := Char.isDigit_iff_toNat.1 h
  have hcodes : '0'.toNat = 48 ∧ '9'.toNat = 57 := by decide
  exact isBlankChar_eq_false_of_visible (by omega) (by omega)

theorem dropEndWhile_eq_nil_iff {drop : Char → Bool} {cs : List Char} :
    dropEndWhile drop cs = [] ↔ ∀ c ∈ cs, drop c = true := by
  simp [dropEndWhile, List.dropWhile_eq_nil_iff]

theorem trimChars_eq_nil_iff {cs : List Char} :
    trimChars cs = [] ↔ ∀ c ∈ cs, isBlankChar c = true := by
  rw [trimChars, dropEndWhile_eq_nil_iff]
  constructor
  · intro h c hc
    rw [← List.takeWhile_append_dropWhile (p := isBlankChar) (l := cs), List.mem_append] at hc
    rcases hc with hc | hc
    · exact List.mem_takeWhile_imp hc
    · exact h c hc
  · intro h c hc
    exact h c ((List.dropWhile_suffix isBlankChar).subset hc)

theorem isBlank_eq_false_iff {text : String} :
    isBlank text = false ↔ ∃ c ∈ text.toList, isBlankChar c = false := by
  simp only [isBlank, List.all_eq_false, Bool.not_eq_true]

theorem trim_eq_empty_iff {text : String} : trim text = "" ↔ isBlank text = true := by
  rw [← String.toList_eq_nil_iff, toList_trim, trimChars_eq_nil_iff, isBlank, List.all_eq_true]

/-! ## Trimmed texts -/

theorem dropWhile_eq_self_iff {p : Char → Bool} {cs : List Char} :
    cs.dropWhile p = cs ↔ ∀ c ∈ cs.head?, p c = false := by
  rw [List.dropWhile_eq_self_iff]
  cases cs <;> simp

theorem dropEndWhile_eq_self_iff {drop : Char → Bool} {cs : List Char} :
    dropEndWhile drop cs = cs ↔ ∀ c ∈ cs.getLast?, drop c = false := by
  rw [dropEndWhile, List.reverse_eq_iff, dropWhile_eq_self_iff, List.head?_reverse]

theorem length_trimChars_le (cs : List Char) :
    (trimChars cs).length ≤ (cs.dropWhile isBlankChar).length :=
  (List.rdropWhile_prefix isBlankChar (cs.dropWhile isBlankChar)).length_le

theorem dropWhile_eq_self_of_trimChars {cs : List Char} (h : trimChars cs = cs) :
    cs.dropWhile isBlankChar = cs := by
  have hlength := length_trimChars_le cs
  rw [h] at hlength
  exact (List.dropWhile_suffix isBlankChar).eq_of_length_le hlength

theorem dropEndWhile_eq_self_of_trimChars {cs : List Char} (h : trimChars cs = cs) :
    dropEndWhile isBlankChar cs = cs := by
  rw [trimChars, dropWhile_eq_self_of_trimChars h] at h
  exact h

/-- A text neither begins nor ends with a blank. -/
def IsTrimmed (text : String) : Prop :=
  (∀ c ∈ text.toList.head?, isBlankChar c = false) ∧
    ∀ c ∈ text.toList.getLast?, isBlankChar c = false

/-- Trimming leaves such a text as it is, and no other. -/
theorem isTrimmed_iff {text : String} : IsTrimmed text ↔ trim text = text := by
  rw [IsTrimmed, ← dropWhile_eq_self_iff, ← dropEndWhile_eq_self_iff, ← String.toList_inj,
    toList_trim]
  constructor
  · rintro ⟨hstart, hend⟩
    rw [trimChars, hstart, hend]
  · exact fun h => ⟨dropWhile_eq_self_of_trimChars h, dropEndWhile_eq_self_of_trimChars h⟩

instance (text : String) : Decidable (IsTrimmed text) :=
  decidable_of_iff (trim text = text) isTrimmed_iff.symm

theorem IsTrimmed.trim_eq {text : String} (h : IsTrimmed text) : trim text = text :=
  isTrimmed_iff.1 h

/-- A text without blanks is trimmed already. -/
theorem isTrimmed_of_forall {text : String} (h : ∀ c ∈ text.toList, isBlankChar c = false) :
    IsTrimmed text :=
  ⟨fun c hc => h c (List.mem_of_head? hc), fun c hc => h c (List.mem_of_getLast? hc)⟩

/-- Two trimmed texts are trimmed together, with a character between them that is not blank. -/
theorem IsTrimmed.around {c : Char} (hc : isBlankChar c = false) {before after text : String}
    (hbefore : IsTrimmed before) (hafter : IsTrimmed after)
    (htext : text.toList = before.toList ++ c :: after.toList) : IsTrimmed text := by
  rw [IsTrimmed, htext, List.head?_append, List.getLast?_append, List.getLast?_cons]
  constructor
  · intro d hd
    rcases Option.or_eq_some_iff.1 hd with hfirst | ⟨-, hfirst⟩
    · exact hbefore.1 d hfirst
    · cases hfirst
      exact hc
  · intro d hd
    rw [Option.some_or] at hd
    cases hd
    cases hlast : after.toList.getLast? with
    | none => exact hc
    | some last => exact hafter.2 last hlast

/-! ## Blanks around a text -/

theorem dropEndWhile_append {drop : Char → Bool} {after : List Char}
    (h : ∀ c ∈ after, drop c = true) (cs : List Char) :
    dropEndWhile drop (cs ++ after) = dropEndWhile drop cs := by
  have hreverse : ∀ c ∈ after.reverse, drop c = true := fun c hc => h c (List.mem_reverse.1 hc)
  rw [dropEndWhile, List.reverse_append, List.dropWhile_append_of_pos hreverse, ← dropEndWhile]

theorem trimChars_append_left {before : List Char} (h : ∀ c ∈ before, isBlankChar c = true)
    (cs : List Char) : trimChars (before ++ cs) = trimChars cs := by
  rw [trimChars, List.dropWhile_append_of_pos h, ← trimChars]

theorem trimChars_append_right {after : List Char} (h : ∀ c ∈ after, isBlankChar c = true)
    (cs : List Char) : trimChars (cs ++ after) = trimChars cs := by
  rw [trimChars, trimChars, List.dropWhile_append]
  split
  · next hblank =>
    have hafter : after.dropWhile isBlankChar = [] := List.dropWhile_eq_nil_iff.2 h
    rw [List.isEmpty_iff.1 hblank, hafter]
  · exact dropEndWhile_append h _

/-- A text is what trimming leaves of it, with blanks around. -/
theorem exists_eq_append_trimChars (cs : List Char) :
    ∃ before after, cs = before ++ (trimChars cs ++ after) ∧
      (∀ c ∈ before, isBlankChar c = true) ∧ ∀ c ∈ after, isBlankChar c = true := by
  refine ⟨cs.takeWhile isBlankChar, (cs.dropWhile isBlankChar).rtakeWhile isBlankChar, ?_, ?_, ?_⟩
  · have hend : trimChars cs ++ (cs.dropWhile isBlankChar).rtakeWhile isBlankChar =
        cs.dropWhile isBlankChar := List.rdropWhile_append_rtakeWhile
    rw [hend, List.takeWhile_append_dropWhile]
  · intro c hc
    exact List.mem_takeWhile_imp hc
  · intro c hc
    exact List.mem_rtakeWhile_imp hc

theorem mem_of_mem_trim {c : Char} {text : String} (h : c ∈ (trim text).toList) :
    c ∈ text.toList := by
  obtain ⟨before, after, htext, -⟩ := exists_eq_append_trimChars text.toList
  rw [toList_trim] at h
  rw [htext]
  exact List.mem_append_right _ (List.mem_append_left _ h)

theorem trimChars_trimChars (cs : List Char) : trimChars (trimChars cs) = trimChars cs := by
  obtain ⟨before, after, hcs, hbefore, hafter⟩ := exists_eq_append_trimChars cs
  calc trimChars (trimChars cs)
      = trimChars (before ++ (trimChars cs ++ after)) := by
        rw [trimChars_append_left hbefore, trimChars_append_right hafter]
    _ = trimChars cs := by rw [← hcs]

theorem isTrimmed_trim (text : String) : IsTrimmed (trim text) := by
  rw [isTrimmed_iff, ← String.toList_inj, toList_trim, toList_trim, trimChars_trimChars]

@[simp]
theorem trim_trim (text : String) : trim (trim text) = trim text :=
  (isTrimmed_trim text).trim_eq

@[simp]
theorem isBlank_trim (text : String) : isBlank (trim text) = isBlank text := by
  rw [Bool.eq_iff_iff, ← trim_eq_empty_iff, ← trim_eq_empty_iff, trim_trim]

theorem trimChars_dropWhile (cs : List Char) :
    trimChars (cs.dropWhile isBlankChar) = trimChars cs := by
  have hblank : ∀ c ∈ cs.takeWhile isBlankChar, isBlankChar c = true := fun c hc =>
    List.mem_takeWhile_imp hc
  rw [← trimChars_append_left hblank, List.takeWhile_append_dropWhile]

theorem trimChars_dropEndWhile (cs : List Char) :
    trimChars (dropEndWhile isBlankChar cs) = trimChars cs := by
  have hblank : ∀ c ∈ cs.rtakeWhile isBlankChar, isBlankChar c = true := fun c hc =>
    List.mem_rtakeWhile_imp hc
  have hwhole : dropEndWhile isBlankChar cs ++ cs.rtakeWhile isBlankChar = cs :=
    List.rdropWhile_append_rtakeWhile
  rw [← trimChars_append_right hblank, hwhole]

/-- A text with blanks around it, or without. -/
def IsPadded (text padded : String) : Prop :=
  ∃ before after, isBlank before = true ∧ isBlank after = true ∧ padded = before ++ text ++ after

theorem IsPadded.refl (text : String) : IsPadded text text := by
  refine ⟨"", "", rfl, rfl, ?_⟩
  rw [String.empty_append, String.append_empty]

theorem isPadded_trim (text : String) : IsPadded (trim text) text := by
  obtain ⟨before, after, htext, hbefore, hafter⟩ := exists_eq_append_trimChars text.toList
  refine ⟨String.ofList before, String.ofList after, ?_, ?_, ?_⟩
  · rw [isBlank, String.toList_ofList, List.all_eq_true]
    exact hbefore
  · rw [isBlank, String.toList_ofList, List.all_eq_true]
    exact hafter
  · rw [← String.toList_inj, htext]
    simp [htext.symm]

theorem IsPadded.trim_eq {text padded : String} (h : IsPadded text padded) :
    trim padded = trim text := by
  obtain ⟨before, after, hbefore, hafter, rfl⟩ := h
  rw [← String.toList_inj, toList_trim, toList_trim, String.toList_append, String.toList_append,
    trimChars_append_right (List.all_eq_true.1 hafter),
    trimChars_append_left (List.all_eq_true.1 hbefore)]

/-- What is left of a text is the one trimmed text that it pads. -/
theorem trim_eq_iff {text padded : String} :
    trim padded = text ↔ IsTrimmed text ∧ IsPadded text padded := by
  constructor
  · rintro rfl
    exact ⟨isTrimmed_trim padded, isPadded_trim padded⟩
  · rintro ⟨htrimmed, hpadded⟩
    rw [hpadded.trim_eq, htrimmed.trim_eq]

theorem IsPadded.append_left {text padded before : String} (hbefore : isBlank before = true)
    (h : IsPadded text padded) : IsPadded text (before ++ padded) := by
  obtain ⟨first, after, hfirst, hafter, rfl⟩ := h
  refine ⟨before ++ first, after, ?_, hafter, ?_⟩
  · rw [isBlank, String.toList_append, List.all_append, ← isBlank, ← isBlank, hbefore, hfirst]
    rfl
  · simp only [String.append_assoc]

theorem IsPadded.append_right {text padded after : String} (hafter : isBlank after = true)
    (h : IsPadded text padded) : IsPadded text (padded ++ after) := by
  obtain ⟨before, last, hbefore, hlast, rfl⟩ := h
  refine ⟨before, last ++ after, hbefore, ?_, ?_⟩
  · rw [isBlank, String.toList_append, List.all_append, ← isBlank, ← isBlank, hlast, hafter]
    rfl
  · simp only [String.append_assoc]

/-- What is around a text are blanks and nothing else. -/
theorem IsPadded.not_mem {text padded : String} {c : Char} (h : IsPadded text padded)
    (hc : isBlankChar c = false) (hmem : c ∉ text.toList) : c ∉ padded.toList := by
  obtain ⟨before, after, hbefore, hafter, rfl⟩ := h
  have hblank : ∀ {blanks : String}, isBlank blanks = true → c ∉ blanks.toList := by
    intro blanks hblanks hin
    rw [List.all_eq_true.1 hblanks c hin] at hc
    cases hc
  simp [hblank hbefore, hblank hafter, hmem]

/-! ## What is not blank stays -/

/-- Around a character that is not blank the two ends are trimmed apart. -/
theorem trimChars_append_cons {c : Char} (hc : isBlankChar c = false) (before after : List Char) :
    trimChars (before ++ c :: after) =
      before.dropWhile isBlankChar ++ c :: dropEndWhile isBlankChar after := by
  have hstart : (before ++ c :: after).dropWhile isBlankChar =
      before.dropWhile isBlankChar ++ c :: after := by
    rw [List.dropWhile_append]
    split
    · next hblank => simp [List.isEmpty_iff.1 hblank, hc]
    · rfl
  rw [trimChars, hstart, dropEndWhile, List.reverse_append, List.reverse_cons, List.append_assoc,
    List.dropWhile_append]
  split
  · next hblank =>
    have hafter : dropEndWhile isBlankChar after = [] := by
      rw [dropEndWhile, List.isEmpty_iff.1 hblank, List.reverse_nil]
    simp [hafter, hc]
  · simp [dropEndWhile]

/-! ## Taking a character off the end -/

@[simp]
theorem trimEndOf_trimEndOf (c : Char) (text : String) :
    trimEndOf c (trimEndOf c text) = trimEndOf c text := by
  rw [← String.toList_inj, toList_trimEndOf, toList_trimEndOf]
  exact List.rdropWhile_idempotent _ _

theorem trimEndOf_append {c : Char} {after : String} (h : ∀ d ∈ after.toList, d = c)
    (text : String) : trimEndOf c (text ++ after) = trimEndOf c text := by
  rw [← String.toList_inj, toList_trimEndOf, toList_trimEndOf, String.toList_append]
  exact dropEndWhile_append (fun d hd => beq_iff_eq.2 (h d hd)) _

theorem trimEndOf_append_slash (text : String) :
    trimEndOf '/' (text ++ "/") = trimEndOf '/' text :=
  trimEndOf_append (by simp) text

theorem not_suffix_trimEndOf (c : Char) (text : String) :
    ¬ [c] <:+ (trimEndOf c text).toList := by
  rw [toList_trimEndOf]
  rintro ⟨before, hbefore⟩
  have hlast := List.rdropWhile_last_not (· == c) text.toList
  have hdrop : text.toList.rdropWhile (· == c) = before ++ [c] := hbefore.symm
  simp [hdrop] at hlast

/-- What is not blank at its end makes a text longer, trimmed or not. -/
theorem trimChars_append_ne {c : Char} (hc : isBlankChar c = false) (cs rest : List Char) :
    trimChars (cs ++ (rest ++ [c])) ≠ trimChars cs := by
  intro h
  have hlength := length_trimChars_le cs
  have hlonger : (cs.dropWhile isBlankChar).length ≤
      ((cs ++ rest).dropWhile isBlankChar).length := by
    rw [List.dropWhile_append]
    split
    · next hnil =>
      rw [List.isEmpty_iff.1 hnil]
      exact Nat.zero_le _
    · rw [List.length_append]
      omega
  rw [← h, ← List.append_assoc, trimChars_append_cons hc, List.length_append,
    List.length_cons] at hlength
  omega

theorem le_of_trimChars_append_replicate {c : Char} (hc : isBlankChar c = false)
    {cs : List Char} {n m : Nat}
    (h : trimChars (cs ++ List.replicate m c) = trimChars (cs ++ List.replicate n c)) : m ≤ n := by
  by_contra hlt
  obtain ⟨k, rfl⟩ : ∃ k, m = n + (k + 1) := ⟨m - n - 1, by omega⟩
  rw [List.replicate_add, List.replicate_succ', ← List.append_assoc] at h
  exact trimChars_append_ne hc _ _ h

theorem exists_eq_trimEndOf_append (c : Char) (text : String) :
    ∃ n, text.toList = (trimEndOf c text).toList ++ List.replicate n c := by
  refine ⟨(text.toList.rtakeWhile (· == c)).length, ?_⟩
  have hall : ∀ d ∈ text.toList.rtakeWhile (· == c), d = c := by
    intro d hd
    simpa using List.mem_rtakeWhile_imp hd
  have hwhole : dropEndWhile (· == c) text.toList ++ text.toList.rtakeWhile (· == c) =
      text.toList := List.rdropWhile_append_rtakeWhile
  rw [toList_trimEndOf, ← List.eq_replicate_of_mem hall, hwhole]

/-- What is left is the one text that does not end with the character and is the whole up to the
characters at the end. -/
theorem trimEndOf_eq_iff {c : Char} {text kept : String} :
    trimEndOf c text = kept ↔
      (∃ taken, text = kept ++ taken ∧ ∀ d ∈ taken.toList, d = c) ∧ ¬ [c] <:+ kept.toList := by
  constructor
  · rintro rfl
    obtain ⟨n, hn⟩ := exists_eq_trimEndOf_append c text
    refine ⟨⟨String.ofList (List.replicate n c), ?_, ?_⟩, not_suffix_trimEndOf c text⟩
    · rw [← String.toList_inj, String.toList_append, String.toList_ofList, ← hn]
    · rw [String.toList_ofList]
      exact fun d hd => List.eq_of_mem_replicate hd
  · rintro ⟨⟨taken, rfl, htaken⟩, hend⟩
    rw [trimEndOf_append htaken, ← String.toList_inj, toList_trimEndOf, dropEndWhile_eq_self_iff]
    intro d hd
    rw [beq_eq_false_iff_ne]
    rintro rfl
    obtain ⟨before, hbefore⟩ := List.getLast?_eq_some_iff.1 hd
    exact hend ⟨before, hbefore.symm⟩

/-- Texts that are the same between their blanks, and the same when a character is taken off their
ends, are the same, if the character is not blank. -/
theorem eq_of_trimEndOf_eq {c : Char} (hc : isBlankChar c = false) {a b : String}
    (htrim : trim a = trim b) (h : trimEndOf c a = trimEndOf c b) : a = b := by
  obtain ⟨n, ha⟩ := exists_eq_trimEndOf_append c a
  obtain ⟨m, hb⟩ := exists_eq_trimEndOf_append c b
  rw [← String.toList_inj, toList_trim, toList_trim, ha, hb, h] at htrim
  have hnm : n = m := Nat.le_antisymm (le_of_trimChars_append_replicate hc htrim)
    (le_of_trimChars_append_replicate hc htrim.symm)
  rw [← String.toList_inj, ha, hb, h, hnm]

end DocPortal.Text
