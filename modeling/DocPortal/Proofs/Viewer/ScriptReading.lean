/-
How a page reads the literals of its script.

A literal breaks up `</`, so no end tag is read in it, but it keeps `<!--`,
`-->` and `<script`, and these change how the rest of the script is read.
What a literal does to the reading is told by its text alone
(`splitFrom_literalBody`): it is followed by three modes, and the text
leaves the element open for good when a comment in it is not closed and
holds a start tag (`after_eq_doubleEscaped_iff`).
-/
import DocPortal.Proofs.Text.LetterCase
import DocPortal.Proofs.Viewer.Literal
import DocPortal.Viewer.ScriptData
import Mathlib.Data.List.Infix

namespace DocPortal.Text

/-- A text without letters is found in any letter case. -/
theorem prefix_map_toLower_iff {p cs : List Char} (h : p.any Char.isAlpha = false) :
    p <+: cs.map Char.toLower ↔ p <+: cs := by
  induction p generalizing cs with
  | nil => simp
  | cons d p ih =>
    rw [List.any_cons, Bool.or_eq_false_iff] at h
    obtain ⟨hd, hp⟩ := h
    cases cs with
    | nil => simp
    | cons c cs =>
      rw [List.map_cons, List.cons_prefix_cons, List.cons_prefix_cons, ih hp, eq_comm,
        toLower_eq_iff hd, eq_comm]

end DocPortal.Text

namespace DocPortal.Viewer.ScriptData

/-! ## Reading a text -/

/-- The text starts with a start tag that its literal keeps. There the only blank behind a name
is a space, since every other one is escaped. -/
def KeepsStart (cs : List Char) : Prop :=
  "<script ".toList <+: cs.map Char.toLower ∨ "<script/".toList <+: cs.map Char.toLower ∨
    "<script>".toList <+: cs.map Char.toLower

instance (cs : List Char) : Decidable (KeepsStart cs) := inferInstanceAs (Decidable (_ ∨ _ ∨ _))

theorem keepsStart_iff {cs : List Char} :
    KeepsStart cs ↔ ∃ d ∈ [' ', '/', '>'], "<script".toList ++ [d] <+: cs.map Char.toLower := by
  simp [KeepsStart]

/-- How a script is read behind the first character of a text in a literal of it. -/
def Mode.behind (mode : Mode) (cs : List Char) : Mode :=
  match mode with
  | normal => if "<!--".toList <+: cs then escaped else normal
  | escaped =>
    if "-->".toList <+: cs then normal
    else if KeepsStart cs then doubleEscaped
    else escaped
  | doubleEscaped => if "-->".toList <+: cs then normal else doubleEscaped

/-- How a script is read behind the whole text. -/
def Mode.after (mode : Mode) : List Char → Mode
  | [] => mode
  | c :: rest => (mode.behind (c :: rest)).after rest

theorem Mode.after_nil (mode : Mode) : mode.after [] = mode := rfl

theorem Mode.after_cons (mode : Mode) (c : Char) (rest : List Char) :
    mode.after (c :: rest) = (mode.behind (c :: rest)).after rest := rfl

/-- A comment in the text is not closed, and there is a start tag behind its opening. -/
def HidesEndTag (cs : List Char) : Prop :=
  ∃ t, t <:+ cs ∧ "<!--".toList <+: t ∧ ¬ "-->".toList <:+: t ∧ ∃ u, u <:+ t ∧ KeepsStart u

/-- The same of a text that is read in some mode from its start on. -/
def Mode.Hides : Mode → List Char → Prop
  | normal, cs => HidesEndTag cs
  | escaped, cs => HidesEndTag cs ∨ ¬ "-->".toList <:+: cs ∧ ∃ u, u <:+ cs ∧ KeepsStart u
  | doubleEscaped, cs => HidesEndTag cs ∨ ¬ "-->".toList <:+: cs

theorem hidesEndTag_cons {c : Char} {rest : List Char} :
    HidesEndTag (c :: rest) ↔
      ("<!--".toList <+: c :: rest ∧ ¬ "-->".toList <:+: c :: rest ∧
        ∃ u, u <:+ c :: rest ∧ KeepsStart u) ∨ HidesEndTag rest := by
  constructor
  · rintro ⟨t, ht, hopen⟩
    rcases List.suffix_cons_iff.1 ht with rfl | ht
    · exact .inl hopen
    · exact .inr ⟨t, ht, hopen⟩
  · rintro (hopen | ⟨t, ht, hopen⟩)
    · exact ⟨c :: rest, List.suffix_refl _, hopen⟩
    · exact ⟨t, List.suffix_cons_iff.2 (.inr ht), hopen⟩

theorem exists_keepsStart_cons {c : Char} {rest : List Char} :
    (∃ u, u <:+ c :: rest ∧ KeepsStart u) ↔
      KeepsStart (c :: rest) ∨ ∃ u, u <:+ rest ∧ KeepsStart u := by
  constructor
  · rintro ⟨u, hu, hstart⟩
    rcases List.suffix_cons_iff.1 hu with rfl | hu
    · exact .inl hstart
    · exact .inr ⟨u, hu, hstart⟩
  · rintro (hstart | ⟨u, hu, hstart⟩)
    · exact ⟨c :: rest, List.suffix_refl _, hstart⟩
    · exact ⟨u, List.suffix_cons_iff.2 (.inr hu), hstart⟩

theorem not_keepsStart_of_opening {cs : List Char} (h : "<!--".toList <+: cs) :
    ¬ KeepsStart cs := by
  obtain ⟨rest, rfl⟩ := h
  intro hstart
  obtain ⟨d, -, htag⟩ := keepsStart_iff.1 hstart
  simp [List.cons_prefix_cons] at htag

theorem not_closing_of_opening {cs : List Char} (h : "<!--".toList <+: cs) :
    ¬ "-->".toList <+: cs := by
  obtain ⟨rest, rfl⟩ := h
  simp [List.cons_prefix_cons]

/-- What one character of a text does, said of the text. -/
theorem hides_behind (mode : Mode) (c : Char) (rest : List Char) :
    (mode.behind (c :: rest)).Hides rest ↔ mode.Hides (c :: rest) := by
  -- no two of the three marks start at one place
  cases mode with
  | normal =>
    by_cases hopening : "<!--".toList <+: c :: rest
    · have hmode : Mode.normal.behind (c :: rest) = .escaped := if_pos hopening
      have hclosing := not_closing_of_opening hopening
      have hstart := not_keepsStart_of_opening hopening
      rw [hmode]
      simp only [Mode.Hides, hidesEndTag_cons, List.infix_cons_iff, exists_keepsStart_cons,
        hopening, hclosing, hstart, true_and, false_or]
      exact or_comm
    · have hmode : Mode.normal.behind (c :: rest) = .normal := if_neg hopening
      rw [hmode]
      simp only [Mode.Hides, hidesEndTag_cons, hopening, false_and, false_or]
  | escaped =>
    by_cases hclosing : "-->".toList <+: c :: rest
    · have hmode : Mode.escaped.behind (c :: rest) = .normal := if_pos hclosing
      have hopening : ¬ "<!--".toList <+: c :: rest := fun h => not_closing_of_opening h hclosing
      rw [hmode]
      simp only [Mode.Hides, hidesEndTag_cons, List.infix_cons_iff, hclosing, hopening, true_or,
        not_true, false_and, false_or, or_false]
    · by_cases hstart : KeepsStart (c :: rest)
      · have hmode : Mode.escaped.behind (c :: rest) = .doubleEscaped := by
          rw [Mode.behind, if_neg hclosing, if_pos hstart]
        have hopening : ¬ "<!--".toList <+: c :: rest :=
          fun h => not_keepsStart_of_opening h hstart
        rw [hmode]
        simp only [Mode.Hides, hidesEndTag_cons, List.infix_cons_iff, exists_keepsStart_cons,
          hclosing, hopening, hstart, true_or, false_and, false_or, and_true]
      · have hmode : Mode.escaped.behind (c :: rest) = .escaped := by
          rw [Mode.behind, if_neg hclosing, if_neg hstart]
        rw [hmode]
        simp only [Mode.Hides, hidesEndTag_cons, List.infix_cons_iff, exists_keepsStart_cons,
          hclosing, hstart, false_or]
        tauto
  | doubleEscaped =>
    by_cases hclosing : "-->".toList <+: c :: rest
    · have hmode : Mode.doubleEscaped.behind (c :: rest) = .normal := if_pos hclosing
      have hopening : ¬ "<!--".toList <+: c :: rest := fun h => not_closing_of_opening h hclosing
      rw [hmode]
      simp only [Mode.Hides, hidesEndTag_cons, List.infix_cons_iff, hclosing, hopening, true_or,
        not_true, false_and, false_or, or_false]
    · have hmode : Mode.doubleEscaped.behind (c :: rest) = .doubleEscaped := if_neg hclosing
      rw [hmode]
      simp only [Mode.Hides, hidesEndTag_cons, List.infix_cons_iff, hclosing, false_or]
      tauto

/-- A text leaves no way to end the element exactly when it hides the end tags behind it. -/
theorem after_eq_doubleEscaped_iff (mode : Mode) (cs : List Char) :
    mode.after cs = .doubleEscaped ↔ mode.Hides cs := by
  induction cs generalizing mode with
  | nil =>
    have hnone : ¬ HidesEndTag [] := by
      rintro ⟨t, ht, hopening, -⟩
      rw [List.suffix_nil.1 ht] at hopening
      simp at hopening
    have hstart : ¬ KeepsStart [] := by simp [KeepsStart]
    cases mode <;> simp [Mode.after, Mode.Hides, hnone, hstart]
  | cons c rest ih => rw [Mode.after_cons, ih, hides_behind]

/-- A text hides the end tags behind it if a script that is read normally comes out of it in
double-escaped mode. -/
theorem hidesEndTag_iff {cs : List Char} : HidesEndTag cs ↔ Mode.normal.after cs = .doubleEscaped :=
  (after_eq_doubleEscaped_iff .normal cs).symm

instance (cs : List Char) : Decidable (HidesEndTag cs) := decidable_of_iff' _ hidesEndTag_iff

/-! ## Texts in a row -/

theorem behind_of_ne {c : Char} (hopen : c ≠ '<') (hdash : c ≠ '-') (mode : Mode)
    (rest : List Char) : mode.behind (c :: rest) = mode := by
  have hstart : ¬ KeepsStart (c :: rest) := by
    intro hstart
    obtain ⟨d, -, htag⟩ := keepsStart_iff.1 hstart
    have hfirst : ['<'] <+: "<script".toList ++ [d] := List.prefix_append _ _
    have hsame := (Text.prefix_map_toLower_iff (by decide)).1 (hfirst.trans htag)
    exact hopen (List.cons_prefix_cons.1 hsame).1.symm
  cases mode <;> simp [Mode.behind, List.cons_prefix_cons, hstart, Ne.symm hopen, Ne.symm hdash]

theorem after_of_not_mem {cs : List Char} (h : '<' ∉ cs) : Mode.normal.after cs = .normal := by
  induction cs with
  | nil => rfl
  | cons c cs ih =>
    simp only [List.mem_cons, not_or] at h
    have hopening : ¬ "<!--".toList <+: c :: cs := by
      intro hbegins
      exact h.1 (List.cons_prefix_cons.1 hbegins).1
    rw [Mode.after_cons, Mode.behind, if_neg hopening, ih h.2]

theorem keepsStart_append_quote_iff (cs rest : List Char) :
    KeepsStart (cs ++ '"' :: rest) ↔ KeepsStart cs := by
  have hquote : '"'.toLower = '"' := by decide
  have htag {tag : List Char} (hnot : '"' ∉ tag) :
      tag <+: (cs ++ '"' :: rest).map Char.toLower ↔ tag <+: cs.map Char.toLower := by
    rw [List.map_append, List.map_cons, hquote]
    exact Text.prefix_append_cons_iff hnot
  rw [KeepsStart, KeepsStart, htag (by decide), htag (by decide), htag (by decide)]

theorem behind_append_quote (mode : Mode) (cs rest : List Char) :
    mode.behind (cs ++ '"' :: rest) = mode.behind cs := by
  have hopening : "<!--".toList <+: cs ++ '"' :: rest ↔ "<!--".toList <+: cs :=
    Text.prefix_append_cons_iff (by decide)
  have hclosing : "-->".toList <+: cs ++ '"' :: rest ↔ "-->".toList <+: cs :=
    Text.prefix_append_cons_iff (by decide)
  cases mode <;>
    simp only [Mode.behind, hopening, hclosing, keepsStart_append_quote_iff]

/-- No mark goes over a quote. -/
theorem after_append_quote (mode : Mode) (cs rest : List Char) :
    mode.after (cs ++ '"' :: rest) = (mode.after cs).after rest := by
  induction cs generalizing mode with
  | nil =>
    have hquote : mode.behind ('"' :: rest) = mode := behind_of_ne (by decide) (by decide) mode rest
    rw [List.nil_append, Mode.after_cons, hquote, Mode.after_nil]
  | cons c cs ih =>
    rw [List.cons_append, Mode.after_cons, ← List.cons_append, behind_append_quote, ih,
      Mode.after_cons]

/-! ## Marks in a literal -/

/-- A mark that is written in a literal as it is. -/
structure IsMark (mark : List Char) : Prop where
  plain : ∀ c ∈ mark, 0x20 ≤ c.toNat ∧ c ≠ '"' ∧ c ≠ '\\'
  noEndTag : ¬ ['<', '/'] <:+: mark

theorem IsMark.tail {c : Char} {mark : List Char} (h : IsMark (c :: mark)) : IsMark mark where
  plain d hd := h.plain d (List.mem_cons_of_mem _ hd)
  noEndTag hpair := h.noEndTag (hpair.trans (List.suffix_cons c mark).isInfix)

theorem isAlpha_eq_false_of_escaped {c : Char} (h : c.toNat < 0x20 ∨ c = '"' ∨ c = '\\') :
    c.isAlpha = false := by
  rw [← Bool.not_eq_true, Text.isAlpha_iff]
  rcases h with h | rfl | rfl
  · omega
  · decide
  · decide

/-- A literal starts with a mark exactly when its text does, whether letter case counts or not. -/
theorem isMark_prefix_iff {f : Char → Char} (hf : ∀ c, c.isAlpha = false → f c = c)
    {mark : List Char} (hmark : IsMark mark) (cs rest : List Char) :
    mark <+: (breakEndTags (Json.escapeChars cs) ++ '"' :: rest).map f ↔ mark <+: cs.map f := by
  induction cs using breakEndTags.induct generalizing mark with
  | case1 cs ih =>
    have hopen : f '<' = '<' := hf _ (by decide)
    have hslash : f '/' = '/' := hf _ (by decide)
    have hbackslash : f '\\' = '\\' := hf _ (by decide)
    rw [breakEndTags_escapeChars_pair]
    simp only [List.cons_append, List.map_cons, hopen, hslash, hbackslash]
    cases mark with
    | nil => simp
    | cons a mark =>
      cases mark with
      | nil => simp [List.cons_prefix_cons]
      | cons b mark =>
        -- the literal has a backslash where the text has the slash, and the mark has neither
        have hb : b ≠ '\\' := (hmark.plain b (by simp)).2.2
        have hpair : ¬ (a = '<' ∧ b = '/') := by
          rintro ⟨rfl, rfl⟩
          exact hmark.noEndTag (List.prefix_append ['<', '/'] mark).isInfix
        simp only [List.cons_prefix_cons]
        constructor
        · rintro ⟨-, hb', -⟩
          exact absurd hb' hb
        · rintro ⟨ha, hb', -⟩
          exact absurd ⟨ha, hb'⟩ hpair
  | case2 c cs hpair ih =>
    rw [breakEndTags_escapeChars_cons hpair]
    cases mark with
    | nil => simp
    | cons a mark =>
      obtain ⟨hcontrol, hquote, hbackslash⟩ := hmark.plain a List.mem_cons_self
      rcases escapeChar_cases c with ⟨hc, -⟩ | ⟨hescaped, d, ds, hc, -⟩
      · rw [hc, List.singleton_append, List.cons_append, List.map_cons, List.map_cons,
          List.cons_prefix_cons, List.cons_prefix_cons, ih hmark.tail]
      · have hsame : f c = c := hf c (isAlpha_eq_false_of_escaped hescaped)
        have hfirst : f '\\' = '\\' := hf _ (by decide)
        rw [hc]
        simp only [List.cons_append, List.map_cons, List.cons_prefix_cons, hsame, hfirst]
        constructor
        · rintro ⟨ha, -⟩
          exact absurd ha hbackslash
        · rintro ⟨rfl, -⟩
          rcases hescaped with h | h | h
          · omega
          · exact absurd h hquote
          · exact absurd h hbackslash
  | case3 =>
    have hquote : f '"' = '"' := hf _ (by decide)
    cases mark with
    | nil => simp
    | cons a mark =>
      have ha : a ≠ '"' := (hmark.plain a List.mem_cons_self).2.1
      simp [breakEndTags, hquote, ha]

/-- What ends a name is no letter. -/
theorem isAlpha_eq_false_of_endsName {d : Char} (h : endsName d = true) : d.isAlpha = false := by
  simp only [endsName, List.mem_cons, List.not_mem_nil, or_false, decide_eq_true_eq] at h
  rcases h with rfl | rfl | rfl | rfl | rfl | rfl | rfl <;> decide

/-- A tag is a name in any letter case and what ends it. -/
theorem startsTag_iff {tag cs : List Char} :
    startsTag tag cs = true ↔ ∃ d, endsName d = true ∧ tag ++ [d] <+: cs.map Char.toLower := by
  simp only [startsTag, Bool.and_eq_true, List.isPrefixOf_iff_prefix]
  constructor
  · rintro ⟨⟨rest, hrest⟩, hend⟩
    have hdrop : (cs.drop tag.length).map Char.toLower = rest := by
      rw [List.map_drop, ← hrest, List.drop_left]
    cases hbehind : cs.drop tag.length with
    | nil => simp [hbehind] at hend
    | cons d behind =>
      have hd : endsName d = true := by simpa [hbehind] using hend
      have hlow : d.toLower = d := (Text.toLower_eq_iff (isAlpha_eq_false_of_endsName hd)).2 rfl
      refine ⟨d, hd, behind.map Char.toLower, ?_⟩
      rw [← hrest, ← hdrop, hbehind, List.map_cons, hlow, List.append_assoc, List.singleton_append]
  · rintro ⟨d, hd, rest, hrest⟩
    refine ⟨⟨d :: rest, by rw [← hrest]; simp⟩, ?_⟩
    have hdrop : (cs.drop tag.length).map Char.toLower = d :: rest := by
      rw [List.map_drop, ← hrest, List.append_assoc, List.drop_left, List.singleton_append]
    obtain ⟨e, behind, hbehind, he, -⟩ := List.map_eq_cons_iff.1 hdrop
    rw [hbehind, (Text.toLower_eq_iff (isAlpha_eq_false_of_endsName hd)).1 he]
    simpa using hd

/-- No end tag is read in a literal. -/
theorem closes_literalBody (cs rest : List Char) :
    closes (breakEndTags (Json.escapeChars cs) ++ '"' :: rest) = false := by
  rw [← Bool.not_eq_true, closes, startsTag_iff]
  rintro ⟨d, -, htag⟩
  have hslash : ['<', '/'] <+: "</script".toList ++ [d] := List.prefix_append _ _
  have hpair := (Text.prefix_map_toLower_iff (by decide)).1 (hslash.trans htag)
  have hbody := (Text.prefix_append_cons_iff (by decide)).1 hpair
  exact not_endTag_infix_breakEndTags_escapeChars cs hbody.isInfix

theorem isMark_startTag {d : Char} (h : d ∈ [' ', '/', '>']) :
    IsMark ("<script".toList ++ [d]) := by
  simp only [List.mem_cons, List.not_mem_nil, or_false] at h
  rcases h with rfl | rfl | rfl <;> exact ⟨by simp, by decide⟩

/-- A start tag is read in a literal where its text keeps one. -/
theorem opens_literalBody (cs rest : List Char) :
    opens (breakEndTags (Json.escapeChars cs) ++ '"' :: rest) = true ↔ KeepsStart cs := by
  have hlow : ∀ c : Char, c.isAlpha = false → c.toLower = c := fun c hc =>
    (Text.toLower_eq_iff hc).2 rfl
  rw [opens, startsTag_iff, keepsStart_iff]
  constructor
  · rintro ⟨d, hd, htag⟩
    have hletter := isAlpha_eq_false_of_endsName hd
    have hkept : d ∈ [' ', '/', '>'] := by
      -- the end of the name is in the literal, so it is no control character
      have hquote : '"' ∉ "<script".toList ++ [d] := by
        rw [List.mem_append, List.mem_singleton, not_or]
        exact ⟨by decide, by rintro rfl; exact absurd hd (by decide)⟩
      rw [List.map_append, List.map_cons, hlow '"' (by decide),
        Text.prefix_append_cons_iff hquote] at htag
      obtain ⟨c, hc, hcd⟩ := List.mem_map.1 (htag.subset (List.mem_append_right _ List.mem_cons_self))
      rw [Text.toLower_eq_iff hletter] at hcd
      have hplain := not_control_of_mem_breakEndTags_escapeChars c hc
      rw [hcd] at hplain
      simp only [endsName, List.mem_cons, List.not_mem_nil, or_false, decide_eq_true_eq] at hd ⊢
      rcases hd with rfl | rfl | rfl | rfl | hd
      · exact absurd hplain (by decide)
      · exact absurd hplain (by decide)
      · exact absurd hplain (by decide)
      · exact absurd hplain (by decide)
      · exact hd
    exact ⟨d, hkept, (isMark_prefix_iff hlow (isMark_startTag hkept) cs rest).1 htag⟩
  · rintro ⟨d, hkept, htag⟩
    refine ⟨d, ?_, (isMark_prefix_iff hlow (isMark_startTag hkept) cs rest).2 htag⟩
    simp only [List.mem_cons, List.not_mem_nil, or_false] at hkept
    rcases hkept with rfl | rfl | rfl <;> decide

/-- A mark without letters is read in a literal where its text has it. -/
theorem isMark_prefix_literalBody_iff {mark : List Char} (h : IsMark mark) (cs rest : List Char) :
    mark <+: breakEndTags (Json.escapeChars cs) ++ '"' :: rest ↔ mark <+: cs := by
  have hbegins := isMark_prefix_iff (f := id) (fun _ _ => rfl) h cs rest
  rwa [List.map_id, List.map_id] at hbegins

/-- At the start of a literal the mode changes as its text says. -/
theorem next_literalBody (mode : Mode) (cs rest : List Char) :
    mode.next (breakEndTags (Json.escapeChars cs) ++ '"' :: rest) = mode.behind cs := by
  have hopening : IsMark "<!--".toList := ⟨by simp, by decide⟩
  have hclosing : IsMark "-->".toList := ⟨by simp, by decide⟩
  cases mode <;>
    simp only [Mode.next, Mode.behind, List.isPrefixOf_iff_prefix,
      isMark_prefix_literalBody_iff hopening, isMark_prefix_literalBody_iff hclosing,
      opens_literalBody, closes_literalBody, Bool.false_eq_true, if_false]

/-! ## Reading a script -/

/-- A split of what stands behind some characters, as one of the whole. -/
def ahead (cs : List Char) (parts : List Char × List Char) : List Char × List Char :=
  (cs ++ parts.1, parts.2)

theorem map_ahead_append (a b : List Char) (parts : Option (List Char × List Char)) :
    parts.map (ahead (a ++ b)) = (parts.map (ahead b)).map (ahead a) := by
  rw [Option.map_map]
  congr 1
  funext split
  simp [ahead]

theorem map_ahead_cons (c : Char) (cs : List Char) (parts : Option (List Char × List Char)) :
    parts.map (ahead (c :: cs)) = (parts.map (ahead cs)).map (ahead [c]) :=
  map_ahead_append [c] cs parts

theorem map_ahead_nil (parts : Option (List Char × List Char)) : parts.map (ahead []) = parts := by
  have hid : ahead [] = id := rfl
  rw [hid, Option.map_id_fun]
  rfl

theorem splitFrom_cons {mode : Mode} {c : Char} {rest : List Char}
    (h : closes (c :: rest) = false) :
    splitFrom mode (c :: rest) = (splitFrom (mode.next (c :: rest)) rest).map (ahead [c]) := by
  rw [splitFrom, if_neg (by simp [h])]
  rfl

/-- A tag starts with its own first character. -/
theorem startsTag_cons_of_ne {c : Char} (hc : c ≠ '<') (tag rest : List Char) :
    startsTag ('<' :: tag) (c :: rest) = false := by
  rw [← Bool.not_eq_true, startsTag_iff]
  rintro ⟨d, -, htag⟩
  rw [List.cons_append, List.map_cons, List.cons_prefix_cons] at htag
  exact hc ((Text.toLower_eq_iff (by decide)).1 htag.1.symm)

/-- No mark starts in such characters. -/
theorem splitFrom_append_of_not_mem {cs : List Char} (hopen : '<' ∉ cs) (hdash : '-' ∉ cs)
    (mode : Mode) (rest : List Char) :
    splitFrom mode (cs ++ rest) = (splitFrom mode rest).map (ahead cs) := by
  induction cs with
  | nil => rw [List.nil_append, map_ahead_nil]
  | cons c cs ih =>
    simp only [List.mem_cons, not_or] at hopen hdash
    have hc : c ≠ '<' := Ne.symm hopen.1
    have hd : c ≠ '-' := Ne.symm hdash.1
    have hcloses : closes (c :: (cs ++ rest)) = false := startsTag_cons_of_ne hc _ _
    have hopens : opens (c :: (cs ++ rest)) = false := startsTag_cons_of_ne hc _ _
    have hnext : mode.next (c :: (cs ++ rest)) = mode := by
      cases mode <;> simp [Mode.next, hcloses, hopens, Ne.symm hc, Ne.symm hd]
    rw [List.cons_append, splitFrom_cons hcloses, hnext, ih hopen.2 hdash.2]
    exact (map_ahead_cons c cs _).symm

/-- No mark starts at an end tag. -/
theorem behind_pair (mode : Mode) (rest : List Char) : mode.behind ('<' :: '/' :: rest) = mode := by
  have hstart : ¬ KeepsStart ('<' :: '/' :: rest) := by
    intro hstart
    obtain ⟨d, -, htag⟩ := keepsStart_iff.1 hstart
    simp [List.cons_prefix_cons] at htag
  cases mode <;> simp [Mode.behind, List.cons_prefix_cons, hstart]

/-- **A literal is read as its text**: the element does not end in it, and behind it the script is
read in the mode in which the text leaves off. -/
theorem splitFrom_literalBody (mode : Mode) (cs rest : List Char) :
    splitFrom mode (breakEndTags (Json.escapeChars cs) ++ '"' :: rest) =
      (splitFrom (mode.after cs) ('"' :: rest)).map
        (ahead (breakEndTags (Json.escapeChars cs))) := by
  induction cs using breakEndTags.induct generalizing mode with
  | case1 cs ih =>
    have hslash : mode.behind ('/' :: cs) = mode := behind_of_ne (by decide) (by decide) _ _
    have hnext := next_literalBody mode ('<' :: '/' :: cs) rest
    have hcloses := closes_literalBody ('<' :: '/' :: cs) rest
    rw [behind_pair] at hnext
    rw [Mode.after_cons, behind_pair, Mode.after_cons, hslash]
    rw [breakEndTags_escapeChars_pair] at hnext hcloses ⊢
    rw [List.cons_append] at hnext hcloses ⊢
    have hpair : '\\' :: '/' :: breakEndTags (Json.escapeChars cs) ++ '"' :: rest =
        ['\\', '/'] ++ (breakEndTags (Json.escapeChars cs) ++ '"' :: rest) := rfl
    rw [splitFrom_cons hcloses, hnext, hpair,
      splitFrom_append_of_not_mem (by decide) (by decide), ih, ← map_ahead_append,
      ← map_ahead_append]
    rfl
  | case2 c cs hpair ih =>
    have hnext := next_literalBody mode (c :: cs) rest
    have hcloses := closes_literalBody (c :: cs) rest
    rw [Mode.after_cons]
    rw [breakEndTags_escapeChars_cons hpair] at hnext hcloses ⊢
    rcases escapeChar_cases c with ⟨hc, -⟩ | ⟨hescaped, d, ds, hc, hds, -⟩
    · rw [hc, List.singleton_append, List.cons_append] at hnext hcloses
      rw [hc, List.singleton_append, List.cons_append, splitFrom_cons hcloses, hnext, ih]
      exact (map_ahead_cons c _ _).symm
    · have hopen : c ≠ '<' := by rintro rfl; revert hescaped; decide
      have hdash : c ≠ '-' := by rintro rfl; revert hescaped; decide
      have hopens : '<' ∉ '\\' :: d :: ds := by
        rw [List.mem_cons, not_or]
        exact ⟨by decide, fun hmem => (hds _ hmem).2.1 rfl⟩
      have hdashes : '-' ∉ '\\' :: d :: ds := by
        rw [List.mem_cons, not_or]
        exact ⟨by decide, fun hmem => (hds _ hmem).2.2.2 rfl⟩
      rw [hc, behind_of_ne hopen hdash, List.append_assoc,
        splitFrom_append_of_not_mem hopens hdashes, ih, map_ahead_append]
  | case3 =>
    have hnil : breakEndTags (Json.escapeChars []) = [] := rfl
    rw [hnil, List.nil_append, Mode.after_nil, map_ahead_nil]

end DocPortal.Viewer.ScriptData
