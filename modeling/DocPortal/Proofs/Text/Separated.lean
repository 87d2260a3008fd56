/-
The entries of a comma-separated text. It has none exactly when it holds
nothing but commas and blanks: a blank text is one of those, a comma alone
another. Blanks around the text make no difference, and entries that are
joined by commas are the entries again. What a text of pieces between
commas writes, whatever its items are, is what is read from its entries
(`writesEntries_iff`).
-/
import Mathlib.Data.List.Forall2
import DocPortal.Proofs.Text.Blank
import DocPortal.Text.Separated

namespace DocPortal.Text

/-- The pieces hold every character but the separators. -/
theorem exists_mem_splitOn_iff {sep c : Char} {cs : List Char} :
    (∃ piece ∈ cs.splitOn sep, c ∈ piece) ↔ c ≠ sep ∧ c ∈ cs := by
  induction cs with
  | nil => simp
  | cons d cs ih =>
    obtain ⟨piece, pieces, hsplit⟩ := List.exists_cons_of_ne_nil (List.splitOn_ne_nil sep cs)
    rw [List.splitOn_cons_eq_if_modifyHead]
    by_cases hd : d = sep
    · subst hd
      simp only [BEq.rfl, if_true, List.mem_cons, exists_eq_or_imp, List.not_mem_nil, false_or, ih]
      constructor
      · rintro ⟨hc, hmem⟩
        exact ⟨hc, .inr hmem⟩
      · rintro ⟨hc, heq | hmem⟩
        · exact absurd heq hc
        · exact ⟨hc, hmem⟩
    · rw [hsplit] at ih ⊢
      simp only [beq_iff_eq, hd, if_false, List.modifyHead_cons, List.mem_cons, exists_eq_or_imp,
        or_assoc] at ih ⊢
      rw [ih]
      constructor
      · rintro (rfl | ⟨hc, hmem⟩)
        · exact ⟨hd, .inl rfl⟩
        · exact ⟨hc, .inr hmem⟩
      · rintro ⟨hc, rfl | hmem⟩
        · exact .inl rfl
        · exact .inr ⟨hc, hmem⟩

/-- A text of nothing but commas and blanks. -/
def ListsNothing (text : String) : Prop :=
  ∀ c ∈ text.toList, c = ',' ∨ isBlankChar c = true

theorem entries_eq_nil_iff {text : String} : entries text = [] ↔ ListsNothing text := by
  have hblank : entries text = [] ↔
      ∀ piece ∈ text.toList.splitOn ',', ∀ c ∈ piece, isBlankChar c = true := by
    simp only [entries, List.filter_eq_nil_iff, List.mem_map, decide_not, Bool.not_eq_true',
      decide_eq_false_iff_not, not_not, forall_exists_index, and_imp, forall_apply_eq_imp_iff₂,
      pieces, trim_eq_empty_iff, isBlank, List.all_eq_true, String.toList_ofList]
  rw [hblank]
  constructor
  · intro h c hc
    by_cases hcomma : c = ','
    · exact .inl hcomma
    · obtain ⟨piece, hpiece, hmem⟩ := exists_mem_splitOn_iff.2 ⟨hcomma, hc⟩
      exact .inr (h piece hpiece c hmem)
  · intro h piece hpiece c hmem
    obtain ⟨hcomma, hc⟩ := exists_mem_splitOn_iff.1 ⟨piece, hpiece, hmem⟩
    exact (h c hc).resolve_left hcomma

theorem entries_eq_nil_of_isBlank {text : String} (h : isBlank text = true) : entries text = [] :=
  entries_eq_nil_iff.2 fun c hc => .inr (List.all_eq_true.1 h c hc)

/-! ## Blanks around a list -/

theorem comma_not_mem_of_blank {cs : List Char} (h : ∀ c ∈ cs, isBlankChar c = true) :
    ',' ∉ cs := by
  intro hmem
  have hcomma := h ',' hmem
  revert hcomma
  decide

theorem map_trimChars_splitOn_append_left {before : List Char}
    (h : ∀ c ∈ before, isBlankChar c = true) (cs : List Char) :
    ((before ++ cs).splitOn ',').map trimChars = (cs.splitOn ',').map trimChars := by
  have hbefore : ',' ∉ before := comma_not_mem_of_blank h
  by_cases hmem : ',' ∈ cs
  · obtain ⟨first, rest, rfl, hfirst⟩ := List.eq_append_cons_of_mem hmem
    have hboth : ',' ∉ before ++ first := by simp [hbefore, hfirst]
    rw [← List.append_assoc, List.splitOn_append_cons_self, List.splitOn_append_cons_self,
      List.splitOn_eq_singleton hboth, List.splitOn_eq_singleton hfirst, List.map_append,
      List.map_append, List.map_singleton, List.map_singleton, trimChars_append_left h]
  · have hboth : ',' ∉ before ++ cs := by simp [hbefore, hmem]
    rw [List.splitOn_eq_singleton hboth, List.splitOn_eq_singleton hmem, List.map_singleton,
      List.map_singleton, trimChars_append_left h]

theorem map_trimChars_splitOn_append_right {after : List Char}
    (h : ∀ c ∈ after, isBlankChar c = true) (cs : List Char) :
    ((cs ++ after).splitOn ',').map trimChars = (cs.splitOn ',').map trimChars := by
  have hafter : ',' ∉ after := comma_not_mem_of_blank h
  by_cases hmem : ',' ∈ cs
  · -- the last comma is the first from the end
    obtain ⟨last, rest, hreverse, hlast⟩ :=
      List.eq_append_cons_of_mem (List.mem_reverse.2 hmem)
    obtain rfl : cs = rest.reverse ++ ',' :: last.reverse := by
      rw [← List.reverse_reverse cs, hreverse]
      simp
    have hpiece : ',' ∉ last.reverse := by simpa using hlast
    have hboth : ',' ∉ last.reverse ++ after := by simp [hlast, hafter]
    rw [List.append_assoc, List.cons_append, List.splitOn_append_cons_self,
      List.splitOn_append_cons_self, List.splitOn_eq_singleton hboth,
      List.splitOn_eq_singleton hpiece, List.map_append, List.map_append, List.map_singleton,
      List.map_singleton, trimChars_append_right h]
  · have hboth : ',' ∉ cs ++ after := by simp [hafter, hmem]
    rw [List.splitOn_eq_singleton hboth, List.splitOn_eq_singleton hmem, List.map_singleton,
      List.map_singleton, trimChars_append_right h]

theorem entries_eq_map (text : String) :
    entries text =
      (((text.toList.splitOn ',').map trimChars).filter (· ≠ [])).map String.ofList := by
  have htrim : trim ∘ String.ofList = String.ofList ∘ trimChars := by
    funext cs
    rw [Function.comp_apply, Function.comp_apply, trim, String.toList_ofList]
  rw [entries, pieces, List.map_map, htrim, ← List.map_map, List.filter_map]
  congr 1
  refine List.filter_congr fun cs _ => ?_
  simp [← String.toList_eq_nil_iff]

@[simp]
theorem entries_trim (text : String) : entries (trim text) = entries text := by
  obtain ⟨before, after, htext, hbefore, hafter⟩ := exists_eq_append_trimChars text.toList
  rw [entries_eq_map, entries_eq_map text, toList_trim, htext,
    map_trimChars_splitOn_append_left hbefore, map_trimChars_splitOn_append_right hafter, ← htext]

/-! ## Joined entries -/

/-- What can be an entry of a list: a trimmed text, not empty, without a comma. -/
structure IsEntry (text : String) : Prop where
  comma : ',' ∉ text.toList
  trimmed : IsTrimmed text
  ne_empty : text ≠ ""

theorem not_mem_of_mem_pieces {sep : Char} {text piece : String} (h : piece ∈ pieces sep text) :
    sep ∉ piece.toList := by
  obtain ⟨cs, hcs, rfl⟩ := List.mem_map.1 h
  rw [String.toList_ofList]
  exact fun hmem => (exists_mem_splitOn_iff.1 ⟨cs, hcs, hmem⟩).1 rfl

theorem isEntry_of_mem_entries {text item : String} (h : item ∈ entries text) : IsEntry item := by
  simp only [entries, List.mem_filter, List.mem_map, decide_eq_true_eq] at h
  obtain ⟨⟨piece, hpiece, rfl⟩, hne⟩ := h
  exact ⟨mt mem_of_mem_trim (not_mem_of_mem_pieces hpiece), isTrimmed_trim piece, hne⟩

theorem intercalate_pieces (text : String) : ",".intercalate (pieces ',' text) = text := by
  have hsep : ",".toList = [','] := rfl
  rw [← String.toList_inj, String.toList_intercalate, pieces, List.map_map, hsep]
  simp [Function.comp_def, List.intercalate_splitOn]

theorem pieces_intercalate_singleton {sep : Char} {items : List String}
    (hsep : ∀ item ∈ items, sep ∉ item.toList) (hne : items ≠ []) :
    pieces sep ((String.singleton sep).intercalate items) = items := by
  have hchars : ∀ cs ∈ items.map String.toList, sep ∉ cs := by
    intro cs hcs
    obtain ⟨item, hitem, rfl⟩ := List.mem_map.1 hcs
    exact hsep item hitem
  have hne' : items.map String.toList ≠ [] := by simpa using hne
  rw [pieces, String.toList_intercalate, String.toList_singleton,
    List.splitOn_intercalate sep hchars hne', List.map_map]
  simp [Function.comp_def]

theorem pieces_intercalate {items : List String} (hcomma : ∀ item ∈ items, ',' ∉ item.toList)
    (hne : items ≠ []) : pieces ',' (",".intercalate items) = items :=
  pieces_intercalate_singleton hcomma hne

theorem entries_intercalate {items : List String} (h : ∀ item ∈ items, IsEntry item) :
    entries (",".intercalate items) = items := by
  by_cases hne : items = []
  · subst hne
    decide
  have htrim : items.map trim = items := by
    rw [List.map_congr_left fun item hitem => (h item hitem).trimmed.trim_eq, List.map_id']
  rw [entries, pieces_intercalate (fun item hitem => (h item hitem).comma) hne, htrim,
    List.filter_eq_self]
  intro item hitem
  simpa using (h item hitem).ne_empty

theorem pieces_append (sep : Char) (before after : String) :
    pieces sep (before ++ String.singleton sep ++ after) =
      pieces sep before ++ pieces sep after := by
  simp [pieces, List.splitOn_append_cons_self]

/-- A comma joins two lists. -/
theorem entries_append (before after : String) :
    entries (before ++ "," ++ after) = entries before ++ entries after := by
  have hpieces : pieces ',' (before ++ "," ++ after) = pieces ',' before ++ pieces ',' after :=
    pieces_append ',' before after
  rw [entries, hpieces, List.map_append, List.filter_append, ← entries, ← entries]

/-! ## Written lists -/

/-- Pieces write items, in order: a blank piece none, and any other piece one. -/
inductive WritesEach {α : Type} (Writes : String → α → Prop) : List String → List α → Prop where
  | nil : WritesEach Writes [] []
  | blank {piece : String} {pieces : List String} {items : List α}
    (hblank : isBlank piece = true) (hrest : WritesEach Writes pieces items) :
    WritesEach Writes (piece :: pieces) items
  | item {piece : String} {a : α} {pieces : List String} {items : List α}
    (hitem : Writes piece a) (hrest : WritesEach Writes pieces items) :
    WritesEach Writes (piece :: pieces) (a :: items)

/-- A text writes items: its pieces between commas do. -/
def WritesEntries {α : Type} (Writes : String → α → Prop) (text : String) (items : List α) : Prop :=
  ∃ pieces, text = ",".intercalate pieces ∧ WritesEach Writes pieces items

section Written

variable {α : Type} {Writes Reads : String → α → Prop}

/-- What is so for each of the items can be said of the list. -/
theorem writesEach_and_iff {P : α → Prop} {pieces : List String} {items : List α} :
    WritesEach (fun piece a => P a ∧ Writes piece a) pieces items ↔
      (∀ a ∈ items, P a) ∧ WritesEach Writes pieces items := by
  constructor
  · intro h
    induction h with
    | nil => exact ⟨nofun, .nil⟩
    | blank hblank _ ih => exact ⟨ih.1, .blank hblank ih.2⟩
    | item hitem _ ih => exact ⟨List.forall_mem_cons.2 ⟨hitem.1, ih.1⟩, .item hitem.2 ih.2⟩
  · rintro ⟨hall, h⟩
    induction h with
    | nil => exact .nil
    | blank hblank _ ih => exact .blank hblank (ih hall)
    | item hitem _ ih =>
      obtain ⟨hfirst, hrest⟩ := List.forall_mem_cons.1 hall
      exact .item ⟨hfirst, hitem⟩ (ih hrest)

variable (hreads : ∀ {piece a}, ',' ∉ piece.toList →
  (Writes piece a ↔ trim piece ≠ "" ∧ Reads (trim piece) a))
include hreads

/-- Pieces write what is read from those that are not blank. -/
theorem writesEach_iff {pieces : List String} {items : List α}
    (hcomma : ∀ piece ∈ pieces, ',' ∉ piece.toList) :
    WritesEach Writes pieces items ↔
      List.Forall₂ Reads ((pieces.map trim).filter (· ≠ "")) items := by
  induction pieces generalizing items with
  | nil =>
    rw [List.map_nil, List.filter_nil, List.forall₂_nil_left_iff]
    constructor
    · rintro ⟨⟩
      rfl
    · rintro rfl
      exact .nil
  | cons piece pieces ih =>
    obtain ⟨hfirst, hrest⟩ := List.forall_mem_cons.1 hcomma
    by_cases hblank : trim piece = ""
    · rw [List.map_cons, List.filter_cons_of_neg (by simp [hblank]), ← ih hrest]
      constructor
      · intro h
        cases h with
        | blank _ h => exact h
        | item hitem _ => exact absurd hblank ((hreads hfirst).1 hitem).1
      · exact .blank (trim_eq_empty_iff.1 hblank)
    · rw [List.map_cons, List.filter_cons_of_pos (by simp [hblank]), List.forall₂_cons_left_iff]
      simp only [← ih hrest]
      constructor
      · intro h
        cases h with
        | blank hpiece _ => exact absurd (trim_eq_empty_iff.2 hpiece) hblank
        | item hitem h => exact ⟨_, _, ((hreads hfirst).1 hitem).2, h, rfl⟩
      · rintro ⟨a, rest, ha, h, rfl⟩
        exact .item ((hreads hfirst).2 ⟨hblank, ha⟩) h

/-- A text writes what is read from its entries. -/
theorem writesEntries_iff (hcomma : ∀ {piece a}, Writes piece a → ',' ∉ piece.toList)
    {text : String} {items : List α} :
    WritesEntries Writes text items ↔ List.Forall₂ Reads (entries text) items := by
  constructor
  · rintro ⟨pieces, rfl, h⟩
    have hpieces : ∀ piece ∈ pieces, ',' ∉ piece.toList := by
      clear hreads
      induction h with
      | nil => exact nofun
      | blank hblank _ ih =>
        exact List.forall_mem_cons.2 ⟨comma_not_mem_of_blank (List.all_eq_true.1 hblank), ih⟩
      | item hitem _ ih => exact List.forall_mem_cons.2 ⟨hcomma hitem, ih⟩
    rw [writesEach_iff hreads hpieces] at h
    by_cases hnil : pieces = []
    · subst hnil
      exact h
    · rwa [entries, pieces_intercalate hpieces hnil]
  · intro h
    have hpieces : ∀ piece ∈ pieces ',' text, ',' ∉ piece.toList :=
      fun _ hpiece => not_mem_of_mem_pieces hpiece
    exact ⟨pieces ',' text, (intercalate_pieces text).symm, (writesEach_iff hreads hpieces).2 h⟩

end Written

/-- A piece is an entry with blanks around it, or without. -/
def WritesEntry (piece item : String) : Prop :=
  IsEntry item ∧ IsPadded item piece

theorem writesEntries_entry_iff {text : String} {items : List String} :
    WritesEntries WritesEntry text items ↔ entries text = items := by
  rw [← List.forall₂_eq_eq_eq]
  refine writesEntries_iff (fun {piece item} hcomma => ?_) fun {piece item} h => ?_
  · rw [WritesEntry]
    constructor
    · rintro ⟨hentry, hpadded⟩
      have htrim : trim piece = item := trim_eq_iff.2 ⟨hentry.trimmed, hpadded⟩
      exact ⟨htrim ▸ hentry.ne_empty, htrim⟩
    · rintro ⟨hne, rfl⟩
      exact ⟨⟨mt mem_of_mem_trim hcomma, isTrimmed_trim piece, hne⟩, isPadded_trim piece⟩
  · exact h.2.not_mem (by decide) h.1.comma

/-! ## Cuts -/

/-- What stands before the first separator is told by the whole. -/
theorem eq_of_append_cons_eq {sep : Char} {a b rest other : List Char} (ha : sep ∉ a)
    (hb : sep ∉ b) (h : a ++ sep :: rest = b ++ sep :: other) : a = b := by
  have hcut : cutChars sep (a ++ sep :: rest) = some (a, rest) :=
    cutChars_eq_some_iff.2 ⟨ha, rfl⟩
  rw [cutChars_eq_some_iff.2 ⟨hb, h⟩, Option.some.injEq, Prod.mk.injEq] at hcut
  exact hcut.1.symm

theorem cut_eq_some_iff {sep : Char} {text before after : String} :
    cut sep text = some (before, after) ↔
      sep ∉ before.toList ∧ text.toList = before.toList ++ sep :: after.toList := by
  simp only [cut, Option.map_eq_some_iff, Prod.exists, Prod.mk.injEq]
  constructor
  · rintro ⟨a, b, hcut, rfl, rfl⟩
    rw [String.toList_ofList, String.toList_ofList]
    exact cutChars_eq_some_iff.1 hcut
  · intro h
    exact ⟨_, _, cutChars_eq_some_iff.2 h, String.ofList_toList, String.ofList_toList⟩

theorem cut_eq_none_iff {sep : Char} {text : String} : cut sep text = none ↔ sep ∉ text.toList := by
  rw [cut, Option.map_eq_none_iff, cutChars_eq_none_iff]

/-- A trimmed text is cut where the text is, apart from blanks around the two parts. -/
theorem exists_cut_trim {sep : Char} (hsep : isBlankChar sep = false) {text before after : String}
    (h : cut sep text = some (before, after)) :
    ∃ left right, cut sep (trim text) = some (left, right) ∧ trim left = trim before ∧
      trim right = trim after := by
  obtain ⟨hbefore, htext⟩ := cut_eq_some_iff.1 h
  refine ⟨String.ofList (before.toList.dropWhile isBlankChar),
    String.ofList (dropEndWhile isBlankChar after.toList), ?_, ?_, ?_⟩
  · rw [cut_eq_some_iff, String.toList_ofList, String.toList_ofList, toList_trim, htext,
      trimChars_append_cons hsep]
    exact ⟨fun hmem => hbefore ((List.dropWhile_suffix isBlankChar).subset hmem), rfl⟩
  · rw [trim, String.toList_ofList, trimChars_dropWhile, ← trim]
  · rw [trim, String.toList_ofList, trimChars_dropEndWhile, ← trim]

end DocPortal.Text
