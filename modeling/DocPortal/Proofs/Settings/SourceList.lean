/-
Source lists, read and written. What reading makes of a list are sources
that can be listed (`isListed_of_parseList`): their texts are trimmed and
hold no comma, and their names no `=`. Of such sources every list that is
written is read back (`parseList_writeList`).
-/
import DocPortal.Proofs.Text.Separated
import DocPortal.Proofs.Viewer.Options
import DocPortal.Settings.Written

namespace DocPortal.Settings

open Text Viewer

/-! ## Lists -/

theorem entries_writeList {items : List String} (h : ∀ item ∈ items, IsEntry item) :
    entries (writeList items) = items := by
  unfold writeList
  split
  · next hnil =>
    subst hnil
    decide
  · exact entries_intercalate h

theorem not_isBlank_of_entries_ne_nil {text : String} (h : entries text ≠ []) :
    isBlank text = false := by
  rw [← Bool.not_eq_true]
  intro hblank
  exact h (entries_eq_nil_of_isBlank hblank)

/-- A written list is never taken for a variable that says nothing. -/
theorem not_isBlank_writeList {items : List String} (h : ∀ item ∈ items, IsEntry item) :
    isBlank (writeList items) = false := by
  by_cases hnil : items = []
  · subst hnil
    decide
  · apply not_isBlank_of_entries_ne_nil
    rw [entries_writeList h]
    exact hnil

/-! ## Sources -/

/-- A source that an entry of a list can write. -/
structure IsListed (source : Source) : Prop where
  name_trimmed : IsTrimmed source.name
  url_trimmed : IsTrimmed source.url
  name_comma : ',' ∉ source.name.toList
  url_comma : ',' ∉ source.url.toList
  name_equals : '=' ∉ source.name.toList

theorem toList_writeSource (source : Source) :
    (writeSource source).toList = source.name.toList ++ '=' :: source.url.toList := by
  simp [writeSource]

theorem isListed_of_ofEntry {entry : String} {source : Source} (hcomma : ',' ∉ entry.toList)
    (h : Source.ofEntry entry = .ok source) : IsListed source := by
  unfold Source.ofEntry at h
  split at h
  next name url hcut =>
    obtain ⟨hequals, hentry⟩ := cut_eq_some_iff.1 hcut
    rw [hentry] at hcomma
    cases h
    refine ⟨isTrimmed_trim _, isTrimmed_trim _, fun hc => hcomma ?_, fun hc => hcomma ?_,
      fun hc => ?_⟩
    · exact List.mem_append_left _ (mem_of_mem_trim hc)
    · exact List.mem_append_right _ (List.mem_cons_of_mem _ (mem_of_mem_trim hc))
    · exact hequals (mem_of_mem_trim hc)
  next => cases h

theorem ofEntry_writeSource {source : Source} (h : IsListed source) :
    Source.ofEntry (writeSource source) = .ok source := by
  have hcut : cut '=' (writeSource source) = some (source.name, source.url) :=
    cut_eq_some_iff.2 ⟨h.name_equals, toList_writeSource source⟩
  rw [Source.ofEntry, hcut]
  dsimp only
  rw [h.name_trimmed.trim_eq, h.url_trimmed.trim_eq]

theorem isEntry_writeSource {source : Source} (h : IsListed source) :
    IsEntry (writeSource source) where
  comma := by
    rw [toList_writeSource]
    simp [h.name_comma, h.url_comma]
  trimmed := .around (by decide) h.name_trimmed h.url_trimmed (toList_writeSource source)
  ne_empty := by
    rw [Ne, ← String.toList_eq_nil_iff, toList_writeSource]
    simp

theorem isListed_of_parseList {text : String} {sources : List Source}
    (h : Source.parseList text = .ok sources) : ∀ source ∈ sources, IsListed source := by
  intro source hsource
  obtain ⟨entry, hentry, hread⟩ := exists_of_mem_of_mapM h source hsource
  exact isListed_of_ofEntry (isEntry_of_mem_entries hentry).comma hread

theorem isEntry_of_mem_writeSource {sources : List Source}
    (h : ∀ source ∈ sources, IsListed source) :
    ∀ item ∈ sources.map writeSource, IsEntry item := by
  intro item hitem
  obtain ⟨source, hsource, rfl⟩ := List.mem_map.1 hitem
  exact isEntry_writeSource (h source hsource)

/-- A list of sources is read as it was written. -/
theorem parseList_writeList {sources : List Source} (h : ∀ source ∈ sources, IsListed source) :
    Source.parseList (writeList (sources.map writeSource)) = .ok sources := by
  rw [Source.parseList, entries_writeList (isEntry_of_mem_writeSource h)]
  exact mapM_map_eq_ok fun source hsource => ofEntry_writeSource (h source hsource)

end DocPortal.Settings
