/-
All the ways to write a source list. A text is read as sources exactly when
they can be listed and the text writes them (`WritesList`): with any blanks
around names and urls, any number of commas between two entries, and any
blank entries. Two lists with a comma between them are read one after the
other.
-/
import DocPortal.Proofs.Settings.SourceList
import DocPortal.Proofs.Settings.Written
import DocPortal.Proofs.Viewer.DocumentUrl

namespace DocPortal.Settings

open Text Viewer

/-! ## Single entries -/

/-- A text writes a source: its name, `=` and its url, with blanks around the two. -/
def WritesOne (piece : String) (source : Source) : Prop :=
  ∃ left right, IsPadded source.name left ∧ IsPadded source.url right ∧
    piece = left ++ "=" ++ right

theorem writesOne_of_ofEntry {piece : String} {source : Source}
    (h : Source.ofEntry (trim piece) = .ok source) : WritesOne piece source := by
  unfold Source.ofEntry at h
  split at h
  next name url hcut =>
    cases h
    have hinner : trim piece = name ++ "=" ++ url := by
      rw [← String.toList_inj, (cut_eq_some_iff.1 hcut).2]
      simp
    obtain ⟨before, after, hbefore, hafter, hpiece⟩ := isPadded_trim piece
    refine ⟨before ++ name, url ++ after, (isPadded_trim name).append_left hbefore,
      (isPadded_trim url).append_right hafter, ?_⟩
    rw [hpiece, hinner]
    simp only [String.append_assoc]
  next => cases h

theorem ofEntry_of_writesOne {piece : String} {source : Source} (hlisted : IsListed source)
    (h : WritesOne piece source) : Source.ofEntry (trim piece) = .ok source := by
  obtain ⟨left, right, hleft, hright, rfl⟩ := h
  have hequals : '=' ∉ left.toList := hleft.not_mem (by decide) hlisted.name_equals
  have hwhole : cut '=' (left ++ "=" ++ right) = some (left, right) :=
    cut_eq_some_iff.2 ⟨hequals, by simp⟩
  obtain ⟨name, url, hcut, hname, hurl⟩ := exists_cut_trim (by decide) hwhole
  rw [Source.ofEntry, hcut]
  dsimp only
  rw [hname, hurl, hleft.trim_eq, hright.trim_eq, hlisted.name_trimmed.trim_eq,
    hlisted.url_trimmed.trim_eq]

theorem trim_ne_empty_of_writesOne {piece : String} {source : Source}
    (h : WritesOne piece source) : trim piece ≠ "" := by
  obtain ⟨left, right, -, -, rfl⟩ := h
  rw [Ne, trim_eq_empty_iff, Bool.not_eq_true]
  exact not_isBlank_of_mem (c := '=') (by simp) (by decide)

theorem comma_not_mem_of_writesOne {piece : String} {source : Source} (hlisted : IsListed source)
    (h : WritesOne piece source) : ',' ∉ piece.toList := by
  obtain ⟨left, right, hleft, hright, rfl⟩ := h
  have hcomma := hleft.not_mem (by decide) hlisted.name_comma
  have hcomma' := hright.not_mem (by decide) hlisted.url_comma
  simp [hcomma, hcomma']

/-! ## Lists -/

/-- A text writes sources: its pieces between commas do, a blank piece none and any other piece
one. -/
def WritesList (text : String) (sources : List Source) : Prop :=
  WritesEntries WritesOne text sources

theorem isListed_and_writesOne_iff {piece : String} {source : Source}
    (hcomma : ',' ∉ piece.toList) :
    IsListed source ∧ WritesOne piece source ↔
      trim piece ≠ "" ∧ Source.ofEntry (trim piece) = .ok source := by
  constructor
  · rintro ⟨hlisted, h⟩
    exact ⟨trim_ne_empty_of_writesOne h, ofEntry_of_writesOne hlisted h⟩
  · rintro ⟨-, h⟩
    exact ⟨isListed_of_ofEntry (mt mem_of_mem_trim hcomma) h, writesOne_of_ofEntry h⟩

/-- A text is read as the sources that it writes, if they can be listed, and as no others. -/
theorem parseList_eq_ok_iff {text : String} {sources : List Source} :
    Source.parseList text = .ok sources ↔
      (∀ source ∈ sources, IsListed source) ∧ WritesList text sources := by
  rw [Source.parseList, mapM_eq_ok_iff, ← writesEntries_iff isListed_and_writesOne_iff
    fun h => comma_not_mem_of_writesOne h.1 h.2]
  simp only [WritesList, WritesEntries, writesEach_and_iff]
  constructor
  · rintro ⟨pieces, htext, hlisted, hwrites⟩
    exact ⟨hlisted, pieces, htext, hwrites⟩
  · rintro ⟨hlisted, pieces, htext, hwrites⟩
    exact ⟨pieces, htext, hlisted, hwrites⟩

theorem parseList_intercalate {sources : List Source} (h : ∀ source ∈ sources, IsListed source) :
    Source.parseList (",".intercalate (sources.map writeSource)) = .ok sources := by
  rw [Source.parseList, entries_intercalate (isEntry_of_mem_writeSource h)]
  exact mapM_map_eq_ok fun source hsource => ofEntry_writeSource (h source hsource)

theorem parseList_append (before after : String) :
    Source.parseList (before ++ "," ++ after) =
      (do return (← Source.parseList before) ++ (← Source.parseList after)) := by
  rw [Source.parseList, entries_append, List.mapM_append]
  rfl

/-! ## Urls -/

/-- Of the urls that a list can write a check passes only those that are usable as they stand. -/
theorem isUsable_of_isListed {source : Source} (hlisted : IsListed source)
    (hsound : source.isSound = true) : Source.IsUsable source.url :=
  (Source.isUsable_iff_trim_eq hsound).2 hlisted.url_trimmed.trim_eq

theorem isUsable_of_settings {env : Lookup} {settings : Settings} {config : Config}
    (hread : read env = .ok settings) (hconfig : settings.draft.build.result = .ok config) :
    ∀ source ∈ config.sources, Source.IsUsable source.url ∧ ',' ∉ source.url.toList := by
  intro source hsource
  have hsources : config.sources = settings.sources :=
    congrArg Draft.sources (Draft.toDraft_of_check hconfig)
  have hlisted : IsListed source :=
    isListed_of_saidBy (read_eq_ok_iff.1 hread) source (hsources ▸ hsource)
  exact ⟨isUsable_of_isListed hlisted (config.sources_sound source hsource), hlisted.url_comma⟩

/-- **Reading a source list inverts writing it.** A text is read as sources exactly when they can
be listed and the text is one of the ways to write them, so they are read back from their plain
list; whatever variables a configuration comes from, its urls are usable as they stand and hold no
comma; and lists with a comma between them are read one after the other. -/
theorem parseList_inverts_writing :
    (∀ text sources, Source.parseList text = .ok sources ↔
      (∀ source ∈ sources, IsListed source) ∧ WritesList text sources) ∧
    (∀ text sources, Source.parseList text = .ok sources →
      Source.parseList (",".intercalate (sources.map writeSource)) = .ok sources) ∧
    (∀ env settings config, read env = .ok settings → settings.draft.build.result = .ok config →
      ∀ source ∈ config.sources, Source.IsUsable source.url ∧ ',' ∉ source.url.toList) ∧
    ∀ before after, Source.parseList (before ++ "," ++ after) =
      (do return (← Source.parseList before) ++ (← Source.parseList after)) := by
  refine ⟨fun text sources => parseList_eq_ok_iff, fun text sources h => ?_,
    fun env settings config => isUsable_of_settings, parseList_append⟩
  exact parseList_intercalate (isListed_of_parseList h)

/-- A list of two sources with blanks, further commas, blank entries and a url with `=`. -/
def looseList : String := ",A b =/x?a=b , ,,\u3000B=\u00a0/y=\t,"

/-- What it lists. -/
def looseSources : List Source := [⟨"A b", "/x?a=b"⟩, ⟨"B", "/y="⟩]

/-- The settings of a service that is told this list and nothing else. -/
def looseListSettings : Settings where
  port := defaultPort
  sources := looseSources
  mountPoint := MountPoint.defaultSelector
  credentials := .always
  presets := [.apis, .standalone]
  layout := .standalone
  deepLinking := false
  assetBase := Assets.defaultBase
  allowedOrigins := []
  requestIdHeader := defaultRequestIdHeader

theorem parseList_inverts_writing_looseList :
    Source.parseList looseList = .ok looseSources ∧
    WritesList looseList looseSources ∧
    Source.parseList (",".intercalate (looseSources.map writeSource)) = .ok looseSources ∧
    (∃ config, looseListSettings.draft.build.result = .ok config ∧
      ∀ source ∈ config.sources, Source.IsUsable source.url ∧ ',' ∉ source.url.toList) ∧
    Source.parseList (looseList ++ "," ++ looseList) = .ok (looseSources ++ looseSources) ∧
    Source.parseList (looseList ++ "," ++ "C,D") = .error (.malformedSourceEntry "C") := by
  obtain ⟨hiff, hback, hurls, happend⟩ := parseList_inverts_writing
  have hlist : Source.parseList looseList = .ok looseSources := by decide +kernel
  have hrefused : Source.parseList "C,D" = .error (.malformedSourceEntry "C") := by decide +kernel
  have hread : read (fun name => [(sourcesVariable, looseList)].lookup name) =
      .ok looseListSettings := by
    rw [read_eq_ok_iff]
    constructor <;> decide +kernel
  obtain ⟨config, hconfig⟩ : ∃ config, looseListSettings.draft.build.result = .ok config :=
    ⟨_, rfl⟩
  refine ⟨hlist, ((hiff _ _).1 hlist).2, hback looseList looseSources hlist,
    ⟨config, hconfig, hurls _ _ config hread hconfig⟩, ?_, ?_⟩
  · rw [happend, hlist]
    rfl
  · rw [happend, hlist, hrefused]
    rfl

end DocPortal.Settings
