/-
Settings survive being written. Whatever variables settings were read from,
the variables that say what they are give the same settings again
(`read_written`). For each of the ten it takes that its reader makes only
values that are not blank when they are written, and that its own blanks,
separators and letter case leave as they are.
-/
import DocPortal.Proofs.Settings.Reading
import DocPortal.Proofs.Settings.SourceList
import DocPortal.Proofs.Text.LetterCase
import DocPortal.Proofs.Text.Number

namespace DocPortal.Settings

open Text Viewer

/-! ## Variables that are given -/

theorem value_of_given {α : Type} {env : Lookup} {variableName text : String}
    (h : given env variableName = some text) (default : α)
    (read : String → Except ConfigError α) : value env variableName default read = read text := by
  rw [value, h]

/-- A value is the default, or read from a text. -/
theorem eq_default_or_exists_read {α : Type} {env : Lookup} {variableName : String}
    {default a : α} {read : String → Except ConfigError α}
    (h : value env variableName default read = .ok a) :
    a = default ∨ ∃ text, read text = .ok a := by
  unfold value at h
  split at h
  next text _ => exact .inr ⟨text, h⟩
  next => cases h; exact .inl rfl

/-! ## Assignments -/

theorem nodup_assignments (settings : Settings) :
    (settings.assignments.map Prod.fst).Nodup := by
  by_cases hnil : settings.allowedOrigins = []
  · simp only [assignments, if_pos hnil, List.append_nil, List.map_cons, List.map_nil]
    decide
  · simp only [assignments, if_neg hnil, List.map_append, List.map_cons, List.map_nil]
    decide

theorem lookup_of_mem {l : List (String × String)} (hnodup : (l.map Prod.fst).Nodup)
    {key text : String} (h : (key, text) ∈ l) : l.lookup key = some text := by
  obtain ⟨before, after, rfl⟩ := List.append_of_mem h
  refine List.lookup_eq_some_iff.2 ⟨before, after, rfl, ?_⟩
  intro p hp
  rw [List.map_append, List.nodup_append] at hnodup
  have hne : p.1 ≠ key := hnodup.2.2 p.1 (List.mem_map_of_mem hp) key (by simp)
  simpa using hne.symm

/-- A variable that is written with more than blanks is given. -/
theorem given_written {settings : Settings} {variableName text : String}
    (h : (variableName, text) ∈ settings.assignments) (hblank : isBlank text = false) :
    given settings.written variableName = some text :=
  given_eq_some_iff.2 ⟨lookup_of_mem (nodup_assignments settings) h, hblank⟩

/-! ## Single settings -/

theorem not_isBlank_of_mem {text : String} {c : Char} (h : c ∈ text.toList)
    (hc : isBlankChar c = false) : isBlank text = false :=
  isBlank_eq_false_iff.2 ⟨c, h, hc⟩

theorem not_isBlank_getD_given (env : Lookup) (variableName : String) {default : String}
    (h : isBlank default = false) : isBlank ((given env variableName).getD default) = false := by
  cases hgiven : given env variableName with
  | none => exact h
  | some text => exact (given_eq_some_iff.1 hgiven).2

theorem readNumber_toString (n : Nat) : readNumber (toString n).toList = some n := by
  have htext : (toString n).toList = Nat.toDigits 10 n := by
    rw [Nat.toString_eq_repr, Nat.repr, String.toList_ofList]
  have hdigit : ∀ c ∈ Nat.toDigits 10 n, c.isDigit = true := fun c hc =>
    Nat.isDigit_of_mem_toDigits (by decide) (by decide) hc
  have hvalue : decimalValue (Nat.toDigits 10 n) = n := by
    rw [← ofDigitChars_eq_decimalValue, Nat.ofDigitChars_ten_toDigits]
  rw [htext, readNumber_eq_some_iff]
  exact ⟨[], Nat.toDigits 10 n, rfl, .inl rfl, Nat.toDigits_ne_nil, hdigit, hvalue⟩

theorem not_isBlankChar_of_mem_toString {n : Nat} {c : Char} (h : c ∈ (toString n).toList) :
    isBlankChar c = false := by
  rw [Nat.toString_eq_repr, Nat.repr, String.toList_ofList] at h
  exact isBlankChar_eq_false_of_isDigit (Nat.isDigit_of_mem_toDigits (by decide) (by decide) h)

theorem readPort_toString (port : UInt16) : readPort (toString port.toNat) = some port := by
  have htrimmed : IsTrimmed (toString port.toNat) :=
    isTrimmed_of_forall fun c hc => not_isBlankChar_of_mem_toString hc
  rw [readPort, ← toList_trim, htrimmed.trim_eq, readNumber_toString]
  dsimp only
  rw [if_pos port.toNat_lt, UInt16.ofNat_toNat]

theorem not_isBlank_toString (n : Nat) : isBlank (toString n) = false := by
  obtain ⟨c, hc⟩ : ∃ c, c ∈ (toString n).toList := by
    apply List.exists_mem_of_ne_nil
    rw [Nat.toString_eq_repr, Nat.repr, String.toList_ofList]
    exact Nat.toDigits_ne_nil
  exact not_isBlank_of_mem hc (not_isBlankChar_of_mem_toString hc)

/-! ## All of the settings -/

section Written

variable {env : Lookup} {settings : Settings} (h : SaidBy env settings)
include h

theorem isListed_of_saidBy : ∀ source ∈ settings.sources, IsListed source := by
  rcases eq_default_or_exists_read h.sources with hdefault | ⟨text, hread⟩
  · rw [hdefault]
    intro source hsource
    simp only [defaultSources, List.mem_cons, List.not_mem_nil, or_false] at hsource
    rcases hsource with rfl | rfl
    · constructor <;> decide
    · constructor <;> decide
  · exact isListed_of_parseList hread

theorem isEntry_of_mem_allowedOrigins : ∀ origin ∈ settings.allowedOrigins, IsEntry origin := by
  rw [h.allowedOrigins]
  intro origin horigin
  cases hgiven : given env originsVariable with
  | none => rw [hgiven] at horigin; cases horigin
  | some text => rw [hgiven] at horigin; exact isEntry_of_mem_entries horigin

theorem not_isBlank_requestIdHeader : isBlank settings.requestIdHeader = false := by
  rw [h.requestIdHeader]
  cases hgiven : given env requestIdHeaderVariable with
  | none => decide
  | some text =>
    rw [Option.map_some, Option.getD_some, isBlank_toLower, isBlank_trim]
    exact (given_eq_some_iff.1 hgiven).2

theorem toLower_trim_requestIdHeader :
    (trim settings.requestIdHeader).toLower = settings.requestIdHeader := by
  rw [h.requestIdHeader]
  cases given env requestIdHeaderVariable with
  | none => decide +kernel
  | some text =>
    rw [Option.map_some, Option.getD_some, trim_toLower, trim_trim, toLower_toLower]

/-- Each of the settings is what its written variable says. -/
theorem saidBy_written : SaidBy settings.written settings where
  port := by
    have hgiven : given settings.written portVariable = some (toString settings.port.toNat) :=
      given_written (by simp [assignments]) (not_isBlank_toString _)
    rw [value_of_given hgiven, valid, readPort_toString]
  sources := by
    have hlisted := isListed_of_saidBy h
    have hgiven : given settings.written sourcesVariable =
        some (writeList (settings.sources.map writeSource)) :=
      given_written (by simp [assignments])
        (not_isBlank_writeList (isEntry_of_mem_writeSource hlisted))
    rw [value_of_given hgiven, parseList_writeList hlisted]
  credentials := by
    have hgiven : given settings.written credentialsVariable =
        some settings.credentials.wireName :=
      given_written (by simp [assignments]) (by cases settings.credentials <;> decide)
    rw [value_of_given hgiven, CredentialPolicy.parse_wireName]
  presets := by
    have hentry : ∀ item ∈ settings.presets.map Preset.wireName, IsEntry item := by
      intro item hitem
      obtain ⟨preset, -, rfl⟩ := List.mem_map.1 hitem
      cases preset <;> constructor <;> decide
    have hgiven : given settings.written presetsVariable =
        some (writeList (settings.presets.map Preset.wireName)) :=
      given_written (by simp [assignments]) (not_isBlank_writeList hentry)
    rw [value_of_given hgiven, readPresets, entries_writeList hentry, Preset.mapM_parse_wireName]
  layout := by
    have hgiven : given settings.written layoutVariable = some settings.layout.wireName :=
      given_written (by simp [assignments]) (by cases settings.layout <;> decide)
    rw [value_of_given hgiven, Layout.parse_wireName]
  deepLinking := by
    have hgiven : given settings.written deepLinkingVariable =
        some (if settings.deepLinking then "true" else "false") :=
      given_written (by simp [assignments]) (by cases settings.deepLinking <;> decide)
    rw [value_of_given hgiven]
    cases settings.deepLinking <;> decide +kernel
  mountPoint := by
    have hblank : isBlank settings.mountPoint = false := by
      rw [h.mountPoint]
      exact not_isBlank_getD_given env mountPointVariable (by decide)
    have hgiven : given settings.written mountPointVariable = some settings.mountPoint :=
      given_written (by simp [assignments]) hblank
    rw [hgiven, Option.getD_some]
  assetBase := by
    have hslash : '/' ∈ (settings.assetBase ++ "/").toList := by simp
    have hgiven : given settings.written assetBaseVariable = some (settings.assetBase ++ "/") :=
      given_written (by simp [assignments]) (not_isBlank_of_mem hslash (by decide))
    rw [hgiven, Option.map_some, Option.getD_some, trimEndOf_append_slash, h.trimEndOf_assetBase]
  allowedOrigins := by
    have hentry := isEntry_of_mem_allowedOrigins h
    by_cases hnil : settings.allowedOrigins = []
    · have hunset : settings.written originsVariable = none := by
        rw [written, assignments, if_pos hnil]
        rfl
      rw [given, hunset, hnil]
      rfl
    · have hne : entries (",".intercalate settings.allowedOrigins) ≠ [] := by
        rw [entries_intercalate hentry]
        exact hnil
      have hgiven : given settings.written originsVariable =
          some (",".intercalate settings.allowedOrigins) :=
        given_written (by simp [assignments, hnil]) (not_isBlank_of_entries_ne_nil hne)
      rw [hgiven, Option.map_some, Option.getD_some, entries_intercalate hentry]
  requestIdHeader := by
    have hgiven : given settings.written requestIdHeaderVariable = some settings.requestIdHeader :=
      given_written (by simp [assignments]) (not_isBlank_requestIdHeader h)
    rw [hgiven, Option.map_some, Option.getD_some, toLower_trim_requestIdHeader h]

end Written

/-- **Settings are read back from the variables that say what they are**, from whatever variables
they were read. -/
theorem read_written {env : Lookup} {settings : Settings} (h : read env = .ok settings) :
    read settings.written = .ok settings :=
  read_eq_ok_iff.2 (saidBy_written (read_eq_ok_iff.1 h))

/-- Texts with blanks, leading zeros, empty entries and a list of nothing. -/
def looseTexts : List (String × String) :=
  [(portVariable, " +0080"), (sourcesVariable, ", = ,A b =/x?a=b ,"), (mountPointVariable, " #x"),
   (credentialsVariable, "OMIT\u00a0"), (presetsVariable, ","), (deepLinkingVariable, "Yes"),
   (assetBaseVariable, " //"), (originsVariable, "https://a.example , ,b"),
   (requestIdHeaderVariable, "X-Id\t")]

/-- What they say. -/
def looseSettings : Settings where
  port := 80
  sources := [⟨"", ""⟩, ⟨"A b", "/x?a=b"⟩]
  mountPoint := " #x"
  credentials := .never
  presets := []
  layout := .standalone
  deepLinking := true
  assetBase := " "
  allowedOrigins := ["https://a.example", "b"]
  requestIdHeader := "x-id"

theorem read_written_looseSettings :
    read (fun variableName => looseTexts.lookup variableName) = .ok looseSettings ∧
    looseSettings.written sourcesVariable = some "=,A b=/x?a=b" ∧
    looseSettings.written presetsVariable = some "," ∧
    read looseSettings.written = .ok looseSettings := by
  have hread : read (fun variableName => looseTexts.lookup variableName) = .ok looseSettings := by
    rw [read_eq_ok_iff]
    constructor <;> decide +kernel
  exact ⟨hread, by decide +kernel, by decide +kernel, read_written hread⟩

end DocPortal.Settings
