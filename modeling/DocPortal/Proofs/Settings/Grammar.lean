/-
What the texts of variables write. For each variable whose text can be
refused it is said which texts write which value, and for what cause any
other text is refused. A reader reads what is written, and refuses the rest
for that cause.
-/
import DocPortal.Proofs.Settings.SourceWriting
import DocPortal.Proofs.Text.LetterCase

namespace DocPortal.Settings

open Text Viewer

theorem valid_eq_ok_iff {α : Type} {variableName : String} {read : String → Option α}
    {text : String} {a : α} : valid variableName read text = .ok a ↔ read text = some a := by
  rw [valid]
  cases read text <;> simp

theorem valid_eq_error_iff {α : Type} {variableName : String} {read : String → Option α}
    {text : String} {cause : ConfigError} :
    valid variableName read text = .error cause ↔
      read text = none ∧ cause = .invalidValue variableName text := by
  rw [valid]
  cases read text <;> simp [eq_comm]

/-! ## Ports -/

/-- A text writes a number, with blanks around it or without. -/
def WritesPort (text : String) (n : Nat) : Prop :=
  ∃ digits, IsPadded digits text ∧ WritesNumber digits.toList n

theorem isTrimmed_of_writesNumber {digits : String} {n : Nat} (h : WritesNumber digits.toList n) :
    IsTrimmed digits := by
  refine isTrimmed_of_forall fun c hc => ?_
  obtain ⟨sign, rest, hchars, hsign, -, hdigits, -⟩ := h
  rw [hchars, List.mem_append] at hc
  rcases hc with hc | hc
  · rcases hsign with rfl | rfl
    · cases hc
    · rw [List.mem_singleton.1 hc]
      decide
  · exact isBlankChar_eq_false_of_isDigit (hdigits c hc)

theorem writesPort_iff {text : String} {n : Nat} :
    WritesPort text n ↔ WritesNumber (trimChars text.toList) n := by
  rw [← toList_trim]
  constructor
  · rintro ⟨digits, hpadded, hnumber⟩
    rwa [trim_eq_iff.2 ⟨isTrimmed_of_writesNumber hnumber, hpadded⟩]
  · exact fun h => ⟨trim text, isPadded_trim text, h⟩

theorem readPort_eq_some_iff {text : String} {port : UInt16} :
    readPort text = some port ↔ WritesPort text port.toNat := by
  rw [writesPort_iff, ← readNumber_eq_some_iff, readPort]
  constructor
  · intro h
    split at h
    next n hn =>
      rw [Option.ite_none_right_eq_some, Option.some.injEq] at h
      obtain ⟨hlt, rfl⟩ := h
      rw [hn, UInt16.toNat_ofNat_of_lt' hlt]
    next => cases h
  · intro h
    rw [h]
    dsimp only
    rw [if_pos port.toNat_lt, UInt16.ofNat_toNat]

theorem readPort_eq_none_iff {text : String} :
    readPort text = none ↔ ¬ ∃ n ≤ 65535, WritesPort text n := by
  rw [Option.eq_none_iff_forall_ne_some]
  simp only [Ne, readPort_eq_some_iff]
  constructor
  · rintro h ⟨n, hle, hn⟩
    refine h (UInt16.ofNat n) ?_
    rwa [UInt16.toNat_ofNat_of_lt' (Nat.lt_succ_of_le hle)]
  · intro h port hport
    exact h ⟨port.toNat, Nat.le_of_lt_succ port.toNat_lt, hport⟩

/-! ## Layouts -/

theorem parse_layout_eq_ok_iff {text : String} {layout : Layout} :
    Layout.parse text = .ok layout ↔ IsPadded layout.wireName text := by
  have htrimmed : IsTrimmed layout.wireName := by cases layout <;> decide
  rw [Layout.parse_eq_ok_iff, trim_eq_iff, and_iff_right htrimmed]

/-! ## Switches -/

/-- The words for a position. -/
def WritesSwitch (text : String) (on : Bool) : Prop :=
  ∃ word ∈ if on then ["1", "true", "yes", "on"] else ["0", "false", "no", "off"],
    WritesWord text word

theorem readSwitch_eq_some_iff {text : String} {on : Bool} :
    readSwitch text = some on ↔ WritesSwitch text on := by
  have hdisjoint : ∀ word ∈ onWords, word ∉ offWords := by decide
  simp only [WritesSwitch, writesWord_iff, exists_eq_right']
  rw [readSwitch]
  generalize (trim text).toLower = word
  by_cases hon : word ∈ onWords
  · rw [if_pos hon]
    cases on with
    | true => exact ⟨fun _ => hon, fun _ => rfl⟩
    | false => exact ⟨nofun, fun hoff => absurd hoff (hdisjoint word hon)⟩
  · rw [if_neg hon]
    cases on with
    | true =>
      rw [Option.ite_none_right_eq_some]
      exact ⟨fun h => (nomatch h.2), fun h => absurd h hon⟩
    | false =>
      rw [Option.ite_none_right_eq_some]
      exact ⟨fun h => h.1, fun h => ⟨h, rfl⟩⟩

theorem readSwitch_eq_none_iff {text : String} :
    readSwitch text = none ↔
      (trim text).toLower ∉ ["1", "true", "yes", "on", "0", "false", "no", "off"] := by
  show _ ↔ _ ∉ onWords ++ offWords
  rw [readSwitch, List.mem_append, not_or]
  generalize (trim text).toLower = word
  by_cases hon : word ∈ onWords
  · simp [hon]
  · by_cases hoff : word ∈ offWords <;> simp [hon, hoff]

/-! ## Lists -/

theorem ofEntry_eq_error_iff {entry : String} {cause : ConfigError} :
    Source.ofEntry entry = .error cause ↔
      '=' ∉ entry.toList ∧ cause = .malformedSourceEntry entry := by
  rw [← cut_eq_none_iff, Source.ofEntry]
  cases cut '=' entry <;> simp [eq_comm]

/-- A source list is refused for its first entry without `=`. -/
theorem parseList_eq_error_iff {text : String} {cause : ConfigError} :
    Source.parseList text = .error cause ↔
      ∃ entry, (entries text).find? (fun entry => '=' ∉ entry.toList) = some entry ∧
        cause = .malformedSourceEntry entry := by
  refine mapM_eq_error_iff fun entry _ cause => ?_
  rw [ofEntry_eq_error_iff, decide_eq_true_iff]

/-- A piece writes a preset, by its name. -/
def WritesPreset (piece : String) (preset : Preset) : Prop :=
  WritesWord piece preset.wireName

theorem readPresets_eq_ok_iff {text : String} {presets : List Preset} :
    readPresets text = .ok presets ↔ WritesEntries WritesPreset text presets := by
  rw [readPresets, mapM_eq_ok_iff]
  refine (writesEntries_iff (fun {piece preset} _ => ?_) fun {piece preset} h => ?_).symm
  · rw [WritesPreset, writesWord_iff, Preset.parse_eq_ok_iff, trim_trim]
    refine (and_iff_right_of_imp ?_).symm
    intro hname hempty
    have hnil : preset.wireName.toList = [] := by rw [← hname, hempty, toList_toLower]; rfl
    cases preset <;> cases hnil
  · exact h.not_mem (by decide) (by decide) (by cases preset <;> decide)

/-- A preset list is refused for its first entry that names no preset. -/
theorem readPresets_eq_error_iff {text : String} {cause : ConfigError} :
    readPresets text = .error cause ↔
      ∃ entry, (entries text).find? (fun entry => entry.toLower ∉ ["apis", "standalone"]) =
        some entry ∧ cause = .unknownPreset entry.toLower := by
  refine mapM_eq_error_iff fun entry hentry cause => ?_
  rw [Preset.parse_eq_error_iff, (isEntry_of_mem_entries hentry).trimmed.trim_eq,
    decide_eq_true_iff]

end DocPortal.Settings
