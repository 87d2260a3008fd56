/-
The closed choices are read from their wire names and from nothing else,
one by one and in lists. A list that is read item by item is refused for
its first item that is.
-/
import Mathlib.Data.List.Forall2
import DocPortal.Log.Report
import DocPortal.Viewer.Options

namespace DocPortal.Viewer

/-! ## Lists read item by item -/

theorem mapM_map_eq_ok {α β ε : Type} {write : α → β} {read : β → Except ε α} {items : List α}
    (h : ∀ a ∈ items, read (write a) = .ok a) : (items.map write).mapM read = .ok items := by
  induction items with
  | nil => rfl
  | cons a items ih =>
    have hrest := ih fun b hb => h b (List.mem_cons_of_mem a hb)
    rw [List.map_cons, List.mapM_cons, h a List.mem_cons_self, hrest]
    rfl

theorem exists_of_mem_of_mapM {α β ε : Type} {read : β → Except ε α} {texts : List β}
    {items : List α} (h : texts.mapM read = .ok items) :
    ∀ a ∈ items, ∃ text ∈ texts, read text = .ok a := by
  induction texts generalizing items with
  | nil =>
    cases h
    simp
  | cons text texts ih =>
    rw [List.mapM_cons, Log.bind_ok_iff] at h
    obtain ⟨b, hb, h⟩ := h
    rw [Log.bind_ok_iff] at h
    obtain ⟨rest, hrest, h⟩ := h
    cases h
    intro a ha
    rcases List.mem_cons.1 ha with rfl | ha
    · exact ⟨text, List.mem_cons_self, hb⟩
    · obtain ⟨other, hother, hread⟩ := ih hrest a ha
      exact ⟨other, List.mem_cons_of_mem text hother, hread⟩

/-- Items are read from texts exactly when each is read from its own. -/
theorem mapM_eq_ok_iff {α β ε : Type} {read : β → Except ε α} {texts : List β} {items : List α} :
    texts.mapM read = .ok items ↔
      List.Forall₂ (fun text item => read text = .ok item) texts items := by
  induction texts generalizing items with
  | nil =>
    rw [List.forall₂_nil_left_iff, List.mapM_nil]
    exact ⟨fun h => by cases h; rfl, fun h => by rw [h]; rfl⟩
  | cons text texts ih =>
    rw [List.mapM_cons, Log.bind_ok_iff, List.forall₂_cons_left_iff]
    simp only [Log.bind_ok_iff, ih]
    constructor
    · rintro ⟨item, hitem, rest, hrest, h⟩
      cases h
      exact ⟨item, rest, hitem, hrest, rfl⟩
    · rintro ⟨item, rest, hitem, hrest, rfl⟩
      exact ⟨item, hitem, rest, hrest, rfl⟩

/-- What stops the reading is the first text that is refused. -/
theorem mapM_eq_error_iff {α β ε : Type} {read : β → Except ε α} {refused : β → Bool}
    {causeOf : β → ε} {texts : List β} {cause : ε}
    (hread : ∀ text ∈ texts, ∀ cause,
      read text = .error cause ↔ refused text = true ∧ cause = causeOf text) :
    texts.mapM read = .error cause ↔
      ∃ text, texts.find? refused = some text ∧ cause = causeOf text := by
  induction texts with
  | nil =>
    rw [List.mapM_nil]
    exact ⟨nofun, nofun⟩
  | cons text texts ih =>
    obtain ⟨htext, hrest⟩ := List.forall_mem_cons.1 hread
    rw [List.mapM_cons, List.find?_cons]
    cases hresult : read text with
    | error other =>
      obtain ⟨hrefused, rfl⟩ := (htext other).1 hresult
      rw [hrefused]
      constructor
      · intro h
        cases h
        exact ⟨text, rfl, rfl⟩
      · rintro ⟨_, ⟨⟩, rfl⟩
        rfl
    | ok item =>
      have hpassed : refused text = false := by
        rw [← Bool.not_eq_true]
        intro hrefused
        rw [(htext (causeOf text)).2 ⟨hrefused, rfl⟩] at hresult
        cases hresult
      rw [hpassed, ← ih hrest]
      cases texts.mapM read with
      | error other => exact Iff.rfl
      | ok items => exact ⟨nofun, nofun⟩

/-! ## Wire names -/

theorem CredentialPolicy.parse_eq_ok_iff {text : String} {policy : CredentialPolicy} :
    parse text = .ok policy ↔ (Text.trim text).toLower = policy.wireName := by
  rw [parse]
  generalize (Text.trim text).toLower = name
  cases policy <;> split_ifs <;> simp_all [wireName]

theorem CredentialPolicy.parse_eq_error_iff {text : String} {cause : ConfigError} :
    parse text = .error cause ↔
      (Text.trim text).toLower ∉ ["omit", "same-origin", "include"] ∧
        cause = .unknownCredentialPolicy (Text.trim text).toLower := by
  rw [parse]
  generalize (Text.trim text).toLower = name
  split_ifs <;> simp_all [eq_comm]

theorem Preset.parse_eq_ok_iff {text : String} {preset : Preset} :
    parse text = .ok preset ↔ (Text.trim text).toLower = preset.wireName := by
  rw [parse]
  generalize (Text.trim text).toLower = name
  cases preset <;> split_ifs <;> simp_all [wireName]

theorem Preset.parse_eq_error_iff {text : String} {cause : ConfigError} :
    parse text = .error cause ↔
      (Text.trim text).toLower ∉ ["apis", "standalone"] ∧
        cause = .unknownPreset (Text.trim text).toLower := by
  rw [parse]
  generalize (Text.trim text).toLower = name
  split_ifs <;> simp_all [eq_comm]

theorem Layout.parse_eq_ok_iff {text : String} {layout : Layout} :
    parse text = .ok layout ↔ Text.trim text = layout.wireName := by
  rw [parse]
  generalize Text.trim text = name
  cases layout <;> split_ifs <;> simp_all [wireName]

theorem Layout.parse_eq_error_iff {text : String} {cause : ConfigError} :
    parse text = .error cause ↔
      Text.trim text ∉ ["StandaloneLayout", "BaseLayout"] ∧
        cause = .unknownLayout (Text.trim text) := by
  rw [parse]
  generalize Text.trim text = name
  split_ifs <;> simp_all [eq_comm]

theorem CredentialPolicy.parse_wireName (policy : CredentialPolicy) :
    parse policy.wireName = .ok policy := by
  have hname : (Text.trim policy.wireName).toLower = policy.wireName := by
    cases policy with
    | never | sameOrigin | always => decide +kernel
  rw [parse, hname]
  cases policy with
  | never | sameOrigin | always => rfl

theorem Preset.parse_wireName (preset : Preset) : parse preset.wireName = .ok preset := by
  have hname : (Text.trim preset.wireName).toLower = preset.wireName := by
    cases preset with
    | apis | standalone => decide +kernel
  rw [parse, hname]
  cases preset with
  | apis | standalone => rfl

theorem Layout.parse_wireName (layout : Layout) : parse layout.wireName = .ok layout := by
  cases layout with
  | base | standalone => rfl

theorem Preset.mapM_parse_wireName (presets : List Preset) :
    (presets.map wireName).mapM parse = .ok presets :=
  mapM_map_eq_ok fun preset _ => parse_wireName preset

end DocPortal.Viewer
