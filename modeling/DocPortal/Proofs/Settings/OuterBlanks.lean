/-
Blanks around the texts of variables. Variables that are set alike between
their blanks give settings that are the same but for two: the mount point
and the asset base are kept with their blanks (`eq_of_alike`).
-/
import DocPortal.Proofs.Settings.Reading

namespace DocPortal.Settings

open Text Viewer

/-- The same variables are set, and their texts are the same apart from blanks around texts that are
not blank. -/
def AlikeBetweenBlanks (env other : Lookup) : Prop :=
  ∀ variableName, env variableName = other variableName ∨
    ∃ text otherText, env variableName = some text ∧ other variableName = some otherText ∧
      isBlank text = false ∧ isBlank otherText = false ∧ trim text = trim otherText

theorem given_of_alike {env other : Lookup} (h : AlikeBetweenBlanks env other)
    (variableName : String) :
    given env variableName = none ∧ given other variableName = none ∨
      ∃ text otherText, given env variableName = some text ∧
        given other variableName = some otherText ∧ trim text = trim otherText := by
  rcases h variableName with heq | ⟨text, otherText, htext, hother, hblank, hotherBlank, htrim⟩
  · cases hgiven : given env variableName with
    | none =>
      left
      rw [given, ← heq, ← given]
      exact ⟨rfl, hgiven⟩
    | some text =>
      right
      refine ⟨text, text, rfl, ?_, rfl⟩
      rw [given, ← heq, ← given, hgiven]
  · right
    exact ⟨text, otherText, given_eq_some_iff.2 ⟨htext, hblank⟩,
      given_eq_some_iff.2 ⟨hother, hotherBlank⟩, htrim⟩

theorem map_given_of_alike {env other : Lookup} (h : AlikeBetweenBlanks env other)
    (variableName : String) {α : Type} {f : String → α}
    (hf : ∀ {text otherText}, trim text = trim otherText → f text = f otherText) :
    (given env variableName).map f = (given other variableName).map f := by
  rcases given_of_alike h variableName with
    ⟨hnone, hother⟩ | ⟨text, otherText, htext, hother, htrim⟩
  · rw [hnone, hother]
  · rw [htext, hother, Option.map_some, Option.map_some, hf htrim]

/-! ## Readers -/

/-- What a reader makes of a text does not depend on the blanks around it. -/
def PassesOverBlanks {α : Type} (read : String → Except ConfigError α) : Prop :=
  ∀ (text otherText : String) (a b : α), trim text = trim otherText → read text = .ok a →
    read otherText = .ok b → a = b

theorem value_eq_of_alike {env other : Lookup} (h : AlikeBetweenBlanks env other) {α : Type}
    {variableName : String} {default a b : α} {read : String → Except ConfigError α}
    (hread : PassesOverBlanks read) (ha : value env variableName default read = .ok a)
    (hb : value other variableName default read = .ok b) : a = b := by
  unfold value at ha hb
  rcases given_of_alike h variableName with
    ⟨hnone, hother⟩ | ⟨text, otherText, htext, hother, htrim⟩
  · rw [hnone] at ha
    rw [hother] at hb
    cases ha
    cases hb
    rfl
  · rw [htext] at ha
    rw [hother] at hb
    exact hread text otherText a b htrim ha hb

theorem PassesOverBlanks.of_eq {α : Type} {read : String → Except ConfigError α}
    (h : ∀ {text otherText}, trim text = trim otherText → read text = read otherText) :
    PassesOverBlanks read := by
  intro text otherText a b htrim ha hb
  rw [h htrim, hb] at ha
  cases ha
  rfl

/-- A text that is refused is quoted with its blanks, but one that is read is not. -/
theorem PassesOverBlanks.valid {α : Type} (variableName : String) {read : String → Option α}
    (h : ∀ {text otherText}, trim text = trim otherText → read text = read otherText) :
    PassesOverBlanks (Settings.valid variableName read) := by
  intro text otherText a b htrim ha hb
  unfold Settings.valid at ha hb
  rw [h htrim] at ha
  cases hread : read otherText with
  | none =>
    rw [hread] at ha
    cases ha
  | some c =>
    rw [hread] at ha hb
    cases ha
    cases hb
    rfl

theorem readPort_eq_of_trim_eq {text otherText : String} (h : trim text = trim otherText) :
    readPort text = readPort otherText := by
  rw [readPort, readPort, ← toList_trim, h, toList_trim]

theorem readSwitch_eq_of_trim_eq {text otherText : String} (h : trim text = trim otherText) :
    readSwitch text = readSwitch otherText := by
  rw [readSwitch, readSwitch, h]

theorem entries_eq_of_trim_eq {text otherText : String} (h : trim text = trim otherText) :
    entries text = entries otherText := by
  rw [← entries_trim, h, entries_trim]

/-! ## Settings -/

section Alike

variable {env other : Lookup} (h : AlikeBetweenBlanks env other) {settings otherSettings : Settings}
  (hsaid : SaidBy env settings) (hother : SaidBy other otherSettings)
include h hsaid hother

theorem allowedOrigins_eq_of_alike : settings.allowedOrigins = otherSettings.allowedOrigins := by
  rw [hsaid.allowedOrigins, hother.allowedOrigins,
    map_given_of_alike h originsVariable entries_eq_of_trim_eq]

theorem requestIdHeader_eq_of_alike :
    settings.requestIdHeader = otherSettings.requestIdHeader := by
  rw [hsaid.requestIdHeader, hother.requestIdHeader,
    map_given_of_alike h requestIdHeaderVariable fun htrim => by rw [htrim]]

theorem trim_mountPoint_eq_of_alike :
    trim settings.mountPoint = trim otherSettings.mountPoint := by
  rw [hsaid.mountPoint, hother.mountPoint, ← Option.getD_map trim, ← Option.getD_map trim,
    map_given_of_alike h mountPointVariable fun htrim => htrim]

/-- All settings but the mount point and the asset base are the same. -/
theorem eq_of_alike :
    otherSettings = { settings with
      mountPoint := otherSettings.mountPoint
      assetBase := otherSettings.assetBase } := by
  have hport := value_eq_of_alike h (.valid portVariable readPort_eq_of_trim_eq)
    hsaid.port hother.port
  have hsources := value_eq_of_alike h
    (.of_eq fun htrim => by rw [Source.parseList, Source.parseList, entries_eq_of_trim_eq htrim])
    hsaid.sources hother.sources
  have hcredentials := value_eq_of_alike h
    (.of_eq fun htrim => by rw [CredentialPolicy.parse, CredentialPolicy.parse, htrim])
    hsaid.credentials hother.credentials
  have hpresets := value_eq_of_alike h
    (.of_eq fun htrim => by rw [readPresets, readPresets, entries_eq_of_trim_eq htrim])
    hsaid.presets hother.presets
  have hlayout := value_eq_of_alike h
    (.of_eq fun htrim => by rw [Layout.parse, Layout.parse, htrim])
    hsaid.layout hother.layout
  have hdeepLinking := value_eq_of_alike h (.valid deepLinkingVariable readSwitch_eq_of_trim_eq)
    hsaid.deepLinking hother.deepLinking
  rw [hport, hsources, hcredentials, hpresets, hlayout, hdeepLinking,
    allowedOrigins_eq_of_alike h hsaid hother, requestIdHeader_eq_of_alike h hsaid hother]

/-- The asset base is the same only if the text of its variable is. -/
theorem assetBase_eq_iff_of_alike :
    settings.assetBase = otherSettings.assetBase ↔
      env assetBaseVariable = other assetBaseVariable := by
  rw [hsaid.assetBase, hother.assetBase]
  rcases h assetBaseVariable with heq | ⟨text, otherText, htext, hother, hblank, hotherBlank, htrim⟩
  · simp only [given, heq]
  · rw [given_eq_some_iff.2 ⟨htext, hblank⟩, given_eq_some_iff.2 ⟨hother, hotherBlank⟩, htext,
      hother, Option.map_some, Option.map_some, Option.getD_some, Option.getD_some,
      Option.some.injEq]
    constructor
    · exact eq_of_trimEndOf_eq (by decide) htrim
    · exact congrArg _

end Alike

end DocPortal.Settings
