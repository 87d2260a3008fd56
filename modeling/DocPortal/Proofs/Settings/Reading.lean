/-
What reading the settings comes to. Settings are read from variables exactly
when every one of them is what its own variable says (`read_eq_ok_iff`), so
nothing one variable holds reaches the setting of another.
-/
import DocPortal.Log.Report
import DocPortal.Proofs.Text.Separated
import DocPortal.Settings.Basic

namespace DocPortal.Settings

open Viewer

/-- Each of the settings is what its variable says. -/
structure SaidBy (env : Lookup) (settings : Settings) : Prop where
  port : value env portVariable defaultPort (valid portVariable readPort) = .ok settings.port
  sources : value env sourcesVariable defaultSources Source.parseList = .ok settings.sources
  credentials :
    value env credentialsVariable Draft.fresh.credentials CredentialPolicy.parse =
      .ok settings.credentials
  presets : value env presetsVariable Draft.fresh.presets readPresets = .ok settings.presets
  layout : value env layoutVariable Draft.fresh.layout Layout.parse = .ok settings.layout
  deepLinking :
    value env deepLinkingVariable Draft.fresh.deepLinking (valid deepLinkingVariable readSwitch) =
      .ok settings.deepLinking
  mountPoint : settings.mountPoint = (given env mountPointVariable).getD Draft.fresh.mountPoint
  assetBase :
    settings.assetBase =
      ((given env assetBaseVariable).map (Text.trimEndOf '/')).getD Assets.defaultBase
  allowedOrigins :
    settings.allowedOrigins = ((given env originsVariable).map Text.entries).getD []
  requestIdHeader :
    settings.requestIdHeader =
      ((given env requestIdHeaderVariable).map fun text => (Text.trim text).toLower).getD
        defaultRequestIdHeader

theorem read_eq_ok_iff {env : Lookup} {settings : Settings} :
    read env = .ok settings ↔ SaidBy env settings := by
  simp only [read, Log.bind_ok_iff]
  constructor
  · rintro ⟨port, hport, sources, hsources, credentials, hcredentials, presets, hpresets, layout,
      hlayout, deepLinking, hdeepLinking, h⟩
    cases h
    exact ⟨hport, hsources, hcredentials, hpresets, hlayout, hdeepLinking, rfl, rfl, rfl, rfl⟩
  · intro h
    refine ⟨_, h.port, _, h.sources, _, h.credentials, _, h.presets, _, h.layout, _,
      h.deepLinking, ?_⟩
    rw [← h.mountPoint, ← h.assetBase, ← h.allowedOrigins, ← h.requestIdHeader]
    rfl

theorem given_eq_some_iff {env : Lookup} {variableName text : String} :
    given env variableName = some text ↔
      env variableName = some text ∧ Text.isBlank text = false := by
  simp [given, Option.filter_eq_some_iff]

/-- An asset base has no slash left at its end. -/
theorem SaidBy.trimEndOf_assetBase {env : Lookup} {settings : Settings}
    (h : SaidBy env settings) : Text.trimEndOf '/' settings.assetBase = settings.assetBase := by
  rw [h.assetBase]
  cases given env assetBaseVariable with
  | none => decide
  | some text => exact Text.trimEndOf_trimEndOf '/' text

/-! ## Allowed origins -/

/-- The origins of a text are its entries, also where it is blank and so has none. -/
theorem allowedOrigins_of_read {env : Lookup} {settings : Settings} {text : String}
    (hread : read env = .ok settings) (htext : env originsVariable = some text) :
    settings.allowedOrigins = Text.entries text := by
  rw [(read_eq_ok_iff.1 hread).allowedOrigins, given, htext, Option.filter_some]
  by_cases hblank : Text.isBlank text = true
  · rw [Text.entries_eq_nil_of_isBlank hblank, hblank]
    rfl
  · rw [Bool.not_eq_true] at hblank
    rw [hblank]
    rfl

theorem allowedOrigins_of_read_unset {env : Lookup} {settings : Settings}
    (hread : read env = .ok settings) (hunset : env originsVariable = none) :
    settings.allowedOrigins = [] := by
  rw [(read_eq_ok_iff.1 hread).allowedOrigins, given, hunset]
  rfl

end DocPortal.Settings
