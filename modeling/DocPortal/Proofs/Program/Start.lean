/-
Starts of the service. A start is refused as its setup is, and a setup that
goes well ends in a service about to listen, with one exception: if the
wildcard is among the origins, the program breaks off
(`start_result_iff_listsWildcard`).
-/
import DocPortal.Program.Server
import DocPortal.Proofs.Http.Cors
import DocPortal.Proofs.Settings.Reading
import DocPortal.Proofs.Site.Setup

namespace DocPortal.Program.Server

open Http.Cors (OriginRule)
open Log (Report)
open Viewer (Assets MountPoint defaultSources Draft)

/-! ## The stages of a start -/

/-- A start is its setup, and then the rule of the origins. -/
theorem result_start (env : Lookup) :
    (start env).result =
      match (Site.setUp env).result with
      | .error e => .error (.setup e)
      | .ok (settings, site) =>
        match (OriginRule.ofOrigins settings.allowedOrigins).result with
        | .error e => .error (.origins e)
        | .ok rule =>
          .ok { site, rule, registry := ⟨some site.config⟩, port := settings.port } := by
  simp only [start, Site.setUp, Report.result_bind, Report.result_pure]
  cases hconfigure : (Site.configure env).result with
  | error e =>
    rw [Report.mapError_result_of_error _ hconfigure]
    rfl
  | ok configured =>
    obtain ⟨settings, config⟩ := configured
    have hinstall : (({} : Viewer.Registry).install config).result = .ok ⟨some config⟩ := rfl
    rw [Report.mapError_result_eq_ok.2 hconfigure]
    cases hsite : (Site.establish settings config).result with
    | error e =>
      simp only [bind, Except.bind, Report.mapError_result_eq_ok.2 hinstall, hsite,
        Report.mapError_result_of_error _ hsite]
      rfl
    | ok site =>
      -- what is installed is the configuration of the site
      obtain rfl : site.config = config :=
        (Site.ofSettings_eq_ok_iff.1 (Report.mapError_result_eq_ok.1 hsite)).1
      simp only [bind, Except.bind, Report.mapError_result_eq_ok.2 hinstall, hsite,
        Report.mapError_result_eq_ok.2 hsite]
      cases hrule : (OriginRule.ofOrigins settings.allowedOrigins).result with
      | error e =>
        rw [Report.mapError_result_of_error _ hrule]
        rfl
      | ok rule =>
        rw [Report.mapError_result_eq_ok.2 hrule]
        rfl

theorem result_start_of_setUp_error {env : Lookup} {e : SetupError}
    (hsetup : (Site.setUp env).result = .error e) : (start env).result = .error (.setup e) := by
  rw [result_start, hsetup]

/-- A start whose setup goes well serves the site under the rule of the origins. -/
theorem result_start_of_rule {env : Lookup} {settings : Settings} {site : Site}
    {rule : OriginRule} (hsetup : (Site.setUp env).result = .ok (settings, site))
    (hrule : (OriginRule.ofOrigins settings.allowedOrigins).result = .ok rule) :
    (start env).result =
      .ok { site, rule, registry := ⟨some site.config⟩, port := settings.port } := by
  rw [result_start, hsetup]
  dsimp only
  rw [hrule]

/-! ## The wildcard -/

/-- The variables list the wildcard among the origins. -/
def ListsWildcard (env : Lookup) : Prop :=
  ∃ text, env Settings.originsVariable = some text ∧ "*" ∈ Text.entries text

theorem wildcard_mem_allowedOrigins_iff {env : Lookup} {settings : Settings}
    (hread : Settings.read env = .ok settings) :
    "*" ∈ settings.allowedOrigins ↔ ListsWildcard env := by
  unfold ListsWildcard
  cases htext : env Settings.originsVariable with
  | none =>
    rw [Settings.allowedOrigins_of_read_unset hread htext]
    simp
  | some text =>
    rw [Settings.allowedOrigins_of_read hread htext]
    simp

theorem result_start_of_listsWildcard {env : Lookup} {made : Settings × Site}
    (hsetup : (Site.setUp env).result = .ok made) (hwildcard : ListsWildcard env) :
    (start env).result = .error (.origins .wildcard) := by
  obtain ⟨settings, site⟩ := made
  obtain ⟨hread, -⟩ := Site.setUp_eq_ok_iff.1 hsetup
  have hlisted : "*" ∈ settings.allowedOrigins := (wildcard_mem_allowedOrigins_iff hread).2 hwildcard
  rw [result_start, hsetup]
  dsimp only
  rw [OriginRule.ofOrigins_of_wildcard hlisted]

theorem exists_result_start_of_not_listsWildcard {env : Lookup} {made : Settings × Site}
    (hsetup : (Site.setUp env).result = .ok made) (hwildcard : ¬ ListsWildcard env) :
    ∃ ready, (start env).result = .ok ready := by
  obtain ⟨settings, site⟩ := made
  obtain ⟨hread, -⟩ := Site.setUp_eq_ok_iff.1 hsetup
  have hlisted : "*" ∉ settings.allowedOrigins := by
    rwa [wildcard_mem_allowedOrigins_iff hread]
  obtain ⟨rule, hrule⟩ := OriginRule.exists_ofOrigins_of_not_wildcard hlisted
  exact ⟨_, result_start_of_rule hsetup hrule⟩

/-- **What the variables lead to**: a refusal of the setup, with the setup's own error; or else a
service about to listen, exactly if they do not list the wildcard among the origins; or else, if
they do, the program breaks off over it. -/
theorem start_result_iff_listsWildcard (env : Lookup) :
    (∀ e, (start env).result = .error (.setup e) ↔ (Site.setUp env).result = .error e) ∧
    ((∃ ready, (start env).result = .ok ready) ↔
      (∃ made, (Site.setUp env).result = .ok made) ∧ ¬ ListsWildcard env) ∧
    ((start env).result = .error (.origins .wildcard) ↔
      (∃ made, (Site.setUp env).result = .ok made) ∧ ListsWildcard env) := by
  cases hsetup : (Site.setUp env).result with
  | error e => simp [result_start_of_setUp_error hsetup]
  | ok made =>
    by_cases hwildcard : ListsWildcard env
    · simp [result_start_of_listsWildcard hsetup hwildcard, hwildcard]
    · obtain ⟨ready, hready⟩ := exists_result_start_of_not_listsWildcard hsetup hwildcard
      simp [hready, hwildcard]

/-- Variables of which only the origins are set. -/
def onlyOrigins (text : String) : Lookup :=
  fun variableName => if variableName = Settings.originsVariable then some text else none

/-- The settings of a service that was told nothing but its origins. -/
def originSettings (text : String) : Settings where
  port := Settings.defaultPort
  sources := defaultSources
  mountPoint := MountPoint.defaultSelector
  credentials := .always
  presets := [.apis, .standalone]
  layout := .standalone
  deepLinking := false
  assetBase := Assets.defaultBase
  allowedOrigins := Text.entries text
  requestIdHeader := Settings.defaultRequestIdHeader

theorem result_setUp_onlyOrigins {text : String} (hblank : Text.isBlank text = false) :
    (Site.setUp (onlyOrigins text)).result = .ok (originSettings text, Site.stock) := by
  have hread : Settings.read (onlyOrigins text) = .ok (originSettings text) := by
    refine Settings.read_eq_ok_iff.2 ⟨rfl, rfl, rfl, rfl, rfl, rfl, rfl, rfl, ?_, rfl⟩
    rw [Settings.given, onlyOrigins, if_pos rfl, Option.filter_some, hblank]
    rfl
  have hheader : Http.HeaderName.ofText? Settings.defaultRequestIdHeader =
      some Site.stock.requestIdHeader := by decide +kernel
  have hsite : Site.ofSettings Site.stock.config (originSettings text) = .ok Site.stock :=
    Site.ofSettings_eq_ok_iff.2 ⟨rfl, rfl, hheader⟩
  exact Site.setUp_eq_ok_iff.2 ⟨hread, Draft.check_default, hsite⟩

/-- **Not every setup that goes well ends in a service.** -/
theorem exists_setUp_with_start_broken_off :
    ∃ made, (Site.setUp (onlyOrigins "*")).result = .ok made ∧
      (start (onlyOrigins "*")).result = .error (.origins .wildcard) := by
  have hsetup : (Site.setUp (onlyOrigins "*")).result = .ok (originSettings "*", Site.stock) :=
    result_setUp_onlyOrigins (by decide)
  exact ⟨_, hsetup, result_start_of_listsWildcard hsetup ⟨"*", by decide, by decide⟩⟩

end DocPortal.Program.Server
