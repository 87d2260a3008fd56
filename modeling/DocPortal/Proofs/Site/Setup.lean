/-
The stages of a setup. A setup comes to settings and a site exactly when
each stage comes to its part of them: the settings are read, their draft
passes the check, and their request id header is one.
-/
import DocPortal.Site.Setup

namespace DocPortal.Site

open Log Viewer

theorem ofSettings_eq_ok_iff {config : Config} {settings : Settings} {site : Site} :
    ofSettings config settings = .ok site ↔
      site.config = config ∧ site.assets = settings.assets ∧
        Http.HeaderName.ofText? settings.requestIdHeader = some site.requestIdHeader := by
  unfold ofSettings
  cases Http.HeaderName.ofText? settings.requestIdHeader with
  | none => simp
  | some header => simp only [Except.ok.injEq, eq_iff, Option.some.injEq, eq_comm]

theorem configure_eq_ok_iff {env : Lookup} {settings : Settings} {config : Config} :
    (configure env).result = .ok (settings, config) ↔
      Settings.read env = .ok settings ∧ settings.draft.check = .ok config := by
  simp only [configure, Report.bind_result_eq_ok, Report.mapError_result_eq_ok]
  constructor
  · rintro ⟨read, hread, checked, hcheck, h⟩
    cases h
    exact ⟨hread, hcheck⟩
  · rintro ⟨hread, hcheck⟩
    exact ⟨settings, hread, config, hcheck, rfl⟩

/-- Variables whose settings or configuration are refused, with the stage and the cause. -/
inductive Refuses (env : Lookup) : SetupError → Prop where
  | settings {cause : ConfigError} :
    Settings.read env = .error cause → Refuses env ⟨.settings, cause⟩
  | config {settings : Settings} {cause : ConfigError} : Settings.read env = .ok settings →
    settings.draft.build.result = .error cause → Refuses env ⟨.config, cause⟩

/-- Settings that are read leave the build of their draft. -/
theorem configure_of_read {env : Lookup} {settings : Settings}
    (hread : Settings.read env = .ok settings) :
    configure env = settings.draft.build.mapError (SetupError.mk .config) >>= fun config =>
      return (settings, config) := by
  have hsettings : ((Report.ofExcept (Settings.read env)).mapError
      (SetupError.mk .settings)).result = .ok settings := Report.mapError_result_eq_ok.2 hread
  rw [configure, Report.bind_ok hsettings]
  rfl

theorem configure_of_refuses {env : Lookup} {e : SetupError} (h : Refuses env e) :
    (configure env).result = .error e := by
  cases h with
  | settings hread =>
    rw [configure, hread]
    rfl
  | config hread hbuild =>
    rw [configure_of_read hread, Report.bind_error (Report.mapError_result_of_error _ hbuild)]

/-- The events of a configuration tell of repeated urls and of nothing else. -/
theorem exists_of_mem_events_configure {env : Lookup} {event : Event}
    (h : event ∈ (configure env).events) : ∃ url, event = Draft.repetition url := by
  cases hread : Settings.read env with
  | error cause =>
    have hnone : (configure env).events = [] := by
      rw [configure, hread]
      rfl
    rw [hnone] at h
    cases h
  | ok settings =>
    have hevents : (configure env).events = settings.draft.repetitions := by
      rw [configure_of_read hread]
      cases hbuild : settings.draft.build.result with
      | error cause =>
        rw [Report.bind_error (Report.mapError_result_of_error _ hbuild)]
        rfl
      | ok config =>
        rw [Report.bind_ok (Report.mapError_result_eq_ok.2 hbuild)]
        exact List.append_nil _
    rw [hevents, Draft.repetitions, List.mem_map] at h
    obtain ⟨url, -, rfl⟩ := h
    exact ⟨url, rfl⟩

theorem setUp_eq_ok_iff {env : Lookup} {settings : Settings} {site : Site} :
    (setUp env).result = .ok (settings, site) ↔
      Settings.read env = .ok settings ∧ settings.draft.check = .ok site.config ∧
        ofSettings site.config settings = .ok site := by
  simp only [setUp, establish, Report.bind_result_eq_ok, Report.mapError_result_eq_ok]
  constructor
  · rintro ⟨⟨read, config⟩, hconfigure, made, hsite, h⟩
    obtain ⟨hread, hcheck⟩ := configure_eq_ok_iff.1 hconfigure
    obtain ⟨hconfig, -⟩ := ofSettings_eq_ok_iff.1 hsite
    cases h
    subst hconfig
    exact ⟨hread, hcheck, hsite⟩
  · rintro ⟨hread, hcheck, hsite⟩
    exact ⟨(settings, site.config), configure_eq_ok_iff.2 ⟨hread, hcheck⟩, site, hsite, rfl⟩

end DocPortal.Site
