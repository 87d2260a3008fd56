/-
The generator and the service agree. Variables that one of them refuses for
their settings or their configuration both refuse, for the same cause and
before anything is done; of all others the generator writes the scripts
that a service with these variables serves, next to the page and inside it
(`programs_agree`).
-/
import DocPortal.Proofs.Program.Generator
import DocPortal.Proofs.Program.Start
import DocPortal.Proofs.Site.Answer
import DocPortal.Proofs.Viewer.ScriptElement

namespace DocPortal.Program

open Http (Request)
open Site (Refuses)
open Viewer (Config Registry ScriptVariant)

/-! ## Starts of the service -/

namespace Server

/-- What is configured is installed, whatever comes of the start. -/
theorem installation_mem_events_start {env : Lookup} {settings : Settings} {config : Config}
    (h : (Site.configure env).result = .ok (settings, config)) :
    Registry.installation config ∈ (start env).events := by
  have hconfigure : ((Site.configure env).mapError StartError.setup).result =
      .ok (settings, config) := Log.Report.mapError_result_eq_ok.2 h
  have hinstall : ((Registry.install {} config).mapError StartError.install).result =
      .ok ⟨some config⟩ := rfl
  rw [start, Log.Report.bind_ok hconfigure]
  dsimp only
  rw [Log.Report.bind_ok hinstall]
  exact List.mem_append_right _ (List.mem_append_left _ List.mem_cons_self)

/-- A configuration that is refused stops the start before anything is installed. -/
theorem start_of_refuses {env : Lookup} {e : SetupError} (h : Refuses env e) :
    start env = ⟨(Site.configure env).events, .error (.setup e)⟩ := by
  have hconfigure : ((Site.configure env).mapError StartError.setup).result = .error (.setup e) :=
    Log.Report.mapError_result_of_error _ (Site.configure_of_refuses h)
  rw [start, Log.Report.bind_error hconfigure]
  rfl

theorem installation_not_mem_of_refuses {env : Lookup} {e : SetupError} (h : Refuses env e)
    (config : Config) : Registry.installation config ∉ (start env).events := by
  rw [start_of_refuses h]
  intro hmem
  obtain ⟨url, hurl⟩ := Site.exists_of_mem_events_configure hmem
  have htarget : "docs_gateway::registry" = "docs_gateway::config" :=
    congrArg Log.Event.target hurl
  exact absurd htarget (by decide)

theorem runWith_of_refuses {env : Lookup} {e : SetupError} (h : Refuses env e)
    (filter : Log.Filter) : (runWith env filter).stop? = some (.failed (.ofSetup e)) := by
  unfold runWith
  dsimp only
  rw [start_of_refuses h]
  rfl

/-- A service that is ready was configured, and what it serves is installed. -/
theorem configured_of_ready {env : Lookup} {ready : Ready}
    (h : (start env).result = .ok ready) : ready.registry.installed? = some ready.site.config ∧
      ∃ settings, Settings.read env = .ok settings ∧
        settings.draft.build.result = .ok ready.site.config := by
  rw [result_start] at h
  cases hsetup : (Site.setUp env).result with
  | error e => rw [hsetup] at h; cases h
  | ok made =>
    obtain ⟨settings, site⟩ := made
    obtain ⟨hread, hcheck, -⟩ := Site.setUp_eq_ok_iff.1 hsetup
    rw [hsetup] at h
    dsimp only at h
    split at h
    · cases h
    · cases h
      exact ⟨rfl, settings, hread, hcheck⟩

/-- A service that serves the scripts of a configuration on their own, and one of them inside the
page. -/
structure Serves (config : Config) (ready : Ready) : Prop where
  scripts : ∀ (variant : ScriptVariant) (fresh : Uuid) (now : String) (request : Request),
    request.method = .get → request.path = "/" ++ variant.fileName →
    (ready.site.answer ready.rule fresh now request).response.body =
      Viewer.Script.render variant config
  page : ∀ (fresh : Uuid) (now : String) (request : Request), request.method = .get →
    request.path = "/docs" ∨ request.path = "/swagger-ui/index.html" →
    Viewer.inlinedScript (ready.site.answer ready.rule fresh now request).response.body =
      some (Viewer.Script.render .initializer config)

theorem serves_ready (ready : Ready) : Serves ready.site.config ready where
  scripts variant fresh now request hget hpath := by
    have hscript : ∃ document, Site.documentAt ("/" ++ variant.fileName) = some document ∧
        (ready.site.document document).body =
          Viewer.Script.render variant ready.site.config := by
      cases variant with
      | initializer => exact ⟨.initializerScript, by decide, ready.site.initializerScript_eq⟩
      | config => exact ⟨.configScript, by decide, ready.site.configScript_eq⟩
    obtain ⟨document, hdocument, hbody⟩ := hscript
    rw [← hpath] at hdocument
    rw [Site.body_answer_of_get ready.site ready.rule fresh now hget hdocument, hbody]
  page fresh now request hget hpath := by
    have hdocument : Site.documentAt request.path = some .page := by
      rcases hpath with hpath | hpath
      · rw [hpath]
        decide
      · rw [hpath]
        decide
    rw [Site.body_answer_of_get ready.site ready.rule fresh now hget hdocument,
      Site.document_page]
    exact Viewer.inlinedScript_render ready.site.config ready.site.assets

end Server

/-! ## Both programs -/

/-- Both programs stop for a cause: the service before anything is installed, and the generator
before anything is written. -/
structure BothStop (env : Lookup) (e : SetupError) : Prop where
  refused : (Server.start env).result = .error (.setup e)
  uninstalled : ∀ config, Registry.installation config ∉ (Server.start env).events
  server : ∀ filter, (Server.runWith env filter).stop? = some (.failed (.ofSetup e))
  unplanned : ∀ arguments, (Generator.plan env arguments).result = .error e
  generator : ∀ arguments tree,
    (Generator.runWith env arguments tree).stop? = some (.failed (.ofSetup e))
  unwritten : ∀ arguments tree, (Generator.runWith env arguments tree).tree = tree

/-- **The generator and the service agree**: where the settings or the configuration are refused,
both stop for that cause, before anything is done; otherwise the service installs the configuration
and the generator leaves its scripts, and nothing else, in a directory that can be made and written
to, whatever then comes of the service; and a service that is ready holds the configuration in its
registry and serves the same scripts, as they are and in its pages. -/
theorem programs_agree (env : Lookup) :
    (∀ e, Refuses env e → BothStop env e) ∧
    (∀ settings config, Settings.read env = .ok settings →
      settings.draft.build.result = .ok config →
      Registry.installation config ∈ (Server.start env).events ∧
      (∀ arguments tree, Generator.Writable tree (Generator.directoryOf arguments) →
        Generator.Leaves config (Generator.directoryOf arguments) tree
          (Generator.runWith env arguments tree)) ∧
      ∀ ready, (Server.start env).result = .ok ready →
        ready.registry.installed? = some config ∧ Server.Serves config ready) ∧
    ∀ ready, (Server.start env).result = .ok ready → ∃ settings config,
      Settings.read env = .ok settings ∧ settings.draft.build.result = .ok config := by
  refine ⟨fun e h => ?_, fun settings config hread hbuild => ?_, fun ready hready => ?_⟩
  · have hconfigure := Site.configure_of_refuses h
    refine ⟨?_, Server.installation_not_mem_of_refuses h, Server.runWith_of_refuses h, ?_, ?_, ?_⟩
    · rw [Server.start_of_refuses h]
    · exact fun _ => Generator.result_plan_of_error hconfigure
    · exact fun _ _ => (Generator.runWith_of_error hconfigure).1
    · exact fun _ _ => (Generator.runWith_of_error hconfigure).2
  · have hconfigure := Site.configure_eq_ok_iff.2 ⟨hread, hbuild⟩
    refine ⟨Server.installation_mem_events_start hconfigure, ?_, ?_⟩
    · exact fun _ _ => Generator.leaves_runWith hconfigure
    · intro ready hready
      obtain ⟨hinstalled, readSettings, hreadAgain, hbuildAgain⟩ :=
        Server.configured_of_ready hready
      rw [hread] at hreadAgain
      cases hreadAgain
      rw [hbuild] at hbuildAgain
      cases hbuildAgain
      exact ⟨hinstalled, Server.serves_ready ready⟩
  · obtain ⟨-, settings, hread, hbuild⟩ := Server.configured_of_ready hready
    exact ⟨settings, _, hread, hbuild⟩

/-- Variables of which only one is set. -/
def onlyVariable (name text : String) : Lookup :=
  fun variableName => if variableName = name then some text else none

/-- The settings of a service whose request id header is none. -/
def spacedSettings : Settings :=
  { Server.originSettings "" with requestIdHeader := "a b" }

theorem read_spacedHeader :
    Settings.read (onlyVariable Settings.requestIdHeaderVariable "a b") = .ok spacedSettings := by
  have hheader : "a b" = ((Settings.given (onlyVariable Settings.requestIdHeaderVariable "a b")
      Settings.requestIdHeaderVariable).map fun text => (Text.trim text).toLower).getD
        Settings.defaultRequestIdHeader := by decide +kernel
  exact Settings.read_eq_ok_iff.2 ⟨rfl, rfl, rfl, rfl, rfl, rfl, rfl, rfl, rfl, hheader⟩

theorem result_start_spacedHeader :
    (Server.start (onlyVariable Settings.requestIdHeaderVariable "a b")).result =
      .error (.setup ⟨.site, .invalidValue Settings.requestIdHeaderVariable "a b"⟩) := by
  have hconfigure := Site.configure_eq_ok_iff.2 ⟨read_spacedHeader, Viewer.Draft.check_default⟩
  have hnone : Http.HeaderName.ofText? "a b" = none := by decide +kernel
  have hsite : Site.ofSettings .stock spacedSettings =
      .error (.invalidValue Settings.requestIdHeaderVariable "a b") := by
    rw [Site.ofSettings, spacedSettings, hnone]
  have hestablish : (Site.establish spacedSettings .stock).result =
      .error ⟨.site, .invalidValue Settings.requestIdHeaderVariable "a b"⟩ :=
    Log.Report.mapError_result_of_error _ hsite
  refine Server.result_start_of_setUp_error ?_
  rw [Site.setUp, Log.Report.bind_ok hconfigure]
  dsimp only
  rw [Log.Report.bind_error hestablish]

theorem writable_static : Generator.Writable [] "static" where
  made := by decide
  written variant := by
    cases variant with
    | initializer => exact ⟨_, rfl⟩
    | config => exact ⟨_, rfl⟩

/-- Variables that both programs refuse; some that only the service refuses; and some that make it
ready. -/
theorem programs_agree_on_samples :
    BothStop (onlyVariable Settings.portVariable "x")
      ⟨.settings, .invalidValue Settings.portVariable "x"⟩ ∧
    ((Server.start (onlyVariable Settings.requestIdHeaderVariable "a b")).result =
        .error (.setup ⟨.site, .invalidValue Settings.requestIdHeaderVariable "a b"⟩) ∧
      Generator.Leaves .stock "static" []
        (Generator.runWith (onlyVariable Settings.requestIdHeaderVariable "a b") [] [])) ∧
    ∃ ready, (Server.start (Server.onlyOrigins "https://a")).result = .ok ready ∧
      ready.registry.installed? = some .stock ∧ Server.Serves .stock ready := by
  refine ⟨?_, ⟨result_start_spacedHeader, ?_⟩, ?_⟩
  · exact (programs_agree _).1 _ (.settings rfl)
  · have hleaves := ((programs_agree _).2.1 _ _ read_spacedHeader Viewer.Draft.check_default).2.1
    exact hleaves [] [] writable_static
  · have hsetup : (Site.setUp (Server.onlyOrigins "https://a")).result =
        .ok (Server.originSettings "https://a", Site.stock) :=
      Server.result_setUp_onlyOrigins (by decide)
    have hlisted : ¬ Server.ListsWildcard (Server.onlyOrigins "https://a") := by
      rintro ⟨text, htext, hmem⟩
      cases htext
      revert hmem
      decide
    obtain ⟨ready, hready⟩ := Server.exists_result_start_of_not_listsWildcard hsetup hlisted
    obtain ⟨hread, hbuild, -⟩ := Site.setUp_eq_ok_iff.1 hsetup
    exact ⟨ready, hready, ((programs_agree _).2.1 _ _ hread hbuild).2.2 ready hready⟩

end DocPortal.Program
