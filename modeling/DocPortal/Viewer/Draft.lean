/-
Configurations in the making: fields that are set in any order and checked
together at the end.

The check names the first fault in a fixed order: no source, then the
first faulty source, then no preset, then a layout without its preset,
then the mount point. A url listed twice is no fault but is reported, once
for each repetition among the sources before the first faulty one.
-/
import DocPortal.Log.Report
import DocPortal.Viewer.Config

namespace DocPortal.Viewer

open Log (Event Report)

/-- A configuration that has not been checked yet. -/
structure Draft where
  sources : List Source := []
  mountPoint : String := MountPoint.defaultSelector
  credentials : CredentialPolicy := .always
  presets : List Preset := [.apis, .standalone]
  layout : Layout := .standalone
  deepLinking : Bool := false
deriving DecidableEq, Repr

namespace Draft

/-- The draft nothing has been said to: no source, and the default of every other field. -/
def fresh : Draft := {}

/-! ## Checking -/

/-- The configuration, or the first fault of the draft. -/
def check (draft : Draft) : Except ConfigError Config :=
  if hne : draft.sources = [] then .error .noSources
  else
    match hsound : Source.firstFault? 0 draft.sources with
    | some fault => .error fault
    | none =>
      if hpresets : draft.presets = [] then .error .noPresets
      else if hlayout : draft.layout.SupportedBy draft.presets then
        match MountPoint.parse draft.mountPoint with
        | .error fault => .error fault
        | .ok mountPoint =>
          .ok {
            sources := draft.sources
            mountPoint
            credentials := draft.credentials
            presets := draft.presets
            layout := draft.layout
            deepLinking := draft.deepLinking
            sources_ne_nil := hne
            sources_sound := Source.firstFault?_eq_none_iff.1 hsound
            presets_ne_nil := hpresets
            layout_supported := hlayout }
      else .error (.missingStandalonePreset draft.layout.wireName)

/-- The event for a url that an earlier source has already. -/
def repetition (url : String) : Event :=
  ⟨.warn, "docs_gateway::config", "Documentation url " ++ url ++ " is listed more than once"⟩

/-- The events of a check: the repeated urls before the first faulty source. -/
def repetitions (draft : Draft) : List Event :=
  (Source.repeatedUrls [] (draft.sources.takeWhile Source.isSound)).map repetition

/-- Checks the draft, and reports the urls it lists again. -/
def build (draft : Draft) : Report ConfigError Config :=
  ⟨draft.repetitions, draft.check⟩

/-! ## Steps -/

/-- One change to a draft, with policies, presets and layouts given as texts. -/
inductive Step where
  /-- Appends a source. -/
  | source (name url : String)
  /-- Replaces the source list. -/
  | sources (sources : List Source)
  | mountPoint (selector : String)
  | credentials (policy : String)
  /-- Replaces the preset list. -/
  | presets (presets : List String)
  | layout (layout : String)
  | deepLinking (enabled : Bool)
deriving DecidableEq, Repr

/-- The draft after a step, or why the step's text says nothing. -/
def apply (draft : Draft) : Step → Except ConfigError Draft
  | .source name url => .ok { draft with sources := draft.sources ++ [⟨name, url⟩] }
  | .sources sources => .ok { draft with sources }
  | .mountPoint selector => .ok { draft with mountPoint := selector }
  | .credentials policy => do return { draft with credentials := ← CredentialPolicy.parse policy }
  | .presets presets => do return { draft with presets := ← presets.mapM Preset.parse }
  | .layout layout => do return { draft with layout := ← Layout.parse layout }
  | .deepLinking enabled => .ok { draft with deepLinking := enabled }

/-- The draft after a step, which changes nothing if its text says nothing. -/
def applyOrKeep (draft : Draft) (step : Step) : Draft :=
  match draft.apply step with
  | .ok next => next
  | .error _ => draft

/-- The draft after every step in turn, where a step that says nothing is skipped. -/
def applyEach (draft : Draft) (steps : List Step) : Draft :=
  steps.foldl applyOrKeep draft

/-- The draft after every step in turn, each of which must say something. -/
def applyAll (draft : Draft) (steps : List Step) : Except ConfigError Draft :=
  steps.foldlM apply draft

/-- The configuration that steps on a fresh draft come to. -/
def buildSteps (steps : List Step) : Report ConfigError Config :=
  .ofExcept (fresh.applyAll steps) >>= build

end Draft

/-! ## The configuration without settings -/

/-- The sources that are listed unless told otherwise. -/
def defaultSources : List Source :=
  [⟨"Auth Service", "/v3/api-docs/auth"⟩, ⟨"User Service", "/v3/api-docs/user"⟩]

/-- The configuration of a service that was told nothing. -/
def Config.stock : Config where
  sources := defaultSources
  mountPoint := ⟨MountPoint.defaultSelector, by decide⟩
  credentials := .always
  presets := [.apis, .standalone]
  layout := .standalone
  deepLinking := false
  sources_ne_nil := by decide
  sources_sound := by decide
  presets_ne_nil := by decide
  layout_supported := by decide

/-- It is what a fresh draft with those sources becomes. -/
theorem Draft.check_default :
    { Draft.fresh with sources := defaultSources }.check = .ok Config.stock := rfl

end DocPortal.Viewer
