/-
The start of the service, up to the moment it listens.

The configuration is installed before the site is made from it, and the
sources are announced in between; the rule for origins comes last. So a
request id header that is none is told after the sources, and an origin
that cannot be is told after that.
-/
import DocPortal.Log.Filter
import DocPortal.Program.Environment
import DocPortal.Program.Output
import DocPortal.Viewer.Registry

namespace DocPortal.Program.Server

open Http.Cors (OriginError OriginRule)
open Log (Event Report)
open Viewer (Config ConfigError Registry Source)

/-- Why the service does not start. -/
inductive StartError where
  | setup (e : SetupError)
  | install (e : Registry.InstallError)
  /-- The list of origins makes no rule. This is no setting that is refused: the program breaks
  off. -/
  | origins (e : OriginError)
deriving DecidableEq, Repr

/-- A service that is about to listen. -/
structure Ready where
  site : Site
  rule : OriginRule
  registry : Registry
  port : UInt16

/-- The event for a source of the installed configuration. -/
def announcement (source : Source) : Event :=
  ⟨.info, "docs_gateway", "Documentation source " ++ source.name ++ " -> " ++ source.url⟩

/-- The event for the start at a port of every address. -/
def starting (port : UInt16) : Event :=
  ⟨.info, "docs_gateway", "Starting docs gateway at 0.0.0.0:" ++ toString port⟩

/-- Makes the service that variables describe ready to listen. -/
def start (env : Lookup) : Report StartError Ready := do
  let (settings, config) ← (Site.configure env).mapError .setup
  let registry ← (Registry.install {} config).mapError .install
  Report.noteAll (config.sources.map announcement)
  let site ← (Site.establish settings config).mapError .setup
  let rule ← (OriginRule.ofOrigins settings.allowedOrigins).mapError .origins
  Report.note (starting settings.port)
  return { site, rule, registry, port := settings.port }

/-! ## Runs -/

/-- The variable that chooses the events to print. -/
def filterVariable : String := "RUST_LOG"

/-- The events that are printed unless told otherwise: those of the service, and those of the layer
that traces requests. -/
def defaultFilter : Log.Filter := [
  { target? := some "docs_gateway", level? := some .debug },
  { target? := some "tower_http", level? := some .debug }]

/-- The filter that the variables choose; none if the program breaks off over the choice. -/
def filterOf? (env : Lookup) : Option Log.Filter :=
  match env filterVariable with
  | none => some defaultFilter
  | some text =>
    match Log.Filter.parse text with
    | .ok filter => some filter
    | .error .malformed => some defaultFilter
    | .error .splitCharacter => none

/-- How a start error stops the program. -/
def StartError.stop : StartError → Stop
  | setup e => .failed (.ofSetup e)
  | install e => .failed ⟨none, e.message⟩
  | origins e => .brokenOff e.message

/-- What a start shows. -/
structure Run where
  output : List Line
  /-- Why the service does not listen, if it does not. -/
  stop? : Option Stop
deriving DecidableEq, Repr

/-- Starts the service with variables, and shows what the filter lets through. -/
def runWith (env : Lookup) (filter : Log.Filter) : Run :=
  let report := start env
  let output := (report.events.filter filter.shows).map Line.logged
  match report.result with
  | .ok _ => ⟨output, none⟩
  | .error e => ⟨output, some e.stop⟩

/-- Starts the service with the variables it is given and those of the file's text. -/
def run (environment : Environment) (fileText : String) : Run :=
  match environment.load fileText with
  | .error e => ⟨[], some (.brokenOff e.message)⟩
  | .ok environment =>
    match filterOf? environment.lookup with
    | none => ⟨[], some (.brokenOff "a directive would be cut inside a character")⟩
    | some filter => runWith environment.lookup filter

end DocPortal.Program.Server
