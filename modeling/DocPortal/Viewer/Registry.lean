/-
The place of a running service's configuration: set once, then only read.
-/
import DocPortal.Viewer.Draft

namespace DocPortal.Viewer

open Log (Event Report)

/-- The installed configuration, if there is one yet. -/
structure Registry where
  installed? : Option Config := none
deriving DecidableEq

namespace Registry

/-- Why an installation failed. -/
inductive InstallError where
  /-- There is a configuration already. -/
  | alreadyInstalled
  /-- There is no configuration to install. -/
  | refused (cause : ConfigError)
deriving DecidableEq, Repr

def InstallError.message : InstallError → String
  | alreadyInstalled => "documentation config is already installed"
  | refused cause => cause.message

/-- The event for an installation. -/
def installation (config : Config) : Event :=
  ⟨.debug, "docs_gateway::registry",
    "Installed documentation config with " ++ toString config.sources.length ++ " sources"⟩

/-- Installs a configuration, unless there is one. -/
def install (registry : Registry) (config : Config) : Report InstallError Registry :=
  match registry.installed? with
  | some _ => .fail .alreadyInstalled
  | none => ⟨[installation config], .ok ⟨some config⟩⟩

/-- Builds a configuration and installs it. -/
def installBuilt (registry : Registry) (built : Report ConfigError Config) :
    Report InstallError Registry :=
  built.mapError .refused >>= registry.install

end Registry

/-! ## Several registries -/

/-- Registries by number. -/
abbrev Registries := Nat → Registry

namespace Registries

/-- An operation on one of several registries. -/
inductive Op where
  | get (number : Nat)
  /-- Installs what a build comes to. -/
  | install (number : Nat) (built : Report ConfigError Config)

/-- What an operation comes to. -/
structure Outcome where
  /-- Why nothing was installed, if something was to be. -/
  failure? : Option Registry.InstallError
  /-- What the registry holds afterwards. -/
  installed? : Option Config
  events : List Event

/-- The registries with another one at a number. -/
def set (registries : Registries) (number : Nat) (registry : Registry) : Registries :=
  fun n => if n = number then registry else registries n

/-- The registries after an operation, with what it came to. -/
def step (registries : Registries) : Op → Registries × Outcome
  | .get number => (registries, ⟨none, (registries number).installed?, []⟩)
  | .install number built =>
    let report := (registries number).installBuilt built
    match report.result with
    | .ok registry =>
      (registries.set number registry, ⟨none, registry.installed?, report.events⟩)
    | .error cause =>
      (registries, ⟨some cause, (registries number).installed?, report.events⟩)

/-- What each of several operations comes to, one after the other. -/
def run (registries : Registries) : List Op → List Outcome
  | [] => []
  | op :: rest =>
    let (next, outcome) := registries.step op
    outcome :: run next rest

end Registries

end DocPortal.Viewer
