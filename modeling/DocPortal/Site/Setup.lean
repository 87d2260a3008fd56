/-
From variables to a site: the settings, then the configuration they
describe, then the site, each of which may be refused.
-/
import DocPortal.Site.Basic

namespace DocPortal

open Viewer (ConfigError Config)
open Log (Report)

/-- What is being made when the setup stops. -/
inductive SetupStage where
  | settings
  | config
  | site
deriving DecidableEq, Repr

/-- Why there is no site. -/
structure SetupError where
  stage : SetupStage
  cause : ConfigError
deriving DecidableEq, Repr

namespace Site

/-- The settings and the configuration of a site. -/
def configure (env : Lookup) : Report SetupError (Settings × Config) := do
  let settings ← (Report.ofExcept (Settings.read env)).mapError (SetupError.mk .settings)
  let config ← settings.draft.build.mapError (SetupError.mk .config)
  return (settings, config)

/-- The site of a configuration, as a step of its setup. -/
def establish (settings : Settings) (config : Config) : Report SetupError Site :=
  (Report.ofExcept (Site.ofSettings config settings)).mapError (SetupError.mk .site)

/-- The settings that variables give, and the site they describe. -/
def setUp (env : Lookup) : Report SetupError (Settings × Site) := do
  let (settings, config) ← configure env
  let site ← establish settings config
  return (settings, site)

end Site

end DocPortal
