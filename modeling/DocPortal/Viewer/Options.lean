/-
The closed choices of a viewer configuration: when a document is fetched
with credentials, which presets the viewer loads, and which layout it
draws. Each has a wire name, and is read back from it; policies and
presets are read in any letter case with blanks around them, a layout in
its exact case.
-/
import DocPortal.Text.Blank
import DocPortal.Viewer.Error

namespace DocPortal.Viewer

/-! ## Credential policies -/

/-- When the viewer sends credentials with a document request. -/
inductive CredentialPolicy where
  | never
  | sameOrigin
  | always
deriving DecidableEq, Repr

namespace CredentialPolicy

/-- The name of a policy in scripts, in JSON and in settings. -/
def wireName : CredentialPolicy → String
  | never => "omit"
  | sameOrigin => "same-origin"
  | always => "include"

/-- The policy a text names, whatever its letter case and the blanks around it. -/
def parse (text : String) : Except ConfigError CredentialPolicy :=
  let name := (Text.trim text).toLower
  if name = "omit" then .ok never
  else if name = "same-origin" then .ok sameOrigin
  else if name = "include" then .ok always
  else .error (.unknownCredentialPolicy name)

end CredentialPolicy

/-! ## Presets -/

/-- A bundle of viewer plugins. -/
inductive Preset where
  | apis
  | standalone
deriving DecidableEq, Repr

namespace Preset

/-- The name of a preset in JSON and in settings. -/
def wireName : Preset → String
  | apis => "apis"
  | standalone => "standalone"

/-- The script expression that stands for a preset. -/
def expression : Preset → String
  | apis => "SwaggerUIBundle.presets.apis"
  | standalone => "SwaggerUIStandalonePreset"

/-- The preset a text names, whatever its letter case and the blanks around it. -/
def parse (text : String) : Except ConfigError Preset :=
  let name := (Text.trim text).toLower
  if name = "apis" then .ok apis
  else if name = "standalone" then .ok standalone
  else .error (.unknownPreset name)

end Preset

/-! ## Layouts -/

/-- The outermost component the viewer draws. -/
inductive Layout where
  | base
  | standalone
deriving DecidableEq, Repr

namespace Layout

/-- The name of a layout in scripts, in JSON and in settings. -/
def wireName : Layout → String
  | base => "BaseLayout"
  | standalone => "StandaloneLayout"

/-- The layout a text names, apart from the blanks around it. -/
def parse (text : String) : Except ConfigError Layout :=
  let name := Text.trim text
  if name = "BaseLayout" then .ok base
  else if name = "StandaloneLayout" then .ok standalone
  else .error (.unknownLayout name)

/-- Whether the presets hold what the layout is drawn with. -/
def SupportedBy (layout : Layout) (presets : List Preset) : Prop :=
  layout = standalone → Preset.standalone ∈ presets

instance (layout : Layout) (presets : List Preset) : Decidable (layout.SupportedBy presets) :=
  inferInstanceAs (Decidable (_ → _))

end Layout

end DocPortal.Viewer
