/-
The settings of the service, read from variables.

A variable that is unset or blank takes its default. Every other text is
read by its own grammar, and the first variable, in the order below, whose
text is outside its grammar stops the reading: nothing malformed is
replaced by a default. Whether the settings make a configuration is asked
later, of their draft.
-/
import DocPortal.Settings.Value
import DocPortal.Viewer.Assets
import DocPortal.Viewer.Draft

namespace DocPortal

open Viewer

/-- The values of variables by name. -/
abbrev Lookup := String → Option String

/-- What the operator can set. -/
structure Settings where
  port : UInt16
  sources : List Source
  mountPoint : String
  credentials : CredentialPolicy
  presets : List Preset
  layout : Layout
  deepLinking : Bool
  assetBase : String
  allowedOrigins : List String
  requestIdHeader : String
deriving DecidableEq, Repr

namespace Settings

/-! ## Variables and defaults -/

def portVariable : String := "PORT"
def sourcesVariable : String := "DOCS_SOURCES"
def credentialsVariable : String := "DOCS_CREDENTIALS"
def presetsVariable : String := "DOCS_PRESETS"
def layoutVariable : String := "DOCS_LAYOUT"
def deepLinkingVariable : String := "DOCS_DEEP_LINKING"
def originsVariable : String := "CORS_ALLOWED_ORIGINS"
def mountPointVariable : String := "DOCS_DOM_ID"
def assetBaseVariable : String := "DOCS_ASSET_BASE"
def requestIdHeaderVariable : String := "REQUEST_ID_HEADER"

/-- The variables the settings are read from. -/
def variableNames : List String := [
  portVariable, sourcesVariable, credentialsVariable, presetsVariable, layoutVariable,
  deepLinkingVariable, originsVariable, mountPointVariable, assetBaseVariable,
  requestIdHeaderVariable]

def defaultPort : UInt16 := 8080

/-- The header that carries a request's id unless told otherwise. -/
def defaultRequestIdHeader : String := "x-request-id"

/-! ## Reading -/

/-- The text of a variable that is set to more than blanks. -/
def given (env : Lookup) (variableName : String) : Option String :=
  (env variableName).filter fun text => !Text.isBlank text

/-- The value of a variable: read from its text if it is given, else the default. -/
def value {α : Type} (env : Lookup) (variableName : String) (default : α)
    (read : String → Except ConfigError α) : Except ConfigError α :=
  match given env variableName with
  | some text => read text
  | none => .ok default

/-- Reads a text of the variable, refusing those the reader has no value for. -/
def valid {α : Type} (variableName : String) (read : String → Option α) (text : String) :
    Except ConfigError α :=
  match read text with
  | some a => .ok a
  | none => .error (.invalidValue variableName text)

/-- The presets of a comma-separated list, or the first entry that names none. -/
def readPresets (text : String) : Except ConfigError (List Preset) :=
  (Text.entries text).mapM Preset.parse

/-- Reads the settings, variable by variable. -/
def read (env : Lookup) : Except ConfigError Settings := do
  let port ← value env portVariable defaultPort (valid portVariable readPort)
  let sources ← value env sourcesVariable defaultSources Source.parseList
  let credentials ← value env credentialsVariable Draft.fresh.credentials CredentialPolicy.parse
  let presets ← value env presetsVariable Draft.fresh.presets readPresets
  let layout ← value env layoutVariable Draft.fresh.layout Layout.parse
  let deepLinking ← value env deepLinkingVariable Draft.fresh.deepLinking
    (valid deepLinkingVariable readSwitch)
  return {
    port
    sources
    mountPoint := (given env mountPointVariable).getD Draft.fresh.mountPoint
    credentials
    presets
    layout
    deepLinking
    assetBase := ((given env assetBaseVariable).map (Text.trimEndOf '/')).getD Assets.defaultBase
    allowedOrigins := ((given env originsVariable).map Text.entries).getD []
    requestIdHeader :=
      ((given env requestIdHeaderVariable).map fun text => (Text.trim text).toLower).getD
        defaultRequestIdHeader }

/-! ## What settings are for -/

/-- The draft of the viewer configuration that the settings describe. -/
def draft (settings : Settings) : Draft where
  sources := settings.sources
  mountPoint := settings.mountPoint
  credentials := settings.credentials
  presets := settings.presets
  layout := settings.layout
  deepLinking := settings.deepLinking

/-- The place of the viewer's files. -/
def assets (settings : Settings) : Assets :=
  .ofBase settings.assetBase

end Settings

end DocPortal
