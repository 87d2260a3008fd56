/-
Settings as variables: the texts from which they are read back.
-/
import DocPortal.Settings.Basic

namespace DocPortal.Settings

/-- Texts with a comma between two, and a comma alone for none, since a blank text would stand for
the default. -/
def writeList (items : List String) : String :=
  if items = [] then "," else ",".intercalate items

/-- The entry for a source in a written list. -/
def writeSource (source : Viewer.Source) : String :=
  source.name ++ "=" ++ source.url

/-- The variables that say what the settings are, with their texts. -/
def assignments (settings : Settings) : List (String × String) :=
  [(portVariable, toString settings.port.toNat),
   (sourcesVariable, writeList (settings.sources.map writeSource)),
   (mountPointVariable, settings.mountPoint),
   (credentialsVariable, settings.credentials.wireName),
   (presetsVariable, writeList (settings.presets.map Viewer.Preset.wireName)),
   (layoutVariable, settings.layout.wireName),
   (deepLinkingVariable, if settings.deepLinking then "true" else "false"),
   (assetBaseVariable, settings.assetBase ++ "/"),
   (requestIdHeaderVariable, settings.requestIdHeader)] ++
  if settings.allowedOrigins = [] then []
  else [(originsVariable, ",".intercalate settings.allowedOrigins)]

/-- The variables as they are looked up. -/
def written (settings : Settings) : Lookup :=
  fun variableName => settings.assignments.lookup variableName

end DocPortal.Settings
