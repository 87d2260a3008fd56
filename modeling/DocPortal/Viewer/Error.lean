/-
What can be wrong with a configuration, and how the operator is told.

A cause carries the texts its message quotes, as the operator wrote them
unless the constructor says otherwise. Messages are one line each, apart
from line breaks inside a quoted text.
-/

namespace DocPortal.Viewer

/-- Why a setting or a configuration is refused. -/
inductive ConfigError where
  /-- The source list is empty. -/
  | noSources
  /-- The source at this position, counted from zero, has a blank name. -/
  | blankSourceName (index : Nat)
  /-- The url of this source is no document url. -/
  | invalidSourceUrl (name url : String)
  /-- An entry of a source list, trimmed, has no `=`. -/
  | malformedSourceEntry (entry : String)
  /-- The text is no id selector. -/
  | invalidMountPoint (selector : String)
  /-- The text, trimmed and in lower case, names no credential policy. -/
  | unknownCredentialPolicy (name : String)
  /-- The text, trimmed, names no layout. -/
  | unknownLayout (name : String)
  /-- The text, trimmed and in lower case, names no preset. -/
  | unknownPreset (name : String)
  /-- The preset list is empty. -/
  | noPresets
  /-- The layout of this name is drawn by the standalone preset, which is not listed. -/
  | missingStandalonePreset (layout : String)
  /-- The variable has a text that its kind of value does not allow. -/
  | invalidValue (variableName value : String)
deriving DecidableEq, Repr

/-- The message for the operator. -/
def ConfigError.message : ConfigError → String
  | noSources => "at least one documentation source is required"
  | blankSourceName index => "documentation source #" ++ toString index ++ " has a blank name"
  | invalidSourceUrl name url =>
    "documentation source '" ++ name ++ "' has an invalid url '" ++ url ++ "'"
  | malformedSourceEntry entry => "malformed source entry '" ++ entry ++ "', expected NAME=URL"
  | invalidMountPoint selector =>
    "mount point '" ++ selector ++ "' is not an id selector like '#swagger-ui'"
  | unknownCredentialPolicy name =>
    "unknown credential policy '" ++ name ++ "', expected omit, same-origin or include"
  | unknownLayout name => "unknown layout '" ++ name ++ "'"
  | unknownPreset name => "unknown preset '" ++ name ++ "', expected apis or standalone"
  | noPresets => "at least one renderer preset is required"
  | missingStandalonePreset layout => "layout " ++ layout ++ " needs the standalone preset"
  | invalidValue variableName value => "invalid value '" ++ value ++ "' for " ++ variableName

end DocPortal.Viewer
