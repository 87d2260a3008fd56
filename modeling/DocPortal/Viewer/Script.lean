/-
The scripts that start the viewer.

There are two, for two ways of serving it. They carry the same
configuration and differ in the order of the first two fields and of a
source's, in how the hook is written, and in deep linking, which the
second always turns on.
-/
import DocPortal.Viewer.FetchHook
import DocPortal.Viewer.Literal

namespace DocPortal.Viewer

/-- The two scripts. -/
inductive ScriptVariant where
  /-- The script inside the page, which may also be served next to it. -/
  | initializer
  /-- The script for a page that is hosted elsewhere. -/
  | config
deriving DecidableEq, Repr

namespace ScriptVariant

/-- The variants in the order they are written. -/
def all : List ScriptVariant := [initializer, config]

def fileName : ScriptVariant → String
  | initializer => "swagger-initializer.js"
  | config => "swagger-config.js"

/-- How the hook begins. -/
def hookHead : ScriptVariant → String
  | initializer => "(req) =>"
  | config => "function (req)"

end ScriptVariant

namespace Script

/-- The blanks before a field. -/
def indent : String := "        "

/-- The blanks before an item of a field. -/
def itemIndent : String := indent ++ "    "

/-- A list field: its items stand on lines of their own, with a comma between two. -/
def listField (name : String) (items : List String) : String :=
  indent ++ name ++ ": [\n" ++
    String.intercalate ",\n" (items.map (itemIndent ++ ·)) ++ "\n" ++
  indent ++ "],\n"

/-- The field for the element the viewer is mounted on. -/
def mountPointField (config : Config) : String :=
  indent ++ "dom_id: " ++ literal config.mountPoint.selector ++ ",\n"

/-- A source as an item. -/
def sourceItem (variant : ScriptVariant) (source : Source) : String :=
  match variant with
  | .initializer =>
    "\x7b name: " ++ literal source.name ++ ", url: " ++ literal source.url ++ " \x7d"
  | .config =>
    "\x7b url: " ++ literal source.url ++ ", name: " ++ literal source.name ++ " \x7d"

/-- The field for the sources. -/
def sourcesField (variant : ScriptVariant) (config : Config) : String :=
  listField "urls" (config.sources.map (sourceItem variant))

/-- The two fields that the scripts order differently. -/
def openingFields (variant : ScriptVariant) (config : Config) : String :=
  match variant with
  | .initializer => mountPointField config ++ sourcesField variant config
  | .config => sourcesField variant config ++ mountPointField config

/-- The field for deep linking, which is left out where it is off. -/
def deepLinkingField (variant : ScriptVariant) (config : Config) : String :=
  if variant = .config ∨ config.deepLinking then indent ++ "deepLinking: true,\n" else ""

/-- The field for the hook on the viewer's requests. -/
def hookField (variant : ScriptVariant) (config : Config) : String :=
  indent ++ "requestInterceptor: " ++ variant.hookHead ++ " \x7b\n" ++
    itemIndent ++ config.fetchHook.scriptBody ++ "\n" ++
    itemIndent ++ "return req;\n" ++
  indent ++ "\x7d,\n"

/-- The field for the presets. -/
def presetsField (config : Config) : String :=
  listField "presets" (config.presets.map Preset.expression)

/-- The field for the layout, which is the last. -/
def layoutField (config : Config) : String :=
  indent ++ "layout: " ++ literal config.layout.wireName ++ "\n"

/-- The whole script. -/
def render (variant : ScriptVariant) (config : Config) : String :=
  "window.onload = () => \x7b\n    window.ui = SwaggerUIBundle(\x7b\n" ++
    openingFields variant config ++
    deepLinkingField variant config ++
    hookField variant config ++
    presetsField config ++
    layoutField config ++
  "    \x7d);\n\x7d;\n"

end Script

end DocPortal.Viewer
