/-
Where the viewer's own files are fetched from.
-/
import DocPortal.Text.Blank

namespace DocPortal.Viewer

/-- The place of the viewer's files: a url or path, without a slash at its end. -/
structure Assets where
  base : String
deriving DecidableEq, Repr

namespace Assets

/-- The place that a text names, with or without slashes at its end. -/
def ofBase (base : String) : Assets :=
  ⟨Text.trimEndOf '/' base⟩

/-- The public copy of the viewer. -/
def defaultBase : String := "https://unpkg.com/swagger-ui-dist@5"

/-- The url of a file at the place. -/
def file (assets : Assets) (name : String) : String :=
  assets.base ++ "/" ++ name

def stylesheet (assets : Assets) : String := assets.file "swagger-ui.css"

def bundleScript (assets : Assets) : String := assets.file "swagger-ui-bundle.js"

def standaloneScript (assets : Assets) : String := assets.file "swagger-ui-standalone-preset.js"

end Assets

end DocPortal.Viewer
