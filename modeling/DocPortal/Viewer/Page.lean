/-
The page that shows the viewer, with its script inside.
-/
import DocPortal.Viewer.Assets
import DocPortal.Viewer.Attribute
import DocPortal.Viewer.Script

namespace DocPortal.Viewer.Page

/-- The page up to the characters of the script. -/
def head (config : Config) (assets : Assets) : String :=
  "<!DOCTYPE html>\n" ++
  "<html lang=\"en\">\n" ++
  "<head>\n" ++
  "    <meta charset=\"UTF-8\">\n" ++
  "    <title>API Documentation</title>\n" ++
  "    <link rel=\"stylesheet\" type=\"text/css\" href=\"" ++
    attributeValue assets.stylesheet ++ "\" />\n" ++
  "</head>\n" ++
  "<body>\n" ++
  "    <div id=\"" ++ attributeValue config.mountPoint.elementId ++ "\"></div>\n" ++
  "    <script src=\"" ++ attributeValue assets.bundleScript ++
    "\" charset=\"UTF-8\"></script>\n" ++
  "    <script src=\"" ++ attributeValue assets.standaloneScript ++
    "\" charset=\"UTF-8\"></script>\n" ++
  "    <script>"

/-- The page after the characters of the script. -/
def foot : String :=
  "</script>\n" ++
  "</body>\n" ++
  "</html>\n"

/-- The characters between the script's tags. -/
def scriptText (config : Config) : String :=
  "\n" ++ Script.render .initializer config ++ "    "

/-- The whole page. -/
def render (config : Config) (assets : Assets) : String :=
  head config assets ++ scriptText config ++ foot

end DocPortal.Viewer.Page
