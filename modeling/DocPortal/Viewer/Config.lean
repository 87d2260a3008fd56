/-
A viewer configuration that can be served.

The type holds only usable configurations: there is a source, every source
is sound, there is a preset, and the layout has the preset it is drawn
with. How one comes about, and what is said when it cannot, is `Draft`.
-/
import DocPortal.Viewer.MountPoint
import DocPortal.Viewer.Options
import DocPortal.Viewer.Source

namespace DocPortal.Viewer

/-- What the viewer is started with. -/
structure Config where
  sources : List Source
  mountPoint : MountPoint
  credentials : CredentialPolicy
  presets : List Preset
  layout : Layout
  deepLinking : Bool
  sources_ne_nil : sources ≠ []
  sources_sound : ∀ source ∈ sources, source.isSound = true
  presets_ne_nil : presets ≠ []
  layout_supported : layout.SupportedBy presets
deriving DecidableEq

namespace Config

/-- A configuration as a JSON object for other tools. -/
def optionBag (config : Config) : Json :=
  .obj [
    ("dom_id", .str config.mountPoint.selector),
    ("urls", .arr (config.sources.map Source.toJson)),
    ("requestCredentials", .str config.credentials.wireName),
    ("presets", .arr (config.presets.map fun preset => .str preset.wireName)),
    ("layout", .str config.layout.wireName),
    ("deepLinking", .bool config.deepLinking)]

end Config

end DocPortal.Viewer
