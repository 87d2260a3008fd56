/-
Reading the option bag: the steps on a fresh draft that make the
configuration it describes.

The members must be those that are written, in that order.
-/
import DocPortal.Viewer.Draft

namespace DocPortal.Viewer.OptionBag

/-- The text of a value that is one. -/
def text? : Json → Option String
  | .str s => some s
  | _ => none

/-- The step for an element of the source list. -/
def sourceStep? : Json → Option Draft.Step
  | .obj [("name", .str name), ("url", .str url)] => some (.source name url)
  | _ => none

/-- The steps that an option bag asks for. -/
def steps? : Json → Option (List Draft.Step)
  | .obj [("dom_id", .str selector), ("urls", .arr sources), ("requestCredentials", .str policy),
      ("presets", .arr presets), ("layout", .str layout), ("deepLinking", .bool enabled)] => do
    let sourceSteps ← sources.mapM sourceStep?
    let presets ← presets.mapM text?
    return .mountPoint selector :: sourceSteps ++
      [.credentials policy, .presets presets, .layout layout, .deepLinking enabled]
  | _ => none

/-- The steps that the option bag of a configuration asks for. -/
theorem steps?_optionBag (config : Config) :
    steps? config.optionBag =
      some (.mountPoint config.mountPoint.selector ::
        config.sources.map (fun source => .source source.name source.url) ++
        [.credentials config.credentials.wireName, .presets (config.presets.map Preset.wireName),
         .layout config.layout.wireName, .deepLinking config.deepLinking]) := by
  have hsources : (config.sources.map Source.toJson).mapM sourceStep? =
      some (config.sources.map fun source => .source source.name source.url) := by
    generalize config.sources = sources
    induction sources with
    | nil => rfl
    | cons source rest ih => simp [Source.toJson, sourceStep?, ih]
  have hpresets : (config.presets.map fun preset => Json.str preset.wireName).mapM text? =
      some (config.presets.map Preset.wireName) := by
    generalize config.presets = presets
    induction presets with
    | nil => rfl
    | cons preset rest ih => simp [text?, ih]
  simp [Config.optionBag, steps?, hsources, hpresets]

end DocPortal.Viewer.OptionBag
