/-
Texts of a configuration stay in their literals: two configurations of one
shape have scripts that differ between the quotes of literals only
(`skeleton_render_eq_of_shape_eq`).
-/
import DocPortal.Proofs.Viewer.ScriptSegments
import DocPortal.Viewer.Draft

namespace DocPortal.Viewer.Script

open ScriptText

/-! ## Frames -/

theorem frame_append (a b : List Segment) : frame (a ++ b) = frame a ++ frame b := by
  simp [frame]

theorem frame_cons (segment : Segment) (segments : List Segment) :
    frame (segment :: segments) = segment.frame ++ frame segments := rfl

/-- The frame of a list field depends on the frames of its items only. -/
theorem frame_listSegments_congr {name : String} {xs ys : List (List Segment)}
    (hname : isCode name = true) (h : xs.map frame = ys.map frame) :
    frame (listSegments name xs hname) = frame (listSegments name ys hname) := by
  have hitems (zs : List (List Segment)) :
      frame ([Segment.code ",\n"].intercalate (zs.map (.code itemIndent :: ·))) =
        ",\n".toList.intercalate ((zs.map frame).map (itemIndent.toList ++ ·)) := by
    rw [frame, flatMap_intercalate, List.map_map, List.map_map]
    rfl
  simp only [listSegments, frame_append, hitems, h]

theorem frame_sourceSegments (variant : ScriptVariant) (s t : Source) :
    frame (sourceSegments variant s) = frame (sourceSegments variant t) := by
  cases variant <;> rfl

/-- The frame of the sources tells how many there are and nothing else. -/
theorem frame_sourcesSegments {variant : ScriptVariant} {a b : Config}
    (h : a.sources.length = b.sources.length) :
    frame (sourcesSegments variant a) = frame (sourcesSegments variant b) := by
  apply frame_listSegments_congr
  rw [List.map_map, List.map_map]
  have hconst (sources : List Source) :
      sources.map (frame ∘ sourceSegments variant) =
        List.replicate sources.length (frame (sourceSegments variant ⟨"", ""⟩)) := by
    rw [← List.map_const']
    exact List.map_congr_left fun source _ => frame_sourceSegments variant source _
  rw [hconst, hconst, h]

theorem frame_segments {variant : ScriptVariant} {a b : Config}
    (hsources : a.sources.length = b.sources.length) (hpresets : a.presets = b.presets)
    (hdeep : a.deepLinking = b.deepLinking) :
    frame (segments variant a) = frame (segments variant b) := by
  have hurls : frame (sourcesSegments variant a) = frame (sourcesSegments variant b) :=
    frame_sourcesSegments hsources
  have hopening : frame (openingSegments variant a) = frame (openingSegments variant b) := by
    cases variant <;> simp only [openingSegments, frame_append, hurls] <;> rfl
  have hlinking : deepLinkingSegments variant a = deepLinkingSegments variant b := by
    rw [deepLinkingSegments, deepLinkingSegments, hdeep]
  have hlist : presetsSegments a = presetsSegments b := by
    simp only [presetsSegments, hpresets]
  have hhook : frame (hookSegments variant a) = frame (hookSegments variant b) := rfl
  have hlayout : frame (layoutSegments a) = frame (layoutSegments b) := rfl
  unfold segments
  simp only [frame_cons, frame_append, hopening, hlinking, hhook, hlist, hlayout]

/-! ## Texts stay in their literals -/

/-- A script whose literals have all ended, hold no control character, and open no end tag. -/
structure IsContained (script : String) : Prop where
  closed : isClosed script = true
  noControl : ∀ contents ∈ literalContents script, ∀ c ∈ contents, 0x20 ≤ c.toNat
  noEndTag : ¬ "</".toList <:+: script.toList

theorem literalContents_render (variant : ScriptVariant) (config : Config) :
    literalContents (render variant config) = (texts (segments variant config)).map literalBody := by
  rw [literalContents, toList_render, contentsFrom_written]

theorem isContained_render (variant : ScriptVariant) (config : Config) :
    IsContained (render variant config) where
  closed := by
    have hplace := placeAfter_written (segments variant config)
    rw [isClosed, toList_render, hplace]
    rfl
  noControl := by
    intro contents hcontents c hc
    rw [literalContents_render, List.mem_map] at hcontents
    obtain ⟨text, -, rfl⟩ := hcontents
    exact not_control_of_mem_literalBody hc
  noEndTag := by
    rw [toList_render]
    exact not_endTag_infix_written _

/-- **No text leaves its literal**: whatever the names, urls, mount points, policies and layouts
of two configurations are, if these list as many sources, the same presets and the same deep
linking, then their scripts are the same around the contents of their literals, and every
literal of both holds. -/
theorem skeleton_render_eq_of_shape_eq (variant : ScriptVariant) (a b : Config)
    (hsources : a.sources.length = b.sources.length) (hpresets : a.presets = b.presets)
    (hdeep : a.deepLinking = b.deepLinking) :
    skeleton (render variant a) = skeleton (render variant b) ∧
      IsContained (render variant a) ∧ IsContained (render variant b) := by
  refine ⟨?_, isContained_render variant a, isContained_render variant b⟩
  rw [skeleton, skeleton, toList_render, toList_render, skeletonFrom_written, skeletonFrom_written]
  exact frame_segments hsources hpresets hdeep

/-- A configuration whose texts look like the end of a literal, of a script and of a line. -/
def hostileConfig : Config :=
  { Config.stock with
    sources := [⟨"\"</script>\\", "/a\"</"⟩, ⟨"\n\\\"", "http://h/\\"⟩]
    credentials := .sameOrigin
    sources_ne_nil := by decide
    sources_sound := by decide }

theorem skeleton_render_hostileConfig :
    (hostileConfig.sources.length = Config.stock.sources.length ∧
      hostileConfig.presets = Config.stock.presets ∧
      hostileConfig.deepLinking = Config.stock.deepLinking) ∧
    skeleton (render .config hostileConfig) = skeleton (render .config Config.stock) ∧
      IsContained (render .config hostileConfig) ∧ IsContained (render .config Config.stock) :=
  ⟨⟨rfl, rfl, rfl⟩,
    skeleton_render_eq_of_shape_eq .config hostileConfig Config.stock rfl rfl rfl⟩

end DocPortal.Viewer.Script
