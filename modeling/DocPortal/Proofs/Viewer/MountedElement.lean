/-
One element for the viewer. The page has one element with an id, apart
from what its script says, and that id, the mount points of both scripts
and that of the option bag are the one selector that was set last: each is
read back as it, and none of the writers changes a character of it
(`mountsOn_of_build`).
-/
import DocPortal.Json.Reader
import DocPortal.Proofs.Viewer.Draft
import DocPortal.Proofs.Viewer.LastWord
import DocPortal.Proofs.Viewer.ScriptElement
import DocPortal.Proofs.Viewer.ScriptField

namespace DocPortal.Viewer

/-! ## The selector of a draft -/

namespace Draft

/-- The selector that a step sets. -/
def Step.selector? : Step → Option String
  | .mountPoint selector => some selector
  | _ => none

/-- The selector that was set last, or the default. -/
def lastSelector (steps : List Step) : String :=
  (steps.filterMap Step.selector?).getLast?.getD MountPoint.defaultSelector

theorem mountPoint_applyOrKeep (draft : Draft) (step : Step) :
    (draft.applyOrKeep step).mountPoint = step.selector?.getD draft.mountPoint := by
  unfold applyOrKeep
  cases step with
  | source | sources | mountPoint | deepLinking => rfl
  | credentials policy => simp only [apply]; cases CredentialPolicy.parse policy <;> rfl
  | presets presets => simp only [apply]; cases presets.mapM Preset.parse <;> rfl
  | layout layout => simp only [apply]; cases Layout.parse layout <;> rfl

theorem mountPoint_applyEach (draft : Draft) (steps : List Step) :
    (draft.applyEach steps).mountPoint =
      (steps.filterMap Step.selector?).getLast?.getD draft.mountPoint :=
  get_foldl mountPoint_applyOrKeep draft steps

theorem selector_of_build {steps : List Step} {config : Config}
    (h : (fresh.applyEach steps).build.result = .ok config) :
    config.mountPoint.selector = lastSelector steps := by
  have hkept : config.toDraft = fresh.applyEach steps := toDraft_of_check h
  exact (congrArg mountPoint hkept).trans (mountPoint_applyEach fresh steps)

end Draft

/-! ## The element of a page -/

namespace Page

/-- How an element with an id begins. -/
def elementMark : String := "<div id=\""

/-- The page in front of the element. -/
def front (assets : Assets) : String :=
  opening ++ attributeValue assets.stylesheet ++ "\" />\n" ++
  "</head>\n" ++
  "<body>\n" ++
  "    "

/-- The page behind the element's id up to the script. -/
def middle (assets : Assets) : String :=
  "></div>\n" ++
  "    <script src=\"" ++ attributeValue assets.bundleScript ++
    "\" charset=\"UTF-8\"></script>\n" ++
  "    <script src=\"" ++ attributeValue assets.standaloneScript ++
    "\" charset=\"UTF-8\"></script>\n" ++
  "    <script>"

theorem head_eq (config : Config) (assets : Assets) :
    head config assets = front assets ++ elementMark ++
      attributeValue config.mountPoint.elementId ++ "\"" ++ middle assets := by
  have hmark : "    <div id=\"" = "    " ++ elementMark := rfl
  have hquote : "\"></div>\n" = "\"" ++ "></div>\n" := rfl
  unfold head front middle opening
  simp only [hmark, hquote, String.append_assoc]

section Avoids

-- what avoids a mark is told piece by piece, and no piece is to be unfolded on the way
attribute [local irreducible] Text.Avoids

theorem avoids_attributeValue (s : String) :
    Text.Avoids elementMark.toList (attributeValue s).toList :=
  Text.avoids_of_not_mem (not_mem_attributeValue s)

theorem avoids_front (assets : Assets) : Text.Avoids elementMark.toList (front assets).toList := by
  unfold front opening
  simp only [String.toList_append, List.append_assoc]
  iterate 6 refine Text.Avoids.append (by decide) ?_
  refine (avoids_attributeValue assets.stylesheet).append ?_
  iterate 3 refine Text.Avoids.append (by decide) ?_
  decide

theorem avoids_middle (config : Config) (assets : Assets) :
    Text.Avoids elementMark.toList ((attributeValue config.mountPoint.elementId).toList ++
      ("\"".toList ++ (middle assets).toList)) := by
  unfold middle
  simp only [String.toList_append, List.append_assoc]
  refine (avoids_attributeValue config.mountPoint.elementId).append ?_
  iterate 3 refine Text.Avoids.append (by decide) ?_
  refine (avoids_attributeValue assets.bundleScript).append ?_
  iterate 2 refine Text.Avoids.append (by decide) ?_
  refine (avoids_attributeValue assets.standaloneScript).append ?_
  refine Text.Avoids.append (by decide) ?_
  decide

theorem toList_head (config : Config) (assets : Assets) (rest : List Char) :
    (head config assets).toList ++ rest = (front assets).toList ++ (elementMark.toList ++
      (((attributeValue config.mountPoint.elementId).toList ++
        ("\"".toList ++ (middle assets).toList)) ++ rest)) := by
  rw [head_eq]
  simp only [String.toList_append, List.append_assoc]

/-- Apart from those in the script, there is one place where an element with an id begins. -/
theorem elementMark_prefix_iff (config : Config) (assets : Assets) (before : List Char) :
    before ++ elementMark.toList <+: (render config assets).toList ↔
      before = (front assets).toList ∨ ∃ inner, before = (head config assets).toList ++ inner ∧
        inner ++ elementMark.toList <+: (scriptText config).toList := by
  have hmark : elementMark.toList = '<' :: "div id=\"".toList := by decide
  have hself : '<' ∉ "div id=\"".toList := by decide
  have hfoot : foot.toList = '<' :: "/script>\n</body>\n</html>\n".toList := by decide
  have hclose : ¬ '<' :: "div id=\"".toList <:+: '<' :: "/script>\n</body>\n</html>\n".toList := by
    decide
  have hfront := avoids_front assets
  have hmiddle := avoids_middle config assets
  simp only [toList_head]
  rw [toList_render, toList_head]
  rw [hmark] at hfront hmiddle ⊢
  rw [hfoot]
  exact Text.prefix_around_iff hself hfront hmiddle hclose

end Avoids

end Page

/-! ## One selector -/

/-- The page, the scripts and the option bag name one element by a selector, as it is written. -/
structure MountsOn (selector : String) (config : Config) (assets : Assets) : Prop where
  /-- Apart from those in the script, the page has one element with an id, and it is the
  selector's. -/
  page : ∃ front value behind,
    Page.head config assets = front ++ Page.elementMark ++ value ++ "\"" ++ behind ∧
    '"' ∉ value.toList ∧
    (∀ before, before ++ Page.elementMark.toList <+: (Page.render config assets).toList ↔
      before = front.toList ∨ ∃ inner, before = (Page.head config assets).toList ++ inner ∧
        inner ++ Page.elementMark.toList <+: (Page.scriptText config).toList) ∧
    '#' :: decodeReferences value.toList = selector.toList ∧
    decodeReferences value.toList = value.toList
  scripts : ∀ variant, ∃ contents,
    ScriptText.literalsBehind "dom_id: " (Script.render variant config) = [contents] ∧
    ScriptText.readContents contents = some selector ∧ contents = selector.toList
  optionBag : ∃ members rest, Json.read config.optionBag.compact = some (.obj members) ∧
    members.filter (fun member => member.1 = "dom_id") = [("dom_id", .str selector)] ∧
    config.optionBag.compact = "\x7b\"dom_id\":\"" ++ selector ++ "\"" ++ rest

namespace MountPoint

variable (mount : MountPoint)

theorem toList_attributeValue_elementId :
    (attributeValue mount.elementId).toList = mount.elementId.toList := by
  rw [toList_attributeValue]
  refine flatMap_eq_self fun c hc => attributeChar_of_not_mem fun hmem => ?_
  have hselector : c ∈ mount.selector.toList := by
    rw [selector_eq_cons]
    exact List.mem_cons_of_mem _ hc
  have hmarks : "&\"<>".toList ⊆ "\"\\&<>".toList := by simp
  exact (mount.plain_of_mem_selector hselector).2 (hmarks hmem)

theorem escapeChars_selector : Json.escapeChars mount.selector.toList = mount.selector.toList := by
  refine escapeChars_eq_self fun c hc => ?_
  obtain ⟨hcontrol, hmarks⟩ := mount.plain_of_mem_selector hc
  refine ⟨hcontrol, ?_, ?_⟩
  · rintro rfl
    exact hmarks (by decide)
  · rintro rfl
    exact hmarks (by decide)

theorem literalBody_selector : literalBody mount.selector = mount.selector.toList := by
  have hopen := not_mem_of_isIdSelector mount.isId
  have hbreak := breakEndTags_append_of_not_mem hopen []
  rw [literalBody, escapeChars_selector]
  simpa [breakEndTags] using hbreak

end MountPoint

/-- The option bag starts with the selector. -/
theorem exists_compact_optionBag_eq (config : Config) : ∃ rest,
    config.optionBag.compact =
      "\x7b\"dom_id\":\"" ++ config.mountPoint.selector ++ "\"" ++ rest := by
  have hname : Json.quoted "dom_id" = "\"dom_id\"" := by decide
  have hselector : Json.quoted config.mountPoint.selector =
      "\"" ++ config.mountPoint.selector ++ "\"" := by
    rw [Json.quoted, config.mountPoint.escapeChars_selector, String.ofList_toList]
  have hhead : "\x7b\"dom_id\":\"" = "\x7b" ++ ("\"dom_id\"" ++ (":" ++ "\"")) := rfl
  rw [Config.optionBag, Json.compact, Json.compactMembers, Json.compact, hname, hselector, hhead]
  · simp only [String.append_assoc]
    exact ⟨_, rfl⟩
  · simp

theorem mountsOn_selector (config : Config) (assets : Assets) :
    MountsOn config.mountPoint.selector config assets := by
  have hvalue := config.mountPoint.toList_attributeValue_elementId
  have hbody := config.mountPoint.literalBody_selector
  refine ⟨?_, ?_, ?_⟩
  · refine ⟨_, _, _, Page.head_eq config assets, fun hmem => (ne_of_mem_attributeValue hmem).1 rfl,
      Page.elementMark_prefix_iff config assets, ?_, ?_⟩
    · rw [decodeReferences_attributeValue, config.mountPoint.selector_eq_cons]
    · rw [decodeReferences_attributeValue, hvalue]
  · intro variant
    refine ⟨_, Script.literalsBehind_mountPoint variant config, ?_, hbody⟩
    exact Script.readContents_literalBody _
  · obtain ⟨rest, hrest⟩ := exists_compact_optionBag_eq config
    exact ⟨_, rest, Json.read_compact config.optionBag, rfl, hrest⟩

/-- **The viewer is mounted on the element that is there**: after any steps on a fresh draft, the one
element of the page with an id, both scripts and the option bag of the configuration are read back as
the selector that was set last, or the default, and each has it as it was set. -/
theorem mountsOn_of_build {steps : List Draft.Step} {config : Config}
    (h : (Draft.fresh.applyEach steps).build.result = .ok config) (assets : Assets) :
    MountsOn (Draft.lastSelector steps) config assets := by
  rw [← Draft.selector_of_build h]
  exact mountsOn_selector config assets

/-- Steps that set the selector twice, with a source whose name begins an element in the script. -/
def remountedSteps : List Draft.Step :=
  [.mountPoint "no selector", .source "<div id=" "/a", .mountPoint "#-docs_1"]

/-- What they come to. -/
def remountedConfig : Config :=
  { Config.stock with
    sources := [⟨"<div id=", "/a"⟩]
    mountPoint := ⟨"#-docs_1", by decide⟩
    sources_ne_nil := by decide
    sources_sound := by decide }

theorem mountsOn_of_remountedSteps :
    (Draft.fresh.applyEach remountedSteps).build.result = .ok remountedConfig ∧
    Draft.lastSelector remountedSteps = "#-docs_1" ∧
    MountsOn "#-docs_1" remountedConfig (Assets.ofBase "/assets/\"><div id=\"") := by
  have hbuild : (Draft.fresh.applyEach remountedSteps).build.result = .ok remountedConfig := rfl
  exact ⟨hbuild, rfl, mountsOn_of_build hbuild _⟩

end DocPortal.Viewer
