/-
The page around its script: a fixed text with four gaps, each of them the
value of an attribute between double quotes. What stands in a gap ends
neither the value nor a tag, and is read back as the text it was written
for: the urls of the viewer's files and the element's id. Slashes at the
end of an asset base make no difference, be it given directly or by its
variable (`page_framedAt_base`).
-/
import DocPortal.Proofs.Settings.Reading
import DocPortal.Proofs.Site.Setup
import DocPortal.Proofs.Viewer.Page

namespace DocPortal.Viewer

/-! ## References -/

/-- The references for the characters that have a meaning in a page. -/
def references : List String := ["&amp;", "&quot;", "&lt;", "&gt;"]

/-- The characters with a reference in place of each `c`. -/
def replaceEach (c : Char) (reference : String) (cs : List Char) : List Char :=
  cs.flatMap fun d => if d = c then reference.toList else [d]

/-- The references put in by four passes over the text. The pass for `&` is the first, so that no
pass finds what an earlier one has written. -/
def attributeInPasses (cs : List Char) : List Char :=
  replaceEach '>' "&gt;" <| replaceEach '<' "&lt;" <| replaceEach '"' "&quot;" <|
    replaceEach '&' "&amp;" cs

theorem attributeInPasses_cons (c : Char) (cs : List Char) :
    attributeInPasses (c :: cs) = attributeInPasses [c] ++ attributeInPasses cs := by
  simp only [attributeInPasses, replaceEach, List.flatMap_cons, List.flatMap_append,
    List.flatMap_nil, List.append_nil]

theorem attributeInPasses_singleton (c : Char) : attributeInPasses [c] = attributeChar c := by
  by_cases hc : c ∈ "&\"<>".toList
  · have hmarks : ("&\"<>".toList.all fun d => attributeInPasses [d] = attributeChar d) = true := by
      decide
    exact of_decide_eq_true (List.all_eq_true.1 hmarks c hc)
  · rw [attributeChar_of_not_mem hc]
    simp only [String.reduceToList, List.mem_cons, List.not_mem_nil, or_false, not_or] at hc
    obtain ⟨hamp, hquote, hless, hgreater⟩ := hc
    simp only [attributeInPasses, replaceEach, List.flatMap_cons, List.flatMap_nil,
      List.append_nil, if_neg hamp, if_neg hquote, if_neg hless, if_neg hgreater]

/-- Four passes write what one pass writes. -/
theorem attributeInPasses_eq (cs : List Char) :
    attributeInPasses cs = cs.flatMap attributeChar := by
  induction cs with
  | nil => rfl
  | cons c cs ih =>
    rw [attributeInPasses_cons, attributeInPasses_singleton, ih, List.flatMap_cons]

/-- What is written for a character is the character itself, or a reference with no second `&`. -/
theorem attributeChar_cases (c : Char) :
    attributeChar c = [c] ∧ c ≠ '&' ∨
      ∃ reference ∈ references, ∃ rest, attributeChar c = reference.toList ∧
        reference.toList = '&' :: rest ∧ '&' ∉ rest := by
  by_cases hc : c ∈ "&\"<>".toList
  · right
    simp only [String.reduceToList, List.mem_cons, List.not_mem_nil, or_false] at hc
    rcases hc with rfl | rfl | rfl | rfl
    · exact ⟨"&amp;", by decide, "amp;".toList, rfl, rfl, by decide⟩
    · exact ⟨"&quot;", by decide, "quot;".toList, rfl, rfl, by decide⟩
    · exact ⟨"&lt;", by decide, "lt;".toList, rfl, rfl, by decide⟩
    · exact ⟨"&gt;", by decide, "gt;".toList, rfl, rfl, by decide⟩
  · left
    refine ⟨attributeChar_of_not_mem hc, ?_⟩
    rintro rfl
    exact hc (by decide)

/-- Where `&` stands in what is written for a character, the whole reference stands. -/
theorem eq_nil_of_attributeChar_eq {c : Char} {before after : List Char}
    (h : attributeChar c = before ++ '&' :: after) :
    before = [] ∧ ∃ reference ∈ references, reference.toList = '&' :: after := by
  rcases attributeChar_cases c with ⟨hself, hne⟩ | ⟨reference, hmem, rest, hchar, href, hrest⟩
  · have hamp : '&' ∈ attributeChar c := by simp [h]
    rw [hself, List.mem_singleton] at hamp
    exact absurd hamp.symm hne
  · rw [hchar, href] at h
    cases before with
    | nil => exact ⟨rfl, reference, hmem, href.trans h⟩
    | cons d before =>
      have hamp : '&' ∈ rest := by
        rw [(List.cons.inj h).2]
        simp
      exact absurd hamp hrest

/-- Each `&` in a value begins a reference. -/
theorem exists_reference_of_suffix {cs rest : List Char}
    (h : '&' :: rest <:+ cs.flatMap attributeChar) :
    ∃ reference ∈ references, reference.toList <+: '&' :: rest := by
  induction cs with
  | nil => simp at h
  | cons c cs ih =>
    obtain ⟨before, hbefore⟩ := h
    rw [List.flatMap_cons] at hbefore
    rcases List.append_eq_append_iff.1 hbefore with ⟨inner, hchar, hinner⟩ | ⟨behind, -, hbehind⟩
    · cases inner with
      | nil => exact ih ⟨[], hinner⟩
      | cons d inner =>
        -- the `&` stands in what is written for the first character
        obtain ⟨rfl, rfl⟩ := List.cons.inj hinner
        obtain ⟨-, reference, hmem, href⟩ := eq_nil_of_attributeChar_eq hchar
        exact ⟨reference, hmem, href ▸ List.prefix_append ('&' :: inner) _⟩
    · exact ih ⟨behind, hbehind.symm⟩

/-- A text that stands for another between the double quotes of an attribute. -/
structure Quotes (text value : String) : Prop where
  written : value.toList = attributeInPasses text.toList
  /-- Nothing in it ends the attribute or begins or ends a tag. -/
  marks : ∀ c ∈ value.toList, c ≠ '"' ∧ c ≠ '<' ∧ c ≠ '>'
  ampersands : ∀ rest, '&' :: rest <:+ value.toList →
    ∃ reference ∈ references, reference.toList <+: '&' :: rest
  read : decodeReferences value.toList = text.toList

theorem quotes_attributeValue (text : String) : Quotes text (attributeValue text) where
  written := by rw [toList_attributeValue, attributeInPasses_eq]
  marks _ hc := ne_of_mem_attributeValue hc
  ampersands rest hrest := by
    rw [toList_attributeValue] at hrest
    exact exists_reference_of_suffix hrest
  read := decodeReferences_attributeValue text

/-! ## The frame -/

namespace Page

/-- The page without the characters of its script. -/
def outside (config : Config) (assets : Assets) : String :=
  head config assets ++ "\n" ++ ("    " ++ foot)

/-- The pieces of the page between its double quotes, by turns outside of them and inside, where
four of the insides are left open. -/
def quotedPieces (stylesheet id bundle standalone : String) : List String := [
  "<!DOCTYPE html>\n<html lang=", "en",
  ">\n<head>\n    <meta charset=", "UTF-8",
  ">\n    <title>API Documentation</title>\n    <link rel=", "stylesheet",
  " type=", "text/css",
  " href=", stylesheet,
  " />\n</head>\n<body>\n    <div id=", id,
  "></div>\n    <script src=", bundle,
  " charset=", "UTF-8",
  "></script>\n    <script src=", standalone,
  " charset=", "UTF-8",
  "></script>\n    <script>\n    </script>\n</body>\n</html>\n"]

theorem outside_eq (config : Config) (assets : Assets) :
    outside config assets = "\"".intercalate (quotedPieces (attributeValue assets.stylesheet)
      (attributeValue config.mountPoint.elementId) (attributeValue assets.bundleScript)
      (attributeValue assets.standaloneScript)) := by
  have hopening : opening = "<!DOCTYPE html>\n<html lang=" ++ "\"" ++ "en" ++ "\"" ++
      ">\n<head>\n    <meta charset=" ++ "\"" ++ "UTF-8" ++ "\"" ++
      ">\n    <title>API Documentation</title>\n    <link rel=" ++ "\"" ++ "stylesheet" ++ "\"" ++
      " type=" ++ "\"" ++ "text/css" ++ "\"" ++ " href=" ++ "\"" := by
    unfold opening
    simp only [String.reduceAppend]
  have hbody (before : String) :
      before ++ "\" />\n" ++ "</head>\n" ++ "<body>\n" ++ "    <div id=\"" =
        before ++ "\"" ++ " />\n</head>\n<body>\n    <div id=" ++ "\"" := by
    simp only [String.append_assoc, String.reduceAppend]
  have hscript (before : String) :
      before ++ "\"></div>\n" ++ "    <script src=\"" =
        before ++ "\"" ++ "></div>\n    <script src=" ++ "\"" := by
    simp only [String.append_assoc, String.reduceAppend]
  have hnext (before : String) :
      before ++ "\" charset=\"UTF-8\"></script>\n" ++ "    <script src=\"" =
        before ++ "\"" ++ " charset=" ++ "\"" ++ "UTF-8" ++ "\"" ++
          "></script>\n    <script src=" ++ "\"" := by
    simp only [String.append_assoc, String.reduceAppend]
  have hend (before : String) :
      before ++ "\" charset=\"UTF-8\"></script>\n" ++ "    <script>" ++ "\n" ++
          ("    " ++ ("</script>\n" ++ "</body>\n" ++ "</html>\n")) =
        before ++ "\"" ++ " charset=" ++ "\"" ++ "UTF-8" ++ "\"" ++
          "></script>\n    <script>\n    </script>\n</body>\n</html>\n" := by
    simp only [String.append_assoc, String.reduceAppend]
  unfold opening at hopening
  unfold outside head foot quotedPieces
  rw [hopening, hbody, hscript, hnext, hend]
  simp only [String.intercalate_cons_cons, String.intercalate_singleton, String.append_assoc]

theorem not_mem_of_mem_quotedPieces {stylesheet id bundle standalone : String}
    (hstylesheet : '"' ∉ stylesheet.toList) (hid : '"' ∉ id.toList) (hbundle : '"' ∉ bundle.toList)
    (hstandalone : '"' ∉ standalone.toList) :
    ∀ piece ∈ quotedPieces stylesheet id bundle standalone, '"' ∉ piece.toList := by
  unfold quotedPieces
  repeat' refine List.forall_mem_cons.2 ⟨?_, ?_⟩
  any_goals decide
  all_goals assumption

theorem render_eq (config : Config) (assets : Assets) :
    render config assets =
      head config assets ++ "\n" ++ Script.render .initializer config ++ ("    " ++ foot) := by
  simp only [render, scriptText, String.append_assoc]

end Page

/-- A page's outside with the viewer's files at a place: cut at its double quotes it is the fixed
text, and what is open in it is written for the urls of the files and the id of the element. -/
def FramedAt (place : String) (config : Config) (outside : String) : Prop :=
  ∃ stylesheet id bundle standalone,
    Quotes (place ++ "/swagger-ui.css") stylesheet ∧
    Quotes config.mountPoint.elementId id ∧
    Quotes (place ++ "/swagger-ui-bundle.js") bundle ∧
    Quotes (place ++ "/swagger-ui-standalone-preset.js") standalone ∧
    outside = "\"".intercalate (Page.quotedPieces stylesheet id bundle standalone) ∧
    Text.pieces '"' outside = Page.quotedPieces stylesheet id bundle standalone

theorem framedAt_outside (config : Config) (assets : Assets) :
    FramedAt assets.base config (Page.outside config assets) := by
  have hfile (name : String) : Quotes (assets.base ++ ("/" ++ name))
      (attributeValue (assets.file name)) := by
    rw [Assets.file, String.append_assoc]
    exact quotes_attributeValue _
  refine ⟨_, _, _, _, hfile "swagger-ui.css", quotes_attributeValue _,
    hfile "swagger-ui-bundle.js", hfile "swagger-ui-standalone-preset.js",
    Page.outside_eq config assets, ?_⟩
  have hquote (text : String) : '"' ∉ (attributeValue text).toList :=
    fun hmem => (ne_of_mem_attributeValue hmem).1 rfl
  rw [Page.outside_eq]
  exact Text.pieces_intercalate_singleton (Page.not_mem_of_mem_quotedPieces (hquote _) (hquote _)
    (hquote _) (hquote _)) (List.cons_ne_nil _ _)

theorem render_append_slashes (config : Config) (base : String) {slashes : String}
    (h : ∀ c ∈ slashes.toList, c = '/') :
    Page.render config (.ofBase (base ++ slashes)) = Page.render config (.ofBase base) := by
  rw [Assets.ofBase, Text.trimEndOf_append h, ← Assets.ofBase]

/-- The place of a site's files is what its variable says, without the slashes at its end. -/
theorem assets_of_given {env : Lookup} {settings : Settings} {site : Site} {config : Config}
    {base : String} (hgiven : Settings.given env Settings.assetBaseVariable = some base)
    (hread : Settings.read env = .ok settings)
    (hsite : Site.ofSettings config settings = .ok site) :
    site.assets = .ofBase base := by
  obtain ⟨-, hassets, -⟩ := Site.ofSettings_eq_ok_iff.1 hsite
  have hbase := (Settings.read_eq_ok_iff.1 hread).assetBase
  rw [hgiven, Option.map_some, Option.getD_some] at hbase
  rw [hassets, Settings.assets, hbase, Assets.ofBase, Text.trimEndOf_trimEndOf, ← Assets.ofBase]

/-- **Outside its script a page is a fixed text with four values in double quotes**, which are read
as the urls of the viewer's files and the id of the element. The files are at the asset base
without the slashes at its end, so slashes put there change nothing, and neither does it matter
whether the base is given directly or by its variable. -/
theorem page_framedAt_base (config : Config) (base : String) :
    Page.render config (.ofBase base) =
      Page.head config (.ofBase base) ++ "\n" ++ Script.render .initializer config ++
        ("    " ++ Page.foot) ∧
    FramedAt (Text.trimEndOf '/' base) config (Page.outside config (.ofBase base)) ∧
    (∃ slashes, base = Text.trimEndOf '/' base ++ slashes ∧ ∀ c ∈ slashes.toList, c = '/') ∧
    ¬ ['/'] <:+ (Text.trimEndOf '/' base).toList ∧
    (∀ slashes, (∀ c ∈ slashes.toList, c = '/') →
      Page.render config (.ofBase (base ++ slashes)) = Page.render config (.ofBase base)) ∧
    ∀ env settings site, env Settings.assetBaseVariable = some base → Text.isBlank base = false →
      Settings.read env = .ok settings → Site.ofSettings config settings = .ok site →
      (site.document .page).body = Page.render config (.ofBase base) := by
  obtain ⟨hslashes, hend⟩ := Text.trimEndOf_eq_iff.1 (Eq.refl (Text.trimEndOf '/' base))
  refine ⟨Page.render_eq config _, framedAt_outside config (.ofBase base), hslashes, hend,
    fun slashes h => render_append_slashes config base h, ?_⟩
  intro env settings site hset hblank hread hsite
  have hgiven := Settings.given_eq_some_iff.2 ⟨hset, hblank⟩
  obtain ⟨hconfig, -⟩ := Site.ofSettings_eq_ok_iff.1 hsite
  rw [Site.document_page, hconfig, assets_of_given hgiven hread hsite]
  rfl

/-- Variables for an asset base that has a mark, a reference and slashes at its end. -/
def markedVariables : Lookup := fun variableName =>
  if variableName = Settings.assetBaseVariable then some "/a\"&lt;//" else none

/-- What they say. -/
def markedSettings : Settings where
  port := Settings.defaultPort
  sources := defaultSources
  mountPoint := MountPoint.defaultSelector
  credentials := .always
  presets := [.apis, .standalone]
  layout := .standalone
  deepLinking := false
  assetBase := "/a\"&lt;"
  allowedOrigins := []
  requestIdHeader := Settings.defaultRequestIdHeader

/-- The site they describe. -/
def markedSite : Site :=
  { Site.stock with
    assets := .ofBase "/a\"&lt;"
    page := Page.render .stock (.ofBase "/a\"&lt;")
    page_eq := rfl }

theorem page_framedAt_base_markedVariables :
    FramedAt "/a\"&lt;" .stock (Page.outside .stock (.ofBase "/a\"&lt;//")) ∧
    Page.render .stock (.ofBase ("/a\"&lt;//" ++ "///")) =
      Page.render .stock (.ofBase "/a\"&lt;//") ∧
    Settings.read markedVariables = .ok markedSettings ∧
    Site.ofSettings .stock markedSettings = .ok markedSite ∧
    (markedSite.document .page).body = Page.render .stock (.ofBase "/a\"&lt;//") := by
  obtain ⟨-, hframed, -, -, hslashes, hgiven⟩ := page_framedAt_base .stock "/a\"&lt;//"
  have hplace : Text.trimEndOf '/' "/a\"&lt;//" = "/a\"&lt;" := by decide
  have hread : Settings.read markedVariables = .ok markedSettings := by
    apply Settings.read_eq_ok_iff.2
    constructor <;> decide +kernel
  have hsite : Site.ofSettings .stock markedSettings = .ok markedSite :=
    Site.ofSettings_eq_ok_iff.2 ⟨rfl, by decide, by decide +kernel⟩
  have hall : ("///".toList.all fun c => c = '/') = true := by decide
  have hmore : ∀ c ∈ "///".toList, c = '/' := fun c hc =>
    of_decide_eq_true (List.all_eq_true.1 hall c hc)
  refine ⟨hplace ▸ hframed, hslashes "///" hmore, hread, hsite, ?_⟩
  exact hgiven markedVariables markedSettings markedSite rfl (by decide) hread hsite

end DocPortal.Viewer
