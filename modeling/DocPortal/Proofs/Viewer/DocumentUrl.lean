/-
The urls of a checked configuration. The check passes over blanks at the
ends of a url and keeps them: what it promises is a usable url between
those blanks, and the url itself is usable exactly when it has none
(`usable_iff_trim_eq_of_build`). Scripts and option bag write the url as
it was kept.
-/
import DocPortal.Json.Reader
import DocPortal.Proofs.Text.Blank
import DocPortal.Proofs.Viewer.Draft
import DocPortal.Proofs.Viewer.ScriptLiterals
import DocPortal.Viewer.OptionBag

namespace DocPortal.Viewer.Source

/-- A url that can be fetched as it stands: it has one of the starts, and no blank anywhere. -/
def IsUsable (url : String) : Prop :=
  (∃ start ∈ urlStarts, start.toList <+: url.toList) ∧ ∀ c ∈ url.toList, Text.isBlankChar c = false

instance (url : String) : Decidable (IsUsable url) := inferInstanceAs (Decidable (_ ∧ _))

/-- The check asks whether a url is usable between the blanks at its ends. -/
theorem isDocumentUrl_iff {url : String} : isDocumentUrl url = true ↔ IsUsable (Text.trim url) := by
  simp only [isDocumentUrl, IsUsable, Text.toList_trim, Bool.and_eq_true, Bool.not_eq_true',
    List.any_eq_false, List.any_eq_true, List.isPrefixOf_iff_prefix, Bool.not_eq_true]
  exact and_comm

theorem isUsable_trim_of_isSound {source : Source} (h : source.isSound = true) :
    IsUsable (Text.trim source.url) := by
  rw [isSound, Bool.and_eq_true] at h
  exact isDocumentUrl_iff.1 h.2

theorem trim_eq_of_isUsable {url : String} (h : IsUsable url) : Text.trim url = url :=
  (Text.isTrimmed_of_forall h.2).trim_eq

theorem isUsable_iff_trim_eq {source : Source} (h : source.isSound = true) :
    IsUsable source.url ↔ Text.trim source.url = source.url := by
  refine ⟨trim_eq_of_isUsable, fun htrim => ?_⟩
  rw [← htrim]
  exact isUsable_trim_of_isSound h

/-! ## Where a url is written -/

/-- Both scripts write a url as it was kept. -/
theorem url_mem_literalTexts {config : Config} {source : Source} (h : source ∈ config.sources)
    (variant : ScriptVariant) :
    ∃ texts, ScriptText.literalTexts (Script.render variant config) = some texts ∧
      source.url ∈ texts := by
  refine ⟨_, Script.literalTexts_render variant config, ?_⟩
  rw [Script.texts_segments]
  refine List.mem_append_left _ ?_
  cases variant with
  | initializer => exact List.mem_cons_of_mem _ (List.mem_flatMap.2 ⟨source, h, by simp⟩)
  | config => exact List.mem_append_left _ (List.mem_flatMap.2 ⟨source, h, by simp⟩)

/-- So does the option bag. -/
theorem source_mem_steps_optionBag {config : Config} {source : Source}
    (h : source ∈ config.sources) :
    ∃ steps, (Json.read config.optionBag.compact).bind OptionBag.steps? = some steps ∧
      .source source.name source.url ∈ steps := by
  rw [Json.read_compact, Option.bind_some, OptionBag.steps?_optionBag]
  refine ⟨_, rfl, List.mem_append_left _ (List.mem_cons_of_mem _ ?_)⟩
  exact List.mem_map.2 ⟨source, h, rfl⟩

/-- **What a check promises of urls**: after any steps on a fresh draft, the sources are kept as
the steps give them; every url of theirs is usable between the blanks at its ends, and as it is
kept and written it is usable if and only if it has no such blanks. -/
theorem usable_iff_trim_eq_of_build {steps : List Draft.Step} {config : Config}
    (h : (Draft.fresh.applyEach steps).build.result = .ok config) :
    config.sources = (Draft.fresh.applyEach steps).sources ∧
    ∀ source ∈ config.sources,
      IsUsable (Text.trim source.url) ∧
      (IsUsable source.url ↔ Text.trim source.url = source.url) ∧
      (∀ variant, ∃ texts, ScriptText.literalTexts (Script.render variant config) = some texts ∧
        source.url ∈ texts) ∧
      ∃ steps, (Json.read config.optionBag.compact).bind OptionBag.steps? = some steps ∧
        .source source.name source.url ∈ steps := by
  have hkept : config.toDraft = Draft.fresh.applyEach steps := Draft.toDraft_of_check h
  refine ⟨congrArg Draft.sources hkept, fun source hsource => ?_⟩
  have hsound := config.sources_sound source hsource
  exact ⟨isUsable_trim_of_isSound hsound, isUsable_iff_trim_eq hsound,
    url_mem_literalTexts hsource, source_mem_steps_optionBag hsource⟩

/-- A configuration whose second url has a blank in front, and no-break spaces behind. -/
def blankEndedConfig : Config :=
  { Config.stock with
    sources := [⟨"Plain", "https://h/x?a=b"⟩, ⟨"Blank", " /y\u00a0\u00a0"⟩]
    sources_ne_nil := by decide
    sources_sound := by decide }

/-- Steps that come to it, one of them without effect. -/
def blankEndedSteps : List Draft.Step :=
  [.source "Old" "/old", .sources [⟨"Plain", "https://h/x?a=b"⟩], .layout "none",
    .source "Blank" " /y\u00a0\u00a0"]

theorem usable_iff_trim_eq_of_blankEndedSteps :
    (Draft.fresh.applyEach blankEndedSteps).build.result = .ok blankEndedConfig ∧
    blankEndedConfig.sources = (Draft.fresh.applyEach blankEndedSteps).sources ∧
    IsUsable (Text.trim " /y\u00a0\u00a0") ∧
    (IsUsable " /y\u00a0\u00a0" ↔ Text.trim " /y\u00a0\u00a0" = " /y\u00a0\u00a0") := by
  have hbuild : (Draft.fresh.applyEach blankEndedSteps).build.result = .ok blankEndedConfig := rfl
  obtain ⟨hsources, hurls⟩ := usable_iff_trim_eq_of_build hbuild
  obtain ⟨htrim, hiff, -⟩ := hurls ⟨"Blank", " /y\u00a0\u00a0"⟩ (by decide)
  exact ⟨hbuild, hsources, htrim, hiff⟩

/-- **Not every url of a configuration is usable as it is kept.** -/
theorem exists_build_with_unusable_url :
    ∃ config, (Draft.fresh.applyEach [.source "A" " /a "]).build.result = .ok config ∧
      ∃ source ∈ config.sources, ¬ IsUsable source.url := by
  refine ⟨{ Config.stock with
    sources := [⟨"A", " /a "⟩]
    sources_ne_nil := by decide
    sources_sound := by decide }, rfl, ⟨"A", " /a "⟩, ?_, ?_⟩
  · exact List.mem_singleton.2 rfl
  · decide

end DocPortal.Viewer.Source
