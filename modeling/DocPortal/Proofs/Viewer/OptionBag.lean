/-
The option bag says all of a configuration. Every choice is read back from
its wire name, so the steps that the bag asks for on a fresh draft say what
the configuration says; and the text in which the bag is served is read as
those steps (`read_back_optionBag`).
-/
import DocPortal.Json.Reader
import DocPortal.Proofs.Site.Answer
import DocPortal.Proofs.Viewer.Draft
import DocPortal.Proofs.Viewer.Options
import DocPortal.Viewer.OptionBag

namespace DocPortal.Viewer

/-! ## Steps -/

namespace Draft

theorem applyAll_cons {draft next : Draft} {step : Step} {rest : List Step}
    (h : draft.apply step = .ok next) : draft.applyAll (step :: rest) = next.applyAll rest := by
  rw [applyAll, List.foldlM_cons, h]
  rfl

theorem applyAll_append {draft next : Draft} {steps rest : List Step}
    (h : draft.applyAll steps = .ok next) :
    draft.applyAll (steps ++ rest) = next.applyAll rest := by
  rw [applyAll, List.foldlM_append, ← applyAll, h]
  rfl

/-- Sources are appended one by one. -/
theorem applyAll_sources (draft : Draft) (sources : List Source) :
    draft.applyAll (sources.map fun source => .source source.name source.url) =
      .ok { draft with sources := draft.sources ++ sources } := by
  induction sources generalizing draft with
  | nil =>
    rw [List.append_nil]
    rfl
  | cons source sources ih =>
    have hstep : draft.apply (.source source.name source.url) =
        .ok { draft with sources := draft.sources ++ [source] } := rfl
    rw [List.map_cons, applyAll_cons hstep, ih, List.append_assoc, List.singleton_append]

/-- The choices of a configuration are told by their wire names. -/
theorem applyAll_choices (draft : Draft) (config : Config) :
    draft.applyAll
      [.credentials config.credentials.wireName, .presets (config.presets.map Preset.wireName),
        .layout config.layout.wireName, .deepLinking config.deepLinking] =
      .ok { draft with
        credentials := config.credentials
        presets := config.presets
        layout := config.layout
        deepLinking := config.deepLinking } := by
  simp only [applyAll, List.foldlM_cons, List.foldlM_nil, apply, CredentialPolicy.parse_wireName,
    Preset.mapM_parse_wireName, Layout.parse_wireName]
  rfl

end Draft

namespace OptionBag

/-- The steps that an option bag asks for say what its configuration says. -/
theorem applyAll_optionBag (config : Config) :
    Draft.fresh.applyAll
      (.mountPoint config.mountPoint.selector ::
        config.sources.map (fun source => .source source.name source.url) ++
        [.credentials config.credentials.wireName, .presets (config.presets.map Preset.wireName),
          .layout config.layout.wireName, .deepLinking config.deepLinking]) =
      .ok config.toDraft := by
  have hmount : Draft.fresh.apply (.mountPoint config.mountPoint.selector) =
      .ok { Draft.fresh with mountPoint := config.mountPoint.selector } := rfl
  rw [List.cons_append, Draft.applyAll_cons hmount,
    Draft.applyAll_append (Draft.applyAll_sources _ config.sources), Draft.applyAll_choices]
  rfl

/-- The request for the option bag, whatever its header fields are. -/
def request (headers : Http.Headers) : Http.Request where
  target := "/docs/swagger-config.json"
  headers

/-- A site serves the option bag of its configuration. -/
theorem body_answer_request (site : Site) (rule : Http.Cors.OriginRule) (fresh : Uuid)
    (now : String) (headers : Http.Headers) :
    (site.answer rule fresh now (request headers)).response.body =
      site.config.optionBag.compact := by
  have hdocument : Site.documentAt
      (String.ofList (Http.pathChars "/docs/swagger-config.json".toList)) = some .optionBag := by
    decide
  have hget : (request headers).method = .get := rfl
  rw [Site.body_answer_of_get site rule fresh now hget hdocument]
  rfl

/-- **The option bag is read back as its configuration.** Its text is one object with the six members
in their order; the steps that it asks for all say something and build the configuration again; and
it is what a site with the configuration serves. -/
theorem read_back_optionBag (config : Config) :
    (∃ members, Json.read config.optionBag.compact = some (.obj members) ∧
      members.map Prod.fst =
        ["dom_id", "urls", "requestCredentials", "presets", "layout", "deepLinking"] ∧
      ∃ steps draft, steps? (.obj members) = some steps ∧
        Draft.fresh.applyAll steps = .ok draft ∧ draft.build.result = .ok config) ∧
    ∀ (assets : Assets) (requestIdHeader : Http.HeaderName) (rule : Http.Cors.OriginRule)
      (fresh : Uuid) (now : String) (headers : Http.Headers),
      (Site.answer { config, assets, requestIdHeader } rule fresh now
        (request headers)).response.body = config.optionBag.compact := by
  refine ⟨⟨_, Json.read_compact config.optionBag, rfl, ?_⟩, fun _ _ _ _ _ _ => ?_⟩
  · exact ⟨_, config.toDraft, steps?_optionBag config, applyAll_optionBag config,
      Draft.check_toDraft config⟩
  · exact body_answer_request _ _ _ _ _

end OptionBag

end DocPortal.Viewer
