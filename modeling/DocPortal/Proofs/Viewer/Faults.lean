/-
What a draft is refused for. A check accepts the fit drafts and no other,
and changes nothing that they say; any other draft is refused for its first
fault, whatever further faults it has (`build_answers`). Both sides are said
here without the check: `Draft.IsFit` of the draft as a whole, and
`Draft.RefusedFor` of the one fault that goes before all others.
-/
import DocPortal.Proofs.Viewer.DocumentUrl

namespace DocPortal.Viewer

namespace Source

/-- A source with a name that shows, and a url that is usable between the blanks at its ends. -/
structure IsFit (source : Source) : Prop where
  named : ∃ c ∈ source.name.toList, Text.isBlankChar c = false
  url_ne_empty : Text.trim source.url ≠ ""
  url_usable : IsUsable (Text.trim source.url)

theorem IsUsable.ne_empty {url : String} (h : IsUsable url) : url ≠ "" := by
  rintro rfl
  revert h
  decide

theorem isSound_iff {source : Source} : source.isSound = true ↔ source.IsFit := by
  rw [isSound, Bool.and_eq_true, Bool.not_eq_true', Text.isBlank_eq_false_iff, isDocumentUrl_iff]
  constructor
  · rintro ⟨hname, hurl⟩
    exact ⟨hname, hurl.ne_empty, hurl⟩
  · intro h
    exact ⟨h.named, h.url_usable⟩

instance (source : Source) : Decidable source.IsFit := decidable_of_iff _ isSound_iff

/-! ## The first source that is not fit -/

/-- The source at an index is not fit, and every source before it is. -/
structure IsFirstUnfit (sources : List Source) (index : Nat) (source : Source) : Prop where
  at_index : sources[index]? = some source
  unfit : ¬ source.IsFit
  fit_before : ∀ earlier ∈ sources.take index, earlier.IsFit

theorem isFirstUnfit_cons_of_unfit {first source : Source} {rest : List Source} {index : Nat}
    (h : ¬ first.IsFit) :
    IsFirstUnfit (first :: rest) index source ↔ index = 0 ∧ source = first := by
  constructor
  · rintro ⟨hindex, -, hbefore⟩
    cases index with
    | zero => exact ⟨rfl, (Option.some.inj hindex).symm⟩
    | succ index => exact absurd (hbefore first (by simp)) h
  · rintro ⟨rfl, rfl⟩
    exact ⟨rfl, h, by simp⟩

theorem isFirstUnfit_cons_of_fit {first source : Source} {rest : List Source} {index : Nat}
    (h : first.IsFit) :
    IsFirstUnfit (first :: rest) index source ↔
      ∃ before, index = before + 1 ∧ IsFirstUnfit rest before source := by
  constructor
  · rintro ⟨hindex, hunfit, hbefore⟩
    cases index with
    | zero => exact absurd (Option.some.inj hindex ▸ h) hunfit
    | succ index =>
      refine ⟨index, rfl, hindex, hunfit, fun earlier hearlier => ?_⟩
      exact hbefore earlier (List.mem_cons_of_mem first hearlier)
  · rintro ⟨before, rfl, hindex, hunfit, hbefore⟩
    refine ⟨hindex, hunfit, fun earlier hearlier => ?_⟩
    rcases List.mem_cons.1 hearlier with rfl | hearlier
    · exact h
    · exact hbefore earlier hearlier

/-- The first fault of a list is the fault of its first source that is not fit. -/
theorem firstFault?_eq_some_iff {sources : List Source} {start : Nat} {fault : ConfigError} :
    firstFault? start sources = some fault ↔
      ∃ index source, IsFirstUnfit sources index source ∧
        source.fault? (start + index) = some fault := by
  induction sources generalizing start with
  | nil =>
    constructor
    · nofun
    · rintro ⟨index, source, hfirst, -⟩
      cases hfirst.at_index
  | cons first rest ih =>
    rw [firstFault?]
    by_cases hfit : first.IsFit
    · rw [fault?_eq_none_iff.2 (isSound_iff.2 hfit), Option.none_or, ih]
      simp only [isFirstUnfit_cons_of_fit hfit]
      constructor
      · rintro ⟨index, source, hfirst, hfault⟩
        exact ⟨index + 1, source, ⟨index, rfl, hfirst⟩, by rw [← hfault]; congr 1; omega⟩
      · rintro ⟨_, source, ⟨index, rfl, hfirst⟩, hfault⟩
        exact ⟨index, source, hfirst, by rw [← hfault]; congr 1; omega⟩
    · obtain ⟨own, hown⟩ : ∃ own, first.fault? start = some own := by
        rw [← Option.ne_none_iff_exists', Ne, fault?_eq_none_iff, isSound_iff]
        exact hfit
      simp only [isFirstUnfit_cons_of_unfit hfit, hown, Option.some_or]
      constructor
      · intro hfault
        exact ⟨0, first, ⟨rfl, rfl⟩, hown.trans hfault⟩
      · rintro ⟨_, _, ⟨rfl, rfl⟩, hfault⟩
        exact hown.symm.trans hfault

/-- A source that is not fit is faulted for its name, or else for its url. -/
theorem fault?_eq_some_iff {source : Source} {index : Nat} {fault : ConfigError}
    (h : ¬ source.IsFit) :
    source.fault? index = some fault ↔
      Text.isBlank source.name = true ∧ fault = .blankSourceName index ∨
      Text.isBlank source.name = false ∧ fault = .invalidSourceUrl source.name source.url := by
  rw [fault?]
  cases hname : Text.isBlank source.name with
  | true =>
    rw [if_pos rfl, Option.some.injEq]
    simp only [true_and, Bool.true_eq_false, false_and, or_false]
    exact eq_comm
  | false =>
    have hurl : isDocumentUrl source.url = false := by
      rw [← isSound_iff, isSound, hname, Bool.not_false, Bool.true_and, Bool.not_eq_true] at h
      exact h
    rw [if_neg Bool.false_ne_true, hurl, if_neg Bool.false_ne_true, Option.some.injEq]
    simp only [true_and, Bool.false_eq_true, false_and, false_or]
    exact eq_comm

end Source

namespace Draft

open Source (IsFirstUnfit)

/-- There is a source, and every source is fit. -/
def ListsFit (draft : Draft) : Prop :=
  draft.sources ≠ [] ∧ ∀ source ∈ draft.sources, source.IsFit

/-- A draft without a fault. -/
structure IsFit (draft : Draft) : Prop where
  sources_ne_nil : draft.sources ≠ []
  sources_fit : ∀ source ∈ draft.sources, source.IsFit
  presets_ne_nil : draft.presets ≠ []
  layout_supported : draft.layout = .standalone → Preset.standalone ∈ draft.presets
  mountPoint_accepted : ∃ mount, MountPoint.parse draft.mountPoint = .ok mount

/-- What a draft is refused for: the fault that goes before all others. -/
inductive RefusedFor (draft : Draft) : ConfigError → Prop where
  | noSources (hnil : draft.sources = []) : RefusedFor draft .noSources
  | blankName {index : Nat} {source : Source} (hfirst : IsFirstUnfit draft.sources index source)
    (hblank : ∀ c ∈ source.name.toList, Text.isBlankChar c = true) :
    RefusedFor draft (.blankSourceName index)
  | invalidUrl {index : Nat} {source : Source} (hfirst : IsFirstUnfit draft.sources index source)
    (hnamed : ∃ c ∈ source.name.toList, Text.isBlankChar c = false) :
    RefusedFor draft (.invalidSourceUrl source.name source.url)
  | noPresets (hlisted : draft.ListsFit) (hnil : draft.presets = []) : RefusedFor draft .noPresets
  | missingPreset (hlisted : draft.ListsFit) (hpresets : draft.presets ≠ [])
    (hlayout : draft.layout = .standalone) (hmissing : Preset.standalone ∉ draft.presets) :
    RefusedFor draft (.missingStandalonePreset "StandaloneLayout")
  | mountPoint (hlisted : draft.ListsFit) (hpresets : draft.presets ≠ [])
    (hlayout : draft.layout = .standalone → Preset.standalone ∈ draft.presets)
    (hmount : ∀ mount, MountPoint.parse draft.mountPoint ≠ .ok mount) :
    RefusedFor draft (.invalidMountPoint draft.mountPoint)

/-- The first fault of a draft, looked for in one place after the other. -/
def firstFault? (draft : Draft) : Option ConfigError :=
  (if draft.sources = [] then some .noSources else none).or <|
  (Source.firstFault? 0 draft.sources).or <|
  (if draft.presets = [] then some .noPresets else none).or <|
  (if ¬ draft.layout.SupportedBy draft.presets then
    some (.missingStandalonePreset draft.layout.wireName) else none).or <|
  match MountPoint.parse draft.mountPoint with
  | .ok _ => none
  | .error fault => some fault

theorem check_eq_error_iff {draft : Draft} {fault : ConfigError} :
    draft.check = .error fault ↔ draft.firstFault? = some fault := by
  rw [check, firstFault?]
  split
  · next hnil => simp
  · next hne =>
    split
    · next hfault => simp [hfault]
    · next hnone =>
      split
      · next hnil => simp [hnone]
      · next hpresets =>
        split
        · next hlayout =>
          split
          · next hmount => simp [hnone, hmount]
          · next hmount => simp [hnone, hmount]
        · next hlayout => simp [hnone]

theorem listsFit_iff {draft : Draft} :
    draft.ListsFit ↔ draft.sources ≠ [] ∧ Source.firstFault? 0 draft.sources = none := by
  simp only [ListsFit, Source.firstFault?_eq_none_iff, Source.isSound_iff]

/-! ## The first fault -/

theorem refusedFor_of_sources {draft : Draft} {fault : ConfigError}
    (h : Source.firstFault? 0 draft.sources = some fault) : draft.RefusedFor fault := by
  obtain ⟨index, source, hfirst, hfault⟩ := Source.firstFault?_eq_some_iff.1 h
  rw [Nat.zero_add, Source.fault?_eq_some_iff hfirst.unfit] at hfault
  rcases hfault with ⟨hblank, rfl⟩ | ⟨hnamed, rfl⟩
  · exact .blankName hfirst (List.all_eq_true.1 hblank)
  · exact .invalidUrl hfirst (Text.isBlank_eq_false_iff.1 hnamed)

theorem firstFault?_of_isFirstUnfit {sources : List Source} {index : Nat} {source : Source}
    {fault : ConfigError} (hfirst : IsFirstUnfit sources index source)
    (hfault : source.fault? index = some fault) :
    sources ≠ [] ∧ Source.firstFault? 0 sources = some fault := by
  constructor
  · rintro rfl
    cases hfirst.at_index
  · exact Source.firstFault?_eq_some_iff.2 ⟨index, source, hfirst, by rwa [Nat.zero_add]⟩

theorem parse_mountPoint_eq_error_iff {selector : String} {fault : ConfigError} :
    MountPoint.parse selector = .error fault ↔
      (∀ mount, MountPoint.parse selector ≠ .ok mount) ∧ fault = .invalidMountPoint selector := by
  by_cases hid : isIdSelector selector.toList = true
  · have hok : MountPoint.parse selector = .ok ⟨selector, hid⟩ := dif_pos hid
    rw [hok]
    exact ⟨nofun, fun h => absurd rfl (h.1 _)⟩
  · have herror : MountPoint.parse selector = .error (.invalidMountPoint selector) := dif_neg hid
    rw [herror, Except.error.injEq]
    exact ⟨fun h => ⟨nofun, h.symm⟩, fun h => h.2.symm⟩

theorem firstFault?_eq_some_iff {draft : Draft} {fault : ConfigError} :
    draft.firstFault? = some fault ↔ draft.RefusedFor fault := by
  simp only [firstFault?, Option.or_eq_some_iff, Option.ite_none_right_eq_some,
    Option.some.injEq, ite_eq_right_iff, reduceCtorEq, imp_false, not_not]
  constructor
  · rintro (⟨hnil, rfl⟩ | ⟨hne, hfault | ⟨hnone, hlater⟩⟩)
    · exact .noSources hnil
    · exact refusedFor_of_sources hfault
    · have hlisted : draft.ListsFit := listsFit_iff.2 ⟨hne, hnone⟩
      rcases hlater with ⟨hnil, rfl⟩ | ⟨hpresets, ⟨hlayout, rfl⟩ | ⟨hlayout, hmount⟩⟩
      · exact .noPresets hlisted hnil
      · obtain ⟨hstandalone, hmissing⟩ := Classical.not_imp.1 hlayout
        rw [hstandalone]
        exact .missingPreset hlisted hpresets hstandalone hmissing
      · split at hmount
        next => cases hmount
        next hparse =>
          cases hmount
          obtain ⟨hrefused, rfl⟩ := parse_mountPoint_eq_error_iff.1 hparse
          exact .mountPoint hlisted hpresets hlayout hrefused
  · intro h
    cases h with
    | noSources hnil => exact .inl ⟨hnil, rfl⟩
    | blankName hfirst hblank =>
      obtain ⟨hne, hfault⟩ := firstFault?_of_isFirstUnfit hfirst <|
        (Source.fault?_eq_some_iff hfirst.unfit).2 (.inl ⟨List.all_eq_true.2 hblank, rfl⟩)
      exact .inr ⟨hne, .inl hfault⟩
    | invalidUrl hfirst hnamed =>
      obtain ⟨hne, hfault⟩ := firstFault?_of_isFirstUnfit hfirst <|
        (Source.fault?_eq_some_iff hfirst.unfit).2
          (.inr ⟨Text.isBlank_eq_false_iff.2 hnamed, rfl⟩)
      exact .inr ⟨hne, .inl hfault⟩
    | noPresets hlisted hnil =>
      obtain ⟨hne, hnone⟩ := listsFit_iff.1 hlisted
      exact .inr ⟨hne, .inr ⟨hnone, .inl ⟨hnil, rfl⟩⟩⟩
    | missingPreset hlisted hpresets hlayout hmissing =>
      obtain ⟨hne, hnone⟩ := listsFit_iff.1 hlisted
      refine .inr ⟨hne, .inr ⟨hnone, .inr ⟨hpresets, .inl ⟨fun h => hmissing (h hlayout), ?_⟩⟩⟩⟩
      rw [hlayout]
      rfl
    | mountPoint hlisted hpresets hlayout hmount =>
      obtain ⟨hne, hnone⟩ := listsFit_iff.1 hlisted
      refine .inr ⟨hne, .inr ⟨hnone, .inr ⟨hpresets, .inr ⟨hlayout, ?_⟩⟩⟩⟩
      rw [parse_mountPoint_eq_error_iff.2 ⟨hmount, rfl⟩]

/-! ## What a check answers -/

theorem isFit_toDraft (config : Config) : config.toDraft.IsFit where
  sources_ne_nil := config.sources_ne_nil
  sources_fit source hsource := Source.isSound_iff.1 (config.sources_sound source hsource)
  presets_ne_nil := config.presets_ne_nil
  layout_supported := config.layout_supported
  mountPoint_accepted := ⟨config.mountPoint, config.mountPoint.parse_selector⟩

theorem isFit_of_check {draft : Draft} {config : Config} (h : draft.check = .ok config) :
    draft.IsFit :=
  toDraft_of_check h ▸ isFit_toDraft config

theorem exists_check_of_isFit {draft : Draft} (h : draft.IsFit) :
    ∃ config, draft.check = .ok config := by
  obtain ⟨mount, hmount⟩ := h.mountPoint_accepted
  exact exists_check_eq_ok h.sources_ne_nil
    (fun source hsource => Source.isSound_iff.2 (h.sources_fit source hsource))
    h.presets_ne_nil h.layout_supported hmount

/-- **A check accepts the fit drafts, and names the first fault of every other**; what it answers
with says what the draft says. -/
theorem build_answers (draft : Draft) :
    ((∃ config, draft.build.result = .ok config) ↔ draft.IsFit) ∧
    (∀ config, draft.build.result = .ok config ↔ draft.IsFit ∧ config.toDraft = draft) ∧
    ∀ fault, draft.build.result = .error fault ↔ draft.RefusedFor fault := by
  refine ⟨⟨?_, exists_check_of_isFit⟩, fun config => ⟨fun h => ?_, fun h => ?_⟩, fun fault => ?_⟩
  · rintro ⟨config, hconfig⟩
    exact isFit_of_check hconfig
  · exact ⟨isFit_of_check h, toDraft_of_check h⟩
  · exact check_eq_ok_iff.2 h.2
  · exact check_eq_error_iff.trans firstFault?_eq_some_iff

example : ({ Draft.fresh with
    sources := [⟨"A", " /a "⟩, ⟨"\u00a0", "ftp://b"⟩, ⟨"", "/c"⟩]
    mountPoint := "main"
    presets := [] } : Draft).build.result = .error (.blankSourceName 1) := rfl

end Draft

end DocPortal.Viewer
