/-
Urls that are listed again. While it looks for a faulty source a check
remembers the urls that it has passed, and it reports a source whose url it
remembers. So it reports a url once for each time it is listed after the
first, up to the first faulty source, and whatever the check then comes to
(`events_build`). The check is also shown to be such a walk, which goes over
the sources once and both reports and stops on its way (`build_eq_walk`).
-/
import DocPortal.Proofs.Viewer.Faults

namespace DocPortal.Viewer

open Log (Event Report)

namespace Source

/-- The sources, in order, whose url some source before them has. -/
def listedAgain (sources : List Source) : List Source :=
  (sources.zipIdx.filter fun (source, index) => source.url ∈ (sources.take index).map url).map
    Prod.fst

theorem mem_map_url_concat_iff {before : List Source} {seen : List String}
    (hseen : ∀ text, text ∈ seen ↔ text ∈ before.map url) (source : Source) (text : String) :
    text ∈ source.url :: seen ↔ text ∈ (before ++ [source]).map url := by
  rw [List.map_append, List.mem_append, List.mem_cons, hseen, or_comm, List.map_singleton,
    List.mem_singleton]

/-- Of a list whose first part has been passed, the urls that are listed again are those that some
source before them has, passed or not: what is remembered are the urls of the first part. -/
theorem repeatedUrls_eq {before sources : List Source} {seen : List String}
    (hseen : ∀ text, text ∈ seen ↔ text ∈ before.map url) :
    repeatedUrls seen sources =
      ((sources.zipIdx before.length).filter fun (source, index) =>
        source.url ∈ ((before ++ sources).take index).map url).map fun p => p.1.url := by
  induction sources generalizing before seen with
  | nil => rfl
  | cons source rest ih =>
    have hlength : (before ++ [source]).length = before.length + 1 := List.length_append
    have hwhole : before ++ [source] ++ rest = before ++ source :: rest := by simp
    have hlisted : source.url ∈ ((before ++ source :: rest).take before.length).map url ↔
        source.url ∈ seen := by
      rw [List.take_left, hseen]
    rw [repeatedUrls, List.zipIdx_cons, List.filter_cons]
    by_cases hmem : source.url ∈ seen
    · -- the source is passed, and nothing new is to be remembered
      have hnext : ∀ text, text ∈ seen ↔ text ∈ (before ++ [source]).map url := by
        intro text
        rw [← mem_map_url_concat_iff hseen, List.mem_cons]
        exact ⟨.inr, fun h => h.elim (fun heq => heq ▸ hmem) id⟩
      rw [if_pos hmem, ih hnext, hlength, hwhole]
      simp only [hlisted, hmem, decide_true, if_true, List.map_cons]
    · rw [if_neg hmem, ih (mem_map_url_concat_iff hseen source), hlength, hwhole]
      simp only [hlisted, hmem, decide_false, Bool.false_eq_true, if_false]

theorem repeatedUrls_nil (sources : List Source) :
    repeatedUrls [] sources = (listedAgain sources).map url := by
  have hnone : ∀ text, text ∈ ([] : List String) ↔ text ∈ ([] : List Source).map url := by simp
  rw [repeatedUrls_eq hnone, listedAgain, List.map_map]
  rfl

/-! ## Reports and faults in one walk -/

/-- Sources from a position on are looked at one after the other: the first that is faulty stops
the walk, and one whose url is remembered is reported. -/
def walk (index : Nat) (seen : List String) : List Source → Report ConfigError Unit
  | [] => .pure ()
  | source :: rest =>
    match source.fault? index with
    | some fault => .fail fault
    | none =>
      if source.url ∈ seen then do
        .note (Draft.repetition source.url)
        walk (index + 1) seen rest
      else walk (index + 1) (source.url :: seen) rest

/-- A walk stops for the first fault, and reports the urls listed again before it. -/
theorem walk_eq (index : Nat) (seen : List String) (sources : List Source) :
    walk index seen sources =
      ⟨(repeatedUrls seen (sources.takeWhile isSound)).map Draft.repetition,
        match firstFault? index sources with
        | some fault => .error fault
        | none => .ok ()⟩ := by
  induction sources generalizing index seen with
  | nil => rfl
  | cons source rest ih =>
    rw [walk, firstFault?]
    cases hfault : source.fault? index with
    | some fault =>
      have hunsound : ¬ source.isSound = true := by
        intro hsound
        rw [fault?_eq_none_iff.2 hsound] at hfault
        cases hfault
      rw [List.takeWhile_cons_of_neg hunsound]
      rfl
    | none =>
      rw [List.takeWhile_cons_of_pos (fault?_eq_none_iff.1 hfault), repeatedUrls, Option.none_or]
      dsimp only
      by_cases hmem : source.url ∈ seen
      · rw [if_pos hmem, if_pos hmem, ih]
        rfl
      · rw [if_neg hmem, if_neg hmem, ih]

end Source

namespace Draft

/-- A check walks over the sources first, and is over where the walk stops. -/
theorem build_eq_walk (draft : Draft) :
    draft.build = (do
      Source.walk 0 [] draft.sources
      .ofExcept draft.check) := by
  rw [build, repetitions, Source.walk_eq]
  cases hfault : Source.firstFault? 0 draft.sources with
  | some fault =>
    have hne : draft.sources ≠ [] := by
      intro hnil
      rw [hnil] at hfault
      cases hfault
    have hcheck : draft.check = .error fault :=
      check_eq_error_iff.2 (by simp [firstFault?, hne, hfault])
    rw [hcheck]
    rfl
  | none =>
    rw [Report.bind_ok rfl, Report.ofExcept, List.append_nil]

/-! ## What a check reports -/

/-- The sources before the first that is not fit, or all of them if every source is. -/
def fitStart (draft : Draft) : List Source :=
  draft.sources.take (draft.sources.findIdx fun source => ¬ source.IsFit)

theorem takeWhile_isSound_eq (draft : Draft) :
    draft.sources.takeWhile Source.isSound = draft.fitStart := by
  have hsound : (fun source : Source => decide ¬ source.IsFit) = fun source => !source.isSound := by
    funext source
    rw [decide_not, Bool.not_inj_iff, Bool.eq_iff_iff, decide_eq_true_iff, Source.isSound_iff]
  rw [fitStart, hsound, List.takeWhile_eq_take_findIdx_not]

/-- **A check reports each url once for every time it is listed again** before the first source
that is not fit, and a configuration still lists them all. -/
theorem events_build (draft : Draft) :
    draft.build.events =
      (Source.listedAgain draft.fitStart).map (fun source =>
        ⟨.warn, "docs_gateway::config",
          "Documentation url " ++ source.url ++ " is listed more than once"⟩) ∧
    ∀ config, draft.build.result = .ok config → config.sources = draft.sources := by
  constructor
  · rw [build, repetitions, takeWhile_isSound_eq, Source.repeatedUrls_nil, List.map_map]
    rfl
  · intro config hconfig
    exact congrArg sources (toDraft_of_check hconfig)

/-- A draft that lists one url three times, and once more with a blank in front. -/
def relistingDraft : Draft :=
  { Draft.fresh with
    sources := [⟨"A", "/x"⟩, ⟨"B", "/y"⟩, ⟨"C", "/x"⟩, ⟨"D", " /x"⟩, ⟨"E", "/x"⟩] }

/-- The draft with a faulty source in front of its last. -/
def brokenDraft : Draft :=
  { Draft.fresh with
    sources := [⟨"A", "/x"⟩, ⟨"B", "/y"⟩, ⟨"C", "/x"⟩, ⟨"D", "x"⟩, ⟨"E", "/x"⟩] }

theorem events_build_relistingDraft :
    (∃ config, relistingDraft.build.result = .ok config ∧
      config.sources = relistingDraft.sources) ∧
    relistingDraft.build.events.map Event.message =
      ["Documentation url /x is listed more than once",
        "Documentation url /x is listed more than once"] ∧
    brokenDraft.build.result = .error (.invalidSourceUrl "D" "x") ∧
    brokenDraft.build.events.map Event.message =
      ["Documentation url /x is listed more than once"] := by
  obtain ⟨config, hconfig⟩ : ∃ config, relistingDraft.build.result = .ok config := ⟨_, rfl⟩
  obtain ⟨hevents, hsources⟩ := events_build relistingDraft
  refine ⟨⟨config, hconfig, hsources config hconfig⟩, ?_, rfl, ?_⟩
  · rw [hevents]
    decide +kernel
  · rw [(events_build brokenDraft).1]
    decide +kernel

end Draft

end DocPortal.Viewer
