/-
The last word on each field. A step whose text can be read changes one
field of a draft, and every other step changes nothing. So what a draft
comes to say of a field is what the last change of it says, except that a
source list also keeps the sources that were appended to it
(`changeEach_fresh`); and steps for different fields may be taken in any
order (`build_says_last_words`).
-/
import Mathlib.Data.List.DropRight
import Mathlib.Data.List.Nodup
import DocPortal.Proofs.Viewer.Draft
import DocPortal.Settings.Basic

namespace DocPortal

namespace Viewer.Draft

attribute [ext] Draft

/-! ## Changes -/

/-- The fields of a draft. -/
inductive Field where
  | sources
  | mountPoint
  | credentials
  | presets
  | layout
  | deepLinking
deriving DecidableEq, Repr

/-- A change to a draft: a step whose texts have been read. -/
inductive Change where
  /-- Appends a source. -/
  | source (source : Source)
  /-- Replaces the source list. -/
  | sources (sources : List Source)
  | mountPoint (selector : String)
  | credentials (policy : CredentialPolicy)
  | presets (presets : List Preset)
  | layout (layout : Layout)
  | deepLinking (enabled : Bool)
deriving DecidableEq, Repr

/-- The field that is changed. -/
def Change.field : Change → Field
  | .source _ | .sources _ => .sources
  | .mountPoint _ => .mountPoint
  | .credentials _ => .credentials
  | .presets _ => .presets
  | .layout _ => .layout
  | .deepLinking _ => .deepLinking

/-- The draft after a change. -/
def change (draft : Draft) : Change → Draft
  | .source source => { draft with sources := draft.sources ++ [source] }
  | .sources sources => { draft with sources }
  | .mountPoint selector => { draft with mountPoint := selector }
  | .credentials policy => { draft with credentials := policy }
  | .presets presets => { draft with presets }
  | .layout layout => { draft with layout }
  | .deepLinking enabled => { draft with deepLinking := enabled }

/-- The draft after every change in turn. -/
def changeEach (draft : Draft) (changes : List Change) : Draft :=
  changes.foldl change draft

/-- The field that a step is for. -/
def Step.field : Step → Field
  | .source _ _ | .sources _ => .sources
  | .mountPoint _ => .mountPoint
  | .credentials _ => .credentials
  | .presets _ => .presets
  | .layout _ => .layout
  | .deepLinking _ => .deepLinking

/-- The change that a step asks for, or why its text says nothing. -/
def Step.read : Step → Except ConfigError Change
  | .source name url => .ok (.source ⟨name, url⟩)
  | .sources listed => .ok (.sources listed)
  | .mountPoint selector => .ok (.mountPoint selector)
  | .credentials policy => (CredentialPolicy.parse policy).map .credentials
  | .presets names => (names.mapM Preset.parse).map .presets
  | .layout name => (Layout.parse name).map .layout
  | .deepLinking enabled => .ok (.deepLinking enabled)

/-- The changes that steps ask for, without the steps whose texts say nothing. -/
def changesOf (steps : List Step) : List Change :=
  steps.filterMap fun step => step.read.toOption

/-- A step does what the change does that it asks for. -/
theorem apply_eq (draft : Draft) (step : Step) : draft.apply step = step.read.map draft.change := by
  cases step with
  | source | sources | mountPoint | deepLinking => rfl
  | credentials policy => simp only [apply, Step.read]; cases CredentialPolicy.parse policy <;> rfl
  | presets presets => simp only [apply, Step.read]; cases presets.mapM Preset.parse <;> rfl
  | layout layout => simp only [apply, Step.read]; cases Layout.parse layout <;> rfl

theorem applyOrKeep_eq (draft : Draft) (step : Step) :
    draft.applyOrKeep step = step.read.toOption.elim draft draft.change := by
  rw [applyOrKeep, apply_eq]
  cases step.read <;> rfl

theorem applyEach_eq (draft : Draft) (steps : List Step) :
    draft.applyEach steps = draft.changeEach (changesOf steps) := by
  induction steps generalizing draft with
  | nil => rfl
  | cons step steps ih =>
    have hrest : draft.applyEach (step :: steps) = (draft.applyOrKeep step).applyEach steps := rfl
    rw [hrest, ih, applyOrKeep_eq, changesOf, changesOf, List.filterMap_cons]
    cases step.read.toOption <;> rfl

theorem changeEach_append (draft : Draft) (changes rest : List Change) :
    draft.changeEach (changes ++ rest) = (draft.changeEach changes).changeEach rest :=
  List.foldl_append

/-! ## Last words -/

/-- What a run of steps leaves of something that each step either sets or keeps is what the last
step set that set it. -/
theorem get_foldl {σ α β : Type} {step : σ → α → σ} {get : σ → β} {set? : α → Option β}
    (h : ∀ s a, get (step s a) = (set? a).getD (get s)) (s : σ) (as : List α) :
    get (as.foldl step s) = (as.filterMap set?).getLast?.getD (get s) := by
  induction as generalizing s with
  | nil => rfl
  | cons a as ih =>
    rw [List.foldl_cons, ih, h, List.filterMap_cons]
    cases set? a with
    | none => rfl
    | some b => rw [List.getLast?_cons, Option.getD_some, Option.getD_some]

namespace Change

def source? : Change → Option Source
  | .source added => some added
  | _ => none

def sources? : Change → Option (List Source)
  | .sources listed => some listed
  | _ => none

def selector? : Change → Option String
  | .mountPoint selector => some selector
  | _ => none

def policy? : Change → Option CredentialPolicy
  | .credentials policy => some policy
  | _ => none

def presets? : Change → Option (List Preset)
  | .presets listed => some listed
  | _ => none

def layout? : Change → Option Layout
  | .layout drawn => some drawn
  | _ => none

def deepLinking? : Change → Option Bool
  | .deepLinking enabled => some enabled
  | _ => none

end Change

/-- The source list that was set last, or none, and the sources that were appended after that. -/
def lastSources (changes : List Change) : List Source :=
  (changes.filterMap Change.sources?).getLast?.getD [] ++
    (changes.rtakeWhile fun change => change.sources?.isNone).filterMap Change.source?

/-- The draft that says of each field what was said of it last, or the default. -/
def lastWords (changes : List Change) : Draft where
  sources := lastSources changes
  mountPoint := (changes.filterMap Change.selector?).getLast?.getD MountPoint.defaultSelector
  credentials := (changes.filterMap Change.policy?).getLast?.getD .always
  presets := (changes.filterMap Change.presets?).getLast?.getD [.apis, .standalone]
  layout := (changes.filterMap Change.layout?).getLast?.getD .standalone
  deepLinking := (changes.filterMap Change.deepLinking?).getLast?.getD false

theorem sources_change (draft : Draft) (made : Change) :
    (draft.change made).sources = made.sources?.getD (draft.sources ++ made.source?.toList) := by
  cases made with
  | source | sources => rfl
  | mountPoint | credentials | presets | layout | deepLinking => exact (List.append_nil _).symm

theorem lastSources_concat (changes : List Change) (made : Change) :
    lastSources (changes ++ [made]) =
      made.sources?.getD (lastSources changes ++ made.source?.toList) := by
  rw [lastSources, lastSources, List.filterMap_append, List.rtakeWhile_concat]
  cases hsources : made.sources? with
  | some listed =>
    -- the list has been replaced, and nothing was appended after that
    simp [hsources]
  | none => cases hsource : made.source? <;> simp [hsources, hsource]

theorem sources_changeEach (changes : List Change) :
    (fresh.changeEach changes).sources = lastSources changes := by
  induction changes using List.reverseRecOn with
  | nil => rfl
  | append_singleton changes made ih =>
    have hlast : fresh.changeEach (changes ++ [made]) = (fresh.changeEach changes).change made :=
      changeEach_append fresh changes [made]
    rw [hlast, sources_change, ih, lastSources_concat]

/-- Changes to a fresh draft come to their last words. -/
theorem changeEach_fresh (changes : List Change) :
    fresh.changeEach changes = lastWords changes := by
  apply Draft.ext
  case sources => exact sources_changeEach changes
  all_goals
    refine get_foldl (fun draft change => ?_) fresh changes
    cases change <;> rfl

theorem applyEach_fresh (steps : List Step) :
    fresh.applyEach steps = lastWords (changesOf steps) := by
  rw [applyEach_eq, changeEach_fresh]

/-! ## Other orders -/

/-- Changes of different fields can change places. -/
theorem change_comm {a b : Change} (h : a.field ≠ b.field) (draft : Draft) :
    (draft.change a).change b = (draft.change b).change a := by
  cases a <;> cases b <;> first | rfl | exact absurd rfl h

theorem field_of_map {α : Type} {asked : Except ConfigError α} {make : α → Change} {field : Field}
    {change : Change} (hmake : ∀ a, (make a).field = field) (h : asked.map make = .ok change) :
    change.field = field := by
  cases asked with
  | error cause => cases h
  | ok a =>
    cases h
    exact hmake a

/-- A step changes no field but its own. -/
theorem field_of_read {step : Step} {change : Change} (h : step.read = .ok change) :
    change.field = step.field := by
  cases step with
  | source | sources | mountPoint | deepLinking =>
    cases h
    rfl
  | credentials | presets | layout => exact field_of_map (fun _ => rfl) h

theorem applyOrKeep_comm {a b : Step} (h : a.field ≠ b.field) (draft : Draft) :
    (draft.applyOrKeep a).applyOrKeep b = (draft.applyOrKeep b).applyOrKeep a := by
  simp only [applyOrKeep_eq]
  cases ha : a.read with
  | error cause => rfl
  | ok first =>
    cases hb : b.read with
    | error cause => rfl
    | ok second =>
      refine change_comm ?_ draft
      rwa [field_of_read ha, field_of_read hb]

theorem applyEach_append (draft : Draft) (steps rest : List Step) :
    draft.applyEach (steps ++ rest) = (draft.applyEach steps).applyEach rest :=
  List.foldl_append

theorem applyEach_swap (draft : Draft) (before after : List Step) {a b : Step}
    (h : a.field ≠ b.field) :
    draft.applyEach (before ++ a :: b :: after) = draft.applyEach (before ++ b :: a :: after) := by
  have htwo (one other : Step) (draft : Draft) : draft.applyEach (one :: other :: after) =
      ((draft.applyOrKeep one).applyOrKeep other).applyEach after := rfl
  rw [applyEach_append, applyEach_append, htwo, htwo, applyOrKeep_comm h]

/-- Whether a step says anything does not depend on the draft. -/
theorem read_eq_error_of_apply {draft : Draft} {step : Step} {cause : ConfigError}
    (h : draft.apply step = .error cause) : step.read = .error cause := by
  rw [apply_eq] at h
  cases hread : step.read with
  | error other =>
    rw [hread] at h
    cases h
    rfl
  | ok change =>
    rw [hread] at h
    cases h

theorem applyEach_insert (draft : Draft) (before after : List Step) {step : Step}
    {cause : ConfigError} (h : step.read = .error cause) :
    draft.applyEach (before ++ step :: after) = draft.applyEach (before ++ after) := by
  have hkept (draft : Draft) : draft.applyEach (step :: after) = draft.applyEach after := by
    have hstep : draft.applyOrKeep step = draft := by
      rw [applyOrKeep_eq, h]
      rfl
    exact congrArg (applyEach · after) hstep
  rw [applyEach_append, applyEach_append, hkept]

/-- Changes of one field each can be made in any order. -/
theorem changeEach_perm {changes other : List Change} (hfields : (changes.map Change.field).Nodup)
    (hperm : changes.Perm other) (draft : Draft) :
    draft.changeEach changes = draft.changeEach other := by
  refine hperm.foldl_eq' (fun a ha b hb draft => ?_) draft
  by_cases hfield : a.field = b.field
  · rw [List.inj_on_of_nodup_map hfields ha hb hfield]
  · exact change_comm hfield draft

end Viewer.Draft

namespace Settings

open Viewer Draft

/-- The changes that settings ask for, one for each field. -/
def changes (settings : Settings) : List Change := [
  .sources settings.sources, .mountPoint settings.mountPoint,
  .credentials settings.credentials, .presets settings.presets, .layout settings.layout,
  .deepLinking settings.deepLinking]

theorem changeEach_of_perm (settings : Settings) {made : List Change}
    (h : settings.changes.Perm made) : fresh.changeEach made = settings.draft := by
  have hfields : (settings.changes.map Change.field).Nodup := by
    simp [changes, Change.field]
  rw [← changeEach_perm hfields h]
  rfl

end Settings

namespace Viewer.Draft

/-- **Of each field a draft says what was said of it last.** Any steps on a fresh draft come to the
draft of their last words, so the check answers and reports the same for both. Two neighbouring
steps for different fields may change places, and a step whose text says nothing may be put in,
without a difference to the draft or to its check; and the changes that settings ask for come to
their draft in any order. -/
theorem build_says_last_words :
    (∀ steps, fresh.applyEach steps = lastWords (changesOf steps) ∧
      (fresh.applyEach steps).build = (lastWords (changesOf steps)).build) ∧
    (∀ before after a b, Step.field a ≠ Step.field b →
      fresh.applyEach (before ++ a :: b :: after) = fresh.applyEach (before ++ b :: a :: after) ∧
      (fresh.applyEach (before ++ a :: b :: after)).build =
        (fresh.applyEach (before ++ b :: a :: after)).build) ∧
    (∀ before after step cause, fresh.apply step = .error cause →
      fresh.applyEach (before ++ step :: after) = fresh.applyEach (before ++ after) ∧
      (fresh.applyEach (before ++ step :: after)).build =
        (fresh.applyEach (before ++ after)).build) ∧
    ∀ (settings : Settings) made, settings.changes.Perm made →
      fresh.changeEach made = settings.draft ∧
      (fresh.changeEach made).build = settings.draft.build := by
  refine ⟨fun steps => ?_, fun before after a b hfield => ?_,
    fun before after step cause hrefused => ?_, fun settings made hperm => ?_⟩
  · have hdraft := applyEach_fresh steps
    exact ⟨hdraft, congrArg build hdraft⟩
  · have hdraft := applyEach_swap fresh before after hfield
    exact ⟨hdraft, congrArg build hdraft⟩
  · have hdraft := applyEach_insert fresh before after (read_eq_error_of_apply hrefused)
    exact ⟨hdraft, congrArg build hdraft⟩
  · have hdraft := settings.changeEach_of_perm hperm
    exact ⟨hdraft, congrArg build hdraft⟩

/-- Steps that say something of most fields more than once, and twice nothing. -/
def restatedSteps : List Step := [
  .source "A" "/a", .credentials "always", .layout "BaseLayout", .sources [⟨"B", "/b"⟩],
  .source "C" "/b", .credentials " OMIT ", .presets ["apis", "fancy"], .mountPoint "#main",
  .source "D" "/d", .mountPoint "#docs"]

/-- The configuration that they come to. -/
def restatedConfig : Config :=
  { Config.stock with
    sources := [⟨"B", "/b"⟩, ⟨"C", "/b"⟩, ⟨"D", "/d"⟩]
    mountPoint := ⟨"#docs", by decide⟩
    credentials := .never
    layout := .base
    sources_ne_nil := by decide
    sources_sound := by decide
    layout_supported := by decide }

theorem build_says_last_words_restatedSteps :
    fresh.applyEach restatedSteps = restatedConfig.toDraft ∧
    (fresh.applyEach restatedSteps).build = ⟨[repetition "/b"], .ok restatedConfig⟩ ∧
    fresh.applyEach ([.source "A" "/a"] ++ .layout "BaseLayout" :: .sources [] :: []) =
      fresh.applyEach ([.source "A" "/a"] ++ .sources [] :: .layout "BaseLayout" :: []) ∧
    fresh.applyEach ([.source "A" "/a"] ++ .layout "baselayout" :: []) =
      fresh.applyEach ([.source "A" "/a"] ++ []) ∧
    ∀ settings : Settings,
      (fresh.changeEach settings.changes.reverse).build = settings.draft.build := by
  obtain ⟨hlast, hswap, hinsert, hsettings⟩ := build_says_last_words
  have hwords : lastWords (changesOf restatedSteps) = restatedConfig.toDraft := by decide +kernel
  obtain ⟨hdraft, hbuild⟩ := hlast restatedSteps
  have hswapped := hswap [.source "A" "/a"] [] (.layout "BaseLayout") (.sources []) (by decide)
  have hinserted := hinsert [.source "A" "/a"] [] (.layout "baselayout")
    (.unknownLayout "baselayout") rfl
  refine ⟨hdraft.trans hwords, ?_, hswapped.1, hinserted.1, ?_⟩
  · rw [hbuild, hwords]
    rfl
  · intro settings
    exact (hsettings settings _ (List.reverse_perm settings.changes).symm).2

end Viewer.Draft

end DocPortal
