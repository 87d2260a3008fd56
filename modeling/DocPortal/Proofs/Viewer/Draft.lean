/-
Drafts and configurations. A check changes nothing that was said: it
answers with a configuration exactly when the draft says what that
configuration says (`check_eq_ok_iff`), so the configurations are all and
only what checks answer with.
-/
import DocPortal.Viewer.Draft

namespace DocPortal.Viewer

/-- The draft that says what a configuration says. -/
def Config.toDraft (config : Config) : Draft where
  sources := config.sources
  mountPoint := config.mountPoint.selector
  credentials := config.credentials
  presets := config.presets
  layout := config.layout
  deepLinking := config.deepLinking

/-- A configuration is told by the six things it says. -/
theorem Config.toDraft_inj {a b : Config} (h : a.toDraft = b.toDraft) : a = b := by
  obtain ⟨sources, ⟨selector, _⟩, credentials, presets, layout, deepLinking, _, _, _, _⟩ := a
  obtain ⟨sources', ⟨selector', _⟩, credentials', presets', layout', deepLinking', _, _, _, _⟩ := b
  simp only [toDraft, Draft.mk.injEq] at h
  obtain ⟨rfl, rfl, rfl, rfl, rfl, rfl⟩ := h
  rfl

theorem MountPoint.parse_selector (mount : MountPoint) : parse mount.selector = .ok mount := by
  rw [parse, dif_pos mount.isId]

theorem MountPoint.selector_of_parse {selector : String} {mount : MountPoint}
    (h : parse selector = .ok mount) : mount.selector = selector := by
  unfold parse at h
  split at h
  · cases h; rfl
  · cases h

namespace Draft

theorem toDraft_of_check {draft : Draft} {config : Config} (h : draft.check = .ok config) :
    config.toDraft = draft := by
  unfold check at h
  split at h
  · cases h
  · split at h
    · cases h
    · split at h
      · cases h
      · split at h
        · split at h
          · cases h
          · next mount hmount =>
            cases h
            simp only [Config.toDraft, MountPoint.selector_of_parse hmount]
        · cases h

/-- A draft without a fault is answered with a configuration. -/
theorem exists_check_eq_ok {draft : Draft} {mount : MountPoint} (hne : draft.sources ≠ [])
    (hsound : ∀ source ∈ draft.sources, source.isSound = true) (hpresets : draft.presets ≠ [])
    (hlayout : draft.layout.SupportedBy draft.presets)
    (hmount : MountPoint.parse draft.mountPoint = .ok mount) :
    ∃ config, draft.check = .ok config := by
  have hnone : Source.firstFault? 0 draft.sources = none := Source.firstFault?_eq_none_iff.2 hsound
  unfold check
  rw [dif_neg hne]
  split
  · next fault hfault => rw [hnone] at hfault; cases hfault
  · rw [dif_neg hpresets, dif_pos hlayout]
    split
    · next fault hfault => rw [hmount] at hfault; cases hfault
    · exact ⟨_, rfl⟩

theorem check_toDraft (config : Config) : config.toDraft.check = .ok config := by
  obtain ⟨built, hbuilt⟩ : ∃ built, config.toDraft.check = .ok built :=
    exists_check_eq_ok config.sources_ne_nil config.sources_sound config.presets_ne_nil
      config.layout_supported config.mountPoint.parse_selector
  rw [hbuilt, Config.toDraft_inj (toDraft_of_check hbuilt)]

/-- A check answers with a configuration for the one draft that says the same. -/
theorem check_eq_ok_iff {draft : Draft} {config : Config} :
    draft.check = .ok config ↔ config.toDraft = draft :=
  ⟨toDraft_of_check, fun h => h ▸ check_toDraft config⟩

end Draft

end DocPortal.Viewer
