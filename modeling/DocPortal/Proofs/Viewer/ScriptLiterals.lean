/-
A script loses nothing of its configuration: its literals are read back as
the configuration's texts in a fixed order, and its frame tells the rest,
so that equal scripts come from equal configurations
(`literalTexts_render_and_inj`).
-/
import DocPortal.Proofs.Viewer.Draft
import DocPortal.Proofs.Viewer.ScriptFrame

namespace DocPortal.Viewer.Script

open ScriptText

/-! ## Reading the literals -/

/-- The contents of a literal are read as the text it was made from. -/
theorem readContents_literalBody (text : String) : readContents (literalBody text) = some text := by
  have hread := readString_literal text []
  rw [readContents, hread]
  simp

theorem mapM_readContents (texts : List String) :
    (texts.map literalBody).mapM readContents = some texts := by
  induction texts with
  | nil => rfl
  | cons text texts ih => simp [readContents_literalBody, ih]

theorem literalTexts_render (variant : ScriptVariant) (config : Config) :
    literalTexts (render variant config) = some (texts (segments variant config)) := by
  rw [literalTexts, literalContents_render, mapM_readContents]

@[simp]
theorem texts_nil : texts [] = [] := rfl

theorem texts_cons (segment : Segment) (segments : List Segment) :
    texts (segment :: segments) = segment.texts ++ texts segments := rfl

theorem texts_append (a b : List Segment) : texts (a ++ b) = texts a ++ texts b := by
  simp [texts]

theorem nil_intercalate {α : Type} (items : List (List α)) :
    ([] : List α).intercalate items = items.flatten := by
  induction items with
  | nil => rfl
  | cons item items ih =>
    cases items with
    | nil => simp
    | cons next items => rw [List.intercalate_cons_cons, ih]; simp

/-- The texts of a list field are those of its items. -/
theorem texts_listSegments {name : String} (items : List (List Segment))
    (hname : isCode name = true) :
    texts (listSegments name items hname) = items.flatMap texts := by
  have hitems : texts ([Segment.code ",\n"].intercalate (items.map (.code itemIndent :: ·))) =
      items.flatMap texts := by
    rw [texts, flatMap_intercalate, List.map_map, List.flatMap_def]
    exact nil_intercalate _
  simp [listSegments, texts_append, texts_cons, Segment.texts, hitems]

theorem texts_presetsSegments (config : Config) : texts (presetsSegments config) = [] := by
  rw [presetsSegments, texts_listSegments]
  simp [presetSegments, texts, Segment.texts]

/-- The texts of the sources, each source's as its item orders them. -/
theorem texts_sourcesSegments (variant : ScriptVariant) (config : Config) :
    texts (sourcesSegments variant config) =
      config.sources.flatMap (fun source => texts (sourceSegments variant source)) := by
  rw [sourcesSegments, texts_listSegments, List.flatMap_map]

/-- The texts of a script in their order. The scripts order the sources and the mount point
differently, and the two texts of a source. -/
theorem texts_segments (variant : ScriptVariant) (config : Config) :
    texts (segments variant config) =
      (match variant with
        | .initializer => config.mountPoint.selector ::
            config.sources.flatMap fun source => [source.name, source.url]
        | .config => (config.sources.flatMap fun source => [source.url, source.name]) ++
            [config.mountPoint.selector]) ++
      [config.credentials.wireName, config.layout.wireName] := by
  have hdeep : texts (deepLinkingSegments variant config) = [] := by
    unfold deepLinkingSegments
    split <;> rfl
  have hhook : texts (hookSegments variant config) = [config.credentials.wireName] := rfl
  have hlayout : texts (layoutSegments config) = [config.layout.wireName] := rfl
  have hmount : texts (mountPointSegments config) = [config.mountPoint.selector] := rfl
  unfold segments
  simp only [texts_cons, texts_append, hdeep, hhook, hlayout, texts_presetsSegments]
  cases variant with
  | initializer =>
    have hpair (source : Source) :
        texts (sourceSegments .initializer source) = [source.name, source.url] := rfl
    simp [openingSegments, texts_append, hmount, texts_sourcesSegments, hpair, Segment.texts]
  | config =>
    have hpair (source : Source) :
        texts (sourceSegments .config source) = [source.url, source.name] := rfl
    simp [openingSegments, texts_append, hmount, texts_sourcesSegments, hpair, Segment.texts]

/-! ## Equal scripts -/

theorem intercalate_map_ne_nil {α β : Type} {f : α → List β} (hne : ∀ a, f a ≠ [])
    (sep : List β) (x : α) (xs : List α) : sep.intercalate ((x :: xs).map f) ≠ [] := by
  intro h
  cases xs with
  | nil => rw [List.map_cons, List.map_nil, List.intercalate_singleton] at h; exact hne x h
  | cons y xs =>
    rw [List.map_cons, List.map_cons, List.intercalate_cons_cons, List.append_assoc] at h
    exact hne x (List.append_eq_nil_iff.1 h).1

/-- Items that differ before they end are told apart in a list, whatever stands between two. -/
theorem intercalate_map_inj {α β : Type} {f : α → List β} {sep : List β} {xs ys : List α}
    (hcode : ∀ a b r s, f a ++ r = f b ++ s → a = b) (hne : ∀ a, f a ≠ [])
    (h : sep.intercalate (xs.map f) = sep.intercalate (ys.map f)) : xs = ys := by
  induction xs generalizing ys with
  | nil =>
    cases ys with
    | nil => rfl
    | cons y ys => exact absurd h.symm (intercalate_map_ne_nil hne sep y ys)
  | cons x xs ih =>
    cases ys with
    | nil => exact absurd h (intercalate_map_ne_nil hne sep x xs)
    | cons y ys =>
      cases xs with
      | nil =>
        cases ys with
        | nil => rw [hcode x y [] [] (by simpa using h)]
        | cons z ys =>
          simp only [List.map_cons, List.map_nil, List.intercalate_singleton,
            List.intercalate_cons_cons, List.append_assoc] at h
          have hpadded := (List.append_nil (f x)).trans h
          obtain rfl := hcode x y [] _ hpadded
          have hrest := List.append_cancel_left hpadded
          exact absurd (List.append_eq_nil_iff.1 hrest.symm).2 (intercalate_map_ne_nil hne sep z ys)
      | cons z xs =>
        cases ys with
        | nil =>
          simp only [List.map_cons, List.map_nil, List.intercalate_singleton,
            List.intercalate_cons_cons, List.append_assoc] at h
          have hpadded := h.trans (List.append_nil (f y)).symm
          obtain rfl := hcode x y _ [] hpadded
          have hrest := List.append_cancel_left hpadded
          exact absurd (List.append_eq_nil_iff.1 hrest).2 (intercalate_map_ne_nil hne sep z xs)
        | cons w ys =>
          simp only [List.map_cons, List.intercalate_cons_cons, List.append_assoc] at h
          obtain rfl := hcode x y _ _ h
          have hrest : z :: xs = w :: ys :=
            ih (List.append_cancel_left (List.append_cancel_left h))
          rw [hrest]

theorem wireName_inj {p q : CredentialPolicy} (h : p.wireName = q.wireName) : p = q := by
  cases p <;> cases q <;> first | rfl | exact absurd h (by decide)

theorem layout_wireName_inj {p q : Layout} (h : p.wireName = q.wireName) : p = q := by
  cases p <;> cases q <;> first | rfl | exact absurd h (by decide)

theorem mountPoint_eq_of_selector_eq {p q : MountPoint} (h : p.selector = q.selector) : p = q := by
  cases p
  cases q
  cases h
  rfl

/-- A source list is told by its texts in pairs. -/
theorem sources_eq_of_texts_eq (variant : ScriptVariant) {xs ys : List Source}
    (h : xs.flatMap (fun source => texts (sourceSegments variant source)) =
      ys.flatMap (fun source => texts (sourceSegments variant source))) : xs = ys := by
  have hcode (s t : Source) (r r' : List String)
      (hst : texts (sourceSegments variant s) ++ r = texts (sourceSegments variant t) ++ r') :
      s = t := by
    cases s
    cases t
    cases variant <;>
      simp_all [sourceSegments, texts_cons, Segment.texts]
  have hne (s : Source) : texts (sourceSegments variant s) ≠ [] := by
    cases variant <;> simp [sourceSegments, texts_cons, Segment.texts]
  have hlist : ([] : List String).intercalate (xs.map (texts ∘ sourceSegments variant)) =
      ([] : List String).intercalate (ys.map (texts ∘ sourceSegments variant)) := by
    rw [nil_intercalate, nil_intercalate, ← List.flatMap_def, ← List.flatMap_def]
    exact h
  exact intercalate_map_inj hcode hne hlist

/-- Equal scripts of one kind say the same, but for the presets and deep linking. -/
theorem fields_eq_of_render_eq {variant : ScriptVariant} {a b : Config}
    (h : render variant a = render variant b) :
    a.mountPoint = b.mountPoint ∧ a.sources = b.sources ∧ a.credentials = b.credentials ∧
      a.layout = b.layout := by
  have htexts : texts (segments variant a) = texts (segments variant b) := by
    have hread := literalTexts_render variant a
    rw [h, literalTexts_render] at hread
    exact (Option.some.inj hread).symm
  rw [texts_segments, texts_segments] at htexts
  obtain ⟨hopening, hclosing⟩ := List.append_inj' htexts rfl
  simp only [List.cons.injEq, and_true] at hclosing
  have hcredentials := wireName_inj hclosing.1
  have hlayout := layout_wireName_inj hclosing.2
  cases variant with
  | initializer =>
    simp only [List.cons.injEq] at hopening
    exact ⟨mountPoint_eq_of_selector_eq hopening.1, sources_eq_of_texts_eq .initializer hopening.2,
      hcredentials, hlayout⟩
  | config =>
    obtain ⟨hurls, hselector⟩ := List.append_inj' hopening rfl
    simp only [List.cons.injEq, and_true] at hselector
    exact ⟨mountPoint_eq_of_selector_eq hselector, sources_eq_of_texts_eq .config hurls,
      hcredentials, hlayout⟩

/-- What stands between the opening fields and the layout is then the same as well. -/
theorem written_options_eq_of_render_eq {variant : ScriptVariant} {a b : Config}
    (h : render variant a = render variant b) :
    written (deepLinkingSegments variant a) ++ (written (hookSegments variant a) ++
        written (presetsSegments a)) =
      written (deepLinkingSegments variant b) ++ (written (hookSegments variant a) ++
        written (presetsSegments b)) := by
  obtain ⟨hmount, hsources, hcredentials, hlayout⟩ := fields_eq_of_render_eq h
  have hopening : openingSegments variant a = openingSegments variant b := by
    cases variant <;>
      simp only [openingSegments, mountPointSegments, sourcesSegments, hmount, hsources]
  have hhook : hookSegments variant a = hookSegments variant b := by
    simp only [hookSegments, hcredentials]
  have hlast : layoutSegments a = layoutSegments b := by
    simp only [layoutSegments, hlayout]
  have hwritten : written (segments variant a) = written (segments variant b) := by
    rw [← toList_render, ← toList_render, h]
  unfold segments at hwritten
  simp only [written_cons, written_append, hopening, hhook, hlast, List.append_assoc] at hwritten
  have hrest := List.append_cancel_left (List.append_cancel_left hwritten)
  rw [hhook]
  simp only [← List.append_assoc] at hrest ⊢
  exact List.append_cancel_right (List.append_cancel_right (List.append_cancel_right hrest))

/-- The presets are told by their lines. -/
theorem presets_eq_of_written_eq {a b : Config}
    (h : written (presetsSegments a) = written (presetsSegments b)) : a.presets = b.presets := by
  have hlines (presets : List Preset) :
      written ([Segment.code ",\n"].intercalate
        ((presets.map presetSegments).map (.code itemIndent :: ·))) =
      ",\n".toList.intercalate
        (presets.map fun preset => itemIndent.toList ++ preset.expression.toList) := by
    rw [written, flatMap_intercalate, List.map_map, List.map_map]
    simp [Function.comp_def, presetSegments, Segment.chars]
  have hcode (p q : Preset) (r s : List Char)
      (hpq : itemIndent.toList ++ p.expression.toList ++ r =
        itemIndent.toList ++ q.expression.toList ++ s) : p = q := by
    rw [List.append_assoc, List.append_assoc] at hpq
    have hexpression := List.append_cancel_left hpq
    cases p <;> cases q <;> first | rfl | simp [Preset.expression] at hexpression
  have hne (p : Preset) : itemIndent.toList ++ p.expression.toList ≠ [] := by
    cases p <;> simp [Preset.expression]
  simp only [presetsSegments, listSegments, written_append, hlines] at h
  exact intercalate_map_inj hcode hne (List.append_cancel_left (List.append_cancel_right h))

theorem eq_of_render_initializer_eq {a b : Config}
    (h : render .initializer a = render .initializer b) : a = b := by
  obtain ⟨hmount, hsources, hcredentials, hlayout⟩ := fields_eq_of_render_eq h
  have hoptions := written_options_eq_of_render_eq h
  have hdeep : a.deepLinking = b.deepLinking := by
    cases ha : a.deepLinking <;> cases hb : b.deepLinking
    · rfl
    · simp [deepLinkingSegments, hookSegments, ha, hb, Segment.chars, indent] at hoptions
    · simp [deepLinkingSegments, hookSegments, ha, hb, Segment.chars, indent] at hoptions
    · rfl
  have hpresets : a.presets = b.presets := by
    simp only [deepLinkingSegments, hdeep] at hoptions
    exact presets_eq_of_written_eq
      (List.append_cancel_left (List.append_cancel_left hoptions))
  refine Config.toDraft_inj ?_
  simp only [Config.toDraft, hmount, hsources, hcredentials, hpresets, hlayout, hdeep]

theorem fields_eq_of_render_config_eq {a b : Config} (h : render .config a = render .config b) :
    a.mountPoint = b.mountPoint ∧ a.sources = b.sources ∧ a.credentials = b.credentials ∧
      a.presets = b.presets ∧ a.layout = b.layout := by
  obtain ⟨hmount, hsources, hcredentials, hlayout⟩ := fields_eq_of_render_eq h
  have hoptions := written_options_eq_of_render_eq h
  simp only [deepLinkingSegments, true_or, if_true] at hoptions
  have hpresets := presets_eq_of_written_eq
    (List.append_cancel_left (List.append_cancel_left hoptions))
  exact ⟨hmount, hsources, hcredentials, hpresets, hlayout⟩

/-- The second script does not tell whether the first one links deep. -/
theorem render_config_eq_of_fields_eq {a b : Config} (hmount : a.mountPoint = b.mountPoint)
    (hsources : a.sources = b.sources) (hcredentials : a.credentials = b.credentials)
    (hpresets : a.presets = b.presets) (hlayout : a.layout = b.layout) :
    render .config a = render .config b := by
  have hopening : openingSegments .config a = openingSegments .config b := by
    simp only [openingSegments, mountPointSegments, sourcesSegments, hmount, hsources]
  have hdeep : deepLinkingSegments .config a = deepLinkingSegments .config b := by
    simp only [deepLinkingSegments, true_or, if_true]
  have hhook : hookSegments .config a = hookSegments .config b := by
    simp only [hookSegments, hcredentials]
  have hlist : presetsSegments a = presetsSegments b := by
    simp only [presetsSegments, hpresets]
  have hlast : layoutSegments a = layoutSegments b := by
    simp only [layoutSegments, hlayout]
  have hsegments : segments .config a = segments .config b := by
    unfold segments
    rw [hopening, hdeep, hhook, hlist, hlast]
  rw [← String.toList_inj, toList_render, toList_render, hsegments]

/-- **The scripts carry the whole configuration**: their literals are its texts in the order
of each script, and equal scripts come from configurations that are equal, for the second
script up to deep linking. -/
theorem literalTexts_render_and_inj (a b : Config) :
    literalTexts (render .initializer a) =
      some (a.mountPoint.selector ::
        a.sources.flatMap (fun source => [source.name, source.url]) ++
        [a.credentials.wireName, a.layout.wireName]) ∧
    literalTexts (render .config a) =
      some (a.sources.flatMap (fun source => [source.url, source.name]) ++
        [a.mountPoint.selector, a.credentials.wireName, a.layout.wireName]) ∧
    (render .initializer a = render .initializer b ↔ a = b) ∧
    (render .config a = render .config b ↔
      a.mountPoint = b.mountPoint ∧ a.sources = b.sources ∧ a.credentials = b.credentials ∧
        a.presets = b.presets ∧ a.layout = b.layout) := by
  refine ⟨?_, ?_, ⟨eq_of_render_initializer_eq, fun h => h ▸ rfl⟩,
    ⟨fields_eq_of_render_config_eq, ?_⟩⟩
  · rw [literalTexts_render, texts_segments]
  · rw [literalTexts_render, texts_segments]
    simp
  · rintro ⟨hmount, hsources, hcredentials, hpresets, hlayout⟩
    exact render_config_eq_of_fields_eq hmount hsources hcredentials hpresets hlayout

end DocPortal.Viewer.Script
