/-
A script as segments: code that stands in it as it is, and literals that
stand for texts of the configuration (`toList_render`). What a reader
finds in a script, the code around the literals and their contents in
order, is then said of the segments (`skeletonFrom_written`,
`contentsFrom_written`), and no longer of the characters.
-/
import DocPortal.Proofs.Viewer.Literal
import DocPortal.Viewer.Script

namespace DocPortal.Viewer.Script

/-! ## Segments -/

/-- Code in which no literal begins, and none of the marks that a page gives a meaning to. -/
def isCode (text : String) : Bool :=
  text.toList.all fun c => c ≠ '"' && c ≠ '<' && c ≠ '-'

/-- A segment of a script. -/
inductive Segment where
  | code (text : String) (isCode : isCode text = true := by decide)
  /-- A literal that stands for a text. -/
  | literal (text : String)

namespace Segment

/-- The characters of a segment. -/
def chars : Segment → List Char
  | code text _ => text.toList
  | literal text => (Viewer.literal text).toList

/-- What is left of a segment without the contents of a literal. -/
def frame : Segment → List Char
  | code text _ => text.toList
  | literal _ => ['"', '"']

/-- The text that a segment stands for, if it is a literal. -/
def texts : Segment → List String
  | code _ _ => []
  | literal text => [text]

theorem not_mem_of_isCode {text : String} (h : isCode text = true) :
    '"' ∉ text.toList ∧ '<' ∉ text.toList ∧ '-' ∉ text.toList := by
  simp only [Script.isCode, List.all_eq_true, Bool.and_eq_true, decide_eq_true_eq, ne_eq] at h
  exact ⟨fun hc => (h _ hc).1.1 rfl, fun hc => (h _ hc).1.2 rfl, fun hc => (h _ hc).2 rfl⟩

end Segment

/-- The characters of a script. -/
def written (segments : List Segment) : List Char := segments.flatMap Segment.chars

/-- A script without the contents of its literals. -/
def frame (segments : List Segment) : List Char := segments.flatMap Segment.frame

/-- The texts that the literals of a script stand for. -/
def texts (segments : List Segment) : List String := segments.flatMap Segment.texts

theorem flatMap_intercalate {α β : Type} (f : α → List β) (sep : List α) (items : List (List α)) :
    (sep.intercalate items).flatMap f =
      (sep.flatMap f).intercalate (items.map fun item => item.flatMap f) := by
  induction items with
  | nil => rfl
  | cons item items ih =>
    cases items with
    | nil => simp
    | cons next items =>
      rw [List.intercalate_cons_cons, List.flatMap_append, List.flatMap_append, ih]
      simp [List.intercalate_cons_cons]

/-! ## The segments of a script -/

/-- A list field, its items given as segments. -/
def listSegments (name : String) (items : List (List Segment))
    (hname : isCode name = true := by decide) : List Segment :=
  [.code indent, .code name hname, .code ": [\n"] ++
    [.code ",\n"].intercalate (items.map (.code itemIndent :: ·)) ++
  [.code "\n", .code indent, .code "],\n"]

def mountPointSegments (config : Config) : List Segment :=
  [.code indent, .code "dom_id: ", .literal config.mountPoint.selector, .code ",\n"]

def sourceSegments (variant : ScriptVariant) (source : Source) : List Segment :=
  match variant with
  | .initializer =>
    [.code "\x7b name: ", .literal source.name, .code ", url: ", .literal source.url,
      .code " \x7d"]
  | .config =>
    [.code "\x7b url: ", .literal source.url, .code ", name: ", .literal source.name,
      .code " \x7d"]

def sourcesSegments (variant : ScriptVariant) (config : Config) : List Segment :=
  listSegments "urls" (config.sources.map (sourceSegments variant))

def openingSegments (variant : ScriptVariant) (config : Config) : List Segment :=
  match variant with
  | .initializer => mountPointSegments config ++ sourcesSegments variant config
  | .config => sourcesSegments variant config ++ mountPointSegments config

def deepLinkingSegments (variant : ScriptVariant) (config : Config) : List Segment :=
  if variant = .config ∨ config.deepLinking then [.code indent, .code "deepLinking: true,\n"] else []

def hookSegments (variant : ScriptVariant) (config : Config) : List Segment :=
  [.code indent, .code "requestInterceptor: ", .code variant.hookHead (by cases variant <;> decide),
    .code " \x7b\n", .code itemIndent, .code "req.credentials = ",
    .literal config.credentials.wireName, .code ";", .code "\n", .code itemIndent,
    .code "return req;\n", .code indent, .code "\x7d,\n"]

def presetSegments (preset : Preset) : List Segment :=
  [.code preset.expression (by cases preset <;> decide)]

def presetsSegments (config : Config) : List Segment :=
  listSegments "presets" (config.presets.map presetSegments)

def layoutSegments (config : Config) : List Segment :=
  [.code indent, .code "layout: ", .literal config.layout.wireName, .code "\n"]

/-- The segments of a configuration's script. -/
def segments (variant : ScriptVariant) (config : Config) : List Segment :=
  .code "window.onload = () => \x7b\n    window.ui = SwaggerUIBundle(\x7b\n" ::
    (openingSegments variant config ++
    deepLinkingSegments variant config ++
    hookSegments variant config ++
    presetsSegments config ++
    layoutSegments config ++
  [.code "    \x7d);\n\x7d;\n"])

@[simp]
theorem written_nil : written [] = [] := rfl

@[simp]
theorem written_cons (segment : Segment) (segments : List Segment) :
    written (segment :: segments) = segment.chars ++ written segments := rfl

@[simp]
theorem written_append (a b : List Segment) : written (a ++ b) = written a ++ written b := by
  simp [written]

/-- A list field is written as its segments, if its items are. -/
theorem toList_listField {name : String} {items : List String} {segments : List (List Segment)}
    (hname : isCode name = true) (hitems : items.map String.toList = segments.map written) :
    (listField name items).toList = written (listSegments name segments hname) := by
  have hlines : (items.map (itemIndent ++ ·)).map String.toList =
      (segments.map (.code itemIndent :: ·)).map written := by
    have hcons := congrArg (List.map (itemIndent.toList ++ ·)) hitems
    simpa [List.map_map, Function.comp_def, Segment.chars] using hcons
  have hlist : written ([Segment.code ",\n"].intercalate (segments.map (.code itemIndent :: ·))) =
      ",\n".toList.intercalate ((segments.map (.code itemIndent :: ·)).map written) :=
    flatMap_intercalate Segment.chars _ _
  simp only [listField, listSegments, String.toList_append, String.toList_intercalate, hlines,
    written_append, hlist, written_cons, written_nil, Segment.chars, List.append_assoc,
    List.append_nil]

theorem toList_sourceItem (variant : ScriptVariant) (source : Source) :
    (sourceItem variant source).toList = written (sourceSegments variant source) := by
  cases variant <;>
    simp only [sourceItem, sourceSegments, String.toList_append, written_cons, written_nil,
      Segment.chars, List.append_assoc, List.append_nil]

theorem toList_sourcesField (variant : ScriptVariant) (config : Config) :
    (sourcesField variant config).toList = written (sourcesSegments variant config) := by
  unfold sourcesField sourcesSegments
  apply toList_listField
  rw [List.map_map, List.map_map]
  exact List.map_congr_left fun source _ => toList_sourceItem variant source

theorem toList_presetsField (config : Config) :
    (presetsField config).toList = written (presetsSegments config) := by
  unfold presetsField presetsSegments
  apply toList_listField
  rw [List.map_map, List.map_map]
  exact List.map_congr_left fun preset _ => by simp [presetSegments, Segment.chars]

theorem toList_mountPointField (config : Config) :
    (mountPointField config).toList = written (mountPointSegments config) := by
  simp only [mountPointField, mountPointSegments, String.toList_append, written_cons, written_nil,
    Segment.chars, List.append_assoc, List.append_nil]

/-- A policy's name needs no escape, so the hook sets it as a literal. -/
theorem scriptBody_eq (hook : FetchHook) :
    hook.scriptBody = "req.credentials = " ++ literal hook.policy.wireName ++ ";" := by
  obtain ⟨policy⟩ := hook
  cases policy <;> rfl

theorem toList_hookField (variant : ScriptVariant) (config : Config) :
    (hookField variant config).toList = written (hookSegments variant config) := by
  have hbody : config.fetchHook.scriptBody =
      "req.credentials = " ++ literal config.credentials.wireName ++ ";" :=
    scriptBody_eq config.fetchHook
  simp only [hookField, hookSegments, hbody, String.toList_append, written_cons, written_nil,
    Segment.chars, List.append_assoc, List.append_nil]

/-- A script is written as its segments. -/
theorem toList_render (variant : ScriptVariant) (config : Config) :
    (render variant config).toList = written (segments variant config) := by
  have hopening : (openingFields variant config).toList =
      written (openingSegments variant config) := by
    cases variant <;>
      simp only [openingFields, openingSegments, String.toList_append, written_append,
        toList_mountPointField, toList_sourcesField]
  have hdeep : (deepLinkingField variant config).toList =
      written (deepLinkingSegments variant config) := by
    unfold deepLinkingField deepLinkingSegments
    split
    · simp only [String.toList_append, written_cons, written_nil, Segment.chars, List.append_nil]
    · rfl
  have hlayout : (layoutField config).toList = written (layoutSegments config) := by
    simp only [layoutField, layoutSegments, String.toList_append, written_cons, written_nil,
      Segment.chars, List.append_assoc, List.append_nil]
  unfold render segments
  simp only [String.toList_append, hopening, hdeep, toList_hookField,
    toList_presetsField, hlayout, written_cons, written_append, written_nil, Segment.chars,
    List.append_assoc, List.append_nil]

/-! ## Reading segments -/

open ScriptText

theorem placeAfter_code {cs : List Char} (h : '"' ∉ cs) : placeAfter .outside cs = .outside := by
  induction cs with
  | nil => rfl
  | cons c cs ih =>
    simp only [List.mem_cons, not_or] at h
    have hc : c ≠ '"' := Ne.symm h.1
    simpa [placeAfter, Place.next, hc] using ih h.2

theorem skeletonFrom_code {cs : List Char} (h : '"' ∉ cs) : skeletonFrom .outside cs = cs := by
  induction cs with
  | nil => rfl
  | cons c cs ih =>
    simp only [List.mem_cons, not_or] at h
    have hc : c ≠ '"' := Ne.symm h.1
    simpa [skeletonFrom, isContent, Place.next, hc] using ih h.2

theorem contentsFrom_code {cs : List Char} (h : '"' ∉ cs) (rest : List Char) :
    (contentsFrom .outside (cs ++ rest)).2 = (contentsFrom .outside rest).2 := by
  induction cs with
  | nil => rfl
  | cons c cs ih =>
    simp only [List.mem_cons, not_or] at h
    have hc : c ≠ '"' := Ne.symm h.1
    simpa [contentsFrom, isContent, Place.next, hc] using ih h.2

theorem placeAfter_chars (segment : Segment) : placeAfter .outside segment.chars = .outside := by
  cases segment with
  | code text hcode => exact placeAfter_code (Segment.not_mem_of_isCode hcode).1
  | literal text =>
    have hbody := (isBody_literalBody text).placeAfter
    rw [Segment.chars, toList_literal, ← List.singleton_append, placeAfter_append,
      placeAfter_append]
    show placeAfter (placeAfter .inside (literalBody text)) ['"'] = .outside
    rw [hbody]
    rfl

theorem skeletonFrom_chars (segment : Segment) :
    skeletonFrom .outside segment.chars = segment.frame := by
  cases segment with
  | code text hcode => exact skeletonFrom_code (Segment.not_mem_of_isCode hcode).1
  | literal text =>
    have hbody := isBody_literalBody text
    rw [Segment.chars, toList_literal, ← List.singleton_append, skeletonFrom_append]
    show '"' :: skeletonFrom .inside (literalBody text ++ ['"']) = ['"', '"']
    rw [skeletonFrom_append, hbody.skeletonFrom, hbody.placeAfter]
    rfl

theorem contentsFrom_chars (segment : Segment) (rest : List Char) :
    (contentsFrom .outside (segment.chars ++ rest)).2 =
      segment.texts.map literalBody ++ (contentsFrom .outside rest).2 := by
  cases segment with
  | code text hcode => exact contentsFrom_code (Segment.not_mem_of_isCode hcode).1 rest
  | literal text =>
    have hbody := (isBody_literalBody text).contentsFrom rest
    rw [Segment.chars, toList_literal, List.cons_append, List.append_assoc, List.singleton_append]
    simp [contentsFrom, isContent, Place.next, hbody, Segment.texts]

/-- Every literal of a script has ended where the script ends. -/
theorem placeAfter_written (segments : List Segment) :
    placeAfter .outside (written segments) = .outside := by
  induction segments with
  | nil => rfl
  | cons segment segments ih =>
    rw [written, List.flatMap_cons, placeAfter_append, placeAfter_chars]
    exact ih

/-- Without the contents of its literals a script is its frame. -/
theorem skeletonFrom_written (segments : List Segment) :
    skeletonFrom .outside (written segments) = frame segments := by
  induction segments with
  | nil => rfl
  | cons segment segments ih =>
    rw [written, List.flatMap_cons, skeletonFrom_append, placeAfter_chars, skeletonFrom_chars,
      ← written, ih]
    rfl

/-- The literals of a script have the bodies of its texts as contents, in their order. -/
theorem contentsFrom_written (segments : List Segment) :
    (contentsFrom .outside (written segments)).2 = (texts segments).map literalBody := by
  induction segments with
  | nil => rfl
  | cons segment segments ih =>
    rw [written, List.flatMap_cons, contentsFrom_chars, ← written, ih]
    simp [texts]

/-- No end tag starts in a script. -/
theorem not_endTag_infix_written (segments : List Segment) :
    ¬ ['<', '/'] <:+: written segments := by
  induction segments with
  | nil => simp [written]
  | cons segment segments ih =>
    intro h
    rw [written, List.flatMap_cons, ← written] at h
    cases segment with
    | code text hcode =>
      exact ih (Text.infix_of_head_not_mem (Segment.not_mem_of_isCode hcode).2.1 h)
    | literal text =>
      have hquote : '"' ∉ ['<', '/'] := by decide
      rw [Segment.chars, toList_literal, ← List.nil_append ('"' :: _), List.append_assoc,
        List.cons_append, Text.infix_append_cons_iff hquote, List.append_assoc,
        List.singleton_append, Text.infix_append_cons_iff hquote] at h
      rcases h with h | h | h
      · simp at h
      · exact not_endTag_infix_literalBody text h
      · exact ih h

end DocPortal.Viewer.Script
