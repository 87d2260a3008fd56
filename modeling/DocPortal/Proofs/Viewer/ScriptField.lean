/-
The literals behind a label. A script is cut at the quotes of its literals,
by the quotes and backslashes alone, into code and contents in turn; the
literals of a field are those whose code in front ends with the field's
label. A script of a configuration has one mount point, whatever its texts
are (`literalsBehind_mountPoint`).
-/
import DocPortal.Proofs.Viewer.ScriptSegments

namespace DocPortal.Viewer

/-! ## Cutting a script at its quotes -/

namespace ScriptText

/-- The text from a place on, cut at the quotes of its literals: code and contents in turn. -/
def piecesFrom (place : Place) : List Char → List (List Char)
  | [] => [[]]
  | c :: rest =>
    let pieces := piecesFrom (place.next c) rest
    if place = .outside ↔ place.next c = .outside then pieces.modifyHead (c :: ·)
    else [] :: pieces

/-- The contents behind code that ends with a label. -/
def behind (label : List Char) : List (List Char) → List (List Char)
  | code :: contents :: rest =>
    if label <:+ code then contents :: behind label rest else behind label rest
  | _ => []

/-- The contents of the literals that stand right behind a label, in their order. -/
def literalsBehind (label script : String) : List (List Char) :=
  behind label.toList (piecesFrom .outside script.toList)

theorem modifyHead_nil_append {α : Type} (pieces : List (List α)) :
    pieces.modifyHead ([] ++ ·) = pieces := by
  cases pieces <;> rfl

theorem piecesFrom_code {cs : List Char} (h : '"' ∉ cs) (rest : List Char) :
    piecesFrom .outside (cs ++ rest) = (piecesFrom .outside rest).modifyHead (cs ++ ·) := by
  induction cs with
  | nil => exact (modifyHead_nil_append _).symm
  | cons c cs ih =>
    simp only [List.mem_cons, not_or] at h
    have hc : c ≠ '"' := Ne.symm h.1
    simp [piecesFrom, Place.next, hc, ih h.2, Function.comp_def]

end ScriptText

open ScriptText

/-- Read from behind its opening quote, a literal is one piece. -/
theorem IsBody.piecesFrom {body : List Char} (h : IsBody body) (rest : List Char) :
    piecesFrom .inside (body ++ '"' :: rest) = body :: piecesFrom .outside rest := by
  induction h with
  | nil => simp [ScriptText.piecesFrom, Place.next]
  | plain hquote hbackslash _ ih =>
    simp [ScriptText.piecesFrom, Place.next, hquote, hbackslash, ih]
  | escape _ ih => simp [ScriptText.piecesFrom, Place.next, ih]

theorem ScriptText.piecesFrom_literal (text : String) (rest : List Char) :
    ScriptText.piecesFrom .outside ((literal text).toList ++ rest) =
      [] :: literalBody text :: ScriptText.piecesFrom .outside rest := by
  have hbody := (isBody_literalBody text).piecesFrom rest
  rw [toList_literal, List.cons_append, List.append_assoc, List.singleton_append]
  simp [ScriptText.piecesFrom, Place.next, hbody]

/-! ## Labels -/

namespace Script

/-- The texts of the literals whose code in front ends with a label, whatever stands in front of the
segments. Code that is no part of the label, and has no label at its end, stands in front of every
other literal. -/
inductive Labels (label : List Char) : List Segment → List String → Prop
  | nil : Labels label [] []
  | code {segment : Segment} {segments : List Segment} {found : List String} :
    segment.texts = [] → Labels label segments found → Labels label (segment :: segments) found
  | labelled {front : String} {hfront : isCode front = true} {segments : List Segment}
      {found : List String} (text : String) :
    label <:+ front.toList → Labels label segments found →
    Labels label (.code front hfront :: .literal text :: segments) (text :: found)
  | other {front : String} {hfront : isCode front = true} {segments : List Segment}
      {found : List String} (text : String) :
    ¬ label <:+ front.toList → ¬ front.toList <:+ label → Labels label segments found →
    Labels label (.code front hfront :: .literal text :: segments) found

namespace Labels

variable {label : List Char}

theorem append {a b : List Segment} {found others : List String} (ha : Labels label a found)
    (hb : Labels label b others) : Labels label (a ++ b) (found ++ others) := by
  induction ha with
  | nil => exact hb
  | code hcode _ ih => exact .code hcode ih
  | labelled text hlabel _ ih => exact .labelled text hlabel ih
  | other text hlabel hpart _ ih => exact .other text hlabel hpart ih

/-- A list without the label among its items is without it. -/
theorem listSegments {name : String} {items : List (List Segment)} (hname : isCode name = true)
    (h : ∀ item ∈ items, Labels label item []) :
    Labels label (listSegments name items hname) [] := by
  have hitems : Labels label
      ([Segment.code ",\n"].intercalate (items.map (.code itemIndent :: ·))) [] := by
    induction items with
    | nil => exact .nil
    | cons item items ih =>
      have hitem : Labels label (.code itemIndent :: item) [] :=
        .code rfl (h item List.mem_cons_self)
      have hrest := ih fun item hmem => h item (List.mem_cons_of_mem _ hmem)
      cases items with
      | nil => simpa using hitem
      | cons next items =>
        rw [List.map_cons, List.map_cons, List.intercalate_cons_cons, List.append_assoc]
        exact hitem.append (.code rfl hrest)
  have hopening : Labels label [.code indent, .code name hname, .code ": [\n"] [] :=
    .code rfl (.code rfl (.code rfl .nil))
  have hclosing : Labels label [.code "\n", .code indent, .code "],\n"] [] :=
    .code rfl (.code rfl (.code rfl .nil))
  exact (hopening.append hitems).append hclosing

/-- A literal is found if the code in front of it ends with the label. -/
theorem behind_written_cons {code : String} (hcode : isCode code = true) (text : String)
    (segments : List Segment) (front : List Char) :
    behind label ((piecesFrom .outside
        (written (.code code hcode :: .literal text :: segments))).modifyHead (front ++ ·)) =
      if label <:+ front ++ code.toList then
        literalBody text :: behind label (piecesFrom .outside (written segments))
      else behind label (piecesFrom .outside (written segments)) := by
  have hquote : '"' ∉ code.toList := (Segment.not_mem_of_isCode hcode).1
  rw [written_cons, written_cons, Segment.chars, Segment.chars, piecesFrom_code hquote,
    piecesFrom_literal, List.modifyHead_cons, List.modifyHead_cons, List.append_nil, behind]

/-- The literals that a reader finds behind the label are those of the texts. -/
theorem behind_written {segments : List Segment} {found : List String}
    (h : Labels label segments found) (front : List Char) :
    behind label ((piecesFrom .outside (written segments)).modifyHead (front ++ ·)) =
      found.map literalBody := by
  -- what stands in front is open, since code before the segments runs on into them
  induction h generalizing front with
  | nil => rfl
  | @code segment segments found htexts _ ih =>
    cases segment with
    | literal text => cases htexts
    | code text hcode =>
      have hquote : '"' ∉ text.toList := (Segment.not_mem_of_isCode hcode).1
      rw [written_cons, Segment.chars, piecesFrom_code hquote, List.modifyHead_modifyHead]
      have hih := ih (front ++ text.toList)
      simpa [Function.comp_def] using hih
  | @labelled code hcode segments found text hlabel _ ih =>
    have hfound : label <:+ front ++ code.toList := hlabel.trans (List.suffix_append _ _)
    have hrest := ih []
    rw [modifyHead_nil_append] at hrest
    rw [behind_written_cons, if_pos hfound, hrest, List.map_cons]
  | @other code hcode segments found text hlabel hpart _ ih =>
    have hnot : ¬ label <:+ front ++ code.toList := by
      intro hfound
      have hcode : code.toList <:+ front ++ code.toList := List.suffix_append _ _
      rcases List.suffix_or_suffix_of_suffix hfound hcode with h | h
      · exact hlabel h
      · exact hpart h
    have hrest := ih []
    rw [modifyHead_nil_append] at hrest
    rw [behind_written_cons, if_neg hnot, hrest]

end Labels

/-! ## The fields of a script -/

/-- The code in front of the fields. -/
def openingCode : String := "window.onload = () => \x7b\n    window.ui = SwaggerUIBundle(\x7b\n"

/-- The code behind the fields. -/
def closingCode : String := "    \x7d);\n\x7d;\n"

theorem isCode_openingCode : isCode openingCode = true := by decide

theorem isCode_closingCode : isCode closingCode = true := by decide

/-- A script with its hook written as any segments. -/
def segmentsWith (variant : ScriptVariant) (config : Config) (hook : List Segment) : List Segment :=
  .code openingCode isCode_openingCode ::
    (openingSegments variant config ++ deepLinkingSegments variant config ++ hook ++
      presetsSegments config ++ layoutSegments config ++ [.code closingCode isCode_closingCode])

theorem segments_eq (variant : ScriptVariant) (config : Config) :
    segments variant config = segmentsWith variant config (hookSegments variant config) := rfl

/-- The literals behind a label are those of the fields, where no source has one. -/
theorem labels_segmentsWith {label : List Char} {variant : ScriptVariant} {config : Config}
    {hook : List Segment} {mounts hooks layouts : List String}
    (hmount : Labels label (mountPointSegments config) mounts)
    (hsource : ∀ source, Labels label (sourceSegments variant source) [])
    (hhook : Labels label hook hooks) (hlayout : Labels label (layoutSegments config) layouts) :
    Labels label (segmentsWith variant config hook) (mounts ++ hooks ++ layouts) := by
  have hsources : Labels label (sourcesSegments variant config) [] := by
    refine .listSegments _ fun item hitem => ?_
    obtain ⟨source, -, rfl⟩ := List.mem_map.1 hitem
    exact hsource source
  have hopening : Labels label (openingSegments variant config) mounts := by
    cases variant with
    | initializer => simpa [openingSegments] using hmount.append hsources
    | config => exact hsources.append hmount
  have hdeep : Labels label (deepLinkingSegments variant config) [] := by
    unfold deepLinkingSegments
    split
    · exact .code rfl (.code rfl .nil)
    · exact .nil
  have hpresets : Labels label (presetsSegments config) [] := by
    refine .listSegments _ fun item hitem => ?_
    obtain ⟨preset, -, rfl⟩ := List.mem_map.1 hitem
    exact .code rfl .nil
  have hclosing : Labels label [.code closingCode isCode_closingCode] [] := .code rfl .nil
  have hfields := ((((hopening.append hdeep).append hhook).append hpresets).append hlayout).append
    hclosing
  simpa [segmentsWith] using Labels.code rfl hfields

/-! ## The mount point -/

theorem labels_sourceSegments (variant : ScriptVariant) (source : Source) :
    Labels "dom_id: ".toList (sourceSegments variant source) [] := by
  cases variant with
  | initializer =>
    exact .other _ (by decide) (by decide) (.other _ (by decide) (by decide) (.code rfl .nil))
  | config =>
    exact .other _ (by decide) (by decide) (.other _ (by decide) (by decide) (.code rfl .nil))

/-- The one literal of a script that stands behind the label of the mount point. -/
theorem labels_segments (variant : ScriptVariant) (config : Config) :
    Labels "dom_id: ".toList (segments variant config) [config.mountPoint.selector] := by
  have hmount : Labels "dom_id: ".toList (mountPointSegments config)
      [config.mountPoint.selector] :=
    .code rfl (.labelled _ (List.suffix_refl _) (.code rfl .nil))
  have hhook : Labels "dom_id: ".toList (hookSegments variant config) [] := by
    iterate 5 refine .code rfl ?_
    -- the literal of the credential policy
    refine .other _ (by decide) (by decide) ?_
    iterate 6 refine .code rfl ?_
    exact .nil
  have hlayout : Labels "dom_id: ".toList (layoutSegments config) [] :=
    .code rfl (.other _ (by decide) (by decide) (.code rfl .nil))
  rw [segments_eq]
  exact labels_segmentsWith hmount (labels_sourceSegments variant) hhook hlayout

/-- Both scripts have one literal behind the label of the mount point. -/
theorem literalsBehind_mountPoint (variant : ScriptVariant) (config : Config) :
    literalsBehind "dom_id: " (render variant config) =
      [literalBody config.mountPoint.selector] := by
  have hfound := (labels_segments variant config).behind_written []
  rw [modifyHead_nil_append] at hfound
  rw [literalsBehind, toList_render, hfound]
  rfl

end Script

end DocPortal.Viewer
