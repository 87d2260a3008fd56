/-
Where the script of a page ends.

A page's script holds texts of the configuration, and a browser reads the
page before it reads the script. The script's element is closed by the
end tag the page has for it, which is its last one, except when the names
and urls of the sources hide every end tag behind them: then the element
is not closed at all (`scriptElement_render`).
-/
import DocPortal.Proofs.Viewer.MountPoint
import DocPortal.Proofs.Viewer.Page
import DocPortal.Proofs.Viewer.ScriptLiterals
import DocPortal.Proofs.Viewer.ScriptReading

namespace DocPortal.Viewer

/-! ## The element of a page -/

/-- The text of a page's script element without attributes, and the page from its end tag on. There
is none if the element is not closed. -/
def scriptElement (page : String) : Option (String × String) := do
  let content ← Text.behindFirst "<script>".toList page.toList
  let (text, after) ← ScriptData.split content
  return (String.ofList text, String.ofList after)

/-- The names and urls of the sources in the order of the script, with a quote behind each. -/
def sourceTexts (config : Config) : List Char :=
  config.sources.flatMap fun source =>
    source.name.toList ++ '"' :: (source.url.toList ++ ['"'])

/-- The script's element holds the script, and the last end tag of the page closes it. -/
def ClosesLast (config : Config) (assets : Assets) : Prop :=
  ∃ before after,
    Page.render config assets =
      before ++ "<script>" ++ ("\n" ++ Script.render .initializer config ++ "    ") ++ after ∧
    scriptElement (Page.render config assets) =
      some ("\n" ++ Script.render .initializer config ++ "    ", after) ∧
    "</script>".toList <+: after.toList ∧ ¬ "</script>".toList <:+: after.toList.tail

/-! ## Reading the script -/

open ScriptData Script

/-- How a script is read behind literals of it. -/
def afterTexts (mode : Mode) (texts : List String) : Mode :=
  texts.foldl (fun mode text => mode.after text.toList) mode

theorem splitFrom_chars (mode : Mode) (segment : Segment) (rest : List Char) :
    splitFrom mode (segment.chars ++ rest) =
      (splitFrom (afterTexts mode segment.texts) rest).map (ahead segment.chars) := by
  cases segment with
  | code text hcode =>
    obtain ⟨-, hopen, hdash⟩ := Segment.not_mem_of_isCode hcode
    exact splitFrom_append_of_not_mem hopen hdash mode rest
  | literal text =>
    have hquote (mode : Mode) (rest : List Char) :
        splitFrom mode ('"' :: rest) = (splitFrom mode rest).map (ahead ['"']) := by
      have hopen : '<' ∉ ['"'] := by decide
      have hdash : '-' ∉ ['"'] := by decide
      exact splitFrom_append_of_not_mem hopen hdash mode rest
    rw [Segment.chars, toList_literal, List.cons_append, List.append_assoc, List.singleton_append,
      hquote, literalBody, splitFrom_literalBody, hquote, ← map_ahead_append, ← map_ahead_append]
    rfl

/-- The element does not end in a script, and behind it the mode is that of its texts. -/
theorem splitFrom_written (mode : Mode) (segments : List Segment) (rest : List Char) :
    splitFrom mode (written segments ++ rest) =
      (splitFrom (afterTexts mode (texts segments)) rest).map (ahead (written segments)) := by
  induction segments generalizing mode with
  | nil => exact (map_ahead_nil _).symm
  | cons segment segments ih =>
    have hmode : afterTexts (afterTexts mode segment.texts) (texts segments) =
        afterTexts mode (texts (segment :: segments)) := by
      rw [texts_cons, afterTexts, afterTexts, afterTexts, List.foldl_append]
    rw [written_cons, List.append_assoc, splitFrom_chars, ih, hmode, map_ahead_append]

/-! ## The modes of a configuration's texts -/

/-- The sources' literals are read as the sources' texts in one. -/
theorem after_sourceTexts (mode : Mode) (sources : List Source) :
    mode.after (sources.flatMap fun source =>
        source.name.toList ++ '"' :: (source.url.toList ++ ['"'])) =
      afterTexts mode (sources.flatMap fun source => [source.name, source.url]) := by
  induction sources generalizing mode with
  | nil => rfl
  | cons source sources ih =>
    rw [List.flatMap_cons, List.flatMap_cons, List.append_assoc, List.cons_append,
      List.append_assoc, List.singleton_append, after_append_quote, after_append_quote, ih]
    rfl

theorem not_mem_of_isIdSelector {cs : List Char} (h : isIdSelector cs = true) : '<' ∉ cs := by
  intro hmem
  rcases eq_or_isIdentifierChar_of_mem h '<' hmem with hhash | hchar
  · exact absurd hhash (by decide)
  · exact absurd hchar (by decide)

/-- Apart from the sources', the texts of a script leave the mode as it is. -/
theorem afterTexts_segments (config : Config) :
    afterTexts .normal (texts (segments .initializer config)) =
      Mode.normal.after (sourceTexts config) := by
  have hselector : Mode.normal.after config.mountPoint.selector.toList = .normal :=
    after_of_not_mem (not_mem_of_isIdSelector config.mountPoint.isId)
  have hpolicy (mode : Mode) : mode.after config.credentials.wireName.toList = mode := by
    cases mode <;> cases config.credentials <;> decide
  have hlayout (mode : Mode) : mode.after config.layout.wireName.toList = mode := by
    cases mode <;> cases config.layout <;> decide
  have htexts : texts (segments .initializer config) =
      config.mountPoint.selector :: (config.sources.flatMap (fun source => [source.name, source.url])
        ++ [config.credentials.wireName, config.layout.wireName]) := by
    rw [texts_segments, List.cons_append]
  rw [htexts, afterTexts, List.foldl_cons, hselector, List.foldl_append, List.foldl_cons,
    List.foldl_cons, List.foldl_nil, hpolicy, hlayout, sourceTexts, after_sourceTexts, afterTexts]

/-! ## Finding the script -/

theorem not_mem_attributeValue (s : String) : '<' ∉ (attributeValue s).toList := by
  intro hmem
  exact (ne_of_mem_attributeValue hmem).2.1 rfl

/-- The first start tag of a script without attributes is the one at the end of the head. -/
theorem behindFirst_head (config : Config) (assets : Assets) (rest : List Char) :
    Text.behindFirst "<script>".toList ((Page.head config assets).toList ++ rest) = some rest := by
  have hvalue (s : String) (rest : List Char) :
      Text.behindFirst "<script>".toList ((attributeValue s).toList ++ rest) =
        Text.behindFirst "<script>".toList rest :=
    Text.behindFirst_append (Text.avoids_of_not_mem (not_mem_attributeValue s)) rest
  have hmark : Text.behindFirst "<script>".toList ("    <script>".toList ++ rest) = some rest := by
    have hblank : Text.Avoids "<script>".toList "    ".toList := by decide
    exact (Text.behindFirst_append hblank _).trans (Text.behindFirst_mark rest)
  unfold Page.head
  simp only [String.toList_append, List.append_assoc]
  -- every piece in front is fixed, or the value of an attribute
  repeat
    first
    | rw [hvalue]
    | rw [Text.behindFirst_append (by decide)]
  exact hmark

/-- What stands in a page between the first start tag of a script without attributes that ends its
line and the last end tag that is indented as that of such a script. -/
def inlinedScript (page : String) : Option String := do
  let content ← Text.behindFirst "<script>\n".toList page.toList
  let text ← Text.behindFirst "    </script>".toList.reverse content.reverse
  return String.ofList text.reverse

/-- Between them is the script. -/
theorem inlinedScript_render (config : Config) (assets : Assets) :
    inlinedScript (Page.render config assets) = some (Script.render .initializer config) := by
  have hstart : Text.behindFirst "<script>\n".toList (Page.render config assets).toList =
      some ((Script.render .initializer config).toList ++
        ("    </script>".toList ++ "\n</body>\n</html>\n".toList)) := by
    have hmark : "<script>\n".toList = "<script>".toList ++ "\n".toList := by decide
    have hend : "    ".toList ++ Page.foot.toList =
        "    </script>".toList ++ "\n</body>\n</html>\n".toList := by decide
    rw [hmark, ← hend]
    apply Text.behindFirst_append_mark
    rw [Page.toList_render, behindFirst_head, Page.scriptText, String.toList_append,
      String.toList_append]
    simp only [List.append_assoc]
  have hclose : Text.behindFirst "    </script>".toList.reverse
      ((Script.render .initializer config).toList ++
        ("    </script>".toList ++ "\n</body>\n</html>\n".toList)).reverse =
      some (Script.render .initializer config).toList.reverse := by
    have havoids : Text.Avoids "    </script>".toList.reverse
        "\n</body>\n</html>\n".toList.reverse := by decide
    rw [List.reverse_append, List.reverse_append, List.append_assoc,
      Text.behindFirst_append havoids]
    exact Text.behindFirst_mark _
  rw [inlinedScript, hstart, Option.bind_eq_bind, Option.bind_some, hclose]
  show some (String.ofList _) = _
  rw [List.reverse_reverse, String.ofList_toList]

/-! ## Closing the script -/

theorem toList_scriptText (config : Config) :
    ("\n" ++ render .initializer config ++ "    ").toList =
      written (.code "\n" :: (segments .initializer config ++ [.code "    "])) := by
  rw [String.toList_append, String.toList_append, toList_render, written_cons, written_append,
    written_cons, written_nil, List.append_nil, List.append_assoc]
  rfl

/-- What a script in some mode makes of the end of the page. -/
theorem splitFrom_foot (mode : Mode) :
    splitFrom mode Page.foot.toList =
      if mode = .doubleEscaped then none else some ([], Page.foot.toList) := by
  cases mode <;> rfl

theorem split_scriptText (config : Config) :
    split (("\n" ++ render .initializer config ++ "    ").toList ++ Page.foot.toList) =
      if HidesEndTag (sourceTexts config) then none
      else some (("\n" ++ render .initializer config ++ "    ").toList, Page.foot.toList) := by
  have htexts : texts (.code "\n" :: (segments .initializer config ++ [.code "    "])) =
      texts (segments .initializer config) := by
    simp [texts_cons, texts_append, Segment.texts]
  rw [toList_scriptText, split, splitFrom_written, htexts, afterTexts_segments, splitFrom_foot]
  by_cases h : HidesEndTag (sourceTexts config)
  · rw [if_pos (hidesEndTag_iff.1 h), if_pos h]
    rfl
  · rw [if_neg (fun hmode => h (hidesEndTag_iff.2 hmode)), if_neg h]
    simp [ahead]

theorem scriptElement_eq (config : Config) (assets : Assets) :
    scriptElement (Page.render config assets) =
      if HidesEndTag (sourceTexts config) then none
      else some ("\n" ++ render .initializer config ++ "    ", Page.foot) := by
  rw [scriptElement, Page.toList_render, behindFirst_head, Option.bind_eq_bind, Option.bind_some,
    Page.scriptText, split_scriptText]
  by_cases h : HidesEndTag (sourceTexts config)
  · rw [if_pos h, if_pos h]
    rfl
  · rw [if_neg h, if_neg h]
    show some (String.ofList _, String.ofList _) = _
    rw [String.ofList_toList, String.ofList_toList]

theorem closesLast_iff (config : Config) (assets : Assets) :
    ClosesLast config assets ↔ ¬ HidesEndTag (sourceTexts config) := by
  rw [ClosesLast, scriptElement_eq]
  constructor
  · rintro ⟨before, after, -, helement, -⟩ hhides
    rw [if_pos hhides] at helement
    exact absurd helement (by simp)
  · intro hhides
    obtain ⟨before, hbefore⟩ : ∃ before, Page.head config assets = before ++ "<script>" := by
      have hlast (s : String) : s ++ "    <script>" = s ++ "    " ++ "<script>" := by
        rw [String.append_assoc]
        rfl
      unfold Page.head
      exact ⟨_, hlast _⟩
    refine ⟨before, Page.foot, ?_, if_neg hhides, by decide, by decide⟩
    rw [Page.render, hbefore, Page.scriptText]

theorem scriptElement_eq_none_iff (config : Config) (assets : Assets) :
    scriptElement (Page.render config assets) = none ↔ HidesEndTag (sourceTexts config) := by
  rw [scriptElement_eq]
  by_cases hhides : HidesEndTag (sourceTexts config)
  · simp [hhides]
  · simp [hhides]

/-- **The script of a page is closed by the page's own end tag, or not at all**: its element holds
the script and ends at the last end tag exactly when the names and urls of the sources do not hide
the end tags behind them, and when they do, nothing closes it. -/
theorem scriptElement_render (config : Config) (assets : Assets) :
    (ClosesLast config assets ↔ ¬ HidesEndTag (sourceTexts config)) ∧
    (scriptElement (Page.render config assets) = none ↔ HidesEndTag (sourceTexts config)) :=
  ⟨closesLast_iff config assets, scriptElement_eq_none_iff config assets⟩

/-- **Not every page closes its script.** -/
theorem exists_build_with_unclosed_script :
    ∃ config, (Draft.fresh.applyEach [.source "<!--<script>" "/a"]).build.result = .ok config ∧
      ∀ assets, ¬ ClosesLast config assets ∧ scriptElement (Page.render config assets) = none := by
  refine ⟨{ Config.stock with
    sources := [⟨"<!--<script>", "/a"⟩]
    sources_ne_nil := by decide
    sources_sound := by decide }, rfl, fun assets => ?_⟩
  rw [closesLast_iff, scriptElement_eq_none_iff, not_not, and_self]
  decide

end DocPortal.Viewer
