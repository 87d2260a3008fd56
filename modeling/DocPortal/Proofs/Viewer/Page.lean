/-
What an attribute's value leaves out, and what a page says about the place
of the viewer's files: pages of one configuration are the same only for the
same place (`eq_of_render_eq`).
-/
import DocPortal.Proofs.Text.Separated
import DocPortal.Viewer.Page

namespace DocPortal.Viewer

/-! ## Attributes -/

theorem attributeChar_of_not_mem {c : Char} (h : c ∉ "&\"<>".toList) : attributeChar c = [c] := by
  simp only [String.reduceToList, List.mem_cons, List.not_mem_nil, or_false, not_or] at h
  unfold attributeChar
  split <;> simp_all

theorem ne_of_mem_attributeValue {s : String} {c : Char} (h : c ∈ (attributeValue s).toList) :
    c ≠ '"' ∧ c ≠ '<' ∧ c ≠ '>' := by
  rw [toList_attributeValue, List.mem_flatMap] at h
  obtain ⟨d, -, hc⟩ := h
  by_cases hd : d ∈ "&\"<>".toList
  · have hreferences : ("&\"<>".toList.all fun e => (attributeChar e).all fun f =>
        f ≠ '"' && f ≠ '<' && f ≠ '>') = true := by decide
    have href := List.all_eq_true.1 (List.all_eq_true.1 hreferences d hd) c hc
    simpa only [Bool.and_eq_true, decide_eq_true_eq, and_assoc] using href
  · rw [attributeChar_of_not_mem hd, List.mem_singleton] at hc
    simp only [String.reduceToList, List.mem_cons, List.not_mem_nil, or_false, not_or] at hd
    obtain ⟨-, hquote, hless, hgreater⟩ := hd
    subst hc
    exact ⟨hquote, hless, hgreater⟩

theorem attributeValue_inj {s t : String} (h : attributeValue s = attributeValue t) : s = t := by
  rw [← String.toList_inj, ← decodeReferences_attributeValue, h, decodeReferences_attributeValue]

namespace Page

theorem toList_render (config : Config) (assets : Assets) :
    (render config assets).toList =
      (head config assets).toList ++ ((scriptText config).toList ++ foot.toList) := by
  rw [render, String.toList_append, String.toList_append, List.append_assoc]

/-- The page up to its first attribute. -/
def opening : String :=
  "<!DOCTYPE html>\n" ++
  "<html lang=\"en\">\n" ++
  "<head>\n" ++
  "    <meta charset=\"UTF-8\">\n" ++
  "    <title>API Documentation</title>\n" ++
  "    <link rel=\"stylesheet\" type=\"text/css\" href=\""

theorem exists_render_eq (config : Config) (assets : Assets) :
    ∃ rest, (render config assets).toList =
      opening.toList ++ ((attributeValue assets.stylesheet).toList ++ '"' :: rest) := by
  have hclose : "\" />\n".toList = '"' :: " />\n".toList := by decide
  unfold render head opening
  simp only [String.toList_append, List.append_assoc, hclose, List.cons_append]
  exact ⟨_, rfl⟩

theorem eq_of_render_eq {config : Config} {assets other : Assets}
    (h : render config assets = render config other) : assets = other := by
  obtain ⟨rest, hrest⟩ := exists_render_eq config assets
  obtain ⟨otherRest, hother⟩ := exists_render_eq config other
  have hquote (assets : Assets) : '"' ∉ (attributeValue assets.stylesheet).toList :=
    fun hmem => (ne_of_mem_attributeValue hmem).1 rfl
  rw [h, hother] at hrest
  have hstylesheet := Text.eq_of_append_cons_eq (hquote other) (hquote assets)
    (List.append_cancel_left hrest)
  rw [String.toList_inj] at hstylesheet
  have hbase := congrArg String.toList (attributeValue_inj hstylesheet)
  simp only [Assets.stylesheet, Assets.file, String.toList_append, List.append_cancel_right_eq,
    String.toList_inj] at hbase
  obtain ⟨base⟩ := assets
  exact congrArg Assets.mk hbase.symm

end Page

end DocPortal.Viewer
