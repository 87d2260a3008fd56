/-
Values of double-quoted attributes of a page: writing and reading.

Reading the references that were written gives back the text
(`decodeReferences_attributeValue`).
-/

namespace DocPortal.Viewer

/-- What is written for one character: a reference for `&`, `"`, `<` and `>`. -/
def attributeChar (c : Char) : List Char :=
  match c with
  | '&' => ['&', 'a', 'm', 'p', ';']
  | '"' => ['&', 'q', 'u', 'o', 't', ';']
  | '<' => ['&', 'l', 't', ';']
  | '>' => ['&', 'g', 't', ';']
  | c => [c]

/-- A text as the value of an attribute, without the quotes. -/
def attributeValue (s : String) : String :=
  String.ofList (s.toList.flatMap attributeChar)

/-- The characters with the references for those four read, in one pass from the left. -/
def decodeReferences : List Char → List Char
  | '&' :: 'a' :: 'm' :: 'p' :: ';' :: rest => '&' :: decodeReferences rest
  | '&' :: 'q' :: 'u' :: 'o' :: 't' :: ';' :: rest => '"' :: decodeReferences rest
  | '&' :: 'l' :: 't' :: ';' :: rest => '<' :: decodeReferences rest
  | '&' :: 'g' :: 't' :: ';' :: rest => '>' :: decodeReferences rest
  | c :: rest => c :: decodeReferences rest
  | [] => []

@[simp]
theorem toList_attributeValue (s : String) :
    (attributeValue s).toList = s.toList.flatMap attributeChar := by
  simp [attributeValue]

theorem decodeReferences_attributeChar (c : Char) (rest : List Char) :
    decodeReferences (attributeChar c ++ rest) = c :: decodeReferences rest := by
  unfold attributeChar
  split
  iterate 4
    · rfl
  · next hamp _ _ _ =>
    rw [List.singleton_append, decodeReferences]
    all_goals
      rintro _ rfl
      exact absurd rfl hamp

/-- The references in an attribute's value are read back as the text. -/
theorem decodeReferences_attributeValue (s : String) :
    decodeReferences (attributeValue s).toList = s.toList := by
  rw [toList_attributeValue]
  induction s.toList with
  | nil => rfl
  | cons c cs ih => rw [List.flatMap_cons, decodeReferences_attributeChar, ih]

end DocPortal.Viewer
