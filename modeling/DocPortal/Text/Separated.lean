/-
Lists written in one text: entries between separators, and a pair around
the first separator.

The service's lists are written with commas and read leniently: blanks
around an entry are no part of it, and an entry of nothing but blanks is
no entry (`entries`).
-/
import DocPortal.Text.Blank

namespace DocPortal.Text

/-- The pieces of `s` between the `sep`s, one more than there are `sep`s. -/
def pieces (sep : Char) (s : String) : List String :=
  (s.toList.splitOn sep).map String.ofList

/-- The trimmed pieces of a comma-separated text that are not blank. -/
def entries (s : String) : List String :=
  ((pieces ',' s).map trim).filter (· ≠ "")

/-- What stands before and after the first `sep`. -/
def cutChars (sep : Char) : List Char → Option (List Char × List Char)
  | [] => none
  | c :: rest =>
    if c = sep then some ([], rest)
    else (cutChars sep rest).map fun (before, after) => (c :: before, after)

/-- What stands before and after the first `sep` of a text, if it has one. -/
def cut (sep : Char) (s : String) : Option (String × String) :=
  (cutChars sep s.toList).map fun (before, after) => (String.ofList before, String.ofList after)

/-- A cut loses the separator and nothing else, and cuts at the first. -/
theorem cutChars_eq_some_iff {sep : Char} {cs before after : List Char} :
    cutChars sep cs = some (before, after) ↔ sep ∉ before ∧ cs = before ++ sep :: after := by
  induction cs generalizing before with
  | nil => simp [cutChars]
  | cons c rest ih =>
    rw [cutChars]
    split
    · next h =>
      subst h
      cases before with
      | nil => simp [eq_comm]
      | cons b before => simp; rintro h _ rfl; exact absurd rfl h
    · next h =>
      simp only [Option.map_eq_some_iff, Prod.mk.injEq, Prod.exists]
      constructor
      · rintro ⟨b, a, hcut, rfl, rfl⟩
        obtain ⟨hb, rfl⟩ := ih.1 hcut
        exact ⟨by simp [hb, Ne.symm h], rfl⟩
      · rintro ⟨hb, heq⟩
        cases before with
        | nil => simp only [List.nil_append, List.cons.injEq] at heq; exact absurd heq.1 h
        | cons b before =>
          simp only [List.cons_append, List.cons.injEq] at heq
          obtain ⟨rfl, heq⟩ := heq
          exact ⟨before, after, ih.2 ⟨fun hm => hb (by simp [hm]), heq⟩, rfl, rfl⟩

/-- There is no cut exactly when there is no separator. -/
theorem cutChars_eq_none_iff {sep : Char} {cs : List Char} : cutChars sep cs = none ↔ sep ∉ cs := by
  induction cs with
  | nil => simp [cutChars]
  | cons c rest ih =>
    rw [cutChars]
    split
    · next h => simp [h]
    · next h => simp [ih, Ne.symm h]

end DocPortal.Text
