/-
Where one text occurs in another that is put together from parts: behind
characters it does not start with, around a separator it does not hold,
and first of all behind parts that it does not touch (`Avoids`).
-/

namespace DocPortal.Text

variable {α : Type} {x q : α} {p a b : List α}

/-- What does not start in the first part occurs in the second. -/
theorem infix_of_head_not_mem (hx : x ∉ a) (h : x :: p <:+: a ++ b) : x :: p <:+: b := by
  induction a with
  | nil => exact h
  | cons y a ih =>
    simp only [List.mem_cons, not_or] at hx
    rw [List.cons_append, List.infix_cons_iff, List.cons_prefix_cons] at h
    rcases h with ⟨hxy, -⟩ | h
    · exact absurd hxy hx.1
    · exact ih hx.2 h

/-- A text without the separator is a beginning only of what stands before it. -/
theorem prefix_append_cons_iff (hq : q ∉ p) : p <+: a ++ q :: b ↔ p <+: a := by
  induction p generalizing a with
  | nil => simp
  | cons y p ih =>
    simp only [List.mem_cons, not_or] at hq
    cases a with
    | nil =>
      rw [List.nil_append, List.cons_prefix_cons]
      constructor
      · rintro ⟨rfl, -⟩; exact absurd rfl hq.1
      · intro h; simp at h
    | cons z a => rw [List.cons_append, List.cons_prefix_cons, List.cons_prefix_cons, ih hq.2]

/-- A text without the separator occurs on one side of it. -/
theorem infix_append_cons_iff (hq : q ∉ p) : p <:+: a ++ q :: b ↔ p <:+: a ∨ p <:+: b := by
  induction a with
  | nil =>
    rw [List.nil_append, List.infix_cons_iff, ← List.nil_append (q :: b),
      prefix_append_cons_iff hq, List.prefix_nil, List.infix_nil]
  | cons y a ih =>
    rw [List.cons_append, List.infix_cons_iff, ih, List.infix_cons_iff, ← List.cons_append,
      prefix_append_cons_iff hq, or_assoc]

/-! ## Texts without a mark -/

/-- No mark starts in the text, not even one that ends behind it. -/
def Avoids (mark : List α) : List α → Prop
  | [] => True
  | c :: rest => (¬ mark <+: c :: rest ∧ ¬ c :: rest <+: mark) ∧ Avoids mark rest

theorem avoids_of_not_mem (hx : x ∉ a) : Avoids (x :: p) a := by
  induction a with
  | nil => exact trivial
  | cons y a ih =>
    simp only [List.mem_cons, not_or] at hx
    refine ⟨⟨fun h => ?_, fun h => ?_⟩, ih hx.2⟩
    · exact hx.1 (List.cons_prefix_cons.1 h).1
    · exact hx.1 (List.cons_prefix_cons.1 h).1.symm

theorem Avoids.append {mark a b : List α} (ha : Avoids mark a) (hb : Avoids mark b) :
    Avoids mark (a ++ b) := by
  induction a with
  | nil => exact hb
  | cons c a ih =>
    obtain ⟨⟨hwhole, hpart⟩, ha⟩ := ha
    have hside : c :: a <+: c :: (a ++ b) := List.prefix_append (c :: a) b
    refine ⟨⟨fun hmark => ?_, fun hmark => ?_⟩, ih ha⟩
    · rcases List.prefix_or_prefix_of_prefix hmark hside with hmark | hmark
      · exact hwhole hmark
      · exact hpart hmark
    · exact hpart (hside.trans hmark)

theorem Avoids.not_prefix {mark text : List α} {c : α} (h : Avoids mark (c :: text))
    (rest : List α) : ¬ mark <+: c :: (text ++ rest) := by
  intro hmark
  have hside : c :: text <+: c :: (text ++ rest) := List.prefix_append (c :: text) rest
  rcases List.prefix_or_prefix_of_prefix hmark hside with hmark | hmark
  · exact h.1.1 hmark
  · exact h.1.2 hmark

/-! ## Every occurrence -/

/-- What avoids the mark stands in front of every place where the mark stands. -/
theorem Avoids.prefix_iff {mark text : List α} (h : Avoids mark text) (before rest : List α) :
    before ++ mark <+: text ++ rest ↔
      ∃ between, before = text ++ between ∧ between ++ mark <+: rest := by
  induction text generalizing before with
  | nil => simp
  | cons c text ih =>
    cases before with
    | nil => simpa using h.not_prefix rest
    | cons d before => simp [List.cons_prefix_cons, ih h.2, and_assoc]

/-- A mark whose first character is in it only once does not stand in itself again. -/
theorem prefix_mark_append_iff (hx : x ∉ p) (before rest : List α) :
    before ++ x :: p <+: (x :: p) ++ rest ↔
      before = [] ∨ ∃ between, before = (x :: p) ++ between ∧ between ++ x :: p <+: rest := by
  cases before with
  | nil => simp [List.cons_prefix_cons]
  | cons d before =>
    have hself : Avoids (x :: p) p := avoids_of_not_mem hx
    simp [List.cons_prefix_cons, hself.prefix_iff, and_assoc]

/-- Nor does it stand across the beginning of a text that starts with its first character. -/
theorem prefix_append_cons_iff_of_end (hx : x ∉ p) (hfoot : ¬ x :: p <:+: x :: b)
    (before : List α) : before ++ x :: p <+: a ++ x :: b ↔ before ++ x :: p <+: a := by
  induction a generalizing before with
  | nil =>
    rw [List.nil_append, List.prefix_nil]
    constructor
    · intro h
      exact absurd ((List.suffix_append before (x :: p)).isInfix.trans h.isInfix) hfoot
    · intro h
      simp at h
  | cons c a ih =>
    cases before with
    | nil =>
      rw [List.nil_append, List.cons_append, List.cons_prefix_cons, List.cons_prefix_cons,
        prefix_append_cons_iff hx]
    | cons d before =>
      rw [List.cons_append, List.cons_append, List.cons_prefix_cons, List.cons_prefix_cons, ih]

/-- Between texts without the mark and in front of such an end, a mark stands once, and where it
stands in the text that is left. -/
theorem prefix_around_iff {s t before : List α} (hx : x ∉ p) (ha : Avoids (x :: p) a)
    (hb : Avoids (x :: p) b) (ht : ¬ x :: p <:+: x :: t) :
    before ++ x :: p <+: a ++ ((x :: p) ++ (b ++ (s ++ x :: t))) ↔
      before = a ∨ ∃ inner, before = a ++ ((x :: p) ++ (b ++ inner)) ∧ inner ++ x :: p <+: s := by
  rw [ha.prefix_iff]
  constructor
  · rintro ⟨between, rfl, h⟩
    rcases (prefix_mark_append_iff hx _ _).1 h with rfl | ⟨behind, rfl, hbehind⟩
    · exact .inl (List.append_nil a)
    · obtain ⟨inner, rfl, hinner⟩ := (hb.prefix_iff _ _).1 hbehind
      exact .inr ⟨inner, rfl, (prefix_append_cons_iff_of_end hx ht inner).1 hinner⟩
  · rintro (rfl | ⟨inner, rfl, h⟩)
    · exact ⟨[], (List.append_nil before).symm, List.prefix_append _ _⟩
    · refine ⟨_, rfl, (prefix_mark_append_iff hx _ _).2 (.inr ⟨_, rfl, ?_⟩)⟩
      exact (hb.prefix_iff _ _).2 ⟨inner, rfl, h.trans (List.prefix_append _ _)⟩

/-! ## The first occurrence -/

variable [DecidableEq α]

/-- What stands behind the first place where a mark stands. -/
def behindFirst (mark : List α) : List α → Option (List α)
  | [] => none
  | c :: rest =>
    if mark <+: c :: rest then some ((c :: rest).drop mark.length) else behindFirst mark rest

instance decidableAvoids (mark : List α) : ∀ text, Decidable (Avoids mark text)
  | [] => inferInstanceAs (Decidable True)
  | c :: rest =>
    have : Decidable (Avoids mark rest) := decidableAvoids mark rest
    inferInstanceAs (Decidable ((¬ mark <+: c :: rest ∧ ¬ c :: rest <+: mark) ∧ Avoids mark rest))

theorem behindFirst_append {mark text : List α} (h : Avoids mark text) (rest : List α) :
    behindFirst mark (text ++ rest) = behindFirst mark rest := by
  induction text with
  | nil => rfl
  | cons c text ih =>
    rw [List.cons_append, behindFirst, if_neg (h.not_prefix rest), ih h.2]

/-- The mark itself is found where it stands. -/
theorem behindFirst_mark (rest : List α) : behindFirst (x :: p) (x :: p ++ rest) = some rest := by
  have hhere : x :: p <+: x :: (p ++ rest) := List.prefix_append (x :: p) rest
  rw [List.cons_append, behindFirst, if_pos hhere]
  simp

/-- A longer mark is found where the shorter is, if it is there. -/
theorem behindFirst_append_mark {mark more text rest : List α}
    (h : behindFirst mark text = some (more ++ rest)) :
    behindFirst (mark ++ more) text = some rest := by
  induction text with
  | nil => cases h
  | cons c text ih =>
    rw [behindFirst] at h ⊢
    split at h
    · next hmark =>
      obtain ⟨behind, hbehind⟩ := hmark
      rw [← hbehind, List.drop_left, Option.some.injEq] at h
      subst h
      rw [← hbehind, ← List.append_assoc, if_pos (List.prefix_append _ _), List.drop_left]
    · next hmark =>
      have hlonger : ¬ mark ++ more <+: c :: text := fun hlonger =>
        hmark ((List.prefix_append mark more).trans hlonger)
      rw [if_neg hlonger, ih h]

end DocPortal.Text
