/-
Reading JSON in its compact text, the way the service writes it: no blanks
between tokens, and natural numbers only, without leading zeros. What is
read keeps the members of an object in their order.

Reading what was written gives back the value (`read_compact`).
-/
import DocPortal.Json.Value

namespace DocPortal.Json

/-! ## Reading -/

/-- A number at the start of a text, in the form in which it is written. -/
def readNumber (cs : List Char) : Option (Json × List Char) :=
  let digits := cs.takeWhile Char.isDigit
  let n := Nat.ofDigitChars 10 digits 0
  if (toString n).toList = digits then some (num n, cs.dropWhile Char.isDigit) else none

mutual

/-- The value at the start of a text, and what follows it. -/
def readValue : (fuel : Nat) → List Char → Option (Json × List Char)
  | 0, _ => none
  | fuel + 1, cs =>
    match cs with
    | 'n' :: 'u' :: 'l' :: 'l' :: rest => some (null, rest)
    | 't' :: 'r' :: 'u' :: 'e' :: rest => some (bool true, rest)
    | 'f' :: 'a' :: 'l' :: 's' :: 'e' :: rest => some (bool false, rest)
    | '"' :: rest => (readString rest).map fun (text, rest) => (str (String.ofList text), rest)
    | '[' :: ']' :: rest => some (arr [], rest)
    | '[' :: rest => (readItems fuel rest).map fun (items, rest) => (arr items, rest)
    | '{' :: '}' :: rest => some (obj [], rest)
    | '{' :: rest => (readMembers fuel rest).map fun (members, rest) => (obj members, rest)
    | cs => readNumber cs

/-- The items of an array up to its bracket, and what follows that; there is at least one. -/
def readItems : (fuel : Nat) → List Char → Option (List Json × List Char)
  | 0, _ => none
  | fuel + 1, cs => do
    let (item, rest) ← readValue fuel cs
    match rest with
    | ',' :: rest =>
      let (items, rest) ← readItems fuel rest
      return (item :: items, rest)
    | ']' :: rest => return ([item], rest)
    | _ => none

/-- The members of an object up to its brace, and what follows that; there is at least one. -/
def readMembers : (fuel : Nat) → List Char → Option (List (String × Json) × List Char)
  | 0, _ => none
  | fuel + 1, cs => do
    let ('"' :: rest) := cs | none
    let (name, rest) ← readString rest
    let (':' :: rest) := rest | none
    let (value, rest) ← readValue fuel rest
    match rest with
    | ',' :: rest =>
      let (members, rest) ← readMembers fuel rest
      return ((String.ofList name, value) :: members, rest)
    | '}' :: rest => return ([(String.ofList name, value)], rest)
    | _ => none

end

/-- The value that a text writes, all of it. -/
def read (text : String) : Option Json :=
  match readValue text.toList.length text.toList with
  | some (value, []) => some value
  | _ => none

/-! ## Reading what was written -/

/-- A text that does not go on with a digit. -/
def NoDigit (rest : List Char) : Prop :=
  ∀ c after, rest = c :: after → c.isDigit = false

theorem NoDigit.nil : NoDigit [] := by simp [NoDigit]

theorem NoDigit.cons {c : Char} {rest : List Char} (h : c.isDigit = false) :
    NoDigit (c :: rest) := by
  rintro _ _ ⟨⟩
  exact h

theorem takeWhile_isDigit_append {digits rest : List Char} (h : ∀ c ∈ digits, c.isDigit = true)
    (hrest : NoDigit rest) : (digits ++ rest).takeWhile Char.isDigit = digits := by
  rw [List.takeWhile_append_of_pos h]
  cases rest with
  | nil => simp
  | cons c after => simp [hrest c after rfl]

theorem dropWhile_isDigit_append {digits rest : List Char} (h : ∀ c ∈ digits, c.isDigit = true)
    (hrest : NoDigit rest) : (digits ++ rest).dropWhile Char.isDigit = rest := by
  rw [List.dropWhile_append_of_pos h]
  cases rest with
  | nil => simp
  | cons c after => simp [hrest c after rfl]

theorem readNumber_toString (n : Nat) {rest : List Char} (hrest : NoDigit rest) :
    readNumber ((toString n).toList ++ rest) = some (num n, rest) := by
  have htext : (toString n).toList = Nat.toDigits 10 n := by
    rw [Nat.toString_eq_repr, Nat.repr, String.toList_ofList]
  have hdigits : ∀ c ∈ (toString n).toList, c.isDigit = true := fun c hc =>
    Nat.isDigit_of_mem_toDigits (by decide) (by decide) (htext ▸ hc)
  have hvalue : Nat.ofDigitChars 10 (toString n).toList 0 = n := by
    rw [htext, Nat.ofDigitChars_toDigits (by decide) (by decide)]
  simp only [readNumber, takeWhile_isDigit_append hdigits hrest,
    dropWhile_isDigit_append hdigits hrest, hvalue, if_true]

theorem readValue_of_digit {fuel : Nat} {c : Char} {cs : List Char} (hc : c.isDigit = true) :
    readValue (fuel + 1) (c :: cs) = readNumber (c :: cs) := by
  rw [readValue]
  all_goals
    rintro _ ⟨⟩
    exact absurd hc (by decide)

/-- No value is written starting with a closing bracket. -/
theorem exists_compact_cons (v : Json) :
    ∃ c cs, v.compact.toList = c :: cs ∧ c ≠ ']' := by
  cases v with
  | null => exact ⟨'n', _, rfl, by decide⟩
  | bool b => cases b <;> exact ⟨_, _, rfl, by decide⟩
  | num n =>
    have hne : Nat.toDigits 10 n ≠ [] := Nat.toDigits_ne_nil
    obtain ⟨c, cs, hcs⟩ := List.exists_cons_of_ne_nil hne
    refine ⟨c, cs, by simp [compact, Nat.toString_eq_repr, hcs], ?_⟩
    rintro rfl
    have hdigit := Nat.isDigit_of_mem_toDigits (b := 10) (n := n) (c := ']') (by decide) (by decide)
      (by simp [hcs])
    exact absurd hdigit (by decide)
  | str s => exact ⟨'"', _, toList_quoted s, by decide⟩
  | arr items => exact ⟨'[', (compactItems items).toList ++ [']'], by simp [compact], by decide⟩
  | obj members =>
    exact ⟨'{', (compactMembers members).toList ++ ['}'], by simp [compact], by decide⟩

theorem exists_compactItems_cons (item : Json) (items : List Json) :
    ∃ c cs, (compactItems (item :: items)).toList = c :: cs ∧ c ≠ ']' := by
  obtain ⟨c, cs, hcs, hc⟩ := exists_compact_cons item
  cases items with
  | nil => exact ⟨c, cs, by simpa [compactItems] using hcs, hc⟩
  | cons next items =>
    exact ⟨c, cs ++ ',' :: (compactItems (next :: items)).toList,
      by simp [compactItems, hcs], hc⟩

theorem exists_compactMembers_cons (member : String × Json) (members : List (String × Json)) :
    ∃ cs, (compactMembers (member :: members)).toList = '"' :: cs := by
  obtain ⟨name, value⟩ := member
  cases members <;> exact ⟨_, by simp [compactMembers]; rfl⟩

/-- With fuel for as many characters as are written, each of the three readers reads what its
writer wrote. -/
theorem readers_compact (fuel : Nat) :
    (∀ (v : Json) (rest : List Char), v.compact.toList.length ≤ fuel → NoDigit rest →
      readValue fuel (v.compact.toList ++ rest) = some (v, rest)) ∧
    (∀ (item : Json) (items : List Json) (rest : List Char),
      (compactItems (item :: items)).toList.length < fuel →
      readItems fuel ((compactItems (item :: items)).toList ++ ']' :: rest) =
        some (item :: items, rest)) ∧
    (∀ (member : String × Json) (members : List (String × Json)) (rest : List Char),
      (compactMembers (member :: members)).toList.length < fuel →
      readMembers fuel ((compactMembers (member :: members)).toList ++ '}' :: rest) =
        some (member :: members, rest)) := by
  have hcolon : ":".toList = [':'] := by decide
  have hcomma : ",".toList = [','] := by decide
  induction fuel with
  | zero =>
    refine ⟨fun v rest hfuel _ => ?_, fun _ _ _ h => by omega, fun _ _ _ h => by omega⟩
    obtain ⟨c, cs, hcs, -⟩ := exists_compact_cons v
    simp [hcs] at hfuel
  | succ fuel ih =>
    obtain ⟨ihvalue, ihitems, ihmembers⟩ := ih
    refine ⟨fun v rest hfuel hrest => ?_, fun item items rest hfuel => ?_,
      fun member members rest hfuel => ?_⟩
    · cases v with
      | null => rfl
      | bool b => cases b <;> rfl
      | num n =>
        obtain ⟨c, cs, hcs, -⟩ := exists_compact_cons (num n)
        have hdigit : c.isDigit = true := by
          refine Nat.isDigit_of_mem_toDigits (b := 10) (n := n) (by decide) (by decide) ?_
          rw [← Nat.toList_repr, ← Nat.toString_eq_repr]
          exact (show (toString n).toList = c :: cs from hcs) ▸ List.mem_cons_self
        rw [hcs, List.cons_append, readValue_of_digit hdigit, ← List.cons_append, ← hcs]
        exact readNumber_toString n hrest
      | str s => simp [compact, readValue, readString_escapeChars]
      | arr items =>
        cases items with
        | nil => simp [compact, compactItems, readValue]
        | cons item items =>
          obtain ⟨c, cs, hcs, hc⟩ := exists_compactItems_cons item items
          have hitems := ihitems item items rest (by simp [compact] at hfuel; omega)
          have htext : (arr (item :: items)).compact.toList ++ rest =
              '[' :: c :: (cs ++ ']' :: rest) := by simp [compact, hcs]
          rw [hcs] at hitems
          rw [htext, readValue]
          · rw [← List.cons_append, hitems]; rfl
          · rintro _ ⟨⟩; exact hc rfl
      | obj members =>
        cases members with
        | nil => simp [compact, compactMembers, readValue]
        | cons member members =>
          obtain ⟨cs, hcs⟩ := exists_compactMembers_cons member members
          have hmembers := ihmembers member members rest (by simp [compact] at hfuel; omega)
          have htext : (obj (member :: members)).compact.toList ++ rest =
              '{' :: '"' :: (cs ++ '}' :: rest) := by simp [compact, hcs]
          rw [hcs] at hmembers
          rw [htext, readValue]
          · rw [← List.cons_append, hmembers]; rfl
          · rintro _ ⟨⟩
    · cases items with
      | nil =>
        have hitem := ihvalue item (']' :: rest)
          (by simp only [compactItems] at hfuel; omega) (.cons (by decide))
        simp [readItems, compactItems, hitem]
      | cons next items =>
        simp only [compactItems, String.toList_append, List.length_append, hcomma,
          List.length_singleton] at hfuel ⊢
        have hitem := ihvalue item
          (',' :: ((compactItems (next :: items)).toList ++ ']' :: rest))
          (by omega) (.cons (by decide))
        have hitems := ihitems next items rest (by omega)
        simp [readItems, hitem, hitems]
    · obtain ⟨name, value⟩ := member
      cases members with
      | nil =>
        simp only [compactMembers, String.toList_append, List.length_append, hcolon] at hfuel ⊢
        have hvalue := ihvalue value ('}' :: rest) (by omega) (.cons (by decide))
        simp [readMembers, readString_escapeChars, hvalue]
      | cons next members =>
        simp only [compactMembers, String.toList_append, List.length_append, hcolon, hcomma,
          List.length_singleton] at hfuel ⊢
        have hvalue := ihvalue value
          (',' :: ((compactMembers (next :: members)).toList ++ '}' :: rest))
          (by omega) (.cons (by decide))
        have hmembers := ihmembers next members rest (by omega)
        simp [readMembers, readString_escapeChars, hvalue, hmembers]

/-- Reading a written value gives back the value. -/
theorem read_compact (v : Json) : read v.compact = some v := by
  have h := (readers_compact v.compact.toList.length).1 v [] (Nat.le_refl _) .nil
  rw [List.append_nil] at h
  rw [read, h]

end DocPortal.Json
