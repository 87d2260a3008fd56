/-
The path of a request target, told by the target's form. What stands before
the query is a path itself, the asterisk, or an address with a scheme,
whose path begins behind its host; and what has none of these forms is a
host alone, without a path (`path_eq_iff_hasPath`).
-/
import Mathlib.Data.List.TakeWhile
import DocPortal.Http.Message

namespace DocPortal.Http

/-! ## Schemes -/

/-- A character of a scheme. -/
def isSchemeChar (c : Char) : Bool :=
  c.isAlphanum || c ∈ ['+', '-', '.', '~']

/-- A text is a scheme, its mark, and a rest. -/
def IsBehindScheme (cs rest : List Char) : Prop :=
  ∃ scheme, (∀ c ∈ scheme, isSchemeChar c = true) ∧ cs = scheme ++ ':' :: '/' :: '/' :: rest

/-- Without the mark at its start, a text goes on with a character of its scheme. -/
theorem isBehindScheme_cons_iff {c : Char} {cs rest : List Char}
    (hmark : c = ':' → cs ≠ '/' :: '/' :: rest) :
    IsBehindScheme (c :: cs) rest ↔ isSchemeChar c = true ∧ IsBehindScheme cs rest := by
  constructor
  · rintro ⟨scheme, hscheme, hcs⟩
    cases scheme with
    | nil =>
      rw [List.nil_append, List.cons.injEq] at hcs
      exact absurd hcs.2 (hmark hcs.1)
    | cons d scheme =>
      rw [List.cons_append, List.cons.injEq] at hcs
      obtain ⟨rfl, hcs⟩ := hcs
      obtain ⟨hfirst, hscheme⟩ := List.forall_mem_cons.1 hscheme
      exact ⟨hfirst, scheme, hscheme, hcs⟩
  · rintro ⟨hfirst, scheme, hscheme, rfl⟩
    exact ⟨c :: scheme, List.forall_mem_cons.2 ⟨hfirst, hscheme⟩, rfl⟩

theorem afterScheme_eq_some_iff {cs rest : List Char} :
    afterScheme cs = some rest ↔ IsBehindScheme cs rest := by
  induction cs using afterScheme.induct with
  | case1 cs =>
    rw [afterScheme, Option.some.injEq]
    constructor
    · rintro rfl
      exact ⟨[], by simp, rfl⟩
    · rintro ⟨scheme, hscheme, hcs⟩
      cases scheme with
      | nil => simpa using hcs
      | cons c scheme =>
        obtain ⟨rfl, -⟩ := List.cons.inj hcs
        exact absurd (hscheme ':' List.mem_cons_self) (by decide)
  | case2 c cs hmark hchar ih =>
    have hscheme : isSchemeChar c = true := by simpa [isSchemeChar] using hchar
    rw [afterScheme, if_pos hchar, ih, isBehindScheme_cons_iff (hmark rest), hscheme]
    · simp
    · exact hmark
  | case3 c cs hmark hchar =>
    have hscheme : ¬ isSchemeChar c = true := by simpa [isSchemeChar] using hchar
    rw [afterScheme, if_neg hchar, isBehindScheme_cons_iff (hmark rest)]
    · simp [hscheme]
    · exact hmark
  | case4 =>
    refine ⟨nofun, ?_⟩
    rintro ⟨scheme, -, hcs⟩
    exact absurd hcs.symm (by simp)

/-! ## Paths -/

/-- What stands before the query has a path. -/
inductive HasFrontPath : (front path : List Char) → Prop
  | path (rest : List Char) : HasFrontPath ('/' :: rest) ('/' :: rest)
  | asterisk : HasFrontPath ['*'] ['*']
  /-- An address goes on behind its host. -/
  | address {front host rest : List Char} :
    IsBehindScheme front (host ++ '/' :: rest) → '/' ∉ host → HasFrontPath front ('/' :: rest)
  /-- An address ends with its host. -/
  | root {front host : List Char} :
    IsBehindScheme front host → '/' ∉ host → HasFrontPath front ['/']
  /-- Anything else is a host alone. -/
  | host {front : List Char} : front.head? ≠ some '/' → front ≠ ['*'] →
    (∀ rest, ¬ IsBehindScheme front rest) → HasFrontPath front []

/-- A target has a path: that of what stands before its query or its fragment. -/
def HasPath (target path : String) : Prop :=
  ∃ front tail, target.toList = front ++ tail ∧ '?' ∉ front ∧ '#' ∉ front ∧
    (tail = [] ∨ ∃ rest, tail = '?' :: rest ∨ tail = '#' :: rest) ∧
    HasFrontPath front path.toList

/-! ## Reading a path -/

/-- The path of an address, which is read from behind its scheme. -/
def addressPath (address : List Char) : List Char :=
  match address.dropWhile (· ≠ '/') with
  | [] => ['/']
  | path => path

/-- The path of what stands before the query, as it is read. -/
def frontPath (front : List Char) : List Char :=
  match front with
  | '/' :: _ | ['*'] => front
  | _ =>
    match afterScheme front with
    | none => []
    | some address => addressPath address

theorem pathChars_eq (target : List Char) :
    pathChars target = frontPath (target.takeWhile fun c => c ≠ '?' && c ≠ '#') := rfl

/-- A host is passed over. -/
theorem dropWhile_host {host : List Char} (h : '/' ∉ host) (rest : List Char) :
    (host ++ rest).dropWhile (· ≠ '/') = rest.dropWhile (· ≠ '/') := by
  refine List.dropWhile_append_of_pos fun c hc => ?_
  have hslash : c ≠ '/' := fun hslash => h (hslash ▸ hc)
  simpa using hslash

theorem addressPath_of_not_mem {host : List Char} (h : '/' ∉ host) : addressPath host = ['/'] := by
  rw [addressPath, ← List.append_nil host, dropWhile_host h]
  rfl

theorem addressPath_append {host : List Char} (h : '/' ∉ host) (rest : List Char) :
    addressPath (host ++ '/' :: rest) = '/' :: rest := by
  rw [addressPath, dropWhile_host h]
  rfl

/-- What has the form of no path is read by its scheme. -/
theorem frontPath_of_not_path {front : List Char} (hslash : front.head? ≠ some '/')
    (hasterisk : front ≠ ['*']) :
    frontPath front =
      match afterScheme front with
      | none => []
      | some address => addressPath address := by
  unfold frontPath
  split
  · exact absurd rfl hslash
  · exact absurd rfl hasterisk
  · rfl

theorem frontPath_of_behindScheme {front address : List Char} (h : IsBehindScheme front address) :
    frontPath front = addressPath address := by
  have hslash : front.head? ≠ some '/' := by
    obtain ⟨scheme, hscheme, rfl⟩ := h
    cases scheme with
    | nil => simp
    | cons c scheme =>
      intro hfirst
      obtain rfl := Option.some.inj hfirst
      exact absurd (hscheme '/' List.mem_cons_self) (by decide)
  have hasterisk : front ≠ ['*'] := by
    obtain ⟨scheme, -, rfl⟩ := h
    intro hfront
    have hlength := congrArg List.length hfront
    simp only [List.length_append, List.length_cons, List.length_nil] at hlength
    omega
  rw [frontPath_of_not_path hslash hasterisk, afterScheme_eq_some_iff.2 h]

theorem frontPath_of_host {front : List Char} (hslash : front.head? ≠ some '/')
    (hasterisk : front ≠ ['*']) (hscheme : ∀ rest, ¬ IsBehindScheme front rest) :
    frontPath front = [] := by
  have hnone : afterScheme front = none := by
    rw [Option.eq_none_iff_forall_ne_some]
    exact fun rest hrest => hscheme rest (afterScheme_eq_some_iff.1 hrest)
  rw [frontPath_of_not_path hslash hasterisk, hnone]

/-- What is read is a path that the form tells. -/
theorem hasFrontPath_frontPath (front : List Char) : HasFrontPath front (frontPath front) := by
  by_cases hslash : front.head? = some '/'
  · obtain ⟨rest, rfl⟩ := List.head?_eq_some_iff.1 hslash
    exact .path rest
  by_cases hasterisk : front = ['*']
  · subst hasterisk
    exact .asterisk
  by_cases hscheme : ∃ address, IsBehindScheme front address
  · obtain ⟨address, hscheme⟩ := hscheme
    rw [frontPath_of_behindScheme hscheme]
    by_cases hmem : '/' ∈ address
    · obtain ⟨host, rest, rfl, hhost⟩ := List.eq_append_cons_of_mem hmem
      rw [addressPath_append hhost]
      exact .address hscheme hhost
    · rw [addressPath_of_not_mem hmem]
      exact .root hscheme hmem
  · have hnone : ∀ rest, ¬ IsBehindScheme front rest := not_exists.1 hscheme
    rw [frontPath_of_host hslash hasterisk hnone]
    exact .host hslash hasterisk hnone

theorem frontPath_eq_iff {front path : List Char} :
    frontPath front = path ↔ HasFrontPath front path := by
  constructor
  · rintro rfl
    exact hasFrontPath_frontPath front
  · intro h
    cases h with
    | path | asterisk => rfl
    | address hscheme hhost => rw [frontPath_of_behindScheme hscheme, addressPath_append hhost]
    | root hscheme hhost => rw [frontPath_of_behindScheme hscheme, addressPath_of_not_mem hhost]
    | host hslash hasterisk hscheme => exact frontPath_of_host hslash hasterisk hscheme

/-! ## Queries -/

/-- A character that goes on with the path, and starts no query or fragment. -/
def isPathChar (c : Char) : Bool :=
  c ≠ '?' && c ≠ '#'

theorem takeWhile_isPathChar_eq {front tail : List Char} (hquery : '?' ∉ front)
    (hfragment : '#' ∉ front)
    (htail : tail = [] ∨ ∃ rest, tail = '?' :: rest ∨ tail = '#' :: rest) :
    (front ++ tail).takeWhile isPathChar = front := by
  have hfront : ∀ c ∈ front, isPathChar c = true := by
    intro c hc
    simp only [isPathChar, Bool.and_eq_true, decide_eq_true_eq]
    exact ⟨fun h => hquery (h ▸ hc), fun h => hfragment (h ▸ hc)⟩
  have hstop : tail.takeWhile isPathChar = [] := by
    rcases htail with rfl | ⟨rest, rfl | rfl⟩ <;> rfl
  rw [List.takeWhile_append_of_pos hfront, hstop, List.append_nil]

theorem exists_eq_takeWhile_isPathChar (target : List Char) :
    ∃ tail, target = target.takeWhile isPathChar ++ tail ∧
      (tail = [] ∨ ∃ rest, tail = '?' :: rest ∨ tail = '#' :: rest) := by
  refine ⟨target.dropWhile isPathChar, List.takeWhile_append_dropWhile.symm, ?_⟩
  cases htail : target.dropWhile isPathChar with
  | nil => exact .inl rfl
  | cons c rest =>
    have hstop : isPathChar c = false := by
      have hhead := List.head?_dropWhile_not isPathChar target
      rwa [htail] at hhead
    by_cases hquery : c = '?'
    · exact .inr ⟨rest, .inl (by rw [hquery])⟩
    · have hfragment : c = '#' := by simpa [isPathChar, hquery] using hstop
      exact .inr ⟨rest, .inr (by rw [hfragment])⟩

/-- The path of a request is the one path that its target has. -/
theorem path_eq_iff_hasPath {request : Request} {path : String} :
    request.path = path ↔ HasPath request.target path := by
  have hread : request.path = path ↔
      HasFrontPath (request.target.toList.takeWhile isPathChar) path.toList := by
    rw [← frontPath_eq_iff, Request.path, pathChars_eq, ← String.toList_inj, String.toList_ofList]
    rfl
  rw [hread]
  constructor
  · intro h
    obtain ⟨tail, htarget, htail⟩ := exists_eq_takeWhile_isPathChar request.target.toList
    have hfront : ∀ c ∈ request.target.toList.takeWhile isPathChar, isPathChar c = true :=
      fun c hc => List.mem_takeWhile_imp hc
    exact ⟨_, tail, htarget, fun hc => absurd (hfront _ hc) (by decide),
      fun hc => absurd (hfront _ hc) (by decide), htail, h⟩
  · rintro ⟨front, tail, htarget, hquery, hfragment, htail, h⟩
    rwa [htarget, takeWhile_isPathChar_eq hquery hfragment htail]

end DocPortal.Http
