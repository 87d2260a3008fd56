/-
What making directories and writing files leaves where it was. Making
directories adds directories where nothing was, and nothing else, whether
it succeeds or not (`grows_makeDirectories`); a file that is written
changes its own place only, and no way to another place goes through it
(`Takes.put`).
-/
import DocPortal.Log.Report
import DocPortal.Program.FileTree

namespace DocPortal.Program.FileTree

open Log (bind_ok_iff)

variable {tree next : FileTree} {place other : Path} {entry : FileEntry}

/-! ## Putting -/

/-- What is put where no directory is is there, and everything else stays. -/
theorem entry?_put (h : tree.entry? place ≠ some .directory) (entry : FileEntry) (other : Path) :
    FileTree.entry? (tree.put place entry) other =
      if other = place then some entry else tree.entry? other := by
  unfold entry? at h ⊢
  have hplace : ¬ (place.all (· = "..") ∨ place = ["/"]) := fun hfixed => h (if_pos hfixed)
  by_cases hother : other.all (· = "..") ∨ other = ["/"]
  · have hne : other ≠ place := by
      rintro rfl
      exact hplace hother
    rw [if_pos hother, if_pos hother, if_neg hne]
  · rw [if_neg hother, if_neg hother, lookup_put]

/-- No way goes through a place where no directory is. -/
theorem enter_put (h : tree.entry? place ≠ some .directory) (entry : FileEntry)
    {path goal : Path} {name : String} (henter : tree.enter path name = .ok goal) :
    (tree.put place entry).enter path name = .ok goal := by
  unfold enter at henter ⊢
  split at henter
  · cases henter
  · next hlength =>
    split at henter
    · next hentry =>
      have hne : descend path name ≠ place := by
        intro heq
        exact h (heq ▸ hentry)
      rw [if_neg hlength, entry?_put h, if_neg hne, hentry]
      exact henter
    · cases henter
    · cases henter

theorem foldlM_enter_put (h : tree.entry? place ≠ some .directory) (entry : FileEntry)
    {route : Route} {path goal : Path} (hfold : route.foldlM tree.enter path = .ok goal) :
    route.foldlM (tree.put place entry).enter path = .ok goal := by
  induction route generalizing path with
  | nil => exact hfold
  | cons name route ih =>
    rw [List.foldlM_cons, bind_ok_iff] at hfold ⊢
    obtain ⟨between, henter, hrest⟩ := hfold
    exact ⟨between, enter_put h entry henter, ih hrest⟩

theorem locate_put (h : tree.entry? place ≠ some .directory) (entry : FileEntry)
    {route : Route} {goal : Path} (hlocate : tree.locate route = .ok goal) :
    (tree.put place entry).locate route = .ok goal := by
  unfold locate at hlocate ⊢
  cases hlast : route.getLast? with
  | none => rw [hlast] at hlocate; cases hlocate
  | some name =>
    rw [hlast] at hlocate
    dsimp only at hlocate ⊢
    rw [bind_ok_iff] at hlocate ⊢
    obtain ⟨above, hfold, hname⟩ := hlocate
    exact ⟨above, foldlM_enter_put h entry hfold, hname⟩

/-- A route is located where the directories on it lead to, and its last name from there. -/
theorem locate_concat_eq_ok_iff {route : Route} {name : String} {goal : Path} :
    tree.locate (route ++ [name]) = .ok goal ↔
      ¬ nameLimit < name.utf8ByteSize ∧
        ∃ above, route.foldlM tree.enter [] = .ok above ∧ goal = descend above name := by
  unfold locate
  rw [List.getLast?_concat, List.dropLast_concat]
  dsimp only
  rw [bind_ok_iff]
  constructor
  · rintro ⟨above, hfold, hname⟩
    split at hname
    · cases hname
    · next hlength => cases hname; exact ⟨hlength, above, hfold, rfl⟩
  · rintro ⟨hlength, above, hfold, rfl⟩
    exact ⟨above, hfold, if_neg hlength⟩

/-! ## Making directories -/

/-- Nothing is new in the second tree but directories where nothing was. -/
def Grows (tree next : FileTree) : Prop :=
  ∀ place, next.entry? place = tree.entry? place ∨
    tree.entry? place = none ∧ next.entry? place = some .directory

theorem Grows.refl (tree : FileTree) : tree.Grows tree := fun _ => .inl rfl

theorem Grows.trans {last : FileTree} (h : tree.Grows next) (hlast : next.Grows last) :
    tree.Grows last := by
  intro place
  rcases h place with hsame | ⟨hnone, hmade⟩
  · rcases hlast place with hlast | ⟨hnone, hmade⟩
    · exact .inl (hlast.trans hsame)
    · exact .inr ⟨hsame ▸ hnone, hmade⟩
  · rcases hlast place with hlast | ⟨hnone', -⟩
    · exact .inr ⟨hnone, hlast.trans hmade⟩
    · rw [hmade] at hnone'
      cases hnone'

theorem grows_makeDirectory {route : Route} (h : tree.makeDirectory route = .ok next) :
    tree.Grows next := by
  unfold makeDirectory at h
  rw [bind_ok_iff] at h
  obtain ⟨place, -, h⟩ := h
  split at h
  · cases h; exact .refl tree
  · cases h
  · next hnone =>
    cases h
    have hfree : tree.entry? place ≠ some .directory := by
      rw [hnone]
      exact nofun
    intro other
    rw [entry?_put hfree]
    by_cases hother : other = place
    · rw [if_pos hother, hother]
      exact .inr ⟨hnone, rfl⟩
    · rw [if_neg hother]
      exact .inl rfl

theorem grows_makeEach (tree : FileTree) (routes : List Route) :
    tree.Grows (tree.makeEach routes).1 := by
  induction routes generalizing tree with
  | nil => exact .refl tree
  | cons route above ih =>
    rw [makeEach]
    split
    · next hmade => exact grows_makeDirectory hmade
    · have habove := ih tree
      split
      · next hstopped => rw [hstopped] at habove; exact habove
      · next hmade =>
        rw [hmade] at habove
        split
        · next hagain => exact habove.trans (grows_makeDirectory hagain)
        · exact habove
    · exact .refl tree

theorem grows_makeDirectories (tree : FileTree) (path : String) :
    tree.Grows (tree.makeDirectories path).1 := by
  unfold makeDirectories
  split
  · exact .refl tree
  · exact .refl tree
  · exact grows_makeEach tree _

/-! ## Writing files -/

/-- A file can be written under a written path, and there it is then. -/
structure Takes (tree : FileTree) (path : String) (place : Path) : Prop where
  located : (routeOf path >>= tree.locate) = .ok place
  free : tree.entry? place ≠ some .directory

theorem writeFile_eq_ok_iff {path content : String} :
    tree.writeFile path content = .ok next ↔
      ∃ place, tree.Takes path place ∧ next = tree.put place (.file content) := by
  unfold writeFile
  rw [bind_ok_iff]
  constructor
  · rintro ⟨route, hroute, h⟩
    rw [bind_ok_iff] at h
    obtain ⟨place, hplace, h⟩ := h
    have hlocated := bind_ok_iff.2 ⟨route, hroute, hplace⟩
    split at h
    · cases h
    · next hentry =>
      cases h
      exact ⟨place, ⟨hlocated, by rw [hentry]; exact nofun⟩, rfl⟩
    · next hentry =>
      cases h
      exact ⟨place, ⟨hlocated, by rw [hentry]; exact nofun⟩, rfl⟩
  · rintro ⟨place, htakes, rfl⟩
    obtain ⟨route, hroute, hplace⟩ := bind_ok_iff.1 htakes.located
    refine ⟨route, hroute, bind_ok_iff.2 ⟨place, hplace, ?_⟩⟩
    have hfree := htakes.free
    split
    · next hentry => exact absurd hentry hfree
    · rfl
    · rfl

/-- A file that is written stands in the way of no other. -/
theorem Takes.put {path content : String} (h : tree.Takes path place)
    (hfree : tree.entry? other ≠ some .directory) :
    (tree.put other (.file content)).Takes path place where
  located := by
    have hlocated := h.located
    rw [bind_ok_iff] at hlocated ⊢
    obtain ⟨route, hroute, hlocate⟩ := hlocated
    exact ⟨route, hroute, locate_put hfree _ hlocate⟩
  free := by
    rw [entry?_put hfree]
    split
    · exact nofun
    · exact h.free

theorem Takes.readFile? {path content : String} (h : tree.Takes path place)
    (hentry : tree.entry? place = some (.file content)) :
    tree.readFile? path = some content := by
  have hlocated : (routeOf path).bind tree.locate = .ok place := h.located
  unfold FileTree.readFile?
  rw [hlocated]
  dsimp only
  rw [hentry]

end DocPortal.Program.FileTree
