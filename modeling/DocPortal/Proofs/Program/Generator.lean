/-
What a run of the generator leaves. A configuration that is refused leaves
everything as it was; otherwise, where the directory can be made and the
files written, both scripts stand next to each other in it, and nothing
else is new but directories (`leaves_runWith`).
-/
import DocPortal.Program.Generator
import DocPortal.Proofs.Program.FileTree

namespace DocPortal.Program.Generator

open FileTree (Grows Takes)
open Log (bind_ok_iff)
open Viewer (Config ScriptVariant)

/-! ## Written paths -/

/-- What a route to a written path starts with. -/
def routeStart (path : String) : Route :=
  if path.toList.head? = some '/' then ["/"] else []

/-- The names in a written path. -/
def routeNames (path : String) : Route :=
  (Text.pieces '/' path).filter (· ≠ "")

theorem eq_of_routeOf {path : String} {route : Route}
    (h : FileTree.routeOf path = .ok route) : route = routeStart path ++ routeNames path := by
  unfold FileTree.routeOf at h
  unfold routeStart routeNames
  dsimp only at h
  split at h
  · cases h
  · split at h
    · next hroot => cases h; rw [if_pos hroot]; rfl
    · next hroot => cases h; rw [if_neg hroot]; rfl

theorem routeNames_append_slash (directory rest : String) :
    routeNames (directory ++ "/" ++ rest) = routeNames directory ++ routeNames rest := by
  have hslash : "/".toList = ['/'] := by decide
  have hsplit : (directory ++ "/" ++ rest).toList.splitOn '/' =
      directory.toList.splitOn '/' ++ rest.toList.splitOn '/' := by
    rw [String.toList_append, String.toList_append, hslash, List.append_assoc,
      List.singleton_append, List.splitOn_append_cons_self]
  rw [routeNames, Text.pieces, hsplit, List.map_append, List.filter_append]
  rfl

theorem routeNames_eq_singleton {name : String} (hslash : '/' ∉ name.toList) (hne : name ≠ "") :
    routeNames name = [name] := by
  rw [routeNames, Text.pieces, List.splitOn_eq_singleton hslash, List.map_singleton,
    String.ofList_toList]
  simpa using hne

section Join

variable {name : String} (hslash : '/' ∉ name.toList) (hne : name ≠ "")
include hslash hne

theorem routeNames_join (directory : String) :
    routeNames (join directory name) = routeNames directory ++ [name] := by
  have hname := routeNames_eq_singleton hslash hne
  unfold join
  split
  · next hend =>
    rcases hend with hempty | hend
    · rw [String.isEmpty_iff] at hempty
      subst hempty
      rw [String.empty_append, hname]
      rfl
    · obtain ⟨above, habove⟩ := List.getLast?_eq_some_iff.1 hend
      have hdirectory : directory = String.ofList above ++ "/" := by
        rw [← String.toList_inj, habove]
        simp
      have hnothing := routeNames_append_slash (String.ofList above) ""
      have hwhole := routeNames_append_slash (String.ofList above) name
      rw [String.append_empty] at hnothing
      have hempty : routeNames "" = [] := by decide
      rw [hdirectory, hwhole, hnothing, hempty, hname, List.append_nil]
  · rw [routeNames_append_slash, hname]

omit hne in
theorem routeStart_join (directory : String) :
    routeStart (join directory name) = routeStart directory := by
  have hhead : (join directory name).toList.head? = some '/' ↔
      directory.toList.head? = some '/' := by
    have hname : name.toList.head? ≠ some '/' := fun h => hslash (List.mem_of_head? h)
    unfold join
    cases hdirectory : directory.toList with
    | nil =>
      obtain rfl : directory = "" := String.toList_eq_nil_iff.1 hdirectory
      simpa using hname
    | cons c cs =>
      split <;> simp [hdirectory]
  unfold routeStart
  simp only [hhead]

/-- A file is written where the names of its directory lead to, under its own name. -/
theorem exists_above_of_takes {tree : FileTree} {directory : String} {place : Path}
    (hdots : name ≠ "." ∧ name ≠ "..") (h : tree.Takes (join directory name) place) :
    ∃ above, (routeStart directory ++ routeNames directory).foldlM tree.enter [] = .ok above ∧
      place = above ++ [name] := by
  have hlocated := h.located
  rw [bind_ok_iff] at hlocated
  obtain ⟨route, hroute, hlocate⟩ := hlocated
  rw [eq_of_routeOf hroute, routeStart_join hslash, routeNames_join hslash hne,
    ← List.append_assoc, FileTree.locate_concat_eq_ok_iff] at hlocate
  obtain ⟨-, above, hfold, rfl⟩ := hlocate
  refine ⟨above, hfold, ?_⟩
  rw [FileTree.descend, if_neg hdots.1, if_neg hdots.2]

end Join

/-! ## Writing in turn -/

/-- Files that are written at places of their own are all there afterwards; everything else is as it
was, and nothing stands in the way of another file. -/
theorem writeAll_establishes {ι : Type} (file : ι → String × String) (place : ι → Path)
    {items : List ι} {tree : FileTree} (hnodup : (items.map place).Nodup)
    (htakes : ∀ item ∈ items, tree.Takes (file item).1 (place item)) :
    let run := writeAll tree (items.map file)
    run.stop? = none ∧
      (∀ path goal, tree.Takes path goal → run.tree.Takes path goal) ∧
      (∀ other, other ∉ items.map place → run.tree.entry? other = tree.entry? other) ∧
      ∀ item ∈ items, run.tree.entry? (place item) = some (.file (file item).2) := by
  induction items generalizing tree with
  | nil => exact ⟨rfl, fun _ _ h => h, fun _ _ => rfl, nofun⟩
  | cons item items ih =>
    rw [List.map_cons, List.nodup_cons] at hnodup
    obtain ⟨hnew, hnodup⟩ := hnodup
    have hitem := htakes item List.mem_cons_self
    generalize hnext : tree.put (place item) (.file (file item).2) = next
    have hwrite : tree.writeFile (file item).1 (file item).2 = .ok next :=
      FileTree.writeFile_eq_ok_iff.2 ⟨place item, hitem, hnext.symm⟩
    have hkept (path : String) (goal : Path) (h : tree.Takes path goal) : next.Takes path goal :=
      hnext ▸ h.put hitem.free
    have hentry (other : Path) : next.entry? other =
        if other = place item then some (.file (file item).2) else tree.entry? other := by
      rw [← hnext, FileTree.entry?_put hitem.free]
    obtain ⟨hstop, hkeeps, hframe, hwritten⟩ := ih hnodup fun other hother =>
      hkept _ _ (htakes other (List.mem_cons_of_mem _ hother))
    rw [List.map_cons, List.map_cons, writeAll, hwrite]
    refine ⟨hstop, fun path goal h => hkeeps path goal (hkept path goal h), ?_, ?_⟩
    · intro other hother
      rw [List.mem_cons, not_or] at hother
      exact (hframe other hother.2).trans ((hentry other).trans (if_neg hother.1))
    · intro other hother
      rcases List.mem_cons.1 hother with rfl | hother
      · exact (hframe _ hnew).trans ((hentry _).trans (if_pos rfl))
      · exact hwritten other hother

/-! ## Runs -/

section Runs

variable {env : Lookup} {arguments : List String} {tree : FileTree}

theorem result_plan_of_error {e : SetupError} (h : (Site.configure env).result = .error e) :
    (plan env arguments).result = .error e := by
  rw [plan, Log.Report.bind_error h]

/-- A configuration that is refused stops the run before anything is written. -/
theorem runWith_of_error {e : SetupError} (h : (Site.configure env).result = .error e) :
    (runWith env arguments tree).stop? = some (.failed (.ofSetup e)) ∧
      (runWith env arguments tree).tree = tree := by
  unfold runWith
  dsimp only
  rw [result_plan_of_error h]
  exact ⟨rfl, rfl⟩

theorem runWith_of_ok {settings : Settings} {config : Config}
    (h : (Site.configure env).result = .ok (settings, config)) :
    let run := carryOut (.ofConfig (directoryOf arguments) config) tree
    (runWith env arguments tree).stop? = run.stop? ∧
      (runWith env arguments tree).tree = run.tree := by
  intro run
  have hplan : (plan env arguments).result = .ok (.ofConfig (directoryOf arguments) config) := by
    rw [plan, Log.Report.bind_ok h]
    rfl
  unfold runWith
  dsimp only
  rw [hplan]
  exact ⟨rfl, rfl⟩

theorem carryOut_of_written {plan : Plan} (hmade : (tree.makeDirectories plan.directory).2 = none)
    (hstop : (writeAll (tree.makeDirectories plan.directory).1 plan.files).stop? = none) :
    (carryOut plan tree).stop? = none ∧
      (carryOut plan tree).tree =
        (writeAll (tree.makeDirectories plan.directory).1 plan.files).tree := by
  unfold carryOut
  generalize tree.makeDirectories plan.directory = made at *
  obtain ⟨made, fault⟩ := made
  cases hmade
  dsimp only at hstop ⊢
  rw [hstop]
  exact ⟨rfl, rfl⟩

end Runs

/-! ## What a run leaves -/

/-- A directory that can be made and written to: it and those above it are made, and then either
script can be written to it. -/
structure Writable (tree : FileTree) (directory : String) : Prop where
  made : (tree.makeDirectories directory).2 = none
  written : ∀ variant : ScriptVariant, ∃ next,
    (tree.makeDirectories directory).1.writeFile (join directory variant.fileName) "" = .ok next

/-- The files are next to each other, where the directory leads to. -/
theorem Writable.exists_above {tree : FileTree} {directory : String}
    (h : Writable tree directory) : ∃ above, ∀ variant : ScriptVariant,
      (tree.makeDirectories directory).1.Takes (join directory variant.fileName)
        (above ++ [variant.fileName]) := by
  have hnames (variant : ScriptVariant) : '/' ∉ variant.fileName.toList ∧ variant.fileName ≠ "" ∧
      variant.fileName ≠ "." ∧ variant.fileName ≠ ".." := by
    cases variant <;> decide
  have habove (variant : ScriptVariant) : ∃ above,
      (routeStart directory ++ routeNames directory).foldlM
          (tree.makeDirectories directory).1.enter [] = .ok above ∧
        (tree.makeDirectories directory).1.Takes (join directory variant.fileName)
          (above ++ [variant.fileName]) := by
    obtain ⟨hslash, hne, hdots⟩ := hnames variant
    obtain ⟨next, hnext⟩ := h.written variant
    obtain ⟨place, htakes, -⟩ := FileTree.writeFile_eq_ok_iff.1 hnext
    obtain ⟨above, hfold, rfl⟩ := exists_above_of_takes hslash hne hdots htakes
    exact ⟨above, hfold, htakes⟩
  obtain ⟨above, hfold, -⟩ := habove .initializer
  refine ⟨above, fun variant => ?_⟩
  obtain ⟨other, hother, htakes⟩ := habove variant
  rw [hfold] at hother
  cases hother
  exact htakes

/-- A run that has left the scripts of a configuration in a directory, each where its written path
leads to, next to each other, and nothing else but directories where nothing was. -/
structure Leaves (config : Config) (directory : String) (tree : FileTree) (run : Run) : Prop where
  unstopped : run.stop? = none
  scripts : ∀ variant : ScriptVariant, run.tree.readFile? (join directory variant.fileName) =
    some (Viewer.Script.render variant config)
  nothingElse : ∃ above : Path,
    (∀ variant : ScriptVariant,
      run.tree.Takes (join directory variant.fileName) (above ++ [variant.fileName])) ∧
    ∀ place, (∀ variant : ScriptVariant, place ≠ above ++ [variant.fileName]) →
      run.tree.entry? place = tree.entry? place ∨
        tree.entry? place = none ∧ run.tree.entry? place = some .directory

theorem leaves_runWith {env : Lookup} {settings : Settings} {config : Config}
    {arguments : List String} {tree : FileTree}
    (h : (Site.configure env).result = .ok (settings, config))
    (hwritable : Writable tree (directoryOf arguments)) :
    Leaves config (directoryOf arguments) tree (runWith env arguments tree) := by
  obtain ⟨hstop, htree⟩ := @runWith_of_ok env arguments tree settings config h
  generalize directoryOf arguments = directory at *
  have hall (variant : ScriptVariant) : variant ∈ ScriptVariant.all := by
    cases variant <;> decide
  obtain ⟨above, htakes⟩ := hwritable.exists_above
  have hnodup : (ScriptVariant.all.map fun variant => above ++ [variant.fileName]).Nodup := by
    simp [ScriptVariant.all, ScriptVariant.fileName]
  obtain ⟨hwritten, hkeeps, hframe, hfiles⟩ := writeAll_establishes
    (fun variant : ScriptVariant =>
      (join directory variant.fileName, Viewer.Script.render variant config))
    (fun variant => above ++ [variant.fileName]) hnodup (fun variant _ => htakes variant)
  obtain ⟨hdone, hdoneTree⟩ :=
    @carryOut_of_written tree (.ofConfig directory config) hwritable.made hwritten
  refine ⟨hstop.trans hdone, ?_, above, ?_, ?_⟩
  · intro variant
    rw [htree, hdoneTree]
    exact (hkeeps _ _ (htakes variant)).readFile? (hfiles variant (hall variant))
  · intro variant
    rw [htree, hdoneTree]
    exact hkeeps _ _ (htakes variant)
  · intro place hplace
    have hother : place ∉ ScriptVariant.all.map fun variant => above ++ [variant.fileName] := by
      rw [List.mem_map]
      rintro ⟨variant, -, rfl⟩
      exact hplace variant rfl
    have hsame := hframe place hother
    rw [htree, hdoneTree]
    exact (FileTree.grows_makeDirectories tree directory place).imp hsame.trans
      fun hmade => ⟨hmade.1, hsame.trans hmade.2⟩

end DocPortal.Program.Generator
