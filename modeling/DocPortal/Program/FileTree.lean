/-
Files and directories as a program finds and makes them, seen from the
directory it works in.

A path is a route from there: its names are between slashes, and empty ones
say nothing. Every name but the last must lead to a directory, also `.`,
which stays, and `..`, which goes back; so there is no way through `a/.` or
`a/..` without `a`. To make a directory with those above it, the whole route
is tried first, and a shorter one as long as something on the way is
missing; what is made so stays, even if the whole route fails in the end.
-/
import DocPortal.Text.Separated

namespace DocPortal.Program

/-- Where something is: the names from the program's directory to it. A path that leaves this
directory starts with `..`, and one from the root of all files with `/`. -/
abbrev Path := List String

/-- What is at a path. -/
inductive FileEntry where
  | directory
  | file (content : String)
deriving DecidableEq, Repr

/-- Files and directories by path. The program's directory, those above it and the root are always
there. -/
abbrev FileTree := List (Path × FileEntry)

/-- The names in a written path. -/
abbrev Route := List String

namespace FileTree

/-- Why a file or directory cannot be made. -/
inductive Fault where
  /-- Nothing is at a path that is to be gone through. -/
  | missing
  /-- A file is at the path of a directory that is to be made. -/
  | fileExists
  /-- A file is at a path that is to be gone through. -/
  | notDirectory
  /-- A directory is at the path of a file that is to be written. -/
  | isDirectory
  | nameTooLong
deriving DecidableEq, Repr

def Fault.message : Fault → String
  | missing => "No such file or directory (os error 2)"
  | fileExists => "File exists (os error 17)"
  | notDirectory => "Not a directory (os error 20)"
  | isDirectory => "Is a directory (os error 21)"
  | nameTooLong => "File name too long (os error 36)"

/-! ## Routes -/

/-- The most bytes in a name. -/
def nameLimit : Nat := 255

/-- The most bytes in a written path. -/
def pathLimit : Nat := 4095

/-- The names in a written path, with the slash it may start with. -/
def routeOf (path : String) : Except Fault Route :=
  let names := (Text.pieces '/' path).filter (· ≠ "")
  if pathLimit < path.utf8ByteSize then .error .nameTooLong
  else if path.toList.head? = some '/' then .ok ("/" :: names)
  else .ok names

/-- The path one name further on. -/
def descend (path : Path) (name : String) : Path :=
  if name = "." then path
  else if name = ".." then
    if path = ["/"] then path
    else if path.all (· = "..") then path ++ [".."]
    else path.dropLast
  else path ++ [name]

/-- What is at a path. -/
def entry? (tree : FileTree) (path : Path) : Option FileEntry :=
  if path.all (· = "..") ∨ path = ["/"] then some .directory else tree.lookup path

/-- The path of a directory one name further on. -/
def enter (tree : FileTree) (path : Path) (name : String) : Except Fault Path :=
  if nameLimit < name.utf8ByteSize then .error .nameTooLong
  else
    match tree.entry? (descend path name) with
    | some .directory => .ok (descend path name)
    | some (.file _) => .error .notDirectory
    | none => .error .missing

/-- The path at the end of a route, whether something is there or not. -/
def locate (tree : FileTree) (route : Route) : Except Fault Path := do
  match route.getLast? with
  | none => .error .missing
  | some name =>
    let above ← route.dropLast.foldlM tree.enter []
    if nameLimit < name.utf8ByteSize then .error .nameTooLong
    else return descend above name

/-! ## Directories -/

/-- The tree with something else at a path. -/
def put (tree : FileTree) (path : Path) (entry : FileEntry) : FileTree :=
  tree.filter (·.1 ≠ path) ++ [(path, entry)]

/-- Taking a path away takes nothing else away. -/
theorem lookup_filter_ne (tree : FileTree) (path other : Path) :
    (tree.filter (·.1 ≠ path)).lookup other =
      if other = path then none else tree.lookup other := by
  induction tree with
  | nil => simp
  | cons e tree ih =>
    obtain ⟨place, found⟩ := e
    by_cases hp : place = path
    · by_cases ho : other = path
      · simpa [hp, ho] using ih
      · have hne : (other == path) = false := beq_eq_false_iff_ne.2 ho
        simpa [hp, ho, List.lookup_cons, hne] using ih
    · by_cases ho : other = place
      · simp [ho, hp]
      · have hne : (other == place) = false := beq_eq_false_iff_ne.2 ho
        simpa [hp, List.lookup_cons, hne] using ih

/-- What is put at a path is there, and everything else stays. -/
theorem lookup_put (tree : FileTree) (path other : Path) (entry : FileEntry) :
    (tree.put path entry).lookup other =
      if other = path then some entry else tree.lookup other := by
  rw [put, List.lookup_append, lookup_filter_ne]
  by_cases h : other = path
  · simp [h]
  · have hne : (other == path) = false := beq_eq_false_iff_ne.2 h
    simp [h, List.lookup_cons, hne]

/-- The tree with a directory at the end of a route. -/
def makeDirectory (tree : FileTree) (route : Route) : Except Fault FileTree := do
  let path ← tree.locate route
  match tree.entry? path with
  | some .directory => return tree
  | some (.file _) => .error .fileExists
  | none => return tree.put path .directory

/-- Routes to a directory and to those above it, the longest first. -/
def routesUpFrom (route : Route) : List Route :=
  let names := route.filter (· ≠ ".")
  route :: ((List.range names.length).map names.take).reverse.filter (· ≠ [])

/-- The tree with a directory at the end of the first route, made with the help of the others as
far as something is missing; and why it is not there, if it is not. -/
def makeEach (tree : FileTree) : List Route → FileTree × Option Fault
  | [] => (tree, none)
  | route :: above =>
    match tree.makeDirectory route with
    | .ok tree => (tree, none)
    | .error .missing =>
      match makeEach tree above with
      | (tree, some fault) => (tree, some fault)
      | (tree, none) =>
        match tree.makeDirectory route with
        | .ok tree => (tree, none)
        | .error fault => (tree, some fault)
    | .error fault => (tree, some fault)

/-- The tree with a directory at a written path and those above it; and why it is not there, if it
is not. The empty path is the program's directory. -/
def makeDirectories (tree : FileTree) (path : String) : FileTree × Option Fault :=
  match routeOf path with
  | .error fault => (tree, some fault)
  | .ok [] => (tree, none)
  | .ok route => tree.makeEach (routesUpFrom route)

/-! ## Files -/

/-- The tree with a file at a written path, whose directory must be there. -/
def writeFile (tree : FileTree) (path content : String) : Except Fault FileTree := do
  let path ← tree.locate (← routeOf path)
  match tree.entry? path with
  | some .directory => .error .isDirectory
  | some (.file _) | none => return tree.put path (.file content)

/-- What the file at a written path holds, if one is there. -/
def readFile? (tree : FileTree) (path : String) : Option String :=
  match (routeOf path).bind tree.locate with
  | .error _ => none
  | .ok path =>
    match tree.entry? path with
    | some (.file content) => some content
    | some .directory | none => none

/-! ## Listing -/

/-- Whether a path stays in the program's directory. -/
def isInside (path : Path) : Bool :=
  path.head?.all fun name => name ≠ ".." && name ≠ "/"

/-- Whether a path is the same as another or comes before it: a directory before what is in it,
and what is in a directory by name. -/
def isBefore : Path → Path → Bool
  | [], _ => true
  | _ :: _, [] => false
  | a :: path, b :: other => if a = b then isBefore path other else a ≤ b

/-- Everything in the program's directory, in that order. -/
def listing (tree : FileTree) : List (Path × FileEntry) :=
  (tree.filter (isInside ·.1)).mergeSort fun a b => isBefore a.1 b.1

end FileTree

end DocPortal.Program
