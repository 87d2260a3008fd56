/-
How a script's text falls into string literals and what stands around
them, by the quotes and backslashes alone.

A literal begins at a double quote and ends at the next one that no
backslash escapes; a backslash in a literal escapes the character after
it, whatever that is. What a literal stands for is read from its contents
as from a JSON string.
-/
import DocPortal.Json.Quoted

namespace DocPortal.Viewer.ScriptText

/-- A place in a script: outside its literals, inside one, or inside one behind a backslash. -/
inductive Place where
  | outside
  | inside
  | escaped
deriving DecidableEq, Repr

/-- The place behind a character. -/
def Place.next : Place → Char → Place
  | outside, c => if c = '"' then inside else outside
  | inside, c => if c = '"' then outside else if c = '\\' then escaped else inside
  | escaped, _ => inside

/-- The place behind a text. -/
def placeAfter (place : Place) (cs : List Char) : Place :=
  cs.foldl Place.next place

/-- Whether a character read at a place belongs to the contents of a literal; its quotes do
not. -/
def isContent (place : Place) (c : Char) : Bool :=
  place ≠ .outside && place.next c ≠ .outside

/-- The text without the contents of its literals, read from a place. -/
def skeletonFrom (place : Place) : List Char → List Char
  | [] => []
  | c :: rest =>
    if isContent place c then skeletonFrom (place.next c) rest
    else c :: skeletonFrom (place.next c) rest

/-- The contents of the literal a place is in, and those of the literals after it. -/
def contentsFrom (place : Place) : List Char → List Char × List (List Char)
  | [] => ([], [])
  | c :: rest =>
    let (current, later) := contentsFrom (place.next c) rest
    if isContent place c then (c :: current, later)
    else if place = .outside ∧ place.next c = .inside then ([], current :: later)
    else ([], later)

/-- The text without the contents of its literals. -/
def skeleton (script : String) : List Char :=
  skeletonFrom .outside script.toList

/-- The contents of the literals in their order, escapes and all. -/
def literalContents (script : String) : List (List Char) :=
  (contentsFrom .outside script.toList).2

/-- The text that the contents of a literal stand for, unless they are no JSON string's. -/
def readContents (contents : List Char) : Option String :=
  match Json.readString (contents ++ ['"']) with
  | some (text, []) => some (String.ofList text)
  | _ => none

/-- The texts that the literals stand for, in their order. -/
def literalTexts (script : String) : Option (List String) :=
  (literalContents script).mapM readContents

/-- A text in which every literal has ended. -/
def isClosed (script : String) : Bool :=
  placeAfter .outside script.toList = .outside

theorem placeAfter_append (place : Place) (a b : List Char) :
    placeAfter place (a ++ b) = placeAfter (placeAfter place a) b := by
  simp [placeAfter]

theorem skeletonFrom_append (place : Place) (a b : List Char) :
    skeletonFrom place (a ++ b) = skeletonFrom place a ++ skeletonFrom (placeAfter place a) b := by
  induction a generalizing place with
  | nil => rfl
  | cons c a ih =>
    simp only [List.cons_append, skeletonFrom, ih, placeAfter, List.foldl_cons]
    split <;> rfl

end DocPortal.Viewer.ScriptText
