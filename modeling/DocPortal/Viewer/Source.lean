/-
Documentation sources: a service's name and the url of its document.

A url is fit when, apart from blanks at its ends, it is absolute (`/`) or
starts with `http://` or `https://`, and has no blank inside. The texts
themselves are kept as they are given, end blanks included.
-/
import DocPortal.Json.Value
import DocPortal.Text.Separated
import DocPortal.Viewer.Error

namespace DocPortal.Viewer

/-- A service's name, and the url its document is fetched from. -/
structure Source where
  name : String
  url : String
deriving DecidableEq, Repr

namespace Source

/-- What a document url starts with. -/
def urlStarts : List String := ["/", "http://", "https://"]

/-- A url a document can be fetched from, apart from blanks at its ends. -/
def isDocumentUrl (url : String) : Bool :=
  let inner := Text.trimChars url.toList
  !inner.any Text.isBlankChar && urlStarts.any (·.toList.isPrefixOf inner)

/-- A source that can be listed and fetched. -/
def isSound (source : Source) : Bool :=
  !Text.isBlank source.name && isDocumentUrl source.url

/-- What is wrong with the source at a position, if anything is; a blank name goes first. -/
def fault? (index : Nat) (source : Source) : Option ConfigError :=
  if Text.isBlank source.name then some (.blankSourceName index)
  else if isDocumentUrl source.url then none
  else some (.invalidSourceUrl source.name source.url)

/-- What is wrong with the first faulty source of a list that starts at a position. -/
def firstFault? (index : Nat) : List Source → Option ConfigError
  | [] => none
  | source :: rest => (source.fault? index).or (firstFault? (index + 1) rest)

theorem fault?_eq_none_iff {index : Nat} {source : Source} :
    source.fault? index = none ↔ source.isSound = true := by
  simp only [fault?, isSound]
  split <;> simp_all

theorem firstFault?_eq_none_iff {index : Nat} {sources : List Source} :
    firstFault? index sources = none ↔ ∀ source ∈ sources, source.isSound = true := by
  induction sources generalizing index with
  | nil => simp [firstFault?]
  | cons source rest ih => simp [firstFault?, fault?_eq_none_iff, ih]

/-- The urls that some earlier source of the list has already, `seen` being those before it. -/
def repeatedUrls (seen : List String) : List Source → List String
  | [] => []
  | source :: rest =>
    if source.url ∈ seen then source.url :: repeatedUrls seen rest
    else repeatedUrls (source.url :: seen) rest

/-! ## Written lists -/

/-- The source an entry `NAME=URL` writes; the url may hold more `=`. -/
def ofEntry (entry : String) : Except ConfigError Source :=
  match Text.cut '=' entry with
  | some (name, url) => .ok ⟨Text.trim name, Text.trim url⟩
  | none => .error (.malformedSourceEntry entry)

/-- The sources of a list of entries `NAME=URL`, or the first entry that is none. -/
def parseList (text : String) : Except ConfigError (List Source) :=
  (Text.entries text).mapM ofEntry

/-! ## JSON -/

/-- A source in the option bag. -/
def toJson (source : Source) : Json :=
  .obj [("name", .str source.name), ("url", .str source.url)]

end Source

end DocPortal.Viewer
