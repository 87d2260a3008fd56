/-
Where a browser ends a script element.

Inside an element the text goes up to an end tag of the same name, but a
comment may hold one: from `<!--` on the text is escaped, and in escaped
text a start tag `<script` begins a part in which `</script` ends that
part and not the element. Tag names are read in any letter case, and count
only in front of a blank, `/` or `>`.
-/

namespace DocPortal.Viewer.ScriptData

/-- How the text is read at a place. -/
inductive Mode where
  | normal
  | escaped
  | doubleEscaped
deriving DecidableEq, Repr

/-- A character that ends a tag's name. -/
def endsName (c : Char) : Bool :=
  c ∈ ['\t', '\n', '\x0c', '\r', ' ', '/', '>']

/-- Whether a text starts with another one, in any letter case, and goes on with the end of a
name. -/
def startsTag (tag cs : List Char) : Bool :=
  tag.isPrefixOf (cs.map Char.toLower) && (cs.drop tag.length).head?.any endsName

/-- Whether a text starts with a start tag of the element. -/
def opens (cs : List Char) : Bool := startsTag "<script".toList cs

/-- Whether a text starts with an end tag of the element. -/
def closes (cs : List Char) : Bool := startsTag "</script".toList cs

/-- How a text is read behind its first character. The dashes of `<!--` can be those of `-->`. -/
def Mode.next (mode : Mode) (cs : List Char) : Mode :=
  match mode with
  | normal => if "<!--".toList.isPrefixOf cs then escaped else normal
  | escaped =>
    if "-->".toList.isPrefixOf cs then normal
    else if opens cs then doubleEscaped
    else escaped
  | doubleEscaped =>
    if "-->".toList.isPrefixOf cs then normal
    else if closes cs then escaped
    else doubleEscaped

/-- The text of the element and what follows it, from its end tag on; there is none if the element
does not end. -/
def splitFrom (mode : Mode) : List Char → Option (List Char × List Char)
  | [] => none
  | c :: rest =>
    if mode ≠ .doubleEscaped ∧ closes (c :: rest) then some ([], c :: rest)
    else (splitFrom (mode.next (c :: rest)) rest).map fun (text, after) => (c :: text, after)

/-- The same for what stands behind the start tag of an element. -/
def split (cs : List Char) : Option (List Char × List Char) :=
  splitFrom .normal cs

end DocPortal.Viewer.ScriptData
