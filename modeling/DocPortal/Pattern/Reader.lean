/-
Reading a pattern from its text.

A pattern is branches with `|` between them; a branch is parts that follow
each other. A part is a character, an escape, a class in brackets, a group
in parentheses or a switch of flags, `(?x)`, and may be repeated by `?`,
`*` or `+`, with a `?` behind that for the shortest match. Repetition by
numbers in braces is not known, because a directive ends a field's value at
its first brace.
-/
import DocPortal.Pattern.Class
import DocPortal.Text.Alphanumeric
import DocPortal.Text.Separated

namespace DocPortal.Pattern

/-! ## Parentheses -/

/-- What an opening parenthesis begins. -/
inductive Opening where
  | group (name? : Option (List Char)) (change : FlagChange)
  /-- A switch of flags; it is closed already. -/
  | setting (change : FlagChange)
deriving DecidableEq, Repr

/-- Whether a text can be the name of a group. -/
def isName : List Char → Bool
  | [] => false
  | c :: rest =>
    (c = '_' || Text.isAlphabetic c) &&
      rest.all fun c => c ∈ ['_', '.', '[', ']'] || Text.isAlphanumeric c

/-- A group with a name, read from behind the `<`, and what follows. -/
def readName (text : List Char) : Option (Opening × List Char) := do
  let (name, rest) ← Text.cutChars '>' text
  if isName name then some (.group (some name) {}, rest) else none

/-- A group with flags or a switch of flags, read from behind the `?`, and what follows. -/
def readFlags (text : List Char) : Option (Opening × List Char) := do
  let letters := text.takeWhile fun c => c ≠ ':' && c ≠ ')'
  let change ← FlagChange.parse? letters
  match text.drop letters.length with
  | ':' :: rest => some (.group none change, rest)
  | ')' :: rest => if letters = [] then none else some (.setting change, rest)
  | _ => none

/-- What a parenthesis begins, and what follows. -/
def readOpening : List Char → Option (Opening × List Char)
  | '?' :: 'P' :: '<' :: rest => readName rest
  | '?' :: '<' :: rest => readName rest
  | '?' :: rest => readFlags rest
  | text => some (.group none {}, text)

/-! ## Branches -/

/-- How far the inside of a group, or of the whole pattern, is read. -/
structure Body where
  spaced : Bool := false
  /-- The branches before the last one, the latest first. -/
  branches : List Pattern := []
  /-- The parts of the last branch, the latest first. -/
  parts : List Pattern := []

namespace Body

/-- One more part is read. -/
def add (body : Body) (part : Pattern) : Body :=
  { body with parts := part :: body.parts }

/-- A switch of flags is read. -/
def switch (body : Body) (change : FlagChange) : Body :=
  { body.add (.setting change) with spaced := change.switch 'x' body.spaced }

/-- The branch that is open. -/
def branch (body : Body) : Pattern :=
  ofParts body.parts.reverse

/-- The branch ends and another begins. -/
def nextBranch (body : Body) : Body :=
  { body with branches := body.branch :: body.branches, parts := [] }

/-- The last part is repeated, unless there is none or it switches flags. -/
def repeatLast (body : Body) : Option Body :=
  match body.parts with
  | [] | setting _ :: _ => none
  | part :: parts => some { body with parts := repetition part :: parts }

/-- All that is read. -/
def pattern (body : Body) : Pattern :=
  ofBranches (body.branch :: body.branches).reverse

end Body

/-- What follows the mark of a repetition and the `?` that asks for the shortest match. -/
def dropShortest : List Char → List Char
  | '?' :: rest => rest
  | text => text

/-- The inside of a group up to its parenthesis or to the end of the text, and what follows. -/
def readBody : (fuel : Nat) → Body → List Char → Option (Body × List Char)
  | 0, _, _ => none
  | fuel + 1, body, text =>
    match skip body.spaced text with
    | [] => some (body, [])
    | ')' :: rest => some (body, ')' :: rest)
    | '|' :: rest => readBody fuel body.nextBranch rest
    | '(' :: rest => do
      match ← readOpening (skip body.spaced rest) with
      | (.setting change, rest) => readBody fuel (body.switch change) rest
      | (.group name? change, rest) =>
        let inside : Body := { spaced := change.switch 'x' body.spaced }
        let (inside, ')' :: rest) ← readBody fuel inside rest | none
        readBody fuel (body.add (.group name? change inside.pattern)) rest
    | '[' :: rest => do
      let (part, rest) ← readClass body.spaced rest
      readBody fuel (body.add part) rest
    | '?' :: rest | '*' :: rest | '+' :: rest => do
      readBody fuel (← body.repeatLast) (dropShortest rest)
    | '{' :: _ => none
    | '.' :: rest => readBody fuel (body.add (.atom .any)) rest
    | '^' :: rest | '$' :: rest => readBody fuel (body.add (.atom .anchor)) rest
    | '\\' :: rest => do
      let (part, rest) ← readEscape body.spaced rest
      readBody fuel (body.add (.atom part)) rest
    | c :: rest => readBody fuel (body.add (.atom (.literal c false))) rest

/-- The pattern that a text writes, all of it. -/
def parse? (text : List Char) : Option Pattern :=
  match readBody (text.length + 1) {} text with
  | some (body, []) => some body.pattern
  | _ => none

end DocPortal.Pattern
