/-
The variables of a program, and the `.env` file that adds to them.

The file gives a value to variables that have none, not even the empty one.
Its lines are taken one after the other, so that a value can refer to what a
line above it has set. The first line that breaks the rules ends the file,
and what the lines above it set stays set.
-/
import DocPortal.EnvFile.Entry
import DocPortal.EnvFile.Lines
import DocPortal.Settings.Basic

namespace DocPortal.Program

/-- The variables of a program. -/
abbrev Environment := List (String × String)

namespace Environment

/-- The value of a variable. -/
def lookup (environment : Environment) : Lookup :=
  fun variableName => List.lookup variableName environment

/-- A value that no variable can have, because it has a character NUL in it. -/
structure Unsettable where
  variableName : String
  value : String
deriving DecidableEq, Repr

def Unsettable.message (e : Unsettable) : String :=
  "failed to set " ++ e.variableName ++ ": its value holds a NUL"

/-- The variables with one more, unless it has a value. -/
def setIfAbsent (environment : Environment) (variableName value : String) :
    Except Unsettable Environment :=
  if (environment.lookup variableName).isSome then .ok environment
  else if '\x00' ∈ value.toList then .error ⟨variableName, value⟩
  else .ok (environment ++ [(variableName, value)])

/-- A variable that has a value keeps it. -/
theorem lookup_of_setIfAbsent {environment next : Environment} {a b name value : String}
    (hset : environment.setIfAbsent a b = .ok next) (h : environment.lookup name = some value) :
    next.lookup name = some value := by
  unfold setIfAbsent at hset
  split at hset
  · cases hset; exact h
  split at hset
  · cases hset
  cases hset
  exact (List.lookup_append).trans (by rw [show List.lookup name environment = _ from h]; rfl)

/-! ## The file -/

/-- What follows the first text in the second, if that starts with it. -/
def after? : List Char → List Char → Option (List Char)
  | [], cs => some cs
  | _ :: _, [] => none
  | c :: start, d :: cs => if c = d then after? start cs else none

/-- What a reference to a variable stands for, which is nothing if it has no value. A variable is
known by the text `NAME=VALUE`, so that a reference may take the first part of the value, up to a
`=`, into the name. -/
def held (environment : Environment) (variableName : String) : String :=
  String.ofList <| (environment.findSome? fun (name, value) =>
    after? (variableName ++ "=").toList (name ++ "=" ++ value).toList).getD []

/-- The variables with those that lines of a file give. -/
def loadLines (environment : Environment) : List (List Char) → Except Unsettable Environment
  | [] => .ok environment
  | line :: rest =>
    match EnvFile.readLine line with
    | none => .ok environment
    | some none => loadLines environment rest
    | some (some entry) => do
      let value := EnvFile.textOf environment.held entry.value
      loadLines (← environment.setIfAbsent entry.name value) rest

theorem lookup_of_loadLines {environment loaded : Environment} {lines : List (List Char)}
    {name value : String} (hload : environment.loadLines lines = .ok loaded)
    (h : environment.lookup name = some value) : loaded.lookup name = some value := by
  fun_induction loadLines environment lines with
  | case1 | case2 => cases hload; exact h
  | case3 _ _ _ _ ih => exact ih hload h
  | case4 environment line rest entry _ written ih =>
    cases hset : environment.setIfAbsent entry.name written with
    | error e => rw [hset] at hload; cases hload
    | ok next => rw [hset] at hload; exact ih next hload (lookup_of_setIfAbsent hset h)

/-- The variables with those that the text of a file gives. -/
def load (environment : Environment) (text : String) : Except Unsettable Environment :=
  environment.loadLines (EnvFile.lines text)

/-- The file changes no variable that has a value. -/
theorem lookup_of_load {environment loaded : Environment} {text name value : String}
    (hload : environment.load text = .ok loaded) (h : environment.lookup name = some value) :
    loaded.lookup name = some value :=
  lookup_of_loadLines hload h

end Environment

end DocPortal.Program
