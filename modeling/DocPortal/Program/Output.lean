/-
What the operator sees of a program: lines on standard output, and a
message on standard error when it stops early.

Events tell texts that others have written, so the characters that could
steer a terminal are escaped in them. What a program prints in its own
words is printed as it is. Line breaks are not escaped: a line that holds
some is seen as several rows.
-/
import DocPortal.Log.Event
import DocPortal.Site.Setup
import DocPortal.Text.Hex

namespace DocPortal.Program

open Log (Event Level)

/-! ## Lines -/

/-- One line that a program prints. -/
inductive Line where
  /-- An event, with its time in front. -/
  | logged (event : Event)
  /-- A text as it is. -/
  | plain (text : String)
deriving DecidableEq, Repr

namespace Line

/-- The name of a level, right-aligned in five columns. -/
def levelColumn (level : Level) : String :=
  String.ofList (List.replicate (5 - level.name.length) ' ') ++ level.name

/-- What is printed for a character of an event: the control characters that a terminal may obey
are escaped by their code points. -/
def escapeControl (c : Char) : List Char :=
  let digits := [Text.hexDigit (c.toNat / 16), Text.hexDigit (c.toNat % 16)]
  if c ∈ ['\x07', '\x08', '\x0c', '\x1b', '\x7f'] then ['\\', 'x'] ++ digits
  else if 0x80 ≤ c.toNat ∧ c.toNat < 0xA0 then ['\\', 'u', '\x7b'] ++ digits ++ ['\x7d']
  else [c]

/-- The message of an event as it is printed. -/
def shownMessage (event : Event) : String :=
  String.ofList (event.message.toList.flatMap escapeControl)

/-- What is printed for a line at a time. -/
def render (time : String) : Line → String
  | logged event =>
    time ++ " " ++ levelColumn event.level ++ " " ++ event.target ++ ": " ++ shownMessage event
  | plain text => text

/-- A row without the carriage return at its end, which belongs to the line break behind it. -/
def dropReturn (row : List Char) : List Char :=
  if row.getLast? = some '\r' then row.dropLast else row

/-- The rows that are seen when a line is printed at a time. A row ends with a line feed or with a
carriage return and a line feed; a carriage return elsewhere ends none. -/
def rows (time : String) (line : Line) : List String :=
  ((line.render time).toList.splitOn '\n').map fun row => String.ofList (dropReturn row)

end Line

/-! ## Failures -/

/-- Why a program fails: what it was doing, where that is told, and what went wrong. -/
structure Failure where
  context? : Option String
  cause : String
deriving DecidableEq, Repr

namespace Failure

/-- A text with every line but the first indented by four blanks. -/
def indentRest (s : String) : String :=
  String.ofList (s.toList.flatMap fun c => if c = '\n' then "\n    ".toList else [c])

/-- The message on standard error. -/
def message (failure : Failure) : String :=
  match failure.context? with
  | some context =>
    "Error: " ++ context ++ "\n\nCaused by:\n    " ++ indentRest failure.cause ++ "\n"
  | none => "Error: " ++ failure.cause ++ "\n"

/-- The failure of a setup. -/
def ofSetup (e : SetupError) : Failure where
  context? := match e.stage with
    | .settings => some "invalid settings"
    | .config => some "invalid documentation config"
    | .site => none
  cause := e.cause.message

end Failure

/-! ## Ends -/

/-- How a program stops before its work is done. -/
inductive Stop where
  | failed (failure : Failure)
  /-- The program breaks off with a message of its own. -/
  | brokenOff (message : String)
deriving DecidableEq, Repr

namespace Stop

/-- The exit code. -/
def code : Stop → Nat
  | failed _ => 1
  | brokenOff _ => 101

end Stop

end DocPortal.Program
