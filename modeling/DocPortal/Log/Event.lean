/-
Log events: what the service reports to its operator while it works.
-/

namespace DocPortal.Log

/-- How much an event matters, from most to least. -/
inductive Level where
  | error
  | warn
  | info
  | debug
  | trace
deriving DecidableEq, Repr

namespace Level

/-- The name of a level in a log line. -/
def name : Level → String
  | error => "ERROR"
  | warn => "WARN"
  | info => "INFO"
  | debug => "DEBUG"
  | trace => "TRACE"

/-- The place of a level, counted from the one that matters most. -/
def rank : Level → Nat
  | error => 1
  | warn => 2
  | info => 3
  | debug => 4
  | trace => 5

end Level

/-- One thing the service reports. The target names the part that reports it. -/
structure Event where
  level : Level
  target : String
  message : String
deriving DecidableEq, Repr

/-- The names of what an event carries besides its level and target. -/
def Event.fieldNames (_ : Event) : List String := ["message"]

end DocPortal.Log
