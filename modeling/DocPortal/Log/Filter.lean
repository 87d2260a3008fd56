/-
Which events are shown.

A filter is a list of directives, written with commas between. Of those that
fit an event the most particular one decides; an event that none fits is not
shown. A filter without directives shows errors.
-/
import DocPortal.Log.Directive
import DocPortal.Text.Separated

namespace DocPortal.Log

/-- The directives of a filter. -/
abbrev Filter := List Directive

namespace Filter

/-- The filter a text writes; its first fault, if one of its directives has one. Nothing between
commas is no directive. -/
def parse (text : String) : Except Directive.Fault Filter :=
  ((Text.pieces ',' text).filter (· ≠ "")).mapM Directive.parse

/-- The more particular of two directives, the later one if neither is. -/
def nearer (a b : Directive) : Directive :=
  if a.weight ≤ b.weight then b else a

/-- The directive that decides about an event. -/
def deciding? (filter : Filter) (event : Event) : Option Directive :=
  match List.filter (·.fits event) filter with
  | [] => none
  | directive :: rest => some (rest.foldl nearer directive)

/-- Whether an event is shown. -/
def shows (filter : Filter) (event : Event) : Bool :=
  if filter = [] then event.level = .error
  else ((filter.deciding? event).map (·.shows event)).getD false

end Filter

end DocPortal.Log
