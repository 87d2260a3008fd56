/-
Directives: which events of which targets are shown.

A directive is a target, a level, or both with `=` between. Brackets behind
the target, or in its place, narrow it to what happens in a span, `[SPAN]`,
or to events that have a field, `[{FIELD}]`. A field can be asked for its
value, `[{FIELD=VALUE}]`, but only in a span; the value is a number or a
pattern. Without a level everything is shown.

Where the parts of a directive begin and end is told from the text without
the blanks around it, but they are cut out of the text with these blanks.
So blanks at the end belong to the last part, and blanks in front move every
cut by as many bytes, which can put it inside a character.
-/
import DocPortal.Log.Event
import DocPortal.Pattern.Usable
import DocPortal.Text.Alphanumeric
import DocPortal.Text.Blank
import DocPortal.Text.Bytes
import DocPortal.Text.Number

namespace DocPortal.Log

/-- What a directive asks of an event besides its target. -/
inductive Scope where
  | anywhere
  /-- The event has a field of that name. -/
  | withField (name : String)
  /-- The event happens in a span. -/
  | inSpan
deriving DecidableEq, Repr

/-- Whether an event of the start is of a scope. None of them happens in a span: the one span there
is belongs to the handling of a request. -/
def Scope.has : Scope → Event → Bool
  | anywhere, _ => true
  | withField name, event => name ∈ event.fieldNames
  | inSpan, _ => false

/-- The least important level that is shown for some events, or that nothing is. -/
structure Directive where
  target? : Option String := none
  scope : Scope := .anywhere
  level? : Option Level := some .trace
deriving DecidableEq, Repr

namespace Directive

/-! ## Reading -/

/-- Why a text is no directive. -/
inductive Fault where
  | malformed
  /-- A part of it would begin or end inside a character. -/
  | splitCharacter
deriving DecidableEq, Repr

/-- The levels by their numbers; nothing is shown at the first. -/
def numbered : List (Option Level) :=
  [none, some .error, some .warn, some .info, some .debug, some .trace]

/-- A level by its number, or by its name in any letter case; `off` shows nothing. -/
def readLevel (word : List Char) : Option (Option Level) :=
  match Text.readNumber word with
  | some n => numbered[n]?
  | none =>
    match (String.ofList word).toLower with
    | "off" => some none
    | "error" => some (some .error)
    | "warn" => some (some .warn)
    | "info" => some (some .info)
    | "debug" => some (some .debug)
    | "trace" => some (some .trace)
    | _ => none

/-- A character that a target or a level may start with. -/
def startsWord (c : Char) : Bool :=
  Text.isAlphanumeric c || c ∈ ['-', ':', '_']

/-- Whether a field's value can be asked for: a number, or a pattern that can be used. -/
def isValue (text : List Char) : Bool :=
  Text.isNumber text || Pattern.isUsableText text

/-- Whether what a directive says of a field has a value that cannot be asked for. The value ends
at a second `=`. -/
def hasBadValue (field : List Char) : Bool :=
  (field.splitOn '=')[1]?.any fun value => !isValue value

/-- How far a directive is read: what is known of it, and the byte at which its open part began. -/
inductive Progress where
  | start
  /-- In a target, or in a level that is the whole directive. -/
  | word
  | level (directive : Directive) (first : Nat)
  | span (directive : Directive) (first : Nat)
  | field (directive : Directive) (first : Nat)
  | fieldEnd (directive : Directive)
  | scopeEnd (directive : Directive)
deriving DecidableEq, Repr

/-- A part of a text between two bytes. -/
def part (text : List Char) (first last : Nat) : Except Fault (List Char) :=
  match Text.slice? first last text with
  | some cs => .ok cs
  | none => .error .splitCharacter

/-- The directive for events with a field. A field that must have a value is one of spans. -/
def narrowed (directive : Directive) (field : List Char) : Directive :=
  if directive.scope = .inSpan ∨ '=' ∈ field then { directive with scope := .inSpan }
  else { directive with scope := .withField (String.ofList field) }

/-- How far a directive is read after one more character, which is at a byte of the text without
blanks; the parts are cut out of the text with them. -/
def Progress.next (text : List Char) (place : Nat) (c : Char) : Progress → Except Fault Progress
  | start =>
    if c = '[' then .ok (.span {} (place + 1))
    else if startsWord c then .ok .word
    else .error .malformed
  | word =>
    if c = '=' then do
      let target ← part text 0 place
      return .level { target? := some (String.ofList target) } (place + 1)
    else if c = '[' then do
      let target ← part text 0 place
      return .span { target? := some (String.ofList target) } (place + 1)
    else .ok .word
  | level directive first => .ok (.level directive first)
  | span directive first =>
    if c = ']' then do
      let _ ← part text first place
      return .scopeEnd { directive with scope := .inSpan }
    else if c = '{' then do
      let name ← part text first place
      let scope := if name = [] then .anywhere else .inSpan
      return .field { directive with scope } (place + 1)
    else .ok (.span directive first)
  | field directive first =>
    if c = '}' then do
      let name ← part text first place
      if name = [] ∨ hasBadValue name then .error .malformed
      else return .fieldEnd (directive.narrowed name)
    else .ok (.field directive first)
  | fieldEnd directive => if c = ']' then .ok (.scopeEnd directive) else .error .malformed
  | scopeEnd directive =>
    if c = '=' then .ok (.level directive (place + 1)) else .error .malformed

/-- How far a directive is read after the characters from a byte on. -/
def Progress.scan (text : List Char) : Nat → List Char → Progress → Except Fault Progress
  | _, [], progress => .ok progress
  | place, c :: rest, progress => do
    scan text (place + c.utf8Size) rest (← progress.next text place c)

/-- The directive that is read when the text ends. -/
def Progress.finish (text : List Char) : Progress → Except Fault Directive
  | word =>
    match readLevel text with
    | some level? => .ok { level? }
    | none => .ok { target? := some (String.ofList text) }
  | level directive first =>
    match Text.dropBytes? first text with
    | none => .error .splitCharacter
    | some [] => .ok directive
    | some written =>
      match readLevel written with
      | some level? => .ok { directive with level? }
      | none => .error .malformed
  | scopeEnd directive => .ok directive
  | start | span .. | field .. | fieldEnd _ => .error .malformed

/-- The directive a text writes. -/
def parse (text : String) : Except Fault Directive := do
  let progress ← Progress.start.scan text.toList 0 (Text.trimChars text.toList)
  progress.finish text.toList

/-! ## Events -/

/-- Whether the directive is for an event. -/
def fits (directive : Directive) (event : Event) : Bool :=
  directive.scope.has event &&
    (directive.target?.getD "").toList.isPrefixOf event.target.toList

/-- Whether the directive, if it fits an event, has it shown. -/
def shows (directive : Directive) (event : Event) : Bool :=
  match directive.level? with
  | none => false
  | some level => event.level.rank ≤ level.rank

/-- How particular the directive is: first by the length of its target, then by its field. -/
def weight (directive : Directive) : Nat :=
  let target := match directive.target? with
    | some target => target.utf8ByteSize + 1
    | none => 0
  let field := match directive.scope with
    | .withField _ => 1
    | .anywhere | .inSpan => 0
  2 * target + field

end Directive

end DocPortal.Log
