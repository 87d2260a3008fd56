/-
Computations that report while they work: the events up to the end, and
the value they end with or the cause they stop for.

`bind` runs one after the other: the events of the first come first, and
nothing of the second happens if the first has stopped.
-/
import DocPortal.Log.Event

namespace DocPortal.Log

/-- The events of a computation in order, with its value or the cause it stopped for. -/
structure Report (ε α : Type) where
  events : List Event
  result : Except ε α

/-- A result in a row of two was a result of the first, and came from it by the second. -/
theorem bind_ok_iff {ε α β : Type} {x : Except ε α} {f : α → Except ε β} {b : β} :
    (x >>= f) = .ok b ↔ ∃ a, x = .ok a ∧ f a = .ok b := by
  cases x with
  | error e => simp [bind, Except.bind]
  | ok a => simp [bind, Except.bind]

theorem map_ok_iff {ε α β : Type} {x : Except ε α} {f : α → β} {b : β} :
    x.map f = .ok b ↔ ∃ a, x = .ok a ∧ f a = b := by
  cases x with
  | error e => simp [Except.map]
  | ok a => simp [Except.map]

namespace Report

variable {ε δ α β : Type}

/-- A value, with nothing reported. -/
def pure (a : α) : Report ε α := ⟨[], .ok a⟩

/-- A cause to stop, with nothing reported. -/
def fail (e : ε) : Report ε α := ⟨[], .error e⟩

/-- A result, with nothing reported. -/
def ofExcept (r : Except ε α) : Report ε α := ⟨[], r⟩

/-- Reports one event. -/
def note (e : Event) : Report ε Unit := ⟨[e], .ok ()⟩

/-- Goes on with the value, unless there is none. -/
def bind (r : Report ε α) (f : α → Report ε β) : Report ε β :=
  match r.result with
  | .ok a => ⟨r.events ++ (f a).events, (f a).result⟩
  | .error e => ⟨r.events, .error e⟩

instance : Monad (Report ε) where
  pure := pure
  bind := bind

/-- The same events, and the cause restated. -/
def mapError (f : ε → δ) (r : Report ε α) : Report δ α := ⟨r.events, r.result.mapError f⟩

/-- Reports several events. -/
def noteAll (es : List Event) : Report ε Unit := ⟨es, .ok ()⟩

theorem bind_def (r : Report ε α) (f : α → Report ε β) : (r >>= f) = r.bind f := rfl

theorem bind_ok {r : Report ε α} {a : α} (h : r.result = .ok a) (f : α → Report ε β) :
    (r >>= f) = ⟨r.events ++ (f a).events, (f a).result⟩ := by
  rw [bind_def, bind, h]

theorem bind_error {r : Report ε α} {e : ε} (h : r.result = .error e) (f : α → Report ε β) :
    (r >>= f) = ⟨r.events, .error e⟩ := by
  rw [bind_def, bind, h]

theorem result_pure (a : α) : (Pure.pure a : Report ε α).result = .ok a := rfl

/-- The result of two computations in a row is that of their results in a row. -/
theorem result_bind (r : Report ε α) (f : α → Report ε β) :
    (r >>= f).result = r.result >>= fun a => (f a).result := by
  rw [bind_def, bind]
  cases r.result <;> rfl

/-- What comes out well came out well at each step. -/
theorem bind_result_eq_ok {r : Report ε α} {f : α → Report ε β} {b : β} :
    (r >>= f).result = .ok b ↔ ∃ a, r.result = .ok a ∧ (f a).result = .ok b := by
  rw [bind_def, bind]
  split <;> simp_all

theorem mapError_result_of_error (f : ε → δ) {r : Report ε α} {e : ε} (h : r.result = .error e) :
    (r.mapError f).result = .error (f e) := by
  rw [mapError, h]
  rfl

/-- Restating causes changes no value. -/
theorem mapError_result_eq_ok {f : ε → δ} {r : Report ε α} {a : α} :
    (r.mapError f).result = .ok a ↔ r.result = .ok a := by
  obtain ⟨events, result⟩ := r
  cases result with
  | error e => exact ⟨nofun, nofun⟩
  | ok b =>
    constructor
    · intro h
      cases h
      rfl
    · intro h
      cases h
      rfl

end Report

end DocPortal.Log
