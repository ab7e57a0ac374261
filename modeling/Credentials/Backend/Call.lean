import Credentials.Time.Duration

/-!
# Calls to backends

A service leaves its records to a key store and its decisions to a policy agent.
A call to one of them is given the time that the caller is ready to wait and the
state of the backend; it comes back with a reply and the state afterwards. A
caller that gives up learns nothing about the state.
-/

namespace Credentials

/-- What comes back from a call to a backend. -/
inductive Reply (ε α : Type) where
  | value (a : α)
  | failure (e : ε)
  /-- The caller's time was up first. -/
  | late
deriving DecidableEq

/-- A call to a backend with state `σ`, given the time the caller waits. -/
abbrev Call (σ ε α : Type) := Duration → σ → Reply ε α × σ

namespace Reply

variable {ε α : Type}

/-- A result as the reply of a backend that answers at once. -/
def ofExcept : Except ε α → Reply ε α
  | .ok a => .value a
  | .error e => .failure e

end Reply

namespace Call

variable {σ τ ε α : Type}

/-- The call that comes back at once without touching the state. -/
def pure (r : Except ε α) : Call σ ε α := fun _ s => (.ofExcept r, s)

/-- A call whose value is turned into a result. -/
def andThen {β : Type} (call : Call σ ε α) (f : α → Except ε β) : Call σ ε β := fun limit s =>
  match call limit s with
  | (.value a, t) => (.ofExcept (f a), t)
  | (.failure e, t) => (.failure e, t)
  | (.late, t) => (.late, t)

/-- A call that is answered at once goes on with its result. -/
theorem andThen_of_answer {β : Type} {call : Call σ ε α} {limit : Duration} {s t : σ}
    {x : Except ε α} (h : call limit s = (.ofExcept x, t)) (f : α → Except ε β) :
    call.andThen f limit s = (.ofExcept (x >>= f), t) := by
  rw [andThen, h]
  cases x <;> rfl

/-- A call to a backend that is one part of a larger state. -/
def onPart (get : σ → τ) (set : σ → τ → σ) (call : Call τ ε α) : Call σ ε α := fun limit s =>
  let (r, t) := call limit (get s)
  (r, set s t)

end Call

end Credentials
