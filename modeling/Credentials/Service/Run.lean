import Credentials.Service.Operation

/-!
# Runs

A service with its backends in memory over time: operations by clocks that
need not be in order, a policy agent that goes away and comes back, and calls to
the key store that do not pass the service. A run is a fold of `Service.react`
over such events.
-/

namespace Credentials

/-- Something that happens to a service or to its backends. -/
inductive Event where
  /-- An operation by the time of a clock. A key that is stored gets the id
  `drawn`. -/
  | call (clock : Clock) (drawn : String) (op : Operation)
  /-- The policy agent goes away or comes back. -/
  | switch (available : Bool)
  /-- A key is filed in the key store by somebody else. -/
  | save (drawn : String) (key : Key)
  /-- A key is removed from the key store by somebody else. -/
  | remove (issuer id : String)
deriving DecidableEq

/-- Whether an event files a key past the service. -/
def Event.isSave : Event → Bool
  | .save _ _ => true
  | _ => false

/-- What an event comes to. -/
inductive Outcome where
  | answered (a : Answer)
  | halted (h : Halt)
  | saved (id : String)
  | notSaved (e : StoreError)
  | done
deriving DecidableEq

namespace Service

/-- What an event comes to, and what it leaves behind. -/
def react (svc : Service) (w : World) : Event → Outcome × World
  | .call clock drawn op =>
    match svc.perform (World.backend drawn) clock op w with
    | .ok a w' => (.answered a, w')
    | .error h w' => (.halted h, w')
  | .switch available => (.done, { w with relations := { w.relations with available } })
  | .save drawn key =>
    match w.keys.save drawn key with
    | (.ok id, keys) => (.saved id, { w with keys })
    | (.error e, keys) => (.notSaved e, { w with keys })
  | .remove issuer id => (.done, { w with keys := w.keys.remove issuer id })

/-- What is left after events in their order. -/
def run (svc : Service) (w : World) (events : List Event) : World :=
  events.foldl (fun w e => (svc.react w e).2) w

/-- What events in their order come to. -/
def outcomes (svc : Service) (w : World) : List Event → List Outcome
  | [] => []
  | e :: events => (svc.react w e).1 :: svc.outcomes (svc.react w e).2 events

end Service

end Credentials
