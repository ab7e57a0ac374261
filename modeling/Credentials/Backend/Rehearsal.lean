import Credentials.Backend.Basic
import Credentials.Text.Digits

/-!
# Rehearsals

Backends around other backends that note each call, choose the ids of new
records, and fail or stall on demand, so that the ways in which a service meets
trouble can be rehearsed. A stall before the inner call that outlasts the
caller's patience means that the call never happened; after it, that it did.
-/

namespace Credentials

/-- A call to a backend, as it was made. -/
inductive BackendCall where
  | save (key : Key)
  | retrieve (issuer id : String)
  | remove (issuer id : String)
  | evaluate (r : Relationship)
  | add (r : Relationship)
  | delete (r : Relationship)
  | listSubjects (object relation : String)
  | listObjects (subject relation : String)
deriving DecidableEq

/-- The kinds of calls to a backend. -/
inductive BackendCall.Kind where
  | save
  | retrieve
  | remove
  | evaluate
  | add
  | delete
  | listSubjects
  | listObjects
deriving DecidableEq

/-- The kind of a call. -/
def BackendCall.kind : BackendCall → BackendCall.Kind
  | save _ => .save
  | retrieve _ _ => .retrieve
  | remove _ _ => .remove
  | evaluate _ => .evaluate
  | add _ => .add
  | delete _ => .delete
  | listSubjects _ _ => .listSubjects
  | listObjects _ _ => .listObjects

/-- Trouble of a backend that reports errors of type `ε`. -/
structure Trouble (ε : Type) where
  /-- The kinds of calls that it befalls. -/
  kinds : List BackendCall.Kind := []
  /-- The error that takes the place of the inner call. -/
  error : Option ε := none
  /-- How long the backend stalls. -/
  delay : Duration := ⟨0⟩
  /-- Whether it stalls after the inner call. -/
  afterwards : Bool := false

/-- Where the ids of new records come from: a list, and numbered ids when it has
run out. -/
structure IdSource where
  queue : List String := []
  count : Nat := 0
deriving DecidableEq

/-- The next id. -/
def IdSource.draw (s : IdSource) : String × IdSource :=
  match s.queue with
  | id :: rest => (id, { s with queue := rest })
  | [] => ("key-" ++ String.ofList (Text.digits (s.count + 1)), { s with count := s.count + 1 })

/-- Backends with state `σ` under rehearsal. -/
structure Rehearsal (σ : Type) where
  inner : σ
  /-- The calls so far, the latest first. -/
  calls : List BackendCall := []
  ids : IdSource := {}
  storeTrouble : Trouble StoreError := {}
  agentTrouble : Trouble PolicyError := {}

namespace Rehearsal

variable {σ ε α : Type}

/-- A call under trouble, if the trouble befalls it. An error comes at once when
the stall would be after the call. -/
def disturb (trouble : Trouble ε) (made : BackendCall) (call : Call (Rehearsal σ) ε α) :
    Call (Rehearsal σ) ε α := fun limit s =>
  if trouble.kinds.contains made.kind then
    let late := decide (limit < trouble.delay)
    if late && !trouble.afterwards then (.late, s)
    else
      match trouble.error with
      | some e => (.failure e, s)
      | none =>
        let (r, t) := call limit s
        if late then (.late, t) else (r, t)
  else call limit s

/-- A call that is noted, and then made under the trouble of its backend. -/
def watched (trouble : Rehearsal σ → Trouble ε) (made : BackendCall)
    (call : Call (Rehearsal σ) ε α) : Call (Rehearsal σ) ε α := fun limit s =>
  disturb (trouble s) made call limit { s with calls := made :: s.calls }

/-- A call to the backends within. -/
def within (call : Call σ ε α) : Call (Rehearsal σ) ε α :=
  call.onPart inner fun s inner => { s with inner }

/-- Saves a key, which takes the next id if it has none. -/
def save (vault : Vault σ) (key : Key) : Call (Rehearsal σ) StoreError String := fun limit s =>
  match key.id with
  | some _ => within (vault.save key) limit s
  | none =>
    let (id, ids) := s.ids.draw
    within (vault.save { key with id := some id }) limit { s with ids }

/-- The rehearsal of backends. -/
def backend (b : Backend σ) : Backend (Rehearsal σ) where
  vault := {
    save := fun key => watched storeTrouble (.save key) (save b.vault key)
    retrieve := fun issuer id =>
      watched storeTrouble (.retrieve issuer id) (within (b.vault.retrieve issuer id))
    remove := fun issuer id =>
      watched storeTrouble (.remove issuer id) (within (b.vault.remove issuer id)) }
  agent := {
    evaluate := fun r => watched agentTrouble (.evaluate r) (within (b.agent.evaluate r))
    add := fun r => watched agentTrouble (.add r) (within (b.agent.add r))
    delete := fun r => watched agentTrouble (.delete r) (within (b.agent.delete r))
    listSubjects := fun object relation =>
      watched agentTrouble (.listSubjects object relation)
        (within (b.agent.listSubjects object relation))
    listObjects := fun subject relation =>
      watched agentTrouble (.listObjects subject relation)
        (within (b.agent.listObjects subject relation)) }

end Rehearsal

end Credentials
