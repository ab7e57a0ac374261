import Credentials.Store.KeyStore

/-!
# Histories of a key store

What can be asked of a key store, as a value, and the history of a store in
memory: every request with the reply to it, in their order. What a history says
about keys is read off it without the store.
-/

namespace Credentials

/-- What can be asked of a key store. -/
inductive Vault.Request where
  | save (key : Key)
  | retrieve (issuer id : String)
  | remove (issuer id : String)
deriving DecidableEq

/-- What a key store answers when it does what it was asked. -/
inductive Vault.Answer where
  | id (id : String)
  | record (key : Key)
  | done
deriving DecidableEq

/-- Asks a key store. -/
def Vault.ask {σ : Type} (vault : Vault σ) : Vault.Request → Call σ StoreError Vault.Answer
  | .save key => (vault.save key).andThen fun id => .ok (.id id)
  | .retrieve issuer id => (vault.retrieve issuer id).andThen fun record => .ok (.record record)
  | .remove issuer id => (vault.remove issuer id).andThen fun _ => .ok .done

/-- A request with the reply to it. -/
structure Exchange where
  request : Vault.Request
  reply : Reply StoreError Vault.Answer
deriving DecidableEq

namespace Exchange

/-- The id and the key of an exchange in which a key was saved. -/
def filing? : Exchange → Option (String × Key)
  | ⟨.save key, .value (.id id)⟩ => some (id, key)
  | _ => none

/-- Whether an exchange asks to remove the record of an issuer under an id. -/
def removes (issuer id : String) (e : Exchange) : Bool := e.request = .remove issuer id

end Exchange

/-- The keys that were saved and whose removal their issuer did not ask for afterwards, each
with its id, in the order in which they were saved. -/
def standing : List Exchange → List (String × Key)
  | [] => []
  | e :: later =>
    (e.filing?.toList.filter fun (id, key) => !later.any (·.removes key.issuer id))
      ++ standing later

namespace KeyStore

/-- A request, with the id that the store draws if it needs one. -/
structure Turn where
  drawn : String
  request : Vault.Request
deriving DecidableEq

variable (limit : Duration)

/-- What comes of a request. -/
def take (s : KeyStore) (turn : Turn) : Reply StoreError Vault.Answer × KeyStore :=
  (vault turn.drawn).ask turn.request limit s

/-- What was asked of a store and answered by it, request by request. -/
def history (s : KeyStore) : List Turn → List Exchange
  | [] => []
  | turn :: turns => ⟨turn.request, (s.take limit turn).1⟩ :: history (s.take limit turn).2 turns

/-- The store after requests in their order. -/
def after (s : KeyStore) (turns : List Turn) : KeyStore :=
  turns.foldl (fun s turn => (s.take limit turn).2) s

end KeyStore

end Credentials
