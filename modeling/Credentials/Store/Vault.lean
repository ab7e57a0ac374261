import Credentials.Backend.Call
import Credentials.Key.Basic
import Credentials.Store.Error

/-!
# Vaults

What a service asks of a key store. Records are filed under an id and belong to
their issuer: nobody else finds or removes them, even with the id at hand.
-/

namespace Credentials

/-- A key store with state `σ`. -/
structure Vault (σ : Type) where
  /-- Files a key under its id, or under a fresh one if it has none, and returns
  the id. -/
  save : Key → Call σ StoreError String
  /-- The record of an issuer under an id. -/
  retrieve : (issuer id : String) → Call σ StoreError Key
  /-- Removes the record of an issuer under an id for good. Without such a
  record there is nothing to do. -/
  remove : (issuer id : String) → Call σ StoreError Unit

/-- A key store that is one part of a larger state. -/
def Vault.onPart {σ τ : Type} (get : σ → τ) (set : σ → τ → σ) (vault : Vault τ) : Vault σ where
  save key := (vault.save key).onPart get set
  retrieve issuer id := (vault.retrieve issuer id).onPart get set
  remove issuer id := (vault.remove issuer id).onPart get set

end Credentials
