import Credentials.Store.Vault

/-!
# The key store in memory

Live records by id, and the ids of the records that were removed. An id that
was ever taken is never given again.
-/

namespace Credentials

/-- A key store in memory. -/
structure KeyStore where
  /-- The live records by id. -/
  records : List (String × Key) := []
  /-- The ids of removed records. -/
  removed : List String := []
deriving DecidableEq

namespace KeyStore

/-- The live record under an id. -/
def find? (s : KeyStore) (id : String) : Option Key := s.records.lookup id

/-- Whether an id was removed. -/
def isRemoved (s : KeyStore) (id : String) : Bool := s.removed.contains id

/-- The number of live records. -/
def size (s : KeyStore) : Nat := s.records.length

/-- Files a key under its own id, or under `drawn` if it has none. -/
def save (s : KeyStore) (drawn : String) (key : Key) : Except StoreError String × KeyStore :=
  let id := key.id.getD drawn
  if (s.find? id).isSome || s.isRemoved id then (.error .conflict, s)
  else (.ok id, { s with records := s.records ++ [(id, { key with id := some id })] })

/-- The live record of an issuer under an id. -/
def retrieve (s : KeyStore) (issuer id : String) : Except StoreError Key :=
  match s.find? id with
  | some key => if key.issuer = issuer then .ok key else .error .notFound
  | none => .error .notFound

/-- The store without the record of an issuer under an id. -/
def remove (s : KeyStore) (issuer id : String) : KeyStore :=
  match s.find? id with
  | some key =>
    if key.issuer = issuer then
      { records := s.records.filter (·.1 ≠ id), removed := id :: s.removed }
    else s
  | none => s

/-- The store as a vault that answers at once and draws `drawn` as the next
fresh id. -/
def vault (drawn : String) : Vault KeyStore where
  save key := fun _ s =>
    let (r, t) := s.save drawn key
    (.ofExcept r, t)
  retrieve issuer id := fun _ s => (.ofExcept (s.retrieve issuer id), s)
  remove issuer id := fun _ s => (.value (), s.remove issuer id)

end KeyStore

end Credentials
