import Credentials.Key.Basic
import Credentials.Store.Error
import Credentials.Time.Duration

/-!
# Keys in a database

The row that holds a key, and the defaults for the connections to a database.
-/

namespace Credentials

/-- A key as a row of a table. -/
structure KeyRow where
  id : String
  /-- The ordinal of the key type, as the column holds it. -/
  keyType : Int
  issuer : String
  subject : String
  issuedAt : Instant
  expiresAt : Option Instant
deriving DecidableEq

/-- The key of a row, unless its type is unknown. -/
def KeyRow.toKey (row : KeyRow) : Except StoreError Key :=
  match (if 0 ≤ row.keyType then KeyType.ofOrdinal? row.keyType.toNat else none) with
  | some keyType => .ok {
      id := some row.id
      keyType
      issuer := row.issuer
      subject := row.subject
      issuedAt := row.issuedAt
      expiresAt := row.expiresAt }
  | none =>
    .error (.malformed ("key type " ++ String.ofList (Text.signedDigits row.keyType)))

/-- How the connections to a database are kept. -/
structure PoolOptions where
  /-- The most connections that are open at once. -/
  maxConnections : Nat := 10
  /-- How long to wait for a free connection. -/
  acquireTimeout : Duration := .ofSeconds 5
deriving DecidableEq

end Credentials
