import Credentials.Text.Digits

/-!
# Key store errors

What a key store reports, and how the troubles of a database are sorted into it:
what a caller may try again later, what the caller did wrong, and what is neither.
-/

namespace Credentials

/-- What a database client reports. -/
inductive DatabaseError where
  | rowNotFound
  | poolTimedOut
  | poolClosed
  | workerCrashed
  | io (text : String)
  | tls (text : String)
  | configuration (text : String)
  | protocol (text : String)
  | decode (text : String)
  | columnNotFound (name : String)
  | columnOutOfBounds (index length : Nat)
  | columnDecode (column text : String)
  | typeNotFound (name : String)
  /-- What the driver for any database says of the one that it stands for. -/
  | driver (text : String)
  | migration (text : String)
  /-- What the database itself says, with its five-character code if it gives
  one. -/
  | database (code : Option String) (text : String)
deriving DecidableEq

/-- The error in words. -/
def DatabaseError.message : DatabaseError → String
  | rowNotFound =>
    "no rows returned by a query that expected to return at least one row"
  | poolTimedOut => "pool timed out while waiting for an open connection"
  | poolClosed => "attempted to acquire a connection on a closed pool"
  | workerCrashed => "attempted to communicate with a crashed background worker"
  | io text => "error communicating with database: " ++ text
  | tls text => "error occurred while attempting to establish a TLS connection: " ++ text
  | configuration text => "error with configuration: " ++ text
  | protocol text => "encountered unexpected or invalid data: " ++ text
  | decode text => "error occurred while decoding: " ++ text
  | columnNotFound name => "no column found for name: " ++ name
  | columnOutOfBounds index length =>
    "column index out of bounds: the len is " ++ String.ofList (Text.digits length)
      ++ ", but the index is " ++ String.ofList (Text.digits index)
  | columnDecode column text =>
    "error occurred while decoding column " ++ column ++ ": " ++ text
  | typeNotFound name => "type named " ++ name ++ " not found"
  | driver text => "error in Any driver mapping: " ++ text
  | migration text => text
  | database _ text => "error returned from database: " ++ text

/-- What a key store reports. -/
inductive StoreError where
  /-- There is no such record, or it belongs to another issuer. -/
  | notFound
  /-- The id is taken, or was. -/
  | conflict
  /-- The store does not take such a record. -/
  | malformed (text : String)
  /-- The store cannot be reached. -/
  | unavailable (text : String)
  | database (error : DatabaseError)
deriving DecidableEq

namespace StoreError

/-- The error in words. -/
def message : StoreError → String
  | notFound => "record not found"
  | conflict => "record already exists"
  | malformed text => "malformed entity: " ++ text
  | unavailable text => "storage unavailable: " ++ text
  | database e => "database error: " ++ e.message

/-- Whether the same call may succeed later. -/
def isRetryable : StoreError → Bool
  | unavailable _ => true
  | _ => false

/-- The code with which a database refuses a value that is taken. -/
def uniqueViolation : String := "23505"

/-- The code with which a database refuses a text that is too long. -/
def textTooLong : String := "22001"

/-- The code with which a database refuses a text that is no value of its type. -/
def invalidText : String := "22P02"

/-- What the trouble of a database is to the users of a key store. -/
def ofDatabase : DatabaseError → StoreError
  | .rowNotFound => .notFound
  | .database code text =>
    if code = some uniqueViolation then .conflict
    else if code = some textTooLong ∨ code = some invalidText then .malformed text
    else .database (.database code text)
  | .io text => .unavailable (DatabaseError.io text).message
  | .tls text => .unavailable (DatabaseError.tls text).message
  | .poolTimedOut => .unavailable DatabaseError.poolTimedOut.message
  | .poolClosed => .unavailable DatabaseError.poolClosed.message
  | .workerCrashed => .unavailable DatabaseError.workerCrashed.message
  | e => .database e

end StoreError

end Credentials
