import Credentials.Codec.Basic
import Credentials.Config.Secret
import Credentials.Policy.Agent
import Credentials.Store.Error

/-!
# Service errors

What a service answers when it does not do what it was asked, and how the errors
of its parts become its own. Each error has a status for HTTP and a code for
programs; only the unavailability of a backend is worth another try.
-/

namespace Credentials

/-- Why a credential is not accepted. -/
inductive Rejection where
  | missingToken
  | badSignature
  | malformed
  | expired
  | issuedInFuture
  | revoked
  | wrongKeyType
  | subjectMismatch
deriving DecidableEq

/-- The reason in words. -/
def Rejection.message : Rejection → String
  | missingToken => "missing token"
  | badSignature => "bad signature"
  | malformed => "malformed token"
  | expired => "token expired"
  | issuedInFuture => "token issued in the future"
  | revoked => "key revoked"
  | wrongKeyType => "wrong key type"
  | subjectMismatch => "subject mismatch"

/-- What a service answers when it does not do what it was asked. -/
inductive ServiceError where
  /-- The credential is missing or not accepted. -/
  | authentication (reason : Rejection)
  /-- The policy agent said no. -/
  | authorization
  /-- The request is not one that can be met. -/
  | malformed (text : String)
  /-- There is no such key, or it belongs to another issuer. -/
  | notFound
  /-- The id of a key is taken. -/
  | conflict
  /-- A backend cannot be reached or took too long. -/
  | unavailable (text : String)
  | configuration (text : String)
  | internal (text : String)
deriving DecidableEq

namespace ServiceError

/-- The error in words. -/
def message : ServiceError → String
  | authentication reason => "authentication failed: " ++ reason.message
  | authorization => "unauthorized access"
  | malformed text => "malformed entity: " ++ text
  | notFound => "key not found"
  | conflict => "key already exists"
  | unavailable text => "backend unavailable: " ++ text
  | configuration text => "configuration error: " ++ text
  | internal text => "internal error: " ++ text

/-- The status for answers over HTTP. -/
def status : ServiceError → Nat
  | authentication _ => 401
  | authorization => 403
  | malformed _ => 400
  | notFound => 404
  | conflict => 409
  | unavailable _ => 503
  | configuration _ | internal _ => 500

/-- The code for programs. -/
def code : ServiceError → String
  | authentication .expired => "TOKEN_EXPIRED"
  | authentication .revoked => "KEY_REVOKED"
  | authentication .missingToken => "MISSING_TOKEN"
  | authentication _ => "INVALID_TOKEN"
  | authorization => "UNAUTHORIZED"
  | malformed _ => "MALFORMED_ENTITY"
  | notFound => "NOT_FOUND"
  | conflict => "CONFLICT"
  | unavailable _ => "UNAVAILABLE"
  | configuration _ => "CONFIGURATION_ERROR"
  | internal _ => "INTERNAL_ERROR"

/-- Whether the same call may succeed later. -/
def isRetryable : ServiceError → Bool
  | unavailable _ => true
  | _ => false

/-- Why a credential was not accepted, if that is the error. -/
def rejection? : ServiceError → Option Rejection
  | authentication reason => some reason
  | _ => none

/-- A token that does not decode is a credential that is not accepted. -/
def ofDecode : DecodeError → ServiceError
  | .badSignature => authentication .badSignature
  | .malformed _ => authentication .malformed

/-- A key that cannot be signed is trouble within the service. -/
def ofEncode (e : EncodeError) : ServiceError := internal e.message

/-- The errors of a key store, kind by kind. -/
def ofStore : StoreError → ServiceError
  | .notFound => notFound
  | .conflict => conflict
  | .malformed text => malformed text
  | .unavailable text => unavailable text
  | .database e => internal e.message

/-- The errors of a policy agent, kind by kind. -/
def ofPolicy : PolicyError → ServiceError
  | .denied => authorization
  | .unavailable text => unavailable text
  | .invalidRequest text => malformed text
  | .internal text => internal text

/-- Turning an error of a policy agent into one of the service does not change whether another try
is worth while. -/
theorem isRetryable_ofPolicy (e : PolicyError) : (ofPolicy e).isRetryable = e.isRetryable := by
  cases e <;> rfl

/-- A configuration that is refused. -/
def ofConfig (e : ConfigError) : ServiceError := configuration e.message

end ServiceError

end Credentials
