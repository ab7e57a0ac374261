import Credentials.Text.Digits

/-!
# Configuration errors and the signing secret
-/

namespace Credentials

/-- Why a configuration is refused. -/
inductive ConfigError where
  /-- A variable that has to be set is not. -/
  | missing (name : String)
  /-- A variable has a value that is no setting. -/
  | invalid (name : String)
  | emptySecret
  /-- A duration is too long. -/
  | durationOutOfRange (setting : String)
deriving DecidableEq

/-- The error in words. -/
def ConfigError.message : ConfigError → String
  | missing name => "Missing required environment variable: " ++ name
  | invalid name => "Invalid value for environment variable: " ++ name
  | emptySecret => "Signing secret must not be empty"
  | durationOutOfRange name => "Duration out of range: " ++ name

/-- The bytes under which tokens are signed: at least one. -/
structure SigningSecret where
  bytes : List UInt8
  nonempty : bytes ≠ []
deriving DecidableEq

namespace SigningSecret

/-- The number of bytes from which a secret is long enough for good practice. -/
def recommendedLength : Nat := 32

/-- The secret of these bytes, unless there are none. -/
def ofBytes (bytes : List UInt8) : Except ConfigError SigningSecret :=
  if h : bytes ≠ [] then .ok ⟨bytes, h⟩ else .error .emptySecret

/-- The number of bytes of a secret. -/
def length (s : SigningSecret) : Nat := s.bytes.length

/-- Whether a secret is as long as good practice asks for. -/
def isRecommended (s : SigningSecret) : Bool := recommendedLength ≤ s.length

/-- A secret in a form fit for logs: its length and nothing of its bytes. -/
def describe (s : SigningSecret) : String :=
  "SigningSecret \x7b length: " ++ String.ofList (Text.digits s.length) ++ ", .. \x7d"

end SigningSecret

end Credentials
