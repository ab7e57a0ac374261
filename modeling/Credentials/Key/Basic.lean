import Credentials.Key.KeyType
import Credentials.Time.Clock

/-!
# Keys

A key says who vouches for whom, from when and until when. Requests for keys,
records of the key store and the claims of a token are all keys.
-/

namespace Credentials

/-- A credential. Its times are instants, unless it says otherwise; the keys that
a service deals with have no place for the leap seconds that documents may tell. -/
structure Key (τ : Type := Instant) where
  /-- The name under which the key store files the key. -/
  id : Option String := none
  keyType : KeyType
  /-- Who had the key issued; empty for login keys. -/
  issuer : String := ""
  /-- Whose identity the key asserts. -/
  subject : String
  issuedAt : τ
  /-- The first moment at which the key has expired. -/
  expiresAt : Option τ := none
deriving DecidableEq

namespace Key

variable {τ υ : Type}

/-- The key with its times given in another way. -/
def map (f : τ → υ) (key : Key τ) : Key υ where
  id := key.id
  keyType := key.keyType
  issuer := key.issuer
  subject := key.subject
  issuedAt := f key.issuedAt
  expiresAt := key.expiresAt.map f

/-- The key that holds when nothing is said: an access key of nobody. -/
def blank : Key := { keyType := .access, subject := "", issuedAt := .epoch }

/-- The key with an expiry `nanos` nanoseconds after its issue time, if that is
an instant. -/
def validFor? (key : Key) (nanos : Int) : Option Key :=
  (key.issuedAt.shift? nanos).map fun t => { key with expiresAt := some t }

/-- Whether the issue time is given. The epoch counts as not given. -/
def hasIssueTime (key : Key) : Bool := key.issuedAt ≠ .epoch

/-- Whether a key has expired at an instant. Without an expiry an API key never
expires, and every other key always has. -/
def isExpiredAt (key : Key) (now : Instant) : Bool :=
  match key.keyType, key.expiresAt with
  | _, some expiry => expiry ≤ now
  | .api, none => false
  | _, none => true

/-- Whether a key has expired by a clock, if the clock shows anything. -/
def isExpired? (key : Key) (clock : Clock) : Option Bool := clock.shown.map key.isExpiredAt

/-- A key in words; a dash stands for what is missing. -/
def describe (key : Key τ) : String :=
  key.keyType.name ++ " key " ++ key.id.getD "-" ++ " (subject " ++ key.subject ++ ", issuer "
    ++ (if key.issuer = "" then "-" else key.issuer) ++ ")"

end Key

end Credentials
