import Credentials.Backend.Basic
import Credentials.Config.Basic
import Credentials.Policy.Gateway
import Credentials.Service.Error
import Credentials.Key.Token

/-!
# The service

Issues keys as signed tokens, finds the subject behind a token, keeps and
revokes stored keys, and passes questions about relationships on to the policy
agent. The clock is an argument of every operation that looks at it, so that an
operation is a function of its arguments and of the backends. A token is decoded
before anybody looks at the clock, and a request is checked after it.

The decisions that need no backend are plain functions into `Except`; the
operations put the calls to the backends between them.
-/

namespace Credentials

/-- How an operation ends that does not come to a value. -/
inductive Halt where
  /-- The service refuses, and says why. -/
  | refused (error : ServiceError)
  /-- The clock shows nothing, or is so late that the latest issue time to be
  tolerated lies beyond the range of instants. Nothing has been done. -/
  | clockOutOfRange
deriving DecidableEq

/-- What a service does with its backends: it ends with a value or a halt, and
with the state of the backends either way. -/
abbrev Action (σ α : Type) := EStateM Halt σ α

/-- A service that issues and checks keys. -/
structure Service where
  codec : Codec
  accessLifetime : Duration
  refreshLifetime : Duration
  recoveryLifetime : Duration
  clockSkew : Duration
  backendTimeout : Duration
deriving DecidableEq

namespace Service

/-! ## Setting up -/

/-- The longest duration that a service computes with. -/
def longestDuration : Duration := .ofMillis 9223372036854775807

/-- A duration that a service can compute with. -/
def checkDuration (setting : String) (d : Duration) : Except ServiceError Duration :=
  if d ≤ longestDuration then .ok d
  else .error (.ofConfig (.durationOutOfRange setting))

/-- The service of a configuration. -/
def ofConfig (config : Config) : Except ServiceError Service := do
  return {
    codec := ⟨config.secret, config.tokenIssuer⟩
    accessLifetime := ← checkDuration "access_duration" config.accessLifetime
    refreshLifetime := ← checkDuration "refresh_duration" config.refreshLifetime
    recoveryLifetime := ← checkDuration "recovery_duration" config.recoveryLifetime
    clockSkew := ← checkDuration "clock_skew" config.clockSkew
    backendTimeout := config.backendTimeout }

/-- A service in words, without its secret. -/
def describe (svc : Service) : String :=
  let delta (d : Duration) : String :=
    "TimeDelta \x7b secs: " ++ String.ofList (Text.digits d.seconds) ++ ", nanos: "
      ++ String.ofList (Text.digits d.subsecond) ++ " \x7d"
  "AuthService \x7b codec: " ++ svc.codec.describe ++ ", access_duration: "
    ++ delta svc.accessLifetime ++ ", refresh_duration: " ++ delta svc.refreshLifetime
    ++ ", recovery_duration: " ++ delta svc.recoveryLifetime ++ ", backend_timeout: "
    ++ svc.backendTimeout.text ++ ", .. \x7d"

/-! ## Decisions -/

/-- A refused credential. -/
def reject {α : Type} (reason : Rejection) : Except Halt α :=
  .error (.refused (.authentication reason))

/-- A refused request. -/
def malformed {α : Type} (text : String) : Except Halt α := .error (.refused (.malformed text))

/-- What a clock shows. -/
def look (clock : Clock) : Except Halt Instant :=
  match clock.shown with
  | some now => .ok now
  | none => .error .clockOutOfRange

/-- The latest issue time that is tolerated. -/
def horizon (svc : Service) (now : Instant) : Except Halt Instant :=
  match now.after? svc.clockSkew with
  | some t => .ok t
  | none => .error .clockOutOfRange

/-- Whether a key expires no later than it is issued. -/
def isStillborn (key : Key) : Bool := key.expiresAt.any (· ≤ key.issuedAt)

/-- Checks a request for a key. The first flaw is the one reported. -/
def validateRequest (svc : Service) (now : Instant) (key : Key) : Except Halt Unit :=
  if key.subject = "" then malformed "missing subject"
  else if !key.hasIssueTime then malformed "missing issue time"
  else do
    let latest ← svc.horizon now
    if latest < key.issuedAt then malformed "issue time is in the future"
    else if key.keyType = .api ∧ isStillborn key then
      malformed "expiration must be after issue time"
    else .ok ()

/-- The key of a token. -/
def decode (svc : Service) (token : String) : Except Halt Key :=
  if token = "" then reject .missingToken
  else
    match svc.codec.decode token with
    | .ok key => .ok key
    | .error e => .error (.refused (.ofDecode e))

/-- Checks that a key was issued by now and has not expired. -/
def checkValidity (svc : Service) (now : Instant) (key : Key) : Except Halt Unit := do
  let latest ← svc.horizon now
  if latest < key.issuedAt then reject .issuedInFuture
  else if key.isExpiredAt now then reject .expired
  else .ok ()

/-- The key of a token that has to be live and of the given type. -/
def caller (svc : Service) (clock : Clock) (token : String) (expected : KeyType) :
    Except Halt Key := do
  let key ← svc.decode token
  svc.checkValidity (← look clock) key
  if key.keyType = expected then .ok key else reject .wrongKeyType

/-- The instant at which a key expires that lives for `lifetime`. -/
def expiry (issuedAt : Instant) (lifetime : Duration) : Except Halt Instant :=
  match issuedAt.after? lifetime with
  | some t => .ok t
  | none => malformed "expiration out of range"

/-- The two tokens of a login. -/
def loginPair (svc : Service) (subject : String) (issuedAt : Instant) : Except Halt Token := do
  let accessExpiry ← expiry issuedAt svc.accessLifetime
  let refreshExpiry ← expiry issuedAt svc.refreshLifetime
  return .pair
    (svc.codec.encode { keyType := .access, subject, issuedAt, expiresAt := some accessExpiry })
    (svc.codec.encode { keyType := .refresh, subject, issuedAt, expiresAt := some refreshExpiry })

/-- The expiry of a stored key: a recovery key lives for a fixed time, an API
key for as long as the request says. -/
def storedExpiry (svc : Service) (key : Key) : Except Halt (Option Instant) :=
  match key.keyType with
  | .recovery => some <$> expiry key.issuedAt svc.recoveryLifetime
  | _ => .ok key.expiresAt

/-- Exchanges a live refresh token for the two tokens of a login. -/
def exchange (svc : Service) (clock : Clock) (token : String) : Except Halt Token := do
  let caller ← svc.caller clock token .refresh
  svc.loginPair caller.subject (← look clock)

/-! ## Operations -/

variable {σ ε α : Type}

/-- A decision as an action, which leaves the backends alone. -/
def settle : Except Halt α → Action σ α
  | .ok a => fun s => .ok a s
  | .error h => fun s => .error h s

/-- A call to a backend that is given up after a while. `purpose` names it in the
error that follows. -/
def bounded (svc : Service) (purpose : String) (convert : ε → ServiceError) (call : Call σ ε α) :
    Action σ α := fun s =>
  match call svc.backendTimeout s with
  | (.value a, t) => .ok a t
  | (.failure e, t) => .error (.refused (convert e)) t
  | (.late, t) => .error (.refused (.unavailable (purpose ++ " timed out"))) t

/-- Issues a key that has a record in the key store. The caller becomes its
issuer, and needs admin rights if the key is for somebody else. -/
def issueStored (svc : Service) (b : Backend σ) (clock : Clock) (token : String) (key : Key) :
    Action σ Token := do
  let caller ← settle (svc.caller clock token .access)
  if caller.subject ≠ key.subject then
    svc.bounded "check_admin" .ofPolicy (Gateway.checkAdmin b.agent caller.subject)
  let expiresAt ← settle (svc.storedExpiry key)
  let record := { key with id := none, issuer := caller.subject, expiresAt }
  let id ← svc.bounded "save key" .ofStore (b.vault.save record)
  return .persisted (svc.codec.encode { record with id := some id }) id

/-- Issues a key. A login needs no token; its companion needs a live companion of
the same subject, and a stored key a live login. -/
def issue (svc : Service) (b : Backend σ) (clock : Clock) (token : String) (key : Key) :
    Action σ Token := do
  let now ← settle (look clock)
  settle (svc.validateRequest now key)
  match key.keyType with
  | .access => settle (svc.loginPair key.subject key.issuedAt)
  | .refresh => do
    let caller ← settle (svc.caller clock token .refresh)
    if caller.subject ≠ key.subject then settle (reject .subjectMismatch)
    else settle (svc.loginPair key.subject key.issuedAt)
  | .api | .recovery => svc.issueStored b clock token key

/-- Exchanges a live refresh token for the two tokens of a login. -/
def refresh (svc : Service) (clock : Clock) (token : String) : Action σ Token :=
  settle (svc.exchange clock token)

/-- The record of a stored key that the caller issued. -/
def retrieveKey (svc : Service) (b : Backend σ) (clock : Clock) (token id : String) :
    Action σ Key := do
  let caller ← settle (svc.caller clock token .access)
  svc.bounded "retrieve key" .ofStore (b.vault.retrieve caller.subject id)

/-- Revokes a stored key that the caller issued. Without such a key there is
nothing to do. -/
def revoke (svc : Service) (b : Backend σ) (clock : Clock) (token id : String) :
    Action σ Unit := do
  let caller ← settle (svc.caller clock token .access)
  svc.bounded "remove key" .ofStore (b.vault.remove caller.subject id)

/-- The errors of a look-up whose record should be there: a missing record means
that the key was revoked. -/
def ofMissingRecord : StoreError → ServiceError
  | .notFound => .authentication .revoked
  | e => .ofStore e

/-- The subject of a stored key, whose record has to be there and to agree with
it. -/
def confirm (svc : Service) (b : Backend σ) (key : Key) : Action σ String := do
  match key.id with
  | none => settle (reject .malformed)
  | some id => do
    let stored ← svc.bounded "retrieve key" ofMissingRecord (b.vault.retrieve key.issuer id)
    if stored.subject = key.subject ∧ stored.keyType = key.keyType then return key.subject
    else settle (reject .revoked)

/-- The subject behind a token. A refresh token does not stand for anybody. -/
def identify (svc : Service) (b : Backend σ) (clock : Clock) (token : String) :
    Action σ String := do
  let key ← settle (svc.decode token)
  let now ← settle (look clock)
  settle (svc.checkValidity now key)
  if key.keyType = .refresh then settle (reject .wrongKeyType)
  else
    match key.keyType.persistence with
    | .stateless => return key.subject
    | .persisted => svc.confirm b key

/-- Succeeds only if a relationship holds. -/
def authorize (svc : Service) (b : Backend σ) (r : Relationship) : Action σ Unit :=
  svc.bounded "authorize" .ofPolicy (Gateway.authorize b.agent r)

/-- Stores a relationship. -/
def addPolicy (svc : Service) (b : Backend σ) (r : Relationship) : Action σ Unit :=
  svc.bounded "add policy" .ofPolicy (Gateway.add b.agent r)

/-- Deletes a relationship. -/
def deletePolicy (svc : Service) (b : Backend σ) (r : Relationship) : Action σ Unit :=
  svc.bounded "delete policy" .ofPolicy (Gateway.delete b.agent r)

/-- The objects to which a subject stands in a relation. -/
def listObjects (svc : Service) (b : Backend σ) (subject relation : String) :
    Action σ (List String) :=
  svc.bounded "list objects" .ofPolicy (Gateway.listObjects b.agent subject relation)

/-- The subjects that stand in a relation to an object. -/
def listSubjects (svc : Service) (b : Backend σ) (object relation : String) :
    Action σ (List String) :=
  svc.bounded "list subjects" .ofPolicy (Gateway.listSubjects b.agent object relation)

end Service

end Credentials
