import Credentials.Config.Secret
import Credentials.Text.Blank
import Credentials.Text.Utf8
import Credentials.Time.Duration

/-!
# Configuration

What a service is set up with. A configuration is made from a secret and takes
defaults for all else, or is read from variables that are looked up by name.
A variable that is set has to be valid; the first that is not, in a fixed order,
is the one that is reported.
-/

namespace Credentials

/-- What a service is set up with. -/
structure Config where
  secret : SigningSecret
  /-- The realm in which tokens are signed. -/
  tokenIssuer : String := "vigil.auth"
  /-- How long a login key lives. -/
  accessLifetime : Duration := .ofSeconds 1800
  /-- How long the companion of a login key lives. -/
  refreshLifetime : Duration := .ofSeconds 86400
  /-- How long a recovery key lives. -/
  recoveryLifetime : Duration := .ofSeconds 300
  /-- How far ahead of the clock an issue time may lie. -/
  clockSkew : Duration := .ofSeconds 5
  /-- How long a call to the key store or the policy agent may take. -/
  backendTimeout : Duration := .ofSeconds 5
deriving DecidableEq

namespace Config

/-- The configuration with a secret and defaults for all else. -/
def ofSecret (bytes : List UInt8) : Except ConfigError Config := do
  return { secret := ← SigningSecret.ofBytes bytes }

/-- The largest number that a variable may hold. -/
def largest : Nat := 18446744073709551615

/-- The number of a variable, or `default` if it is not set. It has to be at
least `least`. -/
def numberOf (lookup : String → Option String) (name : String) (least : Nat)
    (toDuration : Nat → Duration) (default : Duration) : Except ConfigError Duration :=
  match lookup name with
  | none => .ok default
  | some text =>
    match Text.natural? largest text with
    | some n => if least ≤ n then .ok (toDuration n) else .error (.invalid name)
    | none => .error (.invalid name)

/-- The realm that a variable names, or `default` if it is not set. It must not
be blank. -/
def issuerOf (lookup : String → Option String) (name : String) (default : String) :
    Except ConfigError String :=
  match lookup name with
  | none => .ok default
  | some text => if Text.allBlank text then .error (.invalid name) else .ok text

/-- Reads a configuration from variables. A lifetime of zero is refused, since
its keys would have expired when they are issued; so is a timeout of zero. No
tolerance for clocks is a valid setting. -/
def ofLookup (lookup : String → Option String) : Except ConfigError Config := do
  let secret ← match lookup "VIGIL_SECRET" with
    | none => .error (.missing "VIGIL_SECRET")
    | some text => .ok text
  let base ← ofSecret (Text.utf8 secret)
  let tokenIssuer ← issuerOf lookup "VIGIL_TOKEN_ISSUER" base.tokenIssuer
  let accessLifetime ←
    numberOf lookup "VIGIL_ACCESS_DURATION_SECS" 1 .ofSeconds base.accessLifetime
  let refreshLifetime ←
    numberOf lookup "VIGIL_REFRESH_DURATION_SECS" 1 .ofSeconds base.refreshLifetime
  let recoveryLifetime ←
    numberOf lookup "VIGIL_RECOVERY_DURATION_SECS" 1 .ofSeconds base.recoveryLifetime
  let clockSkew ← numberOf lookup "VIGIL_CLOCK_SKEW_SECS" 0 .ofSeconds base.clockSkew
  let backendTimeout ←
    numberOf lookup "VIGIL_BACKEND_TIMEOUT_MS" 1 .ofMillis base.backendTimeout
  return { base with
    tokenIssuer, accessLifetime, refreshLifetime, recoveryLifetime, clockSkew, backendTimeout }

end Config

end Credentials
