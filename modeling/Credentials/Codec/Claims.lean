import Credentials.Json.Uptake
import Credentials.Key.Json

/-!
# Claims

The second part of a signed token: what the signature vouches for. Times are
whole seconds since the epoch.
-/

namespace Credentials

/-- The claims of a token. -/
structure Claims where
  /-- The realm in which the token was signed. -/
  realm : String
  subject : String
  /-- The ordinal of the key type. -/
  keyType : Nat
  /-- Who had the key issued, if anybody. -/
  issuer : String := ""
  /-- The id of the record in the key store. -/
  id : Option String := none
  issuedAt : Int
  expiresAt : Option Int := none
deriving DecidableEq

namespace Claims

/-- The claims of a key in a realm, its times rounded towards the past. -/
def ofKey (realm : String) (key : Key) : Claims where
  realm := realm
  subject := key.subject
  keyType := key.keyType.ordinal
  issuer := key.issuer
  id := key.id
  issuedAt := key.issuedAt.seconds
  expiresAt := key.expiresAt.map Instant.seconds

/-- The claims as written: an empty issuer is left out. -/
def record (c : Claims) : Json.Record :=
  [("iss", .text c.realm), ("sub", .text c.subject), ("type", .integer c.keyType)]
    ++ Json.present "issuer_id" (if c.issuer = "" then none else some (.text c.issuer))
    ++ Json.present "jti" (c.id.map .text)
    ++ [("iat", .integer c.issuedAt)]
    ++ Json.present "exp" (c.expiresAt.map .integer)

/-- The claims that are read, and two that others may have set and that are
passed over. -/
def fields : List Json.Field :=
  [{ name := "iss" }, { name := "sub" }, { name := "type" }, { name := "issuer_id" },
    { name := "jti" }, { name := "iat" }, { name := "exp" }, { name := "nbf" }, { name := "aud" }]

/-- Reads seconds as a number of sixty-four bits. -/
def seconds? (j : Json) : Option Int :=
  j.integer? (-9223372036854775808) 9223372036854775807

/-- Reads claims from an object. Whatever `nbf` and `aud` are, they must not come
twice and must not keep from reading what follows them. -/
def ofJson? : Json → Option Claims
  | .object members => do
    match ← Json.ofMembers? fields members with
    | [iss, sub, type, issuerId, jti, iat, exp, nbf, aud] => do
      guard (nbf.all Json.isPassedAsNumber && aud.all Json.isPassed)
      return {
        realm := ← Json.required Json.text? iss
        subject := ← Json.required Json.text? sub
        keyType := (← Json.required (Json.integer? 0 KeyType.maxOrdinal) type).toNat
        issuer := ← Json.defaulting "" Json.text? issuerId
        id := ← Json.optional Json.text? jti
        issuedAt := ← Json.required seconds? iat
        expiresAt := ← Json.optional seconds? exp }
    | _ => none
  | _ => none

end Claims

end Credentials
