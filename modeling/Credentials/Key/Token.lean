import Credentials.Key.Json

/-!
# Tokens

What a caller is handed when a key has been issued: the signed text of the key,
for a login also that of its companion, and for a stored key its id.
-/

namespace Credentials

/-- What a caller gets for a key that was issued. -/
structure Token where
  /-- The signed text of the key. -/
  accessToken : String
  /-- The signed text of the companion of a login key. -/
  refreshToken : Option String := none
  /-- The scheme under which the token is presented. -/
  accessType : String
  /-- The id of the record in the key store. -/
  keyId : Option String := none
deriving DecidableEq

namespace Token

/-- The scheme of every token that is issued. -/
def bearer : String := "Bearer"

/-- The token of a login. -/
def pair (access refresh : String) : Token :=
  { accessToken := access, refreshToken := some refresh, accessType := bearer }

/-- The token of a key in the key store. -/
def persisted (access id : String) : Token :=
  { accessToken := access, accessType := bearer, keyId := some id }

/-- The fields of a token as written. -/
def record (t : Token) : Json.Record :=
  [("access_token", .text t.accessToken)]
    ++ Json.present "refresh_token" (t.refreshToken.map .text)
    ++ [("access_type", .text t.accessType)]
    ++ Json.present "key_id" (t.keyId.map .text)

/-- A token as a document. -/
def render (t : Token) : String := Json.render t.record

/-- The fields of a token in the order of an array. -/
def fields : List Json.Field :=
  [{ name := "access_token" }, { name := "refresh_token", omissible := true },
    { name := "access_type" }, { name := "key_id", omissible := true }]

/-- Reads the fields of a token. -/
def ofJson? (j : Json) : Option Token := do
  match ← Json.fields? fields j with
  | [accessToken, refreshToken, accessType, keyId] => do
    return {
      accessToken := ← Json.required Json.text? accessToken
      refreshToken := ← Json.optional Json.text? refreshToken
      accessType := ← Json.required Json.text? accessType
      keyId := ← Json.optional Json.text? keyId }
  | _ => none

/-- Reads a document that holds a token. -/
def parse? (text : String) : Option Token := do
  ofJson? (← Json.ofString? text)

end Token

end Credentials
