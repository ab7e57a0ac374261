import Credentials.Bytes.Base64Url
import Credentials.Bytes.Hmac
import Credentials.Codec.Claims
import Credentials.Codec.Header
import Credentials.Config.Secret
import Credentials.Text.Compare
import Credentials.Text.Quoted

/-!
# Signed tokens

A key becomes a token of three parts between dots: a header that names the
algorithm, the claims, and a code over both under the secret, each in base64 for
addresses. A token becomes a key again only if its code is right, its claims
were signed for the same realm, and they make sense. The code is judged before
any claim is looked at. Whether a key has expired is not judged here.
-/

namespace Credentials

/-- What is wrong with a token whose signature is not at fault. -/
inductive Flaw where
  /-- There are fewer than three parts. -/
  | parts
  /-- A part is not base64. -/
  | encoding
  /-- A part is not the document it should be. -/
  | document
  /-- The claims were signed for another realm. -/
  | foreignIssuer
  | emptySubject
  | unknownKeyType (ordinal : Nat)
  | issueTimeOutOfRange
  | expiryOutOfRange
  /-- A flaw that somebody else found, in their words. -/
  | reported (text : String)
deriving DecidableEq

/-- The flaw in words. -/
def Flaw.text : Flaw → String
  | parts => "InvalidToken"
  | encoding => "Base64 error"
  | document => "JSON error"
  | foreignIssuer => "foreign issuer"
  | emptySubject => "empty subject"
  | unknownKeyType n => (KeyType.Error.unknownOrdinal n).message
  | issueTimeOutOfRange => "iat out of range"
  | expiryOutOfRange => "exp out of range"
  | reported text => text

/-- Why a token is not accepted. -/
inductive DecodeError where
  /-- The code is wrong, or the header names another algorithm. -/
  | badSignature
  | malformed (flaw : Flaw)
deriving DecidableEq

/-- The error in words. -/
def DecodeError.message : DecodeError → String
  | badSignature => "bad token signature"
  | malformed flaw => "malformed token: " ++ flaw.text

/-- Why a key could not be signed. The algorithm of this library never fails;
signing devices may. -/
inductive EncodeError where
  | signing (text : String)
deriving DecidableEq

/-- The error in words. -/
def EncodeError.message : EncodeError → String
  | signing text => "failed to sign token: " ++ text

/-- The parts around the last `mark`, if there is one. -/
def splitAtLast (mark : Char) : List Char → Option (List Char × List Char)
  | [] => none
  | c :: rest =>
    match splitAtLast mark rest with
    | some (before, after) => some (c :: before, after)
    | none => if c = mark then some ([], rest) else none

/-- The three parts of a token, and the first two as they were signed. -/
structure TokenParts where
  message : List Char
  header : List Char
  claims : List Char
  signature : List Char
deriving DecidableEq

/-- Takes a token apart at its last two dots. Dots before them belong to the
header. -/
def TokenParts.ofText? (token : String) : Option TokenParts := do
  let (message, signature) ← splitAtLast '.' token.toList
  let (header, claims) ← splitAtLast '.' message
  return { message, header, claims, signature }

/-- Signs keys in a realm and reads them back. -/
structure Codec where
  secret : SigningSecret
  /-- The realm, which claims carry as their `iss`. -/
  issuer : String
deriving DecidableEq

namespace Codec

/-- A document as a part of a token. -/
def part (record : Json.Record) : List Char :=
  Bytes.Base64Url.encode (Text.utf8 (Json.render record))

/-- The code over a message, as the last part of a token. -/
def signature (codec : Codec) (message : List Char) : List Char :=
  Bytes.Base64Url.encode (Bytes.hmac codec.secret.bytes (Text.utf8 (String.ofList message)))

/-- The token of a key. -/
def encode (codec : Codec) (key : Key) : String :=
  let message := part Header.record ++ '.' :: part (Claims.ofKey codec.issuer key).record
  String.ofList (message ++ '.' :: codec.signature message)

/-- The document in a part of a token, read by `read`. -/
def readPart {α : Type} (read : Json → Option α) (cs : List Char) : Except DecodeError α :=
  match Bytes.Base64Url.decode? cs with
  | none => .error (.malformed .encoding)
  | some bytes =>
    match (Json.ofBytes? bytes).bind read with
    | none => .error (.malformed .document)
    | some a => .ok a

/-- Whether the code of a token is right for its header and claims. -/
def isSigned (codec : Codec) (parts : TokenParts) : Bool :=
  Text.sameText (String.ofList parts.signature) (String.ofList (codec.signature parts.message))

/-- The instant of a claim in seconds. -/
def instant (flaw : Flaw) (seconds : Int) : Except DecodeError Instant :=
  match Instant.ofSeconds? seconds with
  | some t => .ok t
  | none => .error (.malformed flaw)

/-- The key that claims stand for, if they were signed for this realm and make
sense. An empty id is no id. -/
def keyOfClaims (codec : Codec) (claims : Claims) : Except DecodeError Key :=
  if !Text.sameText claims.realm codec.issuer then .error (.malformed .foreignIssuer)
  else if claims.subject = "" then .error (.malformed .emptySubject)
  else
    match KeyType.ofOrdinal? claims.keyType with
    | none => .error (.malformed (.unknownKeyType claims.keyType))
    | some keyType => do
      let issuedAt ← instant .issueTimeOutOfRange claims.issuedAt
      let expiresAt ← claims.expiresAt.mapM (instant .expiryOutOfRange)
      return {
        id := claims.id.filter (· ≠ "")
        keyType
        issuer := claims.issuer
        subject := claims.subject
        issuedAt
        expiresAt }

/-- The key of a token. -/
def decode (codec : Codec) (token : String) : Except DecodeError Key :=
  match TokenParts.ofText? token with
  | none => .error (.malformed .parts)
  | some parts => do
    let algorithm ← readPart Header.algorithm? parts.header
    if algorithm ≠ .hs256 then .error .badSignature
    else if !codec.isSigned parts then .error .badSignature
    else do
      let claims ← readPart Claims.ofJson? parts.claims
      codec.keyOfClaims claims

/-- A codec in words, without its secret. -/
def describe (codec : Codec) : String :=
  "KeyCodec \x7b issuer: " ++ Text.quoted codec.issuer ++ ", .. \x7d"

end Codec

/-- A short name for a token that is fit for logs: the first sixteen
hexadecimal digits of its digest. -/
def fingerprint (token : String) : String :=
  String.ofList ((Bytes.hex (Bytes.sha256 (Text.utf8 token))).toList.take 16)

end Credentials
