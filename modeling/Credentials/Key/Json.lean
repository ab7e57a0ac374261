import Credentials.Json.Parser
import Credentials.Json.Printer
import Credentials.Json.Record
import Credentials.Key.Basic
import Credentials.Time.Rfc3339

/-!
# Keys as JSON

The documents that keys and key types are written to and read from. The times of
a document may lie in leap seconds. Those of the keys of a service are instants, so
that a document stands for such a key only if none of its times does.
-/

namespace Credentials

/-- A field that is written only if it has a value. -/
def Json.present (name : String) : Option Json.Scalar → Json.Record
  | some v => [(name, v)]
  | none => []

/-- The largest number of thirty-two bits, which ordinals are read in. -/
def KeyType.maxOrdinal : Int := 4294967295

/-- Reads the ordinal of a key type. -/
def KeyType.ofJson? (j : Json) : Option KeyType := do
  KeyType.ofOrdinal? (← j.integer? 0 maxOrdinal).toNat

/-- Reads a document that holds a key type. -/
def KeyType.parse? (text : String) : Option KeyType := do
  KeyType.ofJson? (← Json.ofString? text)

/-- A key type as a document. -/
def KeyType.render (t : KeyType) : String := String.ofList (Text.digits t.ordinal)

/-- Reads a text in the notation of RFC 3339. -/
def Timestamp.ofJson? (j : Json) : Option Timestamp := do
  Timestamp.ofText? (← j.text?)

/-- A key as documents hold it, whose times may lie in leap seconds. -/
abbrev KeyDocument := Key Timestamp

namespace Key

/-- A key as documents hold it. -/
def document (key : Key) : KeyDocument := key.map Timestamp.ofInstant

/-- The key of a document, unless one of its times lies in a leap second. -/
def ofDocument? (doc : KeyDocument) : Option Key := do
  return {
    id := doc.id
    keyType := doc.keyType
    issuer := doc.issuer
    subject := doc.subject
    issuedAt := ← doc.issuedAt.instant?
    expiresAt := ← doc.expiresAt.mapM Timestamp.instant? }

/-- The fields of a key as written. -/
def record (key : KeyDocument) : Json.Record :=
  Json.present "id" (key.id.map .text)
    ++ [("type", .integer key.keyType.ordinal), ("issuer", .text key.issuer),
      ("subject", .text key.subject), ("issued_at", .text key.issuedAt.text)]
    ++ Json.present "expires_at" (key.expiresAt.map fun t => .text t.text)

/-- A key as a document. -/
def render (key : KeyDocument) : String := Json.render key.record

/-- The fields of a key in the order of an array. -/
def fields : List Json.Field :=
  [{ name := "id", omissible := true }, { name := "type" }, { name := "issuer", omissible := true },
    { name := "subject" }, { name := "issued_at" }, { name := "expires_at", omissible := true }]

/-- Reads the fields of a key. -/
def ofJson? (j : Json) : Option KeyDocument := do
  match ← Json.fields? fields j with
  | [id, keyType, issuer, subject, issuedAt, expiresAt] => do
    return {
      id := ← Json.optional Json.text? id
      keyType := ← Json.required KeyType.ofJson? keyType
      issuer := ← Json.defaulting "" Json.text? issuer
      subject := ← Json.required Json.text? subject
      issuedAt := ← Json.required Timestamp.ofJson? issuedAt
      expiresAt := ← Json.optional Timestamp.ofJson? expiresAt }
  | _ => none

/-- Reads a document that holds a key. -/
def parse? (text : String) : Option KeyDocument := do
  ofJson? (← Json.ofString? text)

end Key

end Credentials
