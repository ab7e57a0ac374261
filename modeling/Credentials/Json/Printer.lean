import Credentials.Json.Basic
import Credentials.Text.Digits
import Credentials.Bytes.Hex

/-!
# Writing records as JSON

Every document of this library is a flat object of texts and whole numbers. It
is written without blanks, its fields in the order given. In a string only the
quote, the backslash and the characters below U+0020 are escaped.
-/

namespace Credentials.Json

/-- The value of a field that is written. -/
inductive Scalar where
  | text (value : String)
  | integer (value : Int)
deriving DecidableEq

/-- The fields of a flat object, in the order written. -/
abbrev Record := List (String × Scalar)

/-- The written form of one character of a string: two characters for the
quote, the backslash and five control characters, six for the other control
characters, and the character itself otherwise. -/
def escape (c : Char) : List Char :=
  if c = '"' then ['\\', '"']
  else if c = '\\' then ['\\', '\\']
  else if c = '\x08' then ['\\', 'b']
  else if c = '\t' then ['\\', 't']
  else if c = '\n' then ['\\', 'n']
  else if c = '\x0C' then ['\\', 'f']
  else if c = '\r' then ['\\', 'r']
  else if c.toNat < 0x20 then
    ['\\', 'u', '0', '0', Bytes.hexDigit (c.toNat / 16), Bytes.hexDigit (c.toNat % 16)]
  else [c]

/-- A text as a JSON string. -/
def quote (text : String) : List Char := '"' :: text.toList.flatMap escape ++ ['"']

/-- A field value as JSON. -/
def Scalar.print : Scalar → List Char
  | .text s => quote s
  | .integer n => Text.signedDigits n

/-- A field as the member of an object. -/
def printField (field : String × Scalar) : List Char :=
  quote field.1 ++ ':' :: field.2.print

/-- A record as a JSON object. -/
def print (record : Record) : List Char :=
  '\x7b' :: List.intercalate [','] (record.map printField) ++ ['\x7d']

/-- A record as the text of a JSON object. -/
def render (record : Record) : String := String.ofList (print record)

/-- The value that a written field reads back as. -/
def Scalar.toJson : Scalar → Json
  | .text s => .text s
  | .integer n => .number (.ofInt n)

/-- The value that a written record reads back as. -/
def ofRecord (record : Record) : Json :=
  .object (record.map fun field => (some field.1, field.2.toJson))

end Credentials.Json
