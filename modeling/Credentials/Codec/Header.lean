import Credentials.Json.Printer
import Credentials.Json.Record
import Credentials.Json.Uptake

/-!
# Token headers

The first part of a signed token names the algorithm of its signature. The
other fields of a header say nothing that matters here, but a header in which
one of them has a value of the wrong kind is no header.
-/

namespace Credentials

/-- The algorithms that a header may name. -/
inductive Algorithm where
  | hs256 | hs384 | hs512
  | es256 | es384
  | rs256 | rs384 | rs512
  | ps256 | ps384 | ps512
  | edDSA
deriving DecidableEq

/-- The algorithm with a name, in exactly these letters. -/
def Algorithm.ofName? : String → Option Algorithm
  | "HS256" => some hs256
  | "HS384" => some hs384
  | "HS512" => some hs512
  | "ES256" => some es256
  | "ES384" => some es384
  | "RS256" => some rs256
  | "RS384" => some rs384
  | "RS512" => some rs512
  | "PS256" => some ps256
  | "PS384" => some ps384
  | "PS512" => some ps512
  | "EdDSA" => some edDSA
  | _ => none

/-- Reads the name of an algorithm. -/
def Algorithm.ofJson? (j : Json) : Option Algorithm := do
  Algorithm.ofName? (← j.choice?)

namespace WebKey

/-! ## Keys within a header

A header may carry a public key as an object. It is taken in with all that is in
it, and its fields are read as strictly as those of the header itself. -/

/-- Whether a key may be meant for an algorithm of that name. -/
def isAlgorithm (name : String) : Bool :=
  (Algorithm.ofName? name).isSome || ["RSA1_5", "RSA-OAEP", "RSA-OAEP-256"].contains name

/-- Whether a curve has that name. -/
def isCurve (name : String) : Bool := ["P-256", "P-384", "P-521", "Ed25519"].contains name

/-- A choice that passes a test. -/
def choiceWhere? (test : String → Bool) (j : Json) : Option String := j.choice?.filter test

/-- Reads the algorithm that a key is meant for. Where it is the one member of an
object, an empty object is nothing as well. -/
def algorithmName? : Json → Option String
  | .object [(some name, .object [])] => (some name).filter isAlgorithm
  | j => choiceWhere? isAlgorithm j

/-- Whether the fields that keys of every kind may have are as they should be. -/
def hasCommonFields (members : List (Option String × Json)) : Bool :=
  let found := Json.ofMembers? [{ name := "use" }, { name := "key_ops" }, { name := "alg" },
    { name := "kid" }, { name := "x5u" }, { name := "x5c" }, { name := "x5t" },
    { name := "x5t#S256" }] members
  match found with
  | some [use, operations, algorithm, id, x5u, x5c, x5t, x5tS256] =>
    (Json.optional Json.text? use).isSome && (Json.optional Json.texts? operations).isSome
      && (Json.optional algorithmName? algorithm).isSome
      && (Json.optional Json.text? id).isSome && (Json.optional Json.text? x5u).isSome
      && (Json.optional Json.texts? x5c).isSome && (Json.optional Json.text? x5t).isSome
      && (Json.optional Json.text? x5tS256).isSome
  | _ => false

/-- Whether there is one member of a name and its value can be read. -/
def hasField {α : Type} (members : List (Option String × Json)) (name : String)
    (read : Json → Option α) : Bool :=
  match Json.ofMembers? [{ name := name }] members with
  | some [value] => (Json.required read value).isSome
  | _ => false

/-- Whether the members make up a key of the family `family`: on a curve or not,
and with the given text fields. -/
def isOfFamily (members : List (Option String × Json)) (family : String) (onCurve : Bool)
    (texts : List String) : Bool :=
  hasField members "kty" (choiceWhere? (· == family))
    && (!onCurve || hasField members "crv" (choiceWhere? isCurve))
    && texts.all fun name => hasField members name Json.text?

/-- Whether the members make up a public key of one of the known families. -/
def isKey (members : List (Option String × Json)) : Bool :=
  hasCommonFields members
    && (isOfFamily members "EC" true ["x", "y"] || isOfFamily members "RSA" false ["n", "e"]
      || isOfFamily members "oct" false ["k"] || isOfFamily members "OKP" true ["x"])

/-- Reads an object as a public key. All that is in it has to be taken in. -/
def ofJson? (j : Json) : Option Unit :=
  match j with
  | .object members => guard (j.uptake (Json.nestingLimit - 1) = .whole && isKey members)
  | _ => none

end WebKey

namespace Header

/-- The fields of every header that is written. -/
def record : Json.Record := [("typ", .text "JWT"), ("alg", .text "HS256")]

/-- The fields of a header in the order of an array, none of which may be left
out there. -/
def fields : List Json.Field :=
  [{ name := "typ" }, { name := "alg" }, { name := "cty" }, { name := "jku" }, { name := "jwk" },
    { name := "kid" }, { name := "x5u" }, { name := "x5c" }, { name := "x5t" },
    { name := "x5t#S256" }]

/-- Reads a header and returns its algorithm. -/
def algorithm? (j : Json) : Option Algorithm := do
  match ← Json.fields? fields j with
  | [typ, alg, cty, jku, jwk, kid, x5u, x5c, x5t, x5tS256] => do
    let _ ← Json.optional Json.text? typ
    let algorithm ← Json.required Algorithm.ofJson? alg
    let _ ← Json.optional Json.text? cty
    let _ ← Json.optional Json.text? jku
    let _ ← Json.optional WebKey.ofJson? jwk
    let _ ← Json.optional Json.text? kid
    let _ ← Json.optional Json.text? x5u
    let _ ← Json.optional Json.texts? x5c
    let _ ← Json.optional Json.text? x5t
    let _ ← Json.optional Json.text? x5tS256
    return algorithm
  | _ => none

end Header

end Credentials
