import Credentials.Json.Basic

/-!
# Reading records

A record declares its fields in an order. It is read from an object, where
members of other names are passed over and a declared name may come only once,
or from an array that holds the fields in their order. The value of each field
is then read by a rule of its own: required, optional, or with a default.
-/

namespace Credentials.Json

variable {α : Type}

/-- A field as a record declares it. -/
structure Field where
  name : String
  /-- Whether an array may end before this field. -/
  omissible : Bool := false

/-- The value of the one member of that name, `none` inside if there is no
such member. A name that comes twice is refused. -/
def member? (members : List (String × Json)) (name : String) : Option (Option Json) :=
  match members.filter (·.1 == name) with
  | [] => some none
  | [(_, v)] => some (some v)
  | _ => none

/-- The members of an object whose names are all text. -/
def named? : List (Option String × Json) → Option (List (String × Json))
  | [] => some []
  | (some name, v) :: rest => ((name, v) :: ·) <$> named? rest
  | (none, _) :: _ => none

/-- The fields at the places of a list. -/
def placed? : List Field → List Json → Option (List (Option Json))
  | [], [] => some []
  | [], _ :: _ => none
  | _ :: fields, v :: vs => (some v :: ·) <$> placed? fields vs
  | field :: fields, [] => if field.omissible then (none :: ·) <$> placed? fields [] else none

/-- The value of each declared field of an object. -/
def ofMembers? (fields : List Field) (members : List (Option String × Json)) :
    Option (List (Option Json)) := do
  let ms ← named? members
  fields.mapM fun field => member? ms field.name

/-- The value of each declared field, in the order declared; a field that is
not there has none. -/
def fields? (fields : List Field) : Json → Option (List (Option Json))
  | .object members => ofMembers? fields members
  | .array items => placed? fields items
  | _ => none

/-- A field that has to be there. -/
def required (read : Json → Option α) (field : Option Json) : Option α := field.bind read

/-- A field that may be missing or `null`. -/
def optional (read : Json → Option α) : Option Json → Option (Option α)
  | none => some none
  | some .null => some none
  | some v => some <$> read v

/-- A field that has a value of its own when it is missing. -/
def defaulting (default : α) (read : Json → Option α) : Option Json → Option α
  | none => some default
  | some v => read v

end Credentials.Json
