import Credentials.Json.Numeral

/-!
# JSON values

The tree that a JSON document is read into. It keeps what a reader of records
can ask for: texts, numbers, and the members of objects in their order, also
when a name comes twice.
-/

namespace Credentials

/-- A JSON value as read. -/
inductive Json where
  | null
  | bool (value : Bool)
  | number (value : Json.Numeral)
  | text (value : String)
  /-- A string that is no text: it holds half of a surrogate pair or bytes that
  are not UTF-8. `late` says that its closing quote has to be read before that
  shows. -/
  | garbled (late : Bool)
  | array (items : List Json)
  /-- The members in the order written; a name that is no text is `none`. -/
  | object (members : List (Option String × Json))

namespace Json

/-- The text of a string value. -/
def text? : Json → Option String
  | .text s => some s
  | _ => none

/-- The name of a choice, which is a text, or an object with that one member and
nothing in it. -/
def choice? : Json → Option String
  | .text name => some name
  | .object [(some name, .null)] => some name
  | _ => none

/-- The value of a boolean. -/
def bool? : Json → Option Bool
  | .bool b => some b
  | _ => none

/-- The value of a whole number from `lo` to `hi`. -/
def integer? (lo hi : Int) : Json → Option Int
  | .number n => n.integer?.filter fun i => lo ≤ i && i ≤ hi
  | _ => none

/-- The texts of a list of strings. -/
def texts? : Json → Option (List String)
  | .array items => items.mapM text?
  | _ => none

end Json

end Credentials
