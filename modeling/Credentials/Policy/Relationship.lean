import Credentials.Json.Parser
import Credentials.Json.Printer
import Credentials.Json.Record

/-!
# Relationships

A subject stands in a relation to an object. The same triple serves as a
question to a policy agent and as a fact to store or to delete.
-/

namespace Credentials

/-- A subject, a relation and an object. -/
structure Relationship where
  subject : String
  relation : String
  object : String
deriving DecidableEq

namespace Relationship

/-- That a subject administers the platform. -/
def admin (subject : String) : Relationship := ⟨subject, "admin", "platform"⟩

/-- That a subject owns an object. -/
def owner (subject object : String) : Relationship := ⟨subject, "owner", object⟩

/-- Whether one of the three parts is empty. -/
def isIncomplete (r : Relationship) : Bool :=
  r.subject = "" || r.relation = "" || r.object = ""

/-- A relationship in short form. -/
def describe (r : Relationship) : String := r.object ++ "#" ++ r.relation ++ "@" ++ r.subject

/-- The fields of a relationship as written. -/
def record (r : Relationship) : Json.Record :=
  [("subject", .text r.subject), ("relation", .text r.relation), ("object", .text r.object)]

/-- A relationship as a document. -/
def render (r : Relationship) : String := Json.render r.record

/-- The fields of a relationship in the order of an array. -/
def fields : List Json.Field :=
  [{ name := "subject" }, { name := "relation" }, { name := "object" }]

/-- Reads the fields of a relationship. -/
def ofJson? (j : Json) : Option Relationship := do
  match ← Json.fields? fields j with
  | [subject, relation, object] => do
    return {
      subject := ← Json.required Json.text? subject
      relation := ← Json.required Json.text? relation
      object := ← Json.required Json.text? object }
  | _ => none

/-- Reads a document that holds a relationship. -/
def parse? (text : String) : Option Relationship := do
  ofJson? (← Json.ofString? text)

theorem isIncomplete_eq_false_iff {r : Relationship} :
    r.isIncomplete = false ↔ r.subject ≠ "" ∧ r.relation ≠ "" ∧ r.object ≠ "" := by
  simp [isIncomplete, and_assoc]

end Relationship

end Credentials
