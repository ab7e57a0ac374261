import Credentials.Policy.Agent

/-!
# The policy agent in memory

A set of relationships: exactly what was stored holds, and nothing follows from
it. The agent can be switched off, and then answers nothing.
-/

namespace Credentials

/-- A policy agent in memory. -/
structure Relations where
  /-- The relationships that hold, each once. -/
  facts : List Relationship := []
  /-- Whether the agent answers. -/
  available : Bool := true
deriving DecidableEq

namespace Relations

/-- Whether a relationship holds. -/
def holds (s : Relations) (r : Relationship) : Bool := s.facts.contains r

/-- The set with a relationship. -/
def insert (s : Relations) (r : Relationship) : Relations :=
  if s.holds r then s else { s with facts := r :: s.facts }

/-- The set without a relationship. -/
def erase (s : Relations) (r : Relationship) : Relations :=
  { s with facts := s.facts.filter (· ≠ r) }

/-- Texts in the order of their code points, which is that of their UTF-8 bytes. -/
def sorted (texts : List String) : List String :=
  texts.mergeSort fun a b => decide (a ≤ b)

/-- The subjects that stand in a relation to an object, in order. -/
def subjects (s : Relations) (object relation : String) : List String :=
  sorted ((s.facts.filter fun r => r.object = object ∧ r.relation = relation).map (·.subject))

/-- The objects to which a subject stands in a relation, in order. -/
def objects (s : Relations) (subject relation : String) : List String :=
  sorted ((s.facts.filter fun r => r.subject = subject ∧ r.relation = relation).map (·.object))

/-- What an agent says that is switched off. -/
def switchedOff : PolicyError := .unavailable "in-memory policy agent switched off"

/-- The call that looks at the set or changes it, if the agent answers. -/
def ask {α : Type} (f : Relations → α × Relations) : Call Relations PolicyError α := fun _ s =>
  if s.available then
    let (a, t) := f s
    (.value a, t)
  else (.failure switchedOff, s)

/-- The set as a policy agent that answers at once. -/
def agent : Agent Relations where
  evaluate r := ask fun s => (s.holds r, s)
  add r := ask fun s => ((), s.insert r)
  delete r := ask fun s => ((), s.erase r)
  listSubjects object relation := ask fun s => (s.subjects object relation, s)
  listObjects subject relation := ask fun s => (s.objects subject relation, s)

end Relations

end Credentials
