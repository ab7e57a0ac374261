import Credentials.Backend.Call
import Credentials.Policy.Relationship

/-!
# Policy agents

What a gateway asks of a policy agent, and the errors an agent reports. A plain
no is an answer; an agent that cannot answer says so and never says no instead.
-/

namespace Credentials

/-- What a policy agent reports, and a gateway on its behalf. -/
inductive PolicyError where
  /-- The agent answered, and the answer is no. -/
  | denied
  /-- The agent cannot be reached or has too much to do. -/
  | unavailable (text : String)
  /-- The agent does not take such a request. -/
  | invalidRequest (text : String)
  | internal (text : String)
deriving DecidableEq

namespace PolicyError

/-- The error in words. -/
def message : PolicyError → String
  | denied => "access denied"
  | unavailable text => "policy agent unavailable: " ++ text
  | invalidRequest text => "invalid policy request: " ++ text
  | internal text => "internal error: " ++ text

/-- Whether the same call may succeed later. -/
def isRetryable : PolicyError → Bool
  | unavailable _ => true
  | _ => false

end PolicyError

/-- A policy agent with state `σ`. -/
structure Agent (σ : Type) where
  /-- Whether a relationship holds. -/
  evaluate : Relationship → Call σ PolicyError Bool
  /-- Stores a relationship. -/
  add : Relationship → Call σ PolicyError Unit
  /-- Deletes a relationship, which need not be there. -/
  delete : Relationship → Call σ PolicyError Unit
  /-- The subjects that stand in a relation to an object. -/
  listSubjects : (object relation : String) → Call σ PolicyError (List String)
  /-- The objects to which a subject stands in a relation. -/
  listObjects : (subject relation : String) → Call σ PolicyError (List String)

/-- A policy agent that is one part of a larger state. -/
def Agent.onPart {σ τ : Type} (get : σ → τ) (set : σ → τ → σ) (agent : Agent τ) : Agent σ where
  evaluate r := (agent.evaluate r).onPart get set
  add r := (agent.add r).onPart get set
  delete r := (agent.delete r).onPart get set
  listSubjects object relation := (agent.listSubjects object relation).onPart get set
  listObjects subject relation := (agent.listObjects subject relation).onPart get set

end Credentials
