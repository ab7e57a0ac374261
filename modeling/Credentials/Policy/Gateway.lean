import Credentials.Policy.Agent

/-!
# The gateway to a policy agent

Every request passes here. A request with an empty part is refused without
asking the agent, a no becomes an error, and everything else that the agent says
comes through unchanged. The gateway has no state of its own.
-/

namespace Credentials.Gateway

variable {σ : Type}

/-- Whether a relationship holds. -/
def evaluate (agent : Agent σ) (r : Relationship) : Call σ PolicyError Bool :=
  if r.isIncomplete then
    .pure (.error (.invalidRequest ("incomplete policy request: " ++ r.describe)))
  else agent.evaluate r

/-- A verdict as a result: no is an error. -/
def verdict : Bool → Except PolicyError Unit
  | true => .ok ()
  | false => .error .denied

/-- Succeeds only if a relationship holds. -/
def authorize (agent : Agent σ) (r : Relationship) : Call σ PolicyError Unit :=
  (evaluate agent r).andThen verdict

/-- Succeeds only if a subject administers the platform. -/
def checkAdmin (agent : Agent σ) (subject : String) : Call σ PolicyError Unit :=
  authorize agent (.admin subject)

/-- Succeeds only if a subject owns an object. -/
def isOwner (agent : Agent σ) (object subject : String) : Call σ PolicyError Unit :=
  authorize agent (.owner subject object)

/-- The error for a fact with an empty part. -/
def incompleteFact (r : Relationship) : PolicyError :=
  .invalidRequest ("incomplete policy: " ++ r.describe)

/-- Stores a relationship. -/
def add (agent : Agent σ) (r : Relationship) : Call σ PolicyError Unit :=
  if r.isIncomplete then .pure (.error (incompleteFact r)) else agent.add r

/-- Deletes a relationship. -/
def delete (agent : Agent σ) (r : Relationship) : Call σ PolicyError Unit :=
  if r.isIncomplete then .pure (.error (incompleteFact r)) else agent.delete r

/-- The subjects that stand in a relation to an object. -/
def listSubjects (agent : Agent σ) (object relation : String) :
    Call σ PolicyError (List String) :=
  agent.listSubjects object relation

/-- The objects to which a subject stands in a relation. -/
def listObjects (agent : Agent σ) (subject relation : String) :
    Call σ PolicyError (List String) :=
  agent.listObjects subject relation

end Credentials.Gateway
