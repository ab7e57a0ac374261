import Credentials.Policy.Engine

/-!
# Requests to policy agents

What can be asked of a policy agent, as a value, and what becomes of it at an
engine: the path that it goes to, the arguments that it carries, and what comes
back for it.
-/

namespace Credentials

namespace Agent

/-- What can be asked of a policy agent. -/
inductive Request where
  | evaluate (r : Relationship)
  | add (r : Relationship)
  | delete (r : Relationship)
  | listSubjects (object relation : String)
  | listObjects (subject relation : String)
deriving DecidableEq

/-- What a policy agent answers when it does what it was asked. -/
inductive Answer where
  | verdict (holds : Bool)
  | names (list : List String)
  | done
deriving DecidableEq

/-- Whether a request changes something and asks for nothing. -/
def Request.isChange : Request → Bool
  | add _ | delete _ => true
  | evaluate _ | listSubjects _ _ | listObjects _ _ => false

/-- Asks a policy agent. -/
def ask {σ : Type} (agent : Agent σ) : Request → Call σ PolicyError Answer
  | .evaluate r => (agent.evaluate r).andThen fun holds => .ok (.verdict holds)
  | .add r => (agent.add r).andThen fun _ => .ok .done
  | .delete r => (agent.delete r).andThen fun _ => .ok .done
  | .listSubjects object relation =>
    (agent.listSubjects object relation).andThen fun list => .ok (.names list)
  | .listObjects subject relation =>
    (agent.listObjects subject relation).andThen fun list => .ok (.names list)

end Agent

namespace Engine

/-- The path that a request goes to. -/
def path : Agent.Request → String
  | .evaluate _ => checkPath
  | .add _ => writePath
  | .delete _ => deletePath
  | .listSubjects _ _ => subjectsPath
  | .listObjects _ _ => objectsPath

/-- The arguments that a request carries. -/
def arguments : Agent.Request → Json.Record
  | .evaluate r | .add r | .delete r => r.record
  | .listSubjects object relation => subjectsRecord object relation
  | .listObjects subject relation => objectsRecord subject relation

/-- What comes back for a request: nothing, if it cannot even be sent. -/
def exchange {σ : Type} (config : EngineConfig) (send : Transport σ) (q : Agent.Request) (s : σ) :
    EngineReply × σ :=
  if config.canSend then send (request config (path q) (arguments q)) s else (.nothing, s)

/-- What the status of an answer stands for. -/
inductive Standing where
  /-- The request was carried out. -/
  | success
  /-- The engine cannot do it now. -/
  | trouble
  /-- The engine does not take the request. -/
  | refused
  /-- The engine should not have answered so. -/
  | unexpected
deriving DecidableEq

/-- What a status stands for. -/
def standing (status : Nat) : Standing :=
  if 200 ≤ status ∧ status < 300 then .success
  else if 500 ≤ status ∧ status < 600 ∨ status = 429 then .trouble
  else if status = 400 ∨ status = 422 then .refused
  else .unexpected

end Engine

end Credentials
