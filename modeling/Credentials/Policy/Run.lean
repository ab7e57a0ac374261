import Credentials.Policy.Gateway
import Credentials.Policy.Relations
import Credentials.Policy.Request

/-!
# Runs of a gateway

What can be asked of a gateway, as a value, and a gateway to the policy agent in
memory over time: it is asked, and the agent goes away and comes back. A run is a
fold of `Gateway.after` over such events.
-/

namespace Credentials.Gateway

/-- What can be asked of a gateway. -/
inductive Operation where
  | evaluate (r : Relationship)
  | authorize (r : Relationship)
  | checkAdmin (subject : String)
  | isOwner (object subject : String)
  | add (r : Relationship)
  | delete (r : Relationship)
  | listSubjects (object relation : String)
  | listObjects (subject relation : String)
deriving DecidableEq

/-- Asks a gateway. -/
def ask {σ : Type} (agent : Agent σ) : Operation → Call σ PolicyError Agent.Answer
  | .evaluate r => (evaluate agent r).andThen fun holds => .ok (.verdict holds)
  | .authorize r => (authorize agent r).andThen fun _ => .ok .done
  | .checkAdmin subject => (checkAdmin agent subject).andThen fun _ => .ok .done
  | .isOwner object subject => (isOwner agent object subject).andThen fun _ => .ok .done
  | .add r => (add agent r).andThen fun _ => .ok .done
  | .delete r => (delete agent r).andThen fun _ => .ok .done
  | .listSubjects object relation =>
    (listSubjects agent object relation).andThen fun list => .ok (.names list)
  | .listObjects subject relation =>
    (listObjects agent subject relation).andThen fun list => .ok (.names list)

/-- Something that happens to a gateway or to its agent. -/
inductive Event where
  /-- An operation whose caller is ready to wait for a while. -/
  | call (limit : Duration) (op : Operation)
  /-- The policy agent goes away or comes back. -/
  | switch (available : Bool)
deriving DecidableEq

/-- What an event leaves behind of the policy agent in memory. -/
def after (s : Relations) : Event → Relations
  | .call limit op => (ask Relations.agent op limit s).2
  | .switch available => { s with available }

/-- What is left after events in their order. -/
def run (s : Relations) (events : List Event) : Relations := events.foldl after s

end Credentials.Gateway
