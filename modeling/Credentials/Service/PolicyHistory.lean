import Credentials.Service.Tenancy

/-!
# Policy histories

What the transcript of a run tells about the policy agent: which changes to a
relationship were made, the last of them, and whether the agent was last seen
going away or coming back.
-/

namespace Credentials

namespace Event

/-- The relationship that an event stores or deletes, and whether it is to hold. -/
def change? : Event → Option (Relationship × Bool)
  | .call _ _ (.addPolicy r) => some (r, true)
  | .call _ _ (.deletePolicy r) => some (r, false)
  | _ => none

/-- Whether the policy agent comes back, if an event has it come or go. -/
def switch? : Event → Option Bool
  | .switch available => some available
  | _ => none

/-- Whether an event is a question or an order to the policy agent. -/
def isPolicy : Event → Bool
  | .call _ _ (.authorize _) | .call _ _ (.addPolicy _) | .call _ _ (.deletePolicy _) => true
  | .call _ _ (.listObjects _ _) | .call _ _ (.listSubjects _ _) => true
  | _ => false

end Event

namespace Service

/-- What a step of a transcript makes of a relationship: whether it holds from
then on, if the step is a change to it that was answered. -/
def changeTo? (r : Relationship) : Event × Outcome → Option Bool
  | (e, .answered _) => e.change?.bind fun (other, holds) => if other = r then some holds else none
  | _ => none

/-- What the last change to a relationship made of it. -/
def lastChange? (r : Relationship) (steps : List (Event × Outcome)) : Option Bool :=
  (steps.filterMap (changeTo? r)).getLast?

/-- Whether the policy agent is there after events, if it was there before them. -/
def isAgentThere (events : List Event) : Bool := (events.filterMap Event.switch?).getLast?.getD true

end Service

end Credentials
