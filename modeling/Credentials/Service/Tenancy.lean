import Credentials.Service.Run

/-!
# Tenants

Those who have keys issued share one key store, and manage their own keys in it
by retrieving and revoking them. Here is whose management an event is, and which
part of the transcript of a run is a concern of one of them.
-/

namespace Credentials

/-- The token with which an event manages stored keys. -/
def Event.managerToken? : Event → Option String
  | .call _ _ (.retrieve token _) | .call _ _ (.revoke token _) => some token
  | _ => none

namespace Service

variable (svc : Service)

/-- Whether a token tells a key of a subject. -/
def speaksFor (subject token : String) : Bool :=
  (svc.codec.decode token).toOption.any (·.subject = subject)

/-- Whether a token tells a stored key that somebody else than a subject issued. -/
def tellsForeignKey (subject token : String) : Bool :=
  (svc.codec.decode token).toOption.any fun key =>
    key.keyType.persistence = .persisted && key.issuer ≠ subject

/-- Whether an event is the key management of a subject. -/
def isOwn (subject : String) (e : Event) : Bool := e.managerToken?.any (svc.speaksFor subject)

/-- Whether an event is key management by a token that tells no key of a subject. -/
def isForeign (subject : String) (e : Event) : Bool :=
  e.managerToken?.any fun token => !svc.speaksFor subject token

/-- Whether what an event comes to is a concern of a subject. The key management of others is not,
nor is the question for whom a key stands that they issued. -/
def concerns (subject : String) : Event → Bool
  | .call _ _ (.identify token) => !svc.tellsForeignKey subject token
  | e => !svc.isForeign subject e

/-- The events of a run in their order, each with what it comes to. -/
def transcript (w : World) (events : List Event) : List (Event × Outcome) :=
  events.zip (svc.outcomes w events)

/-- The part of the transcript of a run that is a concern of a subject. -/
def view (subject : String) (w : World) (events : List Event) : List (Event × Outcome) :=
  (svc.transcript w events).filter fun step => svc.concerns subject step.1

end Service

end Credentials
