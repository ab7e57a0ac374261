import Credentials.Service.Basic

/-!
# Operations as data

What can be asked of a service, as a value, and the one function that does it.
A run of a service is a fold of `perform` over the operations.
-/

namespace Credentials

/-- What can be asked of a service. -/
inductive Operation where
  | issue (token : String) (key : Key)
  | refresh (token : String)
  | identify (token : String)
  | retrieve (token id : String)
  | revoke (token id : String)
  | authorize (r : Relationship)
  | addPolicy (r : Relationship)
  | deletePolicy (r : Relationship)
  | listObjects (subject relation : String)
  | listSubjects (object relation : String)
deriving DecidableEq

/-- What a service answers when it does what it was asked. -/
inductive Answer where
  | token (t : Token)
  | subject (name : String)
  | key (k : Key)
  | names (list : List String)
  | done
deriving DecidableEq

/-- Does what is asked by the time of a clock. -/
def Service.perform {σ : Type} (svc : Service) (b : Backend σ) (clock : Clock) :
    Operation → Action σ Answer
  | .issue token key => .token <$> svc.issue b clock token key
  | .refresh token => .token <$> svc.refresh clock token
  | .identify token => .subject <$> svc.identify b clock token
  | .retrieve token id => .key <$> svc.retrieveKey b clock token id
  | .revoke token id => (fun _ => .done) <$> svc.revoke b clock token id
  | .authorize r => (fun _ => .done) <$> svc.authorize b r
  | .addPolicy r => (fun _ => .done) <$> svc.addPolicy b r
  | .deletePolicy r => (fun _ => .done) <$> svc.deletePolicy b r
  | .listObjects subject relation => .names <$> svc.listObjects b subject relation
  | .listSubjects object relation => .names <$> svc.listSubjects b object relation

end Credentials
