import Credentials.Policy.Agent
import Credentials.Policy.Status
import Credentials.Text.Quoted

/-!
# The policy engine behind an address

A policy agent that asks an engine over HTTP. Each operation is one request
with a JSON body to a path of its own, and the answer is read strictly: only a
complete answer of the right shape is a verdict, so that trouble never passes
for a no, nor for a yes. The way in which a request travels is a parameter.
-/

namespace Credentials

/-- Where an engine is and how it is asked. -/
structure EngineConfig where
  /-- The address, without a slash at its end. -/
  baseUrl : String
  /-- The token that each request carries. -/
  bearerToken : Option String := none
  /-- How long a request may take. -/
  requestTimeout : Duration := .ofSeconds 5
deriving DecidableEq

namespace EngineConfig

/-- The configuration for an address; slashes at its end do not matter. -/
def ofUrl (url : String) : EngineConfig :=
  { baseUrl := String.ofList ((url.toList.reverse.dropWhile (· = '/')).reverse) }

/-- The address of a path of the engine. -/
def endpoint (config : EngineConfig) (path : String) : String := config.baseUrl ++ path

/-- A configuration in words, without its token. -/
def describe (config : EngineConfig) : String :=
  "PolicyConfig \x7b base_url: " ++ Text.quoted config.baseUrl ++ ", bearer_token: "
    ++ (if config.bearerToken.isSome then "Some(\"[REDACTED]\")" else "None")
    ++ ", request_timeout: " ++ config.requestTimeout.text ++ " \x7d"

/-- Whether a token can travel in a header line: no control character but the
tab may be in it. -/
def isHeaderText (token : String) : Bool :=
  token.toList.all fun c => c = '\t' || (0x20 ≤ c.toNat && c.toNat ≠ 0x7F)

/-- Whether requests with this configuration can be sent at all. -/
def canSend (config : EngineConfig) : Bool := config.bearerToken.all isHeaderText

theorem canSend_iff {config : EngineConfig} :
    config.canSend = true ↔ ∀ token, config.bearerToken = some token →
      ∀ c ∈ token.toList, c = '\t' ∨ 0x20 ≤ c.toNat ∧ c.toNat ≠ 0x7F := by
  cases h : config.bearerToken <;> simp [canSend, isHeaderText, h]

end EngineConfig

/-- A request to an engine. -/
structure EngineRequest where
  /-- The path of the operation. -/
  path : String
  /-- The full address. -/
  url : String
  /-- The header line that authorizes the request. -/
  authorization : Option String
  /-- The arguments of the operation as a document. -/
  body : String
deriving DecidableEq

/-- The method of every request. -/
def EngineRequest.method : String := "POST"

/-- The type of the body of every request. -/
def EngineRequest.contentType : String := "application/json"

/-- What comes back from an engine. -/
inductive EngineReply where
  /-- Nothing: the engine cannot be reached, closes the connection or is too
  slow. -/
  | nothing
  /-- A status and a body, which is missing if it did not arrive completely. -/
  | answer (status : Nat) (body : Option (List UInt8))
deriving DecidableEq

/-- A way for requests to travel, with state `σ`. -/
abbrev Transport (σ : Type) := EngineRequest → σ → EngineReply × σ

namespace Engine

/-- The path that checks a relationship. -/
def checkPath : String := "/v1/permissions/check"

/-- The path that stores a relationship. -/
def writePath : String := "/v1/relationships/write"

/-- The path that deletes a relationship. -/
def deletePath : String := "/v1/relationships/delete"

/-- The path that looks up subjects. -/
def subjectsPath : String := "/v1/subjects/lookup"

/-- The path that looks up objects. -/
def objectsPath : String := "/v1/objects/lookup"

/-- The arguments of a look-up of subjects. -/
def subjectsRecord (object relation : String) : Json.Record :=
  [("object", .text object), ("relation", .text relation)]

/-- The arguments of a look-up of objects. -/
def objectsRecord (subject relation : String) : Json.Record :=
  [("subject", .text subject), ("relation", .text relation)]

/-- The request for a path with arguments. -/
def request (config : EngineConfig) (path : String) (arguments : Json.Record) : EngineRequest where
  path := path
  url := config.endpoint path
  authorization := config.bearerToken.map ("Bearer " ++ ·)
  body := Json.render arguments

/-- The error that a status stands for: overload and failures of the engine may
pass, a refused request will not, and nothing else is expected. -/
def refusal (status : Nat) (body : String) : PolicyError :=
  if Status.isServerError status || status = 429 then
    .unavailable ("policy agent returned " ++ Status.text status)
  else if status = 400 || status = 422 then .invalidRequest body
  else .internal ("policy agent returned " ++ Status.text status)

/-- The body of a successful answer, which may be missing. An error body that
is missing counts as empty. -/
def accept : EngineReply → Except PolicyError (Option (List UInt8))
  | .nothing => .error (.unavailable "policy agent did not answer")
  | .answer status body =>
    if Status.isSuccess status then .ok body
    else .error (refusal status ((body.map Text.repaired).getD ""))

/-- The value that a successful answer holds. -/
def read {α : Type} (reader : Json → Option α) (body : Option (List UInt8)) :
    Except PolicyError α :=
  match body with
  | none => .error (.unavailable "policy agent response broke off")
  | some bytes =>
    match (Json.ofBytes? bytes).bind reader with
    | some a => .ok a
    | none => .error (.internal "policy agent response has an unexpected shape")

/-- The verdict in the answer to a check. -/
def allowed? (j : Json) : Option Bool := do
  match ← Json.fields? [{ name := "allowed" }] j with
  | [allowed] => Json.required Json.bool? allowed
  | _ => none

/-- The names in the answer to a look-up, under the given field. -/
def names? (field : String) (j : Json) : Option (List String) := do
  match ← Json.fields? [{ name := field, omissible := true }] j with
  | [names] => Json.defaulting [] Json.texts? names
  | _ => none

variable {σ : Type}

/-- Sends a request, if it can be sent, and judges the status of the answer. -/
def post (config : EngineConfig) (send : Transport σ) (path : String) (arguments : Json.Record) :
    Call σ PolicyError (Option (List UInt8)) := fun _ s =>
  if config.canSend then
    let (reply, t) := send (request config path arguments) s
    (.ofExcept (accept reply), t)
  else (.failure (.unavailable "policy agent request cannot be sent"), s)

/-- The engine as a policy agent. -/
def agent (config : EngineConfig) (send : Transport σ) : Agent σ where
  evaluate r := (post config send checkPath r.record).andThen (read allowed?)
  add r := (post config send writePath r.record).andThen fun _ => .ok ()
  delete r := (post config send deletePath r.record).andThen fun _ => .ok ()
  listSubjects object relation :=
    (post config send subjectsPath (subjectsRecord object relation)).andThen
      (read (names? "subjects"))
  listObjects subject relation :=
    (post config send objectsPath (objectsRecord subject relation)).andThen
      (read (names? "objects"))

end Engine

end Credentials
