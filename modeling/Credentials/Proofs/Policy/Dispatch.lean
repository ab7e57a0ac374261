import Credentials.Proofs.Json.ReadBack
import Credentials.Proofs.Policy.Engine
import Mathlib.Data.List.DropRight

/-!
# Requests carry what was asked

What an agent sends to an engine says what it was asked, and nothing else: the
path is that of the operation, behind the address without the slashes at its end,
and a reader of the body finds the arguments as they were given, under the names
they have. No text, whatever it holds, makes one request look like another one.
-/

namespace Credentials

/-! ## Addresses -/

namespace EngineConfig

theorem toList_baseUrl_ofUrl (url : String) :
    (ofUrl url).baseUrl.toList = url.toList.rdropWhile (· = '/') := String.toList_ofList

/-- What is cut off from an address are the slashes at its end, and all of them. -/
theorem exists_slashes (url : String) :
    ∃ slashes : Nat, url = (ofUrl url).baseUrl ++ String.ofList (.replicate slashes '/') ∧
      (ofUrl url).baseUrl.toList.getLast? ≠ some '/' := by
  refine ⟨(url.toList.rtakeWhile (· = '/')).length, ?_, ?_⟩
  · have hslashes : ∀ c ∈ url.toList.rtakeWhile (· = '/'), c = '/' := by
      intro c hc
      simpa using List.mem_rtakeWhile_imp hc
    rw [← String.toList_inj, String.toList_append, toList_baseUrl_ofUrl, String.toList_ofList,
      ← List.eq_replicate_of_mem hslashes, List.rdropWhile_append_rtakeWhile]
  · rw [toList_baseUrl_ofUrl]
    intro hlast
    obtain ⟨hne, hslash⟩ := List.mem_getLast?_eq_getLast hlast
    exact List.rdropWhile_last_not (· = '/') url.toList hne (by simp [← hslash])

end EngineConfig

/-! ## Arguments -/

/-- The object of texts under their names. -/
def Json.ofTexts (texts : List (String × String)) : Json :=
  .object (texts.map fun (name, value) => (some name, .text value))

theorem Json.ofTexts_injective : Function.Injective Json.ofTexts := by
  intro texts others h
  refine List.map_injective_iff.2 ?_ (Json.object.inj h)
  rintro ⟨_, _⟩ ⟨_, _⟩ heq
  cases heq
  rfl

namespace Agent.Request

/-- The path that the operation of a request has at an engine. -/
def place : Agent.Request → String
  | .evaluate _ => "/v1/permissions/check"
  | .add _ => "/v1/relationships/write"
  | .delete _ => "/v1/relationships/delete"
  | .listSubjects _ _ => "/v1/subjects/lookup"
  | .listObjects _ _ => "/v1/objects/lookup"

/-- The arguments of a request, under their names. -/
def named : Agent.Request → List (String × String)
  | .evaluate r | .add r | .delete r =>
    [("subject", r.subject), ("relation", r.relation), ("object", r.object)]
  | .listSubjects object relation => [("object", object), ("relation", relation)]
  | .listObjects subject relation => [("subject", subject), ("relation", relation)]

end Agent.Request

namespace Engine

theorem ofRecord_arguments (q : Agent.Request) :
    Json.ofRecord (arguments q) = Json.ofTexts q.named := by
  cases q <;> rfl

theorem path_eq (q : Agent.Request) : path q = q.place := by
  cases q <;> rfl

/-- A path belongs to one operation, and the arguments under their names tell the rest. -/
theorem eq_of_named_eq {q other : Agent.Request} (hpath : path q = path other)
    (hnamed : q.named = other.named) : q = other := by
  rcases q with ⟨⟨_, _, _⟩⟩ | ⟨⟨_, _, _⟩⟩ | ⟨⟨_, _, _⟩⟩ | ⟨_, _⟩ | ⟨_, _⟩ <;>
    rcases other with ⟨⟨_, _, _⟩⟩ | ⟨⟨_, _, _⟩⟩ | ⟨⟨_, _, _⟩⟩ | ⟨_, _⟩ | ⟨_, _⟩
  -- operations with different paths are ruled out by the path, the others differ in their texts
  all_goals simp_all [path_eq, Agent.Request.place, Agent.Request.named]

/-- What a reader makes of the body of a request. -/
theorem ofBytes?_body (config : EngineConfig) (q : Agent.Request) :
    Json.ofBytes? (Text.utf8 (request config (path q) (arguments q)).body)
      = some (Json.ofTexts q.named) := by
  rw [request, Json.ofBytes?_utf8_render, ofRecord_arguments]

/-! ## What is sent -/

/-- A way for requests to travel that notes each of them down before it is answered. -/
def noting (reply : EngineRequest → EngineReply) : Transport (List EngineRequest) :=
  fun r sent => (reply r, sent ++ [r])

/-- What an agent sends to an engine for a request. -/
def sent (config : EngineConfig) (reply : EngineRequest → EngineReply) (limit : Duration)
    (q : Agent.Request) : List EngineRequest :=
  ((agent config (noting reply)).ask q limit []).2

/-- For each request, one is sent, if any can be. -/
theorem sent_eq (config : EngineConfig) (reply : EngineRequest → EngineReply) (limit : Duration)
    (q : Agent.Request) :
    sent config reply limit q
      = if config.canSend then [request config (path q) (arguments q)] else [] := by
  rw [sent, ask_state, exchange]
  split <;> rfl

theorem eq_request_of_mem_sent {config : EngineConfig} {reply : EngineRequest → EngineReply}
    {limit : Duration} {q : Agent.Request} {r : EngineRequest} (h : r ∈ sent config reply limit q) :
    r = request config (path q) (arguments q) := by
  rw [sent_eq] at h
  split at h
  · exact List.mem_singleton.1 h
  · cases h

/-- Requests carry exactly what was asked. For any address and any token, an agent that is asked for
something sends one request to its engine if it can send any, that is, unless the token holds a
control character other than the tab: to the address without the slashes at its end, followed by the
path of the operation, and with a body in which a reader finds the arguments under their names. So
two requests, to whatever engines, share their path and their body exactly if they were asked for
the same operation with the same arguments. -/
theorem requests_carry_what_was_asked (url : String) (bearerToken : Option String)
    (requestTimeout limit : Duration) (reply : EngineRequest → EngineReply) (q : Agent.Request) :
    let config := { EngineConfig.ofUrl url with bearerToken, requestTimeout }
    (sent config reply limit q).length = (if config.canSend then 1 else 0) ∧
    (config.canSend = true ↔ ∀ token, bearerToken = some token →
      ∀ c ∈ token.toList, c = '\t' ∨ 0x20 ≤ c.toNat ∧ c.toNat ≠ 0x7F) ∧
    path q = q.place ∧
    ∀ r ∈ sent config reply limit q,
      r.path = path q ∧
      (∃ (base : String) (slashes : Nat), url = base ++ String.ofList (.replicate slashes '/') ∧
        base.toList.getLast? ≠ some '/' ∧ r.url = base ++ path q) ∧
      Json.ofBytes? (Text.utf8 r.body) = some (Json.ofTexts q.named) ∧
      ∀ config reply limit other, ∀ r' ∈ sent config reply limit other,
        (r.path = r'.path ∧ r.body = r'.body ↔ q = other) := by
  intro config
  refine ⟨?one, EngineConfig.canSend_iff, path_eq q, fun r hr => ?_⟩
  case one =>
    rw [sent_eq]
    split <;> rfl
  obtain rfl := eq_request_of_mem_sent hr
  refine ⟨rfl, ?address, ofBytes?_body config q, ?tell⟩
  case address =>
    obtain ⟨slashes, hurl, hlast⟩ := EngineConfig.exists_slashes url
    exact ⟨_, slashes, hurl, hlast, rfl⟩
  case tell =>
    intro config' reply' limit' other r' hr'
    obtain rfl := eq_request_of_mem_sent hr'
    constructor
    · rintro ⟨hpath, hbody⟩
      have hread := ofBytes?_body config q
      rw [hbody, ofBytes?_body, Option.some.injEq] at hread
      exact eq_of_named_eq hpath (Json.ofTexts_injective hread).symm
    · rintro rfl
      exact ⟨rfl, rfl⟩

/-- A subject that tries to end its text and to name another subject. -/
def intrusion : Agent.Request := .evaluate ⟨"eve\",\"subject\":\"root", "read", "report"⟩

theorem intrusion_stays_inside :
    ∃ r ∈ sent (.ofUrl "http://policy//") (fun _ => .nothing) (.ofSeconds 1) intrusion,
      Json.ofBytes? (Text.utf8 r.body) = some (Json.ofTexts
        [("subject", "eve\",\"subject\":\"root"), ("relation", "read"), ("object", "report")]) := by
  obtain ⟨hone, -, -, hall⟩ := requests_carry_what_was_asked "http://policy//" none (.ofSeconds 5)
    (.ofSeconds 1) (fun _ => .nothing) intrusion
  obtain ⟨r, hr⟩ := List.length_eq_one_iff.1 hone
  have hmem := List.mem_singleton_self r
  rw [← hr] at hmem
  exact ⟨r, hmem, (hall r hmem).2.2.1⟩

end Engine

end Credentials
