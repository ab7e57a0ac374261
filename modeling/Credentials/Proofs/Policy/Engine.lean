import Credentials.Policy.Gateway
import Credentials.Policy.Request
import Credentials.Proofs.Json.Members
import Credentials.Proofs.Json.ReadBack
import Credentials.Service.Error

/-!
# An engine in trouble says neither yes nor no

Whatever an engine does to a request, the agent in front of it takes for an
answer only what was said completely, with success and in the right form. All
else is an error, and the error tells trouble that may pass from a request that
is refused and from an answer that makes no sense.
-/

namespace Credentials

/-! ## The gateway to an agent -/

namespace Gateway

variable {σ : Type} (agent : Agent σ) {r : Relationship} (limit : Duration) (s : σ)

theorem authorize_of_incomplete (h : r.isIncomplete = true) :
    (authorize agent r limit s).1
      = .failure (.invalidRequest ("incomplete policy request: " ++ r.describe)) := by
  rw [authorize, evaluate, if_pos h]
  rfl

/-- A question that is complete is the agent's to answer, and a no becomes an error. -/
theorem authorize_of_complete (h : r.isIncomplete = false) :
    ((authorize agent r limit s).1 = .value () ↔
      (agent.ask (.evaluate r) limit s).1 = .value (.verdict true)) ∧
    (∀ e, e ≠ .denied → ((authorize agent r limit s).1 = .failure e ↔
      (agent.ask (.evaluate r) limit s).1 = .failure e)) ∧
    ((authorize agent r limit s).1 = .failure .denied ↔
      (agent.ask (.evaluate r) limit s).1 = .value (.verdict false) ∨
        (agent.ask (.evaluate r) limit s).1 = .failure .denied) := by
  rw [authorize, evaluate, if_neg (by simp [h]), Agent.ask, Call.andThen, Call.andThen]
  obtain ⟨(_ | _) | e | _, t⟩ := agent.evaluate r limit s
  all_goals simp [verdict, Reply.ofExcept, eq_comm]

theorem authorize_retryable_iff (h : r.isIncomplete = false) :
    (∃ e, (authorize agent r limit s).1 = .failure e ∧
      (ServiceError.ofPolicy e).isRetryable = true) ↔
    ∃ e, (agent.ask (.evaluate r) limit s).1 = .failure e ∧
      (ServiceError.ofPolicy e).isRetryable = true := by
  refine exists_congr fun e => and_congr_left fun hretry => ?_
  refine (authorize_of_complete agent limit s h).2.1 e ?_
  rintro rfl
  cases hretry

end Gateway

namespace Engine

variable {σ : Type}

/-! ## Answers -/

/-- Whether a document lists names in a field, or leaves the field out and lists none. -/
def ListsNames (name : String) (j : Json) (list : List String) : Prop :=
  j.HasField { name, omissible := true } (some (.array (list.map .text))) ∨
    j.HasField { name, omissible := true } none ∧ list = []

/-- Whether a body answers a request: it is a document with a field that is a boolean for a check,
and that is a list of texts or left out for a look-up. -/
def Tells (q : Agent.Request) (bytes : List UInt8) (a : Agent.Answer) : Prop :=
  ∃ j, Json.ofBytes? bytes = some j ∧
    match q, a with
    | .evaluate _, .verdict holds => j.HasField { name := "allowed" } (some (.bool holds))
    | .listSubjects _ _, .names list => ListsNames "subjects" j list
    | .listObjects _ _, .names list => ListsNames "objects" j list
    | _, _ => False

/-- What the agent has to make of a request, by what comes back for it. A refusal is told in the
words of its body, which are read as UTF-8 (`Text.repaired_utf8`). A text that is left open is not
for the agent to choose: it is that of the client or of the reader that gave up. -/
inductive IsJudged (q : Agent.Request) : EngineReply → Reply PolicyError Agent.Answer → Prop
  | nothing (text : String) : IsJudged q .nothing (.failure (.unavailable text))
  | trouble {status : Nat} {body : Option (List UInt8)} (h : standing status = .trouble) :
      IsJudged q (.answer status body)
        (.failure (.unavailable ("policy agent returned " ++ Status.text status)))
  | refused {status : Nat} {body : Option (List UInt8)} (h : standing status = .refused) :
      IsJudged q (.answer status body)
        (.failure (.invalidRequest ((body.map Text.repaired).getD "")))
  | unexpected {status : Nat} {body : Option (List UInt8)} (h : standing status = .unexpected) :
      IsJudged q (.answer status body)
        (.failure (.internal ("policy agent returned " ++ Status.text status)))
  /-- A change asks for nothing, so that nobody looks at the body. -/
  | made {status : Nat} {body : Option (List UInt8)} (h : standing status = .success)
      (hchange : q.isChange = true) : IsJudged q (.answer status body) (.value .done)
  | brokenOff {status : Nat} (h : standing status = .success) (hreads : q.isChange = false)
      (text : String) : IsJudged q (.answer status none) (.failure (.unavailable text))
  | told {status : Nat} {bytes : List UInt8} {a : Agent.Answer} (h : standing status = .success)
      (hreads : q.isChange = false) (htells : Tells q bytes a) :
      IsJudged q (.answer status (some bytes)) (.value a)
  | nonsense {status : Nat} {bytes : List UInt8} (h : standing status = .success)
      (hreads : q.isChange = false) (hnone : ∀ a, ¬ Tells q bytes a) (text : String) :
      IsJudged q (.answer status (some bytes)) (.failure (.internal text))

/-- Whether what comes back for a request is trouble that may pass. -/
def IsOutage (q : Agent.Request) : EngineReply → Prop
  | .nothing => True
  | .answer status body =>
    standing status = .trouble ∨ standing status = .success ∧ q.isChange = false ∧ body = none

/-- Whether what comes back for a request answers it. -/
def IsTold (q : Agent.Request) (a : Agent.Answer) : EngineReply → Prop
  | .answer status (some bytes) => standing status = .success ∧ Tells q bytes a
  | _ => False

/-! ## Plain bodies -/

/-- A verdict is told by an object that holds it and nothing else. -/
theorem tells_verdict (r : Relationship) (holds : Bool) :
    Tells (.evaluate r) (Text.utf8 (Json.renderMember "allowed" (toString holds).toList))
      (.verdict holds) :=
  ⟨_, Json.ofBytes?_utf8_bool "allowed" holds,
    .inr (.inr ⟨_, rfl, by simp, by simp [Json.valuesOf]⟩)⟩

theorem listsNames_member (name : String) (list : List String) :
    ListsNames name (.object [(some name, .array (list.map .text))]) list :=
  .inl (.inr (.inr ⟨_, rfl, by simp, by simp [Json.valuesOf]⟩))

/-- Names are told by an object that lists them and nothing else. -/
theorem tells_subjects (object relation : String) (list : List String) :
    Tells (.listSubjects object relation)
      (Text.utf8 (Json.renderMember "subjects" (Json.quoteAll list))) (.names list) :=
  ⟨_, Json.ofBytes?_utf8_texts "subjects" list, listsNames_member "subjects" list⟩

theorem tells_objects (subject relation : String) (list : List String) :
    Tells (.listObjects subject relation)
      (Text.utf8 (Json.renderMember "objects" (Json.quoteAll list))) (.names list) :=
  ⟨_, Json.ofBytes?_utf8_texts "objects" list, listsNames_member "objects" list⟩

/-! ## Reading -/

theorem allowed?_eq_some_iff {j : Json} {holds : Bool} :
    allowed? j = some holds ↔ j.HasField { name := "allowed" } (some (.bool holds)) := by
  rw [allowed?, Option.bind_eq_bind, Option.bind_eq_some_iff]
  constructor
  · rintro ⟨found, hfound, hread⟩
    obtain ⟨v, rfl, hv⟩ := Json.fields?_singleton_iff.1 hfound
    obtain ⟨item, rfl, hitem⟩ := Option.bind_eq_some_iff.1 hread
    rw [← Json.bool?_eq_some_iff.1 hitem]
    exact hv
  · intro h
    exact ⟨_, Json.fields?_singleton_iff.2 ⟨_, rfl, h⟩, rfl⟩

theorem names?_eq_some_iff {name : String} {j : Json} {list : List String} :
    names? name j = some list ↔ ListsNames name j list := by
  rw [names?, Option.bind_eq_bind, Option.bind_eq_some_iff]
  constructor
  · rintro ⟨found, hfound, hread⟩
    obtain ⟨v, rfl, hv⟩ := Json.fields?_singleton_iff.1 hfound
    cases v with
    | none =>
      cases hread
      exact .inr ⟨hv, rfl⟩
    | some item =>
      have hitem : item.texts? = some list := hread
      rw [Json.texts?_eq_some_iff.1 hitem] at hv
      exact .inl hv
  · rintro (h | ⟨h, rfl⟩)
    · exact ⟨_, Json.fields?_singleton_iff.2 ⟨_, rfl, h⟩, Json.texts?_eq_some_iff.2 rfl⟩
    · exact ⟨_, Json.fields?_singleton_iff.2 ⟨_, rfl, h⟩, rfl⟩

/-- What is made of the body of a successful answer. -/
def understand : Agent.Request → Option (List UInt8) → Except PolicyError Agent.Answer
  | .evaluate _, body => .verdict <$> read allowed? body
  | .add _, _ | .delete _, _ => .ok .done
  | .listSubjects _ _, body => .names <$> read (names? "subjects") body
  | .listObjects _ _, body => .names <$> read (names? "objects") body

theorem understand_of_isChange {q : Agent.Request} (h : q.isChange = true)
    (body : Option (List UInt8)) : understand q body = .ok .done := by
  cases q with
  | add r => rfl
  | delete r => rfl
  | _ => cases h

theorem understand_none {q : Agent.Request} (h : q.isChange = false) :
    understand q none = .error (.unavailable "policy agent response broke off") := by
  cases q with
  | add r => cases h
  | delete r => cases h
  | _ => rfl

theorem map_read_eq_ok_iff {α : Type} {reader : Json → Option α} {f : α → Agent.Answer}
    {bytes : List UInt8} {a : Agent.Answer} :
    f <$> read reader (some bytes) = .ok a ↔
      ∃ j, Json.ofBytes? bytes = some j ∧ ∃ v, reader j = some v ∧ f v = a := by
  rw [read]
  cases hj : Json.ofBytes? bytes with
  | none => simp [Functor.map, Except.map]
  | some j => cases hv : reader j <;> simp [hv, Functor.map, Except.map]

theorem map_read_eq_error {α : Type} {reader : Json → Option α} {f : α → Agent.Answer}
    {bytes : List UInt8} {e : PolicyError} (h : f <$> read reader (some bytes) = .error e) :
    ∃ text, e = .internal text := by
  rw [read] at h
  split at h
  · cases h
  · cases h
    exact ⟨_, rfl⟩

/-- A body is read as what it tells. -/
theorem understand_eq_ok_iff {q : Agent.Request} (h : q.isChange = false) {bytes : List UInt8}
    {a : Agent.Answer} : understand q (some bytes) = .ok a ↔ Tells q bytes a := by
  cases q with
  | evaluate r =>
    rw [understand, map_read_eq_ok_iff]
    refine exists_congr fun j => and_congr_right fun _ => ?_
    cases a <;> simp [allowed?_eq_some_iff]
  | listSubjects object relation =>
    rw [understand, map_read_eq_ok_iff]
    refine exists_congr fun j => and_congr_right fun _ => ?_
    cases a <;> simp [names?_eq_some_iff]
  | listObjects subject relation =>
    rw [understand, map_read_eq_ok_iff]
    refine exists_congr fun j => and_congr_right fun _ => ?_
    cases a <;> simp [names?_eq_some_iff]
  | add r => cases h
  | delete r => cases h

/-- A body that tells nothing is nonsense, and not trouble that may pass. -/
theorem understand_eq_error {q : Agent.Request} {bytes : List UInt8} {e : PolicyError}
    (h : understand q (some bytes) = .error e) : ∃ text, e = .internal text := by
  cases q with
  | evaluate r => exact map_read_eq_error h
  | listSubjects object relation => exact map_read_eq_error h
  | listObjects subject relation => exact map_read_eq_error h
  | add r => cases h
  | delete r => cases h

/-! ## Statuses -/

theorem accept_answer (status : Nat) (body : Option (List UInt8)) :
    accept (.answer status body) =
      match standing status with
      | .success => .ok body
      | .trouble => .error (.unavailable ("policy agent returned " ++ Status.text status))
      | .refused => .error (.invalidRequest ((body.map Text.repaired).getD ""))
      | .unexpected => .error (.internal ("policy agent returned " ++ Status.text status)) := by
  simp only [accept, standing, refusal, Status.isSuccess, Status.isServerError, Bool.and_eq_true,
    Bool.or_eq_true, decide_eq_true_eq]
  by_cases hsuccess : 200 ≤ status ∧ status < 300
  · simp only [if_pos hsuccess]
  by_cases htrouble : 500 ≤ status ∧ status < 600 ∨ status = 429
  · simp only [if_neg hsuccess, if_pos htrouble]
  by_cases hrefused : status = 400 ∨ status = 422
  · simp only [if_neg hsuccess, if_neg htrouble, if_pos hrefused]
  · simp only [if_neg hsuccess, if_neg htrouble, if_neg hrefused]

/-! ## Requests -/

variable (config : EngineConfig) (send : Transport σ) (limit : Duration) (s : σ)

/-- A request that can be sent is judged by the status of what comes back, then by its body. -/
theorem post_of_canSend {α : Type} (h : config.canSend = true) (q : Agent.Request)
    (f : Option (List UInt8) → Except PolicyError α) (g : α → Except PolicyError Agent.Answer) :
    ((post config send (path q) (arguments q)).andThen f).andThen g limit s
      = (.ofExcept (accept (exchange config send q s).1 >>= fun body => f body >>= g),
          (exchange config send q s).2) := by
  have hpost : post config send (path q) (arguments q) limit s
      = (.ofExcept (accept (exchange config send q s).1), (exchange config send q s).2) := by
    rw [post, exchange, if_pos h, if_pos h]
  rw [Call.andThen_of_answer (Call.andThen_of_answer hpost f) g, bind_assoc]

theorem ask_of_canSend (h : config.canSend = true) (q : Agent.Request) :
    (agent config send).ask q limit s
      = (.ofExcept (accept (exchange config send q s).1 >>= understand q),
          (exchange config send q s).2) := by
  cases q with
  | evaluate r => exact post_of_canSend config send limit s h (.evaluate r) (read allowed?) _
  | add r => exact post_of_canSend config send limit s h (.add r) (fun _ => .ok ()) _
  | delete r => exact post_of_canSend config send limit s h (.delete r) (fun _ => .ok ()) _
  | listSubjects object relation =>
    exact post_of_canSend config send limit s h (.listSubjects object relation)
      (read (names? "subjects")) _
  | listObjects subject relation =>
    exact post_of_canSend config send limit s h (.listObjects subject relation)
      (read (names? "objects")) _

theorem ask_of_not_canSend (h : config.canSend = false) (q : Agent.Request) :
    (agent config send).ask q limit s
      = (.failure (.unavailable "policy agent request cannot be sent"), s) := by
  have hpost (path : String) (arguments : Json.Record) : post config send path arguments limit s
      = (.failure (.unavailable "policy agent request cannot be sent"), s) := by
    rw [post, if_neg (by simp [h])]
  cases q <;> simp only [Agent.ask, agent, Call.andThen, hpost]

theorem ask_state (q : Agent.Request) :
    ((agent config send).ask q limit s).2 = (exchange config send q s).2 := by
  cases hsend : config.canSend with
  | false => rw [ask_of_not_canSend config send limit s hsend, exchange, if_neg (by simp [hsend])]
  | true => rw [ask_of_canSend config send limit s hsend]

theorem isJudged_of_success (q : Agent.Request) {status : Nat} (h : standing status = .success)
    (body : Option (List UInt8)) :
    IsJudged q (.answer status body) (.ofExcept (understand q body)) := by
  cases hchange : q.isChange with
  | true =>
    rw [understand_of_isChange hchange]
    exact .made h hchange
  | false =>
    cases body with
    | none =>
      rw [understand_none hchange]
      exact .brokenOff h hchange _
    | some bytes =>
      have htells (a : Agent.Answer) : understand q (some bytes) = .ok a ↔ Tells q bytes a :=
        understand_eq_ok_iff hchange
      cases hbody : understand q (some bytes) with
      | ok a => exact .told h hchange ((htells a).1 hbody)
      | error e =>
        obtain ⟨text, rfl⟩ := understand_eq_error hbody
        refine .nonsense h hchange (fun a ha => ?_) text
        rw [(htells a).2 ha] at hbody
        cases hbody

/-- What comes back for a request decides what the agent makes of it. -/
theorem isJudged_ask (q : Agent.Request) :
    IsJudged q (exchange config send q s).1 ((agent config send).ask q limit s).1 := by
  cases hsend : config.canSend with
  | false =>
    rw [ask_of_not_canSend config send limit s hsend, exchange, if_neg (by simp [hsend])]
    exact .nothing _
  | true =>
    rw [ask_of_canSend config send limit s hsend]
    cases (exchange config send q s).1 with
    | nothing => exact .nothing _
    | answer status body =>
      rw [accept_answer]
      cases hstanding : standing status with
      | trouble => exact .trouble hstanding
      | refused => exact .refused hstanding
      | unexpected => exact .unexpected hstanding
      | success => exact isJudged_of_success q hstanding body

/-! ## Consequences -/

section

variable {q : Agent.Request} {reply : EngineReply} {outcome : Reply PolicyError Agent.Answer}

theorem IsTold.success {a : Agent.Answer} {status : Nat} {body : Option (List UInt8)}
    (h : IsTold q a (.answer status body)) : standing status = .success := by
  cases body with
  | none => exact h.elim
  | some bytes => exact h.1

/-- A body tells one answer at most. -/
theorem Tells.unique (hreads : q.isChange = false) {bytes : List UInt8} {a b : Agent.Answer}
    (ha : Tells q bytes a) (hb : Tells q bytes b) : a = b := by
  have hsame := ((understand_eq_ok_iff hreads).2 ha).symm.trans ((understand_eq_ok_iff hreads).2 hb)
  exact Except.ok.inj hsame

theorem IsJudged.eq_value_iff (h : IsJudged q reply outcome) (hreads : q.isChange = false)
    {a : Agent.Answer} : outcome = .value a ↔ IsTold q a reply := by
  have hfailure {e : PolicyError} {reply : EngineReply} (hnot : ¬ IsTold q a reply) :
      Reply.failure e = .value a ↔ IsTold q a reply := ⟨nofun, fun h => absurd h hnot⟩
  cases h with
  | nothing text => exact hfailure id
  | trouble h => exact hfailure fun ht => absurd (h.symm.trans ht.success) nofun
  | refused h => exact hfailure fun ht => absurd (h.symm.trans ht.success) nofun
  | unexpected h => exact hfailure fun ht => absurd (h.symm.trans ht.success) nofun
  | made h hchange =>
    rw [hreads] at hchange
    cases hchange
  | brokenOff h _ text => exact hfailure id
  | told h _ htells =>
    constructor
    · rintro ⟨⟩
      exact ⟨h, htells⟩
    · intro ht
      rw [htells.unique hreads ht.2]
  | nonsense h _ hnone text => exact hfailure fun ht => hnone a ht.2

theorem IsJudged.ne_denied (h : IsJudged q reply outcome) : outcome ≠ .failure .denied := by
  cases h <;> nofun

/-- Only trouble that may pass is worth another try. -/
theorem IsJudged.retryable_iff (h : IsJudged q reply outcome) :
    (∃ e, outcome = .failure e ∧ (ServiceError.ofPolicy e).isRetryable = true) ↔
      IsOutage q reply := by
  simp only [ServiceError.isRetryable_ofPolicy]
  cases h <;> simp [IsOutage, PolicyError.isRetryable, *]

end

/-! ## Fail closed -/

/-- An engine that is in trouble says neither yes nor no. Whatever comes back for a request, the
agent makes of it what it should, and goes on from the state in which the exchange left off. So a
question at the gateway is allowed or denied exactly if it has all its parts and a complete body of
a successful answer says so, and exactly the trouble that may pass is worth another try. Requests
are sent unless the token of the engine holds a control character other than the tab, and nothing
comes back for those that are not. Bodies are read as what they are: a refusal in UTF-8 is told word
by word, and an object that holds a verdict or a list of names, and nothing else, tells it. -/
theorem engine_fails_closed (config : EngineConfig) (send : Transport σ) (limit : Duration)
    (s : σ) :
    (∀ q, IsJudged q (exchange config send q s).1 ((agent config send).ask q limit s).1 ∧
      ((agent config send).ask q limit s).2 = (exchange config send q s).2 ∧
      ((∃ e, ((agent config send).ask q limit s).1 = .failure e ∧
        (ServiceError.ofPolicy e).isRetryable = true) ↔
          IsOutage q (exchange config send q s).1)) ∧
    (∀ r,
      (r.isIncomplete = false ↔ r.subject ≠ "" ∧ r.relation ≠ "" ∧ r.object ≠ "") ∧
      ((Gateway.authorize (agent config send) r limit s).1 = .value () ↔ r.isIncomplete = false ∧
        IsTold (.evaluate r) (.verdict true) (exchange config send (.evaluate r) s).1) ∧
      ((Gateway.authorize (agent config send) r limit s).1 = .failure .denied ↔
        r.isIncomplete = false ∧
          IsTold (.evaluate r) (.verdict false) (exchange config send (.evaluate r) s).1) ∧
      ((∃ e, (Gateway.authorize (agent config send) r limit s).1 = .failure e ∧
        (ServiceError.ofPolicy e).isRetryable = true) ↔ r.isIncomplete = false ∧
          IsOutage (.evaluate r) (exchange config send (.evaluate r) s).1)) ∧
    (config.canSend = true ↔ ∀ token, config.bearerToken = some token →
      ∀ c ∈ token.toList, c = '\t' ∨ 0x20 ≤ c.toNat ∧ c.toNat ≠ 0x7F) ∧
    (∀ text : String, (Text.utf8 text).toByteArray = text.toByteArray ∧
      Text.repaired (Text.utf8 text) = text) ∧
    (∀ r holds, Tells (.evaluate r)
      (Text.utf8 (Json.renderMember "allowed" (toString holds).toList)) (.verdict holds)) ∧
    ∀ name relation list,
      Tells (.listSubjects name relation)
        (Text.utf8 (Json.renderMember "subjects" (Json.quoteAll list))) (.names list) ∧
      Tells (.listObjects name relation)
        (Text.utf8 (Json.renderMember "objects" (Json.quoteAll list))) (.names list) := by
  have hjudged (q : Agent.Request) := isJudged_ask config send limit s q
  refine ⟨fun q => ⟨hjudged q, ask_state config send limit s q, (hjudged q).retryable_iff⟩,
    fun r => ⟨Relationship.isIncomplete_eq_false_iff, ?_⟩, EngineConfig.canSend_iff,
    fun text => ⟨Text.toByteArray_utf8 text, Text.repaired_utf8 text⟩, tells_verdict,
    fun name relation list =>
      ⟨tells_subjects name relation list, tells_objects name relation list⟩⟩
  cases hincomplete : r.isIncomplete with
  | true =>
    rw [Gateway.authorize_of_incomplete _ limit s hincomplete]
    simp [ServiceError.ofPolicy, ServiceError.isRetryable]
  | false =>
    obtain ⟨hallowed, -, hdenied⟩ :=
      Gateway.authorize_of_complete (agent config send) limit s hincomplete
    have hretry := Gateway.authorize_retryable_iff (agent config send) limit s hincomplete
    have htold (holds : Bool) := (hjudged (.evaluate r)).eq_value_iff rfl (a := .verdict holds)
    have hnever := (hjudged (.evaluate r)).ne_denied
    rw [hallowed, hdenied, hretry, (hjudged (.evaluate r)).retryable_iff, htold, htold,
      or_iff_left hnever]
    simp

end Engine

end Credentials
