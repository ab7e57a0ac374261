import Credentials.Proofs.Service.Issue
import Credentials.Service.Operation

/-!
# Where refusals come from

What a service decides without a backend it refuses for the clock, the token or
the request, and for nothing else. And it judges a token before it turns to
anything else: that a key has not begun or has expired, or that the clock is of no
use, is found there and nowhere else, since no date of a new key and no backend is
a reason for it. So an operation ends in this way exactly if its token does.
-/

namespace Credentials

/-- How a key is refused that has expired. -/
def Halt.expired : Halt := .refused (.authentication .expired)

/-- Whether a halt comes of setting the times of a key against a clock. -/
inductive Halt.IsTiming : Halt → Prop where
  | clock : IsTiming .clockOutOfRange
  | early : IsTiming (.refused (.authentication .issuedInFuture))
  | late : IsTiming .expired

/-- Whether a halt comes of a decision without a backend: the clock is of no use, or the token or
the request is refused. -/
inductive Halt.IsOwn : Halt → Prop where
  | clock : IsOwn .clockOutOfRange
  | credential (reason : Rejection) : IsOwn (.refused (.authentication reason))
  | request (text : String) : IsOwn (.refused (.malformed text))

namespace Service

variable {σ ε α β : Type} (svc : Service) {halt : Halt}

/-! ## Actions that do not end in a halt -/

/-- An action that does not end in a halt, whatever the state. -/
def Avoids (halt : Halt) (act : Action σ α) : Prop := ∀ s t, act s ≠ .error halt t

theorem avoids_pure (a : α) : Avoids halt (pure a : Action σ α) := fun s t h => by cases h

theorem avoids_settle {x : Except Halt α} (h : x ≠ .error halt) :
    Avoids halt (settle x : Action σ α) := fun _ _ heq => h (settle_eq_error_iff.1 heq).1

theorem Avoids.bind {act : Action σ α} {f : α → Action σ β} (hact : Avoids halt act)
    (hf : ∀ a, Avoids halt (f a)) : Avoids halt (act >>= f) := by
  intro s t h
  simp only [Bind.bind, EStateM.bind] at h
  split at h
  · exact hf _ _ _ h
  · next hs =>
    cases h
    exact hact s _ hs

/-- A decision before actions that avoid a halt is all that can end in it. -/
theorem settle_bind_eq_error_iff {x : Except Halt α} {f : α → Action σ β}
    (hf : ∀ a, x = .ok a → Avoids halt (f a)) {s t : σ} :
    (settle x >>= f) s = .error halt t ↔ x = .error halt ∧ t = s := by
  rw [settle_bind]
  cases x with
  | ok a => simpa using hf a rfl s t
  | error h => simp [eq_comm]

/-! ## Decisions that are refused -/

theorem expiry_eq_error {issuedAt : Instant} {lifetime : Duration}
    (h : expiry issuedAt lifetime = .error halt) : ∃ text, halt = .refused (.malformed text) := by
  rw [expiry] at h
  split at h
  · cases h
  · cases h
    exact ⟨_, rfl⟩

theorem loginPair_eq_error {subject : String} {issuedAt : Instant}
    (h : svc.loginPair subject issuedAt = .error halt) :
    ∃ text, halt = .refused (.malformed text) := by
  obtain haccess | ⟨_, -, h⟩ := bind_eq_error_iff.1 h
  · exact expiry_eq_error haccess
  obtain hrefresh | ⟨_, -, h⟩ := bind_eq_error_iff.1 h
  · exact expiry_eq_error hrefresh
  · cases h

theorem storedExpiry_eq_error {key : Key} (h : svc.storedExpiry key = .error halt) :
    ∃ text, halt = .refused (.malformed text) := by
  rw [storedExpiry] at h
  split at h
  · rw [← bind_pure_comp] at h
    obtain hexpiry | ⟨_, -, h⟩ := bind_eq_error_iff.1 h
    · exact expiry_eq_error hexpiry
    · cases h
  · cases h

/-- A caller is refused whose token is not live, or whose key is of another type. -/
theorem caller_eq_error {clock : Clock} {token : String} {expected : KeyType}
    (h : svc.caller clock token expected = .error halt) :
    svc.liveKey clock token = .error halt ∨ halt = .refused (.authentication .wrongKeyType) := by
  rw [caller_eq] at h
  obtain hlive | ⟨key, -, h⟩ := bind_eq_error_iff.1 h
  · exact .inl hlive
  · split at h
    · cases h
    · cases h
      exact .inr rfl

/-! ## Decisions without a backend -/

/-- A decision that is never refused on behalf of a backend. -/
def DecidesAlone (x : Except Halt α) : Prop := ∀ halt, x = .error halt → halt.IsOwn

theorem decidesAlone_ok (a : α) : DecidesAlone (.ok a) := nofun

theorem decidesAlone_reject (reason : Rejection) :
    DecidesAlone (reject reason : Except Halt α) := by
  rintro _ ⟨⟩
  exact .credential reason

theorem DecidesAlone.bind {x : Except Halt α} {f : α → Except Halt β} (hx : DecidesAlone x)
    (hf : ∀ a, DecidesAlone (f a)) : DecidesAlone (x >>= f) := by
  intro halt h
  obtain h | ⟨a, -, h⟩ := bind_eq_error_iff.1 h
  · exact hx halt h
  · exact hf a halt h

theorem decidesAlone_of_malformed {x : Except Halt α}
    (h : ∀ halt, x = .error halt → ∃ text, halt = .refused (.malformed text)) :
    DecidesAlone x := by
  intro halt heq
  obtain ⟨text, rfl⟩ := h halt heq
  exact .request text

theorem decidesAlone_loginPair (subject : String) (issuedAt : Instant) :
    DecidesAlone (svc.loginPair subject issuedAt) :=
  decidesAlone_of_malformed fun _ => svc.loginPair_eq_error

theorem decidesAlone_storedExpiry (key : Key) : DecidesAlone (svc.storedExpiry key) :=
  decidesAlone_of_malformed fun _ => svc.storedExpiry_eq_error

theorem decidesAlone_look (clock : Clock) : DecidesAlone (look clock) := by
  intro halt h
  obtain ⟨-, rfl⟩ := look_eq_error_iff.1 h
  exact .clock

theorem decidesAlone_vet (clock : Clock) (key : Key) : DecidesAlone (svc.vet clock key) := by
  intro halt h
  obtain rfl | ⟨text, rfl⟩ := svc.vet_eq_error h
  · exact .clock
  · exact .request text

theorem decidesAlone_liveKey (clock : Clock) (token : String) :
    DecidesAlone (svc.liveKey clock token) := by
  intro halt h
  obtain rfl | ⟨reason, rfl, -⟩ := svc.liveKey_eq_error h
  · exact .clock
  · exact .credential reason

theorem decidesAlone_caller (clock : Clock) (token : String) (expected : KeyType) :
    DecidesAlone (svc.caller clock token expected) := by
  intro halt h
  obtain hlive | rfl := svc.caller_eq_error h
  · exact svc.decidesAlone_liveKey clock token halt hlive
  · exact .credential _

theorem decidesAlone_login (clock : Clock) (token : String) (key : Key) :
    DecidesAlone (svc.login clock token key) := by
  refine (svc.decidesAlone_vet clock key).bind fun _ => ?_
  split
  · refine (svc.decidesAlone_caller clock token .refresh).bind fun caller => ?_
    split
    · exact decidesAlone_reject _
    · exact svc.decidesAlone_loginPair _ _
  · exact svc.decidesAlone_loginPair _ _

theorem decidesAlone_exchange (clock : Clock) (token : String) :
    DecidesAlone (svc.exchange clock token) :=
  (svc.decidesAlone_caller clock token .refresh).bind fun _ =>
    (decidesAlone_look clock).bind fun _ => svc.decidesAlone_loginPair _ _

theorem decidesAlone_bearer (keys : KeyStore) (key : Key) : DecidesAlone (bearer keys key) := by
  rw [bearer]
  split
  · exact decidesAlone_reject _
  · split
    · exact decidesAlone_ok _
    · rw [confirmed]
      split
      · exact decidesAlone_reject _
      · split
        · exact decidesAlone_ok _
        · exact decidesAlone_reject _

/-! ## Steps that no clock stops -/

section

variable (hhalt : halt.IsTiming)
include hhalt

theorem not_malformed : ¬ ∃ text, halt = .refused (.malformed text) := by
  rintro ⟨text, rfl⟩
  cases hhalt

theorem reject_ne_error {reason : Rejection}
    (hreason : ¬ Halt.IsTiming (.refused (.authentication reason))) :
    (reject reason : Except Halt α) ≠ .error halt := by
  intro h
  cases h
  exact hreason hhalt

/-- A backend reports no such halt, and giving up on it is none either. -/
theorem avoids_bounded {convert : ε → ServiceError}
    (hconvert : ∀ e, ¬ Halt.IsTiming (.refused (convert e))) (purpose : String)
    (call : Call σ ε α) : Avoids halt (svc.bounded purpose convert call) := by
  intro s t h
  rw [bounded] at h
  split at h
  · cases h
  · cases h
    exact hconvert _ hhalt
  · cases h
    cases hhalt

theorem avoids_storedExpiry (key : Key) :
    Avoids halt (settle (svc.storedExpiry key) : Action σ (Option Instant)) :=
  avoids_settle fun h => not_malformed hhalt (svc.storedExpiry_eq_error h)

theorem avoids_policy (purpose : String) (call : Call σ PolicyError α) :
    Avoids halt (svc.bounded purpose .ofPolicy call) :=
  svc.avoids_bounded hhalt (fun e h => by cases e <;> cases h) purpose call

theorem avoids_store (purpose : String) (call : Call σ StoreError α) :
    Avoids halt (svc.bounded purpose .ofStore call) :=
  svc.avoids_bounded hhalt (fun e h => by cases e <;> cases h) purpose call

theorem avoids_confirm (b : Backend σ) (key : Key) : Avoids halt (svc.confirm b key) := by
  rw [confirm]
  split
  · exact avoids_settle (reject_ne_error hhalt fun h => by cases h)
  · refine (svc.avoids_bounded hhalt (fun e h => ?_) _ _).bind fun stored => ?_
    · cases e <;> cases h
    · split
      · exact avoids_pure _
      · exact avoids_settle (reject_ne_error hhalt fun h => by cases h)

/-! ## Operations with a token -/

variable {b : Backend σ} {clock : Clock} {token : String} {s t : σ}

/-- That a key is of another type than expected has nothing to do with its times. -/
theorem caller_eq_error_iff {expected : KeyType} :
    svc.caller clock token expected = .error halt ↔ svc.liveKey clock token = .error halt := by
  constructor
  · intro h
    refine (svc.caller_eq_error h).resolve_right ?_
    rintro rfl
    cases hhalt
  · intro h
    rw [caller_eq, h]
    rfl

theorem issueStored_eq_error_iff {key : Key} :
    svc.issueStored b clock token key s = .error halt t ↔
      svc.liveKey clock token = .error halt ∧ t = s := by
  rw [issueStored_eq, ← svc.caller_eq_error_iff hhalt]
  refine settle_bind_eq_error_iff fun caller _ => Avoids.bind ?_ fun _ => ?_
  · split
    · exact svc.avoids_policy hhalt _ _
    · exact avoids_pure _
  · refine (svc.avoids_storedExpiry hhalt key).bind fun expiresAt => ?_
    exact (svc.avoids_store hhalt _ _).bind fun id => avoids_pure _

/-- A request for a key is judged by the clock first, and then the token that comes with it. -/
theorem issue_eq_error_iff {key : Key} :
    svc.issue b clock token key s = .error halt t ↔
      (svc.vet clock key = .error halt ∨ svc.vet clock key = .ok () ∧ key.keyType ≠ .access ∧
        svc.liveKey clock token = .error halt) ∧ t = s := by
  rw [issue_eq, settle_bind]
  cases svc.vet clock key with
  | error h => simp [eq_comm]
  | ok _ =>
    simp only [reduceCtorEq, false_or, true_and]
    cases htype : key.keyType with
    | access =>
      have hlogin : svc.loginPair key.subject key.issuedAt ≠ .error halt :=
        fun h => not_malformed hhalt (svc.loginPair_eq_error h)
      simp [settle_eq_error_iff, hlogin]
    | refresh =>
      simp only [settle_eq_error_iff, bind_eq_error_iff, svc.caller_eq_error_iff hhalt]
      rw [or_iff_left]
      · simp
      · rintro ⟨caller, -, h⟩
        split at h
        · exact absurd h (reject_ne_error hhalt nofun)
        · exact not_malformed hhalt (svc.loginPair_eq_error h)
    | recovery => simp [svc.issueStored_eq_error_iff hhalt]
    | api => simp [svc.issueStored_eq_error_iff hhalt]

theorem refresh_eq_error_iff :
    svc.refresh clock token s = .error halt t ↔ svc.liveKey clock token = .error halt ∧ t = s := by
  rw [refresh, settle_eq_error_iff, exchange, bind_eq_error_iff, svc.caller_eq_error_iff hhalt,
    or_iff_left]
  rintro ⟨caller, hcaller, h⟩
  -- a clock by which the token was live shows a time
  obtain ⟨-, ⟨now, -, hnow, -, -⟩, -⟩ := svc.caller_eq_ok_iff.1 hcaller
  rw [look_eq_ok_iff.2 hnow] at h
  exact not_malformed hhalt (svc.loginPair_eq_error h)

theorem retrieveKey_eq_error_iff {id : String} :
    svc.retrieveKey b clock token id s = .error halt t ↔
      svc.liveKey clock token = .error halt ∧ t = s := by
  rw [retrieveKey, ← svc.caller_eq_error_iff hhalt]
  exact settle_bind_eq_error_iff fun caller _ => svc.avoids_store hhalt _ _

theorem revoke_eq_error_iff {id : String} :
    svc.revoke b clock token id s = .error halt t ↔
      svc.liveKey clock token = .error halt ∧ t = s := by
  rw [revoke, ← svc.caller_eq_error_iff hhalt]
  exact settle_bind_eq_error_iff fun caller _ => svc.avoids_store hhalt _ _

theorem identify_eq_error_iff :
    svc.identify b clock token s = .error halt t ↔
      svc.liveKey clock token = .error halt ∧ t = s := by
  rw [identify_eq]
  refine settle_bind_eq_error_iff fun key _ => ?_
  split
  · exact avoids_settle (reject_ne_error hhalt nofun)
  · split
    · exact avoids_pure _
    · exact svc.avoids_confirm hhalt b key

end

/-! ## All operations -/

/-- Whether an operation is judged to end in a halt before it turns to a backend: its request is
refused in this way, or the token of its caller. -/
def EndsIn (clock : Clock) (halt : Halt) : Operation → Prop
  | .issue token key => svc.vet clock key = .error halt ∨ svc.vet clock key = .ok () ∧
      key.keyType ≠ .access ∧ svc.liveKey clock token = .error halt
  | .refresh token | .identify token | .retrieve token _ | .revoke token _ =>
    svc.liveKey clock token = .error halt
  | .authorize _ | .addPolicy _ | .deletePolicy _ | .listObjects _ _ | .listSubjects _ _ => False

/-- A halt that comes of times is found before an operation turns to a backend, or not at all; and
the backends are left alone then. -/
theorem perform_eq_error_iff (hhalt : halt.IsTiming) (b : Backend σ) {clock : Clock}
    {op : Operation} {s t : σ} :
    svc.perform b clock op s = .error halt t ↔ svc.EndsIn clock halt op ∧ t = s := by
  have hpolicy {α : Type} {purpose : String} {call : Call σ PolicyError α} :
      svc.bounded purpose .ofPolicy call s = .error halt t ↔ False ∧ t = s := by
    simpa using svc.avoids_policy hhalt purpose call s t
  cases op with
  | issue token key => exact map_eq_error_iff.trans (svc.issue_eq_error_iff hhalt)
  | refresh token => exact map_eq_error_iff.trans (svc.refresh_eq_error_iff hhalt)
  | identify token => exact map_eq_error_iff.trans (svc.identify_eq_error_iff hhalt)
  | retrieve token id => exact map_eq_error_iff.trans (svc.retrieveKey_eq_error_iff hhalt)
  | revoke token id => exact map_eq_error_iff.trans (svc.revoke_eq_error_iff hhalt)
  | authorize r => exact map_eq_error_iff.trans hpolicy
  | addPolicy r => exact map_eq_error_iff.trans hpolicy
  | deletePolicy r => exact map_eq_error_iff.trans hpolicy
  | listObjects subject relation => exact map_eq_error_iff.trans hpolicy
  | listSubjects object relation => exact map_eq_error_iff.trans hpolicy

end Service

end Credentials
