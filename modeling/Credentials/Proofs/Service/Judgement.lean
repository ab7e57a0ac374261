import Credentials.Proofs.Service.Login
import Credentials.Proofs.Service.Provenance

/-!
# How requests for keys are judged

A request is looked at before the token that it comes with, the token before
anybody is asked, and the policy agent before the store. So what is wrong with a
request itself is said to everybody in the same way; what is wrong with a token
shows nothing of the backends; and what a backend reports is said only to callers
who may hear it. The order is that of the rows of a table, `IsDecided`, which tells
everything that can come of a request without a flaw.
-/

namespace Credentials

/-! ## Flaws -/

/-- What may be wrong with a request for a key, in the order in which it is reported. -/
inductive RequestFlaw where
  | noSubject
  | noIssueTime
  | issuedInFuture
  | stillborn
deriving DecidableEq

namespace RequestFlaw

/-- The flaw in words. -/
def text : RequestFlaw → String
  | noSubject => "missing subject"
  | noIssueTime => "missing issue time"
  | issuedInFuture => "issue time is in the future"
  | stillborn => "expiration must be after issue time"

/-- Whether a request has a flaw, if issue times are tolerated up to `latest`. -/
def appliesTo (latest : Instant) (key : Key) : RequestFlaw → Bool
  | noSubject => key.subject = ""
  | noIssueTime => key.issuedAt = .epoch
  | issuedInFuture => latest < key.issuedAt
  | stillborn => key.keyType = .api && key.expiresAt.any (· ≤ key.issuedAt)

/-- The first flaw of a request, if it has one. -/
def first? (latest : Instant) (key : Key) : Option RequestFlaw :=
  [noSubject, noIssueTime, issuedInFuture, stillborn].find? (appliesTo latest key)

end RequestFlaw

namespace Service

variable {σ : Type} (svc : Service)

/-- A request is checked for its flaws in their order. -/
theorem vet_showing {now latest : Instant} (h : now.after? svc.clockSkew = some latest)
    (key : Key) :
    svc.vet (.showing now) key =
      match RequestFlaw.first? latest key with
      | some flaw => malformed flaw.text
      | none => .ok () := by
  have hhorizon : svc.horizon now = .ok latest := svc.horizon_eq_ok_iff.2 h
  change svc.validateRequest now key = _
  simp only [validateRequest, hhorizon, RequestFlaw.first?, List.find?_cons, List.find?_nil,
    RequestFlaw.appliesTo, Key.hasIssueTime, bind, Except.bind, isStillborn]
  by_cases hsubject : key.subject = ""
  · simp [hsubject, RequestFlaw.text]
  by_cases hepoch : key.issuedAt = .epoch
  · simp [hsubject, hepoch, RequestFlaw.text]
  by_cases hahead : latest < key.issuedAt
  · simp [hsubject, hepoch, hahead, RequestFlaw.text]
  by_cases hstillborn : key.keyType = .api ∧ key.expiresAt.any (· ≤ key.issuedAt) = true
  · simp [hsubject, hepoch, hahead, hstillborn, RequestFlaw.text]
  · have hviable :
        (decide (key.keyType = .api) && key.expiresAt.any (· ≤ key.issuedAt)) = false := by
      simpa using hstillborn
    simp [hsubject, hepoch, hahead, hstillborn, hviable]

/-! ## Callers -/

/-- The type of the token that a request has to come with, if it needs one. -/
def callerType? : KeyType → Option KeyType
  | .access => none
  | .refresh => some .refresh
  | .api | .recovery => some .access

/-- Whether a token makes a caller of the type that is expected: it tells a key of that type which
is current. -/
def IsCaller (now latest : Instant) (token : String) (expected : KeyType) (caller : Key) : Prop :=
  svc.codec.decode token = .ok caller ∧ caller.IsCurrent now latest ∧ caller.keyType = expected

/-- Why a token makes no caller of the type that is expected, in the order in which it is found
out. -/
inductive IsFault (now latest : Instant) (token : String) (expected : KeyType) :
    Rejection → Prop where
  | missing (h : token = "") : IsFault now latest token expected .missingToken
  | undecodable {e : DecodeError} {reason : Rejection} (hshown : token ≠ "")
      (h : svc.codec.decode token = .error e)
      (hreason : (ServiceError.ofDecode e).rejection? = some reason) :
      IsFault now latest token expected reason
  | ahead {caller : Key} (h : svc.codec.decode token = .ok caller)
      (hahead : latest < caller.issuedAt) : IsFault now latest token expected .issuedInFuture
  | expired {caller : Key} (h : svc.codec.decode token = .ok caller)
      (hissued : caller.issuedAt ≤ latest) (hexpired : caller.isExpiredAt now = true) :
      IsFault now latest token expected .expired
  | wrongType {caller : Key} (h : svc.codec.decode token = .ok caller)
      (hcurrent : caller.IsCurrent now latest) (htype : caller.keyType ≠ expected) :
      IsFault now latest token expected .wrongKeyType

section

variable {now latest : Instant} {token : String} {expected : KeyType}

variable {svc} in
theorem IsCaller.caller_eq {caller : Key} (hlatest : now.after? svc.clockSkew = some latest)
    (h : svc.IsCaller now latest token expected caller) :
    svc.caller (.showing now) token expected = .ok caller := by
  obtain ⟨hdecode, hcurrent, htype⟩ := h
  exact svc.caller_eq_ok_iff.2 ⟨hdecode, ⟨now, latest, rfl, hlatest, hcurrent⟩, htype⟩

variable {svc} in
theorem IsFault.caller_eq {reason : Rejection} (hlatest : now.after? svc.clockSkew = some latest)
    (h : svc.IsFault now latest token expected reason) :
    svc.caller (.showing now) token expected = reject reason := by
  cases h with
  | missing h =>
    have hdecode : svc.decode token = reject .missingToken := if_pos h
    exact svc.caller_of_liveKey_eq_error (svc.liveKey_eq_error_iff.2 (.inl hdecode)) expected
  | @undecodable e _ hshown h hreason =>
    have hlive := svc.liveKey_of_decode_eq_error hshown h (.showing now)
    rw [svc.caller_of_liveKey_eq_error hlive, reject]
    cases e <;> cases hreason <;> rfl
  | ahead h hahead =>
    have hlive := svc.liveKey_of_decode h (Clock.shown_showing now) hlatest
    rw [if_pos hahead] at hlive
    exact svc.caller_of_liveKey_eq_error hlive expected
  | expired h hissued hexpired =>
    have hlive := svc.liveKey_of_decode h (Clock.shown_showing now) hlatest
    rw [if_neg (fun hahead => Instant.lt_iff_not_le.1 hahead hissued), if_pos hexpired] at hlive
    exact svc.caller_of_liveKey_eq_error hlive expected
  | @wrongType caller h hcurrent htype =>
    have hlive : svc.liveKey (.showing now) token = .ok caller :=
      svc.liveKey_eq_ok_iff.2 ⟨h, now, latest, rfl, hlatest, hcurrent⟩
    rw [Service.caller_eq, hlive]
    exact if_neg htype

/-- A token makes a caller, or there is a reason why not. -/
theorem exists_isCaller_or_isFault (now latest : Instant) (token : String) (expected : KeyType) :
    (∃ caller, svc.IsCaller now latest token expected caller) ∨
      ∃ reason, svc.IsFault now latest token expected reason := by
  by_cases hshown : token = ""
  · exact .inr ⟨_, .missing hshown⟩
  cases hdecode : svc.codec.decode token with
  | error e => cases e <;> exact .inr ⟨_, .undecodable hshown hdecode rfl⟩
  | ok caller =>
    by_cases hahead : latest < caller.issuedAt
    · exact .inr ⟨_, .ahead hdecode hahead⟩
    have hissued : caller.issuedAt ≤ latest := by
      rwa [Instant.lt_iff_not_le, Decidable.not_not] at hahead
    by_cases hexpired : caller.isExpiredAt now = true
    · exact .inr ⟨_, .expired hdecode hissued hexpired⟩
    have hcurrent : caller.IsCurrent now latest :=
      Key.isCurrent_iff.2 ⟨hissued, by simpa using hexpired⟩
    by_cases htype : caller.keyType = expected
    · exact .inl ⟨caller, hdecode, hcurrent, htype⟩
    · exact .inr ⟨_, .wrongType hdecode hcurrent htype⟩

end

end Service

/-! ## Backends -/

/-- What a service says of a call that brings no value, `purpose` being its name for the call. -/
def Reply.complaint? {ε α : Type} (purpose : String) (convert : ε → ServiceError) :
    Reply ε α → Option ServiceError
  | .value _ => none
  | .failure e => some (convert e)
  | .late => some (.unavailable (purpose ++ " timed out"))

namespace Service

variable {σ ε α : Type} (svc : Service)

theorem bounded_of_value {call : Call σ ε α} {s u : σ} {a : α}
    (h : call svc.backendTimeout s = (.value a, u)) (purpose : String)
    (convert : ε → ServiceError) : svc.bounded purpose convert call s = .ok a u :=
  svc.bounded_eq_ok_iff.2 h

theorem bounded_of_complaint {purpose : String} {convert : ε → ServiceError} {call : Call σ ε α}
    {s u : σ} {reply : Reply ε α} {e : ServiceError}
    (hcall : call svc.backendTimeout s = (reply, u))
    (he : reply.complaint? purpose convert = some e) :
    svc.bounded purpose convert call s = .error (.refused e) u := by
  rw [bounded, hcall]
  cases reply with
  | value a => cases he
  | failure e => cases he; rfl
  | late => cases he; rfl

/-! ## The table -/

/-- Whether a key that is asked for would end beyond the range of instants. An API key ends when the
request says. -/
def EndsBeyond (key : Key) : Prop :=
  match key.keyType with
  | .access | .refresh =>
    key.issuedAt.after? svc.accessLifetime = none ∨ key.issuedAt.after? svc.refreshLifetime = none
  | .recovery => key.issuedAt.after? svc.recoveryLifetime = none
  | .api => False

/-- Whether a request is the caller's to make: it is for a login, or for the caller itself, or the
policy agent takes the caller for an administrator. With the issuer of the key and the state in
which the backends are left. -/
inductive IsAdmitted (b : Backend σ) (now latest : Instant) (token : String) (key : Key) (s : σ) :
    String → σ → Prop where
  | login (htype : key.keyType = .access) : IsAdmitted b now latest token key s "" s
  | companion {caller : Key} (htype : key.keyType = .refresh)
      (hcaller : svc.IsCaller now latest token .refresh caller)
      (hown : caller.subject = key.subject) : IsAdmitted b now latest token key s "" s
  | own {caller : Key} (htype : key.keyType.persistence = .persisted)
      (hcaller : svc.IsCaller now latest token .access caller)
      (hown : caller.subject = key.subject) :
      IsAdmitted b now latest token key s caller.subject s
  | administered {caller : Key} {u : σ} (htype : key.keyType.persistence = .persisted)
      (hcaller : svc.IsCaller now latest token .access caller)
      (hother : caller.subject ≠ key.subject)
      (hcheck : Gateway.checkAdmin b.agent caller.subject svc.backendTimeout s = (.value (), u)) :
      IsAdmitted b now latest token key s caller.subject u

/-- What comes of a request without a flaw, and how the backends are left. -/
inductive IsDecided (b : Backend σ) (now latest : Instant) (token : String) (key : Key) (s : σ) :
    EStateM.Result Halt σ Token → Prop where
  | faultyToken {expected : KeyType} {reason : Rejection}
      (hexpected : callerType? key.keyType = some expected)
      (hfault : svc.IsFault now latest token expected reason) :
      IsDecided b now latest token key s (.error (.refused (.authentication reason)) s)
  | otherSubject {caller : Key} (htype : key.keyType = .refresh)
      (hcaller : svc.IsCaller now latest token .refresh caller)
      (hother : caller.subject ≠ key.subject) :
      IsDecided b now latest token key s (.error (.refused (.authentication .subjectMismatch)) s)
  | notAdmin {caller : Key} {reply : Reply PolicyError Unit} {e : ServiceError} {u : σ}
      (htype : key.keyType.persistence = .persisted)
      (hcaller : svc.IsCaller now latest token .access caller)
      (hother : caller.subject ≠ key.subject)
      (hcheck : Gateway.checkAdmin b.agent caller.subject svc.backendTimeout s = (reply, u))
      (he : reply.complaint? "check_admin" .ofPolicy = some e) :
      IsDecided b now latest token key s (.error (.refused e) u)
  | beyond {issuer : String} {u : σ} (hadmitted : svc.IsAdmitted b now latest token key s issuer u)
      (hbeyond : svc.EndsBeyond key) :
      IsDecided b now latest token key s
        (.error (.refused (.malformed "expiration out of range")) u)
  | minted {issuer : String} {accessEnd refreshEnd : Instant} {u : σ}
      (htype : key.keyType.persistence = .stateless)
      (hadmitted : svc.IsAdmitted b now latest token key s issuer u)
      (haccess : key.issuedAt.after? svc.accessLifetime = some accessEnd)
      (hrefresh : key.issuedAt.after? svc.refreshLifetime = some refreshEnd) :
      IsDecided b now latest token key s (.ok (.pair
        (svc.codec.encode (loginKey .access key.subject key.issuedAt accessEnd))
        (svc.codec.encode (loginKey .refresh key.subject key.issuedAt refreshEnd))) u)
  | notSaved {issuer : String} {expiresAt : Option Instant} {reply : Reply StoreError String}
      {e : ServiceError} {u v : σ} (htype : key.keyType.persistence = .persisted)
      (hadmitted : svc.IsAdmitted b now latest token key s issuer u)
      (hexpiry : svc.storedExpiry key = .ok expiresAt)
      (hsave : b.vault.save { key with id := none, issuer, expiresAt } svc.backendTimeout u
        = (reply, v))
      (he : reply.complaint? "save key" .ofStore = some e) :
      IsDecided b now latest token key s (.error (.refused e) v)
  | saved {issuer id : String} {expiresAt : Option Instant} {u v : σ}
      (htype : key.keyType.persistence = .persisted)
      (hadmitted : svc.IsAdmitted b now latest token key s issuer u)
      (hexpiry : svc.storedExpiry key = .ok expiresAt)
      (hsave : b.vault.save { key with id := none, issuer, expiresAt } svc.backendTimeout u
        = (.value id, v)) :
      IsDecided b now latest token key s
        (.ok (.persisted (svc.codec.encode { key with id := some id, issuer, expiresAt }) id) v)

/-! ## The course of an operation -/

/-- What is left to do for a request that is admitted. -/
def conclude (b : Backend σ) (key : Key) (issuer : String) : Action σ Token :=
  match key.keyType.persistence with
  | .stateless => settle (svc.loginPair key.subject key.issuedAt)
  | .persisted => do
    let expiresAt ← settle (svc.storedExpiry key)
    let record := { key with id := none, issuer, expiresAt }
    let id ← svc.bounded "save key" .ofStore (b.vault.save record)
    return svc.handOut record id

theorem conclude_of_stateless (b : Backend σ) {key : Key} (issuer : String)
    (h : key.keyType.persistence = .stateless) :
    svc.conclude b key issuer = settle (svc.loginPair key.subject key.issuedAt) := by
  rw [conclude, h]

theorem conclude_of_persisted (b : Backend σ) {key : Key} (issuer : String)
    (h : key.keyType.persistence = .persisted) :
    svc.conclude b key issuer = do
      let expiresAt ← settle (svc.storedExpiry key)
      let record := { key with id := none, issuer, expiresAt }
      let id ← svc.bounded "save key" .ofStore (b.vault.save record)
      return svc.handOut record id := by
  rw [conclude, h]

theorem issue_of_vet {b : Backend σ} {clock : Clock} {token : String} {key : Key}
    (hvet : svc.vet clock key = .ok ()) (htype : key.keyType.persistence = .persisted) :
    svc.issue b clock token key = svc.issueStored b clock token key := by
  rw [issue_eq, hvet, settle_ok_bind]
  cases heq : key.keyType with
  | access => rw [heq] at htype; cases htype
  | refresh => rw [heq] at htype; cases htype
  | recovery => rfl
  | api => rfl

theorem issueStored_of_caller {b : Backend σ} {clock : Clock} {token : String} {key caller : Key}
    (hcaller : svc.caller clock token .access = .ok caller)
    (htype : key.keyType.persistence = .persisted) :
    svc.issueStored b clock token key
      = ((if caller.subject ≠ key.subject then
          svc.bounded "check_admin" .ofPolicy (Gateway.checkAdmin b.agent caller.subject)
        else pure ()) >>= fun _ => svc.conclude b key caller.subject) := by
  rw [issueStored_eq, hcaller, settle_ok_bind, svc.conclude_of_persisted b _ htype]

/-- A request goes no further than its token. -/
theorem issue_of_caller_eq_error {b : Backend σ} {clock : Clock} {token : String} {key : Key}
    {expected : KeyType} {halt : Halt} (hvet : svc.vet clock key = .ok ())
    (hexpected : callerType? key.keyType = some expected)
    (h : svc.caller clock token expected = .error halt) (s : σ) :
    svc.issue b clock token key s = .error halt s := by
  rw [issue_eq, hvet, settle_ok_bind]
  cases htype : key.keyType with
  | access =>
    rw [htype] at hexpected
    cases hexpected
  | refresh =>
    rw [htype] at hexpected
    cases hexpected
    rw [h]
    rfl
  | api | recovery =>
    rw [htype] at hexpected
    cases hexpected
    exact settle_bind_of_error h _ s

theorem storedExpiry_eq_map {key : Key} (htype : key.keyType = .recovery) :
    svc.storedExpiry key = some <$> expiry key.issuedAt svc.recoveryLifetime := by
  rw [storedExpiry, htype]

/-- A key that would end beyond the range of instants is refused before it is stored. -/
theorem conclude_of_endsBeyond (b : Backend σ) {key : Key} (issuer : String)
    (h : svc.EndsBeyond key) (u : σ) :
    svc.conclude b key issuer u
      = .error (.refused (.malformed "expiration out of range")) u := by
  rw [EndsBeyond] at h
  cases htype : key.keyType with
  | access =>
    rw [htype] at h
    rw [svc.conclude_of_stateless b _ (stateless_iff.2 (.inl htype)),
      svc.loginPair_of_after?_eq_none h, settle_error]
  | refresh =>
    rw [htype] at h
    rw [svc.conclude_of_stateless b _ (stateless_iff.2 (.inr htype)),
      svc.loginPair_of_after?_eq_none h, settle_error]
  | recovery =>
    rw [htype] at h
    have hexpiry : svc.storedExpiry key = malformed "expiration out of range" := by
      rw [svc.storedExpiry_eq_map htype, expiry, h]
      rfl
    rw [svc.conclude_of_persisted b _ (persisted_iff.2 (.inr htype))]
    exact settle_bind_of_error hexpiry _ u
  | api =>
    rw [htype] at h
    exact h.elim

theorem exists_storedExpiry {key : Key} (htype : key.keyType.persistence = .persisted)
    (h : ¬ svc.EndsBeyond key) : ∃ expiresAt, svc.storedExpiry key = .ok expiresAt := by
  rw [EndsBeyond] at h
  obtain heq | heq := persisted_iff.1 htype
  · exact ⟨_, svc.storedExpiry_of_api heq⟩
  · rw [heq] at h
    obtain ⟨ending, hending⟩ := Option.ne_none_iff_exists'.1 h
    refine ⟨some ending, ?_⟩
    rw [svc.storedExpiry_eq_map heq, expiry_eq_ok_iff.2 hending]
    rfl

variable {svc} {b : Backend σ} {now latest : Instant} {token : String} {key : Key} {s : σ}

/-- A request that is admitted goes on where its admission left off. -/
theorem IsAdmitted.issue_eq {u : σ} {issuer : String}
    (hlatest : now.after? svc.clockSkew = some latest)
    (hvet : svc.vet (.showing now) key = .ok ())
    (h : svc.IsAdmitted b now latest token key s issuer u) :
    svc.issue b (.showing now) token key s = svc.conclude b key issuer u := by
  cases h with
  | login htype =>
    rw [svc.conclude_of_stateless b _ (stateless_iff.2 (.inl htype)), Service.issue_eq, hvet,
      settle_ok_bind, htype]
  | companion htype hcaller hown =>
    rw [svc.conclude_of_stateless b _ (stateless_iff.2 (.inr htype)), Service.issue_eq, hvet,
      settle_ok_bind, htype, hcaller.caller_eq hlatest]
    simp only [bind, Except.bind, if_neg (not_not_intro hown)]
  | own htype hcaller hown =>
    rw [svc.issue_of_vet hvet htype, svc.issueStored_of_caller (hcaller.caller_eq hlatest) htype,
      if_neg (not_not_intro hown)]
    rfl
  | administered htype hcaller hother hcheck =>
    have hpermitted := svc.bounded_of_value hcheck "check_admin" .ofPolicy
    rw [svc.issue_of_vet hvet htype, svc.issueStored_of_caller (hcaller.caller_eq hlatest) htype,
      if_pos hother]
    simp only [bind, EStateM.bind, hpermitted]

/-- A request comes to nothing but what the table says. -/
theorem IsDecided.issue_eq {r : EStateM.Result Halt σ Token}
    (hlatest : now.after? svc.clockSkew = some latest)
    (hvet : svc.vet (.showing now) key = .ok ())
    (h : svc.IsDecided b now latest token key s r) :
    svc.issue b (.showing now) token key s = r := by
  cases h with
  | faultyToken hexpected hfault =>
    exact svc.issue_of_caller_eq_error hvet hexpected (hfault.caller_eq hlatest) s
  | otherSubject htype hcaller hother =>
    rw [Service.issue_eq, hvet, settle_ok_bind, htype, hcaller.caller_eq hlatest]
    simp only [bind, Except.bind, if_pos hother]
    rfl
  | notAdmin htype hcaller hother hcheck he =>
    have hrefused := svc.bounded_of_complaint hcheck he
    rw [svc.issue_of_vet hvet htype, svc.issueStored_of_caller (hcaller.caller_eq hlatest) htype,
      if_pos hother]
    simp only [bind, EStateM.bind, hrefused]
  | beyond hadmitted hbeyond =>
    rw [hadmitted.issue_eq hlatest hvet, svc.conclude_of_endsBeyond b _ hbeyond]
  | minted htype hadmitted haccess hrefresh =>
    rw [hadmitted.issue_eq hlatest hvet, svc.conclude_of_stateless b _ htype,
      svc.loginPair_of_after? haccess hrefresh, settle_ok]
  | notSaved htype hadmitted hexpiry hsave he =>
    have hrefused := svc.bounded_of_complaint hsave he
    rw [hadmitted.issue_eq hlatest hvet, svc.conclude_of_persisted b _ htype, hexpiry,
      settle_ok_bind]
    simp only [bind, EStateM.bind, hrefused]
  | saved htype hadmitted hexpiry hsave =>
    have hsaved := svc.bounded_of_value hsave "save key" .ofStore
    rw [hadmitted.issue_eq hlatest hvet, svc.conclude_of_persisted b _ htype, hexpiry,
      settle_ok_bind]
    simp only [bind, EStateM.bind, hsaved]
    rfl

/-- What is admitted is decided. -/
theorem IsAdmitted.exists_isDecided {u : σ} {issuer : String}
    (h : svc.IsAdmitted b now latest token key s issuer u) :
    ∃ r, svc.IsDecided b now latest token key s r := by
  by_cases hbeyond : svc.EndsBeyond key
  · exact ⟨_, .beyond h hbeyond⟩
  cases htype : key.keyType.persistence with
  | stateless =>
    have hends : ¬ (key.issuedAt.after? svc.accessLifetime = none ∨
        key.issuedAt.after? svc.refreshLifetime = none) := by
      rw [EndsBeyond] at hbeyond
      obtain heq | heq := stateless_iff.1 htype
      · rwa [heq] at hbeyond
      · rwa [heq] at hbeyond
    obtain ⟨haccess, hrefresh⟩ := not_or.1 hends
    obtain ⟨accessEnd, haccess⟩ := Option.ne_none_iff_exists'.1 haccess
    obtain ⟨refreshEnd, hrefresh⟩ := Option.ne_none_iff_exists'.1 hrefresh
    exact ⟨_, .minted htype h haccess hrefresh⟩
  | persisted =>
    obtain ⟨expiresAt, hexpiry⟩ := svc.exists_storedExpiry htype hbeyond
    cases hsave : b.vault.save { key with id := none, issuer, expiresAt } svc.backendTimeout u with
    | mk reply v =>
      cases reply with
      | value id => exact ⟨_, .saved htype h hexpiry hsave⟩
      | failure e => exact ⟨_, .notSaved htype h hexpiry hsave rfl⟩
      | late => exact ⟨_, .notSaved htype h hexpiry hsave rfl⟩

theorem callerType?_of_persisted {keyType : KeyType} (h : keyType.persistence = .persisted) :
    callerType? keyType = some .access := by
  cases keyType with
  | api => rfl
  | recovery => rfl
  | access => cases h
  | refresh => cases h

theorem exists_isDecided_of_refresh (htype : key.keyType = .refresh) :
    ∃ r, svc.IsDecided b now latest token key s r := by
  obtain ⟨caller, hcaller⟩ | ⟨reason, hfault⟩ :=
    svc.exists_isCaller_or_isFault now latest token .refresh
  · by_cases hown : caller.subject = key.subject
    · exact (IsAdmitted.companion htype hcaller hown).exists_isDecided
    · exact ⟨_, .otherSubject htype hcaller hown⟩
  · exact ⟨_, .faultyToken (by rw [htype]; rfl) hfault⟩

theorem exists_isDecided_of_persisted (htype : key.keyType.persistence = .persisted) :
    ∃ r, svc.IsDecided b now latest token key s r := by
  obtain ⟨caller, hcaller⟩ | ⟨reason, hfault⟩ :=
    svc.exists_isCaller_or_isFault now latest token .access
  · by_cases hown : caller.subject = key.subject
    · exact (IsAdmitted.own htype hcaller hown).exists_isDecided
    cases hcheck : Gateway.checkAdmin b.agent caller.subject svc.backendTimeout s with
    | mk reply u =>
      cases reply with
      | value verdict => exact (IsAdmitted.administered htype hcaller hown hcheck).exists_isDecided
      | failure e => exact ⟨_, .notAdmin htype hcaller hown hcheck rfl⟩
      | late => exact ⟨_, .notAdmin htype hcaller hown hcheck rfl⟩
  · exact ⟨_, .faultyToken (callerType?_of_persisted htype) hfault⟩

/-- The table leaves nothing open. -/
theorem exists_isDecided (svc : Service) (b : Backend σ) (now latest : Instant) (token : String)
    (key : Key) (s : σ) : ∃ r, svc.IsDecided b now latest token key s r := by
  cases htype : key.keyType with
  | access => exact (IsAdmitted.login htype).exists_isDecided
  | refresh => exact exists_isDecided_of_refresh htype
  | api => exact exists_isDecided_of_persisted (persisted_iff.2 (.inl htype))
  | recovery => exact exists_isDecided_of_persisted (persisted_iff.2 (.inr htype))

/-- A request without a flaw comes to what the table says. -/
theorem issue_eq_iff_isDecided (hlatest : now.after? svc.clockSkew = some latest)
    (hvet : svc.vet (.showing now) key = .ok ()) {r : EStateM.Result Halt σ Token} :
    svc.issue b (.showing now) token key s = r ↔ svc.IsDecided b now latest token key s r := by
  refine ⟨?_, fun h => h.issue_eq hlatest hvet⟩
  rintro rfl
  obtain ⟨r, hr⟩ := exists_isDecided svc b now latest token key s
  rwa [hr.issue_eq hlatest hvet]

/-! ## Backends in memory -/

/-- A policy agent in memory does not find fault with the question whether a caller is an
administrator. -/
theorem complaint_checkAdmin_ne_malformed {drawn subject text : String} (h : subject ≠ "")
    {limit : Duration} {w v : World} {reply : Reply PolicyError Unit}
    (hcheck : Gateway.checkAdmin (World.backend drawn).agent subject limit w = (reply, v)) :
    reply.complaint? "check_admin" .ofPolicy ≠ some (.malformed text) := by
  rw [Gateway.checkAdmin, World.authorize_apply,
    Relations.ruling_of_complete (Relationship.isIncomplete_admin h)] at hcheck
  cases hcheck
  cases w.relations.available with
  | false => nofun
  | true => cases w.relations.holds (.admin subject) <;> nofun

/-- Nor does a key store in memory find fault with a record. -/
theorem complaint_save_ne_malformed {drawn text : String} {record : Key} {limit : Duration}
    {w v : World} {reply : Reply StoreError String}
    (hsave : (World.backend drawn).vault.save record limit w = (reply, v)) :
    reply.complaint? "save key" .ofStore ≠ some (.malformed text) := by
  rw [World.save_apply] at hsave
  cases hsave
  by_cases htaken : w.keys.IsTaken (record.id.getD drawn)
  · rw [KeyStore.save_of_isTaken htaken]
    nofun
  · rw [KeyStore.save_of_not_isTaken htaken]
    nofun

/-- With backends in memory a request without a flaw is malformed only for its end. -/
theorem endsBeyond_of_malformed {drawn text : String} {w v : World}
    (h : svc.IsDecided (World.backend drawn) now latest token key w
      (.error (.refused (.malformed text)) v)) :
    text = "expiration out of range" ∧ svc.EndsBeyond key := by
  cases h with
  | notAdmin htype hcaller hother hcheck he =>
    exact absurd he (complaint_checkAdmin_ne_malformed (svc.subject_of_decode hcaller.1) hcheck)
  | beyond hadmitted hbeyond => exact ⟨rfl, hbeyond⟩
  | notSaved htype hadmitted hexpiry hsave he =>
    exact absurd he (complaint_save_ne_malformed hsave)

/-! ## The order of judgement -/

/-- Requests are judged first, and exactly. A request with a flaw is refused for the first one that
it has, whatever token it comes with and whatever the backends are and hold, and nothing is changed.
All that can come of any other request is told by `IsDecided`: first the token is judged, then the
subject, for which the policy agent may be asked, then the end of the key, and the store comes last.
With backends in memory such a request is called malformed only if its key would end beyond the
range of instants. -/
theorem requests_are_judged_first (svc : Service) {now latest : Instant}
    (hlatest : now.after? svc.clockSkew = some latest) (key : Key) :
    (∀ flaw, RequestFlaw.first? latest key = some flaw →
      ∀ (σ : Type) (b : Backend σ) (token : String) (s : σ),
        svc.issue b (.showing now) token key s
          = .error (.refused (.malformed flaw.text)) s) ∧
    (RequestFlaw.first? latest key = none →
      (∀ (σ : Type) (b : Backend σ) (token : String) (s : σ) r,
        svc.issue b (.showing now) token key s = r ↔
          svc.IsDecided b now latest token key s r) ∧
      ∀ drawn token text w v,
        svc.issue (World.backend drawn) (.showing now) token key w
          = .error (.refused (.malformed text)) v →
        text = "expiration out of range" ∧ svc.EndsBeyond key) := by
  have hvet := svc.vet_showing hlatest key
  constructor
  · intro flaw hflaw σ b token s
    rw [hflaw] at hvet
    rw [Service.issue_eq]
    exact settle_bind_of_error hvet _ s
  · intro hflawless
    rw [hflawless] at hvet
    refine ⟨fun σ b token s r => issue_eq_iff_isDecided hlatest hvet, ?_⟩
    intro drawn token text w v hmalformed
    exact endsBeyond_of_malformed ((issue_eq_iff_isDecided hlatest hvet).1 hmalformed)

/-- Without a token Alice is told of that, unless there is something wrong with her request. -/
theorem requests_are_judged_first_for_alice :
    let b := World.backend "k"
    morning.after? usual.clockSkew = some morningTolerance ∧
      usual.issue b (.showing morning) "" { standingKey with issuedAt := .epoch } {}
        = .error (.refused (.malformed "missing issue time")) {} ∧
      usual.issue b (.showing morning) "" standingKey {}
        = .error (.refused (.authentication .missingToken)) {} := by
  intro b
  have hlatest : morning.after? usual.clockSkew = some morningTolerance := rfl
  have hflawed := usual.requests_are_judged_first hlatest { standingKey with issuedAt := .epoch }
  have hflawless := usual.requests_are_judged_first hlatest standingKey
  refine ⟨hlatest, hflawed.1 .noIssueTime (by decide) World b "" {}, ?_⟩
  have hdecided := (hflawless.2 (by decide)).1
  exact (hdecided World b "" {} _).2 (.faultyToken rfl (.missing rfl))

end Service

end Credentials
