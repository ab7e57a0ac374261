import Credentials.Proofs.Service.InMemory

/-!
# Issuing with backends in memory

A request is granted or refused before the key store is asked; what is granted is
the record to be filed. Login keys need no backend at all.
-/

namespace Credentials

/-- A request for a key with nothing wrong in it, if issue times are tolerated up to `latest`. -/
structure Key.IsValidRequest (key : Key) (latest : Instant) : Prop where
  subject_ne : key.subject ≠ ""
  dated : key.issuedAt ≠ .epoch
  issued : key.issuedAt ≤ latest
  viable : key.keyType = .api → ∀ expiry, key.expiresAt = some expiry → key.issuedAt < expiry

namespace Service

variable (svc : Service) (drawn : String) (w : World)

/-- Whether a caller may have a key issued for a subject: its own, or any if it administers the
platform. -/
def permit (relations : Relations) (caller subject : String) : Except Halt Unit :=
  if caller ≠ subject then refusing .ofPolicy (relations.ruling (.admin caller)) else .ok ()

theorem permit_eq_ok_iff {relations : Relations} {caller subject : String} :
    permit relations caller subject = .ok () ↔
      (caller ≠ subject → (Relationship.admin caller).isIncomplete = false ∧
        relations.available = true ∧ relations.holds (.admin caller) = true) := by
  rw [permit]
  split
  · next h => simp [refusing_eq_ok_iff, Relations.ruling_eq_ok_iff, h]
  · next h => simp [h]

/-- The record that is filed for a valid request, if the caller may have it. -/
def entitle (relations : Relations) (clock : Clock) (token : String) (key : Key) :
    Except Halt Key := do
  let caller ← svc.caller clock token .access
  permit relations caller.subject key.subject
  let expiresAt ← svc.storedExpiry key
  return { key with id := none, issuer := caller.subject, expiresAt }

/-- The token of a record under the id that the store gave it. -/
def handOut (record : Key) (id : String) : Token :=
  .persisted (svc.codec.encode { record with id := some id }) id

/-- Files a record and hands out its token. -/
def fileRecord (record : Key) : EStateM.Result Halt World Token :=
  settle (svc.handOut record <$> refusing .ofStore (w.keys.save drawn record).1)
    { w with keys := (w.keys.save drawn record).2 }

theorem fileRecord_of_isTaken {drawn : String} {w : World} {record : Key} (hid : record.id = none)
    (h : w.keys.IsTaken drawn) :
    svc.fileRecord drawn w record = .error (.refused .conflict) w := by
  have htaken : w.keys.IsTaken (record.id.getD drawn) := by
    rw [hid]
    exact h
  rw [fileRecord, KeyStore.save_of_isTaken htaken]
  rfl

theorem fileRecord_of_not_isTaken {drawn : String} {w : World} {record : Key} (hid : record.id = none)
    (h : ¬ w.keys.IsTaken drawn) :
    svc.fileRecord drawn w record
      = .ok (svc.handOut record drawn) { w with keys := w.keys.file drawn record } := by
  have hfree : ¬ w.keys.IsTaken (record.id.getD drawn) := by
    rw [hid]
    exact h
  rw [fileRecord, KeyStore.save_of_not_isTaken hfree, hid]
  rfl

theorem save_inMemory (record : Key) :
    (svc.bounded "save key" .ofStore ((World.backend drawn).vault.save record) >>= fun id =>
      pure (svc.handOut record id)) w = svc.fileRecord drawn w record := by
  have hcall := svc.bounded_of_answer (World.save_apply drawn svc.backendTimeout w record)
    "save key" .ofStore
  simp only [bind, EStateM.bind, hcall, fileRecord]
  cases (w.keys.save drawn record).1 <;> rfl

theorem checkAdmin_inMemory (caller subject : String) :
    (if caller ≠ subject then
        svc.bounded "check_admin" .ofPolicy (Gateway.checkAdmin (World.backend drawn).agent caller)
      else pure ()) w = settle (permit w.relations caller subject) w := by
  rw [permit]
  by_cases h : caller ≠ subject
  · simp only [if_pos h]
    exact svc.bounded_of_answer (World.authorize_apply drawn _ w (.admin caller)) _ _
  · simp only [if_neg h]
    rfl

theorem issueStored_eq {σ : Type} (b : Backend σ) (clock : Clock) (token : String) (key : Key) :
    svc.issueStored b clock token key = do
      let caller ← settle (svc.caller clock token .access)
      (if caller.subject ≠ key.subject then
        svc.bounded "check_admin" .ofPolicy (Gateway.checkAdmin b.agent caller.subject)
      else pure ())
      let expiresAt ← settle (svc.storedExpiry key)
      let record := { key with id := none, issuer := caller.subject, expiresAt }
      let id ← svc.bounded "save key" .ofStore (b.vault.save record)
      return svc.handOut record id := by
  -- the check for admin rights is followed by the same steps in both branches
  rw [issueStored]
  refine bind_congr fun caller => ?_
  by_cases h : caller.subject ≠ key.subject
  · simp only [if_pos h]
    rfl
  · simp only [if_neg h]
    rfl

/-- What a stored key takes to be issued, whatever the backends are: a live login, which has to be
an administrator's if the key is for somebody else. -/
theorem issueStored_eq_ok {σ : Type} {b : Backend σ} {clock : Clock} {token : String} {key : Key}
    {s u : σ} {t : Token} (h : svc.issueStored b clock token key s = .ok t u) :
    ∃ caller expiresAt id, svc.caller clock token .access = .ok caller ∧
      svc.storedExpiry key = .ok expiresAt ∧
      (key.subject = caller.subject ∨ ∃ v,
        Gateway.checkAdmin b.agent caller.subject svc.backendTimeout s = (.value (), v)) ∧
      t = svc.handOut { key with id := none, issuer := caller.subject, expiresAt } id := by
  rw [issueStored_eq] at h
  obtain ⟨caller, hcaller, h⟩ := settle_bind_eq_ok_iff.1 h
  obtain ⟨_, v, hadmin, h⟩ := seq_eq_ok_iff.1 h
  obtain ⟨expiresAt, hexpiry, h⟩ := settle_bind_eq_ok_iff.1 h
  obtain ⟨id, w, -, h⟩ := seq_eq_ok_iff.1 h
  refine ⟨caller, expiresAt, id, hcaller, hexpiry, ?_, ?_⟩
  · split at hadmin
    · exact .inr ⟨v, svc.bounded_eq_ok_iff.1 hadmin⟩
    · next hsame => exact .inl (by simpa [eq_comm] using hsame)
  · obtain ⟨ht, -⟩ := EStateM.Result.ok.inj h
    exact ht.symm

theorem issueStored_inMemory (clock : Clock) (token : String) (key : Key) :
    svc.issueStored (World.backend drawn) clock token key w =
      match svc.entitle w.relations clock token key with
      | .error h => .error h w
      | .ok record => svc.fileRecord drawn w record := by
  rw [issueStored_eq, entitle, settle_bind]
  cases svc.caller clock token .access with
  | error h => rfl
  | ok caller =>
    have hcheck := svc.checkAdmin_inMemory drawn w caller.subject key.subject
    simp only [bind, EStateM.bind, Except.bind, hcheck]
    cases permit w.relations caller.subject key.subject with
    | error h => rfl
    | ok _ =>
      cases svc.storedExpiry key with
      | error h => rfl
      | ok expiresAt => exact svc.save_inMemory drawn w _

/-! ## Requests -/

/-- Whether a request is valid by a clock. -/
def vet (clock : Clock) (key : Key) : Except Halt Unit := do
  svc.validateRequest (← look clock) key

theorem horizon_eq_ok_iff {now latest : Instant} :
    svc.horizon now = .ok latest ↔ now.after? svc.clockSkew = some latest := by
  rw [horizon]
  cases now.after? svc.clockSkew <;> simp

theorem horizon_eq_error_iff {now : Instant} {halt : Halt} :
    svc.horizon now = .error halt ↔ now.after? svc.clockSkew = none ∧ halt = .clockOutOfRange := by
  rw [horizon]
  cases now.after? svc.clockSkew <;> simp [eq_comm]

theorem isStillborn_eq_false_iff {key : Key} :
    isStillborn key = false ↔ ∀ expiry, key.expiresAt = some expiry → key.issuedAt < expiry := by
  rw [isStillborn]
  cases key.expiresAt <;> simp [Instant.lt_iff_not_le]

theorem malformed_or_eq_ok_iff {α : Type} {flaw : Prop} [Decidable flaw] {text : String}
    {x : Except Halt α} {a : α} :
    (if flaw then malformed text else x) = .ok a ↔ ¬ flaw ∧ x = .ok a := by
  split <;> simp [malformed, *]

theorem malformed_or_eq_error {α : Type} {flaw : Prop} [Decidable flaw] {text : String}
    {x : Except Halt α} {halt : Halt} (h : (if flaw then malformed text else x) = .error halt) :
    halt = .refused (.malformed text) ∨ x = .error halt := by
  split at h
  · cases h
    exact .inl rfl
  · exact .inr h

/-- A request that is checked at a time is valid exactly if the tolerance can be added to the time
and nothing is wrong with the request by then. -/
theorem validateRequest_eq_ok_iff {now : Instant} {key : Key} :
    svc.validateRequest now key = .ok () ↔
      ∃ latest, now.after? svc.clockSkew = some latest ∧ key.IsValidRequest latest := by
  simp only [validateRequest, malformed_or_eq_ok_iff, bind_eq_ok_iff, horizon_eq_ok_iff,
    Instant.lt_iff_not_le, Key.hasIssueTime, Bool.not_eq_true', Decidable.not_not, and_true]
  constructor
  · rintro ⟨hsubject, hdated, latest, hlatest, hissued, hviable⟩
    refine ⟨latest, hlatest, hsubject, by simpa using hdated, hissued, fun htype => ?_⟩
    exact isStillborn_eq_false_iff.1 (by simpa [htype] using hviable)
  · rintro ⟨latest, hlatest, hvalid⟩
    refine ⟨hvalid.subject_ne, by simpa using hvalid.dated, latest, hlatest, hvalid.issued, ?_⟩
    rintro ⟨htype, hstillborn⟩
    rw [isStillborn_eq_false_iff.2 (hvalid.viable htype)] at hstillborn
    cases hstillborn

theorem vet_eq_ok_iff {clock : Clock} {key : Key} :
    svc.vet clock key = .ok () ↔ ∃ now latest, clock.shown = some now ∧
      now.after? svc.clockSkew = some latest ∧ key.IsValidRequest latest := by
  simp only [vet, bind_eq_ok_iff, look_eq_ok_iff, validateRequest_eq_ok_iff, exists_and_left]

/-- A request is refused for what it says, unless the clock is of no use. -/
theorem vet_eq_error {clock : Clock} {key : Key} {halt : Halt}
    (h : svc.vet clock key = .error halt) :
    halt = .clockOutOfRange ∨ ∃ text, halt = .refused (.malformed text) := by
  obtain hlook | ⟨now, -, hrequest⟩ := bind_eq_error_iff.1 h
  · exact .inl (look_eq_error_iff.1 hlook).2
  obtain hflaw | hrequest := malformed_or_eq_error hrequest
  · exact .inr ⟨_, hflaw⟩
  obtain hflaw | hrequest := malformed_or_eq_error hrequest
  · exact .inr ⟨_, hflaw⟩
  obtain hhorizon | ⟨latest, -, hrequest⟩ := bind_eq_error_iff.1 hrequest
  · exact .inl (svc.horizon_eq_error_iff.1 hhorizon).2
  obtain hflaw | hrequest := malformed_or_eq_error hrequest
  · exact .inr ⟨_, hflaw⟩
  obtain hflaw | hrequest := malformed_or_eq_error hrequest
  · exact .inr ⟨_, hflaw⟩
  · cases hrequest

theorem subject_of_vet {clock : Clock} {key : Key} (h : svc.vet clock key = .ok ()) :
    key.subject ≠ "" := by
  obtain ⟨now, latest, -, -, hvalid⟩ := svc.vet_eq_ok_iff.1 h
  exact hvalid.subject_ne

/-- The record that is filed for a request for a stored key. -/
def grant (relations : Relations) (clock : Clock) (token : String) (key : Key) :
    Except Halt Key := do
  svc.vet clock key
  svc.entitle relations clock token key

/-- What is granted is the request, filed for the caller and with an expiry of its own. -/
theorem grant_eq_ok_iff {relations : Relations} {clock : Clock} {token : String} {key record : Key} :
    svc.grant relations clock token key = .ok record ↔
      svc.vet clock key = .ok () ∧ ∃ caller expiresAt,
        svc.caller clock token .access = .ok caller ∧
        permit relations caller.subject key.subject = .ok () ∧
        svc.storedExpiry key = .ok expiresAt ∧
        record = { key with id := none, issuer := caller.subject, expiresAt } := by
  simp only [grant, entitle, bind_eq_ok_iff]
  constructor
  · rintro ⟨⟨⟩, hvet, caller, hcaller, ⟨⟩, hpermit, expiresAt, hexpiry, hrecord⟩
    cases hrecord
    exact ⟨hvet, caller, expiresAt, hcaller, hpermit, hexpiry, rfl⟩
  · rintro ⟨hvet, caller, expiresAt, hcaller, hpermit, hexpiry, rfl⟩
    exact ⟨(), hvet, caller, hcaller, (), hpermit, expiresAt, hexpiry, rfl⟩

theorem id_of_grant {relations : Relations} {clock : Clock} {token : String} {key record : Key}
    (h : svc.grant relations clock token key = .ok record) : record.id = none := by
  obtain ⟨-, caller, expiresAt, -, -, -, rfl⟩ := svc.grant_eq_ok_iff.1 h
  rfl

theorem expiry_eq_ok_iff {issuedAt t : Instant} {lifetime : Duration} :
    expiry issuedAt lifetime = .ok t ↔ issuedAt.after? lifetime = some t := by
  rw [expiry]
  cases issuedAt.after? lifetime <;> simp [malformed]

theorem loginPair_eq_ok_iff {subject : String} {issuedAt : Instant} {t : Token} :
    svc.loginPair subject issuedAt = .ok t ↔ ∃ accessExpiry refreshExpiry,
      expiry issuedAt svc.accessLifetime = .ok accessExpiry ∧
      expiry issuedAt svc.refreshLifetime = .ok refreshExpiry ∧
      t = .pair
        (svc.codec.encode { keyType := .access, subject, issuedAt, expiresAt := some accessExpiry })
        (svc.codec.encode
          { keyType := .refresh, subject, issuedAt, expiresAt := some refreshExpiry }) := by
  simp only [loginPair, bind_eq_ok_iff]
  constructor
  · rintro ⟨accessExpiry, haccess, refreshExpiry, hrefresh, ht⟩
    exact ⟨accessExpiry, refreshExpiry, haccess, hrefresh, (Except.ok.inj ht).symm⟩
  · rintro ⟨accessExpiry, refreshExpiry, haccess, hrefresh, rfl⟩
    exact ⟨accessExpiry, haccess, refreshExpiry, hrefresh, rfl⟩

/-- The answer to a request for login keys. -/
def login (clock : Clock) (token : String) (key : Key) : Except Halt Token := do
  svc.vet clock key
  if key.keyType = .refresh then
    let caller ← svc.caller clock token .refresh
    if caller.subject ≠ key.subject then reject .subjectMismatch
    else svc.loginPair key.subject key.issuedAt
  else svc.loginPair key.subject key.issuedAt

theorem loginPair_of_login {clock : Clock} {token : String} {key : Key} {t : Token}
    (h : svc.login clock token key = .ok t) :
    svc.loginPair key.subject key.issuedAt = .ok t ∧ (key.keyType = .refresh →
      ∃ caller, svc.caller clock token .refresh = .ok caller ∧ caller.subject = key.subject) := by
  obtain ⟨-, -, h⟩ := bind_eq_ok_iff.1 h
  split at h
  · obtain ⟨caller, hcaller, h⟩ := bind_eq_ok_iff.1 h
    split at h
    · cases h
    · next hsame =>
      have hown : caller.subject = key.subject := by simpa using hsame
      exact ⟨h, fun _ => ⟨caller, hcaller, hown⟩⟩
  · next htype => exact ⟨h, fun heq => absurd heq htype⟩

theorem loginPair_of_exchange {clock : Clock} {token : String} {t : Token}
    (h : svc.exchange clock token = .ok t) :
    ∃ caller now, svc.caller clock token .refresh = .ok caller ∧ clock.shown = some now ∧
      svc.loginPair caller.subject now = .ok t := by
  obtain ⟨caller, hcaller, hlogin⟩ := bind_eq_ok_iff.1 h
  obtain ⟨now, hnow, hlogin⟩ := bind_eq_ok_iff.1 hlogin
  exact ⟨caller, now, hcaller, look_eq_ok_iff.1 hnow, hlogin⟩

theorem issue_eq {σ : Type} (b : Backend σ) (clock : Clock) (token : String) (key : Key) :
    svc.issue b clock token key = (settle (svc.vet clock key) >>= fun _ =>
      match key.keyType with
      | .access => settle (svc.loginPair key.subject key.issuedAt)
      | .refresh => settle (svc.caller clock token .refresh >>= fun caller =>
          if caller.subject ≠ key.subject then reject .subjectMismatch
          else svc.loginPair key.subject key.issuedAt)
      | .api | .recovery => svc.issueStored b clock token key) := by
  rw [issue, vet]
  simp only [← settle_bind_settle, bind_assoc]
  refine bind_congr fun now => bind_congr fun _ => ?_
  cases key.keyType with
  | access => rfl
  | refresh =>
    refine bind_congr fun caller => ?_
    split <;> rfl
  | recovery => rfl
  | api => rfl

theorem issueStored_of_issue {σ : Type} {b : Backend σ} {clock : Clock} {token : String}
    {key : Key} {s u : σ} {t : Token} (htype : key.keyType.persistence = .persisted)
    (h : svc.issue b clock token key s = .ok t u) :
    svc.vet clock key = .ok () ∧ svc.issueStored b clock token key s = .ok t u := by
  rw [issue_eq] at h
  obtain ⟨_, hvet, h⟩ := settle_bind_eq_ok_iff.1 h
  refine ⟨hvet, ?_⟩
  rcases persisted_iff.1 htype with heq | heq
  · rw [heq] at h
    exact h
  · rw [heq] at h
    exact h

/-- A request for a stored key files what is granted. -/
theorem issue_of_persisted {key : Key} (h : key.keyType.persistence = .persisted) (clock : Clock)
    (token : String) :
    svc.issue (World.backend drawn) clock token key w =
      match svc.grant w.relations clock token key with
      | .error h => .error h w
      | .ok record => svc.fileRecord drawn w record := by
  rw [issue_eq, grant, settle_bind]
  cases svc.vet clock key with
  | error h => rfl
  | ok _ =>
    have hstored := svc.issueStored_inMemory drawn w clock token key
    cases htype : key.keyType with
    | access => rw [htype] at h; cases h
    | refresh => rw [htype] at h; cases h
    | recovery => exact hstored
    | api => exact hstored

/-- A request for a stored key succeeds exactly if it is granted and the drawn id was never
taken; then the record is filed under that id. -/
theorem issue_eq_ok_iff {key : Key} (h : key.keyType.persistence = .persisted) {clock : Clock}
    {token : String} {t : Token} {v : World} :
    svc.issue (World.backend drawn) clock token key w = .ok t v ↔
      ∃ record, svc.grant w.relations clock token key = .ok record ∧ ¬ w.keys.IsTaken drawn ∧
        t = svc.handOut record drawn ∧ v = { w with keys := w.keys.file drawn record } := by
  rw [svc.issue_of_persisted drawn w h]
  cases hgrant : svc.grant w.relations clock token key with
  | error halt => simp
  | ok record =>
    have hid : record.id = none := svc.id_of_grant hgrant
    simp only [Except.ok.injEq, exists_eq_left']
    by_cases htaken : w.keys.IsTaken drawn
    · rw [svc.fileRecord_of_isTaken hid htaken]
      constructor
      · intro heq
        cases heq
      · rintro ⟨hfree, -⟩
        exact absurd htaken hfree
    · rw [svc.fileRecord_of_not_isTaken hid htaken, EStateM.Result.ok.injEq, eq_comm (b := t),
        eq_comm (b := v)]
      exact ⟨fun heq => ⟨htaken, heq⟩, fun heq => heq.2⟩

/-- A request for login keys leaves the backends alone. -/
theorem issue_of_stateless {σ : Type} (s : σ) {key : Key}
    (h : key.keyType.persistence = .stateless) (clock : Clock) (token : String) (b : Backend σ) :
    svc.issue b clock token key s = settle (svc.login clock token key) s := by
  rw [issue_eq, login, settle_bind]
  cases svc.vet clock key with
  | error h => rfl
  | ok _ =>
    cases htype : key.keyType with
    | access => rfl
    | refresh => rfl
    | recovery => rw [htype] at h; cases h
    | api => rw [htype] at h; cases h

end Service

end Credentials
