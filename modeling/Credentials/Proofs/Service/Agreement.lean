import Credentials.Proofs.Service.Expiry

/-!
# A stored key and its token

A stored key is written down twice: in the key store to the nanosecond, and in
its token to the second. Both come of one record, which takes its subject and its
times from the request, its issuer from the caller and the life of a recovery key
from the service.
-/

namespace Credentials

theorem Instant.floor_le (t : Instant) : t.floor ≤ t := t.floor_spec.2.1

namespace Service

variable (svc : Service)

/-! ## The request -/

/-- The id and the issuer that a request gives itself count for nothing. -/
theorem issue_of_id_issuer {σ : Type} (b : Backend σ) (clock : Clock) (token : String) (key : Key)
    (id : Option String) (issuer : String) :
    svc.issue b clock token { key with id, issuer } = svc.issue b clock token key := rfl

/-- Nor does the expiry that is asked for a recovery key. -/
theorem issue_recovery_of_expiresAt {σ : Type} (b : Backend σ) (clock : Clock) (token : String)
    {key : Key} (htype : key.keyType = .recovery) (expiresAt : Option Instant) :
    svc.issue b clock token { key with expiresAt } = svc.issue b clock token key := by
  cases key
  cases htype
  rfl

/-! ## The record -/

/-- What a request for a stored key becomes: its type, its subject and its issue time are those of
the request, its issuer is the caller, and its expiry is the service's for a recovery key and the
request's for an API key. -/
structure IsRecordOf (drawn : String) (caller request record : Key) : Prop where
  id_eq : record.id = some drawn
  keyType_eq : record.keyType = request.keyType
  subject_eq : record.subject = request.subject
  issuedAt_eq : record.issuedAt = request.issuedAt
  issuer_eq : record.issuer = caller.subject
  recovery : request.keyType = .recovery → ∃ expiry, record.expiresAt = some expiry ∧
    expiry.nanos = request.issuedAt.nanos + svc.recoveryLifetime.nanos
  api : request.keyType = .api → record.expiresAt = request.expiresAt

theorem isRecordOf_of_storedExpiry {caller key : Key} {expiresAt : Option Instant}
    (h : svc.storedExpiry key = .ok expiresAt) (drawn : String) :
    svc.IsRecordOf drawn caller key
      { key with id := some drawn, issuer := caller.subject, expiresAt } where
  id_eq := rfl
  keyType_eq := rfl
  subject_eq := rfl
  issuedAt_eq := rfl
  issuer_eq := rfl
  recovery hkind := svc.storedExpiry_of_recovery hkind h
  api hkind := by
    rw [svc.storedExpiry_of_api hkind] at h
    exact (Except.ok.inj h).symm

/-- The token of a record tells it at whole seconds and in nothing else otherwise. -/
theorem IsFiled.signed_eq {id : String} {record : Key} (h : IsFiled id record) :
    record.signed = { record with
      issuedAt := record.issuedAt.floor, expiresAt := record.expiresAt.map Instant.floor } := by
  have hid : record.id.filter (· ≠ "") = record.id := h.signed_id.trans h.id_eq.symm
  rw [Key.signed, hid]

/-- The token of a record has expired by the time the record has. -/
theorem IsFiled.isExpiredAt_signed_of_isExpiredAt {id : String} {record : Key}
    (h : IsFiled id record) {now : Instant} (hexpired : record.isExpiredAt now = true) :
    record.signed.isExpiredAt now = true := by
  rw [h.isExpiredAt_signed]
  cases hexpiry : record.expiresAt with
  | none =>
    have hapi := h.endless hexpiry
    simp [Key.isExpiredAt, hapi, hexpiry] at hexpired
  | some expiry =>
    have hended : expiry ≤ now := by simpa [Key.isExpiredAt, hexpiry] using hexpired
    have hfloor := expiry.floor_le
    simp only [Option.any_some, decide_eq_true_eq]
    rw [Instant.le_def] at *
    omega

variable {svc} in
/-- Nobody is identified by the token of a record that has expired, whatever the backends hold. -/
theorem IsFiled.identify_ne_ok {id : String} {record : Key} (h : IsFiled id record) {clock : Clock}
    {now : Instant} (hnow : clock.shown = some now) (hexpired : record.isExpiredAt now = true)
    {σ : Type} (b : Backend σ) (s u : σ) (subject : String) :
    svc.identify b clock (svc.codec.encode record) s ≠ .ok subject u := by
  intro hok
  rw [svc.identify_eq] at hok
  obtain ⟨key, hlive, -⟩ := settle_bind_eq_ok_iff.1 hok
  obtain ⟨hdecode, now', latest, hnow', -, hcurrent⟩ := svc.liveKey_eq_ok_iff.1 hlive
  rw [h.decode] at hdecode
  cases hdecode
  rw [hnow] at hnow'
  cases hnow'
  have hunexpired := Key.isExpiredAt_eq_false_iff.2 ⟨hcurrent.unexpired, hcurrent.endless⟩
  rw [h.isExpiredAt_signed_of_isExpiredAt hexpired] at hunexpired
  cases hunexpired

/-- The caller gets a record that it issued. -/
theorem retrieveKey_of_find? {clock : Clock} {token id : String} {w : World} {caller record : Key}
    (hcaller : svc.caller clock token .access = .ok caller)
    (hfound : w.keys.find? id = some record) (hissuer : record.issuer = caller.subject)
    (drawn : String) :
    svc.retrieveKey (World.backend drawn) clock token id w = .ok record w := by
  have hretrieve := KeyStore.retrieve_eq_ok_iff.2 ⟨hfound, hissuer⟩
  rw [retrieveKey_inMemory, hcaller]
  simp only [bind, Except.bind, hretrieve]
  rfl

/-- A request that succeeds files one record more, under an id that no record ever had. -/
theorem world_of_issue {drawn : String} {key : Key} (htype : key.keyType.persistence = .persisted)
    {clock : Clock} {token : String} {w v : World} {t : Token}
    (h : svc.issue (World.backend drawn) clock token key w = .ok t v) {record : Key}
    (hfound : v.keys.find? drawn = some record) :
    ¬ w.keys.IsTaken drawn ∧ v = { w with
      keys := { w.keys with records := w.keys.records ++ [(drawn, record)] } } := by
  obtain ⟨granted, -, hfree, -, rfl⟩ := (svc.issue_eq_ok_iff drawn w htype).1 h
  have hfiled := KeyStore.find?_file (KeyStore.find?_eq_none_of_not_isTaken hfree) granted drawn
  rw [if_pos rfl, hfound, Option.some_inj] at hfiled
  subst hfiled
  exact ⟨hfree, rfl⟩

/-! ## Both together -/

/-- A stored key that is issued has one record and one token, which agree. The record is filed under
the drawn id, which no record ever had, and nothing else is changed. It is the request's but for its
issuer, who is the caller, and for the expiry of a recovery key, which the service sets; what the
request says of its id and its issuer counts for nothing. The token tells the record at whole
seconds, the caller gets the record itself at the same time, and nobody is identified by the token
at a time at which the record has expired, whatever backends are asked. -/
theorem token_agrees_with_record {drawn : String} (hdrawn : drawn ≠ "") {key : Key}
    (htype : key.keyType = .api ∨ key.keyType = .recovery) {clock : Clock} {token : String}
    {w v : World} {t : Token}
    (hissue : svc.issue (World.backend drawn) clock token key w = .ok t v) :
    ∃ caller record, svc.caller clock token .access = .ok caller ∧
      svc.IsRecordOf drawn caller key record ∧ t.keyId = some drawn ∧ t.refreshToken = none ∧
      w.keys.find? drawn = none ∧ w.keys.isRemoved drawn = false ∧
      v = { w with
        keys := { w.keys with records := w.keys.records ++ [(drawn, record)] } } ∧
      (∀ id issuer,
        svc.issue (World.backend drawn) clock token { key with id, issuer } w = .ok t v) ∧
      (key.keyType = .recovery → ∀ expiresAt,
        svc.issue (World.backend drawn) clock token { key with expiresAt } w = .ok t v) ∧
      svc.codec.decode t.accessToken = .ok { record with
        issuedAt := record.issuedAt.floor, expiresAt := record.expiresAt.map Instant.floor } ∧
      (∀ fresh, svc.retrieveKey (World.backend fresh) clock token drawn v = .ok record v) ∧
      ∀ (σ : Type) (b : Backend σ) (later : Clock) (now : Instant) (s u : σ) (subject : String),
        later.shown = some now → record.isExpiredAt now = true →
        svc.identify b later t.accessToken s ≠ .ok subject u := by
  have hstored := persisted_iff.2 htype
  obtain ⟨caller, expiresAt, hcaller, hexpiry, hfiled, hfound, htoken⟩ :=
    isFiled_of_issue hdrawn hstored hissue
  obtain ⟨hfree, hworld⟩ := svc.world_of_issue hstored hissue hfound
  have hnew := KeyStore.find?_eq_none_of_not_isTaken hfree
  have hkept : w.keys.isRemoved drawn = false := by simpa using fun h => hfree (.inr h)
  subst htoken
  refine ⟨caller, _, hcaller, svc.isRecordOf_of_storedExpiry hexpiry drawn, rfl, rfl, hnew, hkept,
    hworld, ?names, ?expiry, ?decode, ?retrieve, ?identify⟩
  case names =>
    intro id issuer
    rw [svc.issue_of_id_issuer]
    exact hissue
  case expiry =>
    intro hkind asked
    rw [svc.issue_recovery_of_expiresAt _ clock token hkind]
    exact hissue
  case decode => rw [Token.persisted, hfiled.decode, hfiled.signed_eq]
  case retrieve => exact svc.retrieveKey_of_find? hcaller hfound rfl
  case identify =>
    intro σ b later now s u subject hnow hexpired
    exact hfiled.identify_ne_ok hnow hexpired b s u subject

/-- Alice has a recovery key issued for herself. She gets its record at once, and five minutes later
its token is good for nothing. -/
theorem token_agrees_with_record_for_alice :
    let login := usual.codec.encode (morningLogin "alice")
    let v : World := { keys := { records := [("r", recoveryRecord)] } }
    ∃ t, usual.issue (World.backend "r") (.showing morning) login recoveryKey {} = .ok t v ∧
      t.keyId = some "r" ∧
      usual.retrieveKey (World.backend "") (.showing morning) login "r" v = .ok recoveryRecord v ∧
      usual.identify (World.backend "") (.showing recoveryEnd) t.accessToken v ≠ .ok "alice" v := by
  intro login v
  have hissue := (usual.issue_eq_ok_iff "r" {} rfl).2
    ⟨_, grant_recoveryKey, by decide, rfl, rfl⟩
  obtain ⟨caller, record, -, -, hid, -, -, -, hworld, -, -, -, hretrieve, hexpired⟩ :=
    usual.token_agrees_with_record (by decide) (.inr rfl) hissue
  have hrecord : recoveryRecord = record := by
    have hrecords := congrArg (·.keys.records) hworld
    simpa [KeyStore.file, recoveryRecord] using hrecords
  subst hrecord
  exact ⟨_, hissue, hid, hretrieve "",
    hexpired World (World.backend "") _ recoveryEnd v v "alice" rfl (by decide)⟩

end Service

end Credentials
