import Credentials.Proofs.Service.Revocation

/-!
# The life of a stored key

From the request to the end: a stored key is accepted from its issue time until
its expiry, both taken at whole seconds, unless its issuer revokes it. Nothing
else that is done to the service or to its backends changes that.
-/

namespace Credentials.Service

variable (svc : Service)

/-! ## What is granted -/

/-- A stored key without an expiry is an API key. -/
theorem endless_of_storedExpiry {key : Key} (htype : key.keyType.persistence = .persisted)
    (h : svc.storedExpiry key = .ok none) : key.keyType = .api := by
  cases hkind : key.keyType with
  | access => rw [hkind] at htype; cases htype
  | refresh => rw [hkind] at htype; cases htype
  | api => rfl
  | recovery =>
    rw [storedExpiry, hkind] at h
    cases hexpiry : expiry key.issuedAt svc.recoveryLifetime <;> rw [hexpiry] at h <;> cases h

/-! ## Tokens of records -/

/-- A record whose token can be accepted: it is a stored key that knows its id, has a subject, and
goes without an expiry only if that is allowed. -/
structure IsFiled (id : String) (record : Key) : Prop where
  id_eq : record.id = some id
  id_ne : id ≠ ""
  subject_ne : record.subject ≠ ""
  persisted : record.keyType.persistence = .persisted
  endless : record.expiresAt = none → record.keyType = .api

variable {svc} {id : String} {record : Key}

theorem IsFiled.signed_id (h : IsFiled id record) : record.signed.id = some id := by
  show record.id.filter (· ≠ "") = some id
  simp [h.id_eq, h.id_ne]

theorem IsFiled.decode (h : IsFiled id record) (codec : Codec) :
    codec.decode (codec.encode record) = .ok record.signed := by
  rw [codec.decode_encode, if_neg h.subject_ne]

theorem IsFiled.isExpiredAt_signed (h : IsFiled id record) (now : Instant) :
    record.signed.isExpiredAt now = record.expiresAt.any (·.floor ≤ now) := by
  cases hexpiry : record.expiresAt with
  | some expiry => simp [Key.isExpiredAt, Key.signed, hexpiry]
  | none =>
    have hapi := h.endless hexpiry
    simp [Key.isExpiredAt, Key.signed, hexpiry, hapi]

/-- The order in which the token of a record is judged. -/
theorem IsFiled.identify (h : IsFiled id record) {clock : Clock} {now latest : Instant}
    (hnow : clock.shown = some now) (hlatest : now.after? svc.clockSkew = some latest)
    (drawn : String) (w : World) :
    svc.identify (World.backend drawn) clock (svc.codec.encode record) w = settle (
      if latest < record.issuedAt.floor then reject .issuedInFuture
      else if record.expiresAt.any (·.floor ≤ now) then reject .expired
      else if vouches w.keys id record then .ok record.subject
      else reject .revoked) w := by
  have hbearer : bearer w.keys record.signed
      = if vouches w.keys id record then .ok record.subject else reject .revoked :=
    bearer_of_persisted h.persisted h.signed_id
  have hissued : record.signed.issuedAt = record.issuedAt.floor := rfl
  rw [svc.identify_inMemory, svc.liveKey_of_decode (h.decode svc.codec) hnow hlatest,
    h.isExpiredAt_signed, hissued, ← hbearer]
  -- the store is asked only about a key that has begun and has not ended
  congr 1
  by_cases hbegun : latest < record.issuedAt.floor
  · simp only [if_pos hbegun]
    rfl
  · simp only [if_neg hbegun]
    by_cases hended : record.expiresAt.any (·.floor ≤ now) = true
    · simp only [if_pos hended]
      rfl
    · simp only [if_neg hended]
      rfl

/-- Over a run, a record vouches for its key until it is removed for its issuer. -/
theorem vouches_run {w : World} (h : w.keys.find? id = some record) (events : List Event) :
    vouches (svc.run w events).keys id record
      = !events.any (svc.removes record.issuer id) := by
  have hrun := svc.run_find? h events
  cases hremoved : events.any (svc.removes record.issuer id) with
  | true =>
    rw [if_pos hremoved] at hrun
    exact vouches_of_find?_eq_none hrun.not_live record
  | false =>
    rw [if_neg (by simp [hremoved])] at hrun
    exact vouches_iff.2 ⟨record, hrun, rfl, rfl, rfl⟩

/-! ## From the request on -/

/-- A request that succeeds files what its token tells. -/
theorem isFiled_of_issue {drawn : String} (hdrawn : drawn ≠ "") {key : Key}
    (htype : key.keyType.persistence = .persisted) {clock : Clock} {token : String} {w v : World}
    {t : Token} (h : svc.issue (World.backend drawn) clock token key w = .ok t v) :
    ∃ caller expiresAt, svc.caller clock token .access = .ok caller ∧
      svc.storedExpiry key = .ok expiresAt ∧
      let record := { key with id := some drawn, issuer := caller.subject, expiresAt }
      IsFiled drawn record ∧ v.keys.find? drawn = some record ∧
        t = .persisted (svc.codec.encode record) drawn := by
  obtain ⟨record, hgrant, hfree, rfl, rfl⟩ := (svc.issue_eq_ok_iff drawn w htype).1 h
  obtain ⟨hvet, caller, expiresAt, hcaller, -, hexpiry, rfl⟩ := svc.grant_eq_ok_iff.1 hgrant
  have hsubject : key.subject ≠ "" := svc.subject_of_vet hvet
  have hendless : expiresAt = none → key.keyType = .api := by
    rintro rfl
    exact svc.endless_of_storedExpiry htype hexpiry
  refine ⟨caller, expiresAt, hcaller, hexpiry, ?_, ?_, rfl⟩
  · exact ⟨rfl, hdrawn, hsubject, htype, hendless⟩
  · exact (KeyStore.find?_file_eq_some_iff (KeyStore.find?_eq_none_of_not_isTaken hfree)).2
      (.inl ⟨rfl, rfl⟩)

/-- The life of a stored key. Whoever had it issued, and whatever is done afterwards by whomever
and by whatever clock, its token is judged by three things in this order: whether its issue time
has come, whether its expiry has passed, and whether its issuer has revoked it. A revocation counts
exactly if it is done for the issuer. -/
theorem stored_key_lives {drawn : String} (hdrawn : drawn ≠ "") {key : Key}
    (htype : key.keyType = .api ∨ key.keyType = .recovery) {clock : Clock} {token : String}
    {w v : World} {t : Token}
    (hissue : svc.issue (World.backend drawn) clock token key w = .ok t v) :
    ∃ caller record, svc.caller clock token .access = .ok caller ∧
      v.keys.find? drawn = some record ∧ t.keyId = some drawn ∧
      record.issuer = caller.subject ∧ record.subject = key.subject ∧
      record.keyType = key.keyType ∧ record.issuedAt = key.issuedAt ∧
      svc.storedExpiry key = .ok record.expiresAt ∧
      (∀ u other fresh revoker target,
        svc.removes record.issuer drawn (.call other fresh (.revoke revoker target)) = true ↔
          svc.Revokes u record.issuer drawn other fresh revoker target) ∧
      ∀ (events : List Event) (later : Clock) (fresh : String) (now latest : Instant),
        later.shown = some now → now.after? svc.clockSkew = some latest →
        svc.identify (World.backend fresh) later t.accessToken (svc.run v events) = settle (
          if latest < record.issuedAt.floor then reject .issuedInFuture
          else if record.expiresAt.any (·.floor ≤ now) then reject .expired
          else if events.any (svc.removes record.issuer drawn) then reject .revoked
          else .ok key.subject) (svc.run v events) := by
  obtain ⟨caller, expiresAt, hcaller, hexpiry, hfiled, hfound, rfl⟩ :=
    isFiled_of_issue hdrawn (persisted_iff.2 htype) hissue
  refine ⟨caller, _, hcaller, hfound, rfl, rfl, rfl, rfl, rfl, hexpiry,
    fun u => svc.removes_revoke_iff u caller.subject drawn, ?_⟩
  intro events later fresh now latest hnow hlatest
  have hidentify := hfiled.identify hnow hlatest fresh (svc.run v events)
  rw [vouches_run hfound] at hidentify
  rw [Token.persisted, hidentify]
  cases events.any (svc.removes caller.subject drawn) <;> rfl

/-- A key for Alice that never expires. -/
def standingKey : Key := { keyType := .api, subject := "alice", issuedAt := morning }

theorem grant_standingKey :
    usual.grant {} (.showing morning) (usual.codec.encode (morningLogin "alice")) standingKey
      = .ok { standingKey with issuer := "alice" } := by
  have hcaller := caller_morningLogin (show "alice" ≠ "" by decide)
  have hvet : usual.vet (.showing morning) standingKey = .ok () := rfl
  exact usual.grant_eq_ok_iff.2 ⟨hvet, _, none, hcaller, rfl, rfl, rfl⟩

/-- The key that Alice has issued for herself is good at once, and no longer after she revokes
it. -/
theorem stored_key_lives_for_alice :
    let login := usual.codec.encode (morningLogin "alice")
    let revocation : Event := .call (.showing morning) "" (.revoke login "k")
    ∃ t v, usual.issue (World.backend "k") (.showing morning) login standingKey {} = .ok t v ∧
      usual.identify (World.backend "") (.showing morning) t.accessToken v = .ok "alice" v ∧
      (usual.react v revocation).1 = .answered .done ∧
      usual.identify (World.backend "") (.showing morning) t.accessToken
          (usual.run v [revocation])
        = .error (.refused (.authentication .revoked)) (usual.run v [revocation]) := by
  intro login revocation
  have hlogin := caller_morningLogin (show "alice" ≠ "" by decide)
  have hissue := (usual.issue_eq_ok_iff "k" {} rfl).2
    ⟨_, grant_standingKey, by decide, rfl, rfl⟩
  obtain ⟨caller, record, hcaller, -, -, hissuer, -, -, hissued, hexpiry, hcounts, hlife⟩ :=
    usual.stored_key_lives (by decide) (.inl rfl) hissue
  rw [hlogin] at hcaller
  cases hcaller
  have hexpiresAt : record.expiresAt = none := (Except.ok.inj hexpiry).symm
  have hbegun : ¬ morningTolerance < standingKey.issuedAt.floor := by decide
  have hrevoked : usual.removes record.issuer "k" revocation = true :=
    usual.removes_revoke.2 ⟨_, hlogin, hissuer.symm, rfl⟩
  have hgood := hlife [] (.showing morning) "" morning morningTolerance rfl rfl
  have hbad := hlife [revocation] (.showing morning) "" morning morningTolerance rfl rfl
  simp only [hissued, hexpiresAt, if_neg hbegun, Option.any_none, List.any_nil] at hgood
  simp only [hissued, hexpiresAt, if_neg hbegun, Option.any_none, List.any_cons, hrevoked] at hbad
  exact ⟨_, _, hissue, hgood, ((hcounts _ _ _ _ _).1 hrevoked).done, hbad⟩

end Credentials.Service
