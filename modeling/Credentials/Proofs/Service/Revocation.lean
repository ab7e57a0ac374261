import Credentials.Proofs.Service.Reactions

/-!
# Revocation

What an event can do to the key store: leave it as it is, save a key, or remove
one on behalf of its issuer. From this it follows, over every run, that a live
record stays until its issuer has it removed, and that nothing brings its id back
afterwards.
-/

namespace Credentials.Service

variable {σ α : Type} (svc : Service)

/-! ## What an event does to the key store -/

/-- Whether an event removes the record of an issuer under an id: a revocation by the issuer
that is not refused, or a removal past the service. -/
def removes (issuer id : String) : Event → Bool
  | .call clock _ (.revoke token target) =>
    match svc.caller clock token .access with
    | .ok caller => caller.subject = issuer && target = id
    | .error _ => false
  | .remove owner target => owner = issuer && target = id
  | _ => false

theorem removes_revoke {issuer id : String} {clock : Clock} {drawn token target : String} :
    svc.removes issuer id (.call clock drawn (.revoke token target)) = true ↔
      ∃ caller, svc.caller clock token .access = .ok caller ∧ caller.subject = issuer ∧
        target = id := by
  rw [removes]
  cases svc.caller clock token .access <;> simp

/-- A revocation that is done for the issuer of a record: it is answered, it is one of the record's
id, and its token is one of the issuer. -/
structure Revokes (w : World) (issuer id : String) (clock : Clock) (drawn token target : String) :
    Prop where
  done : (svc.react w (.call clock drawn (.revoke token target))).1 = .answered .done
  target_eq : target = id
  issuer_eq : ∃ caller, svc.codec.decode token = .ok caller ∧ caller.subject = issuer

/-- A revocation counts as a removal exactly if it is done for the issuer. -/
theorem removes_revoke_iff (w : World) (issuer id : String) (clock : Clock)
    (drawn token target : String) :
    svc.removes issuer id (.call clock drawn (.revoke token target)) = true ↔
      svc.Revokes w issuer id clock drawn token target := by
  rw [removes_revoke]
  constructor
  · rintro ⟨caller, hcaller, rfl, rfl⟩
    have hdecode := (svc.caller_eq_ok_iff.1 hcaller).1
    exact ⟨by rw [react_revoke, hcaller], rfl, caller, hdecode, rfl⟩
  · rintro ⟨hdone, rfl, caller, hdecode, rfl⟩
    rw [react_revoke] at hdone
    cases hcaller : svc.caller clock token .access with
    | error h =>
      rw [hcaller] at hdone
      cases hdone
    | ok found =>
      have hfound := (svc.caller_eq_ok_iff.1 hcaller).1
      rw [hdecode] at hfound
      cases hfound
      exact ⟨caller, rfl, rfl, rfl⟩

/-- One event leaves the key store as it is, saves one key past the service, files one record, or
removes one on behalf of its issuer. -/
theorem react_keys (w : World) (e : Event) :
    (svc.react w e).2.keys = w.keys ∨
    (∃ drawn key, e = .save drawn key ∧ (svc.react w e).2.keys = (w.keys.save drawn key).2) ∨
    (∃ id record, svc.Files w e id record ∧ (svc.react w e).2.keys = w.keys.file id record) ∨
    ∃ issuer id, svc.removes issuer id e = true ∧
      (svc.react w e).2.keys = w.keys.remove issuer id := by
  cases e with
  | switch available => exact .inl rfl
  | save drawn key =>
    refine .inr (.inl ⟨drawn, key, rfl, ?_⟩)
    rw [react]
    split <;> next h => simp [h]
  | remove issuer id => exact .inr (.inr (.inr ⟨issuer, id, by simp [removes], rfl⟩))
  | call clock drawn op =>
    cases op with
    | issue token key =>
      rcases svc.react_keys_issue w clock drawn token key with h | ⟨record, h⟩
      · exact .inl h
      · exact .inr (.inr (.inl ⟨drawn, record, h, by rw [svc.react_of_files h]⟩))
    | revoke token id =>
      rw [react_revoke]
      cases hcaller : svc.caller clock token .access with
      | error h => exact .inl rfl
      | ok caller =>
        refine .inr (.inr (.inr ⟨caller.subject, id, ?_, rfl⟩))
        exact svc.removes_revoke.2 ⟨caller, hcaller, rfl, rfl⟩
    -- no other operation turns to the key store but to read from it
    | refresh token => exact .inl (by rw [react_refresh])
    | identify token => exact .inl (by rw [react_identify])
    | retrieve token id => exact .inl (by rw [react_retrieve])
    | authorize r => exact .inl (by rw [react_authorize])
    | addPolicy r => exact .inl (by rw [react_addPolicy])
    | deletePolicy r => exact .inl (by rw [react_deletePolicy])
    | listObjects subject relation => exact .inl (by rw [react_listObjects])
    | listSubjects object relation => exact .inl (by rw [react_listSubjects])

/-- An event that counts as a removal is one. -/
theorem react_keys_of_removes {issuer id : String} {e : Event}
    (h : svc.removes issuer id e = true) (w : World) :
    (svc.react w e).2.keys = w.keys.remove issuer id := by
  cases e with
  | switch available => cases h
  | save drawn key => cases h
  | remove owner target =>
    simp only [removes, Bool.and_eq_true, decide_eq_true_eq] at h
    obtain ⟨rfl, rfl⟩ := h
    rfl
  | call clock drawn op =>
    cases op with
    | revoke token target =>
      obtain ⟨caller, hcaller, rfl, rfl⟩ := svc.removes_revoke.1 h
      rw [react_revoke, hcaller]
    | _ => cases h

/-! ## Runs -/

/-- An id that is gone stays gone, whatever happens. -/
theorem gone_react {id : String} {w : World} (h : w.keys.Gone id) (e : Event) :
    (svc.react w e).2.keys.Gone id := by
  rcases svc.react_keys w e with
    hkeys | ⟨drawn, key, -, hkeys⟩ | ⟨other, record, hfiles, hkeys⟩ | ⟨issuer, other, -, hkeys⟩
  · rw [hkeys]
    exact h
  · rw [hkeys]
    exact h.save drawn key
  · rw [hkeys, ← svc.save_of_files hfiles]
    exact h.save other record
  · rw [hkeys]
    exact h.remove issuer other

theorem gone_run {id : String} {w : World} (h : w.keys.Gone id) (events : List Event) :
    (svc.run w events).keys.Gone id := by
  induction events generalizing w with
  | nil => exact h
  | cons e events ih => exact ih (svc.gone_react h e)

/-- A live record outlives every event but its removal. -/
theorem find?_react {id : String} {record : Key} {w : World}
    (h : w.keys.find? id = some record) {e : Event}
    (he : svc.removes record.issuer id e = false) :
    (svc.react w e).2.keys.find? id = some record := by
  rcases svc.react_keys w e with
    hkeys | ⟨drawn, key, -, hkeys⟩ | ⟨other, new, hfiles, hkeys⟩ | ⟨issuer, other, hremoves, hkeys⟩
  · rw [hkeys]
    exact h
  · rw [hkeys]
    exact KeyStore.find?_save_of_some h drawn key
  · rw [hkeys, ← svc.save_of_files hfiles]
    exact KeyStore.find?_save_of_some h other new
  · rw [hkeys]
    refine KeyStore.find?_remove_of_some h ?_
    rintro ⟨rfl, rfl⟩
    rw [hremoves] at he
    cases he

theorem gone_react_of_removes {id : String} {record : Key} {w : World}
    (h : w.keys.find? id = some record) {e : Event}
    (he : svc.removes record.issuer id e = true) : (svc.react w e).2.keys.Gone id := by
  rw [svc.react_keys_of_removes he]
  exact KeyStore.gone_remove (KeyStore.owns_iff.2 ⟨record, h, rfl⟩)

/-- After a run a record is live as it was, or its id is gone, by whether the run removes it. -/
theorem run_find? {id : String} {record : Key} {w : World}
    (h : w.keys.find? id = some record) (events : List Event) :
    if events.any (svc.removes record.issuer id) then (svc.run w events).keys.Gone id
    else (svc.run w events).keys.find? id = some record := by
  induction events generalizing w with
  | nil => simpa [run] using h
  | cons e events ih =>
    cases he : svc.removes record.issuer id e with
    | true =>
      simp only [List.any_cons, he, Bool.true_or, if_true]
      exact svc.gone_run (svc.gone_react_of_removes h he) events
    | false =>
      simp only [List.any_cons, he, Bool.false_or]
      exact ih (svc.find?_react h he)

/-! ## Ids that are barred -/

/-- What an id is worth whose record was removed. Nothing can be filed under it: a request that
draws it ends as it would with any other id, or in a conflict. Nothing is found under it. And no
token that carries it is accepted for anybody. -/
structure Barred (w : World) (id : String) : Prop where
  save : ∀ drawn key, key.id.getD drawn = id →
    svc.react w (.save drawn key) = (.notSaved .conflict, w)
  issue : ∀ clock token key, key.keyType.persistence = .persisted →
    svc.issue (World.backend id) clock token key w =
      match svc.grant w.relations clock token key with
      | .error h => .error h w
      | .ok _ => .error (.refused .conflict) w
  retrieve : ∀ issuer, w.keys.retrieve issuer id = .error .notFound
  retrieveKey : ∀ drawn clock token key v,
    svc.retrieveKey (World.backend drawn) clock token id w ≠ .ok key v
  identify : ∀ drawn clock token key, svc.codec.decode token = .ok key →
    key.keyType.persistence = .persisted → key.id = some id →
    ∀ subject v, svc.identify (World.backend drawn) clock token w ≠ .ok subject v

theorem settle_ne_ok {x : Except Halt α} (h : ∀ a, x ≠ .ok a) (s : σ) (a : α) (t : σ) :
    settle x s ≠ .ok a t := by
  cases x with
  | ok b => exact absurd rfl (h b)
  | error halt => exact fun heq => by cases heq

theorem barred_of_gone {w : World} {id : String} (h : w.keys.Gone id) : svc.Barred w id where
  save drawn key hid := by
    rw [react, KeyStore.save_of_isTaken (hid ▸ h.isTaken)]
  issue clock token key htype := by
    rw [svc.issue_of_persisted id w htype]
    cases hgrant : svc.grant w.relations clock token key with
    | error halt => rfl
    | ok record => exact svc.fileRecord_of_isTaken (svc.id_of_grant hgrant) h.isTaken
  retrieve issuer := h.retrieve issuer
  retrieveKey drawn clock token key v := by
    rw [svc.retrieveKey_inMemory]
    refine settle_ne_ok (fun found hfound => ?_) w key v
    obtain ⟨caller, -, hretrieve⟩ := bind_eq_ok_iff.1 hfound
    rw [h.retrieve] at hretrieve
    cases hretrieve
  identify drawn clock token key hdecode htype hid subject v := by
    rw [svc.identify_inMemory]
    refine settle_ne_ok (fun found hfound => ?_) w subject v
    obtain ⟨live, hlive, hbearer⟩ := bind_eq_ok_iff.1 hfound
    have hkey := (svc.liveKey_eq_ok_iff.1 hlive).1
    rw [hdecode] at hkey
    cases hkey
    rw [bearer_of_persisted htype hid, vouches_of_find?_eq_none h.not_live] at hbearer
    cases hbearer

/-- Once a live record is removed for its issuer, its id is barred for ever, whatever is done
afterwards through the service or to the key store itself. A revocation is such a removal exactly
if it is done for the issuer. -/
theorem removal_is_final {w : World} {id : String} {record : Key}
    (hlive : w.keys.find? id = some record) {e : Event}
    (he : svc.removes record.issuer id e = true) (events : List Event) :
    svc.Barred (svc.run w (e :: events)) id ∧
      ∀ clock drawn token target,
        svc.removes record.issuer id (.call clock drawn (.revoke token target)) = true ↔
          svc.Revokes w record.issuer id clock drawn token target := by
  have hgone : (svc.react w e).2.keys.Gone id := svc.gone_react_of_removes hlive he
  exact ⟨svc.barred_of_gone (svc.gone_run hgone events), svc.removes_revoke_iff w record.issuer id⟩

/-! ## A service at work -/

/-- A service with the durations that a configuration takes by default. -/
def usual : Service where
  codec := ⟨⟨[0x6b, 0x65, 0x79], by decide⟩, "vigil.auth"⟩
  accessLifetime := .ofSeconds 1800
  refreshLifetime := .ofSeconds 86400
  recoveryLifetime := .ofSeconds 300
  clockSkew := .ofSeconds 5
  backendTimeout := .ofSeconds 5

/-- A quarter of a second into the morning of 14 November 2023. -/
def morning : Instant := ⟨1699920000250000000, by decide, by decide⟩

/-- The latest issue time that is tolerated on that morning. -/
def morningTolerance : Instant := ⟨1699920005250000000, by decide, by decide⟩

/-- The key of a login on that morning. -/
def morningLogin (subject : String) : Key where
  keyType := .access
  subject := subject
  issuedAt := morning
  expiresAt := some ⟨1699921800250000000, by decide, by decide⟩

theorem caller_morningLogin {subject : String} (h : subject ≠ "") :
    usual.caller (.showing morning) (usual.codec.encode (morningLogin subject)) .access
      = .ok (morningLogin subject).signed := by
  have hissued : morning.floor ≤ morningTolerance := by decide
  have hexpiry : ¬ (1699921800000000000 : Int) ≤ morning.nanos := by decide
  have hcurrent : (morningLogin subject).signed.IsCurrent morning morningTolerance :=
    Key.isCurrent_iff.2 ⟨hissued, decide_eq_false hexpiry⟩
  exact usual.caller_encode h ⟨morning, morningTolerance, rfl, rfl, hcurrent⟩

/-- A key that Alice issued for Bob, filed again after she revoked it. -/
theorem removal_is_final_for_alice :
    let record : Key := {
      id := some "k", keyType := .api, issuer := "alice", subject := "bob", issuedAt := morning }
    let w : World := { keys := { records := [("k", record)] } }
    let revocation : Event :=
      .call (.showing morning) "" (.revoke (usual.codec.encode (morningLogin "alice")) "k")
    usual.removes "alice" "k" revocation = true ∧
      (usual.react w revocation).1 = .answered .done ∧
      usual.Barred (usual.run w [revocation, .save "k" record]) "k" := by
  intro record w revocation
  have hcaller := caller_morningLogin (show "alice" ≠ "" by decide)
  have hrevoke : usual.removes record.issuer "k" revocation = true :=
    usual.removes_revoke.2 ⟨_, hcaller, rfl, rfl⟩
  have hlive : w.keys.find? "k" = some record := rfl
  obtain ⟨hbarred, hcounts⟩ := usual.removal_is_final hlive hrevoke [.save "k" record]
  exact ⟨hrevoke, ((hcounts _ _ _ _).1 hrevoke).done, hbarred⟩

end Credentials.Service
