import Credentials.Proofs.Service.Lifetime

/-!
# What a service keeps

The shape of a key store that is used through a service only: which records can
be in it and under which ids. Each record is what a valid request by a live login
makes of it, and every way to change the store keeps the ids in order.
-/

namespace Credentials

namespace KeyStore

/-! ## Ids in order -/

/-- A store in which no id is given twice, and none that was removed is live. -/
structure IsTidy (s : KeyStore) : Prop where
  distinct : (s.records.map (·.1)).Nodup
  apart : ∀ id record, (id, record) ∈ s.records → s.isRemoved id = false

variable {s : KeyStore} {issuer id other : String} {key record : Key}

theorem IsTidy.empty : IsTidy {} where
  distinct := List.nodup_nil
  apart _ _ h := by cases h

theorem mem_file_iff : (other, record) ∈ (s.file id key).records ↔
    (other, record) ∈ s.records ∨ other = id ∧ record = { key with id := some id } := by
  simp [file]

/-- A removal leaves records as they are, and none under the removed id. -/
theorem mem_of_mem_remove (h : (other, record) ∈ (s.remove issuer id).records) :
    (other, record) ∈ s.records ∧ ¬ (s.owns issuer id = true ∧ other = id) := by
  by_cases howns : s.owns issuer id = true
  · rw [remove_of_owns howns] at h
    obtain ⟨hmem, hne⟩ := List.mem_filter.1 h
    exact ⟨hmem, fun hid => of_decide_eq_true hne hid.2⟩
  · rw [remove_of_not_owns (by simpa using howns)] at h
    exact ⟨h, fun hid => howns hid.1⟩

theorem not_mem_of_find?_eq_none (h : s.find? id = none) : id ∉ s.records.map (·.1) := by
  intro hmem
  obtain ⟨⟨name, key⟩, hkey, rfl⟩ := List.mem_map.1 hmem
  have hne := List.lookup_eq_none_iff.1 h _ hkey
  simp at hne

theorem IsTidy.file (h : s.IsTidy) (hfree : ¬ s.IsTaken id) (key : Key) :
    (s.file id key).IsTidy where
  distinct := by
    have hnew := not_mem_of_find?_eq_none (find?_eq_none_of_not_isTaken hfree)
    rw [KeyStore.file, List.map_append, List.nodup_append]
    refine ⟨h.distinct, by simp, ?_⟩
    intro name hname other hother
    have hid : other = id := by simpa using hother
    rintro rfl
    exact hnew (hid ▸ hname)
  apart other record hmem := by
    rw [isRemoved_file]
    rcases mem_file_iff.1 hmem with hold | ⟨rfl, -⟩
    · exact h.apart other record hold
    · simpa using fun hremoved => hfree (.inr hremoved)

theorem IsTidy.remove (h : s.IsTidy) (issuer id : String) : (s.remove issuer id).IsTidy where
  distinct := by
    by_cases howns : s.owns issuer id = true
    · rw [remove_of_owns howns]
      exact h.distinct.sublist (List.filter_sublist.map _)
    · rw [remove_of_not_owns (by simpa using howns)]
      exact h.distinct
  apart other record hmem := by
    obtain ⟨hold, hother⟩ := mem_of_mem_remove hmem
    rw [isRemoved_remove, h.apart other record hold]
    simpa using hother

end KeyStore

namespace Service

variable (svc : Service)

/-! ## Records -/

/-- A record as a service files it under an id: a stored key that knows its id and names its
subject, its issuer and its issue time; a recovery key that lives for exactly as long as the
service lets it, or an API key that does not expire before it begins. -/
structure IsProper (id : String) (record : Key) : Prop where
  id_eq : record.id = some id
  stored : record.keyType = .api ∨ record.keyType = .recovery
  subject_ne : record.subject ≠ ""
  issuer_ne : record.issuer ≠ ""
  dated : record.issuedAt ≠ .epoch
  recovery : record.keyType = .recovery → ∃ expiry, record.expiresAt = some expiry ∧
    expiry.nanos = record.issuedAt.nanos + svc.recoveryLifetime.nanos
  api : record.keyType = .api → ∀ expiry, record.expiresAt = some expiry →
    record.issuedAt < expiry

theorem storedExpiry_of_recovery {key : Key} (htype : key.keyType = .recovery)
    {expiresAt : Option Instant} (h : svc.storedExpiry key = .ok expiresAt) :
    ∃ expiry, expiresAt = some expiry ∧
      expiry.nanos = key.issuedAt.nanos + svc.recoveryLifetime.nanos := by
  rw [storedExpiry, htype] at h
  cases hexpiry : expiry key.issuedAt svc.recoveryLifetime with
  | error halt =>
    rw [hexpiry] at h
    cases h
  | ok t =>
    rw [hexpiry] at h
    cases h
    exact ⟨t, rfl, Instant.ofNanos?_eq_some_iff.1 (expiry_eq_ok_iff.1 hexpiry)⟩

theorem storedExpiry_of_api {key : Key} (htype : key.keyType = .api) :
    svc.storedExpiry key = .ok key.expiresAt := by
  rw [storedExpiry, htype]

theorem isProper_of_files {w : World} {e : Event} {id : String} {record : Key}
    (h : svc.Files w e id record) : svc.IsProper id { record with id := some id } := by
  obtain ⟨clock, token, request, -, htype, hgrant, -⟩ := h
  obtain ⟨hvet, caller, expiresAt, hcaller, -, hexpiry, rfl⟩ := svc.grant_eq_ok_iff.1 hgrant
  obtain ⟨now, latest, -, -, hvalid⟩ := svc.vet_eq_ok_iff.1 hvet
  have hdecode := (svc.caller_eq_ok_iff.1 hcaller).1
  constructor
  · rfl
  · exact persisted_iff.1 htype
  · exact hvalid.subject_ne
  · exact (svc.codec.isCanonical_of_decode hdecode).subject_ne
  · exact hvalid.dated
  · intro hrecovery
    have hkey : request.keyType = .recovery := hrecovery
    exact svc.storedExpiry_of_recovery hkey hexpiry
  · intro hapi
    have hkey : request.keyType = .api := hapi
    rw [svc.storedExpiry_of_api hkey] at hexpiry
    cases hexpiry
    exact hvalid.viable hkey

/-! ## Runs -/

/-- A key store with its ids in order that holds proper records only. -/
structure WellKept (keys : KeyStore) : Prop extends keys.IsTidy where
  proper : ∀ id record, (id, record) ∈ keys.records → svc.IsProper id record

theorem wellKept_empty : svc.WellKept {} where
  toIsTidy := KeyStore.IsTidy.empty
  proper _ _ h := by cases h

variable {svc} {w : World}

theorem WellKept.file {keys : KeyStore} (h : svc.WellKept keys) {id : String}
    (hfree : ¬ keys.IsTaken id) {key : Key} (hproper : svc.IsProper id { key with id := some id }) :
    svc.WellKept (keys.file id key) where
  toIsTidy := h.toIsTidy.file hfree key
  proper other record hmem := by
    rcases KeyStore.mem_file_iff.1 hmem with hold | ⟨rfl, rfl⟩
    · exact h.proper other record hold
    · exact hproper

theorem WellKept.remove {keys : KeyStore} (h : svc.WellKept keys) (issuer id : String) :
    svc.WellKept (keys.remove issuer id) where
  toIsTidy := h.toIsTidy.remove issuer id
  proper other record hmem := h.proper other record (KeyStore.mem_of_mem_remove hmem).1

theorem WellKept.react (h : svc.WellKept w.keys) {e : Event} (he : e.isSave = false) :
    svc.WellKept (svc.react w e).2.keys := by
  rcases svc.react_keys w e with
    hkeys | ⟨drawn, key, rfl, -⟩ | ⟨id, record, hfiles, hkeys⟩ | ⟨issuer, id, -, hkeys⟩
  · rw [hkeys]
    exact h
  · cases he
  · have hproper := svc.isProper_of_files hfiles
    obtain ⟨-, -, -, -, -, -, hfree⟩ := hfiles
    rw [hkeys]
    exact h.file hfree hproper
  · rw [hkeys]
    exact h.remove issuer id

theorem WellKept.run (h : svc.WellKept w.keys) {events : List Event}
    (hevents : ∀ e ∈ events, e.isSave = false) : svc.WellKept (svc.run w events).keys := by
  induction events generalizing w with
  | nil => exact h
  | cons e events ih =>
    obtain ⟨he, hevents⟩ := List.forall_mem_cons.1 hevents
    exact ih (h.react he) hevents

variable (svc) in
/-- A service keeps its key store well: whatever it is asked, by whomever and by whatever clock, an
empty store comes to hold proper records only, each under its own id, which was given once and was
never removed. -/
theorem records_are_kept_well (relations : Relations) {events : List Event}
    (hevents : ∀ e ∈ events, e.isSave = false) :
    svc.WellKept (svc.run { relations } events).keys :=
  svc.wellKept_empty.run hevents

/-! ## A store at work -/

/-- A request of Alice for a recovery key of her own. -/
def recoveryKey : Key := { keyType := .recovery, subject := "alice", issuedAt := morning }

/-- Five minutes after the request. -/
def recoveryEnd : Instant := ⟨1699920300250000000, by decide, by decide⟩

theorem grant_recoveryKey :
    usual.grant {} (.showing morning) (usual.codec.encode (morningLogin "alice")) recoveryKey
      = .ok { recoveryKey with issuer := "alice", expiresAt := some recoveryEnd } := by
  have hlogin := caller_morningLogin (show "alice" ≠ "" by decide)
  have hvet : usual.vet (.showing morning) recoveryKey = .ok () := rfl
  exact usual.grant_eq_ok_iff.2 ⟨hvet, _, some recoveryEnd, hlogin, rfl, rfl, rfl⟩

/-- Alice has a standing key and a recovery key issued, and revokes the first. The second is kept,
and nothing is left under the id of the first. -/
theorem records_are_kept_well_for_alice :
    let login := usual.codec.encode (morningLogin "alice")
    let now : Clock := .showing morning
    let events : List Event := [
      .call now "k" (.issue login standingKey),
      .call now "r" (.issue login recoveryKey),
      .call now "" (.revoke login "k")]
    let record : Key := {
      recoveryKey with id := some "r", issuer := "alice", expiresAt := some recoveryEnd }
    (usual.run {} events).keys = { records := [("r", record)], removed := ["k"] } ∧
      usual.WellKept (usual.run {} events).keys := by
  intro login now events record
  have hlogin := caller_morningLogin (show "alice" ≠ "" by decide)
  have hevents : ∀ e ∈ events, e.isSave = false := by simp [events, Event.isSave]
  have hfirst : usual.Files {} (.call now "k" (.issue login standingKey)) "k"
      { standingKey with issuer := "alice" } :=
    ⟨now, login, standingKey, rfl, rfl, grant_standingKey, by decide⟩
  have hsecond : usual.Files
      { keys := { records := [("k", { standingKey with id := some "k", issuer := "alice" })] } }
      (.call now "r" (.issue login recoveryKey)) "r"
      { recoveryKey with issuer := "alice", expiresAt := some recoveryEnd } :=
    ⟨now, login, recoveryKey, rfl, rfl, grant_recoveryKey, by decide⟩
  have hrevoke (w : World) : (usual.react w (.call now "" (.revoke login "k"))).2
      = { w with keys := w.keys.remove "alice" "k" } := by
    rw [react_revoke, hlogin]
    rfl
  have hkeys : (usual.run {} events).keys = { records := [("r", record)], removed := ["k"] } := by
    have hfiled := congrArg Prod.snd (usual.react_of_files hfirst)
    have hthen := congrArg Prod.snd (usual.react_of_files hsecond)
    simp only [KeyStore.file, List.nil_append] at hfiled
    rw [run, List.foldl_cons, hfiled, List.foldl_cons, hthen, List.foldl_cons, hrevoke]
    rfl
  exact ⟨hkeys, usual.records_are_kept_well {} hevents⟩

end Service

end Credentials
