import Credentials.Proofs.Service.InMemory

/-!
# Whom a token stands for

The exact conditions under which a service with its backends in memory takes a
token for somebody, and under which it calls the key of the token revoked.
Whatever it answers, the backends are left as they were.
-/

namespace Credentials

/-- How a key is refused whose record is gone. -/
def Halt.revoked : Halt := .refused (.authentication .revoked)

namespace Service

variable (svc : Service) (drawn : String)

theorem confirmed_eq_ok_iff {keys : KeyStore} {key : Key} {subject : String} :
    confirmed keys key = .ok subject ↔
      subject = key.subject ∧ ∃ id, key.id = some id ∧ HasRecord keys id key := by
  rw [confirmed]
  cases key.id with
  | none => simp [reject]
  | some id =>
    by_cases hvouches : vouches keys id key = true
    · simp only [if_pos hvouches]
      constructor
      · intro h
        cases h
        exact ⟨rfl, id, rfl, vouches_iff.1 hvouches⟩
      · rintro ⟨rfl, -⟩
        rfl
    · have hrecord : ¬ HasRecord keys id key := fun h => hvouches (vouches_iff.2 h)
      simp [if_neg hvouches, hrecord, reject]

theorem confirmed_eq_revoked_iff {keys : KeyStore} {key : Key} :
    confirmed keys key = .error .revoked ↔
      ∃ id, key.id = some id ∧ ¬ HasRecord keys id key := by
  rw [confirmed]
  cases key.id with
  | none => simp [reject, Halt.revoked]
  | some id =>
    by_cases hvouches : vouches keys id key = true
    · have hrecord : HasRecord keys id key := vouches_iff.1 hvouches
      simp [if_pos hvouches, hrecord]
    · have hrecord : ¬ HasRecord keys id key := fun h => hvouches (vouches_iff.2 h)
      simp [if_neg hvouches, hrecord, reject, Halt.revoked]

theorem bearer_eq_ok_iff {keys : KeyStore} {key : Key} {subject : String} :
    bearer keys key = .ok subject ↔ key.keyType ≠ .refresh ∧ subject = key.subject ∧
      (key.keyType.persistence = .persisted → ∃ id, key.id = some id ∧ HasRecord keys id key) := by
  rw [bearer]
  by_cases hrefresh : key.keyType = .refresh
  · simp [hrefresh, reject]
  · rw [if_neg hrefresh]
    cases key.keyType.persistence with
    | stateless => simp [hrefresh, eq_comm]
    | persisted => simp [hrefresh, confirmed_eq_ok_iff]

theorem bearer_eq_revoked_iff {keys : KeyStore} {key : Key} :
    bearer keys key = .error .revoked ↔ key.keyType.persistence = .persisted ∧
      ∃ id, key.id = some id ∧ ¬ HasRecord keys id key := by
  rw [bearer]
  cases htype : key.keyType.persistence with
  | stateless =>
    by_cases hrefresh : key.keyType = .refresh
    · simp [if_pos hrefresh, reject, Halt.revoked]
    · simp [if_neg hrefresh]
  | persisted =>
    rw [if_neg (ne_refresh_of_persisted htype)]
    simp [confirmed_eq_revoked_iff]

/-- A token is taken for a subject exactly if it tells a live key of that subject, which is not a
refresh key and which, if it is a stored one, has its record; and it is refused as revoked exactly
if it tells a live stored key with an id but without its record. Both leave the backends alone. -/
theorem identify_exactly (clock : Clock) (token : String) (w v : World) (subject : String) :
    (svc.identify (World.backend drawn) clock token w = .ok subject v ↔
      v = w ∧ ∃ key now latest,
        svc.codec.decode token = .ok key ∧
        clock.shown = some now ∧ now.after? svc.clockSkew = some latest ∧
        key.IsCurrent now latest ∧
        key.keyType ≠ .refresh ∧ subject = key.subject ∧
        (key.keyType = .api ∨ key.keyType = .recovery →
          ∃ id, key.id = some id ∧ HasRecord w.keys id key)) ∧
    (svc.identify (World.backend drawn) clock token w
        = .error (.refused (.authentication .revoked)) v ↔
      v = w ∧ ∃ key now latest,
        svc.codec.decode token = .ok key ∧
        clock.shown = some now ∧ now.after? svc.clockSkew = some latest ∧
        key.IsCurrent now latest ∧
        (key.keyType = .api ∨ key.keyType = .recovery) ∧
        ∃ id, key.id = some id ∧ ¬ HasRecord w.keys id key) := by
  rw [svc.identify_inMemory]
  constructor
  · rw [settle_eq_ok_iff, bind_eq_ok_iff]
    constructor
    · rintro ⟨⟨key, hlive, hbearer⟩, hw⟩
      obtain ⟨hdecode, now, latest, hnow, hlatest, hcurrent⟩ := svc.liveKey_eq_ok_iff.1 hlive
      obtain ⟨hrefresh, hsubject, hrecord⟩ := bearer_eq_ok_iff.1 hbearer
      exact ⟨hw, key, now, latest, hdecode, hnow, hlatest, hcurrent, hrefresh, hsubject,
        fun htype => hrecord (persisted_iff.2 htype)⟩
    · rintro ⟨hw, key, now, latest, hdecode, hnow, hlatest, hcurrent, hrefresh, hsubject, hrecord⟩
      have hlive := svc.liveKey_eq_ok_iff.2 ⟨hdecode, now, latest, hnow, hlatest, hcurrent⟩
      have hbearer := bearer_eq_ok_iff.2
        ⟨hrefresh, hsubject, fun htype => hrecord (persisted_iff.1 htype)⟩
      exact ⟨⟨key, hlive, hbearer⟩, hw⟩
  · rw [settle_eq_error_iff, bind_eq_error_iff]
    constructor
    · rintro ⟨hnot | ⟨key, hlive, hbearer⟩, hw⟩
      · exact absurd hnot (svc.liveKey_ne_revoked clock token)
      · obtain ⟨hdecode, now, latest, hnow, hlatest, hcurrent⟩ := svc.liveKey_eq_ok_iff.1 hlive
        obtain ⟨htype, hrecord⟩ := bearer_eq_revoked_iff.1 hbearer
        exact ⟨hw, key, now, latest, hdecode, hnow, hlatest, hcurrent, persisted_iff.1 htype,
          hrecord⟩
    · rintro ⟨hw, key, now, latest, hdecode, hnow, hlatest, hcurrent, htype, hrecord⟩
      have hlive := svc.liveKey_eq_ok_iff.2 ⟨hdecode, now, latest, hnow, hlatest, hcurrent⟩
      have hbearer := bearer_eq_revoked_iff.2 ⟨persisted_iff.2 htype, hrecord⟩
      exact ⟨.inr ⟨key, hlive, hbearer⟩, hw⟩

end Service

end Credentials
