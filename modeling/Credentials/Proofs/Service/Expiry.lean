import Credentials.Proofs.Service.Halting
import Credentials.Proofs.Service.Upkeep

/-!
# The end of a token

A token that has expired stays expired. Every operation that takes a token finds
this out in the same way, from the token and the clock alone, and before it turns
to the type of the key, to its subject or to a backend. So once one of them has
refused a token as expired, all of them do, at any later time and whatever the
backends hold by then.
-/

namespace Credentials

theorem Instant.le_trans {a b c : Instant} (hab : a ≤ b) (hbc : b ≤ c) : a ≤ c := by
  rw [le_def] at *
  omega

/-- A sum is no earlier for a later summand. -/
theorem Instant.after?_le {a b c d : Instant} {lifetime : Duration}
    (ha : a.after? lifetime = some c) (hb : b.after? lifetime = some d) (hab : a ≤ b) : c ≤ d := by
  have hc := ofNanos?_eq_some_iff.1 ha
  have hd := ofNanos?_eq_some_iff.1 hb
  rw [le_def] at *
  omega

/-- Time does not make an expired key good again, with or without an expiry. -/
theorem Key.isExpiredAt_of_le {key : Key} {now later : Instant} (h : key.isExpiredAt now = true)
    (hlater : now ≤ later) : key.isExpiredAt later = true := by
  obtain ⟨id, keyType, issuer, subject, issuedAt, expiresAt⟩ := key
  cases expiresAt with
  | some expiry =>
    have hexpiry : expiry ≤ now := of_decide_eq_true h
    exact decide_eq_true (Instant.le_trans hexpiry hlater)
  | none => cases keyType <;> exact h

namespace Service

variable {σ τ : Type} (svc : Service)

/-! ## Expired tokens -/

/-- A token has expired exactly if it tells a key that has begun and has ended. Neither the type of
the key nor any backend matters. -/
theorem liveKey_eq_expired_iff {clock : Clock} {token : String} :
    svc.liveKey clock token = .error .expired ↔ ∃ key now latest,
      svc.codec.decode token = .ok key ∧ clock.shown = some now ∧
      now.after? svc.clockSkew = some latest ∧ key.issuedAt ≤ latest ∧
      key.isExpiredAt now = true := by
  have hdecode : svc.decode token ≠ .error .expired := by
    intro h
    obtain ⟨reason, heq, hreason⟩ := svc.decode_eq_error h
    cases heq
    simp at hreason
  rw [liveKey_eq_error_iff, or_iff_right hdecode]
  simp [checkValidity_eq_error_iff, Halt.expired]

/-- An expired token stays expired, as long as the clock is of use. -/
theorem liveKey_eq_expired_of_le {token : String} {now later : Instant}
    (h : svc.liveKey (.showing now) token = .error .expired) (hlater : now ≤ later)
    (hrange : later.after? svc.clockSkew ≠ none) :
    svc.liveKey (.showing later) token = .error .expired := by
  obtain ⟨key, _, latest, hdecode, ⟨⟩, hlatest, hissued, hexpired⟩ := svc.liveKey_eq_expired_iff.1 h
  obtain ⟨bound, hbound⟩ := Option.ne_none_iff_exists'.1 hrange
  have hbegun : key.issuedAt ≤ bound :=
    Instant.le_trans hissued (Instant.after?_le hlatest hbound hlater)
  exact svc.liveKey_eq_expired_iff.2
    ⟨key, later, bound, hdecode, rfl, hbound, hbegun, key.isExpiredAt_of_le hexpired hlater⟩

/-! ## Operations with an expired token -/

/-- Whether nothing is wrong with an operation but maybe its token: a request for a key has to be
valid by the clock. -/
def IsInOrder (clock : Clock) : Operation → Prop
  | .issue _ request => svc.vet clock request = .ok ()
  | _ => True

theorem vet_ne_expired {clock : Clock} {key : Key} : svc.vet clock key ≠ .error .expired := by
  intro h
  obtain hclock | ⟨text, htext⟩ := svc.vet_eq_error h
  · cases hclock
  · cases htext

/-- An operation with a token ends in its expiry exactly if there is nothing else to say before, and
leaves the backends alone then. -/
theorem perform_eq_expired_iff (b : Backend σ) {clock : Clock} {op : Operation} {token : String}
    (htoken : callerToken? op = some token) {s t : σ} :
    svc.perform b clock op s = .error .expired t ↔
      svc.IsInOrder clock op ∧ svc.liveKey clock token = .error .expired ∧ t = s := by
  rw [svc.perform_eq_error_iff .late, ← and_assoc]
  refine and_congr_left fun _ => ?_
  cases op with
  | issue source request =>
    rw [callerToken?] at htoken
    split at htoken
    · cases htoken
    next htype =>
    cases htoken
    simp [EndsIn, IsInOrder, svc.vet_ne_expired, htype]
  | refresh source | identify source | retrieve source id | revoke source id =>
    cases htoken
    exact (and_iff_right trivial).symm
  | authorize r | addPolicy r | deletePolicy r => cases htoken
  | listObjects subject relation => cases htoken
  | listSubjects object relation => cases htoken

/-- Expiry is final, and the same for all. Once some operation has refused a token as expired, every
operation with that token that is in order does so at every later time, whatever the type of its
key and whatever any backends hold, and leaves them alone. -/
theorem expiry_is_final {b : Backend σ} {op : Operation} {token : String} {now : Instant} {s t : σ}
    (htoken : callerToken? op = some token)
    (hexpired : svc.perform b (.showing now) op s = .error .expired t) {later : Instant}
    (hlater : now ≤ later) (hrange : later.after? svc.clockSkew ≠ none) {again : Operation}
    (hagain : callerToken? again = some token) (horder : svc.IsInOrder (.showing later) again)
    (c : Backend τ) (u : τ) :
    svc.perform c (.showing later) again u = .error .expired u := by
  obtain ⟨-, hlive, -⟩ := (svc.perform_eq_expired_iff b htoken).1 hexpired
  exact (svc.perform_eq_expired_iff c hagain).2
    ⟨horder, svc.liveKey_eq_expired_of_le hlive hlater hrange, rfl⟩

/-! ## An expired token -/

/-- The record of the recovery key that Alice has issued. -/
def recoveryRecord : Key := {
  recoveryKey with id := some "r", issuer := "alice", expiresAt := some recoveryEnd }

theorem liveKey_recoveryRecord :
    usual.liveKey (.showing recoveryEnd) (usual.codec.encode recoveryRecord) = .error .expired := by
  have hfiled : IsFiled "r" recoveryRecord := ⟨rfl, by decide, by decide, rfl, nofun⟩
  have hbegun : recoveryRecord.signed.issuedAt ≤ ⟨1699920305250000000, by decide, by decide⟩ := by
    decide
  have hended : recoveryRecord.signed.isExpiredAt recoveryEnd = true := by decide
  exact usual.liveKey_eq_expired_iff.2
    ⟨_, recoveryEnd, _, hfiled.decode usual.codec, rfl, rfl, hbegun, hended⟩

/-- Five minutes after it was issued, Alice's recovery key is refused as expired although its record
is there. So it is an hour later without a record, when it is used as if it were a login. -/
theorem expiry_is_final_for_alice :
    let token := usual.codec.encode recoveryRecord
    let w : World := { keys := { records := [("r", recoveryRecord)] } }
    let later : Instant := ⟨1699923900250000000, by decide, by decide⟩
    usual.perform (World.backend "") (.showing recoveryEnd) (.identify token) w
        = .error .expired w ∧
      usual.perform (World.backend "k") (.showing later) (.issue token standingKey) {}
        = .error .expired {} := by
  intro token w later
  have hfirst : usual.perform (World.backend "") (.showing recoveryEnd) (.identify token) w
      = .error .expired w :=
    (usual.perform_eq_expired_iff _ rfl).2 ⟨trivial, liveKey_recoveryRecord, rfl⟩
  have horder : usual.IsInOrder (.showing later) (.issue token standingKey) := rfl
  exact ⟨hfirst,
    usual.expiry_is_final rfl hfirst (by decide) (by decide) rfl horder (World.backend "k") {}⟩

end Service

end Credentials
