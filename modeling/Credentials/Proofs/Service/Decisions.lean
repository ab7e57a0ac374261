import Credentials.Proofs.Codec.Soundness
import Credentials.Service.Basic

/-!
# Decisions of a service

What a service decides before it turns to a backend, as conditions on the token
and the clock: whether a key is live, and whose call it is.
-/

namespace Credentials

/-! ## Current keys -/

theorem Instant.lt_iff_not_le {a b : Instant} : a < b ↔ ¬ b ≤ a := by
  rw [Instant.lt_def, Instant.le_def]
  omega

/-- A key that has begun and has not ended: at `now`, and with issue times tolerated up to
`latest`. Only an API key may do without an expiry. -/
structure Key.IsCurrent (key : Key) (now latest : Instant) : Prop where
  issued : key.issuedAt ≤ latest
  unexpired : ∀ expiry, key.expiresAt = some expiry → now < expiry
  endless : key.expiresAt = none → key.keyType = .api

theorem Key.isExpiredAt_eq_false_iff {key : Key} {now : Instant} :
    key.isExpiredAt now = false ↔
      (∀ expiry, key.expiresAt = some expiry → now < expiry) ∧
        (key.expiresAt = none → key.keyType = .api) := by
  obtain ⟨id, keyType, issuer, subject, issuedAt, expiresAt⟩ := key
  cases expiresAt with
  | some expiry => simp [isExpiredAt, Instant.lt_iff_not_le]
  | none => cases keyType <;> simp [isExpiredAt]

theorem Key.isCurrent_iff {key : Key} {now latest : Instant} :
    key.IsCurrent now latest ↔ key.issuedAt ≤ latest ∧ key.isExpiredAt now = false := by
  rw [isExpiredAt_eq_false_iff]
  constructor
  · intro h
    exact ⟨h.issued, h.unexpired, h.endless⟩
  · rintro ⟨hissued, hunexpired, hendless⟩
    exact ⟨hissued, hunexpired, hendless⟩

namespace Service

variable {σ α β : Type} (svc : Service)

/-! ## Decisions as actions -/

@[simp] theorem settle_ok (a : α) (s : σ) : settle (.ok a) s = .ok a s := rfl

@[simp] theorem settle_error (h : Halt) (s : σ) : (settle (.error h) : Action σ α) s = .error h s :=
  rfl

theorem settle_bind (x : Except Halt α) (f : α → Action σ β) (s : σ) :
    (settle x >>= f) s = match x with
      | .ok a => f a s
      | .error h => .error h s := by
  cases x <;> rfl

theorem settle_eq_ok_iff {x : Except Halt α} {s t : σ} {a : α} :
    settle x s = .ok a t ↔ x = .ok a ∧ t = s := by
  cases x with
  | error h => simp
  | ok b => simp [eq_comm]

theorem settle_eq_error_iff {x : Except Halt α} {s t : σ} {h : Halt} :
    settle x s = .error h t ↔ x = .error h ∧ t = s := by
  cases x with
  | error g => simp [eq_comm]
  | ok a => simp

theorem settle_bind_settle (x : Except Halt α) (f : α → Except Halt β) :
    (settle x >>= fun a => settle (f a)) = (settle (x >>= f) : Action σ β) := by
  cases x <;> rfl

theorem map_eq_ok_iff {f : α → β} {act : Action σ α} {s u : σ} {b : β} :
    (f <$> act) s = .ok b u ↔ ∃ a, act s = .ok a u ∧ f a = b := by
  simp only [Functor.map, EStateM.map]
  cases act s with
  | ok a t => simp [and_comm, and_assoc]
  | error halt t => simp

theorem map_eq_error_iff {f : α → β} {act : Action σ α} {s t : σ} {h : Halt} :
    (f <$> act) s = .error h t ↔ act s = .error h t := by
  simp only [Functor.map, EStateM.map]
  cases act s <;> simp

theorem seq_eq_ok_iff {act : Action σ α} {f : α → Action σ β} {s t : σ} {b : β} :
    (act >>= f) s = .ok b t ↔ ∃ a u, act s = .ok a u ∧ f a u = .ok b t := by
  simp only [bind, EStateM.bind]
  cases act s <;> simp [and_assoc]

theorem settle_bind_eq_ok_iff {x : Except Halt α} {f : α → Action σ β} {s t : σ} {b : β} :
    (settle x >>= f) s = .ok b t ↔ ∃ a, x = .ok a ∧ f a s = .ok b t := by
  rw [settle_bind]
  cases x <;> simp

theorem bounded_eq_ok_iff {ε : Type} {purpose : String} {convert : ε → ServiceError}
    {call : Call σ ε α} {s t : σ} {a : α} :
    svc.bounded purpose convert call s = .ok a t ↔ call svc.backendTimeout s = (.value a, t) := by
  rw [bounded]
  split <;> simp [*]

theorem look_eq_ok_iff {clock : Clock} {now : Instant} :
    look clock = .ok now ↔ clock.shown = some now := by
  rw [look]
  cases clock.shown <;> simp

theorem look_eq_error_iff {clock : Clock} {halt : Halt} :
    look clock = .error halt ↔ clock.shown = none ∧ halt = .clockOutOfRange := by
  rw [look]
  cases clock.shown <;> simp [eq_comm]

/-! ## Live keys -/

/-- A key that is current by a clock. The clock has to show a time, and the tolerance of the
service has to stay within the range of instants. -/
def IsLive (clock : Clock) (key : Key) : Prop :=
  ∃ now latest, clock.shown = some now ∧ now.after? svc.clockSkew = some latest ∧
    key.IsCurrent now latest

/-- The key of a token, which has to be live. -/
def liveKey (clock : Clock) (token : String) : Except Halt Key := do
  let key ← svc.decode token
  let now ← look clock
  svc.checkValidity now key
  return key

theorem decode_eq_ok_iff {token : String} {key : Key} :
    svc.decode token = .ok key ↔ svc.codec.decode token = .ok key := by
  rw [Service.decode]
  by_cases h : token = ""
  · subst h
    have hparts : TokenParts.ofText? "" = none := by decide
    simp [reject, Codec.decode, hparts]
  · rw [if_neg h]
    cases svc.codec.decode token <;> simp

theorem checkValidity_of_after? {now latest : Instant}
    (h : now.after? svc.clockSkew = some latest) (key : Key) :
    svc.checkValidity now key =
      if latest < key.issuedAt then reject .issuedInFuture
      else if key.isExpiredAt now then reject .expired
      else .ok () := by
  rw [checkValidity, horizon, h]
  rfl

theorem checkValidity_eq_ok_iff {now : Instant} {key : Key} :
    svc.checkValidity now key = .ok () ↔
      ∃ latest, now.after? svc.clockSkew = some latest ∧ key.IsCurrent now latest := by
  cases h : now.after? svc.clockSkew with
  | none => simp [checkValidity, horizon, h, bind, Except.bind]
  | some latest =>
    simp only [Option.some.injEq, exists_eq_left', Key.isCurrent_iff]
    rw [svc.checkValidity_of_after? h]
    by_cases hissued : key.issuedAt ≤ latest <;> by_cases hexpired : key.isExpiredAt now = true <;>
      simp [Instant.lt_iff_not_le, hissued, hexpired, reject]

theorem liveKey_eq_ok_iff {clock : Clock} {token : String} {key : Key} :
    svc.liveKey clock token = .ok key ↔
      svc.codec.decode token = .ok key ∧ svc.IsLive clock key := by
  simp only [liveKey, bind_eq_ok_iff, decode_eq_ok_iff, look_eq_ok_iff]
  constructor
  · rintro ⟨found, hdecode, now, hnow, ⟨⟩, hvalid, hkey⟩
    cases hkey
    obtain ⟨latest, hlatest, hcurrent⟩ := svc.checkValidity_eq_ok_iff.1 hvalid
    exact ⟨hdecode, now, latest, hnow, hlatest, hcurrent⟩
  · rintro ⟨hdecode, now, latest, hnow, hlatest, hcurrent⟩
    have hvalid := svc.checkValidity_eq_ok_iff.2 ⟨latest, hlatest, hcurrent⟩
    exact ⟨key, hdecode, now, hnow, (), hvalid, rfl⟩

/-- The order in which a decoded key is judged: its beginning, then its end. -/
theorem liveKey_of_decode {clock : Clock} {token : String} {key : Key} {now latest : Instant}
    (hdecode : svc.codec.decode token = .ok key) (hnow : clock.shown = some now)
    (hlatest : now.after? svc.clockSkew = some latest) :
    svc.liveKey clock token =
      if latest < key.issuedAt then reject .issuedInFuture
      else if key.isExpiredAt now then reject .expired
      else .ok key := by
  have hlook := look_eq_ok_iff.2 hnow
  have hkey := svc.decode_eq_ok_iff.2 hdecode
  rw [liveKey, hkey]
  simp only [bind, Except.bind, hlook, svc.checkValidity_of_after? hlatest]
  by_cases hissued : latest < key.issuedAt
  · simp only [if_pos hissued]
    rfl
  · simp only [if_neg hissued]
    by_cases hexpired : key.isExpiredAt now = true
    · simp only [if_pos hexpired]
      rfl
    · simp only [if_neg hexpired]
      rfl

/-! ## Tokens that are not live -/

/-- Why a token may tell no key. -/
theorem decode_eq_error {token : String} {halt : Halt} (h : svc.decode token = .error halt) :
    ∃ reason, halt = .refused (.authentication reason) ∧
      (reason = .missingToken ∨ reason = .badSignature ∨ reason = .malformed) := by
  rw [Service.decode] at h
  split at h
  · cases h
    exact ⟨.missingToken, rfl, .inl rfl⟩
  · split at h
    · cases h
    · next e _ =>
      cases h
      cases e with
      | badSignature => exact ⟨.badSignature, rfl, .inr (.inl rfl)⟩
      | malformed text => exact ⟨.malformed, rfl, .inr (.inr rfl)⟩

/-- Why a key may not be current. -/
theorem checkValidity_eq_error_iff {now : Instant} {key : Key} {halt : Halt} :
    svc.checkValidity now key = .error halt ↔
      now.after? svc.clockSkew = none ∧ halt = .clockOutOfRange ∨
      ∃ latest, now.after? svc.clockSkew = some latest ∧
        (latest < key.issuedAt ∧ halt = .refused (.authentication .issuedInFuture) ∨
          key.issuedAt ≤ latest ∧ key.isExpiredAt now = true ∧
            halt = .refused (.authentication .expired)) := by
  cases h : now.after? svc.clockSkew with
  | none =>
    have hhorizon : svc.checkValidity now key = .error .clockOutOfRange := by
      rw [checkValidity, horizon, h]
      rfl
    rw [hhorizon, Except.error.injEq, eq_comm]
    simp
  | some latest =>
    rw [svc.checkValidity_of_after? h, eq_comm]
    by_cases hissued : key.issuedAt ≤ latest <;> by_cases hexpired : key.isExpiredAt now = true <;>
      simp [Instant.lt_iff_not_le, hissued, hexpired, reject]

/-- A token that is not live tells no key, or no current one. -/
theorem liveKey_eq_error_iff {clock : Clock} {token : String} {halt : Halt} :
    svc.liveKey clock token = .error halt ↔ svc.decode token = .error halt ∨
      ∃ key, svc.codec.decode token = .ok key ∧ (clock.shown = none ∧ halt = .clockOutOfRange ∨
        ∃ now, clock.shown = some now ∧ svc.checkValidity now key = .error halt) := by
  simp [liveKey, bind_eq_error_iff, decode_eq_ok_iff, look_eq_ok_iff, look_eq_error_iff, pure,
    Except.pure]

/-- A token that is not live is refused as a credential, unless the clock is of no use. Whether its
key was revoked is not for the token to tell. -/
theorem liveKey_eq_error {clock : Clock} {token : String} {halt : Halt}
    (h : svc.liveKey clock token = .error halt) :
    halt = .clockOutOfRange ∨
      ∃ reason, halt = .refused (.authentication reason) ∧ reason ≠ .revoked := by
  rcases svc.liveKey_eq_error_iff.1 h with
    hdecode | ⟨key, -, ⟨-, hclock⟩ | ⟨now, -, hvalid⟩⟩
  · obtain ⟨reason, rfl, rfl | rfl | rfl⟩ := svc.decode_eq_error hdecode
    · exact .inr ⟨_, rfl, nofun⟩
    · exact .inr ⟨_, rfl, nofun⟩
    · exact .inr ⟨_, rfl, nofun⟩
  · exact .inl hclock
  · rcases svc.checkValidity_eq_error_iff.1 hvalid with
      ⟨-, hclock⟩ | ⟨latest, -, ⟨-, rfl⟩ | ⟨-, -, rfl⟩⟩
    · exact .inl hclock
    · exact .inr ⟨_, rfl, nofun⟩
    · exact .inr ⟨_, rfl, nofun⟩

theorem liveKey_ne_revoked (clock : Clock) (token : String) :
    svc.liveKey clock token ≠ .error (.refused (.authentication .revoked)) := by
  intro h
  obtain hclock | ⟨reason, heq, hreason⟩ := svc.liveKey_eq_error h
  · cases hclock
  · cases heq
    exact hreason rfl

/-! ## Callers -/

/-- A caller is the live key of the token, if it is of the expected type. -/
theorem caller_eq (clock : Clock) (token : String) (expected : KeyType) :
    svc.caller clock token expected = (svc.liveKey clock token >>= fun key =>
      if key.keyType = expected then .ok key else reject .wrongKeyType) := by
  simp only [caller, liveKey, bind_assoc, pure_bind]

theorem caller_eq_ok_iff {clock : Clock} {token : String} {expected : KeyType} {key : Key} :
    svc.caller clock token expected = .ok key ↔
      svc.codec.decode token = .ok key ∧ svc.IsLive clock key ∧ key.keyType = expected := by
  rw [caller_eq, bind_eq_ok_iff]
  constructor
  · rintro ⟨found, hlive, htype⟩
    split at htype
    · next h =>
      cases htype
      obtain ⟨hdecode, hlive⟩ := svc.liveKey_eq_ok_iff.1 hlive
      exact ⟨hdecode, hlive, h⟩
    · cases htype
  · rintro ⟨hdecode, hlive, htype⟩
    exact ⟨key, svc.liveKey_eq_ok_iff.2 ⟨hdecode, hlive⟩, if_pos htype⟩

/-! ## Tokens of its own -/

/-- A token that the service signed itself passes for the key that it tells, as long as that
key is live. -/
theorem caller_encode {clock : Clock} {key : Key} (hsubject : key.subject ≠ "")
    (hlive : svc.IsLive clock key.signed) :
    svc.caller clock (svc.codec.encode key) key.keyType = .ok key.signed := by
  have hdecode := svc.codec.decode_encode_of_subject_ne hsubject
  exact svc.caller_eq_ok_iff.2 ⟨hdecode, hlive, rfl⟩

end Service

end Credentials
