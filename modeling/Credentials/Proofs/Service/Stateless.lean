import Credentials.Proofs.Service.Expiry
import Credentials.Proofs.Service.Reactions

/-!
# Credentials without records

A login needs no backend: it is issued, exchanged and recognized by the service
and the clock alone. The same goes for every token that does not tell a live
stored key, since the key store is asked about no other. So neither what is done
to the key store nor what is done to the policy agent ever shows in the answers.
-/

namespace Credentials.Service

variable {σ α β : Type} (svc : Service)

theorem settle_ok_bind (a : α) (f : α → Action σ β) : settle (.ok a) >>= f = f a := rfl

theorem map_settle (f : α → β) (x : Except Halt α) :
    (f <$> settle x : Action σ β) = settle (f <$> x) := by
  cases x <;> rfl

/-- Whether an operation needs no backend: a request for login keys, the exchange of a refresh
token, and the question about a token that does not tell a live stored key. -/
def IsStateless (clock : Clock) : Operation → Prop
  | .issue _ key => key.keyType = .access ∨ key.keyType = .refresh
  | .refresh _ => True
  | .identify token => ¬ ∃ key, svc.codec.decode token = .ok key ∧
      (key.keyType = .api ∨ key.keyType = .recovery) ∧ svc.IsLive clock key
  | .retrieve _ _ | .revoke _ _ | .authorize _ | .addPolicy _ | .deletePolicy _
  | .listObjects _ _ | .listSubjects _ _ => False

/-- The store is asked about live stored keys only. Any other key is judged before. -/
theorem identify_of_isStateless {clock : Clock} {token : String}
    (h : svc.IsStateless clock (.identify token)) (b : Backend σ) :
    svc.identify b clock token = settle (svc.liveKey clock token >>= fun key =>
      if key.keyType = .refresh then reject .wrongKeyType else .ok key.subject) := by
  rw [identify_eq, ← settle_bind_settle]
  cases hlive : svc.liveKey clock token with
  | error halt => rfl
  | ok key =>
    obtain ⟨hdecode, hkey⟩ := svc.liveKey_eq_ok_iff.1 hlive
    have hstateless : key.keyType.persistence = .stateless := by
      cases htype : key.keyType.persistence with
      | stateless => rfl
      | persisted => exact absurd ⟨key, hdecode, persisted_iff.1 htype, hkey⟩ h
    rw [settle_ok_bind, settle_ok_bind, hstateless]
    split <;> rfl

/-- The answer to an operation without need of backends, which is the same for all of them. -/
theorem exists_perform_eq_settle {clock : Clock} {op : Operation} (h : svc.IsStateless clock op) :
    ∃ x : Except Halt Answer, ∀ {σ : Type} (b : Backend σ) (s : σ),
      svc.perform b clock op s = settle x s := by
  cases op with
  | issue token key =>
    refine ⟨.token <$> svc.login clock token key, fun {σ} b s => ?_⟩
    rw [← map_settle, perform]
    simp only [Functor.map, EStateM.map, svc.issue_of_stateless s (stateless_iff.2 h) clock token b]
  | refresh token =>
    refine ⟨.token <$> svc.exchange clock token, fun {σ} b s => ?_⟩
    rw [← map_settle, perform, refresh]
  | identify token =>
    refine ⟨.subject <$> (svc.liveKey clock token >>= fun key =>
      if key.keyType = .refresh then reject .wrongKeyType else .ok key.subject), fun {σ} b s => ?_⟩
    rw [← map_settle, perform, svc.identify_of_isStateless h]
  | retrieve token id => cases h
  | revoke token id => cases h
  | authorize r => cases h
  | addPolicy r => cases h
  | deletePolicy r => cases h
  | listObjects subject relation => cases h
  | listSubjects object relation => cases h

/-- Login credentials do not depend on backends. An operation that needs none gives one answer
whatever backends there are and whatever they hold, and leaves them alone. So no course of events,
be it revocations, records, changes of relationships or an agent that is away, changes what it comes
to. -/
theorem stateless_needs_no_backend {clock : Clock} {op : Operation} (h : svc.IsStateless clock op) :
    (∃ x : Except Halt Answer, ∀ {σ : Type} (b : Backend σ) (s : σ),
      svc.perform b clock op s = settle x s) ∧
    ∀ (w : World) (events : List Event) (drawn fresh : String),
      svc.react (svc.run w events) (.call clock drawn op)
        = ((svc.react w (.call clock fresh op)).1, svc.run w events) := by
  obtain ⟨x, hx⟩ := svc.exists_perform_eq_settle h
  have hreact (w : World) (drawn : String) :
      svc.react w (.call clock drawn op) = (.ofResult id x, w) := by
    rw [react, hx]
    cases x <;> rfl
  refine ⟨⟨x, hx⟩, fun w events drawn fresh => ?_⟩
  rw [hreact, hreact]

/-- Alice's login is taken for her whatever has been done before. Her recovery key is called expired
after its time, and not revoked, although its record is gone by then. -/
theorem stateless_needs_no_backend_for_alice :
    let login := usual.codec.encode (morningLogin "alice")
    let recovery := usual.codec.encode recoveryRecord
    let events : List Event := [
      .call (.showing morning) "" (.addPolicy (.admin "bob")),
      .call (.showing morning) "" (.revoke login "r"),
      .save "s" standingKey,
      .switch false]
    let w : World := usual.run { keys := { records := [("r", recoveryRecord)] } } events
    usual.react w (.call (.showing morning) "" (.identify login))
        = (.answered (.subject "alice"), w) ∧
      usual.react w (.call (.showing recoveryEnd) "" (.identify recovery))
        = (.halted .expired, w) := by
  intro login recovery events w
  obtain ⟨hlogin, hlive, -⟩ :=
    usual.caller_eq_ok_iff.1 (caller_morningLogin (show "alice" ≠ "" by decide))
  have hgood : usual.IsStateless (.showing morning) (.identify login) := by
    rintro ⟨key, hkey, htype, -⟩
    cases hlogin.symm.trans hkey
    rcases htype with hapi | hrecovery
    · cases hapi
    · cases hrecovery
  have hended : usual.IsStateless (.showing recoveryEnd) (.identify recovery) := by
    rintro ⟨key, hkey, -, hcurrent⟩
    cases liveKey_recoveryRecord.symm.trans (usual.liveKey_eq_ok_iff.2 ⟨hkey, hcurrent⟩)
  have hrecognized (keys : KeyStore) : (usual.liveKey (.showing morning) login >>= bearer keys)
      = .ok "alice" := by
    rw [usual.liveKey_eq_ok_iff.2 ⟨hlogin, hlive⟩]
    rfl
  have hexpired (keys : KeyStore) : (usual.liveKey (.showing recoveryEnd) recovery >>= bearer keys)
      = .error .expired := by
    rw [liveKey_recoveryRecord]
    rfl
  constructor
  · rw [(usual.stateless_needs_no_backend hgood).2 _ events "" "", react_identify, hrecognized]
    rfl
  · rw [(usual.stateless_needs_no_backend hended).2 _ events "" "", react_identify, hexpired]
    rfl

end Credentials.Service
