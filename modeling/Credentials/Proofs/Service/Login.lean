import Credentials.Proofs.Service.Agreement
import Credentials.Proofs.Service.Privilege
import Credentials.Proofs.Service.Rejection
import Credentials.Proofs.Service.Stateless

/-!
# Logins

A valid request for a login, a valid request for its companion with a live
companion of the same subject, and the exchange of a live companion all bring the
same two keys: without an id and an issuer, from the issue time on, and for the
times that the service is set up with. So the time of their end is bounded by the
clock, although the issue time is the client's. The two ways to exchange a
companion differ in nothing else either.
-/

namespace Credentials

/-- A key of a login. It has no id and nobody issued it. -/
def loginKey (keyType : KeyType) (subject : String) (issuedAt expiry : Instant) : Key where
  id := none
  keyType := keyType
  issuer := ""
  subject := subject
  issuedAt := issuedAt
  expiresAt := some expiry

/-- A request for the keys of a login at a time, to be made with its companion. -/
def companionRequest (subject : String) (now : Instant) : Key :=
  { keyType := .refresh, subject, issuedAt := now }

namespace Service

variable {σ : Type} (svc : Service)

/-! ## Ways to log in -/

/-- The ways to the keys of a login at a time, each with the subject and the issue time of the
keys. -/
inductive LogsIn (now : Instant) : Operation → String → Instant → Prop where
  | request {token : String} {key : Key} (htype : key.keyType = .access)
      (hvalid : svc.vet (.showing now) key = .ok ()) :
      LogsIn now (.issue token key) key.subject key.issuedAt
  | companion {token : String} {key caller : Key} (htype : key.keyType = .refresh)
      (hvalid : svc.vet (.showing now) key = .ok ())
      (hdecode : svc.codec.decode token = .ok caller) (hlive : svc.IsLive (.showing now) caller)
      (hrefresh : caller.keyType = .refresh) (hown : caller.subject = key.subject) :
      LogsIn now (.issue token key) key.subject key.issuedAt
  | exchange {token : String} {caller : Key} (hdecode : svc.codec.decode token = .ok caller)
      (hlive : svc.IsLive (.showing now) caller) (hrefresh : caller.keyType = .refresh) :
      LogsIn now (.refresh token) caller.subject now

variable {svc} in
theorem LogsIn.subject_ne {now issuedAt : Instant} {op : Operation} {subject : String}
    (h : svc.LogsIn now op subject issuedAt) : subject ≠ "" := by
  cases h with
  | request _ hvalid => exact svc.subject_of_vet hvalid
  | companion _ hvalid => exact svc.subject_of_vet hvalid
  | exchange hdecode => exact svc.subject_of_decode hdecode

theorem issuedAt_le_of_vet {now : Instant} {key : Key}
    (h : svc.vet (.showing now) key = .ok ()) :
    key.issuedAt.nanos ≤ now.nanos + svc.clockSkew.nanos := by
  obtain ⟨_, latest, ⟨⟩, hlatest, hvalid⟩ := svc.vet_eq_ok_iff.1 h
  have hissued : key.issuedAt.nanos ≤ latest.nanos := hvalid.issued
  have hsum := Instant.ofNanos?_eq_some_iff.1 hlatest
  omega

variable {svc} in
/-- No login begins later than the tolerance of the service allows. -/
theorem LogsIn.issuedAt_le {now issuedAt : Instant} {op : Operation} {subject : String}
    (h : svc.LogsIn now op subject issuedAt) :
    issuedAt.nanos ≤ now.nanos + svc.clockSkew.nanos := by
  cases h with
  | request _ hvalid => exact svc.issuedAt_le_of_vet hvalid
  | companion _ hvalid => exact svc.issuedAt_le_of_vet hvalid
  | exchange => omega

theorem refresh_showing (now : Instant) (token : String) :
    (svc.refresh (.showing now) token : Action σ Token)
      = settle (svc.caller (.showing now) token .refresh >>= fun caller =>
          svc.loginPair caller.subject now) := rfl

variable {svc} in
/-- All ways to log in come to the same. -/
theorem LogsIn.perform_eq {now issuedAt : Instant} {op : Operation} {subject : String}
    (h : svc.LogsIn now op subject issuedAt) (b : Backend σ) (s : σ) :
    svc.perform b (.showing now) op s
      = settle (.token <$> svc.loginPair subject issuedAt) s := by
  rw [← map_settle]
  cases h with
  | @request token key htype hvalid =>
    have hlogin : svc.login (.showing now) token key = svc.loginPair key.subject key.issuedAt := by
      rw [login, hvalid, htype]
      rfl
    simp only [perform, Functor.map, EStateM.map,
      svc.issue_of_stateless s (stateless_iff.2 (.inl htype)), hlogin]
  | @companion token key caller htype hvalid hdecode hlive hrefresh hown =>
    have hcaller := svc.caller_eq_ok_iff.2 ⟨hdecode, hlive, hrefresh⟩
    have hlogin : svc.login (.showing now) token key = svc.loginPair key.subject key.issuedAt := by
      rw [login, hvalid, htype]
      simp only [bind, Except.bind, if_true, hcaller, hown, ne_eq, not_true_eq_false, if_false]
    simp only [perform, Functor.map, EStateM.map,
      svc.issue_of_stateless s (stateless_iff.2 (.inr htype)), hlogin]
  | exchange hdecode hlive hrefresh =>
    have hcaller := svc.caller_eq_ok_iff.2 ⟨hdecode, hlive, hrefresh⟩
    rw [perform, refresh_showing, hcaller]
    rfl

/-! ## Keys of a login -/

theorem decode_loginKey {keyType : KeyType} {subject : String} (h : subject ≠ "")
    (issuedAt expiry : Instant) :
    svc.codec.decode (svc.codec.encode (loginKey keyType subject issuedAt expiry))
      = .ok (loginKey keyType subject issuedAt.floor expiry.floor) :=
  svc.codec.decode_encode_of_subject_ne h

theorem loginPair_of_after? {issuedAt accessEnd refreshEnd : Instant}
    (haccess : issuedAt.after? svc.accessLifetime = some accessEnd)
    (hrefresh : issuedAt.after? svc.refreshLifetime = some refreshEnd) (subject : String) :
    svc.loginPair subject issuedAt = .ok (.pair
      (svc.codec.encode (loginKey .access subject issuedAt accessEnd))
      (svc.codec.encode (loginKey .refresh subject issuedAt refreshEnd))) :=
  svc.loginPair_eq_ok_iff.2
    ⟨accessEnd, refreshEnd, expiry_eq_ok_iff.2 haccess, expiry_eq_ok_iff.2 hrefresh, rfl⟩

/-- A login is refused whose keys would end beyond the range of instants. -/
theorem loginPair_of_after?_eq_none {issuedAt : Instant}
    (h : issuedAt.after? svc.accessLifetime = none ∨ issuedAt.after? svc.refreshLifetime = none)
    (subject : String) :
    svc.loginPair subject issuedAt
      = .error (.refused (.malformed "expiration out of range")) := by
  rw [loginPair, expiry, expiry]
  cases haccess : issuedAt.after? svc.accessLifetime with
  | none => rfl
  | some accessEnd =>
    rw [h.resolve_left (by simp [haccess])]
    rfl

/-- A key of a login ends at the latest when its lifetime has passed since the latest issue time
that was tolerated. -/
theorem refuses_loginKey {now later issuedAt expiry : Instant} {lifetime : Duration}
    (hissued : issuedAt.nanos ≤ now.nanos + svc.clockSkew.nanos)
    (hexpiry : issuedAt.after? lifetime = some expiry)
    (hlater : now.nanos + svc.clockSkew.nanos + lifetime.nanos ≤ later.nanos)
    (hrange : later.after? svc.clockSkew ≠ none) {subject : String} (hsubject : subject ≠ "")
    (keyType : KeyType) :
    svc.Refuses (.showing later)
      (svc.codec.encode (loginKey keyType subject issuedAt expiry)) .expired := by
  obtain ⟨latest, hlatest⟩ := Option.ne_none_iff_exists'.1 hrange
  have hend := Instant.ofNanos?_eq_some_iff.1 hexpiry
  have hbound := Instant.ofNanos?_eq_some_iff.1 hlatest
  have hbegun : issuedAt.floor ≤ latest := by
    have hfloor := issuedAt.floor_le
    rw [Instant.le_def] at *
    omega
  have hended : expiry.floor ≤ later := by
    have hfloor := expiry.floor_le
    rw [Instant.le_def] at *
    omega
  exact svc.refuses_of_liveKey <| svc.liveKey_eq_expired_iff.2
    ⟨_, later, latest, svc.decode_loginKey hsubject issuedAt expiry, rfl, hlatest, hbegun,
      decide_eq_true hended⟩

/-! ## What a login does not depend on -/

/-- Nobody's token is looked at for a login. -/
theorem issue_access_of_token {key : Key} (h : key.keyType = .access) (b : Backend σ)
    (clock : Clock) (token other : String) :
    svc.issue b clock token key = svc.issue b clock other key := by
  rw [issue_eq, issue_eq, h]

/-- Nor what the request says of an id, an issuer and an expiry. -/
theorem issue_of_stateless_fields {key : Key} (h : key.keyType = .access ∨ key.keyType = .refresh)
    (b : Backend σ) (clock : Clock) (token : String) (id : Option String) (issuer : String)
    (expiresAt : Option Instant) :
    svc.issue b clock token { key with id, issuer, expiresAt } = svc.issue b clock token key := by
  cases key
  rcases h with htype | htype
  · cases htype
    rfl
  · cases htype
    rfl

/-! ## The two keys of a login -/

/-- Every login mints the keys that the service is set up for. Unless one of them would end beyond
the range of instants, it hands out a token for each and no id: a login and its companion, of the
subject, with times at whole seconds, and without an id and an issuer. Each of them is refused as
expired from the time on that lies the tolerance and its lifetime after the login. A login does not
depend on anybody's token, and a request for it not on the id, the issuer and the expiry that it
gives. -/
theorem login_mints_configured_pair {now issuedAt : Instant} {op : Operation} {subject : String}
    (hlogin : svc.LogsIn now op subject issuedAt) :
    (issuedAt.after? svc.accessLifetime = none ∨ issuedAt.after? svc.refreshLifetime = none →
      ∀ (σ : Type) (b : Backend σ) (s : σ), svc.perform b (.showing now) op s
        = .error (.refused (.malformed "expiration out of range")) s) ∧
    (∀ accessEnd refreshEnd, issuedAt.after? svc.accessLifetime = some accessEnd →
      issuedAt.after? svc.refreshLifetime = some refreshEnd →
      ∃ access refresh,
        (∀ (σ : Type) (b : Backend σ) (s : σ), svc.perform b (.showing now) op s
          = .ok (.token {
              accessToken := access
              refreshToken := some refresh
              accessType := "Bearer"
              keyId := none }) s) ∧
        svc.codec.decode access
          = .ok (loginKey .access subject issuedAt.floor accessEnd.floor) ∧
        svc.codec.decode refresh
          = .ok (loginKey .refresh subject issuedAt.floor refreshEnd.floor) ∧
        ∀ later : Instant, later.after? svc.clockSkew ≠ none →
          (now.nanos + svc.clockSkew.nanos + svc.accessLifetime.nanos ≤ later.nanos →
            svc.Refuses (.showing later) access .expired) ∧
          (now.nanos + svc.clockSkew.nanos + svc.refreshLifetime.nanos ≤ later.nanos →
            svc.Refuses (.showing later) refresh .expired)) ∧
    ∀ (σ : Type) (b : Backend σ) (clock : Clock) (token : String) (key : Key),
      (key.keyType = .access → ∀ other,
        svc.issue b clock token key = svc.issue b clock other key) ∧
      (key.keyType = .access ∨ key.keyType = .refresh → ∀ id issuer expiresAt,
        svc.issue b clock token { key with id, issuer, expiresAt }
          = svc.issue b clock token key) := by
  have hsubject := hlogin.subject_ne
  have hissued := hlogin.issuedAt_le
  refine ⟨?overrun, ?minted, ?ignored⟩
  case overrun =>
    intro hrange σ b s
    rw [hlogin.perform_eq, svc.loginPair_of_after?_eq_none hrange]
    rfl
  case minted =>
    intro accessEnd refreshEnd haccess hrefresh
    refine ⟨_, _, ?_, svc.decode_loginKey hsubject issuedAt accessEnd,
      svc.decode_loginKey hsubject issuedAt refreshEnd, fun later hrange => ⟨?_, ?_⟩⟩
    · intro σ b s
      rw [hlogin.perform_eq, svc.loginPair_of_after? haccess hrefresh]
      rfl
    · intro hlater
      exact svc.refuses_loginKey hissued haccess hlater hrange hsubject .access
    · intro hlater
      exact svc.refuses_loginKey hissued hrefresh hlater hrange hsubject .refresh
  case ignored =>
    intro σ b clock token key
    exact ⟨fun htype other => svc.issue_access_of_token htype b clock token other,
      fun htype => svc.issue_of_stateless_fields htype b clock token⟩

/-- Alice logs in, and half an hour and five seconds later her login is good for nothing. -/
theorem login_mints_configured_pair_for_alice :
    let request : Key := { keyType := .access, subject := "alice", issuedAt := morning }
    let later : Instant := ⟨1699921805250000000, by decide, by decide⟩
    usual.vet (.showing morning) request = .ok () ∧
      ∃ access refresh,
        usual.perform (World.backend "k") (.showing morning) (.issue "" request) {}
          = .ok (.token (.pair access refresh)) {} ∧
        usual.perform (World.backend "k") (.showing later) (.identify access) {}
          = .error .expired {} := by
  intro request later
  have hvet : usual.vet (.showing morning) request = .ok () := rfl
  have hlogin : usual.LogsIn morning (.issue "" request) "alice" morning := .request rfl hvet
  obtain ⟨-, hminted, -⟩ := usual.login_mints_configured_pair hlogin
  obtain ⟨access, refresh, hissue, -, -, hends⟩ := hminted _ _ rfl rfl
  have hexpired := (hends later (by decide)).1 (by decide)
  exact ⟨hvet, access, refresh, hissue World (World.backend "k") {},
    hexpired World (World.backend "k") {} (.identify access) rfl trivial⟩

/-! ## The two ways to exchange a companion -/

/-- A request to exchange a companion now has no flaw of its own. -/
theorem vet_companionRequest {now : Instant} (hepoch : now ≠ .epoch)
    (hrange : now.after? svc.clockSkew ≠ none) {subject : String} (hsubject : subject ≠ "") :
    svc.vet (.showing now) (companionRequest subject now) = .ok () := by
  obtain ⟨latest, hlatest⟩ := Option.ne_none_iff_exists'.1 hrange
  have hsum := Instant.ofNanos?_eq_some_iff.1 hlatest
  have hissued : now ≤ latest := by
    rw [Instant.le_def]
    omega
  exact svc.vet_eq_ok_iff.2 ⟨now, latest, rfl, hlatest, hsubject, hepoch, hissued, nofun⟩

theorem issue_companionRequest {now : Instant} (hepoch : now ≠ .epoch)
    (hrange : now.after? svc.clockSkew ≠ none) {subject : String} (hsubject : subject ≠ "")
    (b : Backend σ) (token : String) :
    svc.issue b (.showing now) token (companionRequest subject now)
      = settle (svc.caller (.showing now) token .refresh >>= fun caller =>
          if caller.subject ≠ subject then reject .subjectMismatch
          else svc.loginPair subject now) := by
  rw [issue_eq, svc.vet_companionRequest hepoch hrange hsubject, settle_ok_bind]
  rfl

/-- The two ways to exchange a companion agree. At any time but the epoch, the exchange of a token
and the request for its subject with that token come to the same, be it the two tokens of a login
or a refusal; and a token that tells no key is refused both ways for the same reason, whatever
subject is named. -/
theorem exchange_ways_agree (token : String) {now : Instant} (hepoch : now ≠ .epoch)
    (hrange : now.after? svc.clockSkew ≠ none) (b : Backend σ) (s : σ) :
    (∀ key, svc.codec.decode token = .ok key →
      svc.issue b (.showing now) token (companionRequest key.subject now) s
        = svc.refresh (.showing now) token s) ∧
    ∀ e, svc.codec.decode token = .error e → ∃ reason,
      svc.refresh (.showing now) token s = .error (.refused (.authentication reason)) s ∧
      ∀ subject, subject ≠ "" →
        svc.issue b (.showing now) token (companionRequest subject now) s
          = .error (.refused (.authentication reason)) s := by
  constructor
  · intro key hdecode
    have hsubject := svc.subject_of_decode hdecode
    rw [svc.issue_companionRequest hepoch hrange hsubject, refresh_showing]
    cases hcaller : svc.caller (.showing now) token .refresh with
    | error halt => rfl
    | ok caller =>
      -- the caller is the key that the token tells, so the subjects are the same
      have hsame := hdecode.symm.trans (svc.decode_of_caller hcaller)
      cases hsame
      simp only [bind, Except.bind, ne_eq, not_true_eq_false, if_false]
  · intro e hdecode
    obtain ⟨reason, hcaller⟩ := svc.caller_of_decode_eq_error hdecode (.showing now) .refresh
    refine ⟨reason, ?_, fun subject hsubject => ?_⟩
    · rw [refresh_showing, hcaller]
      rfl
    · rw [svc.issue_companionRequest hepoch hrange hsubject, hcaller]
      rfl

/-- Alice gets two tokens for her companion, and the same ones when she names herself. Without a
token she gets none either way. -/
theorem exchange_ways_agree_for_alice :
    let companion := usual.codec.encode (morningCompanion "alice")
    let b := World.backend "k"
    (∃ t, usual.refresh (.showing morning) companion ({} : World) = .ok t {} ∧
      usual.issue b (.showing morning) companion (companionRequest "alice" morning) {}
        = .ok t {}) ∧
    usual.issue b (.showing morning) "" (companionRequest "alice" morning) {}
      = usual.refresh (.showing morning) "" {} := by
  intro companion b
  have hepoch : morning ≠ .epoch := by decide
  have hrange : morning.after? usual.clockSkew ≠ none := by decide
  have hcaller := caller_morningCompanion (show "alice" ≠ "" by decide)
  have hagree := (usual.exchange_ways_agree companion hepoch hrange b {}).1 _
    (usual.decode_of_caller hcaller)
  obtain ⟨reason, hrefresh, hissue⟩ :=
    (usual.exchange_ways_agree "" hepoch hrange b {}).2 (.malformed .parts) (by decide)
  refine ⟨?_, (hissue "alice" (by decide)).trans hrefresh.symm⟩
  have hrefreshed : ∃ t, usual.refresh (.showing morning) companion ({} : World) = .ok t {} := by
    rw [refresh_showing, hcaller]
    exact ⟨_, rfl⟩
  obtain ⟨t, ht⟩ := hrefreshed
  exact ⟨t, ht, hagree.trans ht⟩

end Service

end Credentials
