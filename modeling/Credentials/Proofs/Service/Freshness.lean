import Credentials.Proofs.Config.Variables
import Credentials.Proofs.Service.Login

/-!
# Credentials are good on arrival

A token tells its times at whole seconds, so that a key may live almost a second
less than the service is set up for. Yet no key is expired when it is issued, nor
before the second of its issue has run its lifetime: a configuration that is read
from variables knows lifetimes of whole seconds only, and of at least one.
-/

namespace Credentials

/-! ## Lifetimes -/

/-- Whether a duration is a number of whole seconds, and at least one. -/
def Duration.IsWhole (d : Duration) : Prop := ∃ n, 1 ≤ n ∧ d = .ofSeconds n

namespace Config

variable {lookup : String → Option String}

/-- A number of seconds that has to be at least one makes a duration of whole seconds. -/
theorem isWhole_of_sets {value : Option String} {default : Nat} {d : Duration}
    (hdefault : Duration.IsWhole ⟨default⟩) (hvalue : IsNumberFrom 1 value)
    (h : Sets 1000000000 default value d) : d.IsWhole := by
  cases h with
  | unset => exact hdefault
  | number h =>
    obtain ⟨n, hn, hleast, -⟩ := hvalue _ rfl
    rw [h.unique hn]
    exact ⟨n, hleast, rfl⟩

theorem isWhole_of_ofLookup {config : Config} (h : ofLookup lookup = .ok config) :
    config.accessLifetime.IsWhole ∧ config.refreshLifetime.IsWhole ∧
      config.recoveryLifetime.IsWhole := by
  have hwell := (exists_ofLookup_iff lookup).1 ⟨config, h⟩
  have hset := isSetBy_of_ofLookup h
  exact ⟨isWhole_of_sets ⟨1800, by decide, rfl⟩ (hwell .accessLifetime) hset.accessLifetime,
    isWhole_of_sets ⟨86400, by decide, rfl⟩ (hwell .refreshLifetime) hset.refreshLifetime,
    isWhole_of_sets ⟨300, by decide, rfl⟩ (hwell .recoveryLifetime) hset.recoveryLifetime⟩

end Config

/-! ## Whole seconds -/

namespace Instant

variable {now ending : Instant} {d : Duration}

/-- The second of an instant has not run a lifetime by then. -/
theorem lt_floor_add (now : Instant) (h : d.IsWhole) : now.nanos < now.floor.nanos + d.nanos := by
  obtain ⟨n, hn, rfl⟩ := h
  obtain ⟨-, -, hsecond⟩ := now.floor_spec
  simp only [Duration.ofSeconds]
  omega

/-- A number of whole seconds after an instant, the second has advanced by as many. -/
theorem floor_after (h : d.IsWhole) (hending : now.after? d = some ending) :
    ending.floor.nanos = now.floor.nanos + d.nanos := by
  obtain ⟨n, -, rfl⟩ := h
  have hsum := ofNanos?_eq_some_iff.1 hending
  have hfloor (t : Instant) : t.floor.nanos = t.nanos / 1000000000 * 1000000000 := rfl
  rw [hfloor, hfloor, hsum]
  simp only [Duration.ofSeconds]
  omega

end Instant

namespace Service

variable (svc : Service)

/-- The service of a configuration has its lifetimes. -/
theorem lifetimes_of_ofConfig {config : Config} {svc : Service} (h : ofConfig config = .ok svc) :
    svc.accessLifetime = config.accessLifetime ∧ svc.refreshLifetime = config.refreshLifetime ∧
      svc.recoveryLifetime = config.recoveryLifetime := by
  rw [ofConfig_eq] at h
  split at h
  · cases h
  · cases h
    exact ⟨rfl, rfl, rfl⟩

/-! ## Times of use -/

/-- Whether a lifetime is of whole seconds, and ends with the tolerance of the service within the
range of instants if it begins at `now`. -/
structure IsSound (now : Instant) (lifetime : Duration) : Prop where
  whole : lifetime.IsWhole
  range : now.nanos + lifetime.nanos + svc.clockSkew.nanos ≤ Instant.latest

/-- Within a lifetime of the issue of a key, both counted at whole seconds, the key has begun and
has not ended. -/
theorem exists_latest {now later ending : Instant} {lifetime : Duration}
    (hsound : svc.IsSound now lifetime)
    (hending : now.after? lifetime = some ending) (hfrom : now ≤ later)
    (huntil : later.nanos < now.floor.nanos + lifetime.nanos) :
    ∃ latest, later.after? svc.clockSkew = some latest ∧ now.floor ≤ latest ∧
      later < ending.floor := by
  have hfloor := now.floor_le
  have hend := Instant.floor_after hsound.whole hending
  have hrange := hsound.range
  rw [Instant.le_def] at hfrom hfloor
  have htolerable : later.after? svc.clockSkew ≠ none := by
    rw [Ne, Instant.after?_eq_none_iff]
    omega
  obtain ⟨latest, hlatest⟩ := Option.ne_none_iff_exists'.1 htolerable
  have hsum := Instant.ofNanos?_eq_some_iff.1 hlatest
  refine ⟨latest, hlatest, ?_, ?_⟩
  · rw [Instant.le_def]
    omega
  · rw [Instant.lt_def]
    omega

theorem isLive_loginKey {now later ending : Instant} {lifetime : Duration}
    (hsound : svc.IsSound now lifetime)
    (hending : now.after? lifetime = some ending) (hfrom : now ≤ later)
    (huntil : later.nanos < now.floor.nanos + lifetime.nanos) (keyType : KeyType)
    (subject : String) :
    svc.IsLive (.showing later) (loginKey keyType subject now.floor ending.floor) := by
  obtain ⟨latest, hlatest, hissued, hended⟩ := svc.exists_latest hsound hending hfrom huntil
  refine ⟨later, latest, rfl, hlatest, hissued, ?_, nofun⟩
  rintro _ ⟨⟩
  exact hended

/-! ## Logins -/

section

variable {σ : Type} {issuedAt later ending : Instant} {subject : String}

theorem identify_loginKey (hsubject : subject ≠ "")
    (hlive : svc.IsLive (.showing later) (loginKey .access subject issuedAt.floor ending.floor))
    (b : Backend σ) (s : σ) :
    svc.identify b (.showing later)
      (svc.codec.encode (loginKey .access subject issuedAt ending)) s = .ok subject s := by
  have hkey := svc.liveKey_eq_ok_iff.2 ⟨svc.decode_loginKey hsubject issuedAt ending, hlive⟩
  rw [identify_eq]
  exact settle_bind_eq_ok_iff.2 ⟨_, hkey, rfl⟩

theorem refresh_loginKey (hsubject : subject ≠ "")
    (hlive : svc.IsLive (.showing later) (loginKey .refresh subject issuedAt.floor ending.floor))
    (s : σ) :
    svc.refresh (.showing later) (svc.codec.encode (loginKey .refresh subject issuedAt ending)) s
      = settle (svc.loginPair subject later) s := by
  have hcaller : svc.caller (.showing later)
      (svc.codec.encode (loginKey .refresh subject issuedAt ending)) .refresh
        = .ok (loginKey .refresh subject issuedAt.floor ending.floor) :=
    svc.caller_eq_ok_iff.2 ⟨svc.decode_loginKey hsubject issuedAt ending, hlive, rfl⟩
  rw [refresh_showing, hcaller]
  rfl

theorem loginPair_cases (subject : String) (issuedAt : Instant) :
    (∃ t, svc.loginPair subject issuedAt = .ok t) ∨
      svc.loginPair subject issuedAt
        = .error (.refused (.malformed "expiration out of range")) := by
  cases haccess : issuedAt.after? svc.accessLifetime with
  | none => exact .inr (svc.loginPair_of_after?_eq_none (.inl haccess) subject)
  | some accessEnd =>
    cases hrefresh : issuedAt.after? svc.refreshLifetime with
    | none => exact .inr (svc.loginPair_of_after?_eq_none (.inr hrefresh) subject)
    | some refreshEnd => exact .inl ⟨_, svc.loginPair_of_after? haccess hrefresh subject⟩

end

/-- Whether the tokens of a login that was made at `now` are good from then on for as long as the
service is set up for: the first one tells its subject, with whatever backends, and the second one
can be exchanged, unless the new keys would end beyond the range of instants. -/
structure IsGoodLogin (now : Instant) (subject : String) (t : Token) : Prop where
  identified : ∀ {σ : Type} (b : Backend σ) (later : Instant) (s : σ), now ≤ later →
    later.nanos < now.floor.nanos + svc.accessLifetime.nanos →
    svc.identify b (.showing later) t.accessToken s = .ok subject s
  exchanged : ∃ refreshToken, t.refreshToken = some refreshToken ∧
    ∀ {σ : Type} (later : Instant) (s : σ), now ≤ later →
      later.nanos < now.floor.nanos + svc.refreshLifetime.nanos →
      (∃ fresh, svc.refresh (.showing later) refreshToken s = .ok fresh s) ∨
        svc.refresh (.showing later) refreshToken s
          = .error (.refused (.malformed "expiration out of range")) s

/-- The keys of a login that is made now are good. -/
theorem isGoodLogin_of_loginPair {now : Instant} {subject : String} {t : Token}
    (haccess : svc.IsSound now svc.accessLifetime) (hrefresh : svc.IsSound now svc.refreshLifetime)
    (hsubject : subject ≠ "") (h : svc.loginPair subject now = .ok t) :
    svc.IsGoodLogin now subject t := by
  obtain ⟨accessEnd, refreshEnd, haccessEnd, hrefreshEnd, -⟩ := svc.loginPair_eq_ok_iff.1 h
  rw [expiry_eq_ok_iff] at haccessEnd hrefreshEnd
  rw [svc.loginPair_of_after? haccessEnd hrefreshEnd] at h
  obtain rfl := Except.ok.inj h
  constructor
  case identified =>
    intro σ b later s hfrom huntil
    have hlive := svc.isLive_loginKey haccess haccessEnd hfrom huntil
    exact svc.identify_loginKey hsubject (hlive .access subject) b s
  case exchanged =>
    refine ⟨_, rfl, ?_⟩
    intro σ later s hfrom huntil
    have hlive := svc.isLive_loginKey hrefresh hrefreshEnd hfrom huntil
    rw [svc.refresh_loginKey hsubject (hlive .refresh subject)]
    obtain ⟨fresh, hfresh⟩ | hbeyond := svc.loginPair_cases subject later
    · exact .inl ⟨fresh, by rw [hfresh, settle_ok]⟩
    · exact .inr (by rw [hbeyond, settle_error])

/-! ## Recovery keys -/

/-- The token of a recovery key is good until its issuer removes the key. -/
theorem identify_of_issue_recovery {drawn : String} (hdrawn : drawn ≠ "") {key : Key}
    (htype : key.keyType = .recovery) (hsound : svc.IsSound key.issuedAt svc.recoveryLifetime)
    {clock : Clock} {token : String} {w v : World} {t : Token}
    (hissue : svc.issue (World.backend drawn) clock token key w = .ok t v) :
    ∃ caller, svc.caller clock token .access = .ok caller ∧
      ∀ (events : List Event) (fresh : String) (later : Instant),
        events.any (svc.removes caller.subject drawn) = false → key.issuedAt ≤ later →
        later.nanos < key.issuedAt.floor.nanos + svc.recoveryLifetime.nanos →
        svc.identify (World.backend fresh) (.showing later) t.accessToken (svc.run v events)
          = .ok key.subject (svc.run v events) := by
  obtain ⟨caller, expiresAt, hcaller, hexpiry, hfiled, hfound, rfl⟩ :=
    isFiled_of_issue hdrawn (persisted_iff.2 (.inr htype)) hissue
  obtain ⟨ending, rfl, hsum⟩ := svc.storedExpiry_of_recovery htype hexpiry
  have hending : key.issuedAt.after? svc.recoveryLifetime = some ending :=
    Instant.ofNanos?_eq_some_iff.2 hsum
  refine ⟨caller, hcaller, fun events fresh later hkept hfrom huntil => ?_⟩
  obtain ⟨latest, hlatest, hissued, hended⟩ := svc.exists_latest hsound hending hfrom huntil
  have hidentify := hfiled.identify (Clock.shown_showing later) hlatest fresh (svc.run v events)
  rw [vouches_run hfound, hkept] at hidentify
  rw [Token.persisted, hidentify]
  have hbegun : ¬ latest < key.issuedAt.floor := fun h => Instant.lt_iff_not_le.1 h hissued
  have hunexpired : ¬ ((some ending).any (·.floor ≤ later) = true) := by
    simpa using Instant.lt_iff_not_le.1 hended
  rw [if_neg hbegun, if_neg hunexpired]
  rfl

/-! ## On arrival -/

/-- No credential is dead on arrival. If a service is set up from variables and the clock leaves
room for its lifetimes and its tolerance, each lifetime reaches beyond the time of issue, even
counted from the second in which that lies. The tokens of a login with the present time, and of an
exchange, are good for as long, whatever the backends are and hold; and so is that of a recovery key
until its issuer removes the key, whatever else is done. -/
theorem credentials_are_good_on_arrival {lookup : String → Option String} {config : Config}
    (hconfig : Config.ofLookup lookup = .ok config) (hsvc : ofConfig config = .ok svc)
    {now : Instant}
    (hrange : ∀ lifetime ∈ [svc.accessLifetime, svc.refreshLifetime, svc.recoveryLifetime],
      now.nanos + lifetime.nanos + svc.clockSkew.nanos ≤ Instant.latest) :
    (∀ lifetime ∈ [svc.accessLifetime, svc.refreshLifetime, svc.recoveryLifetime],
      now.nanos < now.floor.nanos + lifetime.nanos) ∧
    (∀ {σ : Type} (b : Backend σ) (s u : σ) (token : String) (key : Key) (t : Token),
      key.keyType = .access ∨ key.keyType = .refresh → key.issuedAt = now →
      svc.issue b (.showing now) token key s = .ok t u → svc.IsGoodLogin now key.subject t) ∧
    (∀ {σ : Type} (s u : σ) (token : String) (t : Token),
      svc.refresh (.showing now) token s = .ok t u →
      ∃ caller, svc.codec.decode token = .ok caller ∧ svc.IsGoodLogin now caller.subject t) ∧
    ∀ (drawn token : String) (key : Key) (w v : World) (t : Token), drawn ≠ "" →
      key.keyType = .recovery → key.issuedAt = now →
      svc.issue (World.backend drawn) (.showing now) token key w = .ok t v →
      ∃ caller, svc.codec.decode token = .ok caller ∧
        ∀ (events : List Event) (fresh : String) (later : Instant),
          events.any (svc.removes caller.subject drawn) = false → now ≤ later →
          later.nanos < now.floor.nanos + svc.recoveryLifetime.nanos →
          svc.identify (World.backend fresh) (.showing later) t.accessToken (svc.run v events)
            = .ok key.subject (svc.run v events) := by
  obtain ⟨haccess, hrefresh, hrecovery⟩ := Config.isWhole_of_ofLookup hconfig
  obtain ⟨haccessEq, hrefreshEq, hrecoveryEq⟩ := lifetimes_of_ofConfig hsvc
  rw [← haccessEq] at haccess
  rw [← hrefreshEq] at hrefresh
  rw [← hrecoveryEq] at hrecovery
  simp only [List.forall_mem_cons, List.not_mem_nil, false_imp_iff, implies_true, and_true]
    at hrange ⊢
  obtain ⟨haccessRange, hrefreshRange, hrecoveryRange⟩ := hrange
  have hgood {subject : String} {t : Token} (hsubject : subject ≠ "")
      (hpair : svc.loginPair subject now = .ok t) : svc.IsGoodLogin now subject t :=
    svc.isGoodLogin_of_loginPair ⟨haccess, haccessRange⟩ ⟨hrefresh, hrefreshRange⟩ hsubject hpair
  refine ⟨⟨now.lt_floor_add haccess, now.lt_floor_add hrefresh, now.lt_floor_add hrecovery⟩,
    ?login, ?exchange, ?recovery⟩
  case login =>
    intro σ b s u token key t htype hissued hissue
    rw [svc.issue_of_stateless s (stateless_iff.2 htype)] at hissue
    obtain ⟨hlogin, -⟩ := settle_eq_ok_iff.1 hissue
    obtain ⟨_, hvet, -⟩ := bind_eq_ok_iff.1 hlogin
    obtain ⟨hpair, -⟩ := svc.loginPair_of_login hlogin
    rw [hissued] at hpair
    exact hgood (svc.subject_of_vet hvet) hpair
  case exchange =>
    intro σ s u token t hrefreshed
    obtain ⟨hexchange, -⟩ := settle_eq_ok_iff.1 hrefreshed
    obtain ⟨caller, _, hcaller, ⟨⟩, hpair⟩ := svc.loginPair_of_exchange hexchange
    have hdecode := svc.decode_of_caller hcaller
    exact ⟨caller, hdecode, hgood (svc.subject_of_decode hdecode) hpair⟩
  case recovery =>
    intro drawn token key w v t hdrawn htype hissued hissue
    subst hissued
    obtain ⟨caller, hcaller, hidentify⟩ :=
      svc.identify_of_issue_recovery hdrawn htype ⟨hrecovery, hrecoveryRange⟩ hissue
    exact ⟨caller, svc.decode_of_caller hcaller, hidentify⟩

/-- Variables that ask for logins of one second. -/
def briefVariables : String → Option String
  | "VIGIL_SECRET" => some "0123456789abcdef0123456789abcdef"
  | "VIGIL_ACCESS_DURATION_SECS" => some "1"
  | _ => none

/-- What these variables say. -/
def briefConfig : Config where
  secret := lenientConfig.secret
  accessLifetime := .ofSeconds 1

/-- Alice logs in for a second when there is only a nanosecond left of the present one, and her
login is good at once. -/
theorem brief_login_is_good_on_arrival :
    let now : Instant := ⟨1699920000999999999, by decide, by decide⟩
    let b := World.backend "k"
    Config.ofLookup briefVariables = .ok briefConfig ∧
      ∃ svc t, ofConfig briefConfig = .ok svc ∧
        svc.issue b (.showing now) ""
          { keyType := .access, subject := "alice", issuedAt := now } {} = .ok t {} ∧
        svc.identify b (.showing now) t.accessToken {} = .ok "alice" {} := by
  intro now b
  have hconfig : Config.ofLookup briefVariables = .ok briefConfig := rfl
  obtain ⟨svc, hsvc, haccess, hrefresh, hrecovery, hskew⟩ : ∃ svc, ofConfig briefConfig = .ok svc ∧
      svc.accessLifetime = .ofSeconds 1 ∧ svc.refreshLifetime = .ofSeconds 86400 ∧
      svc.recoveryLifetime = .ofSeconds 300 ∧ svc.clockSkew = .ofSeconds 5 :=
    ⟨_, rfl, rfl, rfl, rfl, rfl⟩
  have hrange : ∀ lifetime ∈ [svc.accessLifetime, svc.refreshLifetime, svc.recoveryLifetime],
      now.nanos + lifetime.nanos + svc.clockSkew.nanos ≤ Instant.latest := by
    rw [haccess, hrefresh, hrecovery, hskew]
    decide
  obtain ⟨harrival, hlogin, -⟩ := svc.credentials_are_good_on_arrival hconfig hsvc hrange
  let request : Key := { keyType := .access, subject := "alice", issuedAt := now }
  have hvet : svc.vet (.showing now) request = .ok () := by
    refine svc.vet_eq_ok_iff.2 ⟨now, ⟨1699920005999999999, by decide, by decide⟩, rfl, ?_,
      by decide, by decide, by decide, nofun⟩
    rw [hskew]
    rfl
  have haccessEnd : now.after? svc.accessLifetime
      = some ⟨1699920001999999999, by decide, by decide⟩ := by
    rw [haccess]
    rfl
  have hrefreshEnd : now.after? svc.refreshLifetime
      = some ⟨1700006400999999999, by decide, by decide⟩ := by
    rw [hrefresh]
    rfl
  obtain ⟨t, hpair⟩ : ∃ t, svc.loginPair "alice" now = .ok t :=
    ⟨_, svc.loginPair_of_after? haccessEnd hrefreshEnd "alice"⟩
  have hissue : svc.issue b (.showing now) "" request {} = .ok t {} := by
    have hstateless : request.keyType.persistence = .stateless := rfl
    refine (svc.issue_of_stateless _ hstateless _ _ _).trans (settle_eq_ok_iff.2 ⟨?_, rfl⟩)
    rw [login, hvet]
    exact hpair
  have hgood := hlogin b {} {} "" request t (.inl rfl) rfl hissue
  have hstarts := harrival svc.accessLifetime List.mem_cons_self
  exact ⟨hconfig, svc, t, hsvc, hissue, hgood.identified b now {} (Int.le_refl _) hstarts⟩

end Service

end Credentials
