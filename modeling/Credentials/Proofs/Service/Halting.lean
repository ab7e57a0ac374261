import Credentials.Proofs.Service.Refusals
import Credentials.Time.Date

/-!
# When a service halts

A service refuses what it cannot do and says why, with one exception. Before it
judges an issue time it adds its tolerance for clocks to the time, and if that
leads out of the range of instants it halts without an answer. Here is exactly
when it does so, what becomes of all other dates out of range, and how long a
tolerance may be for a service never to halt before the year 10000.
-/

namespace Credentials

/-! ## The range of instants -/

namespace Instant

theorem after?_eq_none_iff {t : Instant} {d : Duration} :
    t.after? d = none ↔ latest < t.nanos + d.nanos := by
  have hearliest := t.earliest_le
  rw [after?, shift?, ofNanos?]
  split
  · next h => simp [h.2]
  · next h =>
    simp only [true_iff]
    omega

/-- The last instant of the year 9999. -/
def endOf9999 : Instant :=
  ⟨Date.toDay ⟨10000, 1, 1⟩ * 86400000000000 - 1, by decide, by decide⟩

end Instant

/-- The longest duration that can be added to every time up to the end of the year 9999. -/
def Duration.longestTolerance : Duration := ⟨(Instant.latest - Instant.endOf9999.nanos).toNat⟩

example : Duration.longestTolerance = .ofSeconds 7956864576000 := by decide

theorem Instant.exists_after?_eq_none_iff {d : Duration} :
    (∃ now : Instant, epoch ≤ now ∧ now ≤ endOf9999 ∧ now.after? d = none) ↔
      Duration.longestTolerance < d := by
  have hlongest : (Duration.longestTolerance.nanos : Int) = latest - endOf9999.nanos := by decide
  simp only [after?_eq_none_iff, Duration.lt_def]
  constructor
  · rintro ⟨now, -, hnow, hrange⟩
    rw [le_def] at hnow
    omega
  · intro h
    exact ⟨endOf9999, by decide, by decide, by omega⟩

/-! ## The dates of a token -/

/-- Whether a token carries claims, whoever signed it. -/
def Carries (token : String) (claims : Claims) : Prop :=
  ∃ parts, TokenParts.ofText? token = some parts ∧
    Codec.readPart Claims.ofJson? parts.claims = .ok claims

/-- The dates in the claims of an accepted token are in range. -/
theorem Codec.ofSeconds?_ne_none_of_decode {codec : Codec} {token : String} {key : Key}
    {claims : Claims} (h : codec.decode token = .ok key) (hclaims : Carries token claims) :
    Instant.ofSeconds? claims.issuedAt ≠ none ∧
      ∀ seconds, claims.expiresAt = some seconds → Instant.ofSeconds? seconds ≠ none := by
  obtain ⟨parts, said, hparts, -, -, hsaid, hkey⟩ := codec.decode_eq_ok h
  obtain ⟨parts', hparts', hclaims⟩ := hclaims
  cases hparts.symm.trans hparts'
  cases hsaid.symm.trans hclaims
  have hmade := (codec.keyOfClaims_eq_ok hkey).1
  simp only [Claims.ofKey, Claims.mk.injEq] at hmade
  obtain ⟨-, -, -, -, -, hissued, hexpires⟩ := hmade
  constructor
  · simp [← hissued, Instant.ofSeconds?_seconds]
  · intro seconds hseconds
    rw [← hexpires] at hseconds
    obtain ⟨t, -, rfl⟩ := Option.map_eq_some_iff.1 hseconds
    simp [Instant.ofSeconds?_seconds]

namespace Service

variable {σ : Type} (svc : Service)

/-! ## Configurations -/

/-- The durations of a configuration that a service computes with, by the names of their
settings. -/
def durations (config : Config) : List (String × Duration) :=
  [("access_duration", config.accessLifetime), ("refresh_duration", config.refreshLifetime),
    ("recovery_duration", config.recoveryLifetime), ("clock_skew", config.clockSkew)]

theorem checkDuration_eq (setting : String) (d : Duration) :
    checkDuration setting d =
      if longestDuration < d then .error (.ofConfig (.durationOutOfRange setting)) else .ok d := by
  rw [checkDuration]
  by_cases h : d ≤ longestDuration
  · have hnot : ¬ longestDuration < d := Nat.not_lt.2 h
    rw [if_pos h, if_neg hnot]
  · have hlt : longestDuration < d := Nat.not_le.1 h
    rw [if_neg h, if_pos hlt]

/-- A configuration is refused for the first of its durations that is too long, and only for
that. -/
theorem ofConfig_eq (config : Config) :
    ofConfig config = match (durations config).find? fun s => longestDuration < s.2 with
      | some s => .error (.ofConfig (.durationOutOfRange s.1))
      | none => .ok {
          codec := ⟨config.secret, config.tokenIssuer⟩
          accessLifetime := config.accessLifetime
          refreshLifetime := config.refreshLifetime
          recoveryLifetime := config.recoveryLifetime
          clockSkew := config.clockSkew
          backendTimeout := config.backendTimeout } := by
  simp only [ofConfig, durations, checkDuration_eq, List.find?_cons, List.find?_nil]
  by_cases haccess : longestDuration < config.accessLifetime
  · simp [haccess, bind, Except.bind]
  by_cases hrefresh : longestDuration < config.refreshLifetime
  · simp [haccess, hrefresh, bind, Except.bind]
  by_cases hrecovery : longestDuration < config.recoveryLifetime
  · simp [haccess, hrefresh, hrecovery, bind, Except.bind]
  by_cases hskew : longestDuration < config.clockSkew
  · simp [haccess, hrefresh, hrecovery, hskew, bind, Except.bind]
  · simp [haccess, hrefresh, hrecovery, hskew, bind, Except.bind, pure, Except.pure]

/-! ## Decisions that halt -/

/-- A token is judged by the clock once it has told a key. -/
theorem liveKey_eq_halt_iff {now : Instant} {token : String} :
    svc.liveKey (.showing now) token = .error .clockOutOfRange ↔
      (∃ key, svc.codec.decode token = .ok key) ∧ now.after? svc.clockSkew = none := by
  have hdecode : svc.decode token ≠ .error .clockOutOfRange := by
    intro h
    obtain ⟨reason, hreason, -⟩ := svc.decode_eq_error h
    cases hreason
  simp [liveKey_eq_error_iff, checkValidity_eq_error_iff, hdecode]

/-- A request is judged by the clock once it names a subject and an issue time. -/
theorem vet_eq_halt_iff {now : Instant} {key : Key} :
    svc.vet (.showing now) key = .error .clockOutOfRange ↔
      (key.subject ≠ "" ∧ key.hasIssueTime = true) ∧ now.after? svc.clockSkew = none := by
  change svc.validateRequest now key = .error .clockOutOfRange ↔ _
  rw [validateRequest]
  by_cases hsubject : key.subject = ""
  · simp [hsubject, malformed]
  by_cases hissued : key.hasIssueTime = true
  · simp only [if_neg hsubject, hissued, bind_eq_error_iff, horizon_eq_error_iff, Bool.not_true,
      Bool.false_eq_true, if_false, and_true]
    constructor
    · rintro (h | ⟨latest, -, h⟩)
      · exact ⟨hsubject, h⟩
      · split at h
        · cases h
        · split at h <;> cases h
    · rintro ⟨-, h⟩
      exact .inl h
  · simp [hsubject, hissued, malformed]

/-! ## Operations that halt -/

/-- Whether an operation gets as far as adding the tolerance to the time: with a request that
names a subject and an issue time, or with a token that tells a key. -/
def ReachesTolerance : Operation → Prop
  | .issue _ key => key.subject ≠ "" ∧ key.hasIssueTime = true
  | .refresh token | .identify token | .retrieve token _ | .revoke token _ =>
    ∃ key, svc.codec.decode token = .ok key
  | .authorize _ | .addPolicy _ | .deletePolicy _ | .listObjects _ _ | .listSubjects _ _ => False

/-- Whether an operation halts at a time: it adds the tolerance to the time, and the sum is out of
range. -/
def Stumbles (now : Instant) (op : Operation) : Prop :=
  svc.ReachesTolerance op ∧ now.after? svc.clockSkew = none

theorem after?_ne_none_of_vet {now : Instant} {key : Key}
    (h : svc.vet (.showing now) key = .ok ()) : now.after? svc.clockSkew ≠ none := by
  obtain ⟨_, latest, ⟨⟩, hlatest, -⟩ := svc.vet_eq_ok_iff.1 h
  simp [hlatest]

theorem endsIn_iff_stumbles {now : Instant} {op : Operation} :
    svc.EndsIn (.showing now) .clockOutOfRange op ↔ svc.Stumbles now op := by
  cases op with
  | issue token key =>
    rw [EndsIn, Stumbles, ReachesTolerance, ← vet_eq_halt_iff, or_iff_left]
    -- the sum that a valid request was compared with serves for the caller's token as well
    rintro ⟨hvet, -, hlive⟩
    exact svc.after?_ne_none_of_vet hvet (svc.liveKey_eq_halt_iff.1 hlive).2
  | refresh token => exact svc.liveKey_eq_halt_iff
  | identify token => exact svc.liveKey_eq_halt_iff
  | retrieve token id => exact svc.liveKey_eq_halt_iff
  | revoke token id => exact svc.liveKey_eq_halt_iff
  | authorize r => exact iff_of_false id And.left
  | addPolicy r => exact iff_of_false id And.left
  | deletePolicy r => exact iff_of_false id And.left
  | listObjects subject relation => exact iff_of_false id And.left
  | listSubjects object relation => exact iff_of_false id And.left

/-- An operation halts exactly if it stumbles, and leaves the backends alone then. -/
theorem perform_eq_halt_iff (b : Backend σ) {now : Instant} {op : Operation} {s t : σ} :
    svc.perform b (.showing now) op s = .error .clockOutOfRange t ↔
      svc.Stumbles now op ∧ t = s := by
  rw [svc.perform_eq_error_iff .clock, endsIn_iff_stumbles]

/-- Some operation stumbles at any time to which the tolerance cannot be added. -/
theorem exists_stumbles_iff {now : Instant} :
    (∃ op, svc.Stumbles now op) ↔ now.after? svc.clockSkew = none := by
  constructor
  · rintro ⟨op, -, h⟩
    exact h
  · intro h
    refine ⟨.issue "" { keyType := .access, subject := "u", issuedAt := .endOf9999 }, ?_, h⟩
    exact ⟨by decide, by decide⟩

/-! ## Operations that succeed -/

/-- Both keys of a login expire at an instant. -/
theorem after?_ne_none_of_loginPair {subject : String} {issuedAt : Instant} {t : Token}
    (h : svc.loginPair subject issuedAt = .ok t) :
    issuedAt.after? svc.accessLifetime ≠ none ∧ issuedAt.after? svc.refreshLifetime ≠ none := by
  obtain ⟨accessExpiry, refreshExpiry, haccess, hrefresh, -⟩ := svc.loginPair_eq_ok_iff.1 h
  constructor
  · simp [expiry_eq_ok_iff.1 haccess]
  · simp [expiry_eq_ok_iff.1 hrefresh]

/-- The token by which a caller shows who it is. A login needs none. -/
def callerToken? : Operation → Option String
  | .issue token key => if key.keyType = .access then none else some token
  | .refresh token | .identify token | .retrieve token _ | .revoke token _ => some token
  | .authorize _ | .addPolicy _ | .deletePolicy _ | .listObjects _ _ | .listSubjects _ _ => none

theorem decode_of_caller {clock : Clock} {token : String} {expected : KeyType} {key : Key}
    (h : svc.caller clock token expected = .ok key) : svc.codec.decode token = .ok key :=
  (svc.caller_eq_ok_iff.1 h).1

/-- An operation succeeds only for a caller whose token tells a key. -/
theorem decode_of_perform {b : Backend σ} {clock : Clock} {op : Operation} {s t : σ} {a : Answer}
    (h : svc.perform b clock op s = .ok a t) {token : String}
    (htoken : callerToken? op = some token) : ∃ key, svc.codec.decode token = .ok key := by
  cases op with
  | issue source request =>
    obtain ⟨_, hissue, -⟩ := map_eq_ok_iff.1 h
    rw [callerToken?] at htoken
    split at htoken
    · cases htoken
    next hlogin =>
    cases htoken
    cases hpersistence : request.keyType.persistence with
    | stateless =>
      rw [svc.issue_of_stateless s hpersistence, settle_eq_ok_iff] at hissue
      have htype : request.keyType = .refresh := by
        revert hlogin hpersistence
        cases request.keyType <;> decide
      obtain ⟨caller, hcaller, -⟩ := (svc.loginPair_of_login hissue.1).2 htype
      exact ⟨caller, svc.decode_of_caller hcaller⟩
    | persisted =>
      obtain ⟨-, hstored⟩ := svc.issueStored_of_issue hpersistence hissue
      obtain ⟨caller, _, _, hcaller, -⟩ := svc.issueStored_eq_ok hstored
      exact ⟨caller, svc.decode_of_caller hcaller⟩
  | refresh source =>
    cases htoken
    obtain ⟨_, hrefresh, -⟩ := map_eq_ok_iff.1 h
    obtain ⟨caller, _, hcaller, -⟩ := svc.loginPair_of_exchange (settle_eq_ok_iff.1 hrefresh).1
    exact ⟨caller, svc.decode_of_caller hcaller⟩
  | identify source =>
    cases htoken
    obtain ⟨_, hidentify, -⟩ := map_eq_ok_iff.1 h
    rw [identify_eq] at hidentify
    obtain ⟨key, hkey, -⟩ := settle_bind_eq_ok_iff.1 hidentify
    exact ⟨key, (svc.liveKey_eq_ok_iff.1 hkey).1⟩
  | retrieve source id =>
    cases htoken
    obtain ⟨_, hretrieve, -⟩ := map_eq_ok_iff.1 h
    obtain ⟨caller, hcaller, -⟩ := settle_bind_eq_ok_iff.1 hretrieve
    exact ⟨caller, svc.decode_of_caller hcaller⟩
  | revoke source id =>
    cases htoken
    obtain ⟨_, hrevoke, -⟩ := map_eq_ok_iff.1 h
    obtain ⟨caller, hcaller, -⟩ := settle_bind_eq_ok_iff.1 hrevoke
    exact ⟨caller, svc.decode_of_caller hcaller⟩
  | authorize r => cases htoken
  | addPolicy r => cases htoken
  | deletePolicy r => cases htoken
  | listObjects subject relation => cases htoken
  | listSubjects object relation => cases htoken

/-- Whether a date that an operation needs is out of range, the tolerance aside: a time in the
claims of the caller's token, or the expiry of a key to be issued. -/
inductive Overruns (now : Instant) (op : Operation) : Prop where
  | claimedIssue {token : String} {claims : Claims} (htoken : callerToken? op = some token)
      (hclaims : Carries token claims) (hrange : Instant.ofSeconds? claims.issuedAt = none)
  | claimedExpiry {token : String} {claims : Claims} {seconds : Int}
      (htoken : callerToken? op = some token) (hclaims : Carries token claims)
      (hseconds : claims.expiresAt = some seconds) (hrange : Instant.ofSeconds? seconds = none)
  | login {token : String} {key : Key} (hop : op = .issue token key)
      (htype : key.keyType.persistence = .stateless)
      (hrange : key.issuedAt.after? svc.accessLifetime = none ∨
        key.issuedAt.after? svc.refreshLifetime = none)
  | recovery {token : String} {key : Key} (hop : op = .issue token key)
      (htype : key.keyType = .recovery)
      (hrange : key.issuedAt.after? svc.recoveryLifetime = none)
  | exchange {token : String} (hop : op = .refresh token)
      (hrange : now.after? svc.accessLifetime = none ∨ now.after? svc.refreshLifetime = none)

/-- An operation succeeds only with all its dates in range. -/
theorem not_overruns_of_perform {b : Backend σ} {now : Instant} {op : Operation} {s t : σ}
    {a : Answer} (h : svc.perform b (.showing now) op s = .ok a t) : ¬ svc.Overruns now op := by
  intro hoverruns
  cases hoverruns with
  | claimedIssue htoken hclaims hrange =>
    obtain ⟨key, hdecode⟩ := svc.decode_of_perform h htoken
    exact (Codec.ofSeconds?_ne_none_of_decode hdecode hclaims).1 hrange
  | claimedExpiry htoken hclaims hseconds hrange =>
    obtain ⟨key, hdecode⟩ := svc.decode_of_perform h htoken
    exact (Codec.ofSeconds?_ne_none_of_decode hdecode hclaims).2 _ hseconds hrange
  | login hop htype hrange =>
    subst hop
    obtain ⟨_, hissue, -⟩ := map_eq_ok_iff.1 h
    rw [svc.issue_of_stateless s htype, settle_eq_ok_iff] at hissue
    have hdates := svc.after?_ne_none_of_loginPair (svc.loginPair_of_login hissue.1).1
    exact hrange.elim hdates.1 hdates.2
  | recovery hop htype hrange =>
    subst hop
    obtain ⟨_, hissue, -⟩ := map_eq_ok_iff.1 h
    obtain ⟨-, hstored⟩ := svc.issueStored_of_issue (persisted_iff.2 (.inr htype)) hissue
    obtain ⟨_, expiresAt, _, -, hexpiry, -⟩ := svc.issueStored_eq_ok hstored
    simp only [storedExpiry, htype, expiry, hrange] at hexpiry
    cases hexpiry
  | exchange hop hrange =>
    subst hop
    obtain ⟨_, hrefresh, -⟩ := map_eq_ok_iff.1 h
    obtain ⟨caller, _, -, hshown, hlogin⟩ :=
      svc.loginPair_of_exchange (settle_eq_ok_iff.1 hrefresh).1
    cases hshown
    have hdates := svc.after?_ne_none_of_loginPair hlogin
    exact hrange.elim hdates.1 hdates.2

/-- A date out of range, the tolerance aside, is a reason to refuse. -/
theorem perform_of_overruns {b : Backend σ} {now : Instant} {op : Operation} {s : σ}
    (hoverruns : svc.Overruns now op) (hstumbles : ¬ svc.Stumbles now op) :
    ∃ e t, svc.perform b (.showing now) op s = .error (.refused e) t := by
  cases h : svc.perform b (.showing now) op s with
  | ok a t => exact absurd hoverruns (svc.not_overruns_of_perform h)
  | error halt t =>
    cases halt with
    | refused e => exact ⟨e, t, rfl⟩
    | clockOutOfRange => exact absurd ((svc.perform_eq_halt_iff b).1 h).1 hstumbles

/-- What becomes of dates out of range. A configuration is refused for the first of its durations
that is longer than a service can compute with, and only for that. A service that was set up halts
exactly in the operations that stumble over the tolerance, with the backends untouched, and refuses
those in which any other date is out of range. It has operations that stumble before the year 10000
exactly if the tolerance is longer than the range of instants leaves room for. -/
theorem halts_exactly (config : Config) :
    match ofConfig config with
    | .error e => ∃ setting d,
        (durations config).find? (fun s => longestDuration < s.2) = some (setting, d) ∧
        e = .ofConfig (.durationOutOfRange setting)
    | .ok svc =>
      (∀ s ∈ durations config, s.2 ≤ longestDuration) ∧
      (∀ {σ : Type} (b : Backend σ) (now : Instant) (op : Operation) (s : σ),
        (∀ t, svc.perform b (.showing now) op s = .error .clockOutOfRange t ↔
          svc.Stumbles now op ∧ t = s) ∧
        (svc.Overruns now op → ¬ svc.Stumbles now op →
          ∃ e t, svc.perform b (.showing now) op s = .error (.refused e) t)) ∧
      ((∃ now : Instant, .epoch ≤ now ∧ now ≤ .endOf9999 ∧ ∃ op, svc.Stumbles now op) ↔
        .longestTolerance < config.clockSkew) := by
  rw [ofConfig_eq]
  cases hfind : (durations config).find? fun s => longestDuration < s.2 with
  | some s => exact ⟨s.1, s.2, rfl, rfl⟩
  | none =>
    refine ⟨?_, ?_, ?_⟩
    · intro s hs
      have hshort : ¬ longestDuration < s.2 := by simpa using List.find?_eq_none.1 hfind s hs
      exact Nat.not_lt.1 hshort
    · intro σ b now op s
      exact ⟨fun t => perform_eq_halt_iff _ b, perform_of_overruns _⟩
    · simp only [exists_stumbles_iff, Instant.exists_after?_eq_none_iff]

/-- Variables that ask for a tolerance of some 285 thousand years. -/
def lenientVariables : String → Option String
  | "VIGIL_SECRET" => some "0123456789abcdef0123456789abcdef"
  | "VIGIL_CLOCK_SKEW_SECS" => some "9000000000000"
  | _ => none

/-- What these variables say. -/
def lenientConfig : Config where
  secret := ⟨Text.utf8 "0123456789abcdef0123456789abcdef", by decide⟩
  clockSkew := .ofSeconds 9000000000000

/-- A service that was set up from variables halts in a plain login of our days. -/
theorem halts_for_lenientVariables :
    Config.ofLookup lenientVariables = .ok lenientConfig ∧
      ∃ svc, ofConfig lenientConfig = .ok svc ∧
        ∃ now : Instant, .epoch ≤ now ∧ now ≤ .endOf9999 ∧ now.seconds = 1700000000 ∧
          svc.perform (World.backend "k") (.showing now)
              (.issue "" { keyType := .access, subject := "alice", issuedAt := now }) {}
            = .error .clockOutOfRange {} := by
  refine ⟨rfl, _, rfl, ⟨1700000000000000000, by decide, by decide⟩, ?_, ?_, ?_, ?_⟩
  · decide
  · decide
  · decide
  · refine (perform_eq_halt_iff _ _).2 ⟨⟨⟨?_, ?_⟩, ?_⟩, rfl⟩
    · decide
    · decide
    · rfl

end Service

end Credentials
