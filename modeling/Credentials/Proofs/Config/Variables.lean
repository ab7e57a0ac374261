import Credentials.Proofs.Service.Halting
import Credentials.Proofs.Text.Numerals

/-!
# Configurations are read exactly

Which variables make a configuration, which configuration they make, and which of
them is reported if they make none. What each variable may be set to is said here
for itself, without the reader, and what it sets is told in nanoseconds; the reader
takes the variables one after the other and reports the first that is not set to
such a value. A configuration that has been read makes a service unless one of its
durations is too long to compute with, and then the first of these is reported.
-/

namespace Credentials

/-! ## Checks one after the other -/

section

variable {ι ε α β : Type} {p : ι → Prop} {fault : ι → ε}

/-- Whether something is the first in a list that does not have a property. -/
inductive IsFirstWithout (p : ι → Prop) (i : ι) : List ι → Prop where
  | here {list : List ι} (h : ¬ p i) : IsFirstWithout p i (i :: list)
  | later {j : ι} {list : List ι} (h : p j) (hlater : IsFirstWithout p i list) :
      IsFirstWithout p i (j :: list)

namespace IsFirstWithout

theorem not_forall {i : ι} {list : List ι} (h : IsFirstWithout p i list) :
    ¬ ∀ j ∈ list, p j := by
  intro hall
  induction h with
  | here h => exact h (hall _ List.mem_cons_self)
  | later _ _ ih => exact ih fun j hj => hall j (List.mem_cons_of_mem _ hj)

theorem unique {i j : ι} {list : List ι} (hi : IsFirstWithout p i list)
    (hj : IsFirstWithout p j list) : i = j := by
  induction hi with
  | here h =>
    cases hj with
    | here => rfl
    | later h' => exact absurd h' h
  | later h _ ih =>
    cases hj with
    | here h' => exact absurd h h'
    | later _ hlater => exact ih hlater

theorem of_find? {q : ι → Bool} (hq : ∀ i, q i = true ↔ ¬ p i) {i : ι} {list : List ι}
    (h : list.find? q = some i) : IsFirstWithout p i list := by
  induction list with
  | nil => cases h
  | cons j list ih =>
    rw [List.find?_cons] at h
    split at h
    · next hj =>
      cases h
      exact .here ((hq _).1 hj)
    · next hj =>
      have hhas : p j := by
        by_contra hlacks
        simp [(hq j).2 hlacks] at hj
      exact .later hhas (ih h)

end IsFirstWithout

/-- What comes of checking one after the other whether the members of a list have a property: a
value if all of them do, and else the fault of the first that does not. -/
inductive IsVerdict (p : ι → Prop) (fault : ι → ε) (list : List ι) : Except ε α → Prop where
  | passed {a : α} (h : ∀ i ∈ list, p i) : IsVerdict p fault list (.ok a)
  | failed {i : ι} (h : IsFirstWithout p i list) : IsVerdict p fault list (.error (fault i))

namespace IsVerdict

/-- A decision is the verdict on one thing if it passes exactly with the property. -/
theorem of_single {i : ι} {x : Except ε α} (hok : ∀ a, x = .ok a → p i)
    (herror : ∀ e, x = .error e → ¬ p i ∧ e = fault i) : IsVerdict p fault [i] x := by
  cases x with
  | ok a =>
    refine .passed fun j hj => ?_
    rw [List.mem_singleton.1 hj]
    exact hok a rfl
  | error e =>
    obtain ⟨hlacks, rfl⟩ := herror e rfl
    exact .failed (.here hlacks)

theorem later {i : ι} {list : List ι} {x : Except ε α} (hi : p i)
    (hx : IsVerdict p fault list x) : IsVerdict p fault (i :: list) x := by
  cases hx with
  | passed h => exact .passed (List.forall_mem_cons.2 ⟨hi, h⟩)
  | failed h => exact .failed (.later hi h)

theorem bind {i : ι} {list : List ι} {x : Except ε α} {f : α → Except ε β}
    (hx : IsVerdict p fault [i] x) (hf : ∀ a, IsVerdict p fault list (f a)) :
    IsVerdict p fault (i :: list) (x >>= f) := by
  cases hx with
  | failed h =>
    cases h with
    | here h => exact .failed (.here h)
    | later _ h => cases h
  | @passed a h => exact (hf a).later (h i (List.mem_singleton_self i))

variable {list : List ι} {x : Except ε α}

theorem exists_ok_iff (h : IsVerdict p fault list x) : (∃ a, x = .ok a) ↔ ∀ i ∈ list, p i := by
  cases h with
  | passed h => exact ⟨fun _ => h, fun _ => ⟨_, rfl⟩⟩
  | failed h => exact ⟨nofun, fun hall => absurd hall h.not_forall⟩

theorem error_iff (h : IsVerdict p fault list x) {e : ε} :
    x = .error e ↔ ∃ i, IsFirstWithout p i list ∧ e = fault i := by
  cases h with
  | passed h => exact ⟨nofun, fun ⟨i, hi, _⟩ => absurd h hi.not_forall⟩
  | @failed i h =>
    constructor
    · rintro ⟨⟩
      exact ⟨i, h, rfl⟩
    · rintro ⟨j, hj, rfl⟩
      rw [h.unique hj]

end IsVerdict

end

/-! ## Blanks -/

namespace Text

/-- The characters of Unicode that are white space, by their numbers. -/
def blanks : List Nat :=
  [0x09, 0x0A, 0x0B, 0x0C, 0x0D, 0x20, 0x85, 0xA0, 0x1680, 0x2000, 0x2001, 0x2002, 0x2003, 0x2004,
    0x2005, 0x2006, 0x2007, 0x2008, 0x2009, 0x200A, 0x2028, 0x2029, 0x202F, 0x205F, 0x3000]

theorem isBlank_eq_false_iff {c : Char} : isBlank c = false ↔ c.toNat ∉ blanks := by
  have hcontrol (n : Nat) : 0x09 ≤ n ∧ n ≤ 0x0D ↔ n ∈ [0x09, 0x0A, 0x0B, 0x0C, 0x0D] := by
    simp only [List.mem_cons, List.not_mem_nil, or_false]
    omega
  have hspace (n : Nat) : 0x2000 ≤ n ∧ n ≤ 0x200A ↔ n ∈ [0x2000, 0x2001, 0x2002, 0x2003, 0x2004,
      0x2005, 0x2006, 0x2007, 0x2008, 0x2009, 0x200A] := by
    simp only [List.mem_cons, List.not_mem_nil, or_false]
    omega
  rw [← Bool.not_eq_true, not_iff_not]
  simp only [isBlank, Bool.or_eq_true, Bool.and_eq_true, decide_eq_true_eq, beq_iff_eq, hcontrol,
    hspace, blanks, List.mem_cons, List.not_mem_nil, or_false, or_assoc]

theorem allBlank_eq_false_iff {text : String} :
    allBlank text = false ↔ ∃ c ∈ text.toList, c.toNat ∉ blanks := by
  simp only [allBlank, List.all_eq_false, Bool.not_eq_true, isBlank_eq_false_iff]

end Text

/-! ## Variables -/

/-- Whether a duration is at most the largest number of milliseconds in 64 bits with a sign. -/
def Duration.IsInReach (d : Duration) : Prop := d.nanos ≤ (Nat.pow 2 63 - 1) * 1000000

namespace Config

/-- What a configuration is read from. -/
inductive Variable where
  | secret
  | tokenIssuer
  | accessLifetime
  | refreshLifetime
  | recoveryLifetime
  | clockSkew
  | backendTimeout

/-- Whether a variable for a number is set to one from `least` up to the largest of 64 bits, if it
is set at all. -/
def IsNumberFrom (least : Nat) (value : Option String) : Prop :=
  ∀ text, value = some text → ∃ n, Text.IsNumber text n ∧ least ≤ n ∧ n < Nat.pow 2 64

namespace Variable

/-- The variables in the order in which they are judged. -/
def all : List Variable :=
  [secret, tokenIssuer, accessLifetime, refreshLifetime, recoveryLifetime, clockSkew,
    backendTimeout]

/-- The name under which a variable is looked up. -/
def name : Variable → String
  | secret => "VIGIL_SECRET"
  | tokenIssuer => "VIGIL_TOKEN_ISSUER"
  | accessLifetime => "VIGIL_ACCESS_DURATION_SECS"
  | refreshLifetime => "VIGIL_REFRESH_DURATION_SECS"
  | recoveryLifetime => "VIGIL_RECOVERY_DURATION_SECS"
  | clockSkew => "VIGIL_CLOCK_SKEW_SECS"
  | backendTimeout => "VIGIL_BACKEND_TIMEOUT_MS"

/-- Whether a variable may be set to a value, or be left unset. -/
def Admits : Variable → Option String → Prop
  | secret, value => ∃ text, value = some text ∧ text ≠ ""
  | tokenIssuer, value => ∀ text, value = some text → ∃ c ∈ text.toList, c.toNat ∉ Text.blanks
  | accessLifetime, value | refreshLifetime, value | recoveryLifetime, value
  | backendTimeout, value => IsNumberFrom 1 value
  | clockSkew, value => IsNumberFrom 0 value

/-- Whether a variable is set as it should be. -/
def IsWellSet (lookup : String → Option String) (v : Variable) : Prop := v.Admits (lookup v.name)

/-- How it is reported that a variable is not set as it should be. -/
def fault (lookup : String → Option String) (v : Variable) : ConfigError :=
  match v, lookup v.name with
  | secret, none => .missing v.name
  | secret, some _ => .emptySecret
  | v, _ => .invalid v.name

theorem mem_all (v : Variable) : v ∈ all := by
  cases v <;> simp [all]

end Variable

/-- What a variable for a number sets: as many units as it says, or the default, both of which are
told in nanoseconds. -/
inductive Sets (unit default : Nat) : Option String → Duration → Prop where
  | unset : Sets unit default none { nanos := default }
  | number {text : String} {n : Nat} (h : Text.IsNumber text n) :
      Sets unit default (some text) { nanos := n * unit }

/-- Whether a configuration holds what the variables are set to, and defaults for the others. -/
structure IsSetBy (lookup : String → Option String) (config : Config) : Prop where
  secret : ∃ text, lookup Variable.secret.name = some text ∧
    config.secret.bytes.toByteArray = text.toByteArray
  tokenIssuer : config.tokenIssuer = (lookup Variable.tokenIssuer.name).getD "vigil.auth"
  accessLifetime :
    Sets 1000000000 (1800 * 1000000000) (lookup Variable.accessLifetime.name) config.accessLifetime
  refreshLifetime :
    Sets 1000000000 (86400 * 1000000000) (lookup Variable.refreshLifetime.name)
      config.refreshLifetime
  recoveryLifetime :
    Sets 1000000000 (300 * 1000000000) (lookup Variable.recoveryLifetime.name)
      config.recoveryLifetime
  clockSkew : Sets 1000000000 (5 * 1000000000) (lookup Variable.clockSkew.name) config.clockSkew
  backendTimeout :
    Sets 1000000 (5 * 1000000000) (lookup Variable.backendTimeout.name) config.backendTimeout

/-! ## Reading one variable -/

variable {lookup : String → Option String} {name : String}

theorem Sets.unique {unit default : Nat} {value : Option String} {d d' : Duration}
    (h : Sets unit default value d) (h' : Sets unit default value d') : d = d' := by
  cases h with
  | unset =>
    cases h'
    rfl
  | number h =>
    cases h' with
    | number h' => rw [h.unique h']

section

variable {least unit default : Nat}

theorem numberOf_eq_ok {d : Duration}
    (h : numberOf lookup name least (fun n => ⟨n * unit⟩) ⟨default⟩ = .ok d) :
    IsNumberFrom least (lookup name) ∧ Sets unit default (lookup name) d := by
  rw [numberOf] at h
  split at h
  · next hunset =>
    cases h
    rw [hunset]
    exact ⟨nofun, .unset⟩
  · next text hset =>
    rw [hset]
    split at h
    · next n hn =>
      split at h
      · next hleast =>
        cases h
        obtain ⟨hnumber, hlargest⟩ := Text.natural?_eq_some_iff.1 hn
        refine ⟨?_, .number hnumber⟩
        rintro _ ⟨⟩
        exact ⟨n, hnumber, hleast, Nat.lt_succ_of_le hlargest⟩
      · cases h
    · cases h

theorem numberOf_eq_error {e : ConfigError}
    (h : numberOf lookup name least (fun n => ⟨n * unit⟩) ⟨default⟩ = .error e) :
    ¬ IsNumberFrom least (lookup name) ∧ e = .invalid name := by
  rw [numberOf] at h
  split at h
  · cases h
  · next text hset =>
    have hread {n : Nat} (hnumber : Text.IsNumber text n) (hlargest : n < Nat.pow 2 64) :
        Text.natural? largest text = some n :=
      Text.natural?_eq_some_iff.2 ⟨hnumber, Nat.le_of_lt_succ hlargest⟩
    rw [hset]
    split at h
    · next m hm =>
      split at h
      · cases h
      · next hleast =>
        cases h
        refine ⟨fun hall => ?_, rfl⟩
        obtain ⟨n, hnumber, hfrom, hlargest⟩ := hall text rfl
        rw [hread hnumber hlargest] at hm
        cases hm
        exact hleast hfrom
    · next hnone =>
      cases h
      refine ⟨fun hall => ?_, rfl⟩
      obtain ⟨n, hnumber, -, hlargest⟩ := hall text rfl
      rw [hread hnumber hlargest] at hnone
      cases hnone

end

theorem issuerOf_eq_ok {default issuer : String} (h : issuerOf lookup name default = .ok issuer) :
    Variable.tokenIssuer.Admits (lookup name) ∧ issuer = (lookup name).getD default := by
  rw [issuerOf] at h
  split at h
  · next hunset =>
    cases h
    rw [hunset]
    exact ⟨nofun, rfl⟩
  · next text hset =>
    split at h
    · cases h
    · next hblank =>
      cases h
      rw [hset]
      refine ⟨?_, rfl⟩
      rintro _ ⟨⟩
      exact Text.allBlank_eq_false_iff.1 (by simpa using hblank)

theorem issuerOf_eq_error {default : String} {e : ConfigError}
    (h : issuerOf lookup name default = .error e) :
    ¬ Variable.tokenIssuer.Admits (lookup name) ∧ e = .invalid name := by
  rw [issuerOf] at h
  split at h
  · cases h
  · next text hset =>
    split at h
    · next hblank =>
      cases h
      refine ⟨fun hall => ?_, rfl⟩
      rw [Text.allBlank_eq_false_iff.2 (hall text hset)] at hblank
      cases hblank
    · cases h

/-- The secret that a variable names, which has to be set. -/
def secretOf (lookup : String → Option String) (name : String) : Except ConfigError SigningSecret :=
  match lookup name with
  | none => .error (.missing name)
  | some text => SigningSecret.ofBytes (Text.utf8 text)

theorem secretOf_eq_ok {secret : SigningSecret} (h : secretOf lookup name = .ok secret) :
    ∃ text, lookup name = some text ∧ text ≠ "" ∧ secret.bytes = Text.utf8 text := by
  rw [secretOf] at h
  split at h
  · cases h
  · next text hset =>
    rw [SigningSecret.ofBytes] at h
    split at h
    · next hbytes =>
      cases h
      exact ⟨text, hset, Text.utf8_ne_nil_iff.1 hbytes, rfl⟩
    · cases h

theorem secretOf_eq_error {e : ConfigError} (h : secretOf lookup name = .error e) :
    ¬ Variable.secret.Admits (lookup name) ∧
      (lookup name = none ∧ e = .missing name ∨ lookup name = some "" ∧ e = .emptySecret) := by
  rw [secretOf] at h
  split at h
  · next hunset =>
    cases h
    rw [hunset]
    exact ⟨nofun, .inl ⟨rfl, rfl⟩⟩
  · next text hset =>
    rw [SigningSecret.ofBytes] at h
    split at h
    · cases h
    · next hbytes =>
      cases h
      obtain rfl : text = "" := by
        by_contra htext
        exact hbytes (Text.utf8_ne_nil_iff.2 htext)
      rw [hset]
      refine ⟨?_, .inr ⟨rfl, rfl⟩⟩
      rintro ⟨_, ⟨⟩, hne⟩
      exact hne rfl

/-! ## Reading them all -/

theorem ofLookup_eq (lookup : String → Option String) :
    ofLookup lookup = (do
      let secret ← secretOf lookup Variable.secret.name
      let tokenIssuer ← issuerOf lookup Variable.tokenIssuer.name "vigil.auth"
      let accessLifetime ←
        numberOf lookup Variable.accessLifetime.name 1 .ofSeconds (.ofSeconds 1800)
      let refreshLifetime ←
        numberOf lookup Variable.refreshLifetime.name 1 .ofSeconds (.ofSeconds 86400)
      let recoveryLifetime ←
        numberOf lookup Variable.recoveryLifetime.name 1 .ofSeconds (.ofSeconds 300)
      let clockSkew ← numberOf lookup Variable.clockSkew.name 0 .ofSeconds (.ofSeconds 5)
      let backendTimeout ←
        numberOf lookup Variable.backendTimeout.name 1 .ofMillis (.ofSeconds 5)
      return {
        secret, tokenIssuer, accessLifetime, refreshLifetime, recoveryLifetime, clockSkew,
        backendTimeout }) := by
  simp only [ofLookup, secretOf, Variable.name]
  cases lookup "VIGIL_SECRET" with
  | none => rfl
  | some text =>
    -- what follows uses the secret of the base and its defaults, which are known
    change (ofSecret (Text.utf8 text) >>= _) = _
    rw [ofSecret, bind_assoc]
    rfl

theorem isVerdict_secretOf :
    IsVerdict (Variable.IsWellSet lookup) (Variable.fault lookup) [.secret]
      (secretOf lookup Variable.secret.name) := by
  refine .of_single (fun secret h => ?_) (fun e h => ?_)
  · obtain ⟨text, hset, hne, -⟩ := secretOf_eq_ok h
    exact ⟨text, hset, hne⟩
  · obtain ⟨hrefused, ⟨hvalue, rfl⟩ | ⟨hvalue, rfl⟩⟩ := secretOf_eq_error h
    · exact ⟨hrefused, by simp only [Variable.fault, hvalue]⟩
    · exact ⟨hrefused, by simp only [Variable.fault, hvalue]⟩

theorem isVerdict_issuerOf {default : String} :
    IsVerdict (Variable.IsWellSet lookup) (Variable.fault lookup) [.tokenIssuer]
      (issuerOf lookup Variable.tokenIssuer.name default) :=
  .of_single (fun _ h => (issuerOf_eq_ok h).1) fun _ h => issuerOf_eq_error h

theorem isVerdict_numberOf {v : Variable} {least unit default : Nat}
    (hadmits : v.Admits = IsNumberFrom least) (hfault : v.fault lookup = .invalid v.name) :
    IsVerdict (Variable.IsWellSet lookup) (Variable.fault lookup) [v]
      (numberOf lookup v.name least (fun n => ⟨n * unit⟩) ⟨default⟩) := by
  refine .of_single (fun d h => ?_) (fun e h => ?_)
  · rw [Variable.IsWellSet, hadmits]
    exact (numberOf_eq_ok h).1
  · rw [Variable.IsWellSet, hadmits, hfault]
    exact numberOf_eq_error h

/-- The variables are judged in their order. -/
theorem isVerdict_ofLookup (lookup : String → Option String) :
    IsVerdict (Variable.IsWellSet lookup) (Variable.fault lookup) Variable.all
      (ofLookup lookup) := by
  rw [ofLookup_eq]
  refine .bind isVerdict_secretOf fun _ => ?_
  refine .bind isVerdict_issuerOf fun _ => ?_
  -- the other five are numbers, and differ in bound, unit and default only
  iterate 5 refine .bind (isVerdict_numberOf rfl rfl) fun _ => ?_
  exact .passed nofun

theorem exists_ofLookup_iff (lookup : String → Option String) :
    (∃ config, ofLookup lookup = .ok config) ↔ ∀ v : Variable, v.IsWellSet lookup :=
  (isVerdict_ofLookup lookup).exists_ok_iff.trans ⟨fun h v => h v v.mem_all, fun h v _ => h v⟩

/-- What has been read is what the variables set. -/
theorem isSetBy_of_ofLookup {config : Config} (h : ofLookup lookup = .ok config) :
    config.IsSetBy lookup := by
  rw [ofLookup_eq] at h
  simp only [bind_eq_ok_iff] at h
  obtain ⟨secret, hsecret, tokenIssuer, hissuer, access, haccess, refresh, hrefresh, recovery,
    hrecovery, skew, hskew, timeout, htimeout, ⟨⟩⟩ := h
  obtain ⟨text, hset, -, hbytes⟩ := secretOf_eq_ok hsecret
  exact {
    secret := ⟨text, hset, by rw [hbytes, Text.toByteArray_utf8]⟩
    tokenIssuer := (issuerOf_eq_ok hissuer).2
    accessLifetime := (numberOf_eq_ok haccess).2
    refreshLifetime := (numberOf_eq_ok hrefresh).2
    recoveryLifetime := (numberOf_eq_ok hrecovery).2
    clockSkew := (numberOf_eq_ok hskew).2
    backendTimeout := (numberOf_eq_ok htimeout).2 }

/-- The variables set one configuration at most. -/
theorem IsSetBy.unique {config other : Config} (h : config.IsSetBy lookup)
    (h' : other.IsSetBy lookup) : config = other := by
  obtain ⟨text, hset, hbytes⟩ := h.secret
  obtain ⟨text', hset', hbytes'⟩ := h'.secret
  rw [hset] at hset'
  cases hset'
  have htokenIssuer := h.tokenIssuer.trans h'.tokenIssuer.symm
  have haccess := h.accessLifetime.unique h'.accessLifetime
  have hrefresh := h.refreshLifetime.unique h'.refreshLifetime
  have hrecovery := h.recoveryLifetime.unique h'.recoveryLifetime
  have hskew := h.clockSkew.unique h'.clockSkew
  have htimeout := h.backendTimeout.unique h'.backendTimeout
  have hsecret : config.secret.bytes = other.secret.bytes :=
    List.toByteArray_inj.1 (hbytes.trans hbytes'.symm)
  clear h h'
  -- secrets are the same if their bytes are
  obtain ⟨⟨_, _⟩, _⟩ := config
  obtain ⟨⟨_, _⟩, _⟩ := other
  simp_all

/-! ## Setting up -/

theorem isVerdict_ofConfig (config : Config) :
    IsVerdict (fun s => s.2.IsInReach)
      (fun s => ServiceError.ofConfig (.durationOutOfRange s.1)) (Service.durations config)
      (Service.ofConfig config) := by
  have hlong (s : String × Duration) :
      decide (Service.longestDuration < s.2) = true ↔ ¬ s.2.IsInReach := by
    rw [decide_eq_true_iff, Duration.lt_def]
    exact Nat.not_le.symm
  rw [Service.ofConfig_eq]
  split
  · next s hs => exact .failed (.of_find? hlong hs)
  · next hs =>
    rw [List.find?_eq_none] at hs
    exact .passed fun s hmem => not_not.1 ((not_congr (hlong s)).1 (hs s hmem))

/-- Configurations are read exactly. Variables make a configuration if and only if each of them is
set as it should be, and then it is the one that holds what they are set to, and defaults for those
that are not set; otherwise the first that is not set as it should be is reported, in the order of
`Variable.all`. A configuration makes a service if and only if the durations that it computes with
are in reach; otherwise the first that is not is reported. -/
theorem variables_are_judged_exactly (lookup : String → Option String) :
    ((∃ config, ofLookup lookup = .ok config) ↔ ∀ v : Variable, v.IsWellSet lookup) ∧
    (∀ config, ofLookup lookup = .ok config ↔
      (∀ v : Variable, v.IsWellSet lookup) ∧ config.IsSetBy lookup) ∧
    (∀ e, ofLookup lookup = .error e ↔
      ∃ v, IsFirstWithout (Variable.IsWellSet lookup) v Variable.all ∧ e = v.fault lookup) ∧
    ∀ config : Config,
      ((∃ svc, Service.ofConfig config = .ok svc) ↔
        ∀ s ∈ Service.durations config, s.2.IsInReach) ∧
      ∀ e, Service.ofConfig config = .error e ↔
        ∃ s, IsFirstWithout (fun s => s.2.IsInReach) s (Service.durations config) ∧
          e = .configuration ("Duration out of range: " ++ s.1) := by
  have hexists := exists_ofLookup_iff lookup
  refine ⟨hexists, fun config => ⟨fun h => ?read, ?set⟩,
    fun e => (isVerdict_ofLookup lookup).error_iff, fun config => ?service⟩
  case read => exact ⟨hexists.1 ⟨config, h⟩, isSetBy_of_ofLookup h⟩
  case set =>
    rintro ⟨hwell, hset⟩
    obtain ⟨other, hother⟩ := hexists.2 hwell
    rw [hother, (isSetBy_of_ofLookup hother).unique hset]
  case service =>
    have hverdict := isVerdict_ofConfig config
    exact ⟨hverdict.exists_ok_iff, fun e => hverdict.error_iff⟩

/-- Variables of which the last three hold no number that they may hold. -/
def clumsyVariables : String → Option String
  | "VIGIL_SECRET" => some "s3cret"
  | "VIGIL_ACCESS_DURATION_SECS" => some "+0060"
  | "VIGIL_REFRESH_DURATION_SECS" => some "18446744073709551616"
  | "VIGIL_CLOCK_SKEW_SECS" => some "-1"
  | "VIGIL_BACKEND_TIMEOUT_MS" => some "0"
  | _ => none

example : ofLookup clumsyVariables = .error (.invalid "VIGIL_REFRESH_DURATION_SECS") := by rfl

end Config

end Credentials
