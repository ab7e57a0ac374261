import Credentials.Proofs.Codec.RoundTrip
import Credentials.Proofs.Json.Members

/-!
# What a token vouches for

A token that is accepted bears the code of its own header and claims, and the key
that it tells is the one its claims spell out, member by member, in whatever
order and spelling. The keys that tokens tell are those with a subject, without
an empty id, and with times at whole seconds; each of them comes back from the
token that it is signed to.
-/

namespace Credentials

/-! ## Steps that may fail -/

section

variable {ε α β : Type} {x : Except ε α} {f : α → Except ε β}

theorem bind_eq_ok_iff {b : β} : (x >>= f) = .ok b ↔ ∃ a, x = .ok a ∧ f a = .ok b := by
  cases x with
  | error e => simp [bind, Except.bind]
  | ok a => simp [bind, Except.bind]

theorem bind_eq_error_iff {e : ε} :
    (x >>= f) = .error e ↔ x = .error e ∨ ∃ a, x = .ok a ∧ f a = .error e := by
  cases x with
  | error g => simp [bind, Except.bind]
  | ok a => simp [bind, Except.bind]

end

/-! ## Dots -/

theorem not_mem_of_splitAtLast {mark : Char} {cs : List Char} (h : splitAtLast mark cs = none) :
    mark ∉ cs := by
  induction cs with
  | nil => exact List.not_mem_nil
  | cons c cs ih =>
    rw [splitAtLast] at h
    cases hrest : splitAtLast mark cs with
    | some found =>
      rw [hrest] at h
      cases h
    | none =>
      rw [hrest] at h
      by_cases hc : c = mark
      · simp [if_pos hc] at h
      · have hne : ¬ mark = c := fun heq => hc heq.symm
        simpa [hne] using ih hrest

/-- Taking apart at the last mark and putting together undo each other. -/
theorem splitAtLast_eq_some_iff {mark : Char} {cs before after : List Char} :
    splitAtLast mark cs = some (before, after) ↔ cs = before ++ mark :: after ∧ mark ∉ after := by
  constructor
  · intro h
    induction cs generalizing before with
    | nil => cases h
    | cons c cs ih =>
      rw [splitAtLast] at h
      cases hrest : splitAtLast mark cs with
      | some found =>
        rw [hrest] at h
        obtain ⟨rfl, rfl⟩ := Prod.mk.inj (Option.some.inj h)
        obtain ⟨rfl, hnot⟩ := ih hrest
        exact ⟨rfl, hnot⟩
      | none =>
        rw [hrest] at h
        by_cases hc : c = mark
        · simp only [if_pos hc, Option.some.injEq, Prod.mk.injEq] at h
          obtain ⟨rfl, rfl⟩ := h
          exact ⟨by rw [hc]; rfl, not_mem_of_splitAtLast hrest⟩
        · simp [if_neg hc] at h
  · rintro ⟨rfl, hnot⟩
    exact splitAtLast_append hnot before

/-- An instant at a whole second. -/
def Instant.IsWhole (t : Instant) : Prop := t.nanos % 1000000000 = 0

theorem Instant.ofSeconds?_eq_some {n : Int} {t : Instant} (h : ofSeconds? n = some t) :
    t.seconds = n ∧ t.IsWhole := by
  have hnanos : t.nanos = n * 1000000000 := ofNanos?_eq_some_iff.1 h
  rw [seconds, IsWhole, hnanos]
  omega

theorem Instant.IsWhole.floor_eq {t : Instant} (h : t.IsWhole) : t.floor = t := by
  apply Instant.ext
  show t.nanos / 1000000000 * 1000000000 = t.nanos
  rw [IsWhole] at h
  omega

/-- A key as tokens tell keys: with a subject, without an empty id, and with its times at whole
seconds. -/
structure Key.IsCanonical (key : Key) : Prop where
  subject_ne : key.subject ≠ ""
  id_ne : key.id ≠ some ""
  issuedAt : key.issuedAt.IsWhole
  expiresAt : ∀ t, key.expiresAt = some t → t.IsWhole

/-- A canonical key is told unchanged. -/
theorem Key.IsCanonical.signed_eq {key : Key} (h : key.IsCanonical) : key.signed = key := by
  obtain ⟨id, keyType, issuer, subject, issuedAt, expiresAt⟩ := key
  have hid : id.filter (· ≠ "") = id := by
    cases id with
    | none => rfl
    | some id =>
      have hne : id ≠ "" := fun heq => h.id_ne (congrArg some heq)
      simp [hne]
  have hexpiry : expiresAt.map Instant.floor = expiresAt := by
    cases expiresAt with
    | none => rfl
    | some t => exact congrArg some (h.expiresAt t rfl).floor_eq
  simp only [signed, hid, hexpiry, h.issuedAt.floor_eq]

namespace Codec

variable (codec : Codec)

theorem instant_eq_ok {flaw : Flaw} {n : Int} {t : Instant} (h : instant flaw n = .ok t) :
    t.seconds = n ∧ t.IsWhole := by
  rw [instant] at h
  cases hseconds : Instant.ofSeconds? n with
  | none =>
    rw [hseconds] at h
    cases h
  | some found =>
    rw [hseconds] at h
    cases h
    exact Instant.ofSeconds?_eq_some hseconds

theorem mapM_instant_eq_ok {flaw : Flaw} {n : Option Int} {t : Option Instant}
    (h : n.mapM (instant flaw) = .ok t) :
    t.map Instant.seconds = n ∧ ∀ found, t = some found → found.IsWhole := by
  cases n with
  | none =>
    cases h
    exact ⟨rfl, fun _ heq => by cases heq⟩
  | some n =>
    change some <$> instant flaw n = .ok t at h
    cases hinstant : instant flaw n with
    | error e =>
      rw [hinstant] at h
      cases h
    | ok found =>
      rw [hinstant] at h
      cases h
      obtain ⟨hseconds, hwhole⟩ := instant_eq_ok hinstant
      refine ⟨congrArg some hseconds, ?_⟩
      rintro _ ⟨⟩
      exact hwhole

/-- Claims stand for a key only if they are the claims of that key in this realm, but for an
empty id. -/
theorem keyOfClaims_eq_ok {claims : Claims} {key : Key}
    (h : codec.keyOfClaims claims = .ok key) :
    Claims.ofKey codec.issuer key = { claims with id := claims.id.filter (· ≠ "") } ∧
      key.IsCanonical := by
  obtain ⟨realm, subject, ordinal, issuer, id, iat, exp⟩ := claims
  rw [keyOfClaims] at h
  split at h
  · cases h
  next hrealm =>
  split at h
  · cases h
  next hsubject =>
  split at h
  · cases h
  next keyType htype =>
  simp only [bind_eq_ok_iff] at h
  obtain ⟨issuedAt, hiat, expiresAt, hexp, hkey⟩ := h
  cases hkey
  obtain ⟨hissued, hwhole⟩ := instant_eq_ok hiat
  obtain ⟨hexpires, hwholes⟩ := mapM_instant_eq_ok hexp
  have hsame : realm = codec.issuer := Text.sameText_iff.1 (by simpa using hrealm)
  have hordinal := KeyType.ordinal_of_ofOrdinal? htype
  refine ⟨?_, hsubject, by simp, hwhole, hwholes⟩
  simp only [Claims.ofKey, hsame, hordinal, hissued, hexpires]

/-! ## Tokens -/

/-- The checks that an accepted token has passed, part by part. -/
theorem decode_eq_ok {token : String} {key : Key} (h : codec.decode token = .ok key) :
    ∃ parts claims, TokenParts.ofText? token = some parts ∧
      readPart Header.algorithm? parts.header = .ok .hs256 ∧
      parts.signature = codec.signature parts.message ∧
      readPart Claims.ofJson? parts.claims = .ok claims ∧
      codec.keyOfClaims claims = .ok key := by
  rw [decode] at h
  split at h
  · cases h
  next parts hparts =>
  obtain ⟨algorithm, halgorithm, h⟩ := bind_eq_ok_iff.1 h
  split at h
  · cases h
  next hhs256 =>
  split at h
  · cases h
  next hsigned =>
  obtain ⟨claims, hclaims, hkey⟩ := bind_eq_ok_iff.1 h
  have hsignature := Text.sameText_iff.1 (by simpa [isSigned] using hsigned)
  have halg : algorithm = .hs256 := by simpa using hhs256
  subst halg
  exact ⟨parts, claims, hparts, halgorithm, String.ofList_injective hsignature, hclaims, hkey⟩

theorem isCanonical_of_decode {token : String} {key : Key} (h : codec.decode token = .ok key) :
    key.IsCanonical := by
  obtain ⟨parts, claims, -, -, -, -, hkey⟩ := codec.decode_eq_ok h
  exact (codec.keyOfClaims_eq_ok hkey).2

end Codec

end Credentials
