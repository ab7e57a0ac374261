import Credentials.Proofs.Codec.Precedence
import Credentials.Proofs.Service.Expiry

/-!
# Tokens that are refused

Every operation that takes a token judges it in the same way and before anything
else. So a token that is refused is refused by all of them for the same reason,
whatever the backends hold, and nothing is changed. Forged tokens and those of
other realms are refused at any time: why is found in their text alone.
-/

namespace Credentials.Service

variable {σ : Type} (svc : Service)

/-! ## Refusals -/

/-- Whether a token is refused for a reason by a clock: every operation with it that is otherwise
in order ends in this, with any backends and whatever they hold, and leaves them alone. -/
def Refuses (clock : Clock) (token : String) (reason : Rejection) : Prop :=
  ∀ (σ : Type) (b : Backend σ) (s : σ) (op : Operation),
    callerToken? op = some token → svc.IsInOrder clock op →
    svc.perform b clock op s = .error (.refused (.authentication reason)) s

/-- An operation whose caller is refused goes no further. -/
theorem settle_bind_of_error {α β : Type} {x : Except Halt α} {halt : Halt}
    (h : x = .error halt) (f : α → Action σ β) (s : σ) :
    (settle x >>= f) s = .error halt s := by
  rw [settle_bind, h]

theorem caller_of_liveKey_eq_error {clock : Clock} {token : String} {halt : Halt}
    (h : svc.liveKey clock token = .error halt) (expected : KeyType) :
    svc.caller clock token expected = .error halt := by
  rw [caller_eq, h]
  rfl

/-- A token that is not live ends every operation with it that is in order. -/
theorem perform_of_liveKey_eq_error {clock : Clock} {token : String} {halt : Halt}
    (h : svc.liveKey clock token = .error halt) (b : Backend σ) (s : σ) {op : Operation}
    (htoken : callerToken? op = some token) (horder : svc.IsInOrder clock op) :
    svc.perform b clock op s = .error halt s := by
  have hcaller := svc.caller_of_liveKey_eq_error h
  cases op with
  | issue source request =>
    rw [callerToken?] at htoken
    split at htoken
    · cases htoken
    next hlogin =>
    cases htoken
    have hvet : svc.vet clock request = .ok () := horder
    refine map_eq_error_iff.2 ?_
    rw [issue_eq, hvet, settle_bind]
    cases htype : request.keyType with
    | access => exact absurd htype hlogin
    | refresh =>
      refine settle_eq_error_iff.2 ⟨?_, rfl⟩
      rw [hcaller]
      rfl
    | recovery => exact settle_bind_of_error (hcaller _) _ s
    | api => exact settle_bind_of_error (hcaller _) _ s
  | refresh source =>
    cases htoken
    refine map_eq_error_iff.2 (settle_eq_error_iff.2 ⟨?_, rfl⟩)
    rw [exchange, hcaller]
    rfl
  | identify source =>
    cases htoken
    rw [perform, identify_eq]
    exact map_eq_error_iff.2 (settle_bind_of_error h _ s)
  | retrieve source id | revoke source id =>
    cases htoken
    exact map_eq_error_iff.2 (settle_bind_of_error (hcaller _) _ s)
  | authorize r | addPolicy r | deletePolicy r => cases htoken
  | listObjects subject relation => cases htoken
  | listSubjects object relation => cases htoken

theorem refuses_of_liveKey {clock : Clock} {token : String} {reason : Rejection}
    (h : svc.liveKey clock token = .error (.refused (.authentication reason))) :
    svc.Refuses clock token reason :=
  fun _ b s _ htoken horder => svc.perform_of_liveKey_eq_error h b s htoken horder

/-- Why a text tells no key does not depend on the clock. -/
theorem liveKey_of_decode_eq_error {token : String} (hshown : token ≠ "") {e : DecodeError}
    (h : svc.codec.decode token = .error e) (clock : Clock) :
    svc.liveKey clock token = .error (.refused (.ofDecode e)) := by
  have hdecode : svc.decode token = .error (.refused (.ofDecode e)) := by
    rw [Service.decode, if_neg hshown, h]
  exact svc.liveKey_eq_error_iff.2 (.inl hdecode)

theorem caller_of_decode_eq_error {token : String} {e : DecodeError}
    (h : svc.codec.decode token = .error e) (clock : Clock) (expected : KeyType) :
    ∃ reason, svc.caller clock token expected = .error (.refused (.authentication reason)) := by
  cases hdecode : svc.decode token with
  | ok key =>
    rw [svc.decode_eq_ok_iff.1 hdecode] at h
    cases h
  | error halt =>
    obtain ⟨reason, rfl, -⟩ := svc.decode_eq_error hdecode
    exact ⟨reason, svc.caller_of_liveKey_eq_error (svc.liveKey_eq_error_iff.2 (.inl hdecode))
      expected⟩

/-! ## Forged tokens -/

theorem refuses_of_badSignature {token : String}
    (h : svc.codec.decode token = .error .badSignature) (clock : Clock) :
    svc.Refuses clock token .badSignature := by
  have hshown : token ≠ "" := by
    rintro rfl
    cases h
  exact svc.refuses_of_liveKey (svc.liveKey_of_decode_eq_error hshown h clock)

/-- The code of a token is judged before its claims. A text with two dots whose header is in order
is refused for its code exactly if the code is wrong, whatever stands for its claims. So a token
that was signed is refused if its code is replaced, and if its claims are replaced and the code
over them differs. Wherever such a text is shown, this is the reason, and nothing is changed. -/
theorem code_is_judged_first :
    (∀ token : String, 2 ≤ token.toList.count '.' → ∃ header claims signature,
      token = Codec.assemble header claims signature ∧ '.' ∉ claims ∧ '.' ∉ signature ∧
      (Codec.readPart Header.algorithm? header = .ok .hs256 →
        (svc.codec.decode token = .error .badSignature ↔
          signature ≠ Bytes.Base64Url.encode (svc.codec.mac (header ++ '.' :: claims))))) ∧
    (∀ key : Key, ∃ header claims signature,
      svc.codec.encode key = Codec.assemble header claims signature ∧
      '.' ∉ claims ∧ '.' ∉ signature ∧
      (∀ other, '.' ∉ other → other ≠ signature →
        svc.codec.decode (Codec.assemble header claims other) = .error .badSignature) ∧
      (∀ other, '.' ∉ other →
        svc.codec.mac (header ++ '.' :: other) ≠ svc.codec.mac (header ++ '.' :: claims) →
        svc.codec.decode (Codec.assemble header other signature) = .error .badSignature)) ∧
    ∀ token, svc.codec.decode token = .error .badSignature →
      ∀ clock, svc.Refuses clock token .badSignature := by
  refine ⟨?exactly, ?tampered, fun token h => svc.refuses_of_badSignature h⟩
  case exactly =>
    intro token hdots
    obtain ⟨header, claims, signature, rfl, hclaims, hsignature⟩ := Codec.exists_assemble hdots
    exact ⟨header, claims, signature, rfl, hclaims, hsignature, fun hheader =>
      svc.codec.decode_assemble_eq_badSignature_iff hheader hclaims hsignature⟩
  case tampered =>
    intro key
    have hheader := Codec.readPart_part Codec.algorithm?_ofRecord
    have hclaims := Codec.dot_not_mem_part (Claims.ofKey svc.codec.issuer key).record
    have hsignature := svc.codec.dot_not_mem_signature (svc.codec.message key)
    refine ⟨_, _, _, svc.codec.encode_eq key, hclaims, hsignature, ?_, ?_⟩
    · intro other hother hne
      exact (svc.codec.decode_assemble_eq_badSignature_iff hheader hclaims hother).2 hne
    · intro other hother hmac
      refine (svc.codec.decode_assemble_eq_badSignature_iff hheader hother hsignature).2 ?_
      intro hsame
      exact hmac (Codec.signature_eq_iff.1 hsame).symm

/-! ## Tokens of other realms -/

/-- Realms are separate. A token that was signed in another realm under the same secret is foreign,
whatever its key is, and one that was signed under another secret has a wrong code, whatever its
realm is, if the codes over it differ. Either is refused wherever it is shown and at any time. -/
theorem realms_are_separate (other : Codec) (key : Key) :
    (other.secret = svc.codec.secret → other.issuer ≠ svc.codec.issuer →
      svc.codec.decode (other.encode key) = .error (.malformed .foreignIssuer) ∧
      ∀ clock, svc.Refuses clock (other.encode key) .malformed) ∧
    (other.mac (other.message key) ≠ svc.codec.mac (other.message key) →
      svc.codec.decode (other.encode key) = .error .badSignature ∧
      ∀ clock, svc.Refuses clock (other.encode key) .badSignature) ∧
    Flaw.foreignIssuer.text = "foreign issuer" := by
  have hjudged := svc.codec.decode_encode_of_other other key
  refine ⟨?realm, ?secret, rfl⟩
  case realm =>
    intro hsecret hissuer
    have hmac : other.mac (other.message key) = svc.codec.mac (other.message key) := by
      rw [Codec.mac, Codec.mac, hsecret]
    have hforeign : svc.codec.decode (other.encode key) = .error (.malformed .foreignIssuer) := by
      rw [hjudged, if_neg (not_not_intro hmac), if_pos hissuer]
    refine ⟨hforeign, fun clock => svc.refuses_of_liveKey ?_⟩
    exact svc.liveKey_of_decode_eq_error (other.encode_ne_empty key) hforeign clock
  case secret =>
    intro hmac
    have hforged : svc.codec.decode (other.encode key) = .error .badSignature := by
      rw [hjudged, if_pos hmac]
    exact ⟨hforged, svc.refuses_of_badSignature hforged⟩

end Credentials.Service
