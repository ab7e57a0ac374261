import Credentials.Proofs.Codec.Soundness

/-!
# What is judged first

A token is taken apart at its last two dots and its header is read; then its code
is compared, before anything in the claims is looked at. So a wrong code is
reported whatever the claims are, and a right one is never called wrong. A token
of another codec is judged by its code first, then by its realm, and only then by
what its claims say.
-/

namespace Credentials

/-! ## Dots -/

theorem exists_splitAtLast {mark : Char} {cs : List Char} (h : mark ∈ cs) :
    ∃ before after, splitAtLast mark cs = some (before, after) := by
  cases hsplit : splitAtLast mark cs with
  | none => exact absurd h (not_mem_of_splitAtLast hsplit)
  | some found => exact ⟨found.1, found.2, rfl⟩

namespace Codec

/-- The text of three parts between dots. -/
def assemble (header claims signature : List Char) : String :=
  String.ofList (header ++ '.' :: claims ++ '.' :: signature)

/-- Every text with two dots is made of three parts, of which only the first may have dots of its
own. -/
theorem exists_assemble {token : String} (h : 2 ≤ token.toList.count '.') :
    ∃ header claims signature,
      token = assemble header claims signature ∧ '.' ∉ claims ∧ '.' ∉ signature := by
  have hlast : '.' ∈ token.toList := List.count_pos_iff.1 (by omega)
  obtain ⟨message, signature, hsplit⟩ := exists_splitAtLast hlast
  obtain ⟨htoken, hsignature⟩ := splitAtLast_eq_some_iff.1 hsplit
  have hcount : token.toList.count '.' = message.count '.' + 1 := by
    rw [htoken, List.count_append, List.count_cons_self, List.count_eq_zero.2 hsignature]
  have hfirst : '.' ∈ message := List.count_pos_iff.1 (by omega)
  obtain ⟨header, claims, hsplit⟩ := exists_splitAtLast hfirst
  obtain ⟨hmessage, hclaims⟩ := splitAtLast_eq_some_iff.1 hsplit
  refine ⟨header, claims, signature, ?_, hclaims, hsignature⟩
  rw [assemble, ← hmessage, ← htoken, String.ofList_toList]

/-! ## Codes -/

variable (codec : Codec)

/-- The code over a message under the secret of a codec, as bytes. -/
def mac (message : List Char) : List UInt8 :=
  Bytes.hmac codec.secret.bytes (Text.utf8 (String.ofList message))

/-- What the code in the token of a key is made over: its header and its claims. -/
def message (key : Key) : List Char :=
  part Header.record ++ '.' :: part (Claims.ofKey codec.issuer key).record

theorem encode_eq (key : Key) :
    codec.encode key = assemble (part Header.record) (part (Claims.ofKey codec.issuer key).record)
      (codec.signature (codec.message key)) := rfl

/-- No token is the empty text, which stands for no token at all. -/
theorem encode_ne_empty (key : Key) : codec.encode key ≠ "" := by
  intro h
  have hparts := congrArg String.toList h
  rw [encode_eq, assemble, String.toList_ofList] at hparts
  simp at hparts

/-- Codes are written alike only if they are the same. -/
theorem signature_eq_iff {first second : Codec} {m n : List Char} :
    first.signature m = second.signature n ↔ first.mac m = second.mac n := by
  constructor
  · intro h
    have hbytes := congrArg Bytes.Base64Url.decode? h
    simpa [signature, mac, Bytes.Base64Url.decode?_encode] using hbytes
  · intro h
    exact congrArg Bytes.Base64Url.encode h

/-! ## Claims -/

/-- A part that cannot be read has a flaw. -/
theorem readPart_eq_error {α : Type} {read : Json → Option α} {cs : List Char} {e : DecodeError}
    (h : readPart read cs = .error e) : ∃ flaw, e = .malformed flaw := by
  rw [readPart] at h
  split at h
  · cases h
    exact ⟨_, rfl⟩
  · split at h
    · cases h
      exact ⟨_, rfl⟩
    · cases h

theorem instant_eq_error {flaw : Flaw} {n : Int} {e : DecodeError}
    (h : instant flaw n = .error e) : e = .malformed flaw := by
  rw [instant] at h
  split at h
  · cases h
  · cases h
    rfl

theorem mapM_instant_eq_error {flaw : Flaw} {n : Option Int} {e : DecodeError}
    (h : n.mapM (instant flaw) = .error e) : e = .malformed flaw := by
  cases n with
  | none => cases h
  | some n =>
    change some <$> instant flaw n = .error e at h
    rw [← bind_pure_comp] at h
    obtain hinstant | ⟨t, -, hpure⟩ := bind_eq_error_iff.1 h
    · exact instant_eq_error hinstant
    · cases hpure

/-- Claims that make no sense have a flaw as well. -/
theorem keyOfClaims_eq_error {claims : Claims} {e : DecodeError}
    (h : codec.keyOfClaims claims = .error e) : ∃ flaw, e = .malformed flaw := by
  rw [keyOfClaims] at h
  split at h
  · cases h
    exact ⟨_, rfl⟩
  split at h
  · cases h
    exact ⟨_, rfl⟩
  split at h
  · cases h
    exact ⟨_, rfl⟩
  obtain hissued | ⟨issuedAt, -, h⟩ := bind_eq_error_iff.1 h
  · exact ⟨_, instant_eq_error hissued⟩
  obtain hexpires | ⟨expiresAt, -, h⟩ := bind_eq_error_iff.1 h
  · exact ⟨_, mapM_instant_eq_error hexpires⟩
  · cases h

/-- Claims of another realm are foreign, whatever else they say. -/
theorem keyOfClaims_of_realm_ne {claims : Claims} (h : claims.realm ≠ codec.issuer) :
    codec.keyOfClaims claims = .error (.malformed .foreignIssuer) := by
  have hrealm : ¬ Text.sameText claims.realm codec.issuer = true := fun hsame =>
    h (Text.sameText_iff.1 hsame)
  rw [keyOfClaims, if_pos (by simpa using hrealm)]

/-! ## Tokens -/

section

variable {header claims : List Char}

/-- Once the header is in order, the code is judged, and then the claims are read. -/
theorem decode_assemble (hheader : readPart Header.algorithm? header = .ok .hs256)
    (hclaims : '.' ∉ claims) {signature : List Char} (hsignature : '.' ∉ signature) :
    codec.decode (assemble header claims signature) =
      if signature = codec.signature (header ++ '.' :: claims) then
        readPart Claims.ofJson? claims >>= codec.keyOfClaims
      else .error .badSignature := by
  have hparts := @ofText?_ofList header claims signature hclaims hsignature
  have hsigned : codec.isSigned
        { message := header ++ '.' :: claims, header, claims, signature } = true ↔
      signature = codec.signature (header ++ '.' :: claims) :=
    Text.sameText_iff.trans ⟨fun h => String.ofList_injective h, congrArg String.ofList⟩
  rw [assemble, decode, hparts]
  by_cases h : signature = codec.signature (header ++ '.' :: claims)
  · simp only [hheader, hsigned.2 h, if_pos h]
    rfl
  · have hunsigned := Bool.eq_false_iff.2 fun hsame => h (hsigned.1 hsame)
    simp only [hheader, hunsigned, if_neg h]
    rfl

/-- A token whose header is in order is refused for its code exactly if the code is wrong. -/
theorem decode_assemble_eq_badSignature_iff
    (hheader : readPart Header.algorithm? header = .ok .hs256) (hclaims : '.' ∉ claims)
    {signature : List Char} (hsignature : '.' ∉ signature) :
    codec.decode (assemble header claims signature) = .error .badSignature ↔
      signature ≠ codec.signature (header ++ '.' :: claims) := by
  rw [codec.decode_assemble hheader hclaims hsignature]
  by_cases h : signature = codec.signature (header ++ '.' :: claims)
  · have hread : readPart Claims.ofJson? claims >>= codec.keyOfClaims ≠ .error .badSignature := by
      intro heq
      obtain hclaim | ⟨said, -, hkey⟩ := bind_eq_error_iff.1 heq
      · obtain ⟨flaw, hflaw⟩ := readPart_eq_error hclaim
        cases hflaw
      · obtain ⟨flaw, hflaw⟩ := codec.keyOfClaims_eq_error hkey
        cases hflaw
    rw [if_pos h]
    exact iff_of_false hread fun hne => hne h
  · rw [if_neg h]
    exact iff_of_true rfl h

end

/-! ## Tokens of another codec -/

/-- How a codec judges a token that another one signed: by the code, by the realm, and by the
subject. What passes all three comes back as its own codec would tell it. -/
theorem decode_encode_of_other (other : Codec) (key : Key) :
    codec.decode (other.encode key) =
      if other.mac (other.message key) ≠ codec.mac (other.message key) then .error .badSignature
      else if other.issuer ≠ codec.issuer then .error (.malformed .foreignIssuer)
      else if key.subject = "" then .error (.malformed .emptySubject)
      else .ok key.signed := by
  have hclaims := readPart_part (Claims.ofJson?_ofKey other.issuer key)
  have hsame : other.signature (other.message key) = codec.signature (other.message key) ↔
      other.mac (other.message key) = codec.mac (other.message key) := signature_eq_iff
  rw [encode_eq, codec.decode_assemble (readPart_part algorithm?_ofRecord) (dot_not_mem_part _)
    (other.dot_not_mem_signature _), hclaims]
  change (if other.signature (other.message key) = codec.signature (other.message key) then
    codec.keyOfClaims (Claims.ofKey other.issuer key) else _) = _
  by_cases hmac : other.mac (other.message key) = codec.mac (other.message key)
  · rw [if_pos (hsame.2 hmac), if_neg (not_not_intro hmac)]
    by_cases hissuer : other.issuer = codec.issuer
    · rw [if_neg (not_not_intro hissuer), hissuer, keyOfClaims_ofKey]
    · rw [if_pos hissuer]
      exact codec.keyOfClaims_of_realm_ne hissuer
  · rw [if_neg fun h => hmac (hsame.1 h), if_pos hmac]

end Codec

end Credentials
