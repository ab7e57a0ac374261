import Credentials.Codec.Basic
import Credentials.Proofs.Json.ReadBack

/-!
# Keys read back from their tokens

A key that was signed comes back under the same codec with its times at whole
seconds, an empty id counting as none, and is refused only for an empty subject.
Each layer of a token is undone on its own: the dots, the base64, the documents,
the claims.
-/

namespace Credentials

/-! ## Dots -/

theorem splitAtLast_of_not_mem {mark : Char} {cs : List Char} (h : mark ∉ cs) :
    splitAtLast mark cs = none := by
  induction cs with
  | nil => rfl
  | cons c cs ih =>
    have hc : c ≠ mark := by
      rintro rfl
      exact h List.mem_cons_self
    have hcs : mark ∉ cs := by
      intro hmem
      exact h (List.mem_cons_of_mem c hmem)
    rw [splitAtLast, ih hcs]
    exact if_neg hc

/-- Whatever stands before it, a mark is the last one if none comes after it. -/
theorem splitAtLast_append {mark : Char} {after : List Char} (h : mark ∉ after)
    (before : List Char) : splitAtLast mark (before ++ mark :: after) = some (before, after) := by
  induction before with
  | nil =>
    rw [List.nil_append, splitAtLast, splitAtLast_of_not_mem h]
    exact if_pos rfl
  | cons c before ih => rw [List.cons_append, splitAtLast, ih]

theorem Bytes.Base64Url.digit_ne_dot (n : Nat) : digit n ≠ '.' := by
  by_cases hn : n < 64
  · intro hdot
    have hv := value?_digit hn
    rw [hdot] at hv
    exact absurd hv (by simp [value?])
  · rw [digit, if_neg (by omega), if_neg (by omega), if_neg (by omega), if_neg (by omega)]
    decide

theorem Bytes.Base64Url.dot_not_mem_encode (bytes : List UInt8) : '.' ∉ encode bytes := by
  fun_induction encode bytes with
  | case1 => exact List.not_mem_nil
  | case2 | case3 => simp [(digit_ne_dot _).symm]
  | case4 a b c rest n ih => simp [(digit_ne_dot _).symm, ih]

/-! ## Claims -/

namespace Claims

/-- A number of seconds that sixty-four bits hold. -/
def InRange (n : Int) : Prop := -9223372036854775808 ≤ n ∧ n ≤ 9223372036854775807

theorem seconds?_ofInt {n : Int} (h : InRange n) : seconds? (.number (.ofInt n)) = some n := by
  simp [seconds?, Json.integer?, h.1, h.2]

/-- The names of the claims as written differ. -/
theorem nodup_record (c : Claims) : (c.record.map Prod.fst).Nodup := by
  by_cases hissuer : c.issuer = "" <;> cases hid : c.id <;> cases hexp : c.expiresAt <;>
    simp [record, Json.present, hissuer, hid, hexp]

/-- What the reader finds under each name of the claims as written. -/
theorem ofMembers?_record (c : Claims) :
    Json.ofMembers? fields (c.record.map Json.writtenMember) = some [
      some (.text c.realm), some (.text c.subject), some (.number (.ofInt c.keyType)),
      if c.issuer = "" then none else some (.text c.issuer), c.id.map .text,
      some (.number (.ofInt c.issuedAt)), c.expiresAt.map fun n => .number (.ofInt n),
      none, none] := by
  refine (Json.fields?_ofRecord (nodup_record c) fields).trans (congrArg some ?_)
  simp only [record, fields, List.map_cons, List.map_nil, List.lookup_append]
  simp [List.lookup_cons, Function.comp_def, Json.Scalar.toJson]
  split <;> rfl

/-- Claims whose numbers fit come back from the document they are written to. -/
theorem ofJson?_ofRecord {c : Claims} (htype : (c.keyType : Int) ≤ KeyType.maxOrdinal)
    (hiat : InRange c.issuedAt) (hexp : ∀ n, c.expiresAt = some n → InRange n) :
    ofJson? (Json.ofRecord c.record) = some c := by
  -- one equation for each field: what its rule makes of what is found
  have hpassed : (guard ((none : Option Json).all Json.isPassedAsNumber
      && (none : Option Json).all Json.isPassed) : Option Unit) = some () := rfl
  have htext (s : String) : Json.required Json.text? (some (.text s)) = some s := rfl
  have htype' : Json.required (Json.integer? 0 KeyType.maxOrdinal)
      (some (.number (.ofInt c.keyType))) = some (c.keyType : Int) := by
    simp [Json.required, Json.integer?, htype]
  have hissuer : Json.defaulting "" Json.text?
      (if c.issuer = "" then none else some (.text c.issuer)) = some c.issuer := by
    split
    · next h => rw [h]; rfl
    · rfl
  have hid : Json.optional Json.text? (c.id.map .text) = some c.id := by
    cases c.id <;> rfl
  have hiat' : Json.required seconds? (some (.number (.ofInt c.issuedAt))) = some c.issuedAt :=
    seconds?_ofInt hiat
  have hexp' : Json.optional seconds? (c.expiresAt.map fun n => .number (.ofInt n))
      = some c.expiresAt := by
    cases h : c.expiresAt with
    | none => rfl
    | some n => simp [Json.optional, seconds?_ofInt (hexp n h)]
  rw [Json.ofRecord, ofJson?]
  change (Json.ofMembers? fields (c.record.map Json.writtenMember)).bind _ = _
  rw [ofMembers?_record, Option.bind_some]
  dsimp only
  rw [hpassed]
  simp only [htext, htype', hissuer, hid, hiat', hexp', bind, Option.bind_some]
  rfl

/-- The seconds of every instant fit into sixty-four bits. -/
theorem inRange_seconds (t : Instant) : InRange t.seconds := by
  have h1 := t.earliest_le
  have h2 := t.le_latest
  simp only [InRange, Instant.earliest, Instant.latest, Instant.seconds] at *
  omega

/-- The claims of a key come back from the document they are written to. -/
theorem ofJson?_ofKey (realm : String) (key : Key) :
    ofJson? (Json.ofRecord (ofKey realm key).record) = some (ofKey realm key) := by
  refine ofJson?_ofRecord ?_ (inRange_seconds key.issuedAt) ?_
  · show (key.keyType.ordinal : Int) ≤ KeyType.maxOrdinal
    cases key.keyType <;> decide
  · intro n hn
    obtain ⟨t, -, rfl⟩ := Option.map_eq_some_iff.1 hn
    exact inRange_seconds t

end Claims

/-! ## Whole seconds -/

/-- An instant lies in the second that its floor begins, before the epoch as after it. -/
theorem Instant.floor_spec (t : Instant) :
    t.floor.nanos % 1000000000 = 0 ∧ t.floor ≤ t ∧ t.nanos < t.floor.nanos + 1000000000 := by
  have hnanos : t.floor.nanos = t.nanos / 1000000000 * 1000000000 := rfl
  rw [Instant.le_def, hnanos]
  omega

/-! ## Tokens -/

/-- A key as its token tells it: times at whole seconds, and no id for an empty one. -/
def Key.signed (key : Key) : Key :=
  { key with
    id := key.id.filter (· ≠ "")
    issuedAt := key.issuedAt.floor
    expiresAt := key.expiresAt.map Instant.floor }

namespace Codec

theorem ofText?_ofList {header claims signature : List Char} (hclaims : '.' ∉ claims)
    (hsignature : '.' ∉ signature) :
    TokenParts.ofText? (String.ofList (header ++ '.' :: claims ++ '.' :: signature))
      = some { message := header ++ '.' :: claims, header, claims, signature } := by
  rw [TokenParts.ofText?, String.toList_ofList, splitAtLast_append hsignature]
  simp [splitAtLast_append hclaims]

/-- A part of a token is read as the document that was written there. -/
theorem readPart_part {α : Type} {read : Json → Option α} {record : Json.Record} {a : α}
    (h : read (Json.ofRecord record) = some a) : readPart read (part record) = .ok a := by
  simp [readPart, part, Bytes.Base64Url.decode?_encode, Json.ofBytes?_utf8_render, h]

theorem algorithm?_ofRecord : Header.algorithm? (Json.ofRecord Header.record) = some .hs256 := by
  decide

theorem isSigned_self (codec : Codec) (message header claims : List Char) :
    codec.isSigned { message, header, claims, signature := codec.signature message } = true :=
  Text.sameText_iff.2 rfl

theorem instant_seconds (flaw : Flaw) (t : Instant) : instant flaw t.seconds = .ok t.floor := by
  rw [instant, Instant.ofSeconds?_seconds]

/-- The claims of a key stand for the key as its token tells it, unless its subject is empty. -/
theorem keyOfClaims_ofKey (codec : Codec) (key : Key) :
    codec.keyOfClaims (Claims.ofKey codec.issuer key)
      = if key.subject = "" then .error (.malformed .emptySubject) else .ok key.signed := by
  have hrealm : Text.sameText codec.issuer codec.issuer = true := Text.sameText_iff.2 rfl
  have hexp : (key.expiresAt.map Instant.seconds).mapM (instant .expiryOutOfRange)
      = .ok (key.expiresAt.map Instant.floor) := by
    cases key.expiresAt with
    | none => rfl
    | some t =>
      show some <$> instant .expiryOutOfRange t.seconds = _
      rw [instant_seconds]
      rfl
  rw [keyOfClaims]
  simp only [Claims.ofKey, hrealm, KeyType.ofOrdinal?_ordinal, instant_seconds, hexp]
  by_cases h : key.subject = ""
  · simp only [if_pos h]
    rfl
  · simp only [if_neg h]
    rfl

theorem dot_not_mem_part (record : Json.Record) : '.' ∉ part record :=
  Bytes.Base64Url.dot_not_mem_encode _

theorem dot_not_mem_signature (codec : Codec) (message : List Char) :
    '.' ∉ codec.signature message :=
  Bytes.Base64Url.dot_not_mem_encode _

/-- A token that bears its own code tells what its claims stand for. -/
theorem decode_of_signature (codec : Codec) {header claims : List Char} {c : Claims}
    (hdot : '.' ∉ claims) (hheader : readPart Header.algorithm? header = .ok .hs256)
    (hclaims : readPart Claims.ofJson? claims = .ok c) :
    codec.decode (String.ofList
        (header ++ '.' :: claims ++ '.' :: codec.signature (header ++ '.' :: claims)))
      = codec.keyOfClaims c := by
  have hparts := @ofText?_ofList header claims (codec.signature (header ++ '.' :: claims)) hdot
    (codec.dot_not_mem_signature _)
  rw [decode, hparts]
  simp only [hheader, isSigned_self, hclaims, bind, Except.bind]
  rfl

/-- A signed key comes back as its token tells it, unless its subject is empty. -/
theorem decode_encode (codec : Codec) (key : Key) :
    codec.decode (codec.encode key)
      = if key.subject = "" then .error (.malformed .emptySubject) else .ok key.signed := by
  have hheader := readPart_part algorithm?_ofRecord
  have hclaims := readPart_part (Claims.ofJson?_ofKey codec.issuer key)
  rw [← keyOfClaims_ofKey, Codec.encode]
  exact codec.decode_of_signature (dot_not_mem_part _) hheader hclaims

theorem decode_encode_of_subject_ne (codec : Codec) {key : Key} (h : key.subject ≠ "") :
    codec.decode (codec.encode key) = .ok key.signed := by
  rw [decode_encode, if_neg h]

/-- Every key that is signed comes back under the same codec, with its times at the whole seconds
in which they lie and no id for an empty one. The only key that is refused is one without a
subject, and only for that. -/
theorem signed_key_returns (codec : Codec) (key : Key) :
    codec.decode (codec.encode key) = (
      if key.subject = "" then .error (.malformed .emptySubject)
      else .ok {
        id := if key.id = some "" then none else key.id
        keyType := key.keyType
        issuer := key.issuer
        subject := key.subject
        issuedAt := key.issuedAt.floor
        expiresAt := key.expiresAt.map Instant.floor }) ∧
    Flaw.emptySubject.text = "empty subject" ∧
    ∀ t : Instant, t.floor.nanos % 1000000000 = 0 ∧ t.floor ≤ t ∧
      t.nanos < t.floor.nanos + 1000000000 := by
  have hid : key.id.filter (· ≠ "") = if key.id = some "" then none else key.id := by
    cases key.id with
    | none => rfl
    | some id => by_cases h : id = "" <;> simp [h]
  refine ⟨?_, rfl, Instant.floor_spec⟩
  rw [decode_encode, Key.signed, hid]

end Codec

end Credentials
