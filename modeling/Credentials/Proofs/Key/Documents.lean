import Credentials.Key.Token
import Credentials.Policy.Relationship
import Credentials.Proofs.Json.ReadBack
import Credentials.Proofs.Time.Rfc3339

/-!
# Keys, tokens and relationships read back

The documents of keys, of tokens and of relationships are read back as what was
written. Fields that are left out come back as what their reader assumes, and
times to the nanosecond, whatever their year and in leap seconds as well.
-/

namespace Credentials

/-! ## Field values -/

@[simp] theorem Json.text?_text (text : String) : text? (.text text) = some text := rfl

@[simp] theorem Timestamp.ofJson?_text (t : Timestamp) : ofJson? (.text t.text) = some t := by
  simp [ofJson?, ofText?_text]

@[simp] theorem KeyType.ofJson?_ordinal (t : KeyType) :
    ofJson? (.number (.ofInt t.ordinal)) = some t := by
  cases t <;> decide

/-- A field that is left out for want of a value comes back as none. -/
theorem Json.optional_map_text {α : Type} {read : Json → Option α} {write : α → String}
    (h : ∀ a, read (.text (write a)) = some a) (v : Option α) :
    optional read (v.map fun a => .text (write a)) = some v := by
  cases v with
  | none => rfl
  | some a => simp [optional, h]

/-! ## Documents -/

namespace Key

theorem mapM_instant?_eq_some_iff {given : Option Timestamp} {expiresAt : Option Instant} :
    given.mapM Timestamp.instant? = some expiresAt ↔ given = expiresAt.map Timestamp.ofInstant := by
  cases given with
  | none => cases expiresAt <;> simp
  | some t => cases expiresAt <;> simp [Timestamp.instant?_eq_some_iff]

/-- A document stands for the key that is written as it, and for no other. -/
theorem ofDocument?_eq_some_iff (doc : KeyDocument) (key : Key) :
    ofDocument? doc = some key ↔ doc = key.document := by
  simp only [ofDocument?, Option.bind_eq_bind, Option.bind_eq_some_iff, Option.pure_def,
    Option.some.injEq, Timestamp.instant?_eq_some_iff, mapM_instant?_eq_some_iff]
  constructor
  · rintro ⟨issuedAt, hissued, expiresAt, hexpires, rfl⟩
    cases doc
    cases hissued
    cases hexpires
    rfl
  · rintro rfl
    exact ⟨key.issuedAt, rfl, key.expiresAt, rfl, rfl⟩

/-- The names of a key as written differ. -/
theorem nodup_record (key : KeyDocument) : (key.record.map Prod.fst).Nodup := by
  cases hid : key.id <;> cases hexp : key.expiresAt <;> simp [record, Json.present, hid, hexp]

/-- What the reader finds under each name of a key as written. -/
theorem fields?_record (key : KeyDocument) :
    Json.fields? fields (Json.ofRecord key.record) = some [
      key.id.map fun id => .text id, some (.number (.ofInt key.keyType.ordinal)),
      some (.text key.issuer), some (.text key.subject), some (.text key.issuedAt.text),
      key.expiresAt.map fun t => .text t.text] := by
  refine (Json.fields?_ofRecord (nodup_record key) fields).trans (congrArg some ?_)
  simp only [record, fields, List.map_cons, List.map_nil, List.lookup_append]
  simp [List.lookup_cons, Function.comp_def, Json.Scalar.toJson]

theorem ofJson?_ofRecord (key : KeyDocument) : ofJson? (Json.ofRecord key.record) = some key := by
  have hid := Json.optional_map_text Json.text?_text key.id
  have hexp := Json.optional_map_text Timestamp.ofJson?_text key.expiresAt
  simp [ofJson?, fields?_record, Json.required, Json.defaulting, hid, hexp]

/-- A key as documents hold it is read back from the document it is written to. -/
theorem parse?_render (key : KeyDocument) : parse? (render key) = some key := by
  simp [parse?, render, Json.ofString?_render, ofJson?_ofRecord]

end Key

namespace Token

/-- The names of a token as written differ. -/
theorem nodup_record (t : Token) : (t.record.map Prod.fst).Nodup := by
  cases hrefresh : t.refreshToken <;> cases hid : t.keyId <;>
    simp [record, Json.present, hrefresh, hid]

/-- What the reader finds under each name of a token as written. -/
theorem fields?_record (t : Token) :
    Json.fields? fields (Json.ofRecord t.record) = some [
      some (.text t.accessToken), t.refreshToken.map fun text => .text text,
      some (.text t.accessType), t.keyId.map fun id => .text id] := by
  refine (Json.fields?_ofRecord (nodup_record t) fields).trans (congrArg some ?_)
  simp only [record, fields, List.map_cons, List.map_nil, List.lookup_append]
  simp [List.lookup_cons, Function.comp_def, Json.Scalar.toJson]

/-- A token is read back from the document it is written to. -/
theorem parse?_render (t : Token) : parse? t.render = some t := by
  have hrefresh := Json.optional_map_text Json.text?_text t.refreshToken
  have hid := Json.optional_map_text Json.text?_text t.keyId
  simp [parse?, render, Json.ofString?_render, ofJson?, fields?_record, Json.required, hrefresh,
    hid]

end Token

namespace Relationship

/-- What the reader finds under each name of a relationship as written. -/
theorem fields?_record (r : Relationship) :
    Json.fields? fields (Json.ofRecord r.record)
      = some [some (.text r.subject), some (.text r.relation), some (.text r.object)] := by
  have hnames : (r.record.map Prod.fst).Nodup := by simp [record]
  refine (Json.fields?_ofRecord hnames fields).trans (congrArg some ?_)
  simp [record, fields, List.lookup_cons, Json.Scalar.toJson]

/-- A relationship is read back from the document it is written to. -/
theorem parse?_render (r : Relationship) : parse? r.render = some r := by
  simp [parse?, render, Json.ofString?_render, ofJson?, fields?_record, Json.required]

end Relationship

/-! ## All documents -/

/-- The instants are the nanoseconds from the start of the year -262143 to the end of the year
262142. -/
theorem Instant.exists_nanos_iff (n : Int) :
    (∃ t : Instant, t.nanos = n) ↔
      Date.toDay ⟨-262143, 1, 1⟩ * 86400000000000 ≤ n ∧
        n < Date.toDay ⟨262143, 1, 1⟩ * 86400000000000 := by
  have hfirst : Date.toDay ⟨-262143, 1, 1⟩ * 86400000000000 = earliest := by decide
  have hlast : Date.toDay ⟨262143, 1, 1⟩ * 86400000000000 = latest + 1 := by decide
  rw [hfirst, hlast, Int.lt_add_one_iff]
  constructor
  · rintro ⟨t, rfl⟩
    exact ⟨t.earliest_le, t.le_latest⟩
  · rintro ⟨hle, hge⟩
    exact ⟨⟨n, hle, hge⟩, rfl⟩

/-- Every key, every token and every relationship is read back from the document it is written to:
a key whatever its type, its names and its times, with or without an id, an issuer and an expiry,
its times being any instants from the start of the year -262143 to the end of the year 262142, or
moments of leap seconds, in which case the document stands for no key of a service. -/
theorem documents_read_back :
    (∀ key : Key, (Key.parse? (Key.render key.document)).bind Key.ofDocument? = some key ∧
      ∀ doc, Key.ofDocument? doc = some key ↔ doc = key.document) ∧
    (∀ key : KeyDocument, Key.parse? (Key.render key) = some key) ∧
    (∀ t : Token, Token.parse? t.render = some t) ∧
    (∀ r : Relationship, Relationship.parse? r.render = some r) ∧
    ∀ n : Int, (∃ t : Instant, t.nanos = n) ↔
      Date.toDay ⟨-262143, 1, 1⟩ * 86400000000000 ≤ n ∧
        n < Date.toDay ⟨262143, 1, 1⟩ * 86400000000000 := by
  refine ⟨fun key => ⟨?_, fun doc => Key.ofDocument?_eq_some_iff doc key⟩, Key.parse?_render,
    Token.parse?_render, Relationship.parse?_render, Instant.exists_nanos_iff⟩
  rw [Key.parse?_render, Option.bind_some]
  exact (Key.ofDocument?_eq_some_iff _ key).2 rfl

end Credentials
