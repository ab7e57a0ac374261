import Credentials.Proofs.Store.Lookup

/-!
# Stores that look the same to an issuer

An issuer sees its own records and no others, and those who file records see
besides which ids are taken. Both views come through every change that is made to
two stores alike, and neither shows what another issuer removes.
-/

namespace Credentials.KeyStore

variable {issuer owner id : String} {s t u : KeyStore}

/-! ## The records of an issuer -/

/-- Two stores that hold the same records of an issuer. -/
def AgreeOn (issuer : String) (s t : KeyStore) : Prop :=
  ∀ id record, record.issuer = issuer → (s.find? id = some record ↔ t.find? id = some record)

theorem AgreeOn.refl (issuer : String) (s : KeyStore) : AgreeOn issuer s s :=
  fun _ _ _ => Iff.rfl

theorem AgreeOn.trans (hst : AgreeOn issuer s t) (htu : AgreeOn issuer t u) :
    AgreeOn issuer s u :=
  fun id record hissuer => (hst id record hissuer).trans (htu id record hissuer)

theorem AgreeOn.retrieve (h : AgreeOn issuer s t) (id : String) :
    s.retrieve issuer id = t.retrieve issuer id := by
  cases hs : s.retrieve issuer id with
  | ok record =>
    obtain ⟨hfound, hissuer⟩ := retrieve_eq_ok_iff.1 hs
    exact (retrieve_eq_ok_iff.2 ⟨(h id record hissuer).1 hfound, hissuer⟩).symm
  | error e =>
    cases ht : t.retrieve issuer id with
    | ok record =>
      obtain ⟨hfound, hissuer⟩ := retrieve_eq_ok_iff.1 ht
      rw [retrieve_eq_ok_iff.2 ⟨(h id record hissuer).2 hfound, hissuer⟩] at hs
      cases hs
    | error d => rw [(retrieve_eq_error_iff.1 hs).1, (retrieve_eq_error_iff.1 ht).1]

theorem AgreeOn.file (h : AgreeOn issuer s t) (hs : ¬ s.IsTaken id) (ht : ¬ t.IsTaken id)
    (key : Key) : AgreeOn issuer (s.file id key) (t.file id key) := by
  intro other record hissuer
  rw [find?_file_eq_some_iff (find?_eq_none_of_not_isTaken hs),
    find?_file_eq_some_iff (find?_eq_none_of_not_isTaken ht), h other record hissuer]

theorem AgreeOn.remove (h : AgreeOn issuer s t) (owner id : String) :
    AgreeOn issuer (s.remove owner id) (t.remove owner id) := by
  intro other record hissuer
  rw [find?_remove_eq_some_iff, find?_remove_eq_some_iff, h other record hissuer]

/-- What one issuer removes is not seen by another. -/
theorem agreeOn_remove (hne : owner ≠ issuer) (s : KeyStore) (id : String) :
    AgreeOn issuer (s.remove owner id) s := by
  intro other record hissuer
  rw [find?_remove_eq_some_iff]
  apply and_iff_left
  rintro ⟨howner, -⟩
  exact hne (howner.symm.trans hissuer)

/-! ## Taken ids -/

/-- Two stores that hold the same records of an issuer and in which the same ids are taken, be it
by other records or by none any more. -/
structure Alike (issuer : String) (s t : KeyStore) : Prop where
  records : AgreeOn issuer s t
  taken : ∀ id, s.IsTaken id ↔ t.IsTaken id

theorem Alike.refl (issuer : String) (s : KeyStore) : Alike issuer s s where
  records := AgreeOn.refl issuer s
  taken _ := Iff.rfl

theorem Alike.file (h : Alike issuer s t) (hs : ¬ s.IsTaken id) (key : Key) :
    Alike issuer (s.file id key) (t.file id key) := by
  have ht : ¬ t.IsTaken id := fun htaken => hs ((h.taken id).2 htaken)
  constructor
  · exact h.records.file hs ht key
  · intro other
    rw [isTaken_file (find?_eq_none_of_not_isTaken hs),
      isTaken_file (find?_eq_none_of_not_isTaken ht), h.taken]

theorem Alike.remove (h : Alike issuer s t) (owner id : String) :
    Alike issuer (s.remove owner id) (t.remove owner id) where
  records := h.records.remove owner id
  taken other := by rw [isTaken_remove, isTaken_remove, h.taken]

/-- A removal by another issuer leaves a store alike. -/
theorem Alike.of_remove (h : Alike issuer s t) (hne : owner ≠ issuer) (id : String) :
    Alike issuer (s.remove owner id) t where
  records := (agreeOn_remove hne s id).trans h.records
  taken other := by rw [isTaken_remove, h.taken]

end Credentials.KeyStore
