import Credentials.Store.KeyStore

/-!
# The key store through its look-up

What saving and removing do to the record that is found under an id and to the
ids that were removed; every later fact about the store goes through these. An id
that was removed is gone: no save and no removal brings it back.
-/

namespace Credentials.KeyStore

variable {s : KeyStore} {issuer id : String}

/-- An id that is live or was removed, so that no key can be filed under it. -/
def IsTaken (s : KeyStore) (id : String) : Prop := (s.find? id).isSome ∨ s.isRemoved id

instance (s : KeyStore) (id : String) : Decidable (s.IsTaken id) := by
  unfold IsTaken
  infer_instance

/-- Whether the record under an id is live and belongs to an issuer. -/
def owns (s : KeyStore) (issuer id : String) : Bool := (s.find? id).any (·.issuer = issuer)

theorem owns_iff :
    s.owns issuer id = true ↔ ∃ key, s.find? id = some key ∧ key.issuer = issuer := by
  simp [owns, Option.any_eq_true]

/-! ## Saving -/

/-- The store with a record under one more id. -/
def file (s : KeyStore) (id : String) (key : Key) : KeyStore :=
  { s with records := s.records ++ [(id, { key with id := some id })] }

theorem save_of_isTaken {drawn : String} {key : Key} (h : s.IsTaken (key.id.getD drawn)) :
    s.save drawn key = (.error .conflict, s) := by
  rw [save]
  exact if_pos (by simpa [IsTaken] using h)

theorem save_of_not_isTaken {drawn : String} {key : Key} (h : ¬ s.IsTaken (key.id.getD drawn)) :
    s.save drawn key = (.ok (key.id.getD drawn), s.file (key.id.getD drawn) key) := by
  rw [save]
  exact if_neg (by simpa [IsTaken] using h)

/-- The look-up after a record was filed under an id that was not live. -/
theorem find?_file (h : s.find? id = none) (key : Key) (other : String) :
    (s.file id key).find? other
      = if other = id then some { key with id := some id } else s.find? other := by
  rw [find?, file, List.lookup_append]
  by_cases hid : other = id
  · subst hid
    rw [find?] at h
    simp [h]
  · have hne : (other == id) = false := by simpa using hid
    simp [find?, hid, List.lookup_cons, hne]

@[simp] theorem isRemoved_file (key : Key) (other : String) :
    (s.file id key).isRemoved other = s.isRemoved other := rfl

theorem find?_eq_none_of_not_isTaken (h : ¬ s.IsTaken id) : s.find? id = none := by
  simpa using fun hlive => h (.inl hlive)

/-- What is found after a record was filed is that record, or was found before. -/
theorem find?_file_eq_some_iff (h : s.find? id = none) {key record : Key} {other : String} :
    (s.file id key).find? other = some record ↔
      (other = id ∧ record = { key with id := some id }) ∨ s.find? other = some record := by
  rw [find?_file h]
  by_cases hid : other = id
  · subst hid
    simp [h, eq_comm]
  · simp [hid]

theorem isTaken_file (h : s.find? id = none) (key : Key) (other : String) :
    (s.file id key).IsTaken other ↔ other = id ∨ s.IsTaken other := by
  rw [IsTaken, find?_file h, isRemoved_file, IsTaken]
  by_cases hid : other = id <;> simp [hid]

/-! ## Removing -/

theorem lookup_filter_ne (records : List (String × Key)) (id other : String) :
    (records.filter (·.1 ≠ id)).lookup other
      = if other = id then none else records.lookup other := by
  induction records with
  | nil => simp
  | cons record records ih =>
    obtain ⟨name, key⟩ := record
    by_cases hname : name = id
    · subst hname
      by_cases hother : other = name
      · subst hother
        simpa using ih
      · have hne : (other == name) = false := by simpa using hother
        simpa [List.lookup_cons, hne, hother] using ih
    · by_cases hother : other = name
      · subst hother
        simp [hname]
      · have hne : (other == name) = false := by simpa using hother
        simpa [List.lookup_cons, hne, hname] using ih

theorem remove_of_owns (h : s.owns issuer id = true) :
    s.remove issuer id
      = { records := s.records.filter (·.1 ≠ id), removed := id :: s.removed } := by
  obtain ⟨key, hkey, hissuer⟩ := owns_iff.1 h
  simp [remove, hkey, hissuer]

theorem remove_of_not_owns (h : s.owns issuer id = false) : s.remove issuer id = s := by
  rw [remove]
  split
  · next key hkey =>
    apply if_neg
    intro hissuer
    have howns : s.owns issuer id = true := owns_iff.2 ⟨key, hkey, hissuer⟩
    rw [howns] at h
    cases h
  · rfl

/-- Only the issuer of a record removes it, and nothing else is removed with it. -/
theorem find?_remove (other : String) :
    (s.remove issuer id).find? other
      = if s.owns issuer id = true ∧ other = id then none else s.find? other := by
  by_cases h : s.owns issuer id = true
  · rw [remove_of_owns h, find?, lookup_filter_ne]
    simp [h, find?]
  · rw [remove_of_not_owns (by simpa using h)]
    simp [h]

theorem isRemoved_remove (other : String) :
    (s.remove issuer id).isRemoved other
      = (s.isRemoved other || s.owns issuer id && decide (other = id)) := by
  by_cases h : s.owns issuer id = true
  · rw [remove_of_owns h]
    simp [isRemoved, h, Bool.or_comm]
  · have h' : s.owns issuer id = false := by simpa using h
    simp [remove_of_not_owns h', h']

/-- What is found after a removal was found before, and is not what was removed. -/
theorem find?_remove_eq_some_iff {key : Key} {other : String} :
    (s.remove issuer id).find? other = some key ↔
      s.find? other = some key ∧ ¬ (key.issuer = issuer ∧ other = id) := by
  rw [find?_remove]
  split
  · next h =>
    obtain ⟨howns, rfl⟩ := h
    obtain ⟨found, hfound, hissuer⟩ := owns_iff.1 howns
    constructor
    · intro hkey
      cases hkey
    · rintro ⟨hkey, hne⟩
      rw [hfound] at hkey
      cases hkey
      exact absurd ⟨hissuer, rfl⟩ hne
  · next h =>
    constructor
    · intro hkey
      refine ⟨hkey, ?_⟩
      rintro ⟨hissuer, rfl⟩
      exact h ⟨owns_iff.2 ⟨key, hkey, hissuer⟩, rfl⟩
    · exact fun hkey => hkey.1

/-- A removal frees no id and takes none. -/
theorem isTaken_remove (other : String) : (s.remove issuer id).IsTaken other ↔ s.IsTaken other := by
  rw [IsTaken, IsTaken, find?_remove, isRemoved_remove]
  by_cases howns : s.owns issuer id = true
  · by_cases hid : other = id
    · subst hid
      obtain ⟨key, hkey, -⟩ := owns_iff.1 howns
      simp [howns, hkey]
    · simp [hid]
  · simp [howns]

/-! ## Retrieving -/

theorem retrieve_eq_ok_iff {key : Key} :
    s.retrieve issuer id = .ok key ↔ s.find? id = some key ∧ key.issuer = issuer := by
  rw [retrieve]
  cases s.find? id with
  | none => simp
  | some found =>
    by_cases h : found.issuer = issuer
    · simp only [if_pos h, Except.ok.injEq, Option.some.injEq]
      constructor
      · rintro rfl
        exact ⟨rfl, h⟩
      · exact fun hkey => hkey.1
    · simp only [if_neg h, Option.some.injEq]
      constructor
      · intro hkey
        cases hkey
      · rintro ⟨rfl, hissuer⟩
        exact absurd hissuer h

theorem retrieve_eq_error_iff {e : StoreError} :
    s.retrieve issuer id = .error e ↔ e = .notFound ∧ s.owns issuer id = false := by
  rw [retrieve, owns]
  cases s.find? id with
  | none => simp [eq_comm (b := e)]
  | some found => by_cases h : found.issuer = issuer <;> simp [h, eq_comm (b := e)]

/-! ## Ids that are gone -/

/-- An id whose record was removed: it is not live, and it is remembered. -/
structure Gone (s : KeyStore) (id : String) : Prop where
  not_live : s.find? id = none
  remembered : s.isRemoved id = true

theorem gone_remove (h : s.owns issuer id = true) : (s.remove issuer id).Gone id where
  not_live := by rw [find?_remove, if_pos ⟨h, rfl⟩]
  remembered := by simp [isRemoved_remove, h]

theorem Gone.isTaken (h : s.Gone id) : s.IsTaken id := .inr h.remembered

theorem Gone.save (h : s.Gone id) (drawn : String) (key : Key) : (s.save drawn key).2.Gone id := by
  by_cases htaken : s.IsTaken (key.id.getD drawn)
  · rw [save_of_isTaken htaken]
    exact h
  · -- whatever is filed goes under another id, since this one counts as taken
    have hne : id ≠ key.id.getD drawn := by
      intro hid
      exact htaken (hid ▸ h.isTaken)
    have hfree : s.find? (key.id.getD drawn) = none := find?_eq_none_of_not_isTaken htaken
    rw [save_of_not_isTaken htaken]
    constructor
    · rw [find?_file hfree, if_neg hne]
      exact h.not_live
    · rw [isRemoved_file]
      exact h.remembered

theorem Gone.remove (h : s.Gone id) (issuer other : String) : (s.remove issuer other).Gone id where
  not_live := by
    rw [find?_remove]
    split
    · rfl
    · exact h.not_live
  remembered := by simp [isRemoved_remove, h.remembered]

theorem Gone.retrieve (h : s.Gone id) (issuer : String) :
    s.retrieve issuer id = .error .notFound :=
  retrieve_eq_error_iff.2 ⟨rfl, by simp [owns, h.not_live]⟩

/-! ## Records that stay -/

/-- A live record stays as it is when another key is filed. -/
theorem find?_save_of_some {key : Key} (h : s.find? id = some key) (drawn : String) (new : Key) :
    (s.save drawn new).2.find? id = some key := by
  by_cases htaken : s.IsTaken (new.id.getD drawn)
  · rw [save_of_isTaken htaken]
    exact h
  · rw [save_of_not_isTaken htaken]
    exact (find?_file_eq_some_iff (find?_eq_none_of_not_isTaken htaken)).2 (.inr h)

/-- A live record stays as it is unless its own issuer removes it. -/
theorem find?_remove_of_some {key : Key} (h : s.find? id = some key) {other : String}
    (hne : ¬ (issuer = key.issuer ∧ other = id)) :
    (s.remove issuer other).find? id = some key := by
  refine find?_remove_eq_some_iff.2 ⟨h, ?_⟩
  rintro ⟨rfl, rfl⟩
  exact hne ⟨rfl, rfl⟩

end Credentials.KeyStore
