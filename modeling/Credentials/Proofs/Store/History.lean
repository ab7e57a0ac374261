import Credentials.Proofs.Store.Lookup
import Credentials.Store.History

/-!
# A key store answers by its history

Whatever a store in memory was asked, its records are the keys of its history
that stand, and the ids that it refuses are those under which it ever saved one.
So the next reply can be told from the requests and replies before it, without
looking into the store.
-/

namespace Credentials

/-! ## Reading a history -/

variable {past : List Exchange} {e : Exchange} {issuer id : String} {key : Key}

theorem Exchange.filing?_eq_some_iff :
    e.filing? = some (id, key) ↔ e = ⟨.save key, .value (.id id)⟩ := by
  obtain ⟨request, reply⟩ := e
  constructor
  · intro h
    unfold filing? at h
    split at h
    · next heq =>
      cases h
      exact heq
    · cases h
  · intro h
    cases h
    rfl

theorem Exchange.removes_of_filing? {f : String × Key} (h : e.filing? = some f)
    (issuer id : String) : e.removes issuer id = false := by
  obtain ⟨name, key⟩ := f
  rw [Exchange.filing?_eq_some_iff] at h
  subst h
  rfl

/-- One more exchange ends what it removes, and what it files stands. -/
theorem standing_append (past : List Exchange) (e : Exchange) :
    standing (past ++ [e])
      = ((standing past).filter fun f => !e.removes f.2.issuer f.1) ++ e.filing?.toList := by
  induction past with
  | nil => simp [standing]
  | cons d past ih =>
    simp [standing, ih, List.filter_append, List.filter_filter, List.any_append, Bool.and_comm]

/-- A key stands if it was saved and its removal was not asked for since. -/
theorem mem_standing_iff :
    (id, key) ∈ standing past ↔ ∃ before later,
      past = before ++ ⟨.save key, .value (.id id)⟩ :: later ∧
        later.any (·.removes key.issuer id) = false := by
  induction past with
  | nil => simp [standing]
  | cons d past ih =>
    rw [standing, List.mem_append, ih]
    constructor
    · rintro (h | ⟨before, later, rfl, hlater⟩)
      · simp only [List.mem_filter, Option.mem_toList, Exchange.filing?_eq_some_iff,
          Bool.not_eq_true'] at h
        obtain ⟨rfl, hlater⟩ := h
        exact ⟨[], past, rfl, hlater⟩
      · exact ⟨d :: before, later, rfl, hlater⟩
    · rintro ⟨before, later, heq, hlater⟩
      cases before with
      | nil =>
        obtain ⟨rfl, rfl⟩ := List.cons.inj heq
        left
        simp [Exchange.filing?, hlater]
      | cons _ before =>
        obtain ⟨rfl, rfl⟩ := List.cons.inj heq
        exact .inr ⟨before, later, rfl, hlater⟩

/-- The ids under which keys were saved, in their order. -/
def savedIds (past : List Exchange) : List String := (past.filterMap Exchange.filing?).map (·.1)

theorem mem_savedIds_iff :
    id ∈ savedIds past ↔ ∃ key, ⟨.save key, .value (.id id)⟩ ∈ past := by
  simp only [savedIds, List.mem_map, List.mem_filterMap, Prod.exists,
    Exchange.filing?_eq_some_iff]
  constructor
  · rintro ⟨_, key, ⟨e, he, rfl⟩, rfl⟩
    exact ⟨key, he⟩
  · rintro ⟨key, he⟩
    exact ⟨id, key, ⟨_, he, rfl⟩, rfl⟩

theorem savedIds_append (past : List Exchange) (e : Exchange) :
    savedIds (past ++ [e]) = savedIds past ++ e.filing?.toList.map (·.1) := by
  cases h : e.filing? <;> simp [savedIds, List.filterMap_append, h]

theorem standing_sublist (past : List Exchange) :
    ((standing past).map (·.1)).Sublist (savedIds past) := by
  induction past with
  | nil => exact List.Sublist.refl _
  | cons d past ih =>
    have hsaved : savedIds (d :: past) = d.filing?.toList.map (·.1) ++ savedIds past := by
      cases h : d.filing? <;> simp [savedIds, h]
    rw [standing, List.map_append, hsaved]
    exact (List.filter_sublist.map _).append ih

namespace KeyStore

/-! ## What a store recalls of its history -/

/-- The record that is filed for a key under an id. -/
def entry (f : String × Key) : String × Key := (f.1, { f.2 with id := some f.1 })

/-- A store whose records are the keys that stand in a history, and which refuses the ids under
which a key was ever saved. No id was given twice. -/
structure Recalls (s : KeyStore) (past : List Exchange) : Prop where
  records : s.records = (standing past).map entry
  taken : ∀ id, s.IsTaken id ↔ id ∈ savedIds past
  distinct : (savedIds past).Nodup

variable {s : KeyStore}

theorem Recalls.empty : Recalls {} [] where
  records := rfl
  taken id := by simp [IsTaken, find?, isRemoved, savedIds]
  distinct := List.nodup_nil

theorem Recalls.distinct_standing (h : s.Recalls past) : ((standing past).map (·.1)).Nodup :=
  h.distinct.sublist (standing_sublist past)

/-- What is found under an id is the key that stands there. -/
theorem Recalls.find?_eq_some_iff (h : s.Recalls past) {record : Key} :
    s.find? id = some record ↔
      ∃ key, (id, key) ∈ standing past ∧ record = { key with id := some id } := by
  have hdistinct := h.distinct_standing
  rw [find?, h.records, List.lookup_eq_some_iff]
  constructor
  · rintro ⟨before, after, heq, -⟩
    have hmem : (id, record) ∈ (standing past).map entry := heq ▸ by simp
    obtain ⟨⟨name, key⟩, hkey, hentry⟩ := List.mem_map.1 hmem
    cases hentry
    exact ⟨key, hkey, rfl⟩
  · rintro ⟨key, hkey, rfl⟩
    obtain ⟨before, after, heq⟩ := List.append_of_mem hkey
    refine ⟨before.map entry, after.map entry, by simp [heq, entry], ?_⟩
    -- no other key stands under the id
    rintro p hp
    obtain ⟨f, hf, rfl⟩ := List.mem_map.1 hp
    rw [heq, List.map_append, List.map_cons, List.nodup_append] at hdistinct
    have hne := hdistinct.2.2 f.1 (List.mem_map_of_mem hf) id List.mem_cons_self
    simpa [entry] using hne.symm

theorem Recalls.owns_iff (h : s.Recalls past) :
    s.owns issuer id = true ↔ ∃ key, (id, key) ∈ standing past ∧ key.issuer = issuer := by
  rw [KeyStore.owns_iff]
  constructor
  · rintro ⟨record, hfound, rfl⟩
    obtain ⟨key, hkey, rfl⟩ := h.find?_eq_some_iff.1 hfound
    exact ⟨key, hkey, rfl⟩
  · rintro ⟨key, hkey, rfl⟩
    exact ⟨_, h.find?_eq_some_iff.2 ⟨key, hkey, rfl⟩, rfl⟩

/-! ## One more exchange -/

/-- An exchange that neither files nor removes a key changes nothing. -/
theorem Recalls.pass (h : s.Recalls past) (hfiling : e.filing? = none)
    (hremoves : ∀ f ∈ standing past, e.removes f.2.issuer f.1 = false) :
    s.Recalls (past ++ [e]) where
  records := by
    have hstays : ∀ f ∈ standing past, (!e.removes f.2.issuer f.1) = true := by
      intro f hf
      rw [hremoves f hf]
      rfl
    rw [standing_append, hfiling, List.filter_eq_self.2 hstays, h.records]
    simp
  taken id := by simp [savedIds_append, hfiling, h.taken]
  distinct := by simpa [savedIds_append, hfiling] using h.distinct

/-- A key that is filed under an id that was never taken stands from then on. -/
theorem Recalls.file (h : s.Recalls past) (hfree : ¬ s.IsTaken id)
    (hfiling : e.filing? = some (id, key)) : (s.file id key).Recalls (past ++ [e]) where
  records := by
    have hstays : ∀ f ∈ standing past, (!e.removes f.2.issuer f.1) = true := by
      intro f _
      rw [Exchange.removes_of_filing? hfiling]
      rfl
    rw [standing_append, hfiling, List.filter_eq_self.2 hstays, KeyStore.file, h.records]
    simp [entry]
  taken other := by
    rw [isTaken_file (find?_eq_none_of_not_isTaken hfree), h.taken, savedIds_append]
    simp [hfiling, or_comm]
  distinct := by
    have hnew : id ∉ savedIds past := fun hsaved => hfree ((h.taken id).2 hsaved)
    have hne : ∀ other ∈ savedIds past, ¬ other = id := by
      rintro other hother rfl
      exact hnew hother
    rw [savedIds_append, List.nodup_append, hfiling]
    exact ⟨h.distinct, by simp, by simpa using hne⟩

/-- A key that its issuer removes stands no longer, and its id stays taken. -/
theorem Recalls.remove (h : s.Recalls past) (howns : s.owns issuer id = true)
    {reply : Reply StoreError Vault.Answer} :
    (s.remove issuer id).Recalls (past ++ [⟨.remove issuer id, reply⟩]) where
  records := by
    obtain ⟨key, hkey, rfl⟩ := h.owns_iff.1 howns
    rw [remove_of_owns howns, standing_append]
    simp only [Exchange.filing?, Option.toList_none, List.append_nil]
    rw [h.records, List.filter_map]
    congr 1
    apply List.filter_congr
    rintro ⟨name, other⟩ hother
    -- only the removed key stands under the id, so naming its issuer selects nothing less
    by_cases hname : name = id
    · subst hname
      have hfound := h.find?_eq_some_iff.2 ⟨key, hkey, rfl⟩
      rw [h.find?_eq_some_iff.2 ⟨other, hother, rfl⟩] at hfound
      have hsame : other.issuer = key.issuer := (Key.mk.inj (Option.some.inj hfound)).2.2.1
      simp [Exchange.removes, entry, hsame]
    · simp [Exchange.removes, entry, hname, Ne.symm hname]
  taken other := by
    rw [isTaken_remove, h.taken, savedIds_append]
    simp [Exchange.filing?]
  distinct := by simpa [savedIds_append, Exchange.filing?] using h.distinct

/-! ## Turn by turn -/

variable (limit : Duration)

theorem take_save_of_isTaken {drawn : String} (h : s.IsTaken (key.id.getD drawn)) :
    s.take limit ⟨drawn, .save key⟩ = (.failure .conflict, s) := by
  simp [KeyStore.take, Vault.ask, Call.andThen, vault, save_of_isTaken h, Reply.ofExcept]

theorem take_save_of_not_isTaken {drawn : String} (h : ¬ s.IsTaken (key.id.getD drawn)) :
    s.take limit ⟨drawn, .save key⟩
      = (.value (.id (key.id.getD drawn)), s.file (key.id.getD drawn) key) := by
  simp [KeyStore.take, Vault.ask, Call.andThen, vault, save_of_not_isTaken h, Reply.ofExcept]

theorem take_retrieve (drawn issuer id : String) :
    s.take limit ⟨drawn, .retrieve issuer id⟩
      = (match s.retrieve issuer id with
          | .ok record => .value (.record record)
          | .error e => .failure e, s) := by
  simp only [KeyStore.take, Vault.ask, Call.andThen, vault]
  cases s.retrieve issuer id <;> rfl

theorem take_remove (drawn issuer id : String) :
    s.take limit ⟨drawn, .remove issuer id⟩ = (.value .done, s.remove issuer id) := rfl

/-- A store recalls its history after one more request. -/
theorem Recalls.take (h : s.Recalls past) (turn : Turn) :
    (s.take limit turn).2.Recalls (past ++ [⟨turn.request, (s.take limit turn).1⟩]) := by
  obtain ⟨drawn, request⟩ := turn
  cases request with
  | save key =>
    by_cases htaken : s.IsTaken (key.id.getD drawn)
    · rw [take_save_of_isTaken limit htaken]
      exact h.pass rfl fun _ _ => rfl
    · rw [take_save_of_not_isTaken limit htaken]
      exact h.file htaken rfl
  | retrieve issuer id =>
    have hfiling : Exchange.filing? ⟨.retrieve issuer id, (s.take limit
        ⟨drawn, .retrieve issuer id⟩).1⟩ = none := rfl
    rw [take_retrieve] at hfiling ⊢
    exact h.pass hfiling fun _ _ => rfl
  | remove issuer id =>
    rw [take_remove]
    by_cases howns : s.owns issuer id = true
    · exact h.remove howns
    · -- a removal for anybody else than the issuer of a standing key removes nothing
      have hnobody : ∀ f ∈ standing past, ¬ (issuer = f.2.issuer ∧ id = f.1) := by
        rintro ⟨name, key⟩ hkey ⟨rfl, rfl⟩
        exact howns (h.owns_iff.2 ⟨key, hkey, rfl⟩)
      rw [remove_of_not_owns (by simpa using howns)]
      exact h.pass rfl fun f hf => by simpa [Exchange.removes] using hnobody f hf

theorem Recalls.after (h : s.Recalls past) (turns : List Turn) :
    (s.after limit turns).Recalls (past ++ s.history limit turns) := by
  induction turns generalizing s past with
  | nil => simpa [history, KeyStore.after] using h
  | cons turn turns ih =>
    have hrest := ih (h.take limit turn)
    rw [List.append_assoc] at hrest
    exact hrest

/-! ## The next reply -/

/-- A store whose next reply is told by its history. -/
structure AnswersBy (s : KeyStore) (past : List Exchange) : Prop where
  /-- A key is filed under its id, or under the drawn one, if no key was saved there before. -/
  saved_iff : ∀ drawn key id,
    (s.take limit ⟨drawn, .save key⟩).1 = .value (.id id) ↔
      id = key.id.getD drawn ∧ ¬ ∃ earlier, ⟨.save earlier, .value (.id id)⟩ ∈ past
  /-- An id under which a key was saved is refused for ever, and that changes nothing. -/
  conflict : ∀ drawn key earlier, ⟨.save earlier, .value (.id (key.id.getD drawn))⟩ ∈ past →
    s.take limit ⟨drawn, .save key⟩ = (.failure .conflict, s)
  /-- What is retrieved is the key that was saved for the issuer under the id, with its id set,
  and whose removal the issuer did not ask for since. -/
  retrieved_iff : ∀ drawn issuer id record,
    s.take limit ⟨drawn, .retrieve issuer id⟩ = (.value (.record record), s) ↔
      ∃ key before later, past = before ++ ⟨.save key, .value (.id id)⟩ :: later ∧
        key.issuer = issuer ∧ (∀ reply, ⟨.remove issuer id, reply⟩ ∉ later) ∧
        record = { key with id := some id }
  /-- All else is not found. -/
  notFound_iff : ∀ drawn issuer id,
    s.take limit ⟨drawn, .retrieve issuer id⟩ = (.failure .notFound, s) ↔
      ¬ ∃ key before later, past = before ++ ⟨.save key, .value (.id id)⟩ :: later ∧
        key.issuer = issuer ∧ ∀ reply, ⟨.remove issuer id, reply⟩ ∉ later
  removed : ∀ drawn issuer id, (s.take limit ⟨drawn, .remove issuer id⟩).1 = .value .done
  size : s.size = (standing past).length

variable {limit}

theorem Recalls.isTaken_iff (h : s.Recalls past) :
    s.IsTaken id ↔ ∃ earlier, ⟨.save earlier, .value (.id id)⟩ ∈ past := by
  rw [h.taken, mem_savedIds_iff]

theorem not_mem_removes_iff {later : List Exchange} :
    later.any (·.removes issuer id) = false ↔
      ∀ reply, ⟨.remove issuer id, reply⟩ ∉ later := by
  simp only [List.any_eq_false, Exchange.removes, decide_eq_true_eq]
  constructor
  · intro h reply hmem
    exact h _ hmem rfl
  · rintro h ⟨request, reply⟩ hmem rfl
    exact h reply hmem

theorem Recalls.retrieve_eq_ok_iff (h : s.Recalls past) {record : Key} :
    s.retrieve issuer id = .ok record ↔
      ∃ key before later, past = before ++ ⟨.save key, .value (.id id)⟩ :: later ∧
        key.issuer = issuer ∧ (∀ reply, ⟨.remove issuer id, reply⟩ ∉ later) ∧
        record = { key with id := some id } := by
  rw [KeyStore.retrieve_eq_ok_iff, h.find?_eq_some_iff]
  constructor
  · rintro ⟨⟨key, hkey, rfl⟩, rfl⟩
    obtain ⟨before, later, hpast, hlater⟩ := mem_standing_iff.1 hkey
    exact ⟨key, before, later, hpast, rfl, not_mem_removes_iff.1 hlater, rfl⟩
  · rintro ⟨key, before, later, hpast, rfl, hlater, rfl⟩
    exact ⟨⟨key, mem_standing_iff.2 ⟨before, later, hpast, not_mem_removes_iff.2 hlater⟩, rfl⟩, rfl⟩

theorem Recalls.answersBy (h : s.Recalls past) : s.AnswersBy limit past where
  saved_iff drawn key id := by
    rw [← h.isTaken_iff]
    by_cases htaken : s.IsTaken (key.id.getD drawn)
    · rw [take_save_of_isTaken limit htaken]
      constructor
      · intro heq
        cases heq
      · rintro ⟨rfl, hfree⟩
        exact absurd htaken hfree
    · rw [take_save_of_not_isTaken limit htaken]
      constructor
      · intro heq
        cases heq
        exact ⟨rfl, htaken⟩
      · rintro ⟨rfl, -⟩
        rfl
  conflict drawn key earlier hearlier :=
    take_save_of_isTaken limit (h.isTaken_iff.2 ⟨earlier, hearlier⟩)
  retrieved_iff drawn issuer id record := by
    rw [← h.retrieve_eq_ok_iff, take_retrieve]
    cases s.retrieve issuer id <;> simp
  notFound_iff drawn issuer id := by
    rw [take_retrieve, Prod.mk.injEq, and_iff_left rfl]
    constructor
    · rintro hnone ⟨key, before, later, hpast, hissuer, hlater⟩
      rw [h.retrieve_eq_ok_iff.2 ⟨key, before, later, hpast, hissuer, hlater, rfl⟩] at hnone
      cases hnone
    · intro hnone
      cases hretrieve : s.retrieve issuer id with
      | ok record =>
        obtain ⟨key, before, later, hpast, hissuer, hlater, -⟩ := h.retrieve_eq_ok_iff.1 hretrieve
        exact absurd ⟨key, before, later, hpast, hissuer, hlater⟩ hnone
      | error e =>
        obtain ⟨rfl, -⟩ := retrieve_eq_error_iff.1 hretrieve
        rfl
  removed drawn issuer id := rfl
  size := by rw [KeyStore.size, h.records, List.length_map]

/-- The in-memory key store refines its history. Whatever an empty store was asked before, by
whomever and whichever ids it drew, the requests and replies so far decide the next reply: an id
is given once and for all, a record is found by its issuer until its issuer removes it, and the
store has the size of what stands. -/
theorem answers_by_history (limit : Duration) (turns : List Turn) :
    (after limit {} turns).AnswersBy limit (history limit {} turns) := by
  have hrecalls := Recalls.empty.after limit turns
  rw [List.nil_append] at hrecalls
  exact hrecalls.answersBy

end KeyStore

end Credentials
