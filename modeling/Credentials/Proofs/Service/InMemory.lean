import Credentials.Backend.Basic
import Credentials.Proofs.Service.Decisions
import Credentials.Proofs.Store.Lookup

/-!
# A service with its backends in memory

Backends in memory answer at once. So an operation comes to a result and to a
state that are both functions of the state before, `settle result state`, and
there is one equation for each operation that says which. Runs are reasoned about
with these equations alone.
-/

namespace Credentials

/-! ## Calls -/

namespace Relations

/-- What the gateway to the set makes of a question. -/
def ruling (s : Relations) (r : Relationship) : Except PolicyError Unit :=
  if r.isIncomplete then
    .error (.invalidRequest ("incomplete policy request: " ++ r.describe))
  else if s.available then Gateway.verdict (s.holds r)
  else .error switchedOff

theorem ruling_of_incomplete {s : Relations} {r : Relationship} (h : r.isIncomplete = true) :
    s.ruling r = .error (.invalidRequest ("incomplete policy request: " ++ r.describe)) :=
  if_pos h

theorem ruling_of_complete {s : Relations} {r : Relationship} (h : r.isIncomplete = false) :
    s.ruling r = if s.available then Gateway.verdict (s.holds r) else .error switchedOff :=
  if_neg (by simp [h])

theorem ruling_eq_ok_iff {s : Relations} {r : Relationship} :
    s.ruling r = .ok () ↔ r.isIncomplete = false ∧ s.available = true ∧ s.holds r = true := by
  cases hincomplete : r.isIncomplete with
  | true => simp [ruling, hincomplete]
  | false =>
    rw [ruling_of_complete hincomplete]
    cases s.available <;> cases s.holds r <;> simp [Gateway.verdict]

/-- What the gateway to the set makes of a change by a fact. -/
def amend (s : Relations) (change : Relations → Relationship → Relations) (r : Relationship) :
    Except PolicyError Unit × Relations :=
  if r.isIncomplete then (.error (Gateway.incompleteFact r), s)
  else if s.available then (.ok (), change s r)
  else (.error switchedOff, s)

section

variable {s : Relations} {change : Relations → Relationship → Relations} {r : Relationship}

theorem amend_of_incomplete (h : r.isIncomplete = true) :
    s.amend change r = (.error (Gateway.incompleteFact r), s) := if_pos h

theorem amend_of_complete (h : r.isIncomplete = false) :
    s.amend change r = if s.available then (.ok (), change s r) else (.error switchedOff, s) :=
  if_neg (by simp [h])

end

/-- What the set lists, if it answers. -/
def listing (s : Relations) (names : List String) : Except PolicyError (List String) :=
  if s.available then .ok names else .error switchedOff

end Relations

namespace World

variable (drawn : String) (limit : Duration) (w : World)

theorem authorize_apply (r : Relationship) :
    Gateway.authorize (backend drawn).agent r limit w = (.ofExcept (w.relations.ruling r), w) := by
  obtain ⟨keys, facts, available⟩ := w
  rw [Gateway.authorize, Gateway.evaluate, Call.andThen, Relations.ruling]
  by_cases h : r.isIncomplete = true
  · simp only [if_pos h]
    rfl
  · simp only [if_neg h]
    cases available <;> rfl

/-- Adding and deleting differ only in what they do to the set. -/
theorem amend_apply (change : Relations → Relationship → Relations) (r : Relationship) :
    (if r.isIncomplete then .pure (.error (Gateway.incompleteFact r))
      else (Relations.ask fun s => ((), change s r)).onPart relations
        fun w relations => { w with relations } : Call World PolicyError Unit) limit w =
      (.ofExcept (w.relations.amend change r).1,
        { w with relations := (w.relations.amend change r).2 }) := by
  obtain ⟨keys, facts, available⟩ := w
  rw [Relations.amend]
  by_cases h : r.isIncomplete = true
  · simp only [if_pos h]
    rfl
  · simp only [if_neg h]
    cases available <;> rfl

theorem add_apply (r : Relationship) :
    Gateway.add (backend drawn).agent r limit w =
      (.ofExcept (w.relations.amend .insert r).1,
        { w with relations := (w.relations.amend .insert r).2 }) :=
  amend_apply limit w .insert r

theorem delete_apply (r : Relationship) :
    Gateway.delete (backend drawn).agent r limit w =
      (.ofExcept (w.relations.amend .erase r).1,
        { w with relations := (w.relations.amend .erase r).2 }) :=
  amend_apply limit w .erase r

theorem listObjects_apply (subject relation : String) :
    Gateway.listObjects (backend drawn).agent subject relation limit w =
      (.ofExcept (w.relations.listing (w.relations.objects subject relation)), w) := by
  obtain ⟨keys, facts, available⟩ := w
  cases available <;> rfl

theorem listSubjects_apply (object relation : String) :
    Gateway.listSubjects (backend drawn).agent object relation limit w =
      (.ofExcept (w.relations.listing (w.relations.subjects object relation)), w) := by
  obtain ⟨keys, facts, available⟩ := w
  cases available <;> rfl

theorem save_apply (key : Key) :
    (backend drawn).vault.save key limit w =
      (.ofExcept (w.keys.save drawn key).1, { w with keys := (w.keys.save drawn key).2 }) := rfl

theorem retrieve_apply (issuer id : String) :
    (backend drawn).vault.retrieve issuer id limit w =
      (.ofExcept (w.keys.retrieve issuer id), w) := rfl

theorem remove_apply (issuer id : String) :
    (backend drawn).vault.remove issuer id limit w =
      (.ofExcept (.ok ()), { w with keys := w.keys.remove issuer id }) := rfl

end World

namespace Service

variable {ε α : Type} (svc : Service) (drawn : String) (w : World)

/-- A result with the error of a backend turned into a refusal. -/
def refusing (convert : ε → ServiceError) (r : Except ε α) : Except Halt α :=
  r.mapError fun e => .refused (convert e)

@[simp] theorem refusing_ok (convert : ε → ServiceError) (a : α) :
    refusing convert (.ok a) = .ok a := rfl

@[simp] theorem refusing_error (convert : ε → ServiceError) (e : ε) :
    (refusing convert (.error e) : Except Halt α) = .error (.refused (convert e)) := rfl

theorem refusing_eq_ok_iff {convert : ε → ServiceError} {r : Except ε α} {a : α} :
    refusing convert r = .ok a ↔ r = .ok a := by
  cases r <;> simp

/-- A call that is answered at once is never given up. -/
theorem bounded_of_answer {σ : Type} {call : Call σ ε α} {s t : σ} {r : Except ε α}
    (h : call svc.backendTimeout s = (.ofExcept r, t)) (purpose : String)
    (convert : ε → ServiceError) :
    svc.bounded purpose convert call s = settle (refusing convert r) t := by
  rw [bounded, h]
  cases r <;> rfl

/-! ## Operations -/

theorem authorize_inMemory (r : Relationship) :
    svc.authorize (World.backend drawn) r w
      = settle (refusing .ofPolicy (w.relations.ruling r)) w :=
  svc.bounded_of_answer (World.authorize_apply drawn _ w r) _ _

theorem addPolicy_inMemory (r : Relationship) :
    svc.addPolicy (World.backend drawn) r w
      = settle (refusing .ofPolicy (w.relations.amend .insert r).1)
          { w with relations := (w.relations.amend .insert r).2 } :=
  svc.bounded_of_answer (World.add_apply drawn _ w r) _ _

theorem deletePolicy_inMemory (r : Relationship) :
    svc.deletePolicy (World.backend drawn) r w
      = settle (refusing .ofPolicy (w.relations.amend .erase r).1)
          { w with relations := (w.relations.amend .erase r).2 } :=
  svc.bounded_of_answer (World.delete_apply drawn _ w r) _ _

theorem listObjects_inMemory (subject relation : String) :
    svc.listObjects (World.backend drawn) subject relation w
      = settle (refusing .ofPolicy
          (w.relations.listing (w.relations.objects subject relation))) w :=
  svc.bounded_of_answer (World.listObjects_apply drawn _ w subject relation) _ _

theorem listSubjects_inMemory (object relation : String) :
    svc.listSubjects (World.backend drawn) object relation w
      = settle (refusing .ofPolicy
          (w.relations.listing (w.relations.subjects object relation))) w :=
  svc.bounded_of_answer (World.listSubjects_apply drawn _ w object relation) _ _

theorem retrieveKey_inMemory (clock : Clock) (token id : String) :
    svc.retrieveKey (World.backend drawn) clock token id w
      = settle (do
          let caller ← svc.caller clock token .access
          refusing .ofStore (w.keys.retrieve caller.subject id)) w := by
  rw [retrieveKey, settle_bind]
  cases svc.caller clock token .access with
  | error h => rfl
  | ok caller =>
    exact svc.bounded_of_answer (World.retrieve_apply drawn _ w caller.subject id) _ _

/-- The store after a revocation. -/
theorem revoke_inMemory (clock : Clock) (token id : String) :
    svc.revoke (World.backend drawn) clock token id w =
      match svc.caller clock token .access with
      | .ok caller => .ok () { w with keys := w.keys.remove caller.subject id }
      | .error h => .error h w := by
  rw [revoke, settle_bind]
  cases svc.caller clock token .access with
  | error h => rfl
  | ok caller =>
    exact svc.bounded_of_answer (World.remove_apply drawn _ w caller.subject id) _ _

/-! ## Identification -/

/-- A live record under an id that agrees with a key on its issuer, its subject and its type. -/
def HasRecord (keys : KeyStore) (id : String) (key : Key) : Prop :=
  ∃ record, keys.find? id = some record ∧ record.issuer = key.issuer ∧
    record.subject = key.subject ∧ record.keyType = key.keyType

/-- Whether a key has a record under an id, as a computation. -/
def vouches (keys : KeyStore) (id : String) (key : Key) : Bool :=
  (keys.find? id).any fun record =>
    record.issuer = key.issuer && record.subject = key.subject && record.keyType = key.keyType

theorem vouches_iff {keys : KeyStore} {id : String} {key : Key} :
    vouches keys id key = true ↔ HasRecord keys id key := by
  simp [vouches, HasRecord, Option.any_eq_true, and_assoc]

/-- The subject of a stored key, whose record has to be there and to agree with it. -/
def confirmed (keys : KeyStore) (key : Key) : Except Halt String :=
  match key.id with
  | none => reject .malformed
  | some id => if vouches keys id key then .ok key.subject else reject .revoked

/-- Whom a live key stands for by the records of a store. -/
def bearer (keys : KeyStore) (key : Key) : Except Halt String :=
  if key.keyType = .refresh then reject .wrongKeyType
  else match key.keyType.persistence with
    | .stateless => .ok key.subject
    | .persisted => confirmed keys key

theorem persisted_iff {t : KeyType} : t.persistence = .persisted ↔ t = .api ∨ t = .recovery := by
  cases t <;> decide

theorem stateless_iff {t : KeyType} : t.persistence = .stateless ↔ t = .access ∨ t = .refresh := by
  cases t <;> decide

theorem ne_refresh_of_persisted {t : KeyType} (h : t.persistence = .persisted) : t ≠ .refresh := by
  rintro rfl
  cases h

theorem bearer_of_persisted {keys : KeyStore} {key : Key} {id : String}
    (htype : key.keyType.persistence = .persisted) (hid : key.id = some id) :
    bearer keys key = if vouches keys id key then .ok key.subject else reject .revoked := by
  rw [bearer, if_neg (ne_refresh_of_persisted htype), htype, confirmed, hid]

theorem vouches_of_find?_eq_none {keys : KeyStore} {id : String} (h : keys.find? id = none)
    (key : Key) : vouches keys id key = false := by
  rw [vouches, h]
  rfl

theorem confirm_inMemory (key : Key) :
    svc.confirm (World.backend drawn) key w = settle (confirmed w.keys key) w := by
  rw [confirm, confirmed]
  cases key.id with
  | none => rfl
  | some id =>
    have hcall := svc.bounded_of_answer
      (World.retrieve_apply drawn svc.backendTimeout w key.issuer id) "retrieve key"
      ofMissingRecord
    have hvouches := @vouches_iff w.keys id key
    simp only [bind, EStateM.bind, hcall]
    -- the store compares the issuer, and what it finds is compared by subject and type
    cases hretrieve : w.keys.retrieve key.issuer id with
    | ok record =>
      obtain ⟨hrecord, hissuer⟩ := KeyStore.retrieve_eq_ok_iff.1 hretrieve
      by_cases hsame : record.subject = key.subject ∧ record.keyType = key.keyType
      · rw [if_pos (hvouches.2 ⟨record, hrecord, hissuer, hsame⟩)]
        simp only [refusing_ok, settle_ok, if_pos hsame]
        rfl
      · have hnot : ¬ vouches w.keys id key = true := by
          rw [hvouches]
          rintro ⟨found, hfound, -, hagrees⟩
          rw [hrecord] at hfound
          cases hfound
          exact hsame hagrees
        rw [if_neg hnot]
        simp only [refusing_ok, settle_ok, if_neg hsame]
    | error e =>
      obtain ⟨rfl, howns⟩ := KeyStore.retrieve_eq_error_iff.1 hretrieve
      have hnot : ¬ vouches w.keys id key = true := by
        rw [hvouches]
        rintro ⟨record, hrecord, hissuer, -⟩
        rw [KeyStore.owns_iff.2 ⟨record, hrecord, hissuer⟩] at howns
        cases howns
      rw [if_neg hnot]
      rfl

/-- A token is judged before any backend is asked. -/
theorem identify_eq {σ : Type} (b : Backend σ) (clock : Clock) (token : String) :
    svc.identify b clock token
      = (settle (svc.liveKey clock token) >>= fun key =>
          if key.keyType = .refresh then settle (reject .wrongKeyType)
          else match key.keyType.persistence with
            | .stateless => pure key.subject
            | .persisted => svc.confirm b key) := by
  rw [identify, liveKey]
  simp only [← settle_bind_settle, bind_assoc]
  rfl

theorem identify_inMemory (clock : Clock) (token : String) :
    svc.identify (World.backend drawn) clock token w
      = settle (svc.liveKey clock token >>= bearer w.keys) w := by
  rw [identify_eq, settle_bind]
  cases svc.liveKey clock token with
  | error h => rfl
  | ok key =>
    change _ = settle (bearer w.keys key) w
    rw [bearer]
    by_cases htype : key.keyType = .refresh
    · simp only [if_pos htype]
    · simp only [if_neg htype]
      cases key.keyType.persistence with
      | stateless => rfl
      | persisted => exact svc.confirm_inMemory drawn w key

end Service

end Credentials
