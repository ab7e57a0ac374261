import Credentials.Proofs.Service.Issue
import Credentials.Service.Run

/-!
# What calls come to

One equation for each operation that is called in a run: the outcome and the
world that is left, both as functions of the world before. Only a granted request
and a revocation touch the key store, and only a change by a fact the policy
agent.
-/

namespace Credentials

/-- The outcome of an operation that came to a result. -/
def Outcome.ofResult {α : Type} (answer : α → Answer) : Except Halt α → Outcome
  | .ok a => .answered (answer a)
  | .error h => .halted h

@[simp] theorem Outcome.ofResult_ok {α : Type} (answer : α → Answer) (a : α) :
    ofResult answer (.ok a) = .answered (answer a) := rfl

@[simp] theorem Outcome.ofResult_error {α : Type} (answer : α → Answer) (h : Halt) :
    ofResult answer (.error h) = .halted h := rfl

namespace Service

variable (svc : Service) (w : World) (clock : Clock) (drawn : String)

theorem react_of_settle {op : Operation} {α : Type} {answer : α → Answer} {act : Action World α}
    (hop : svc.perform (World.backend drawn) clock op = answer <$> act) {v : World}
    {x : Except Halt α} (h : act w = settle x v) :
    svc.react w (.call clock drawn op) = (.ofResult answer x, v) := by
  rw [react, hop]
  simp only [Functor.map, EStateM.map, h]
  cases x <;> rfl

/-! ## Tokens -/

theorem react_refresh (token : String) :
    svc.react w (.call clock drawn (.refresh token))
      = (.ofResult .token (svc.exchange clock token), w) :=
  svc.react_of_settle w clock drawn rfl rfl

theorem react_identify (token : String) :
    svc.react w (.call clock drawn (.identify token))
      = (.ofResult .subject (svc.liveKey clock token >>= bearer w.keys), w) :=
  svc.react_of_settle w clock drawn rfl (svc.identify_inMemory drawn w clock token)

theorem react_issue_of_stateless {key : Key} (h : key.keyType.persistence = .stateless)
    (token : String) :
    svc.react w (.call clock drawn (.issue token key))
      = (.ofResult .token (svc.login clock token key), w) :=
  svc.react_of_settle w clock drawn rfl (svc.issue_of_stateless w h clock token _)

/-! ## Stored keys -/

theorem react_issue_of_persisted {key : Key} (h : key.keyType.persistence = .persisted)
    (token : String) :
    svc.react w (.call clock drawn (.issue token key)) =
      match svc.grant w.relations clock token key with
      | .error halt => (.halted halt, w)
      | .ok record =>
        if w.keys.IsTaken drawn then (.halted (.refused .conflict), w)
        else (.answered (.token (svc.handOut record drawn)),
          { w with keys := w.keys.file drawn record }) := by
  have hissue := svc.issue_of_persisted drawn w h clock token
  rw [react, perform]
  simp only [Functor.map, EStateM.map, hissue]
  cases hgrant : svc.grant w.relations clock token key with
  | error halt => rfl
  | ok record =>
    have hid : record.id = none := svc.id_of_grant hgrant
    by_cases htaken : w.keys.IsTaken drawn
    · simp only [svc.fileRecord_of_isTaken hid htaken, if_pos htaken]
    · simp only [svc.fileRecord_of_not_isTaken hid htaken, if_neg htaken]

theorem react_retrieve (token id : String) :
    svc.react w (.call clock drawn (.retrieve token id))
      = (.ofResult .key (do
          let caller ← svc.caller clock token .access
          refusing .ofStore (w.keys.retrieve caller.subject id)), w) :=
  svc.react_of_settle w clock drawn rfl (svc.retrieveKey_inMemory drawn w clock token id)

theorem react_revoke (token id : String) :
    svc.react w (.call clock drawn (.revoke token id)) =
      match svc.caller clock token .access with
      | .ok caller => (.answered .done, { w with keys := w.keys.remove caller.subject id })
      | .error h => (.halted h, w) := by
  have hrevoke := svc.revoke_inMemory drawn w clock token id
  rw [react, perform]
  simp only [Functor.map, EStateM.map, hrevoke]
  cases svc.caller clock token .access <;> rfl

/-! ## Relationships -/

theorem react_authorize (r : Relationship) :
    svc.react w (.call clock drawn (.authorize r))
      = (.ofResult (fun _ => .done) (refusing .ofPolicy (w.relations.ruling r)), w) :=
  svc.react_of_settle w clock drawn rfl (svc.authorize_inMemory drawn w r)

theorem react_addPolicy (r : Relationship) :
    svc.react w (.call clock drawn (.addPolicy r))
      = (.ofResult (fun _ => .done) (refusing .ofPolicy (w.relations.amend .insert r).1),
          { w with relations := (w.relations.amend .insert r).2 }) :=
  svc.react_of_settle w clock drawn rfl (svc.addPolicy_inMemory drawn w r)

theorem react_deletePolicy (r : Relationship) :
    svc.react w (.call clock drawn (.deletePolicy r))
      = (.ofResult (fun _ => .done) (refusing .ofPolicy (w.relations.amend .erase r).1),
          { w with relations := (w.relations.amend .erase r).2 }) :=
  svc.react_of_settle w clock drawn rfl (svc.deletePolicy_inMemory drawn w r)

theorem react_listObjects (subject relation : String) :
    svc.react w (.call clock drawn (.listObjects subject relation))
      = (.ofResult .names (refusing .ofPolicy
          (w.relations.listing (w.relations.objects subject relation))), w) :=
  svc.react_of_settle w clock drawn rfl (svc.listObjects_inMemory drawn w subject relation)

theorem react_listSubjects (object relation : String) :
    svc.react w (.call clock drawn (.listSubjects object relation))
      = (.ofResult .names (refusing .ofPolicy
          (w.relations.listing (w.relations.subjects object relation))), w) :=
  svc.react_of_settle w clock drawn rfl (svc.listSubjects_inMemory drawn w object relation)

/-! ## What is filed -/

/-- Whether an event files a record under an id: it requests a stored key, the record is granted,
and the id that it draws was never taken. -/
def Files (e : Event) (id : String) (record : Key) : Prop :=
  ∃ clock token key, e = .call clock id (.issue token key) ∧
    key.keyType.persistence = .persisted ∧ svc.grant w.relations clock token key = .ok record ∧
    ¬ w.keys.IsTaken id

theorem react_of_files {w : World} {e : Event} {id : String} {record : Key}
    (h : svc.Files w e id record) :
    svc.react w e
      = (.answered (.token (svc.handOut record id)), { w with keys := w.keys.file id record }) := by
  obtain ⟨clock, token, key, rfl, htype, hgrant, hfree⟩ := h
  rw [svc.react_issue_of_persisted w clock id htype, hgrant]
  exact if_neg hfree

theorem react_keys_issue (w : World) (clock : Clock) (drawn token : String) (key : Key) :
    (svc.react w (.call clock drawn (.issue token key))).2.keys = w.keys ∨
      ∃ record, svc.Files w (.call clock drawn (.issue token key)) drawn record := by
  cases htype : key.keyType.persistence with
  | stateless => exact .inl (by rw [svc.react_issue_of_stateless w clock drawn htype])
  | persisted =>
    have heq := svc.react_issue_of_persisted w clock drawn htype token
    cases hgrant : svc.grant w.relations clock token key with
    | error halt =>
      rw [hgrant] at heq
      exact .inl (by rw [heq])
    | ok record =>
      by_cases htaken : w.keys.IsTaken drawn
      · rw [hgrant] at heq
        exact .inl (by rw [heq]; simp only [if_pos htaken])
      · exact .inr ⟨record, clock, token, key, rfl, htype, hgrant, htaken⟩

/-- What is filed is saved, under an id that is free. -/
theorem save_of_files {w : World} {e : Event} {id : String} {record : Key}
    (h : svc.Files w e id record) : (w.keys.save id record).2 = w.keys.file id record := by
  obtain ⟨clock, token, key, -, -, hgrant, hfree⟩ := h
  have hid : record.id = none := svc.id_of_grant hgrant
  have hsave : ¬ w.keys.IsTaken (record.id.getD id) := by
    rw [hid]
    exact hfree
  rw [KeyStore.save_of_not_isTaken hsave, hid]
  rfl

/-! ## Events past the service -/

theorem react_save (key : Key) :
    svc.react w (.save drawn key) =
      if w.keys.IsTaken (key.id.getD drawn) then (.notSaved .conflict, w)
      else (.saved (key.id.getD drawn), { w with keys := w.keys.file (key.id.getD drawn) key }) := by
  rw [react]
  by_cases htaken : w.keys.IsTaken (key.id.getD drawn)
  · rw [KeyStore.save_of_isTaken htaken, if_pos htaken]
  · rw [KeyStore.save_of_not_isTaken htaken, if_neg htaken]

end Service

end Credentials
