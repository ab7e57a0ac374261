import Credentials.Backend.Scene
import Credentials.Proofs.Service.Reactions

/-!
# What operations change

Every operation is all or nothing. One that is not answered leaves the backends
as they were, at whichever of its steps it ended; one that is answered changes
what it names and nothing else. What it changes is said of the scene, in which
there is one entry for each id and each relationship.
-/

namespace Credentials

/-! ## Changes by a fact -/

namespace Relations

variable (s : Relations) (r other : Relationship)

theorem holds_insert : (s.insert r).holds other = if other = r then true else s.holds other := by
  rw [insert]
  by_cases hr : s.holds r = true
  · rw [if_pos hr]
    by_cases hother : other = r
    · rw [if_pos hother, hother, hr]
    · rw [if_neg hother]
  · rw [if_neg hr, holds, List.contains_cons]
    by_cases hother : other = r <;> simp [hother, holds]

theorem available_insert : (s.insert r).available = s.available := by
  rw [insert]
  split <;> rfl

theorem holds_erase : (s.erase r).holds other = if other = r then false else s.holds other := by
  by_cases hother : other = r
  · simp [holds, erase, hother]
  · simp [holds, erase, hother]

/-- A change by a fact is made, or refused without any change. -/
theorem amend_cases (change : Relations → Relationship → Relations) :
    s.amend change r = (.ok (), change s r) ∨ ∃ e, s.amend change r = (.error e, s) := by
  cases hincomplete : r.isIncomplete with
  | true => exact .inr ⟨_, amend_of_incomplete hincomplete⟩
  | false =>
    rw [amend_of_complete hincomplete]
    cases s.available with
    | true => exact .inl rfl
    | false => exact .inr ⟨_, rfl⟩

end Relations

/-! ## Scenes after a change -/

namespace World

variable (w : World)

theorem scene_file {id : String} (h : w.keys.find? id = none) (key : Key) :
    ({ w with keys := w.keys.file id key } : World).scene
      = w.scene.gain id { key with id := some id } := by
  have hlive : (w.keys.file id key).find?
      = Function.update w.keys.find? id (some { key with id := some id }) := by
    funext other
    rw [KeyStore.find?_file h, Function.update_apply]
  rw [scene, hlive]
  rfl

theorem scene_remove (issuer id : String) :
    ({ w with keys := w.keys.remove issuer id } : World).scene
      = if w.keys.owns issuer id then w.scene.retire id else w.scene := by
  by_cases howns : w.keys.owns issuer id = true
  · have hlive : (w.keys.remove issuer id).find? = Function.update w.keys.find? id none := by
      funext other
      simp [KeyStore.find?_remove, howns, Function.update_apply]
    have hremoved : (w.keys.remove issuer id).isRemoved
        = Function.update w.keys.isRemoved id true := by
      funext other
      rw [KeyStore.isRemoved_remove, howns, Function.update_apply]
      by_cases hother : other = id <;> simp [hother]
    rw [if_pos howns, scene, hlive, hremoved]
    rfl
  · rw [if_neg howns, KeyStore.remove_of_not_owns (by simpa using howns)]

theorem scene_insert (r : Relationship) :
    ({ w with relations := w.relations.insert r } : World).scene = w.scene.declare r true := by
  have hholds : (w.relations.insert r).holds = Function.update w.relations.holds r true := by
    funext other
    rw [Function.update_apply]
    exact w.relations.holds_insert r other
  rw [scene, hholds, w.relations.available_insert r]
  rfl

theorem scene_erase (r : Relationship) :
    ({ w with relations := w.relations.erase r } : World).scene = w.scene.declare r false := by
  have hholds : (w.relations.erase r).holds = Function.update w.relations.holds r false := by
    funext other
    rw [Function.update_apply]
    exact w.relations.holds_erase r other
  rw [scene, hholds]
  rfl

end World

namespace Service

variable (svc : Service) {α : Type} {w : World} {clock : Clock} {drawn : String} {op : Operation}

/-! ## Operations -/

/-- How the scene after an operation that was answered differs from the one before. A request for
a stored key adds the record that its token tells, made of the request and filed for the caller
under an id that was neither live nor removed; a revocation moves the record that it names to the
removed ones, if the caller issued it; a change of policy makes a relationship hold or not; and
everything else changes nothing. -/
def Alters (s t : Scene) : Operation → Answer → Prop
  | .issue token request, a =>
    match request.keyType.persistence with
    | .stateless => t = s
    | .persisted => ∃ caller id record, svc.codec.decode token = .ok caller ∧
        record = { request with
          id := some id, issuer := caller.subject, expiresAt := record.expiresAt } ∧
        a = .token (.persisted (svc.codec.encode record) id) ∧
        s.live id = none ∧ s.removed id = false ∧ t = s.gain id record
  | .revoke token id, _ => ∃ caller, svc.codec.decode token = .ok caller ∧
      t = if (s.live id).any (·.issuer = caller.subject) then s.retire id else s
  | .addPolicy r, _ => t = s.declare r true
  | .deletePolicy r, _ => t = s.declare r false
  | .refresh _, _ | .identify _, _ | .retrieve _ _, _ => t = s
  | .authorize _, _ | .listObjects _ _, _ | .listSubjects _ _, _ => t = s

/-- An operation that comes to a result without touching the backends. -/
theorem all_or_nothing_of_reading {answer : α → Answer} {x : Except Halt α}
    (hreact : svc.react w (.call clock drawn op) = (.ofResult answer x, w))
    (hop : ∀ a, svc.Alters w.scene w.scene op a) :
    (∃ halt, svc.react w (.call clock drawn op) = (.halted halt, w)) ∨
      ∃ a v, svc.react w (.call clock drawn op) = (.answered a, v) ∧
        svc.Alters w.scene v.scene op a := by
  rw [hreact]
  cases x with
  | error halt => exact .inl ⟨halt, rfl⟩
  | ok a => exact .inr ⟨answer a, w, rfl, hop _⟩

/-- A change of policy that is made, or refused without any change. -/
theorem all_or_nothing_of_amend {change : Relations → Relationship → Relations} {r : Relationship}
    (hreact : svc.react w (.call clock drawn op)
      = (.ofResult (fun _ => .done) (refusing .ofPolicy (w.relations.amend change r).1),
          { w with relations := (w.relations.amend change r).2 }))
    (hop : svc.Alters w.scene ({ w with relations := change w.relations r } : World).scene op .done) :
    (∃ halt, svc.react w (.call clock drawn op) = (.halted halt, w)) ∨
      ∃ a v, svc.react w (.call clock drawn op) = (.answered a, v) ∧
        svc.Alters w.scene v.scene op a := by
  rw [hreact]
  rcases w.relations.amend_cases r change with hmade | ⟨e, hrefused⟩
  · rw [hmade]
    exact .inr ⟨.done, _, rfl, hop⟩
  · rw [hrefused]
    exact .inl ⟨_, rfl⟩

theorem alters_of_files {id : String} {record : Key} {token : String} {request : Key}
    (h : svc.Files w (.call clock drawn (.issue token request)) id record) :
    svc.Alters w.scene ({ w with keys := w.keys.file id record } : World).scene
      (.issue token request) (.token (svc.handOut record id)) := by
  obtain ⟨_, _, _, ⟨⟩, htype, hgrant, hfree⟩ := h
  obtain ⟨-, caller, expiresAt, hcaller, -, -, rfl⟩ := svc.grant_eq_ok_iff.1 hgrant
  have hdecode := (svc.caller_eq_ok_iff.1 hcaller).1
  have hlive : w.keys.find? drawn = none := KeyStore.find?_eq_none_of_not_isTaken hfree
  have hremoved : w.keys.isRemoved drawn = false := by simpa using fun h => hfree (.inr h)
  rw [Alters, htype]
  exact ⟨caller, drawn, _, hdecode, rfl, rfl, hlive, hremoved, w.scene_file hlive _⟩

/-- An operation that is not answered leaves the backends as they were; one that is answered alters
nothing but what it names. -/
theorem all_or_nothing (w : World) (clock : Clock) (drawn : String) (op : Operation) :
    (∃ halt, svc.react w (.call clock drawn op) = (.halted halt, w)) ∨
      ∃ a v, svc.react w (.call clock drawn op) = (.answered a, v) ∧
        svc.Alters w.scene v.scene op a := by
  cases op with
  | issue token request =>
    cases htype : request.keyType.persistence with
    | stateless =>
      refine svc.all_or_nothing_of_reading (svc.react_issue_of_stateless w clock drawn htype token) ?_
      intro a
      rw [Alters, htype]
    | persisted =>
      have hreact := svc.react_issue_of_persisted w clock drawn htype token
      cases hgrant : svc.grant w.relations clock token request with
      | error halt =>
        rw [hgrant] at hreact
        exact .inl ⟨halt, hreact⟩
      | ok record =>
        by_cases htaken : w.keys.IsTaken drawn
        · simp only [hgrant, if_pos htaken] at hreact
          exact .inl ⟨_, hreact⟩
        · have hfiles : svc.Files w (.call clock drawn (.issue token request)) drawn record :=
            ⟨clock, token, request, rfl, htype, hgrant, htaken⟩
          exact .inr ⟨_, _, svc.react_of_files hfiles, svc.alters_of_files hfiles⟩
  | revoke token id =>
    rw [svc.react_revoke w clock drawn token id]
    cases hcaller : svc.caller clock token .access with
    | error halt => exact .inl ⟨halt, rfl⟩
    | ok caller =>
      have hdecode := (svc.caller_eq_ok_iff.1 hcaller).1
      exact .inr ⟨_, _, rfl, caller, hdecode, w.scene_remove caller.subject id⟩
  | addPolicy r =>
    exact svc.all_or_nothing_of_amend (svc.react_addPolicy w clock drawn r) (w.scene_insert r)
  | deletePolicy r =>
    exact svc.all_or_nothing_of_amend (svc.react_deletePolicy w clock drawn r) (w.scene_erase r)
  | refresh token =>
    exact svc.all_or_nothing_of_reading (svc.react_refresh w clock drawn token) fun _ => rfl
  | identify token =>
    exact svc.all_or_nothing_of_reading (svc.react_identify w clock drawn token) fun _ => rfl
  | retrieve token id =>
    exact svc.all_or_nothing_of_reading (svc.react_retrieve w clock drawn token id) fun _ => rfl
  | authorize r =>
    exact svc.all_or_nothing_of_reading (svc.react_authorize w clock drawn r) fun _ => rfl
  | listObjects subject relation =>
    exact svc.all_or_nothing_of_reading (svc.react_listObjects w clock drawn subject relation)
      fun _ => rfl
  | listSubjects object relation =>
    exact svc.all_or_nothing_of_reading (svc.react_listSubjects w clock drawn object relation)
      fun _ => rfl

end Service

end Credentials
