import Credentials.Proofs.Service.Provenance
import Credentials.Proofs.Service.Refusals

/-!
# When the policy agent is away

The same operation with the policy agent there and with the agent away. Either it
does not get as far as asking the agent, and then nobody can tell the difference;
or it comes back as one to be tried again, with nothing done. An agent that is
away is never taken for one that said no, nor for one that said yes.
-/

namespace Credentials

/-- The backends with the policy agent there or away. -/
def World.withAgent (w : World) (available : Bool) : World :=
  { w with relations := { w.relations with available } }

/-- How an operation ends to which the policy agent said no. -/
def Halt.denied : Halt := .refused .authorization

/-- How an operation ends that would ask an agent that is away. -/
def Halt.agentAway : Halt := .refused (.ofPolicy Relations.switchedOff)

theorem Outcome.ofResult_eq_halted_iff {α : Type} {answer : α → Answer} {x : Except Halt α}
    {h : Halt} : ofResult answer x = .halted h ↔ x = .error h := by
  cases x <;> simp

namespace Service

variable (svc : Service) {α : Type} {w : World} {clock : Clock} {token drawn : String}
  {op : Operation}

example (available : Bool) :
    svc.react w (.switch available) = (.done, w.withAgent available) := rfl

/-! ## Decisions without the agent -/

theorem DecidesAlone.ne_denied {x : Except Halt α} (h : DecidesAlone x) : x ≠ .error .denied :=
  fun heq => nomatch h _ heq

theorem DecidesAlone.ofResult_ne_denied {x : Except Halt α} (h : DecidesAlone x)
    (answer : α → Answer) : Outcome.ofResult answer x ≠ .halted .denied :=
  fun heq => h.ne_denied (Outcome.ofResult_eq_halted_iff.1 heq)

/-! ## Operations that ask the agent -/

/-- Whether an operation gets as far as asking the policy agent: about admin rights for a request
that is valid, from a caller who is logged in, for somebody else; about or with a relationship that
is complete; or for a list. -/
def Consults (clock : Clock) : Operation → Prop
  | .issue token key => key.keyType.persistence = .persisted ∧ svc.vet clock key = .ok () ∧
      ∃ caller, svc.caller clock token .access = .ok caller ∧ caller.subject ≠ key.subject
  | .authorize r | .addPolicy r | .deletePolicy r => r.isIncomplete = false
  | .listObjects _ _ | .listSubjects _ _ => True
  | .refresh _ | .identify _ | .retrieve _ _ | .revoke _ _ => False

variable {svc}

theorem permit_eq_denied {relations : Relations} {caller subject : String}
    (h : permit relations caller subject = .error .denied) : caller ≠ subject := by
  rintro rfl
  simp [permit] at h

theorem consults_of_grant {relations : Relations} {key : Key}
    (htype : key.keyType.persistence = .persisted)
    (h : svc.grant relations clock token key = .error .denied) :
    svc.Consults clock (.issue token key) := by
  obtain hvet | ⟨_, hvet, h⟩ := bind_eq_error_iff.1 h
  · exact absurd hvet (svc.decidesAlone_vet clock key).ne_denied
  obtain hcaller | ⟨caller, hcaller, h⟩ := bind_eq_error_iff.1 h
  · exact absurd hcaller (svc.decidesAlone_caller clock token .access).ne_denied
  obtain hpermit | ⟨_, -, h⟩ := bind_eq_error_iff.1 h
  · exact ⟨htype, hvet, caller, hcaller, permit_eq_denied hpermit⟩
  obtain hexpiry | ⟨_, -, h⟩ := bind_eq_error_iff.1 h
  · exact absurd hexpiry (svc.decidesAlone_storedExpiry key).ne_denied
  · cases h

/-- No operation ends in a no but one that asks the agent. -/
theorem consults_of_denied
    (h : (svc.react w (.call clock drawn op)).1 = .halted .denied) : svc.Consults clock op := by
  cases op with
  | issue token key =>
    cases htype : key.keyType.persistence with
    | stateless =>
      rw [svc.react_issue_of_stateless w clock drawn htype] at h
      exact absurd h ((svc.decidesAlone_login clock token key).ofResult_ne_denied _)
    | persisted =>
      rw [svc.react_issue_of_persisted w clock drawn htype] at h
      cases hgrant : svc.grant w.relations clock token key with
      | error halt =>
        rw [hgrant] at h
        cases h
        exact consults_of_grant htype hgrant
      | ok record =>
        simp only [hgrant] at h
        split at h <;> cases h
  | refresh token =>
    rw [react_refresh] at h
    exact absurd h ((svc.decidesAlone_exchange clock token).ofResult_ne_denied _)
  | identify token =>
    rw [react_identify] at h
    have hbearer := (svc.decidesAlone_liveKey clock token).bind (decidesAlone_bearer w.keys)
    exact absurd h (hbearer.ofResult_ne_denied _)
  | retrieve token id =>
    rw [react_retrieve] at h
    obtain hcaller | ⟨caller, -, hretrieve⟩ :=
      bind_eq_error_iff.1 (Outcome.ofResult_eq_halted_iff.1 h)
    · exact absurd hcaller (svc.decidesAlone_caller clock token .access).ne_denied
    · cases hfound : w.keys.retrieve caller.subject id with
      | ok key =>
        rw [hfound] at hretrieve
        cases hretrieve
      | error e =>
        rw [hfound] at hretrieve
        cases e <;> cases hretrieve
  | revoke token id =>
    rw [react_revoke] at h
    cases hcaller : svc.caller clock token .access with
    | ok caller =>
      rw [hcaller] at h
      cases h
    | error halt =>
      rw [hcaller] at h
      cases h
      exact absurd hcaller (svc.decidesAlone_caller clock token .access).ne_denied
  | authorize r =>
    cases hcomplete : r.isIncomplete with
    | false => exact hcomplete
    | true =>
      rw [react_authorize, Relations.ruling_of_incomplete hcomplete] at h
      cases h
  | addPolicy r =>
    cases hcomplete : r.isIncomplete with
    | false => exact hcomplete
    | true =>
      rw [react_addPolicy, Relations.amend_of_incomplete hcomplete] at h
      cases h
  | deletePolicy r =>
    cases hcomplete : r.isIncomplete with
    | false => exact hcomplete
    | true =>
      rw [react_deletePolicy, Relations.amend_of_incomplete hcomplete] at h
      cases h
  | listObjects subject relation => trivial
  | listSubjects object relation => trivial

/-! ## With the agent and without -/

/-- Requests are granted alike by relationships that permit the same to their caller. -/
theorem grant_congr {r s : Relations} {key : Key}
    (h : svc.vet clock key = .ok () → ∀ caller, svc.caller clock token .access = .ok caller →
      permit r caller.subject key.subject = permit s caller.subject key.subject) :
    svc.grant r clock token key = svc.grant s clock token key := by
  rw [grant, grant]
  cases hvet : svc.vet clock key with
  | error halt => rfl
  | ok _ =>
    rw [entitle, entitle]
    cases hcaller : svc.caller clock token .access with
    | error halt => rfl
    | ok caller =>
      simp only [bind, Except.bind, h hvet caller hcaller]

/-- Whether the agent is there makes no difference to an operation that does not ask it. -/
theorem react_withAgent (h : ¬ svc.Consults clock op) (w : World) (drawn : String)
    (available : Bool) :
    svc.react (w.withAgent available) (.call clock drawn op)
      = ((svc.react w (.call clock drawn op)).1,
          (svc.react w (.call clock drawn op)).2.withAgent available) := by
  cases op with
  | issue token key =>
    cases htype : key.keyType.persistence with
    | stateless =>
      rw [svc.react_issue_of_stateless _ clock drawn htype,
        svc.react_issue_of_stateless w clock drawn htype]
    | persisted =>
      have hgrant : svc.grant (w.withAgent available).relations clock token key
          = svc.grant w.relations clock token key := by
        refine grant_congr fun hvet caller hcaller => ?_
        have hown : ¬ caller.subject ≠ key.subject :=
          fun hother => h ⟨htype, hvet, caller, hcaller, hother⟩
        rw [permit, permit, if_neg hown, if_neg hown]
      have hkeys : (w.withAgent available).keys = w.keys := rfl
      rw [svc.react_issue_of_persisted _ clock drawn htype,
        svc.react_issue_of_persisted w clock drawn htype, hgrant, hkeys]
      cases svc.grant w.relations clock token key with
      | error halt => rfl
      | ok record =>
        by_cases htaken : w.keys.IsTaken drawn
        · simp only [if_pos htaken]
        · simp only [if_neg htaken]
          rfl
  | refresh token => rw [react_refresh, react_refresh]
  | identify token =>
    rw [react_identify, react_identify]
    rfl
  | retrieve token id =>
    rw [react_retrieve, react_retrieve]
    rfl
  | revoke token id =>
    rw [react_revoke, react_revoke]
    cases svc.caller clock token .access <;> rfl
  | authorize r =>
    have hincomplete : r.isIncomplete = true := eq_true_of_ne_false h
    simp only [react_authorize, Relations.ruling_of_incomplete hincomplete]
  | addPolicy r =>
    have hincomplete : r.isIncomplete = true := eq_true_of_ne_false h
    simp only [react_addPolicy, Relations.amend_of_incomplete hincomplete]
  | deletePolicy r =>
    have hincomplete : r.isIncomplete = true := eq_true_of_ne_false h
    simp only [react_deletePolicy, Relations.amend_of_incomplete hincomplete]
  | listObjects subject relation => exact absurd trivial h
  | listSubjects object relation => exact absurd trivial h

/-- An operation that asks an agent that is away ends there, with nothing done. -/
theorem react_of_consults (h : svc.Consults clock op) (w : World) (drawn : String) :
    svc.react (w.withAgent false) (.call clock drawn op)
      = (.halted .agentAway, w.withAgent false) := by
  cases op with
  | issue token key =>
    obtain ⟨htype, hvet, caller, hcaller, hother⟩ := h
    have hdecode := (svc.caller_eq_ok_iff.1 hcaller).1
    have hsubject : caller.subject ≠ "" := (svc.codec.isCanonical_of_decode hdecode).subject_ne
    have hpermit := permit_of_ne (w.withAgent false).relations hsubject hother
    rw [svc.react_issue_of_persisted _ clock drawn htype,
      grant_of_not_permitted hvet hcaller hpermit]
    rfl
  | refresh token => cases h
  | identify token => cases h
  | retrieve token id => cases h
  | revoke token id => cases h
  | authorize r =>
    rw [react_authorize, Relations.ruling_of_complete h]
    rfl
  | addPolicy r =>
    rw [react_addPolicy, Relations.amend_of_complete h]
    rfl
  | deletePolicy r =>
    rw [react_deletePolicy, Relations.amend_of_complete h]
    rfl
  | listObjects subject relation =>
    rw [react_listObjects]
    rfl
  | listSubjects object relation =>
    rw [react_listSubjects]
    rfl

variable (svc) in
/-- An outage of the policy agent only defers. An operation that does not ask the agent comes to the
same as without the outage, and does the same; any other is refused as one to be tried again, and
does nothing. Without the agent nothing is refused as if it had said no, and nothing succeeds that
would not have succeeded with it. -/
theorem outage_only_defers (w : World) (clock : Clock) (drawn : String) (op : Operation) :
    let on := svc.react (w.withAgent true) (.call clock drawn op)
    let off := svc.react (w.withAgent false) (.call clock drawn op)
    (¬ svc.Consults clock op ∧ off.1 = on.1 ∧ off.2.keys = on.2.keys ∧
        off.2.relations.facts = on.2.relations.facts ∨
      svc.Consults clock op ∧ off.2 = w.withAgent false ∧ ∃ text,
        off.1 = .halted (.refused (.unavailable text)) ∧
        (ServiceError.unavailable text).isRetryable = true ∧
        (ServiceError.unavailable text).status = 503) ∧
    off.1 ≠ .halted (.refused .authorization) ∧
    ∀ a, off.1 = .answered a → on.1 = .answered a := by
  intro on off
  by_cases h : svc.Consults clock op
  · have hoff : off = (.halted .agentAway, w.withAgent false) := react_of_consults h w drawn
    rw [hoff]
    refine ⟨.inr ⟨h, rfl, "in-memory policy agent switched off", rfl, rfl, rfl⟩, ?_, ?_⟩
    · intro hdenied
      cases hdenied
    · intro a ha
      cases ha
  · have hon : on = _ := react_withAgent h w drawn true
    have hoff : off = _ := react_withAgent h w drawn false
    have hanswer : off.1 = on.1 := by rw [hoff, hon]
    have hkeys : off.2.keys = on.2.keys := by
      rw [hoff, hon]
      rfl
    have hfacts : off.2.relations.facts = on.2.relations.facts := by
      rw [hoff, hon]
      rfl
    refine ⟨.inl ⟨h, hanswer, hkeys, hfacts⟩, fun hdenied => h (consults_of_denied hdenied), ?_⟩
    intro a ha
    rw [← hanswer, ha]

end Service

end Credentials
