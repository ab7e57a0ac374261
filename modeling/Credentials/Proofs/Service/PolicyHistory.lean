import Credentials.Proofs.Service.Footprint
import Credentials.Service.PolicyHistory

/-!
# Answers follow the policy history

A policy agent in memory says of a relationship what the last change to it said
that was made. A change that is refused leaves no trace, nor does a change to
another relationship, even one that has two of its three parts in common.
-/

namespace Credentials

/-! ## Changes -/

namespace Relations

/-- The set in which a relationship holds, or does not. -/
def declare (holds : Bool) (s : Relations) (r : Relationship) : Relations :=
  if holds then s.insert r else s.erase r

variable (s : Relations) (r other : Relationship) (holds : Bool)

theorem holds_declare :
    (s.declare holds r).holds other = if other = r then holds else s.holds other := by
  cases holds with
  | false => exact s.holds_erase r other
  | true => exact s.holds_insert r other

theorem available_declare : (s.declare holds r).available = s.available := by
  cases holds with
  | false => rfl
  | true => exact s.available_insert r

/-- Whether two sets answer alike about a relationship. -/
def AgreeOn (r : Relationship) (s t : Relations) : Prop :=
  s.available = t.available ∧ s.holds r = t.holds r

theorem AgreeOn.declare {r : Relationship} {s t : Relations} (h : AgreeOn r s t) :
    AgreeOn r (s.declare holds other) (t.declare holds other) := by
  obtain ⟨havailable, hholds⟩ := h
  refine ⟨?_, ?_⟩
  · rw [available_declare, available_declare, havailable]
  · rw [holds_declare, holds_declare, hholds]

theorem agreeOn_declare_of_ne (h : other ≠ r) : AgreeOn r (s.declare holds other) s :=
  ⟨s.available_declare other holds, (s.holds_declare other r holds).trans (if_neg (Ne.symm h))⟩

end Relations

namespace Service

variable (svc : Service) (w : World) {e : Event} {r : Relationship} {holds : Bool}

/-- A change of policy is made and answered, or refused without a trace. -/
theorem react_of_change (h : e.change? = some (r, holds)) :
    svc.react w e =
      if r.isIncomplete then
        (.halted (.refused (.malformed ("incomplete policy: " ++ r.describe))), w)
      else if w.relations.available then
        (.answered .done, { w with relations := w.relations.declare holds r })
      else (.halted (.refused (.unavailable "in-memory policy agent switched off")), w) := by
  have hamend : svc.react w e = (.ofResult (fun _ => .done)
        (refusing .ofPolicy (w.relations.amend (.declare holds) r).1),
      { w with relations := (w.relations.amend (.declare holds) r).2 }) := by
    unfold Event.change? at h
    split at h
    · next clock drawn _ =>
      cases h
      exact svc.react_addPolicy w clock drawn r
    · next clock drawn _ =>
      cases h
      exact svc.react_deletePolicy w clock drawn r
    · cases h
  rw [hamend]
  cases hincomplete : r.isIncomplete with
  | true =>
    rw [Relations.amend_of_incomplete hincomplete]
    rfl
  | false =>
    rw [Relations.amend_of_complete hincomplete]
    cases w.relations.available <;> rfl

/-- Nothing but a change of policy and the coming and going of the agent touches its set. -/
theorem relations_react_of_change?_eq_none (h : e.change? = none) :
    (svc.react w e).2.relations
      = { w.relations with available := e.switch?.getD w.relations.available } := by
  cases e with
  | switch available => rfl
  | save drawn key =>
    rw [react_save]
    split <;> rfl
  | remove issuer id => rfl
  | call clock drawn op =>
    cases op with
    | issue token key =>
      cases htype : key.keyType.persistence with
      | stateless =>
        rw [react_issue_of_stateless svc w clock drawn htype]
        rfl
      | persisted =>
        rw [react_issue_of_persisted svc w clock drawn htype]
        split
        · rfl
        · split <;> rfl
    | refresh token => rw [react_refresh]; rfl
    | identify token => rw [react_identify]; rfl
    | retrieve token id => rw [react_retrieve]; rfl
    | revoke token id =>
      rw [react_revoke]
      split <;> rfl
    | authorize r => rw [react_authorize]; rfl
    | addPolicy r => cases h
    | deletePolicy r => cases h
    | listObjects subject relation => rw [react_listObjects]; rfl
    | listSubjects object relation => rw [react_listSubjects]; rfl

/-! ## One event -/

theorem changeTo?_of_change?_eq_none (h : e.change? = none) (outcome : Outcome) :
    changeTo? r (e, outcome) = none := by
  cases outcome with
  | answered a => simp [changeTo?, h]
  | _ => rfl

/-- Only its coming and going tells whether the policy agent is there. -/
theorem available_react (e : Event) :
    (svc.react w e).2.relations.available = e.switch?.getD w.relations.available := by
  cases hchange : e.change? with
  | none => rw [svc.relations_react_of_change?_eq_none w hchange]
  | some change =>
    obtain ⟨r, holds⟩ := change
    have hswitch : e.switch? = none := by
      cases e with
      | switch available => cases hchange
      | _ => rfl
    rw [svc.react_of_change w hchange, hswitch]
    split
    · rfl
    · split
      · exact w.relations.available_declare r holds
      · rfl

/-- A relationship holds after an event as the event made it, or as before. -/
theorem holds_react (e : Event) (r : Relationship) :
    (svc.react w e).2.relations.holds r
      = (changeTo? r (e, (svc.react w e).1)).getD (w.relations.holds r) := by
  cases hchange : e.change? with
  | none =>
    rw [svc.relations_react_of_change?_eq_none w hchange, changeTo?_of_change?_eq_none hchange]
    rfl
  | some change =>
    obtain ⟨other, holds⟩ := change
    rw [svc.react_of_change w hchange]
    split
    · rfl
    · split
      · simp only [changeTo?, hchange, Option.bind_some, Relations.holds_declare]
        by_cases hother : r = other
        · simp [hother]
        · simp [hother, Ne.symm hother]
      · rfl

/-! ## Runs -/

theorem getLast?_filterMap_cons {α β : Type} (f : α → Option β) (a : α) (as : List α) :
    ((a :: as).filterMap f).getLast? = (as.filterMap f).getLast?.or (f a) := by
  simp [List.getLast?_filterMap, List.findSome?_append]

theorem available_run (events : List Event) :
    (svc.run w events).relations.available
      = (events.filterMap Event.switch?).getLast?.getD w.relations.available := by
  induction events generalizing w with
  | nil => rfl
  | cons e events ih =>
    have hrest := ih (svc.react w e).2
    rw [available_react] at hrest
    rw [getLast?_filterMap_cons, Option.getD_or]
    exact hrest

/-- After a run a relationship is as the last change to it made it. -/
theorem holds_run (events : List Event) (r : Relationship) :
    (svc.run w events).relations.holds r
      = (lastChange? r (svc.transcript w events)).getD (w.relations.holds r) := by
  induction events generalizing w with
  | nil => rfl
  | cons e events ih =>
    have hrest := ih (svc.react w e).2
    rw [holds_react] at hrest
    have hsteps : svc.transcript w (e :: events)
        = (e, (svc.react w e).1) :: svc.transcript (svc.react w e).2 events := rfl
    rw [hsteps, lastChange?, getLast?_filterMap_cons, Option.getD_or]
    exact hrest

theorem exists_react_of_mem_transcript {events : List Event} {step : Event × Outcome}
    (h : step ∈ svc.transcript w events) : ∃ v, step.2 = (svc.react v step.1).1 := by
  induction events generalizing w with
  | nil => cases h
  | cons e events ih =>
    obtain rfl | hrest := List.mem_cons.1 h
    · exact ⟨w, rfl⟩
    · exact ih _ hrest

/-! ## Other relationships -/

variable {w} {v : World} {other : Relationship}

/-- An event keeps two sets alike in what they say of a relationship. -/
theorem agreeOn_react (h : Relations.AgreeOn r v.relations w.relations) (e : Event) :
    Relations.AgreeOn r (svc.react v e).2.relations (svc.react w e).2.relations := by
  have havailable : v.relations.available = w.relations.available := h.1
  cases hchange : e.change? with
  | none =>
    rw [svc.relations_react_of_change?_eq_none v hchange,
      svc.relations_react_of_change?_eq_none w hchange, havailable]
    exact ⟨rfl, h.2⟩
  | some change =>
    rw [svc.react_of_change v hchange, svc.react_of_change w hchange, havailable]
    split
    · exact h
    · split
      · exact h.declare change.1 change.2
      · exact h

theorem agreeOn_run (h : Relations.AgreeOn r v.relations w.relations) (events : List Event) :
    Relations.AgreeOn r (svc.run v events).relations (svc.run w events).relations := by
  induction events generalizing v w with
  | nil => exact h
  | cons e events ih => exact ih (svc.agreeOn_react h e)

/-- A change to a relationship leaves what is said of another one. -/
theorem agreeOn_react_of_ne (w : World) (h : e.change? = some (other, holds)) (hne : other ≠ r) :
    Relations.AgreeOn r (svc.react w e).2.relations w.relations := by
  rw [svc.react_of_change w h]
  split
  · exact ⟨rfl, rfl⟩
  · split
    · exact w.relations.agreeOn_declare_of_ne r other holds hne
    · exact ⟨rfl, rfl⟩

/-! ## Answers -/

/-- What a question comes to. -/
theorem authorize_answer (w : World) (clock : Clock) (drawn : String) (r : Relationship) :
    (svc.react w (.call clock drawn (.authorize r))).1 =
      if r.isIncomplete then
        .halted (.refused (.malformed ("incomplete policy request: " ++ r.describe)))
      else if w.relations.available = false then
        .halted (.refused (.unavailable "in-memory policy agent switched off"))
      else if w.relations.holds r then .answered .done
      else .halted (.refused .authorization) := by
  rw [react_authorize]
  cases hincomplete : r.isIncomplete with
  | true =>
    rw [Relations.ruling_of_incomplete hincomplete]
    rfl
  | false =>
    rw [Relations.ruling_of_complete hincomplete]
    cases w.relations.available with
    | false => rfl
    | true => cases w.relations.holds r <;> rfl

theorem authorize_of_agreeOn (h : Relations.AgreeOn r v.relations w.relations) (clock : Clock)
    (drawn : String) :
    (svc.react v (.call clock drawn (.authorize r))).1
      = (svc.react w (.call clock drawn (.authorize r))).1 := by
  rw [authorize_answer, authorize_answer, h.1, h.2]

theorem refusing_ofPolicy_ne {α : Type} (answer : α → Answer) (x : Except PolicyError α)
    (reason : Rejection) :
    Outcome.ofResult answer (refusing .ofPolicy x) ≠ .halted (.refused (.authentication reason)) := by
  cases x with
  | ok a => nofun
  | error e =>
    intro h
    cases e <;> cases h

/-- The policy agent never finds fault with a credential. -/
theorem react_ne_authentication (w : World) (h : e.isPolicy = true) (reason : Rejection) :
    (svc.react w e).1 ≠ .halted (.refused (.authentication reason)) := by
  cases e with
  | call clock drawn op =>
    cases op with
    | authorize r =>
      rw [react_authorize]
      exact refusing_ofPolicy_ne _ _ reason
    | addPolicy r =>
      rw [react_addPolicy]
      exact refusing_ofPolicy_ne _ _ reason
    | deletePolicy r =>
      rw [react_deletePolicy]
      exact refusing_ofPolicy_ne _ _ reason
    | listObjects subject relation =>
      rw [react_listObjects]
      exact refusing_ofPolicy_ne _ _ reason
    | listSubjects object relation =>
      rw [react_listSubjects]
      exact refusing_ofPolicy_ne _ _ reason
    | _ => cases h
  | _ => cases h

/-! ## The history -/

/-- Answers about relationships follow the policy history. After any run that starts with a policy
agent in memory that holds nothing, a question with an empty part is malformed; one that meets the
agent away is to be asked again; and any other is allowed if the last change to its relationship
that was answered stored it, and denied otherwise. A change with an empty part, or one that meets
the agent away, is refused and leaves everything as it was. A change to one relationship never shows
in what is answered about another one, however much happens in between. And no answer of the policy
agent finds fault with a credential. -/
theorem answers_follow_policy_history (keys : KeyStore) (events : List Event) :
    let w := svc.run { keys } events
    (∀ r : Relationship,
      r.isIncomplete = false ↔ r.subject ≠ "" ∧ r.relation ≠ "" ∧ r.object ≠ "") ∧
    (∀ clock drawn r, (svc.react w (.call clock drawn (.authorize r))).1 =
      if r.isIncomplete then
        .halted (.refused (.malformed ("incomplete policy request: " ++ r.describe)))
      else if isAgentThere events = false then
        .halted (.refused (.unavailable "in-memory policy agent switched off"))
      else if lastChange? r (svc.transcript { keys } events) = some true then .answered .done
      else .halted (.refused .authorization)) ∧
    (∀ e r holds, e.change? = some (r, holds) →
      r.isIncomplete = true ∨ isAgentThere events = false →
      (∃ halt, (svc.react w e).1 = .halted halt) ∧ (svc.react w e).2 = w) ∧
    (∀ e r holds, e.change? = some (r, holds) →
      r.isIncomplete = false → isAgentThere events = true → (svc.react w e).1 = .answered .done) ∧
    (∀ e other holds, e.change? = some (other, holds) → ∀ r, other ≠ r → ∀ later clock drawn,
      (svc.react (svc.run (svc.react w e).2 later) (.call clock drawn (.authorize r))).1
        = (svc.react (svc.run w later) (.call clock drawn (.authorize r))).1) ∧
    ∀ step ∈ svc.transcript { keys } events, step.1.isPolicy = true → ∀ reason,
      step.2 ≠ .halted (.refused (.authentication reason)) := by
  intro w
  have havailable : w.relations.available = isAgentThere events := svc.available_run _ events
  have hholds (r : Relationship) : w.relations.holds r
      = decide (lastChange? r (svc.transcript { keys } events) = some true) := by
    have hrun := svc.holds_run { keys } events r
    have hnone : ({ keys : World }).relations.holds r = false := rfl
    rw [hnone] at hrun
    refine hrun.trans ?_
    cases lastChange? r (svc.transcript { keys } events) with
    | none => rfl
    | some holds => cases holds <;> rfl
  refine ⟨fun _ => Relationship.isIncomplete_eq_false_iff, ?answer, ?refused, ?made, ?other,
    ?credential⟩
  case answer =>
    intro clock drawn r
    rw [authorize_answer, havailable, hholds]
    simp only [decide_eq_true_eq]
  case refused =>
    intro e r holds hchange hrefused
    rw [svc.react_of_change w hchange, havailable]
    obtain hincomplete | haway := hrefused
    · rw [if_pos hincomplete]
      exact ⟨⟨_, rfl⟩, rfl⟩
    · rw [haway]
      split <;> exact ⟨⟨_, rfl⟩, rfl⟩
  case made =>
    intro e r holds hchange hcomplete hthere
    rw [svc.react_of_change w hchange, havailable, hcomplete, hthere]
    rfl
  case other =>
    intro e other holds hchange r hne later clock drawn
    have hagree := svc.agreeOn_react_of_ne w hchange hne
    exact svc.authorize_of_agreeOn (svc.agreeOn_run hagree later) clock drawn
  case credential =>
    intro step hstep hpolicy reason
    obtain ⟨v, hv⟩ := svc.exists_react_of_mem_transcript _ hstep
    rw [hv]
    exact svc.react_ne_authentication v hpolicy reason

end Service

end Credentials
