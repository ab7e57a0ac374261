import Credentials.Policy.Run
import Credentials.Proofs.Text.ByteOrder
import Mathlib.Data.List.Nodup

/-!
# Listings and checks

The policy agent in memory answers three questions from one set of relationships:
whether a subject stands in a relation to an object, who does, and to what it
does. The answers agree, since a listing is the part of the set in which two of
the three names are given, and each of its facts is told from the others by the
third. A gateway sees to it that no fact has an empty part, so that a listing
finds nothing for an empty name although nobody checks its arguments.
-/

namespace Credentials

namespace Relations

variable {s : Relations} {r : Relationship}

/-! ## Names in order -/

theorem mem_sorted_iff {texts : List String} {text : String} :
    text ∈ sorted texts ↔ text ∈ texts := List.mem_mergeSort

/-- Names that differ come out in strict order. -/
theorem pairwise_sorted {texts : List String} (h : texts.Nodup) :
    (sorted texts).Pairwise (· < ·) := by
  have htrans (a b c : String) (hab : decide (a ≤ b) = true) (hbc : decide (b ≤ c) = true) :
      decide (a ≤ c) = true :=
    decide_eq_true (String.le_trans (of_decide_eq_true hab) (of_decide_eq_true hbc))
  have htotal (a b : String) : (decide (a ≤ b) || decide (b ≤ a)) = true := by
    simpa using String.le_total a b
  have hle : (sorted texts).Pairwise fun a b => decide (a ≤ b) = true :=
    List.pairwise_mergeSort htrans htotal texts
  have hne : (sorted texts).Nodup := List.nodup_mergeSort.2 h
  refine (hle.and hne).imp ?_
  rintro a b ⟨hab, hne⟩
  exact String.not_le.1 fun hba => hne (String.le_antisymm (of_decide_eq_true hab) hba)

/-- A name is listed if a fact that is chosen has it. -/
theorem mem_names_iff {name : Relationship → String} {chosen : Relationship → Bool}
    {text : String} :
    text ∈ sorted ((s.facts.filter chosen).map name) ↔
      ∃ r, s.holds r = true ∧ chosen r = true ∧ name r = text := by
  simp only [mem_sorted_iff, List.mem_map, List.mem_filter, holds, List.contains_iff_mem,
    and_assoc]

theorem mem_subjects_iff {subject object relation : String} :
    subject ∈ s.subjects object relation ↔ s.holds ⟨subject, relation, object⟩ = true := by
  rw [subjects, mem_names_iff]
  constructor
  · rintro ⟨⟨_, _, _⟩, hholds, hchosen, rfl⟩
    obtain ⟨rfl, rfl⟩ := of_decide_eq_true hchosen
    exact hholds
  · exact fun h => ⟨_, h, by simp, rfl⟩

theorem mem_objects_iff {subject object relation : String} :
    object ∈ s.objects subject relation ↔ s.holds ⟨subject, relation, object⟩ = true := by
  rw [objects, mem_names_iff]
  constructor
  · rintro ⟨⟨_, _, _⟩, hholds, hchosen, rfl⟩
    obtain ⟨rfl, rfl⟩ := of_decide_eq_true hchosen
    exact hholds
  · exact fun h => ⟨_, h, by simp, rfl⟩

/-! ## Sets behind a gateway -/

/-- A set as a gateway keeps it: each fact once, and none with an empty part. -/
structure IsKept (s : Relations) : Prop where
  distinct : s.facts.Nodup
  complete : ∀ r ∈ s.facts, r.isIncomplete = false

theorem IsKept.empty : IsKept {} where
  distinct := List.nodup_nil
  complete r h := by cases h

theorem IsKept.insert (h : s.IsKept) (hr : r.isIncomplete = false) : (s.insert r).IsKept := by
  rw [Relations.insert]
  by_cases hholds : s.holds r = true
  · rw [if_pos hholds]
    exact h
  · rw [if_neg hholds]
    have hnew : r ∉ s.facts := by simpa [holds] using hholds
    exact ⟨List.nodup_cons.2 ⟨hnew, h.distinct⟩, List.forall_mem_cons.2 ⟨hr, h.complete⟩⟩

theorem IsKept.erase (h : s.IsKept) (r : Relationship) : (s.erase r).IsKept where
  distinct := h.distinct.filter _
  complete other hother := h.complete other (List.mem_filter.1 hother).1

theorem IsKept.complete_of_holds (h : s.IsKept) (hr : s.holds r = true) :
    r.isIncomplete = false :=
  h.complete r (List.contains_iff_mem.1 hr)

/-- Of facts that agree in all but one of their names, that name tells them apart. -/
theorem IsKept.pairwise_names (h : s.IsKept) {name : Relationship → String}
    {chosen : Relationship → Bool}
    (hname : ∀ r t, chosen r = true → chosen t = true → name r = name t → r = t) :
    (sorted ((s.facts.filter chosen).map name)).Pairwise (· < ·) := by
  refine pairwise_sorted (List.Nodup.map_on ?_ (h.distinct.filter chosen))
  intro r hr t ht hsame
  exact hname r t (List.mem_filter.1 hr).2 (List.mem_filter.1 ht).2 hsame

theorem IsKept.pairwise_subjects (h : s.IsKept) (object relation : String) :
    (s.subjects object relation).Pairwise (· < ·) := by
  refine h.pairwise_names ?_
  rintro ⟨_, _, _⟩ ⟨_, _, _⟩ hr ht hsame
  obtain ⟨rfl, rfl⟩ := of_decide_eq_true hr
  obtain ⟨hother, hrelation⟩ := of_decide_eq_true ht
  rw [Relationship.mk.injEq]
  exact ⟨hsame, hrelation.symm, hother.symm⟩

theorem IsKept.pairwise_objects (h : s.IsKept) (subject relation : String) :
    (s.objects subject relation).Pairwise (· < ·) := by
  refine h.pairwise_names ?_
  rintro ⟨_, _, _⟩ ⟨_, _, _⟩ hr ht hsame
  obtain ⟨rfl, rfl⟩ := of_decide_eq_true hr
  obtain ⟨hother, hrelation⟩ := of_decide_eq_true ht
  rw [Relationship.mk.injEq]
  exact ⟨hother.symm, hrelation.symm, hsame⟩

/-- An empty name has no subjects, since no fact has it for an object or a relation. -/
theorem IsKept.subjects_eq_nil (h : s.IsKept) {object relation : String}
    (hempty : object = "" ∨ relation = "") : s.subjects object relation = [] := by
  refine List.eq_nil_iff_forall_not_mem.2 fun subject hmem => ?_
  have hcomplete := h.complete_of_holds (mem_subjects_iff.1 hmem)
  obtain ⟨-, hrelation, hobject⟩ := Relationship.isIncomplete_eq_false_iff.1 hcomplete
  exact hempty.elim hobject hrelation

theorem IsKept.objects_eq_nil (h : s.IsKept) {subject relation : String}
    (hempty : subject = "" ∨ relation = "") : s.objects subject relation = [] := by
  refine List.eq_nil_iff_forall_not_mem.2 fun object hmem => ?_
  have hcomplete := h.complete_of_holds (mem_objects_iff.1 hmem)
  obtain ⟨hsubject, hrelation, -⟩ := Relationship.isIncomplete_eq_false_iff.1 hcomplete
  exact hempty.elim hsubject hrelation

end Relations

/-! ## Operations -/

theorem Call.state_andThen {σ ε α β : Type} (call : Call σ ε α) (f : α → Except ε β)
    (limit : Duration) (s : σ) : (call.andThen f limit s).2 = (call limit s).2 := by
  rw [andThen]
  obtain ⟨_ | _ | _, t⟩ := call limit s <;> rfl

namespace Relations

theorem ask_of_available {α : Type} {s : Relations} (h : s.available = true) (f : Relations → α)
    (limit : Duration) : ask (fun s => (f s, s)) limit s = (.value (f s), s) := if_pos h

theorem state_ask {α : Type} (f : Relations → α × Relations) (limit : Duration) (s : Relations) :
    (ask f limit s).2 = s ∨ (ask f limit s).2 = (f s).2 := by
  rw [ask]
  split
  · exact .inr rfl
  · exact .inl rfl

theorem state_ask_of_reads {α : Type} (f : Relations → α) (limit : Duration) (s : Relations) :
    (ask (fun s => (f s, s)) limit s).2 = s := by
  obtain h | h := state_ask (fun s => (f s, s)) limit s <;> exact h

end Relations

namespace Gateway

variable (limit : Duration) (s : Relations)

theorem state_evaluate (r : Relationship) : (evaluate Relations.agent r limit s).2 = s := by
  rw [evaluate]
  split
  · rfl
  · exact Relations.state_ask_of_reads (·.holds r) limit s

theorem state_authorize (r : Relationship) : (authorize Relations.agent r limit s).2 = s := by
  rw [authorize, Call.state_andThen, state_evaluate]

theorem state_add (r : Relationship) :
    (add Relations.agent r limit s).2 = s ∨
      r.isIncomplete = false ∧ (add Relations.agent r limit s).2 = s.insert r := by
  rw [add]
  split
  · exact .inl rfl
  · next h =>
    refine (Relations.state_ask (fun s => ((), s.insert r)) limit s).imp_right fun hadded => ?_
    exact ⟨by simpa using h, hadded⟩

theorem state_delete (r : Relationship) :
    (delete Relations.agent r limit s).2 = s ∨
      (delete Relations.agent r limit s).2 = s.erase r := by
  rw [delete]
  split
  · exact .inl rfl
  · exact Relations.state_ask (fun s => ((), s.erase r)) limit s

/-- All that an event can do to the set. -/
theorem after_cases (e : Event) :
    after s e = s ∨ (∃ r, r.isIncomplete = false ∧ after s e = s.insert r) ∨
      (∃ r, after s e = s.erase r) ∨ ∃ available, after s e = { s with available } := by
  cases e with
  | switch available => exact .inr (.inr (.inr ⟨available, rfl⟩))
  | call limit op =>
    cases op with
    | evaluate r =>
      refine .inl ?_
      rw [after, ask, Call.state_andThen, state_evaluate]
    | authorize r =>
      refine .inl ?_
      rw [after, ask, Call.state_andThen, state_authorize]
    | checkAdmin subject =>
      refine .inl ?_
      rw [after, ask, Call.state_andThen, checkAdmin, state_authorize]
    | isOwner object subject =>
      refine .inl ?_
      rw [after, ask, Call.state_andThen, isOwner, state_authorize]
    | add r =>
      rw [after, ask, Call.state_andThen]
      obtain h | h := state_add limit s r
      · exact .inl h
      · exact .inr (.inl ⟨r, h⟩)
    | delete r =>
      rw [after, ask, Call.state_andThen]
      obtain h | h := state_delete limit s r
      · exact .inl h
      · exact .inr (.inr (.inl ⟨r, h⟩))
    | listSubjects object relation =>
      refine .inl ?_
      rw [after, ask, Call.state_andThen]
      exact Relations.state_ask_of_reads (·.subjects object relation) limit s
    | listObjects subject relation =>
      refine .inl ?_
      rw [after, ask, Call.state_andThen]
      exact Relations.state_ask_of_reads (·.objects subject relation) limit s

end Gateway

/-! ## Runs -/

namespace Relations

/-- An event leaves the set as a gateway keeps it. -/
theorem IsKept.after {s : Relations} (h : s.IsKept) (e : Gateway.Event) :
    (Gateway.after s e).IsKept := by
  obtain hsame | ⟨r, hr, hinsert⟩ | ⟨r, herase⟩ | ⟨available, hswitch⟩ := Gateway.after_cases s e
  · rw [hsame]
    exact h
  · rw [hinsert]
    exact h.insert hr
  · rw [herase]
    exact h.erase r
  · rw [hswitch]
    exact ⟨h.distinct, h.complete⟩

theorem IsKept.run {s : Relations} (h : s.IsKept) (events : List Gateway.Event) :
    (Gateway.run s events).IsKept := by
  induction events generalizing s with
  | nil => exact h
  | cons e events ih => exact ih (h.after e)

end Relations

/-! ## Agreement -/

namespace Gateway

/-- Texts in strict order of their bytes, so that none is there twice. -/
def IsInByteOrder (texts : List String) : Prop :=
  texts.Pairwise fun a b => Text.utf8 a < Text.utf8 b

theorem isInByteOrder_of_pairwise {texts : List String} (h : texts.Pairwise (· < ·)) :
    IsInByteOrder texts := h.imp Text.utf8_lt_utf8

theorem evaluate_of_complete {s : Relations} (havailable : s.available = true) {r : Relationship}
    (h : r.isIncomplete = false) (limit : Duration) :
    evaluate Relations.agent r limit s = (.value (s.holds r), s) := by
  rw [evaluate, if_neg (by simp [h])]
  exact Relations.ask_of_available havailable (·.holds r) limit

/-- Listings agree with checks. Whatever was asked of a gateway since the set behind it was empty,
if its agent answers: a subject is listed for an object exactly if the object is listed for the
subject and, unless one of the three names is empty, exactly if a check says yes. Listings are in
strict order of the bytes of the names, and there is nothing in those for an empty name. -/
theorem listings_agree_with_checks {events : List Event} (h : (run {} events).available = true)
    (limit : Duration) (subject relation object : String) :
    ∃ subjects objects,
      listSubjects Relations.agent object relation limit (run {} events)
        = (.value subjects, run {} events) ∧
      listObjects Relations.agent subject relation limit (run {} events)
        = (.value objects, run {} events) ∧
      (subject ∈ subjects ↔ object ∈ objects) ∧
      (subject ≠ "" → relation ≠ "" → object ≠ "" → (subject ∈ subjects ↔
        (evaluate Relations.agent ⟨subject, relation, object⟩ limit (run {} events)).1
          = .value true)) ∧
      IsInByteOrder subjects ∧ IsInByteOrder objects ∧
      (object = "" ∨ relation = "" → subjects = []) ∧
      (subject = "" ∨ relation = "" → objects = []) := by
  generalize hrun : run {} events = s at h
  have hkept : s.IsKept := hrun ▸ Relations.IsKept.empty.run events
  refine ⟨s.subjects object relation, s.objects subject relation,
    Relations.ask_of_available h (·.subjects object relation) limit,
    Relations.ask_of_available h (·.objects subject relation) limit,
    ?agree, ?check, ?subjects, ?objects, hkept.subjects_eq_nil, hkept.objects_eq_nil⟩
  case agree => rw [Relations.mem_subjects_iff, Relations.mem_objects_iff]
  case check =>
    intro hsubject hrelation hobject
    have hcomplete : (Relationship.mk subject relation object).isIncomplete = false :=
      Relationship.isIncomplete_eq_false_iff.2 ⟨hsubject, hrelation, hobject⟩
    rw [Relations.mem_subjects_iff, evaluate_of_complete h hcomplete, Reply.value.injEq]
  case subjects => exact isInByteOrder_of_pairwise (hkept.pairwise_subjects object relation)
  case objects => exact isInByteOrder_of_pairwise (hkept.pairwise_objects subject relation)

/-- A gateway that is told who may read, of which one change is refused and another one comes while
the agent is away. -/
def readers : List Event :=
  [.call (.ofSeconds 1) (.add ⟨"bob", "read", "report"⟩),
    .call (.ofSeconds 1) (.add ⟨"alice", "read", "report"⟩),
    .call (.ofSeconds 1) (.add ⟨"", "read", "report"⟩), .switch false,
    .call (.ofSeconds 1) (.add ⟨"carol", "read", "report"⟩), .switch true,
    .call (.ofSeconds 1) (.delete ⟨"bob", "read", "report"⟩)]

theorem listings_agree_after_readers :
    ∃ subjects objects,
      listSubjects Relations.agent "report" "read" (.ofSeconds 1) (run {} readers)
        = (.value subjects, run {} readers) ∧
      listObjects Relations.agent "alice" "read" (.ofSeconds 1) (run {} readers)
        = (.value objects, run {} readers) ∧
      "alice" ∈ subjects ∧ "report" ∈ objects := by
  have havailable : (run {} readers).available = true := rfl
  obtain ⟨subjects, objects, hsubjects, hobjects, hagree, hcheck, -⟩ :=
    listings_agree_with_checks havailable (.ofSeconds 1) "alice" "read" "report"
  have hmem : "alice" ∈ subjects := (hcheck (by decide) (by decide) (by decide)).2 rfl
  exact ⟨subjects, objects, hsubjects, hobjects, hmem, hagree.1 hmem⟩

end Gateway

end Credentials
