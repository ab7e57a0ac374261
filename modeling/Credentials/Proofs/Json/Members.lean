import Credentials.Json.Record

/-!
# What a record was read from

A reader that finds the fields of a record in an object has found them all: each
is the one member of its name, or there is no such member. So what was read can
be told from the members alone, whatever their order and whatever else is there.
-/

namespace Credentials.Json

/-! ## Members -/

/-- The values of the members of a name. -/
def valuesOf (members : List (Option String × Json)) (name : String) : List Json :=
  (members.filter (·.1 == some name)).map (·.2)

theorem valuesOf_of_named? {members : List (Option String × Json)} {ms : List (String × Json)}
    (h : named? members = some ms) (name : String) :
    valuesOf members name = (ms.filter (·.1 == name)).map (·.2) := by
  induction members generalizing ms with
  | nil =>
    cases h
    rfl
  | cons member members ih =>
    obtain ⟨_ | other, v⟩ := member
    · cases h
    · obtain ⟨rest, hrest, rfl⟩ := Option.map_eq_some_iff.1 h
      have htail := ih hrest
      by_cases hname : other = name
      · simpa [valuesOf, hname] using htail
      · simpa [valuesOf, hname] using htail

theorem exists_named?_iff {members : List (Option String × Json)} :
    (∃ ms, named? members = some ms) ↔ ∀ member ∈ members, member.1 ≠ none := by
  induction members with
  | nil => simp [named?]
  | cons member members ih =>
    obtain ⟨_ | name, v⟩ := member
    · simp [named?]
    · rw [List.forall_mem_cons, ← ih, named?]
      simp [Functor.map, Option.map_eq_some_iff, exists_comm]

theorem member?_eq_some_iff {ms : List (String × Json)} {name : String} {v : Option Json} :
    member? ms name = some v ↔ (ms.filter (·.1 == name)).map (·.2) = v.toList := by
  rw [member?]
  generalize ms.filter (·.1 == name) = found
  match found with
  | [] => cases v <;> simp
  | [member] => cases v <;> simp
  | _ :: _ :: _ => cases v <;> simp

/-- What a reader finds for each declared field is all there is under its name; there is nothing
else that it asks of an object than that every name is a text. -/
theorem ofMembers?_eq_some_iff {fields : List Field} {members : List (Option String × Json)}
    {found : List (Option Json)} :
    ofMembers? fields members = some found ↔
      (∀ member ∈ members, member.1 ≠ none) ∧
        fields.map (fun field => valuesOf members field.name) = found.map Option.toList := by
  rw [ofMembers?, Option.bind_eq_bind, Option.bind_eq_some_iff, ← exists_named?_iff]
  rw [← exists_and_right]
  refine exists_congr fun ms => and_congr_right fun hms => ?_
  induction fields generalizing found with
  | nil => cases found <;> simp
  | cons field fields ih =>
    simp only [List.mapM_cons, Option.bind_eq_bind, Option.bind_eq_some_iff, Option.pure_def,
      Option.some.injEq, List.map_cons]
    cases found with
    | nil => simp
    | cons v found =>
      rw [List.map_cons, List.cons.injEq, ← ih, valuesOf_of_named? hms, ← member?_eq_some_iff]
      simp

/-- Whether a document has a value for a field, or no value for it: an array has it as its only
item, or ends before it; an object has it as the one member of its name, or has no such member,
and all its names are texts. -/
def HasField (field : Field) (j : Json) (v : Option Json) : Prop :=
  (∃ item, j = .array [item] ∧ v = some item) ∨
  (j = .array [] ∧ field.omissible = true ∧ v = none) ∨
  ∃ members, j = .object members ∧ (∀ member ∈ members, member.1 ≠ none) ∧
    valuesOf members field.name = v.toList

theorem fields?_singleton_iff {field : Field} {j : Json} {found : List (Option Json)} :
    fields? [field] j = some found ↔ ∃ v, found = [v] ∧ j.HasField field v := by
  cases j with
  | object members =>
    rw [fields?, ofMembers?_eq_some_iff]
    constructor
    · rintro ⟨hnames, hvalues⟩
      obtain ⟨v, rfl, hv⟩ := List.map_eq_singleton_iff.1 hvalues.symm
      exact ⟨v, rfl, .inr (.inr ⟨members, rfl, hnames, hv.symm⟩)⟩
    · rintro ⟨v, rfl, ⟨_, ⟨⟩, _⟩ | ⟨⟨⟩, _⟩ | ⟨_, ⟨⟩, hnames, hvalues⟩⟩
      exact ⟨hnames, by simp [hvalues]⟩
  | array items =>
    match items with
    | [] => simp [fields?, placed?, HasField, eq_comm (a := found), and_comm]
    | [item] => simp [fields?, placed?, HasField, eq_comm (a := found)]
    | _ :: _ :: _ => simp [fields?, placed?, HasField]
  | _ => simp [fields?, HasField]

/-! ## Fields

What is there under the name of a field, by the rule with which the field was read. -/

variable {α : Type} {read : Json → Option α} {field : Option Json}

theorem text?_eq_some_iff {j : Json} {s : String} : j.text? = some s ↔ j = .text s := by
  cases j <;> simp [text?]

theorem bool?_eq_some_iff {j : Json} {b : Bool} : j.bool? = some b ↔ j = .bool b := by
  cases j <;> simp [bool?]

theorem texts?_eq_some_iff {j : Json} {texts : List String} :
    j.texts? = some texts ↔ j = .array (texts.map .text) := by
  cases j with
  | array items =>
    simp only [texts?, array.injEq]
    induction items generalizing texts with
    | nil => cases texts <;> simp
    | cons item items ih =>
      simp only [List.mapM_cons, Option.bind_eq_bind, Option.bind_eq_some_iff, Option.pure_def,
        Option.some.injEq]
      cases texts with
      | nil => simp
      | cons text texts =>
        rw [List.map_cons, List.cons.injEq, ← text?_eq_some_iff, ← ih]
        simp
  | _ => simp [texts?]

end Credentials.Json
