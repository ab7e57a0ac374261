import Credentials.Text.Digits
import Mathlib.Data.List.Induction

/-!
# Numbers as they are written

What a text in decimal stands for, said digit by digit and without a reader, and
that the reader of numbers takes such texts and no others.
-/

namespace Credentials.Text

/-- The number that one or more decimal digits stand for. Zeros in front are allowed. -/
inductive IsDecimal : List Char → Nat → Prop where
  | digit {c : Char} (h : '0' ≤ c ∧ c ≤ '9') : IsDecimal [c] (c.toNat - '0'.toNat)
  | more {ds : List Char} {n : Nat} {c : Char} (hds : IsDecimal ds n) (h : '0' ≤ c ∧ c ≤ '9') :
      IsDecimal (ds ++ [c]) (10 * n + (c.toNat - '0'.toNat))

/-- The number that a text stands for: decimal digits, with a plus sign before them or without. -/
inductive IsNumber (text : String) (n : Nat) : Prop where
  | plain (h : IsDecimal text.toList n)
  | signed {ds : List Char} (htext : text.toList = '+' :: ds) (h : IsDecimal ds n)

theorem isDigit_iff {c : Char} : c.isDigit = true ↔ '0' ≤ c ∧ c ≤ '9' := by
  simp [Char.isDigit, Char.le_def]

theorem isNumeral_iff {ds : List Char} :
    isNumeral ds = true ↔ ds ≠ [] ∧ ∀ c ∈ ds, c.isDigit = true := by
  simp [isNumeral]

theorem number_append_singleton (ds : List Char) (c : Char) :
    number (ds ++ [c]) = 10 * number ds + (c.toNat - '0'.toNat) := by
  rw [number, Nat.ofDigitChars_append, Nat.ofDigitChars_cons, Nat.ofDigitChars_nil, number]

theorem IsDecimal.isNumeral {ds : List Char} {n : Nat} (h : IsDecimal ds n) :
    isNumeral ds = true := by
  rw [isNumeral_iff]
  induction h with
  | digit hc => simpa using isDigit_iff.2 hc
  | more _ hc ih =>
    refine ⟨by simp, fun d hd => ?_⟩
    obtain hd | hd := List.mem_append.1 hd
    · exact ih.2 d hd
    · rw [List.mem_singleton.1 hd]
      exact isDigit_iff.2 hc

theorem IsDecimal.number_eq {ds : List Char} {n : Nat} (h : IsDecimal ds n) : number ds = n := by
  induction h with
  | digit hc => simp [number, Nat.ofDigitChars_cons]
  | more _ hc ih => rw [number_append_singleton, ih]

theorem isDecimal_number {ds : List Char} (h : isNumeral ds = true) : IsDecimal ds (number ds) := by
  obtain ⟨hne, hdigits⟩ := isNumeral_iff.1 h
  clear h
  -- from the end, since that is where a further digit is written
  induction ds using List.reverseRecOn with
  | nil => exact absurd rfl hne
  | append_singleton ds c ih =>
    have hc := isDigit_iff.1 (hdigits c (by simp))
    rw [number_append_singleton]
    by_cases hds : ds = []
    · subst hds
      simpa [number] using IsDecimal.digit hc
    · exact .more (ih hds fun d hd => hdigits d (by simp [hd])) hc

theorem isDecimal_iff {ds : List Char} {n : Nat} :
    IsDecimal ds n ↔ isNumeral ds = true ∧ number ds = n := by
  constructor
  · intro h
    exact ⟨h.isNumeral, h.number_eq⟩
  · rintro ⟨h, rfl⟩
    exact isDecimal_number h

/-- A sign is no digit. -/
theorem not_isDecimal_sign {ds : List Char} {n : Nat} : ¬ IsDecimal ('+' :: ds) n := by
  intro h
  have hsign := (isNumeral_iff.1 h.isNumeral).2 '+' List.mem_cons_self
  revert hsign
  decide

theorem isNumber_of_sign {text : String} {ds : List Char} {n : Nat}
    (htext : text.toList = '+' :: ds) : IsNumber text n ↔ IsDecimal ds n := by
  constructor
  · rintro (h | ⟨hsigned, h⟩)
    · rw [htext] at h
      exact absurd h not_isDecimal_sign
    · rw [htext] at hsigned
      cases hsigned
      exact h
  · exact .signed htext

theorem isNumber_of_no_sign {text : String} {n : Nat} (htext : ∀ ds, text.toList ≠ '+' :: ds) :
    IsNumber text n ↔ IsDecimal text.toList n := by
  constructor
  · rintro (h | ⟨hsigned, -⟩)
    · exact h
    · exact absurd hsigned (htext _)
  · exact .plain

/-- A number is read from the texts that stand for it, up to the limit. -/
theorem natural?_eq_some_iff {limit n : Nat} {text : String} :
    natural? limit text = some n ↔ IsNumber text n ∧ n ≤ limit := by
  have hread (ds : List Char) :
      (if isNumeral ds && decide (number ds ≤ limit) then some (number ds) else none) = some n ↔
        IsDecimal ds n ∧ n ≤ limit := by
    rw [isDecimal_iff]
    grind
  simp only [natural?]
  split
  · next ds htext => rw [hread, isNumber_of_sign htext]
  · next htext => rw [hread, isNumber_of_no_sign htext]

/-- A text stands for one number at most. -/
theorem IsNumber.unique {text : String} {m n : Nat} (hm : IsNumber text m) (hn : IsNumber text n) :
    m = n := by
  -- the reader finds one number only, under a limit that lets both pass
  have hread := natural?_eq_some_iff.2 ⟨hm, Nat.le_max_left m n⟩
  rw [natural?_eq_some_iff.2 ⟨hn, Nat.le_max_right m n⟩] at hread
  exact (Option.some.inj hread).symm

end Credentials.Text
