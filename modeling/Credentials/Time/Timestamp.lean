import Credentials.Time.Instant

/-!
# Timestamps

Instants know no leap seconds, but the times in documents do: a minute may have
a second 60 after its second 59. A timestamp is an instant, or a moment of such
a second, told apart from the moment one second earlier.
-/

namespace Credentials

/-- A point in time as a document gives it. -/
structure Timestamp where
  /-- The instant, or the one that is a second earlier than a moment of a leap
  second. -/
  instant : Instant
  /-- Whether it lies in a leap second. -/
  isLeap : Bool := false
  /-- A leap second follows the last second of a minute. -/
  ends_minute : isLeap = true → instant.seconds % 60 = 59 := by simp
deriving DecidableEq

namespace Timestamp

/-- An instant as a document gives it. -/
def ofInstant (t : Instant) : Timestamp := { instant := t }

/-- The moment of a leap second that is a second later than an instant, which
has to lie in the last second of its minute. -/
def ofLeap? (t : Instant) : Option Timestamp :=
  if h : t.seconds % 60 = 59 then some { instant := t, isLeap := true, ends_minute := fun _ => h }
  else none

/-- The instant that a document gives, unless it gives a moment of a leap second. -/
def instant? (t : Timestamp) : Option Instant := if t.isLeap then none else some t.instant

theorem ofInstant_instant {t : Timestamp} (h : t.isLeap = false) : ofInstant t.instant = t := by
  cases t
  cases h
  rfl

theorem instant?_eq_some_iff {t : Timestamp} {i : Instant} :
    t.instant? = some i ↔ t = ofInstant i := by
  rw [instant?]
  split
  · next hleap =>
    refine ⟨nofun, ?_⟩
    rintro rfl
    cases hleap
  · next hleap =>
    have ht : ofInstant t.instant = t := ofInstant_instant (Bool.not_eq_true _ ▸ hleap)
    constructor
    · rintro ⟨⟩
      exact ht.symm
    · rintro rfl
      rfl

theorem ofLeap?_instant {t : Timestamp} (h : t.isLeap = true) : ofLeap? t.instant = some t := by
  obtain ⟨t, leap, hm⟩ := t
  cases h
  exact dif_pos (hm rfl)

end Timestamp

end Credentials
