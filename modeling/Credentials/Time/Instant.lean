import Credentials.Time.Duration

/-!
# Instants

A point in time is a number of nanoseconds since the start of 1970 in
universal time, without leap seconds, from the start of the year -262143 to the
end of the year 262142. Arithmetic that leaves this range has no result. A moment
of a leap second is no instant.
-/

namespace Credentials

/-- The first instant of the year -262143. -/
def Instant.earliest : Int := -8334601228800000000000

/-- The last instant of the year 262142. -/
def Instant.latest : Int := 8210266876799999999999

/-- A point in time. -/
structure Instant where
  nanos : Int
  earliest_le : Instant.earliest ≤ nanos
  le_latest : nanos ≤ Instant.latest
deriving DecidableEq

namespace Instant

theorem ext {a b : Instant} (h : a.nanos = b.nanos) : a = b := by
  cases a
  cases b
  simpa using h

/-- The instant of that many nanoseconds since the epoch, if there is one. -/
def ofNanos? (n : Int) : Option Instant :=
  if h : earliest ≤ n ∧ n ≤ latest then some ⟨n, h.1, h.2⟩ else none

/-- The start of 1970. -/
def epoch : Instant := ⟨0, by decide, by decide⟩

/-- The instant of that many whole seconds since the epoch, if there is one. -/
def ofSeconds? (n : Int) : Option Instant := ofNanos? (n * 1000000000)

/-- The whole seconds since the epoch, rounded towards the past. -/
def seconds (t : Instant) : Int := t.nanos / 1000000000

/-- The nanoseconds since the last whole second. -/
def subsecond (t : Instant) : Nat := (t.nanos % 1000000000).toNat

/-- The last whole second up to an instant. -/
def floor (t : Instant) : Instant where
  nanos := t.seconds * 1000000000
  earliest_le := by
    have := t.earliest_le
    simp only [earliest, seconds] at *
    omega
  le_latest := by
    have := t.le_latest
    simp only [latest, seconds] at *
    omega

/-- The instant that is `n` nanoseconds later, or earlier if `n` is negative. -/
def shift? (t : Instant) (n : Int) : Option Instant := ofNanos? (t.nanos + n)

/-- The instant that is `d` later. -/
def after? (t : Instant) (d : Duration) : Option Instant := t.shift? d.nanos

instance : LE Instant := ⟨fun a b => a.nanos ≤ b.nanos⟩

instance : LT Instant := ⟨fun a b => a.nanos < b.nanos⟩

instance (a b : Instant) : Decidable (a ≤ b) := inferInstanceAs (Decidable (a.nanos ≤ b.nanos))

instance (a b : Instant) : Decidable (a < b) := inferInstanceAs (Decidable (a.nanos < b.nanos))

theorem le_def {a b : Instant} : a ≤ b ↔ a.nanos ≤ b.nanos := Iff.rfl

theorem lt_def {a b : Instant} : a < b ↔ a.nanos < b.nanos := Iff.rfl

theorem ofNanos?_eq_some_iff {n : Int} {t : Instant} : ofNanos? n = some t ↔ t.nanos = n := by
  unfold ofNanos?
  split
  · next h =>
    simp only [Option.some.injEq]
    constructor
    · rintro rfl
      rfl
    · intro hn
      exact Instant.ext hn.symm
  · next h =>
    constructor
    · intro hn
      cases hn
    · rintro rfl
      exact absurd ⟨t.earliest_le, t.le_latest⟩ h

theorem ofSeconds?_seconds (t : Instant) : ofSeconds? t.seconds = some t.floor :=
  ofNanos?_eq_some_iff.2 rfl

end Instant

end Credentials
