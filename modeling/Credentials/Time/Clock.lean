import Credentials.Time.Instant

/-!
# Clocks

A clock counts the time since the epoch, so one that stands before the epoch
shows nothing. Whoever needs the time of such a clock has to give up.
-/

namespace Credentials

/-- A clock, by the instant that it shows when somebody looks. -/
structure Clock where
  shown : Option Instant
deriving DecidableEq

namespace Clock

/-- The clock that shows an instant. -/
def showing (t : Instant) : Clock := ⟨some t⟩

/-- A clock that stands at an instant. -/
def standingAt (t : Instant) : Clock := if Instant.epoch ≤ t then showing t else ⟨none⟩

@[simp] theorem shown_showing (t : Instant) : (showing t).shown = some t := rfl

end Clock

end Credentials
