import Credentials.Text.Digits

/-!
# Durations

A length of time that is never negative, in whole nanoseconds.
-/

namespace Credentials

/-- A length of time in nanoseconds. -/
structure Duration where
  nanos : Nat
deriving DecidableEq

namespace Duration

/-- A length of time in seconds. -/
def ofSeconds (n : Nat) : Duration := ⟨n * 1000000000⟩

/-- A length of time in milliseconds. -/
def ofMillis (n : Nat) : Duration := ⟨n * 1000000⟩

/-- The whole seconds of a length of time. -/
def seconds (d : Duration) : Nat := d.nanos / 1000000000

/-- The nanoseconds beyond the whole seconds. -/
def subsecond (d : Duration) : Nat := d.nanos % 1000000000

/-- The whole milliseconds of a length of time. -/
def millis (d : Duration) : Nat := d.nanos / 1000000

instance : LE Duration := ⟨fun a b => a.nanos ≤ b.nanos⟩

instance : LT Duration := ⟨fun a b => a.nanos < b.nanos⟩

instance (a b : Duration) : Decidable (a ≤ b) := inferInstanceAs (Decidable (a.nanos ≤ b.nanos))

instance (a b : Duration) : Decidable (a < b) := inferInstanceAs (Decidable (a.nanos < b.nanos))

/-- `n` counted in units of ten to the power `places`, with the part below one unit behind
a point and no zeros at its end. -/
def inUnits (places n : Nat) : List Char :=
  let unit := Nat.pow 10 places
  let part := ((Text.padded places (n % unit)).reverse.dropWhile (· = '0')).reverse
  Text.digits (n / unit) ++ (if n % unit = 0 then [] else '.' :: part)

/-- A length of time in the largest unit that it fills at least once: seconds,
milliseconds, microseconds or nanoseconds. -/
def text (d : Duration) : String :=
  if 1000000000 ≤ d.nanos then String.ofList (inUnits 9 d.nanos) ++ "s"
  else if 1000000 ≤ d.nanos then String.ofList (inUnits 6 d.nanos) ++ "ms"
  else if 1000 ≤ d.nanos then String.ofList (inUnits 3 d.nanos) ++ "µs"
  else String.ofList (inUnits 0 d.nanos) ++ "ns"

theorem lt_def {a b : Duration} : a < b ↔ a.nanos < b.nanos := Iff.rfl

end Duration

end Credentials
