import Credentials.Text.Digits

/-!
# Numbers as written

A number of a JSON document by its digits. It can be read in two ways: as a
whole number, which it is only without a point and without an exponent, and as
a float of sixty-four bits, which may be too small to hold it. `integer?_ofInt`
says that a whole number reads back from its digits.
-/

namespace Credentials.Json

/-- A number as it is written. -/
structure Numeral where
  negative : Bool := false
  /-- The digits before the point. -/
  whole : List Char
  /-- The digits behind the point; without a point there are none. -/
  fraction : List Char := []
  /-- The power of ten behind an `e`. -/
  exponent : Option Int := none
deriving DecidableEq

namespace Numeral

/-! ## Whole numbers -/

/-- A whole number as it is written. -/
def ofInt (n : Int) : Numeral := { negative := n < 0, whole := Text.digits n.natAbs }

/-- The value of a whole number. Zero has no sign. -/
def integer? (n : Numeral) : Option Int :=
  if n.fraction.isEmpty && n.exponent.isNone then
    match n.negative, Text.number n.whole with
    | false, m => some m
    | true, 0 => none
    | true, m + 1 => some (Int.negSucc m)
  else none

@[simp] theorem integer?_ofInt (n : Int) : (ofInt n).integer? = some n := by
  cases n with
  | ofNat n =>
    have h : decide ((n : Int) < 0) = false := by simp
    simp [integer?, ofInt, h]
  | negSucc n =>
    simp [integer?, ofInt, Int.negSucc_lt_zero]

/-! ## Floats

The first digits make up a whole number of sixty-four bits; those that do not
fit any more count as zeros. It and a power of ten are each rounded to a float
before they are multiplied. -/

/-- The largest number of sixty-four bits. -/
def largest : Nat := 18446744073709551615

/-- Puts digits behind the number `n` as long as sixty-four bits hold it. The
digits from the first that does not fit are left. -/
def extend : (n : Nat) → List Char → Nat × List Char
  | n, [] => (n, [])
  | n, d :: ds =>
    let m := 10 * n + (d.toNat - '0'.toNat)
    if m ≤ largest then extend m ds else (n, d :: ds)

/-- The number that the first digits make up. -/
def significand (n : Numeral) : Nat := (extend (extend 0 n.whole).1 n.fraction).1

/-- The power of ten by which the significand is to be multiplied. -/
def scale (n : Numeral) : Int :=
  let (m, dropped) := extend 0 n.whole
  let (_, unread) := extend m n.fraction
  dropped.length - (n.fraction.length - unread.length) + n.exponent.getD 0

/-- A number rounded to fifty-three binary digits with zeros behind them. Of two
that are equally near it is the one whose last digit is even. -/
def rounded (n : Nat) : Nat :=
  let unit := Nat.pow 2 (n.log2 - 52)
  let q := n / unit
  let twice := 2 * (n % unit)
  if unit < twice ∨ unit = twice ∧ q % 2 = 1 then (q + 1) * unit else q * unit

/-- The middle between the largest float and the next power of two, from which
on a number is rounded beyond all floats. -/
def floatLimit : Nat := Nat.pow 2 1024 - Nat.pow 2 970

/-- Whether a number is too large for a float. No power of ten from the 309th on
is a float. -/
def isTooLarge (n : Numeral) : Bool :=
  n.significand ≠ 0
    && (308 < n.scale
      || 0 ≤ n.scale
        && floatLimit ≤ rounded n.significand * rounded (Nat.pow 10 n.scale.toNat))

end Numeral

end Credentials.Json
