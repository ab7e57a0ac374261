/-!
# Decimal digits

Numbers are written in decimal with no sign, no blank and no leading zero,
unless a width asks for zeros on the left. Reading a list of digits back is
`number`, and `number_digits` says that it undoes the writing.
-/

namespace Credentials.Text

/-- `n` in the fewest decimal digits. -/
def digits (n : Nat) : List Char := Nat.toDigits 10 n

/-- `n` in decimal, with zeros on the left up to `width` places. A longer
number keeps all its digits. -/
def padded (width n : Nat) : List Char := (digits n).leftpad width '0'

/-- An integer in the fewest decimal digits, behind a minus sign if it is
negative. -/
def signedDigits : Int → List Char
  | .ofNat n => digits n
  | .negSucc n => '-' :: digits (n + 1)

/-- The number that a list of decimal digits stands for. -/
def number (ds : List Char) : Nat := Nat.ofDigitChars 10 ds 0

/-- Whether a list of characters is one or more decimal digits. -/
def isNumeral (ds : List Char) : Bool := !ds.isEmpty && ds.all Char.isDigit

/-- Reads a number from `0` to `limit`: an optional plus sign, then one or more
decimal digits and nothing else. Leading zeros are allowed. -/
def natural? (limit : Nat) (text : String) : Option Nat :=
  let ds := match text.toList with
    | '+' :: rest => rest
    | cs => cs
  if isNumeral ds && number ds ≤ limit then some (number ds) else none

@[simp] theorem number_digits (n : Nat) : number (digits n) = n :=
  Nat.ofDigitChars_ten_toDigits

theorem isDigit_of_mem_digits {n : Nat} {c : Char} (h : c ∈ digits n) : c.isDigit :=
  Nat.isDigit_of_mem_toDigits (by decide) (by decide) h

end Credentials.Text
