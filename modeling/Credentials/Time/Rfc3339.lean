import Credentials.Text.Blank
import Credentials.Text.Digits
import Credentials.Time.Date
import Credentials.Time.Timestamp

/-!
# Timestamps as text

The notation of RFC 3339. A timestamp is written in universal time with a
closing `Z`, its fraction in 3, 6 or 9 digits, the fewest that are exact, and
its year in four digits, or with a sign and at least four digits outside 0 to
9999.

Reading is more liberal. Numbers may have fewer digits and blanks before them,
the date ends with `T`, `t` or a space, a fraction may have any number of digits
of which nine count, and the offset from universal time is `Z`, `z`, `UTC` in
any case, or a sign with two digits of hours and two of minutes, between which
colons and blanks may stand. Any minute may have a second 60.
-/

namespace Credentials.Timestamp

open Text (digits padded number skipBlanks)

/-! ## Writing -/

/-- A year in four digits, or with a sign if four digits are not enough. -/
def printYear (y : Int) : List Char :=
  if 0 ≤ y ∧ y ≤ 9999 then padded 4 y.toNat
  else (if y < 0 then '-' else '+') :: padded 4 y.natAbs

/-- The nanoseconds beyond a whole second behind a point, in the fewest of 3, 6
or 9 digits, and nothing at all for none. -/
def printFraction (nanos : Nat) : List Char :=
  if nanos = 0 then []
  else if nanos % 1000000 = 0 then '.' :: padded 3 (nanos / 1000000)
  else if nanos % 1000 = 0 then '.' :: padded 6 (nanos / 1000)
  else '.' :: padded 9 nanos

/-- A timestamp as the characters of its text. -/
def print (t : Timestamp) : List Char :=
  let date := Date.ofDay (t.instant.seconds / 86400)
  let second := (t.instant.seconds % 86400).toNat
  printYear date.year ++ '-' :: padded 2 date.month ++ '-' :: padded 2 date.day
    ++ 'T' :: padded 2 (second / 3600) ++ ':' :: padded 2 (second / 60 % 60)
    ++ ':' :: padded 2 (if t.isLeap then 60 else second % 60)
    ++ printFraction t.instant.subsecond ++ ['Z']

/-- A timestamp as text. -/
def text (t : Timestamp) : String := String.ofList (print t)

/-! ## Reading

Each reader takes what it can from the start and returns the rest. -/

/-- One to `most` digits, behind blanks. -/
def numeral? (most : Nat) (cs : List Char) : Option (Nat × List Char) :=
  let cs := skipBlanks cs
  let ds := (cs.take most).takeWhile Char.isDigit
  if ds = [] then none else some (number ds, cs.drop ds.length)

/-- Digits without a bound on their number. -/
def longNumeral? (cs : List Char) : Option (Nat × List Char) :=
  let ds := cs.takeWhile Char.isDigit
  if ds = [] then none else some (number ds, cs.drop ds.length)

/-- A year: up to four digits, or a sign and any number of digits. -/
def year? (cs : List Char) : Option (Int × List Char) :=
  match skipBlanks cs with
  | '-' :: rest => (longNumeral? rest).map fun (n, after) => (-(n : Int), after)
  | '+' :: rest => (longNumeral? rest).map fun (n, after) => ((n : Int), after)
  | rest => (numeral? 4 rest).map fun (n, after) => ((n : Int), after)

/-- What follows the character `mark`, which blanks may precede. -/
def mark? (mark : Char) (cs : List Char) : Option (List Char) :=
  match skipBlanks cs with
  | c :: rest => if c = mark then some rest else none
  | [] => none

/-- What follows the sign between date and time. -/
def separator? : List Char → Option (List Char)
  | 'T' :: rest | 't' :: rest | ' ' :: rest => some rest
  | _ => none

/-- The nanoseconds of a fraction, if there is one. Digits after the ninth do
not count. -/
def fraction? (cs : List Char) : Option (Nat × List Char) :=
  match cs with
  | '.' :: rest =>
    let ds := rest.takeWhile Char.isDigit
    if ds = [] then none
    else some (number ((ds.take 9).rightpad 9 '0'), rest.drop ds.length)
  | _ => some (0, cs)

/-- The value of a digit that is at most `most`. -/
def digit? (most : Nat) (c : Char) : Option Nat :=
  if c.isDigit && c.toNat - '0'.toNat ≤ most then some (c.toNat - '0'.toNat) else none

/-- Two digits of hours and two of minutes, in minutes. -/
def offsetMinutes? (cs : List Char) : Option (Nat × List Char) :=
  match cs with
  | h₁ :: h₂ :: rest =>
    match rest.dropWhile fun c => c == ':' || Text.isBlank c with
    | m₁ :: m₂ :: after => do
      let hours := 10 * (← digit? 9 h₁) + (← digit? 9 h₂)
      let minutes := 10 * (← digit? 5 m₁) + (← digit? 9 m₂)
      if hours < 24 then some (60 * hours + minutes, after) else none
    | _ => none
  | _ => none

/-- The offset from universal time in minutes. The minus sign may be U+2212. -/
def offset? (cs : List Char) : Option (Int × List Char) :=
  match skipBlanks cs with
  | 'Z' :: rest | 'z' :: rest => some (0, rest)
  | '+' :: rest => (offsetMinutes? rest).map fun (n, after) => ((n : Int), after)
  | '-' :: rest | '−' :: rest =>
    (offsetMinutes? rest).map fun (n, after) => (-(n : Int), after)
  | u :: t :: c :: rest =>
    if u.toLower = 'u' ∧ t.toLower = 't' ∧ c.toLower = 'c' then some (0, rest) else none
  | _ => none

/-- The timestamp of a time of day on a date in a place whose clocks are `offset`
minutes ahead of universal time. Both the time there and the instant have to be
in range. -/
def ofLocal? (date : Date) (hour minute second nanos : Nat) (offset : Int) : Option Timestamp :=
  if date.Valid ∧ hour < 24 ∧ minute < 60 ∧ second ≤ 60 then do
    let inDay : Int := 3600 * hour + 60 * minute + min second 59
    let there ← Instant.ofNanos? ((86400 * date.toDay + inDay) * 1000000000 + nanos)
    let here ← there.shift? (-offset * 60000000000)
    if second = 60 then ofLeap? here else some (ofInstant here)
  else none

/-- Reads characters as a timestamp. -/
def parse? (cs : List Char) : Option Timestamp := do
  let (year, cs) ← year? cs
  let cs ← mark? '-' cs
  let (month, cs) ← numeral? 2 cs
  let cs ← mark? '-' cs
  let (day, cs) ← numeral? 2 cs
  let cs ← separator? cs
  let (hour, cs) ← numeral? 2 cs
  let cs ← mark? ':' cs
  let (minute, cs) ← numeral? 2 cs
  let cs ← mark? ':' cs
  let (second, cs) ← numeral? 2 cs
  let (nanos, cs) ← fraction? cs
  let (offset, cs) ← offset? cs
  if skipBlanks cs = [] then ofLocal? ⟨year, month, day⟩ hour minute second nanos offset
  else none

/-- Reads a text as a timestamp. -/
def ofText? (text : String) : Option Timestamp := parse? text.toList

end Credentials.Timestamp
