import Credentials.Json.Basic

/-!
# How far a value is taken in

A reader that takes in a value with all that is in it may come upon a part that
it has to refuse: a string that is no text, a number too large for a float, or
lists and objects nested too deep. Whoever can do without the value still needs
what follows it, and that is lost unless the reader has come to the end of the
value by then.
-/

namespace Credentials.Json

/-- How far a reader that takes in a value has come with it. -/
inductive Uptake where
  /-- The value is taken in. -/
  | whole
  /-- The value is refused at its end. -/
  | refused
  /-- The value is refused before its end, and what follows it is lost. -/
  | stuck
deriving DecidableEq

/-- The largest exponent that is read to its end. -/
def Numeral.largestExponent : Int := 2147483647

/-- A number that is too large is refused at its end, unless its exponent is too
large before the last of its digits. -/
def Numeral.uptake (n : Numeral) : Uptake :=
  if !n.isTooLarge then .whole
  else if largestExponent < n.exponent.getD 0 / 10 then .stuck
  else .refused

/-- The number of lists and objects that may be open at a time. -/
def nestingLimit : Nat := 127

mutual

/-- How far a value is taken in if `room` lists and objects of it may be open at
a time. -/
def uptake : (room : Nat) → Json → Uptake
  | _, .null | _, .bool _ | _, .text _ => .whole
  | _, .number n => n.uptake
  | _, .garbled late => if late then .refused else .stuck
  | 0, .array _ | 0, .object _ => .stuck
  | room + 1, .array items => itemsUptake room items
  | room + 1, .object members => membersUptake room members

/-- How far the items of a list are taken in. One that is refused at its end has
to be the last. -/
def itemsUptake : (room : Nat) → List Json → Uptake
  | _, [] => .whole
  | room, v :: rest =>
    match uptake room v, rest.isEmpty with
    | .whole, _ => itemsUptake room rest
    | .refused, true => .refused
    | _, _ => .stuck

/-- How far the members of an object are taken in. A name that is no text is
refused before its value. -/
def membersUptake : (room : Nat) → List (Option String × Json) → Uptake
  | _, [] => .whole
  | _, (none, _) :: _ => .stuck
  | room, (some _, v) :: rest =>
    match uptake room v, rest.isEmpty with
    | .whole, _ => membersUptake room rest
    | .refused, true => .refused
    | _, _ => .stuck

end

/-- Whether what follows a field can be read after its value was taken in. -/
def isPassed (v : Json) : Bool := v.uptake (nestingLimit - 1) ≠ .stuck

/-- Whether what follows a field can be read by someone who wants a number
there. Lists and objects are not entered then, so there must be nothing in
them. -/
def isPassedAsNumber : Json → Bool
  | .array items => items.isEmpty
  | .object members => members.isEmpty
  | v => v.isPassed

end Credentials.Json
