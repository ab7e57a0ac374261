import Credentials.Json.Basic
import Credentials.Text.Utf8
import Credentials.Bytes.Hex

/-!
# Reading JSON

Strict JSON on a text that may be damaged: blanks are space, tab, line feed and
carriage return; numbers have no plus sign and no leading zero; a string holds no
control character. Damage is tolerated only inside a string, which then is
garbled; so is a string with half of a surrogate pair. Nothing may follow the
value but blanks.
-/

namespace Credentials.Json

open Text (Symbol)

/-- The symbols from the first that is not blank. -/
def skipSpace : List Symbol → List Symbol
  | some c :: rest =>
    if c = ' ' ∨ c = '\n' ∨ c = '\t' ∨ c = '\r' then skipSpace rest else some c :: rest
  | s => s

/-- The symbols after `word`, if they start with it. -/
def expect : (word : List Char) → List Symbol → Option (List Symbol)
  | [], s => some s
  | w :: word, some c :: rest => if w = c then expect word rest else none
  | _ :: _, _ => none

/-! ## Strings -/

/-- A part of a string between its quotes. -/
inductive Piece where
  | char (value : Char)
  /-- A sixteen-bit unit given by number. -/
  | unit (value : Nat)
  /-- A gap of the text. -/
  | gap

/-- The character that a backslash and `c` stand for. -/
def unescape? (c : Char) : Option Char :=
  match c with
  | '"' => some '"'
  | '\\' => some '\\'
  | '/' => some '/'
  | 'b' => some '\x08'
  | 'f' => some '\x0C'
  | 'n' => some '\n'
  | 'r' => some '\r'
  | 't' => some '\t'
  | _ => none

/-- The value of a symbol that is a hexadecimal digit. -/
def hexValue? (s : Symbol) : Option Nat := s.bind Bytes.hexValue?

/-- The pieces of a string up to its closing quote, and what follows it. -/
def pieces : List Symbol → Option (List Piece × List Symbol)
  | some '"' :: rest => some ([], rest)
  | some '\\' :: some 'u' :: a :: b :: c :: d :: rest => do
    let n := (((← hexValue? a) * 16 + (← hexValue? b)) * 16 + (← hexValue? c)) * 16
      + (← hexValue? d)
    let (ps, after) ← pieces rest
    return (.unit n :: ps, after)
  | some '\\' :: some e :: rest => do
    let c ← unescape? e
    let (ps, after) ← pieces rest
    return (.char c :: ps, after)
  | some c :: rest =>
    if c = '\\' ∨ c.toNat < 0x20 then none
    else do
      let (ps, after) ← pieces rest
      return (.char c :: ps, after)
  | none :: rest => do
    let (ps, after) ← pieces rest
    return (.gap :: ps, after)
  | [] => none

/-- Whether a sixteen-bit unit is the first half of a surrogate pair. -/
def isHighSurrogate (n : Nat) : Bool := 0xD800 ≤ n && n ≤ 0xDBFF

/-- Whether a sixteen-bit unit is the second half of a surrogate pair. -/
def isLowSurrogate (n : Nat) : Bool := 0xDC00 ≤ n && n ≤ 0xDFFF

/-- The characters of a string, if its units make up whole characters and it
has no gap. -/
def characters? : List Piece → Option (List Char)
  | [] => some []
  | .char c :: rest => (c :: ·) <$> characters? rest
  | .gap :: _ => none
  | .unit n :: .unit m :: rest =>
    if isHighSurrogate n && isLowSurrogate m then
      (Char.ofNat (0x10000 + (n - 0xD800) * 0x400 + (m - 0xDC00)) :: ·) <$> characters? rest
    else if isHighSurrogate n || isLowSurrogate n then none
    else (Char.ofNat n :: ·) <$> characters? (.unit m :: rest)
  | .unit n :: rest =>
    if isHighSurrogate n || isLowSurrogate n then none
    else (Char.ofNat n :: ·) <$> characters? rest

/-- The text that the pieces of a string make up. -/
def spelled? (ps : List Piece) : Option String := (characters? ps).map String.ofList

/-- Whether a string without a text can be read up to its closing quote before
that shows. A gap does not stop its reader, and the first half of a surrogate
pair just before the quote makes the reader look behind it. -/
def isLate : List Piece → Bool
  | [] => true
  | .unit n :: .unit m :: rest =>
    if isHighSurrogate n && isLowSurrogate m then isLate rest
    else !isHighSurrogate n && !isLowSurrogate n && isLate (.unit m :: rest)
  | .unit n :: rest =>
    if isHighSurrogate n then rest.isEmpty else !isLowSurrogate n && isLate rest
  | _ :: rest => isLate rest

/-- The value of a string. -/
def ofPieces (ps : List Piece) : Json :=
  match spelled? ps with
  | some s => .text s
  | none => .garbled (isLate ps)

/-! ## Numbers -/

/-- The decimal digits at the start and what follows them. -/
def spanDigits : List Symbol → List Char × List Symbol
  | some c :: rest =>
    if c.isDigit then
      let (ds, after) := spanDigits rest
      (c :: ds, after)
    else ([], some c :: rest)
  | s => ([], s)

/-- One or more digits. -/
def someDigits (s : List Symbol) : Option (List Char × List Symbol) :=
  match spanDigits s with
  | ([], _) => none
  | found => some found

/-- The digits before the point: a single zero, or digits that start with
another one. -/
def wholePart (s : List Symbol) : Option (List Char × List Symbol) :=
  match s with
  | some '0' :: rest => some (['0'], rest)
  | _ => someDigits s

/-- The digits of a fraction at the start, none if there is no point. -/
def fraction (s : List Symbol) : Option (List Char × List Symbol) :=
  match s with
  | some '.' :: rest => someDigits rest
  | _ => some ([], s)

/-- Whether there is a minus sign at the start, and what follows the sign, which
may also be a plus. -/
def sign (s : List Symbol) : Bool × List Symbol :=
  match s with
  | some '-' :: rest => (true, rest)
  | some '+' :: rest => (false, rest)
  | _ => (false, s)

/-- The exponent at the start, if there is one. -/
def exponent (s : List Symbol) : Option (Option Int × List Symbol) :=
  match s with
  | some 'e' :: rest | some 'E' :: rest =>
    let (negative, unsigned) := sign rest
    (someDigits unsigned).map fun (ds, after) =>
      let n : Int := Text.number ds
      (some (if negative then -n else n), after)
  | _ => some (none, s)

/-- A number. -/
def numeral (s : List Symbol) : Option (Numeral × List Symbol) := do
  let (negative, s) := match s with
    | some '-' :: rest => (true, rest)
    | _ => (false, s)
  let (whole, s) ← wholePart s
  let (fraction, s) ← fraction s
  let (exponent, s) ← exponent s
  return ({ negative, whole, fraction, exponent }, s)

/-! ## Values -/

mutual

/-- A value and what follows it. `fuel` bounds the number of values, members
and items that are entered. -/
def value : (fuel : Nat) → List Symbol → Option (Json × List Symbol)
  | 0, _ => none
  | fuel + 1, s =>
    match skipSpace s with
    | some '\x7b' :: rest =>
      match skipSpace rest with
      | some '\x7d' :: after => some (.object [], after)
      | rest => (members fuel rest).map fun (ms, after) => (.object ms, after)
    | some '[' :: rest =>
      match skipSpace rest with
      | some ']' :: after => some (.array [], after)
      | rest => (items fuel rest).map fun (vs, after) => (.array vs, after)
    | some '"' :: rest => (pieces rest).map fun (ps, after) => (ofPieces ps, after)
    | some 'n' :: rest => (expect ['u', 'l', 'l'] rest).map fun after => (.null, after)
    | some 't' :: rest => (expect ['r', 'u', 'e'] rest).map fun after => (.bool true, after)
    | some 'f' :: rest =>
      (expect ['a', 'l', 's', 'e'] rest).map fun after => (.bool false, after)
    | s => (numeral s).map fun (n, after) => (.number n, after)

/-- The members of an object up to its closing brace. -/
def members : (fuel : Nat) → List Symbol → Option (List (Option String × Json) × List Symbol)
  | 0, _ => none
  | fuel + 1, s => do
    let s ← expect ['"'] (skipSpace s)
    let (ps, s) ← pieces s
    let s ← expect [':'] (skipSpace s)
    let (v, s) ← value fuel s
    match skipSpace s with
    | some '\x7d' :: after => return ([(spelled? ps, v)], after)
    | some ',' :: rest =>
      let (ms, after) ← members fuel rest
      return ((spelled? ps, v) :: ms, after)
    | _ => none

/-- The items of an array up to its closing bracket. -/
def items : (fuel : Nat) → List Symbol → Option (List Json × List Symbol)
  | 0, _ => none
  | fuel + 1, s => do
    let (v, s) ← value fuel s
    match skipSpace s with
    | some ']' :: after => return ([v], after)
    | some ',' :: rest =>
      let (vs, after) ← items fuel rest
      return (v :: vs, after)
    | _ => none

end

/-- Reads symbols as one JSON value. Two steps for each symbol are enough. -/
def ofSymbols? (s : List Symbol) : Option Json := do
  let (v, after) ← value (2 * s.length + 2) s
  if skipSpace after = [] then some v else none

/-- Reads a text as one JSON value. -/
def ofString? (text : String) : Option Json := ofSymbols? (text.toList.map some)

/-- Reads bytes as one JSON value. -/
def ofBytes? (bytes : List UInt8) : Option Json := ofSymbols? (Text.symbols bytes)

end Credentials.Json
