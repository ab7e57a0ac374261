import Credentials.Time.Rfc3339
import Mathlib.Algebra.Group.Nat.Defs
import Mathlib.Data.List.TakeWhile

/-!
# Timestamps read back

Every timestamp is read back from its text, before the epoch as after it, in
years of any number of digits and in leap seconds. The reader takes the text from
the left: each of its parts takes in what the part of the printer that answers to
it has written, and leaves what follows.
-/

namespace Credentials

/-! ## Zeros at either end -/

namespace Text

theorem length_padded {width n : Nat} (hwidth : 0 < width) (h : n < 10 ^ width) :
    (padded width n).length = width := by
  have hle : (digits n).length ≤ width := (Nat.length_toDigits_le_iff (by decide) hwidth).2 h
  rw [padded, List.length_leftpad, Nat.max_eq_left hle]

theorem isDigit_of_mem_padded {width n : Nat} {c : Char} (h : c ∈ padded width n) : c.isDigit := by
  rw [padded, List.leftpad, List.mem_append] at h
  rcases h with hzero | hdigit
  · rw [List.eq_of_mem_replicate hzero]
    decide
  · exact isDigit_of_mem_digits hdigit

/-- Each zero at the end counts ten times. -/
theorem number_append_zeros (ds : List Char) (k : Nat) :
    number (ds ++ List.replicate k '0') = number ds * 10 ^ k := by
  induction k with
  | zero => simp
  | succ k ih =>
    rw [List.replicate_succ', ← List.append_assoc, number, Nat.ofDigitChars_append, ← number, ih,
      Nat.pow_succ, ← Nat.mul_assoc, Nat.mul_comm _ 10]
    simp [Nat.ofDigitChars_cons]

/-- Zeros on the left do not count. -/
@[simp] theorem number_padded (width n : Nat) : number (padded width n) = n := by
  have hzeros : number (List.replicate (width - (digits n).length) '0') = 0 := by
    have h := number_append_zeros [] (width - (digits n).length)
    rwa [List.nil_append, show number [] = 0 from rfl, Nat.zero_mul] at h
  rw [padded, List.leftpad, number, Nat.ofDigitChars_append, ← number, hzeros]
  exact number_digits n

end Text

namespace Timestamp

open Text (digits padded number skipBlanks)

/-! ## Numbers -/

theorem padded_head (width n : Nat) : ∃ d ds, padded width n = d :: ds ∧ d.isDigit := by
  cases hds : padded width n with
  | nil =>
    rw [padded, List.leftpad, List.append_eq_nil_iff] at hds
    exact absurd hds.2 Nat.toDigits_ne_nil
  | cons d ds =>
    have hd : d ∈ padded width n := hds ▸ List.mem_cons_self
    exact ⟨d, ds, rfl, Text.isDigit_of_mem_padded hd⟩

theorem padded_ne_nil (width n : Nat) : padded width n ≠ [] := by
  obtain ⟨d, ds, hds, -⟩ := padded_head width n
  simp [hds]

theorem skipBlanks_padded (width n : Nat) (rest : List Char) :
    skipBlanks (padded width n ++ rest) = padded width n ++ rest := by
  obtain ⟨d, ds, hds, hd⟩ := padded_head width n
  rw [hds, List.cons_append, Text.skipBlanks_cons (Text.isBlank_eq_false_of_isDigit hd)]

/-- The digits of a number end with the first character that is none. -/
theorem takeWhile_padded (width n : Nat) {c : Char} (hc : c.isDigit = false) (rest : List Char) :
    (padded width n ++ c :: rest).takeWhile Char.isDigit = padded width n := by
  rw [List.takeWhile_append_of_pos fun d hd => Text.isDigit_of_mem_padded hd]
  simp [hc]

/-- A number in as many digits as the reader takes at most, whatever follows them. -/
theorem numeral?_padded {width n : Nat} (hwidth : 0 < width) (h : n < 10 ^ width)
    (rest : List Char) : numeral? width (padded width n ++ rest) = some (n, rest) := by
  have htake : (padded width n ++ rest).take width = padded width n :=
    List.take_left' (Text.length_padded hwidth h)
  have hall : (padded width n).takeWhile Char.isDigit = padded width n :=
    List.takeWhile_eq_self_iff.2 fun c hc => Text.isDigit_of_mem_padded hc
  rw [numeral?, skipBlanks_padded, htake, hall, if_neg (padded_ne_nil width n),
    Text.number_padded, List.drop_left' rfl]

/-- A number in any number of digits. -/
theorem longNumeral?_padded (width n : Nat) {c : Char} (hc : c.isDigit = false)
    (rest : List Char) : longNumeral? (padded width n ++ c :: rest) = some (n, c :: rest) := by
  rw [longNumeral?, takeWhile_padded width n hc, if_neg (padded_ne_nil width n),
    Text.number_padded, List.drop_left' rfl]

/-! ## Parts -/

theorem mark?_cons {mark : Char} (h : Text.isBlank mark = false) (rest : List Char) :
    mark? mark (mark :: rest) = some rest := by
  rw [mark?, Text.skipBlanks_cons h]
  exact if_pos rfl

/-- Four digits stand for a year from 0 to 9999, and a sign with any digits for any other. -/
theorem year?_printYear (y : Int) (rest : List Char) :
    year? (printYear y ++ '-' :: rest) = some (y, '-' :: rest) := by
  rw [printYear]
  split
  · next hy =>
    have hnumeral : numeral? 4 (padded 4 y.toNat ++ '-' :: rest) = some (y.toNat, '-' :: rest) :=
      numeral?_padded (by decide) (by omega) _
    obtain ⟨d, ds, hds, hd⟩ := padded_head 4 y.toNat
    have hplus : d ≠ '+' := by
      rintro rfl
      exact absurd hd (by decide)
    have hminus : d ≠ '-' := by
      rintro rfl
      exact absurd hd (by decide)
    rw [year?, skipBlanks_padded]
    rw [hds, List.cons_append] at hnumeral ⊢
    split
    · next heq => exact absurd (List.cons.inj heq).1 hminus
    · next heq => exact absurd (List.cons.inj heq).1 hplus
    · simp only [hnumeral, Option.map_some, Int.toNat_of_nonneg hy.1]
  · next hy =>
    have hlong := longNumeral?_padded 4 y.natAbs (show '-'.isDigit = false by decide) rest
    by_cases hneg : y < 0
    · rw [if_pos hneg, List.cons_append, year?, Text.skipBlanks_cons (by decide)]
      simp only [hlong, Option.map_some]
      rw [show -(y.natAbs : Int) = y by omega]
    · rw [if_neg hneg, List.cons_append, year?, Text.skipBlanks_cons (by decide)]
      simp only [hlong, Option.map_some]
      rw [show (y.natAbs : Int) = y by omega]

/-- Digits that are missing from nine count as zeros. -/
theorem fraction?_padded {width n : Nat} (hwidth : 0 < width) (hnine : width ≤ 9)
    (h : n < 10 ^ width) {c : Char} (hc : c.isDigit = false) (rest : List Char) :
    fraction? ('.' :: padded width n ++ c :: rest) = some (n * 10 ^ (9 - width), c :: rest) := by
  have hlength := Text.length_padded hwidth h
  have htake : (padded width n).take 9 = padded width n :=
    List.take_of_length_le (by omega)
  rw [List.cons_append, fraction?]
  simp only [takeWhile_padded width n hc, if_neg (padded_ne_nil width n), htake, List.rightpad,
    hlength, Text.number_append_zeros, Text.number_padded, List.drop_left' hlength]

/-- A fraction is exact in the digits that it is written in. -/
theorem fraction?_printFraction {nanos : Nat} (h : nanos < 1000000000) (rest : List Char) :
    fraction? (printFraction nanos ++ 'Z' :: rest) = some (nanos, 'Z' :: rest) := by
  have hz : 'Z'.isDigit = false := by decide
  rw [printFraction]
  split
  · next hzero =>
    subst hzero
    rfl
  split
  · next hmillis =>
    rw [fraction?_padded (by decide) (by decide) (by omega) hz,
      show nanos / 1000000 * 10 ^ (9 - 3) = nanos by omega]
  split
  · next hmicros =>
    rw [fraction?_padded (by decide) (by decide) (by omega) hz,
      show nanos / 1000 * 10 ^ (9 - 6) = nanos by omega]
  · rw [fraction?_padded (by decide) (by decide) (by omega) hz,
      show nanos * 10 ^ (9 - 9) = nanos by omega]

/-! ## Timestamps -/

/-- A date and a time of day in universal time, each part within its digits. -/
theorem parse?_utc (date : Date) {hour minute second nanos : Nat} (hmonth : date.month < 100)
    (hday : date.day < 100) (hhour : hour < 100) (hminute : minute < 100) (hsecond : second < 100)
    (hnanos : nanos < 1000000000) :
    parse? (printYear date.year ++ '-' :: padded 2 date.month ++ '-' :: padded 2 date.day
        ++ 'T' :: padded 2 hour ++ ':' :: padded 2 minute ++ ':' :: padded 2 second
        ++ printFraction nanos ++ ['Z'])
      = ofLocal? date hour minute second nanos 0 := by
  have htwo {n : Nat} (h : n < 100) (rest : List Char) :
      numeral? 2 (padded 2 n ++ rest) = some (n, rest) := numeral?_padded (by decide) h rest
  have hdash (rest : List Char) : mark? '-' ('-' :: rest) = some rest := mark?_cons (by decide) rest
  have hcolon (rest : List Char) : mark? ':' (':' :: rest) = some rest := mark?_cons (by decide) rest
  have hmiddle (rest : List Char) : separator? ('T' :: rest) = some rest := rfl
  have hzone : offset? ['Z'] = some (0, []) := by decide
  have hend : skipBlanks [] = [] := rfl
  simp only [parse?, List.append_assoc, List.cons_append, year?_printYear, bind, Option.bind_some,
    hdash, htwo hmonth, htwo hday, hmiddle, htwo hhour, hcolon, htwo hminute, htwo hsecond,
    fraction?_printFraction hnanos, hzone, hend, if_true]

/-- A timestamp comes of its date and its time of day in universal time. A moment of a leap second
is told by its second 60, which no other second of a minute is. -/
theorem ofLocal?_ofDay (t : Timestamp) :
    ofLocal? (Date.ofDay (t.instant.seconds / 86400)) ((t.instant.seconds % 86400).toNat / 3600)
      ((t.instant.seconds % 86400).toNat / 60 % 60)
      (if t.isLeap then 60 else (t.instant.seconds % 86400).toNat % 60) t.instant.subsecond 0
      = some t := by
  have hvalid := Date.valid_ofDay (t.instant.seconds / 86400)
  have hinstant : Instant.ofNanos? ((86400 * (Date.ofDay (t.instant.seconds / 86400)).toDay
      + t.instant.seconds % 86400) * 1000000000 + t.instant.subsecond) = some t.instant := by
    rw [Instant.ofNanos?_eq_some_iff, Date.toDay_ofDay, Instant.subsecond, Instant.seconds]
    omega
  have hinDay : 3600 * (((t.instant.seconds % 86400).toNat / 3600 : Nat) : Int)
      + 60 * (((t.instant.seconds % 86400).toNat / 60 % 60 : Nat) : Int)
      + ((min (if t.isLeap then 60 else (t.instant.seconds % 86400).toNat % 60) 59 : Nat) : Int)
      = t.instant.seconds % 86400 := by
    split
    · next hleap =>
      have := t.ends_minute hleap
      omega
    · omega
  have hshift : t.instant.shift? (-0 * 60000000000) = some t.instant :=
    Instant.ofNanos?_eq_some_iff.2 (by omega)
  rw [ofLocal?, if_pos ⟨hvalid, by omega, by omega, by split <;> omega⟩]
  simp only [hinDay, hinstant, bind, Option.bind_some, hshift]
  cases hleap : t.isLeap with
  | true => exact ofLeap?_instant hleap
  | false =>
    have hsecond : (t.instant.seconds % 86400).toNat % 60 ≠ 60 := by omega
    simp [hsecond, ofInstant_instant hleap]

/-- Every timestamp is read back from its text. -/
theorem ofText?_text (t : Timestamp) : ofText? t.text = some t := by
  obtain ⟨-, hmonth, -, hday⟩ := Date.valid_ofDay (t.instant.seconds / 86400)
  have hlength := Date.monthLength_le (Date.ofDay (t.instant.seconds / 86400)).year
    (Date.ofDay (t.instant.seconds / 86400)).month
  have hsub : t.instant.subsecond < 1000000000 := by
    rw [Instant.subsecond]
    omega
  rw [ofText?, text, String.toList_ofList, print]
  rw [parse?_utc _ (by omega) (by omega) (by omega) (by omega) (by split <;> omega) hsub]
  exact ofLocal?_ofDay t

end Timestamp

end Credentials
