/-!
# UTF-8

`utf8` writes a text as bytes. `symbols` reads any bytes at all: what is well
formed comes out as characters, and every maximal ill-formed part comes out as
one gap, so that a reader can still tell where the damage lies. `symbols_utf8`
says that what was written reads back, and `repaired_utf8` that there is then
nothing to repair.
-/

namespace Credentials.Text

/-- One position of a text that may be damaged: a character, or a gap where the
bytes were no character. -/
abbrev Symbol := Option Char

/-- The UTF-8 bytes of a text. -/
def utf8 (text : String) : List UInt8 := text.toList.flatMap String.utf8EncodeChar

/-- Whether `b` lies from `lo` to `hi`. -/
private def within (lo hi b : UInt8) : Bool := lo ≤ b && b ≤ hi

/-- The range of the byte that may follow the lead byte `b` and the number of
bytes that follow it in all, if `b` opens a character of several bytes. The
ranges leave out overlong forms, surrogates and numbers above U+10FFFF. -/
def followers (b : UInt8) : Option (UInt8 × UInt8 × Nat) :=
  if within 0xC2 0xDF b then some (0x80, 0xBF, 1)
  else if b = 0xE0 then some (0xA0, 0xBF, 2)
  else if b = 0xED then some (0x80, 0x9F, 2)
  else if within 0xE1 0xEF b then some (0x80, 0xBF, 2)
  else if b = 0xF0 then some (0x90, 0xBF, 3)
  else if within 0xF1 0xF3 b then some (0x80, 0xBF, 3)
  else if b = 0xF4 then some (0x80, 0x8F, 3)
  else none

/-- How many bytes after the lead byte `b` belong to the same ill-formed part:
those that could still have been completed to a character. -/
def damaged (b : UInt8) (rest : List UInt8) : Nat :=
  match followers b, rest with
  | some (lo, hi, count), c :: more =>
    if within lo hi c then 1 + ((more.take (count - 1)).takeWhile (within 0x80 0xBF)).length
    else 0
  | _, _ => 0

/-- The character that the bytes `b :: rest` start with, if they start with
one. No character takes more than four bytes. -/
def leadingChar? (b : UInt8) (rest : List UInt8) : Option Char :=
  (ByteArray.mk (b :: rest.take 3).toArray).utf8DecodeChar? 0

/-- `symbols`, after `skip` more bytes of the symbol before. -/
def symbolsAfter : (skip : Nat) → List UInt8 → List Symbol
  | _, [] => []
  | skip + 1, _ :: rest => symbolsAfter skip rest
  | 0, b :: rest =>
    match leadingChar? b rest with
    | some c => some c :: symbolsAfter (c.utf8Size - 1) rest
    | none => none :: symbolsAfter (damaged b rest) rest

/-- Reads bytes as UTF-8, with one gap for each maximal ill-formed part. -/
def symbols (bytes : List UInt8) : List Symbol := symbolsAfter 0 bytes

/-- Text in which every gap is shown as U+FFFD, the replacement character. -/
def repaired (bytes : List UInt8) : String :=
  String.ofList ((symbols bytes).map (·.getD '\uFFFD'))

/-- The bytes of a text are those that it is stored as. -/
theorem toByteArray_utf8 (text : String) : (utf8 text).toByteArray = text.toByteArray := by
  rw [← String.utf8Encode_toList, List.utf8Encode, utf8]

theorem symbolsAfter_length_append (skipped rest : List UInt8) :
    symbolsAfter skipped.length (skipped ++ rest) = symbolsAfter 0 rest := by
  induction skipped with
  | nil => rfl
  | cons b skipped ih => simpa [symbolsAfter] using ih

theorem leadingChar?_encode {c : Char} {b : UInt8} {tail rest : List UInt8}
    (h : String.utf8EncodeChar c = b :: tail) : leadingChar? b (tail ++ rest) = some c := by
  have hlen : tail.length ≤ 3 := by
    have := c.utf8Size_le_four
    have := String.length_utf8EncodeChar c
    simp only [h, List.length_cons] at this
    omega
  have hbytes : ByteArray.mk (b :: (tail ++ rest).take 3).toArray
      = (String.utf8EncodeChar c).toByteArray ++ (rest.take (3 - tail.length)).toByteArray := by
    rw [h]
    ext1
    simp [List.take_append, List.take_of_length_le hlen]
  rw [leadingChar?, hbytes, ByteArray.utf8DecodeChar?_utf8EncodeChar_append]

theorem symbolsAfter_encode (c : Char) (rest : List UInt8) :
    symbolsAfter 0 (String.utf8EncodeChar c ++ rest) = some c :: symbolsAfter 0 rest := by
  have hlen := String.length_utf8EncodeChar c
  cases h : String.utf8EncodeChar c with
  | nil =>
    have := c.utf8Size_pos
    simp [h] at hlen
    omega
  | cons b tail =>
    have htail : c.utf8Size - 1 = tail.length := by
      simp only [h, List.length_cons] at hlen
      omega
    simp [symbolsAfter, leadingChar?_encode h, htail, symbolsAfter_length_append]

/-- A text written in UTF-8 reads back without a gap. -/
theorem symbols_utf8 (text : String) : symbols (utf8 text) = text.toList.map some := by
  unfold symbols utf8
  induction text.toList with
  | nil => rfl
  | cons c rest ih => simp [symbolsAfter_encode, ih]

/-- A text written in UTF-8 is shown as it was. -/
theorem repaired_utf8 (text : String) : repaired (utf8 text) = text := by
  rw [repaired, symbols_utf8, List.map_map]
  simp [Function.comp_def]

end Credentials.Text
