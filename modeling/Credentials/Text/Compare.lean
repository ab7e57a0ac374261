import Credentials.Text.Utf8

/-!
# Comparing without haste

`sameText` looks at every byte of two texts of one length, so that the work it
does tells nothing about where they differ. `sameText_iff` says that it is
equality all the same.
-/

namespace Credentials.Text

/-- Collects the differing bits of two lists of bytes, position by position. -/
def differing : List UInt8 → List UInt8 → UInt8
  | a :: as, b :: bs => (a ^^^ b) ||| differing as bs
  | _, _ => 0

/-- Whether two texts are the same. The length is no secret; the place of a
difference is. -/
def sameText (a b : String) : Bool :=
  (utf8 a).length == (utf8 b).length && differing (utf8 a) (utf8 b) == 0

theorem differing_eq_zero_iff {as bs : List UInt8} (h : as.length = bs.length) :
    differing as bs = 0 ↔ as = bs := by
  induction as generalizing bs with
  | nil => cases bs <;> simp_all [differing]
  | cons a as ih =>
    cases bs with
    | nil => simp at h
    | cons b bs =>
      have hl : as.length = bs.length := by simpa using h
      have hor : ∀ x y : UInt8, x ||| y = 0 ↔ x = 0 ∧ y = 0 := by
        intro x y
        simp [← UInt8.toBitVec_inj]
      have hxor : ∀ x y : UInt8, x ^^^ y = 0 ↔ x = y := by
        intro x y
        simp [← UInt8.toBitVec_inj]
      simp [differing, hor, hxor, ih hl]

theorem utf8_injective {a b : String} (h : utf8 a = utf8 b) : a = b := by
  apply String.toByteArray_inj.1
  rw [← toByteArray_utf8, ← toByteArray_utf8, h]

theorem utf8_ne_nil_iff {text : String} : utf8 text ≠ [] ↔ text ≠ "" := by
  refine not_congr ⟨fun h => utf8_injective h, ?_⟩
  rintro rfl
  rfl

/-- Comparing without haste is equality. -/
theorem sameText_iff {a b : String} : sameText a b = true ↔ a = b := by
  constructor
  · intro h
    simp only [sameText, Bool.and_eq_true, beq_iff_eq] at h
    exact utf8_injective ((differing_eq_zero_iff h.1).1 h.2)
  · rintro rfl
    simp [sameText, differing_eq_zero_iff]

end Credentials.Text
