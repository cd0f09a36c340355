import Mathlib.Tactic.Common
import Mathlib.Order.Basic

/-!
# SSE2 integer intrinsics

The intrinsics on `__m128i` that C code uses for a widening multiplication, on 128-bit vectors
with lane 0 in the low bits.  `mul_epu32` multiplies the low halves of the 64-bit lanes: what
is in their high halves takes no part.
-/

namespace Sse

/-- `_mm_set_epi64x`. -/
def setEpi64x (e1 e0 : BitVec 64) : BitVec 128 := e1 ++ e0

/-- `_mm_set1_epi32`. -/
def set1Epi32 (a : BitVec 32) : BitVec 128 := a ++ a ++ a ++ a

/-- The product of the low halves of two 64-bit lanes. -/
def mulLow32 (x y : BitVec 64) : BitVec 64 :=
  (x.setWidth 32).setWidth 64 * (y.setWidth 32).setWidth 64

/-- `_mm_mul_epu32`. -/
def mulEpu32 (a b : BitVec 128) : BitVec 128 :=
  mulLow32 (a.extractLsb' 64 64) (b.extractLsb' 64 64) ++
    mulLow32 (a.extractLsb' 0 64) (b.extractLsb' 0 64)

/-- `_mm_cvtsi128_si64`. -/
def cvtsi128Si64 (a : BitVec 128) : BitVec 64 := a.extractLsb' 0 64

/-- `_mm_extract_epi32`. -/
def extractEpi32 (a : BitVec 128) (lane : ℕ) : BitVec 32 := a.extractLsb' (32 * lane) 32

lemma extractLsb'_append_low {v w : ℕ} (x : BitVec v) (y : BitVec w) :
    (x ++ y).extractLsb' 0 w = y := by
  apply BitVec.eq_of_getLsbD_eq
  intro i hi
  simp [BitVec.getLsbD_append, hi]

/-- The product of two numbers set into the lanes as C code sets them. -/
lemma cvtsi128Si64_mulEpu32 (a : BitVec 64) (b : BitVec 32) :
    cvtsi128Si64 (mulEpu32 (setEpi64x 0 a) (set1Epi32 b)) =
      (a.setWidth 32).setWidth 64 * b.setWidth 64 := by
  have hb : ((set1Epi32 b).extractLsb' 0 64).setWidth 32 = b := by
    calc ((set1Epi32 b).extractLsb' 0 64).setWidth 32
        = (set1Epi32 b).extractLsb' 0 32 := by
          apply BitVec.eq_of_getLsbD_eq
          intro i hi
          simp [hi, show i < 64 by omega]
      _ = b := extractLsb'_append_low (b ++ b ++ b) b
  unfold cvtsi128Si64 mulEpu32 setEpi64x
  rw [extractLsb'_append_low, extractLsb'_append_low]
  unfold mulLow32
  rw [hb]

/-- The low halves of a 64-bit lane are its two 32-bit lanes. -/
lemma shift_extractEpi32_or (p : BitVec 128) :
    (extractEpi32 p 1).setWidth 64 <<< 32 ||| cvtsi128Si64 p = cvtsi128Si64 p := by
  apply BitVec.eq_of_getLsbD_eq
  intro i hi
  by_cases hlow : i < 32
  · simp [extractEpi32, cvtsi128Si64, hi, hlow]
  · simp [extractEpi32, cvtsi128Si64, hi, hlow, show i - 32 < 32 by omega,
      show 32 + (i - 32) = i by omega]

end Sse
