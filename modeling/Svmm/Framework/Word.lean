import Mathlib.Tactic.Common
import Mathlib.Order.Basic
import Mathlib.Algebra.GroupWithZero.Nat

/-!
# Single-bit operations on machine words

C code keeps sets in words: it tests a member with `x & (1 << i)`, adds it with
`x |= 1 << i` and drops it with `x &= ~(1 << i)`.  This file fixes those three idioms on
`BitVec w` and reduces every question about them to `has`, so that a proof over a register
file never sees a mask.  The bit position is a natural number; positions at or above the
width test false and are dropped when set, as they are when C cuts the mask to the word.
-/

namespace Word

-- the instances behind the numerals that index small tables, and behind lists of byte codes
instance neZeroTwo : NeZero (2 : ℕ) := ⟨by decide⟩
instance neZeroThree : NeZero (3 : ℕ) := ⟨by decide⟩
instance neZeroFour : NeZero (4 : ℕ) := ⟨by decide⟩
instance neZeroSeven : NeZero (7 : ℕ) := ⟨by decide⟩
instance lawfulBEq_byte : LawfulBEq (BitVec 8) := inferInstance

variable {w : ℕ}

/-- The mask `1 << i`, cut to `w` bits. -/
def bit (i : ℕ) : BitVec w := 1#w <<< i

/-- The truth value of `x & (1 << i)`. -/
def has (x : BitVec w) (i : ℕ) : Bool := x &&& bit i != 0#w

/-- `x | (1 << i)`. -/
def set (x : BitVec w) (i : ℕ) : BitVec w := x ||| bit i

/-- `x & ~(1 << i)`. -/
def clear (x : BitVec w) (i : ℕ) : BitVec w := x &&& ~~~(bit i)

/-! ## Reading a bit -/

lemma has_eq_getLsbD (x : BitVec w) (i : ℕ) : has x i = x.getLsbD i := by
  unfold has bit
  rw [← BitVec.twoPow_eq, BitVec.and_twoPow]
  by_cases hx : x.getLsbD i = true
  · have hi : i < w := BitVec.lt_of_getLsbD hx
    have hne : BitVec.twoPow w i ≠ 0#w := by
      intro h0
      have := congrArg (fun y : BitVec w => y.getLsbD i) h0
      simp [hi] at this
    simp [hx, hne]
  · simp [hx]

lemma lt_of_has {x : BitVec w} {i : ℕ} (h : has x i = true) : i < w := by
  rw [has_eq_getLsbD] at h
  exact BitVec.lt_of_getLsbD h

@[simp] lemma has_zero (i : ℕ) : has (0#w) i = false := by
  simp [has_eq_getLsbD]

@[simp] lemma has_set (x : BitVec w) (i j : ℕ) :
    has (set x i) j = (has x j || (decide (i = j) && decide (j < w))) := by
  simp only [has_eq_getLsbD, set, bit, ← BitVec.twoPow_eq, BitVec.getLsbD_or,
    BitVec.getLsbD_twoPow]
  by_cases hij : i = j
  · subst hij; simp
  · simp [hij]

@[simp] lemma has_clear (x : BitVec w) (i j : ℕ) :
    has (clear x i) j = (has x j && !decide (i = j)) := by
  simp only [has_eq_getLsbD, clear, bit, ← BitVec.twoPow_eq, BitVec.getLsbD_and,
    BitVec.getLsbD_not, BitVec.getLsbD_twoPow]
  by_cases hj : j < w
  · by_cases hij : i = j
    · subst hij; simp [hj]
    · simp [hj, hij]
  · simp [BitVec.getLsbD_of_ge x j (by omega)]

@[simp] lemma has_and (x y : BitVec w) (i : ℕ) : has (x &&& y) i = (has x i && has y i) := by
  simp [has_eq_getLsbD]

@[simp] lemma has_or (x y : BitVec w) (i : ℕ) : has (x ||| y) i = (has x i || has y i) := by
  simp [has_eq_getLsbD]

@[simp] lemma has_xor (x y : BitVec w) (i : ℕ) : has (x ^^^ y) i = (has x i != has y i) := by
  simp [has_eq_getLsbD]

@[simp] lemma has_setWidth (x : BitVec w) (v i : ℕ) :
    has (x.setWidth v) i = (decide (i < v) && has x i) := by
  simp [has_eq_getLsbD]

@[simp] lemma has_bit (i j : ℕ) :
    has (bit i : BitVec w) j = (decide (i = j) && decide (j < w)) := by
  unfold bit
  rw [has_eq_getLsbD, ← BitVec.twoPow_eq, BitVec.getLsbD_twoPow]
  by_cases hij : i = j
  · subst hij
    simp
  · simp [hij]

@[simp] lemma has_not (x : BitVec w) (i : ℕ) : has (~~~x) i = (decide (i < w) && !has x i) := by
  simp [has_eq_getLsbD]

/-! ## Words as sets of bits -/

/-- Two words with the same bits are equal. -/
lemma ext_has {x y : BitVec w} (h : ∀ i < w, has x i = has y i) : x = y := by
  apply BitVec.eq_of_getLsbD_eq
  intro i hi
  simpa only [has_eq_getLsbD] using h i hi

/-- Masking a word does not see a bit outside the mask. -/
lemma clear_and {x m : BitVec w} {i : ℕ} (h : has m i = false) : clear x i &&& m = x &&& m := by
  refine ext_has fun j _ => ?_
  rw [has_and, has_and, has_clear]
  by_cases hij : i = j
  · subst hij
    simp [h]
  · simp [hij]

/-- Masking a word does not see a bit outside the mask. -/
lemma set_and {x m : BitVec w} {i : ℕ} (h : has m i = false) : set x i &&& m = x &&& m := by
  refine ext_has fun j _ => ?_
  rw [has_and, has_and, has_set]
  by_cases hij : i = j
  · subst hij
    simp [h]
  · simp [hij]

/-- A word is non-zero exactly when it has a bit. -/
lemma ne_zero_iff {x : BitVec w} : x ≠ 0#w ↔ ∃ i, has x i = true := by
  constructor
  · intro hne
    by_contra hnone
    apply hne
    refine ext_has fun i _ => ?_
    rw [has_zero]
    by_contra hi
    exact hnone ⟨i, by simpa using hi⟩
  · rintro ⟨i, hi⟩ rfl
    simp at hi

/-! ## Masks -/

/-- A mask of the low bits takes the remainder. -/
lemma toNat_and_mask {m : BitVec w} {k : ℕ} (hm : m.toNat = 2 ^ k - 1) (x : BitVec w) :
    (x &&& m).toNat = x.toNat % 2 ^ k := by
  rw [BitVec.toNat_and, hm, Nat.and_two_pow_sub_one_eq_mod]

/-- A mask of the low bits keeps a number that has no others. -/
lemma and_mask_of_lt {m x : BitVec w} {k : ℕ} (hm : m.toNat = 2 ^ k - 1) (hx : x.toNat < 2 ^ k) :
    x &&& m = x :=
  BitVec.eq_of_toNat_eq ((toNat_and_mask hm x).trans (Nat.mod_eq_of_lt hx))

/-- A mask within a larger one. -/
lemma or_and_right (m k : BitVec w) : (m ||| k) &&& k = k := by
  refine ext_has fun i _ => ?_
  rw [has_eq_getLsbD, has_eq_getLsbD, BitVec.getLsbD_and, BitVec.getLsbD_or]
  cases m.getLsbD i <;> cases k.getLsbD i <;> rfl

/-- A larger mask keeps the same bits exactly when the word has none of the bits added. -/
lemma and_eq_and_or_iff {x m k : BitVec w} (h : m &&& k = 0#w) :
    x &&& m = x &&& (m ||| k) ↔ x &&& k = 0#w := by
  constructor
  · intro heq
    have hk : (x &&& (m ||| k)) &&& k = x &&& k := by
      rw [BitVec.and_assoc, or_and_right]
    rw [← hk, ← heq, BitVec.and_assoc, h, BitVec.and_zero]
  · intro hk
    rw [BitVec.and_or_distrib_left, hk, BitVec.or_zero]

/-- A field that is moved down, masked and moved back. -/
lemma shiftLeft_and_ushiftRight (x m : BitVec w) (n : ℕ) :
    ((x >>> n) &&& m) <<< n = x &&& (m <<< n) := by
  refine ext_has fun i hi => ?_
  simp only [has_eq_getLsbD, BitVec.getLsbD_shiftLeft, BitVec.getLsbD_and,
    BitVec.getLsbD_ushiftRight]
  by_cases hn : i < n
  · simp [hn]
  · simp [hn, hi, Nat.add_sub_of_le (Nat.le_of_not_lt hn)]

/-- A bit of a word on its own. -/
lemma and_bit (x : BitVec w) (i : ℕ) : x &&& bit i = if has x i then bit i else 0#w := by
  unfold bit
  rw [← BitVec.twoPow_eq, BitVec.and_twoPow, has_eq_getLsbD]

/-- A value that is widened and cut again. -/
lemma setWidth_setWidth_eq {v : ℕ} (h : w ≤ v) (x : BitVec w) : (x.setWidth v).setWidth w = x := by
  rw [BitVec.setWidth_setWidth_of_le x h, BitVec.setWidth_eq]

/-- A flag that is moved down to bit 0. -/
lemma flag_eq_zero_iff {v : ℕ} {x : BitVec w} {n : ℕ} (hv : 0 < v) (hw : 0 < w) :
    ((x >>> n) &&& 1#w).setWidth v = 0#v ↔ has x n = false := by
  have hbit : ∀ i, has (((x >>> n) &&& 1#w).setWidth v) i =
      (decide (i < v) && (x.getLsbD (n + i) && (decide (0 < w) && decide (0 = i)))) := by
    intro i
    rw [has_setWidth, has_eq_getLsbD, BitVec.getLsbD_and, BitVec.getLsbD_ushiftRight,
      show (1#w) = BitVec.twoPow w 0 from (BitVec.twoPow_zero).symm, BitVec.getLsbD_twoPow]
  constructor
  · intro h
    have hzero := hbit 0
    rw [h, has_zero] at hzero
    rw [has_eq_getLsbD]
    simpa [hv, hw] using hzero
  · intro h
    refine ext_has fun i _ => ?_
    rw [hbit, has_zero]
    by_cases hi : 0 = i
    · subst hi
      rw [Nat.add_zero, ← has_eq_getLsbD, h]
      simp
    · simp [hi]

end Word
