import Mathlib.Tactic.Common

/-!
# Words and the bytes they are stored as

A device register wider than a byte is a run of bytes in little-endian order.  `littleEndian`
puts a word together, `byteAt` takes one of its bytes out, and `bytesOf` lists the first few.
`bigEndian` puts together a number of a file format in network order.
-/

namespace Bytes

/-- The word of the first `n` bytes, the least significant first. -/
def littleEndian (byte : ℕ → BitVec 8) : ℕ → BitVec 32
  | 0 => 0
  | n + 1 => littleEndian byte n ||| (byte n).setWidth 32 <<< (8 * n)

/-- Byte `k` of a word. -/
def byteAt (x : BitVec 32) (k : ℕ) : BitVec 8 := (x >>> (8 * k)).setWidth 8

/-- The low bytes of a word, the least significant first. -/
def bytesOf (x : BitVec 32) (n : ℕ) : List (BitVec 8) := (List.range n).map (byteAt x)

@[simp] lemma bytesOf_length (x : BitVec 32) (n : ℕ) : (bytesOf x n).length = n := by
  simp [bytesOf]

lemma getLsbD_littleEndian (byte : ℕ → BitVec 8) {n : ℕ} (hn : n ≤ 4) (i : ℕ) :
    (littleEndian byte n).getLsbD i = (decide (i < 8 * n) && (byte (i / 8)).getLsbD (i % 8)) := by
  induction n with
  | zero => simp [littleEndian]
  | succ n ih =>
      rw [littleEndian, BitVec.getLsbD_or, ih (by omega), BitVec.getLsbD_shiftLeft,
        BitVec.getLsbD_setWidth]
      by_cases hlow : i < 8 * n
      · have hi : i < 8 * (n + 1) := by omega
        simp [hlow, hi]
      · by_cases hi : i < 8 * (n + 1)
        · have hdiv : i / 8 = n := by omega
          have hmod : i % 8 = i - 8 * n := by omega
          have hlt : i - 8 * n < 32 := by omega
          have hword : i < 32 := by omega
          simp [hlow, hi, hdiv, hmod, hlt, hword]
        · have hbig : 8 ≤ i - 8 * n := by omega
          simp [hlow, hi, BitVec.getLsbD_of_ge _ _ hbig]

lemma littleEndian_congr {n : ℕ} {f g : ℕ → BitVec 8} (h : ∀ j < n, f j = g j) :
    littleEndian f n = littleEndian g n := by
  induction n with
  | zero => rfl
  | succ n ih =>
      rw [littleEndian, littleEndian, ih fun j hj => h j (Nat.lt_succ_of_lt hj), h n n.lt_succ_self]

/-- A word put together from bytes gives them back. -/
lemma byteAt_littleEndian (byte : ℕ → BitVec 8) {n k : ℕ} (hn : n ≤ 4) (hk : k < n) :
    byteAt (littleEndian byte n) k = byte k := by
  apply BitVec.eq_of_getLsbD_eq
  intro i hi
  have hlt : 8 * k + i < 8 * n := by omega
  have hdiv : (8 * k + i) / 8 = k := by omega
  have hmod : (8 * k + i) % 8 = i := by omega
  rw [byteAt, BitVec.getLsbD_setWidth, BitVec.getLsbD_ushiftRight, getLsbD_littleEndian byte hn,
    hdiv, hmod]
  simp [hi, hlt]

lemma bytesOf_littleEndian (byte : ℕ → BitVec 8) {n : ℕ} (hn : n ≤ 4) :
    bytesOf (littleEndian byte n) n = (List.range n).map byte := by
  unfold bytesOf
  refine List.map_congr_left fun k hk => ?_
  exact byteAt_littleEndian byte hn (List.mem_range.mp hk)

lemma getLsbD_byteAt (x : BitVec 32) (k i : ℕ) :
    (byteAt x k).getLsbD i = (decide (i < 8) && x.getLsbD (8 * k + i)) := by
  rw [byteAt, BitVec.getLsbD_setWidth, BitVec.getLsbD_ushiftRight]

/-- A word is put together from its bytes. -/
lemma littleEndian_byteAt (x : BitVec 32) : littleEndian (byteAt x) 4 = x := by
  apply BitVec.eq_of_getLsbD_eq
  intro i hi
  have hsplit : 8 * (i / 8) + i % 8 = i := by omega
  have hmod : i % 8 < 8 := by omega
  rw [getLsbD_littleEndian _ (Nat.le_refl 4), getLsbD_byteAt, hsplit]
  simp [hi, hmod]

lemma byteAt_and (x y : BitVec 32) (k : ℕ) : byteAt (x &&& y) k = byteAt x k &&& byteAt y k := by
  rw [byteAt, BitVec.ushiftRight_and_distrib, BitVec.setWidth_and]
  rfl

lemma byteAt_or (x y : BitVec 32) (k : ℕ) : byteAt (x ||| y) k = byteAt x k ||| byteAt y k := by
  rw [byteAt, BitVec.ushiftRight_or_distrib, BitVec.setWidth_or]
  rfl

/-- Words with the same bytes are equal. -/
lemma eq_of_byteAt {x y : BitVec 32} (h : ∀ k < 4, byteAt x k = byteAt y k) : x = y := by
  rw [← littleEndian_byteAt x, ← littleEndian_byteAt y]
  exact littleEndian_congr h

/-- The number of the first `n` bytes, the most significant first. -/
def bigEndian (w : ℕ) (byte : ℕ → BitVec 8) : ℕ → BitVec w
  | 0 => 0
  | n + 1 => bigEndian w byte n <<< 8 ||| (byte n).setWidth w

lemma bigEndian_congr {w n : ℕ} {f g : ℕ → BitVec 8} (h : ∀ j < n, f j = g j) :
    bigEndian w f n = bigEndian w g n := by
  induction n with
  | zero => rfl
  | succ n ih =>
      rw [bigEndian, bigEndian, ih fun j hj => h j (Nat.lt_succ_of_lt hj), h n n.lt_succ_self]

end Bytes
