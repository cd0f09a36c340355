import Svmm.Properties.HardDisk.Effects

/-!
# The address registers

In LBA mode the registers hold the logical address up to a width: 48 bits after an EXT command,
32 after the others, whose head register has a whole byte.  Stepping the address and reading it
back is addition modulo that width.
-/

namespace Svmm

/-! ## Registers and addresses -/

/-- The number of addresses that the registers tell apart. -/
def AtaController.addressSpan (c : AtaController) : ℕ :=
  if c.lba48 ≠ 0 then 2 ^ 48 else 2 ^ 32

lemma getLsbD_shifted {w : ℕ} (x : BitVec 64) {lo : ℕ} (hlo : lo + w ≤ 64) (i : ℕ) :
    (((x >>> lo).setWidth w).setWidth 64 <<< lo).getLsbD i =
      (decide (lo ≤ i) && decide (i < lo + w) && x.getLsbD i) := by
  simp only [BitVec.getLsbD_shiftLeft, BitVec.getLsbD_setWidth, BitVec.getLsbD_ushiftRight]
  by_cases hge : lo ≤ i
  · have hback : lo + (i - lo) = i := by omega
    by_cases hlt : i < lo + w
    · have h1 : i < 64 := by omega
      have h2 : i - lo < 64 := by omega
      have h3 : i - lo < w := by omega
      have h4 : ¬ i < lo := by omega
      simp [hge, hlt, hback, h1, h2, h3, h4]
    · have h3 : ¬ i - lo < w := by omega
      simp [hlt, h3]
  · have h4 : i < lo := by omega
    simp [hge, h4]

lemma getLsbD_kept {w : ℕ} (x : BitVec 64) (hw : w ≤ 64) (i : ℕ) :
    ((x.setWidth w).setWidth 64).getLsbD i = (decide (i < w) && x.getLsbD i) := by
  rw [BitVec.getLsbD_setWidth, BitVec.getLsbD_setWidth]
  by_cases hi : i < w
  · have h1 : i < 64 := by omega
    simp [hi, h1]
  · simp [hi]

/-- An address written to the registers is read back, cut to their width. -/
lemma logicalAddress_setLba (d : AtaDrive) (x : BitVec 64) (hmode : d.controller.addressMode ≠ 0) :
    ({ d with controller := d.controller.setLba x } : AtaDrive).logicalAddress =
      if d.controller.lba48 ≠ 0 then (x.setWidth 48).setWidth 64
      else (x.setWidth 32).setWidth 64 := by
  by_cases hlba : d.controller.lba48 ≠ 0
  · rw [if_pos hlba]
    apply BitVec.eq_of_getLsbD_eq
    intro i hi
    simp only [AtaDrive.logicalAddress, AtaController.setLba, if_pos hlba, if_pos hmode,
      BitVec.getLsbD_or]
    rw [getLsbD_shifted x (by decide), getLsbD_shifted x (by decide),
      getLsbD_shifted x (by decide), getLsbD_shifted x (by decide), getLsbD_kept x (by decide),
      getLsbD_kept x (by decide)]
    cases x.getLsbD i with
    | false => simp
    | true =>
        simp only [Bool.and_true, ← Bool.decide_and, ← Bool.decide_or, decide_eq_decide]
        omega
  · rw [if_neg hlba]
    apply BitVec.eq_of_getLsbD_eq
    intro i hi
    simp only [AtaDrive.logicalAddress, AtaController.setLba, if_neg hlba, if_pos hmode,
      BitVec.getLsbD_or]
    rw [getLsbD_shifted x (by decide), getLsbD_shifted x (by decide), getLsbD_kept x (by decide),
      getLsbD_kept x (by decide)]
    cases x.getLsbD i with
    | false => simp
    | true =>
        simp only [Bool.and_true, ← Bool.decide_and, ← Bool.decide_or, decide_eq_decide]
        omega

lemma toNat_logicalAddress_setLba (d : AtaDrive) (x : BitVec 64)
    (hmode : d.controller.addressMode ≠ 0) :
    ({ d with controller := d.controller.setLba x } : AtaDrive).logicalAddress.toNat =
      x.toNat % d.controller.addressSpan := by
  rw [logicalAddress_setLba d x hmode, AtaController.addressSpan]
  split
  · rw [BitVec.toNat_setWidth, BitVec.toNat_setWidth]
    omega
  · rw [BitVec.toNat_setWidth, BitVec.toNat_setWidth]
    omega

lemma toNat_placed_lt {w : ℕ} (a : BitVec w) {k n : ℕ} (h : w + k ≤ n) :
    (a.setWidth 64 <<< k).toNat < 2 ^ n := by
  have ha : (a.setWidth 64).toNat < 2 ^ w := by
    rw [BitVec.toNat_setWidth]
    exact lt_of_le_of_lt (Nat.mod_le _ _) a.isLt
  rw [BitVec.toNat_shiftLeft, Nat.shiftLeft_eq]
  calc (a.setWidth 64).toNat * 2 ^ k % 2 ^ 64
      ≤ (a.setWidth 64).toNat * 2 ^ k := Nat.mod_le _ _
    _ < 2 ^ w * 2 ^ k := Nat.mul_lt_mul_of_pos_right ha (Nat.two_pow_pos k)
    _ = 2 ^ (w + k) := (Nat.pow_add 2 w k).symm
    _ ≤ 2 ^ n := Nat.pow_le_pow_right (by decide) h

lemma toNat_or_lt {x y : BitVec 64} {n : ℕ} (hx : x.toNat < 2 ^ n) (hy : y.toNat < 2 ^ n) :
    (x ||| y).toNat < 2 ^ n := by
  rw [BitVec.toNat_or]
  exact Nat.or_lt_two_pow hx hy

/-- The registers never hold an address that they cannot tell apart. -/
lemma logicalAddress_lt_span (d : AtaDrive) (hmode : d.controller.addressMode ≠ 0) :
    d.logicalAddress.toNat < d.controller.addressSpan := by
  have hsector (n : ℕ) (hn : 8 ≤ n) : (d.controller.sectorNumber.setWidth 64).toNat < 2 ^ n := by
    simpa using toNat_placed_lt d.controller.sectorNumber (k := 0) (by simpa using hn)
  unfold AtaDrive.logicalAddress AtaController.addressSpan
  simp only [if_pos hmode]
  split
  · refine toNat_or_lt (toNat_or_lt (toNat_or_lt (toNat_or_lt ?_ ?_) ?_) ?_)
      (hsector 48 (by decide))
    · exact toNat_placed_lt _ (by decide)
    · exact toNat_placed_lt _ (by decide)
    · exact toNat_placed_lt _ (by decide)
    · exact toNat_placed_lt _ (by decide)
  · refine toNat_or_lt (toNat_or_lt ?_ ?_) (hsector 32 (by decide))
    · exact toNat_placed_lt _ (by decide)
    · exact toNat_placed_lt _ (by decide)

/-! ## Addresses on the disk -/

/-- An address within the disk is the one calculated. -/
lemma calculateLogicalAddress_of_lt {d : AtaDrive} {size : BitVec 64}
    (h : d.logicalAddress.toNat < size.toNat / 512) :
    d.calculateLogicalAddress size = d.logicalAddress := by
  have hlt : ¬ size / 512 ≤ d.logicalAddress := by
    rw [BitVec.le_def, BitVec.toNat_udiv]
    simpa using h
  rw [AtaDrive.calculateLogicalAddress, if_neg hlt]

/-- The byte offset of a sector of the disk does not overflow. -/
lemma toNat_sector_offset {x size : BitVec 64} (h : x.toNat < size.toNat / 512) :
    (x * 512).toNat = x.toNat * 512 := by
  have hsize := size.isLt
  rw [BitVec.toNat_mul]
  have hbound : x.toNat * 512 < 2 ^ 64 := by omega
  exact Nat.mod_eq_of_lt hbound

lemma ne_neg_one_of_lt {x size : BitVec 64} (h : x.toNat < size.toNat / 512) : x ≠ -1 := by
  rintro rfl
  have hsize := size.isLt
  have hones : ((-1 : BitVec 64)).toNat = 2 ^ 64 - 1 := by decide
  rw [hones] at h
  omega

end Svmm
