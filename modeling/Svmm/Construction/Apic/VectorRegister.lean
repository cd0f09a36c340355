import Svmm.Construction.State
import Svmm.Framework.Scan

/-!
# The 256-bit registers of the local APIC

`InterruptServiceRegister`, `TriggerModeRegister` and `InterruptRequestRegister` each hold
one bit for each of the 256 vectors, in sixteen words of sixteen bits: vector `v` is bit
`v & 0xf` of word `v >> 4`, and the word index is the vector's priority class.  The two
search loops of `apic.c` are here with what they find: `highestVector` is the numerically
greatest vector of a register.
-/

namespace Svmm

/-- `Vector >> 4`. -/
def vectorClass (v : BitVec 8) : Fin 16 := ⟨v.toNat / 16, by omega⟩

/-- `Vector & 0xf`. -/
def vectorBit (v : BitVec 8) : ℕ := v.toNat % 16

/-- `Register[Vector >> 4] & (1UL << (Vector & 0xf))`. -/
def hasVector (r : VectorRegister) (v : BitVec 8) : Bool :=
  Word.has (r (vectorClass v)) (vectorBit v)

/-- `Register[Vector >> 4] |= 1UL << (Vector & 0xf)`. -/
def setVector (r : VectorRegister) (v : BitVec 8) : VectorRegister :=
  Function.update r (vectorClass v) (Word.set (r (vectorClass v)) (vectorBit v))

/-- `Register[Vector >> 4] &= ~(1UL << (Vector & 0xf))`. -/
def clearVector (r : VectorRegister) (v : BitVec 8) : VectorRegister :=
  Function.update r (vectorClass v) (Word.clear (r (vectorClass v)) (vectorBit v))

/-- `ApicHighestVectorBit`. -/
def apicHighestVectorBit (register : BitVec 16) : ℕ := Scan.lastUpTo (Word.has register) 15

/-- `ApicHighestPriority`. -/
def apicHighestPriority (interruptRegister : VectorRegister) : ℕ :=
  Scan.lastUpTo (fun i => interruptRegister (Fin.ofNat 16 i) &&& 0xffff#16 != 0#16) 15

/-- The vector `ApicReceiveEOI` and `ApicAcknowledgeInterrupt` compute from a register:
`ApicHighestVectorBit(Register[Prio]) + Prio * 16` with `Prio = ApicHighestPriority`. -/
def highestVector (r : VectorRegister) : BitVec 8 :=
  BitVec.ofNat 8
    (apicHighestVectorBit (r (Fin.ofNat 16 (apicHighestPriority r))) + apicHighestPriority r * 16)

/-! ## Vectors as class and bit -/

lemma vectorBit_lt (v : BitVec 8) : vectorBit v < 16 := Nat.mod_lt _ (by omega)

lemma toNat_eq_class_bit (v : BitVec 8) : v.toNat = vectorClass v * 16 + vectorBit v := by
  simp only [vectorClass, vectorBit]
  omega

lemma eq_of_class_bit {v w : BitVec 8} (hc : vectorClass v = vectorClass w)
    (hb : vectorBit v = vectorBit w) : v = w := by
  apply BitVec.eq_of_toNat_eq
  rw [toNat_eq_class_bit v, toNat_eq_class_bit w, hc, hb]

/-- The vector of class `c` with bit `b`. -/
def vectorOf (c : Fin 16) (b : ℕ) : BitVec 8 := BitVec.ofNat 8 (c * 16 + b)

lemma toNat_vectorOf (c : Fin 16) {b : ℕ} (hb : b < 16) :
    (vectorOf c b).toNat = c * 16 + b := by
  simp only [vectorOf, BitVec.toNat_ofNat]
  omega

lemma vectorClass_vectorOf (c : Fin 16) {b : ℕ} (hb : b < 16) :
    vectorClass (vectorOf c b) = c := by
  apply Fin.ext
  simp only [vectorClass, toNat_vectorOf c hb]
  omega

lemma vectorBit_vectorOf (c : Fin 16) {b : ℕ} (hb : b < 16) :
    vectorBit (vectorOf c b) = b := by
  simp only [vectorBit, toNat_vectorOf c hb]
  omega

/-- Every set bit of a word is a vector of the register. -/
lemma hasVector_vectorOf {r : VectorRegister} {c : Fin 16} {b : ℕ}
    (h : Word.has (r c) b = true) : hasVector r (vectorOf c b) = true := by
  have hb : b < 16 := Word.lt_of_has h
  rw [hasVector, vectorClass_vectorOf c hb, vectorBit_vectorOf c hb]
  exact h

/-! ## Setting and clearing a vector -/

@[simp] lemma hasVector_setVector (r : VectorRegister) (v w : BitVec 8) :
    hasVector (setVector r v) w = (hasVector r w || decide (v = w)) := by
  simp only [hasVector, setVector, Function.update_apply]
  by_cases hc : vectorClass w = vectorClass v
  · rw [if_pos hc, Word.has_set]
    by_cases hb : vectorBit v = vectorBit w
    · obtain rfl : v = w := eq_of_class_bit hc.symm hb
      simp [vectorBit_lt]
    · have hne : v ≠ w := fun h => hb (by rw [h])
      simp [hb, hne, hc]
  · have hne : v ≠ w := fun h => hc (by rw [h])
    rw [if_neg hc]
    simp [hne]

@[simp] lemma hasVector_clearVector (r : VectorRegister) (v w : BitVec 8) :
    hasVector (clearVector r v) w = (hasVector r w && !decide (v = w)) := by
  simp only [hasVector, clearVector, Function.update_apply]
  by_cases hc : vectorClass w = vectorClass v
  · rw [if_pos hc, Word.has_clear]
    by_cases hb : vectorBit v = vectorBit w
    · obtain rfl : v = w := eq_of_class_bit hc.symm hb
      simp
    · have hne : v ≠ w := fun h => hb (by rw [h])
      simp [hb, hne, hc]
  · have hne : v ≠ w := fun h => hc (by rw [h])
    rw [if_neg hc]
    simp [hne]

@[simp] lemma hasVector_zero (v : BitVec 8) : hasVector (fun _ => 0#16) v = false := by
  simp [hasVector]

/-! ## What the search loops find -/

lemma classNonzero_iff {r : VectorRegister} {i : ℕ} :
    (r (Fin.ofNat 16 i) &&& 0xffff#16 != 0#16) = true ↔
      ∃ b, Word.has (r (Fin.ofNat 16 i)) b = true := by
  have hmask : r (Fin.ofNat 16 i) &&& 0xffff#16 = r (Fin.ofNat 16 i) := by
    simpa using BitVec.and_allOnes (x := r (Fin.ofNat 16 i))
  rw [hmask, bne_iff_ne, Word.ne_zero_iff]

lemma apicHighestPriority_le (r : VectorRegister) : apicHighestPriority r ≤ 15 :=
  Scan.lastUpTo_le _ _

lemma ofNat_vectorClass (v : BitVec 8) : Fin.ofNat 16 (vectorClass v : ℕ) = vectorClass v := by
  apply Fin.ext
  simp

/-- No vector of a register has a class above `ApicHighestPriority`. -/
lemma vectorClass_le_apicHighestPriority {r : VectorRegister} {v : BitVec 8}
    (h : hasVector r v = true) : (vectorClass v : ℕ) ≤ apicHighestPriority r := by
  refine Scan.le_lastUpTo ?_ (by omega)
  rw [classNonzero_iff, ofNat_vectorClass]
  exact ⟨vectorBit v, h⟩

lemma toNat_highestVector (r : VectorRegister) :
    (highestVector r).toNat =
      apicHighestPriority r * 16 +
        apicHighestVectorBit (r (Fin.ofNat 16 (apicHighestPriority r))) := by
  have hp := apicHighestPriority_le r
  have hb : apicHighestVectorBit (r (Fin.ofNat 16 (apicHighestPriority r))) ≤ 15 :=
    Scan.lastUpTo_le _ _
  simp only [highestVector, BitVec.toNat_ofNat]
  omega

lemma vectorClass_highestVector (r : VectorRegister) :
    (vectorClass (highestVector r) : ℕ) = apicHighestPriority r := by
  have hb : apicHighestVectorBit (r (Fin.ofNat 16 (apicHighestPriority r))) ≤ 15 :=
    Scan.lastUpTo_le _ _
  simp only [vectorClass, toNat_highestVector]
  omega

lemma hasVector_highestVector_iff (r : VectorRegister) :
    hasVector r (highestVector r) =
      Word.has (r (Fin.ofNat 16 (apicHighestPriority r)))
        (apicHighestVectorBit (r (Fin.ofNat 16 (apicHighestPriority r)))) := by
  have hb : apicHighestVectorBit (r (Fin.ofNat 16 (apicHighestPriority r))) ≤ 15 :=
    Scan.lastUpTo_le _ _
  have hc : vectorClass (highestVector r) = Fin.ofNat 16 (apicHighestPriority r) := by
    rw [← ofNat_vectorClass, vectorClass_highestVector]
  have hbit : vectorBit (highestVector r) =
      apicHighestVectorBit (r (Fin.ofNat 16 (apicHighestPriority r))) := by
    simp only [vectorBit, toNat_highestVector]
    omega
  rw [hasVector, hc, hbit]

/-- A word with a bit has its highest one. -/
lemma hasVector_highestVector_of_class {r : VectorRegister} {b : ℕ}
    (h : Word.has (r (Fin.ofNat 16 (apicHighestPriority r))) b = true) :
    hasVector r (highestVector r) = true := by
  rw [hasVector_highestVector_iff]
  have hb := Word.lt_of_has h
  exact Scan.lastUpTo_spec ⟨b, by omega, h⟩

/-- A register that holds any vector holds its highest one. -/
lemma hasVector_highestVector {r : VectorRegister} {v : BitVec 8} (h : hasVector r v = true) :
    hasVector r (highestVector r) = true := by
  have hnz := Scan.lastUpTo_spec (p := fun i => r (Fin.ofNat 16 i) &&& 0xffff#16 != 0#16)
    (n := 15) ⟨vectorClass v, by omega, by
      rw [classNonzero_iff, ofNat_vectorClass]; exact ⟨vectorBit v, h⟩⟩
  obtain ⟨b, hb⟩ := classNonzero_iff.mp hnz
  exact hasVector_highestVector_of_class hb

/-- A register whose highest class is positive holds a vector of that class. -/
lemma hasVector_highestVector_of_pos {r : VectorRegister} (h : 0 < apicHighestPriority r) :
    hasVector r (highestVector r) = true := by
  obtain ⟨b, hb⟩ := classNonzero_iff.mp (Scan.lastUpTo_of_pos h)
  exact hasVector_highestVector_of_class hb

/-- A register that does not hold its highest vector is empty, and the loops answer 0. -/
lemma highestVector_eq_zero {r : VectorRegister} (h : hasVector r (highestVector r) = false) :
    highestVector r = 0 := by
  have hprio : apicHighestPriority r = 0 := by
    by_contra hne
    rw [hasVector_highestVector_of_pos (Nat.pos_of_ne_zero hne)] at h
    cases h
  have hbit : apicHighestVectorBit (r (Fin.ofNat 16 (apicHighestPriority r))) = 0 := by
    by_contra hne
    rw [hasVector_highestVector_iff] at h
    have hhas := Scan.lastUpTo_of_pos (Nat.pos_of_ne_zero hne)
    rw [apicHighestVectorBit] at h
    rw [hhas] at h
    cases h
  apply BitVec.eq_of_toNat_eq
  rw [toNat_highestVector, hbit, hprio]
  rfl

lemma apicHighestPriority_mono {r r' : VectorRegister}
    (h : ∀ v, hasVector r v = true → hasVector r' v = true) :
    apicHighestPriority r ≤ apicHighestPriority r' := by
  rcases Nat.eq_zero_or_pos (apicHighestPriority r) with h0 | hpos
  · omega
  · rw [← vectorClass_highestVector r]
    exact vectorClass_le_apicHighestPriority (h _ (hasVector_highestVector_of_pos hpos))

/-- Adding a vector raises the highest class to that vector's class at least. -/
lemma apicHighestPriority_setVector (r : VectorRegister) (v : BitVec 8) :
    apicHighestPriority (setVector r v) = max (apicHighestPriority r) (vectorClass v) := by
  apply Nat.le_antisymm
  · rcases Nat.eq_zero_or_pos (apicHighestPriority (setVector r v)) with h0 | hpos
    · omega
    · have hhas := hasVector_highestVector_of_pos hpos
      rw [← vectorClass_highestVector]
      rw [hasVector_setVector, Bool.or_eq_true, decide_eq_true_eq] at hhas
      rcases hhas with hold | hnew
      · exact le_trans (vectorClass_le_apicHighestPriority hold) (le_max_left _ _)
      · rw [← hnew]
        exact le_max_right _ _
  · apply max_le
    · exact apicHighestPriority_mono fun w hw => by simp [hw]
    · exact vectorClass_le_apicHighestPriority (by simp)

end Svmm
