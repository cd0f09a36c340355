import Svmm.Properties.IoApic.Effects

/-!
# Redirection entries of level pins

How the two stores the I/O APIC makes to a redirection entry, the one after a bus call and the
one at an EOI, change what the entry says: its trigger mode, its vector, and whether it waits
for an EOI.
-/

namespace Svmm

namespace IoRedirectEntry

variable (e : IoRedirectEntry)

lemma has_vector (i : ℕ) : Word.has e.vector i = (Word.has e.low i && decide (i < 8)) := by
  have hmask : (0xff : BitVec 32).getLsbD i = decide (i < 8) := by
    have h := Nat.testBit_two_pow_sub_one 8 i
    exact h
  simp only [vector, Word.has_eq_getLsbD, BitVec.getLsbD_setWidth, BitVec.getLsbD_and, hmask]
  cases decide (i < 8) <;> simp

/-- Bits 8 and above of the low half are not part of the vector. -/
lemma vector_congr {e e' : IoRedirectEntry} (h : ∀ i < 8, Word.has e'.low i = Word.has e.low i) :
    e'.vector = e.vector := by
  refine Word.ext_has fun i hi => ?_
  rw [has_vector, has_vector, h i hi]

/-- The trigger mode the bus is given is non-zero for a level pin. -/
lemma triggerMode_ne_zero_iff : e.triggerMode ≠ 0 ↔ e.levelSensitive = true := by
  have hbit : ∀ i, Word.has e.triggerMode i =
      (Word.has e.low i && decide (ioApicLevelSensitive = i)) := by
    intro i
    have h := Word.has_set (0#32) ioApicLevelSensitive i
    simp only [Word.set, BitVec.zero_or, Word.has_zero, Bool.false_or] at h
    simp only [triggerMode, Word.has_and, h]
    by_cases hi : ioApicLevelSensitive = i
    · have hlt : i < 32 := by rw [← hi]; decide
      simp [hi, hlt]
    · simp [hi]
  have hne : e.triggerMode ≠ 0 ↔ ∃ i, Word.has e.triggerMode i = true := Word.ne_zero_iff
  rw [hne]
  constructor
  · rintro ⟨i, hi⟩
    rw [hbit, Bool.and_eq_true, decide_eq_true_eq] at hi
    obtain ⟨hi, rfl⟩ := hi
    exact hi
  · intro h
    refine ⟨ioApicLevelSensitive, ?_⟩
    rw [hbit, Bool.and_eq_true, decide_eq_true_eq]
    exact ⟨h, rfl⟩

/-- A level pin that waits for an EOI. -/
def waits : Bool := e.levelSensitive && e.remoteIrr

/-- The I/O APIC compares the low byte of the entry with the vector of the EOI. -/
lemma low_eq_iff (v : BitVec 8) : e.low &&& 0xff = v.setWidth 32 ↔ e.vector = v := by
  have hlt : (e.low &&& 0xff).toNat < 256 := by
    rw [BitVec.toNat_and]
    exact lt_of_le_of_lt Nat.and_le_right (by decide)
  constructor
  · intro h
    rw [vector, h]
    simp
  · intro h
    rw [← h, vector]
    apply BitVec.eq_of_toNat_eq
    simp only [BitVec.toNat_setWidth]
    omega

section Eoi

variable (v : BitVec 8)

lemma receiveEndOfInterrupt_eq :
    e.receiveEndOfInterrupt v =
      if e.levelSensitive = true ∧ e.vector = v then
        { e with low := Word.clear e.low ioApicIrr }
      else e := by
  unfold receiveEndOfInterrupt
  by_cases h : e.levelSensitive = true ∧ e.vector = v
  · have hlow := (e.low_eq_iff v).mpr h.2
    rw [if_pos h, if_pos]
    rw [h.1, Bool.true_and, decide_eq_true_eq]
    exact hlow
  · rw [if_neg h, if_neg]
    rw [Bool.and_eq_true, decide_eq_true_eq]
    exact fun h' => h ⟨h'.1, (e.low_eq_iff v).mp h'.2⟩

lemma levelSensitive_receiveEndOfInterrupt :
    (e.receiveEndOfInterrupt v).levelSensitive = e.levelSensitive := by
  rw [receiveEndOfInterrupt_eq]
  split_ifs
  · simp [levelSensitive, ioApicIrr, ioApicLevelSensitive]
  · rfl

lemma vector_receiveEndOfInterrupt : (e.receiveEndOfInterrupt v).vector = e.vector := by
  rw [receiveEndOfInterrupt_eq]
  split_ifs
  · refine vector_congr fun i hi => ?_
    have hne : ioApicIrr ≠ i := by
      have : ioApicIrr = 14 := rfl
      omega
    simp [hne]
  · rfl

/-- The EOI broadcast ends the wait of the level pins of its vector. -/
lemma remoteIrr_receiveEndOfInterrupt :
    (e.receiveEndOfInterrupt v).remoteIrr =
      (e.remoteIrr && !decide (e.levelSensitive = true ∧ e.vector = v)) := by
  rw [receiveEndOfInterrupt_eq]
  split_ifs with h
  · simp [remoteIrr, h]
  · simp [h]

lemma waits_receiveEndOfInterrupt :
    (e.receiveEndOfInterrupt v).waits = (e.waits && !decide (e.vector = v)) := by
  rw [waits, waits, levelSensitive_receiveEndOfInterrupt, remoteIrr_receiveEndOfInterrupt]
  cases e.levelSensitive <;> simp

end Eoi

end IoRedirectEntry

section AfterBus

variable (a : IoApic) (pin : Fin 24) (status : ℕ)

lemma levelSensitive_afterBus :
    ((a.afterBus pin status).ioRedirectTable pin).levelSensitive =
      (a.ioRedirectTable pin).levelSensitive := by
  unfold IoApic.afterBus IoApic.setEntry IoRedirectEntry.levelSensitive
  dsimp only
  split_ifs <;>
    simp [ioApicLevelSensitive, ioApicIrr, ioApicDeliveryStatus]

lemma vector_afterBus :
    ((a.afterBus pin status).ioRedirectTable pin).vector = (a.ioRedirectTable pin).vector := by
  have hirr : ioApicIrr = 14 := rfl
  have hstatus : ioApicDeliveryStatus = 12 := rfl
  refine IoRedirectEntry.vector_congr fun i hi => ?_
  have h14 : ioApicIrr ≠ i := by omega
  have h12 : ioApicDeliveryStatus ≠ i := by omega
  unfold IoApic.afterBus IoApic.setEntry
  dsimp only
  split_ifs <;> simp [h14, h12]

/-- A success status starts the wait of a level pin. -/
lemma waits_afterBus :
    ((a.afterBus pin status).ioRedirectTable pin).waits =
      ((a.ioRedirectTable pin).waits ||
        (a.ioRedirectTable pin).levelSensitive && decide (status = 0)) := by
  unfold IoRedirectEntry.waits
  rw [levelSensitive_afterBus]
  cases hlevel : (a.ioRedirectTable pin).levelSensitive with
  | false => rfl
  | true =>
      unfold IoApic.afterBus IoApic.setEntry IoRedirectEntry.remoteIrr
      by_cases hstatus : status = 0
      · simp [hstatus, hlevel, ioApicIrr, ioApicDeliveryStatus]
      · simp [hstatus, ioApicIrr, ioApicDeliveryStatus]

end AfterBus

end Svmm
