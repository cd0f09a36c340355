import Svmm.Construction.Apic.Mmio
import Svmm.Construction.RunLoop
import Svmm.Properties.Apic.Effects

/-!
# Whether the local APIC reads back what is written

Each register is stored in another form than it is written in, and put together again by the read.
Both directions are read here for each register that software programs, against the bits that the
architecture lets it program.
-/

namespace Svmm

/-- The registers that software programs. -/
inductive ProgrammedRegister where
  | taskPriority
  | logicalDestination
  | destinationFormat
  | spuriousVector
  | localVectorTable (entry : Fin 7)
  | interruptCommandHigh
  | timerInitialCount
  | timerDivideConfiguration
  deriving DecidableEq

def ProgrammedRegister.register : ProgrammedRegister → ApicRegister
  | .taskPriority => .taskPriority
  | .logicalDestination => .logicalDestination
  | .destinationFormat => .destinationFormat
  | .spuriousVector => .spuriousVector
  | .localVectorTable entry => .localVectorTable entry
  | .interruptCommandHigh => .interruptCommandHigh
  | .timerInitialCount => .timerInitialCount
  | .timerDivideConfiguration => .timerDivideConfiguration

/-- The bits of a local vector table entry that hardware sets: the delivery status, and for the
two pins the remote request. -/
def lvtReadOnly (entry : Fin 7) : BitVec 32 :=
  if entry = 3 ∨ entry = 4 then 0x5000 else 0x1000

/-- The bits that software may write. -/
def lvtWritable (entry : Fin 7) : BitVec 32 := lvtMask entry &&& ~~~lvtReadOnly entry

/-- What a read should return after `value` was written: the bits that software may write, with the
low four of the spurious vector hardwired to one, and the mask bit set while the local APIC is
disabled by software. -/
def ProgrammedRegister.writtenBits (value : BitVec 32) (l : Lapic) :
    ProgrammedRegister → BitVec 32
  | .taskPriority => value &&& 0xff
  | .logicalDestination => value &&& 0xff000000
  | .destinationFormat => value &&& 0xf0000000
  | .spuriousVector => value &&& 0x3f0 ||| 0xf
  | .localVectorTable entry =>
      if l.softwareEnable = 0 then Word.set (value &&& lvtWritable entry) lapicLvtMasked
      else value &&& lvtWritable entry
  | .interruptCommandHigh => value &&& 0xff000000
  | .timerInitialCount => value
  | .timerDivideConfiguration => value &&& 0xb

/-- A write of a register and a read of it, with nothing in between. -/
def apicReadBack (clock later : BitVec 64) (active after : BitVec 8) (r : ApicRegister)
    (value : BitVec 32) (a : LocalApic) : LocalApicOutcome (Option (BitVec 32)) := do
  let (a, _) ← apicMmioWriteHandler clock active r.address value 4 a
  return (← apicMmioReadHandler later after r.address 4 a).1

/-- The value survives.  The task priority is written as a class of at most 15 and read as the
whole register, the logical destination keeps four of its eight bits, the spurious vector register
shows one of its two flags at a time, the table stores bits that are not software's, a count of zero
is not stored, and the divider is read as a number. -/
def ProgrammedRegister.Kept (value : BitVec 32) (a : LocalApic) : ProgrammedRegister → Prop
  | .taskPriority =>
      value = 0 ∨ 15 < value.toNat ∧ (a.lapic.taskPriority <<< 4) &&& 0xff = value &&& 0xff
  | .logicalDestination => value &&& 0xf0000000 = 0
  | .destinationFormat => True
  | .spuriousVector => ¬ (Word.has value 8 ∧ Word.has value 9)
  | .localVectorTable entry => value &&& lvtReadOnly entry = 0
  | .interruptCommandHigh => True
  | .timerInitialCount => value ≠ 0 ∨ a.timer.timerInitialCountRegister = 0
  | .timerDivideConfiguration => False

/-! ## The addresses -/

lemma apicRegister_address (r : ProgrammedRegister) :
    apicRegister r.register.address = some r.register := by
  cases r with
  | localVectorTable entry =>
      revert entry
      decide
  | _ => rfl

lemma aligned_address (r : ProgrammedRegister) : r.register.address &&& 0xf = 0 := by
  cases r with
  | localVectorTable entry =>
      revert entry
      decide
  | _ => rfl

/-- The two handlers, at the address of a register that software programs. -/
lemma apicReadBack_eq {clock later : BitVec 64} {active after : BitVec 8} {r : ProgrammedRegister}
    {value : BitVec 32} {a b : LocalApic} {calls : List TimerCall}
    (h : apicWriteRegister clock active value a (some r.register) = .ok (b, calls)) :
    apicReadBack clock later active after r.register value a =
      (apicReadRegister later after b (some r.register) >>= fun read => .ok (some read.1)) := by
  have hlength : ¬ ((4 : BitVec 32) ≠ 4 ∨ r.register.address &&& 0xf ≠ 0) :=
    fun hor => hor.elim (fun h => h rfl) fun h => h (aligned_address r)
  unfold apicReadBack apicMmioWriteHandler apicMmioReadHandler
  rw [if_neg hlength, apicRegister_address, h]
  simp only [TransitionRun.ok_bind, if_neg hlength]
  cases apicReadRegister later after b (some r.register) <;> rfl

/-! ## What is shown -/

/-- The divider that a divide configuration stands for. -/
def apicDivider (value : BitVec 32) : BitVec 32 :=
  (apicWriteDivideConfiguration value (ApicTimer.initial 0)).timerDivideConfigurationRegister

/-- What a read returns after `value` was written. -/
def ProgrammedRegister.shown (value : BitVec 32) (a : LocalApic) :
    ProgrammedRegister → BitVec 32
  | .taskPriority =>
      ((if 15 < value.toNat then a.lapic.taskPriority else value &&& 0xff) <<< 4) &&& 0xff
  | .logicalDestination => (((value >>> 24) &&& 0xf) &&& 0xf) <<< 24
  | .destinationFormat => (((value >>> 28) &&& 0xf) &&& 0xf) <<< 28
  | .spuriousVector => apicReadSpuriousInterrupt (apicWriteSpuriousInterrupt value a.shared).lapic
  | .localVectorTable entry =>
      if a.lapic.softwareEnable = 0 then Word.set (value &&& lvtMask entry) lapicLvtMasked
      else value &&& lvtMask entry
  | .interruptCommandHigh => value &&& 0xff000000
  | .timerInitialCount => if value = 0 then a.timer.timerInitialCountRegister else value
  | .timerDivideConfiguration => apicDivider value

lemma taskPriority_apicWriteTaskPriority {value : BitVec 32} {s : State} :
    (apicWriteTaskPriority value s).lapic.taskPriority =
      if 15 < value.toNat then s.lapic.taskPriority else value &&& 0xff := by
  unfold apicWriteTaskPriority
  dsimp only
  split_ifs <;> simp

lemma initialCount_apicWriteInitialCount {clock : BitVec 64} {active : BitVec 8}
    {lvt value : BitVec 32} {t : ApicTimer} :
    (apicWriteInitialCount clock active lvt value t).1.timerInitialCountRegister =
      if value = 0 then t.timerInitialCountRegister else value := by
  unfold apicWriteInitialCount
  dsimp only
  split_ifs <;> rfl

/-- Every read after a write returns what is shown. -/
lemma apicReadBack_eq_shown {clock later : BitVec 64} {active after : BitVec 8}
    {value : BitVec 32} {a : LocalApic} (r : ProgrammedRegister) :
    apicReadBack clock later active after r.register value a = .ok (some (r.shown value a)) := by
  cases r with
  | taskPriority =>
      rw [apicReadBack_eq rfl]
      exact congrArg (fun p : BitVec 32 => Except.ok (some ((p <<< 4) &&& 0xff)))
        taskPriority_apicWriteTaskPriority
  | timerInitialCount =>
      rw [apicReadBack_eq rfl]
      exact congrArg (fun n => Except.ok (some n)) initialCount_apicWriteInitialCount
  | localVectorTable entry =>
      rw [apicReadBack_eq rfl]
      exact congrArg (fun n => Except.ok (some n)) (Function.update_self ..)
  | _ =>
      rw [apicReadBack_eq rfl]
      rfl

/-! ## When it is what was written -/

lemma shown_taskPriority {value : BitVec 32} {a : LocalApic} :
    ProgrammedRegister.taskPriority.shown value a =
        ProgrammedRegister.taskPriority.writtenBits value a.lapic ↔
      ProgrammedRegister.taskPriority.Kept value a := by
  unfold ProgrammedRegister.shown ProgrammedRegister.writtenBits ProgrammedRegister.Kept
  by_cases hlarge : 15 < value.toNat
  · have hne : value ≠ 0 := by
      rintro rfl
      exact absurd hlarge (by decide)
    rw [if_pos hlarge]
    exact ⟨fun h => Or.inr ⟨hlarge, h⟩, fun h => (h.resolve_left hne).2⟩
  · have hclass : ∀ v : BitVec 4, ((v.setWidth 32 &&& 0xff) <<< 4) &&& 0xff =
        v.setWidth 32 &&& (0xff : BitVec 32) ↔ v.setWidth 32 = (0 : BitVec 32) := by decide
    have hvalue : (value.setWidth 4).setWidth 32 = value := by
      refine BitVec.eq_of_toNat_eq ?_
      rw [BitVec.toNat_setWidth, BitVec.toNat_setWidth]
      omega
    have hsmall := hclass (value.setWidth 4)
    rw [hvalue] at hsmall
    rw [if_neg hlarge, hsmall]
    exact ⟨Or.inl, fun h => h.resolve_right fun hboth => hlarge hboth.1⟩

lemma shown_logicalDestination {value : BitVec 32} {a : LocalApic} :
    ProgrammedRegister.logicalDestination.shown value a =
        ProgrammedRegister.logicalDestination.writtenBits value a.lapic ↔
      ProgrammedRegister.logicalDestination.Kept value a := by
  unfold ProgrammedRegister.shown ProgrammedRegister.writtenBits ProgrammedRegister.Kept
  dsimp only
  rw [BitVec.and_assoc, Word.shiftLeft_and_ushiftRight]
  exact Word.and_eq_and_or_iff (m := 0x0f000000) (k := 0xf0000000) (by decide)

lemma shown_destinationFormat {value : BitVec 32} {a : LocalApic} :
    ProgrammedRegister.destinationFormat.shown value a =
      ProgrammedRegister.destinationFormat.writtenBits value a.lapic := by
  unfold ProgrammedRegister.shown ProgrammedRegister.writtenBits
  dsimp only
  rw [BitVec.and_assoc, Word.shiftLeft_and_ushiftRight]
  rfl

/-- The flag of the spurious vector register that is shown. -/
def shownFlags (value : BitVec 32) : BitVec 32 :=
  if Word.has value 8 then Word.bit 8 else if Word.has value 9 then Word.bit 9 else 0

/-- The low byte of the register, as `ApicWriteSpuriousInterrupt` stores it. -/
lemma setWidth_spuriousVector {value : BitVec 32} :
    ((value &&& 0xf0 ||| 0xf).setWidth 8).setWidth 32 = value &&& 0xf0 ||| 0xf := by
  have hlt : (value &&& 0xf0 ||| 0xf).toNat < 2 ^ 8 := by
    rw [BitVec.toNat_or, BitVec.toNat_and]
    refine Nat.or_lt_two_pow (Nat.lt_of_le_of_lt Nat.and_le_right ?_) ?_ <;> decide
  refine BitVec.eq_of_toNat_eq ?_
  rw [BitVec.toNat_setWidth, BitVec.toNat_setWidth]
  omega

lemma shown_spuriousVector_eq {value : BitVec 32} {a : LocalApic} :
    ProgrammedRegister.spuriousVector.shown value a =
      (value &&& 0xf0 ||| 0xf) ||| shownFlags value := by
  have henable : (apicWriteSpuriousInterrupt value a.shared).lapic.softwareEnable = 0 ↔
      Word.has value 8 = false :=
    Word.flag_eq_zero_iff (x := value) (v := 8) (n := 8) (by decide) (by decide)
  have hfocus : (apicWriteSpuriousInterrupt value a.shared).lapic.focusDisable = 0 ↔
      Word.has value 9 = false :=
    Word.flag_eq_zero_iff (x := value) (v := 8) (n := 9) (by decide) (by decide)
  have hvector : (apicWriteSpuriousInterrupt value a.shared).lapic.spuriousVector.setWidth 32 =
      value &&& 0xf0 ||| 0xf := setWidth_spuriousVector
  change apicReadSpuriousInterrupt (apicWriteSpuriousInterrupt value a.shared).lapic = _
  generalize (apicWriteSpuriousInterrupt value a.shared).lapic = l at *
  unfold apicReadSpuriousInterrupt shownFlags
  rw [hvector]
  cases h8 : Word.has value 8 with
  | true =>
      rw [if_pos fun h => absurd (h8.symm.trans (henable.mp h)) (by decide)]
      rfl
  | false =>
      rw [if_neg (not_not_intro (henable.mpr h8))]
      cases h9 : Word.has value 9 with
      | true =>
          rw [if_pos fun h => absurd (h9.symm.trans (hfocus.mp h)) (by decide)]
          rfl
      | false =>
          rw [if_neg (not_not_intro (hfocus.mpr h9))]
          exact (BitVec.or_zero).symm

lemma shown_spuriousVector {value : BitVec 32} {a : LocalApic} :
    ProgrammedRegister.spuriousVector.shown value a =
        ProgrammedRegister.spuriousVector.writtenBits value a.lapic ↔
      ProgrammedRegister.spuriousVector.Kept value a := by
  have hwritten : ProgrammedRegister.spuriousVector.writtenBits value a.lapic =
      (value &&& 0xf0 ||| 0xf) ||| ((value &&& Word.bit 8) ||| (value &&& Word.bit 9)) := by
    have hmask : (0x3f0 : BitVec 32) = 0xf0 ||| (Word.bit 8 ||| Word.bit 9) := by decide
    unfold ProgrammedRegister.writtenBits
    dsimp only
    rw [hmask, BitVec.and_or_distrib_left, BitVec.and_or_distrib_left]
    ac_rfl
  have hhigh : (value &&& 0xf0 ||| 0xf).getLsbD 9 = false := by
    simp
  rw [shown_spuriousVector_eq, hwritten, Word.and_bit, Word.and_bit]
  unfold shownFlags ProgrammedRegister.Kept
  by_cases h8 : Word.has value 8 = true
  · by_cases h9 : Word.has value 9 = true
    · rw [if_pos h8, if_pos h8, if_pos h9]
      refine iff_of_false (fun h => ?_) (fun h => h ⟨h8, h9⟩)
      have hbit := congrArg (fun x => BitVec.getLsbD x 9) h
      rw [BitVec.getLsbD_or, hhigh] at hbit
      revert hbit
      simp only [BitVec.getLsbD_or, hhigh]
      decide
    · rw [if_pos h8, if_pos h8, if_neg h9, BitVec.or_zero]
      exact iff_of_true rfl fun hboth => h9 hboth.2
  · rw [if_neg h8, if_neg h8, BitVec.zero_or]
    exact iff_of_true rfl fun hboth => h8 hboth.1

lemma lvtMask_split (entry : Fin 7) :
    lvtMask entry = lvtWritable entry ||| lvtReadOnly entry ∧
      lvtWritable entry &&& lvtReadOnly entry = 0#32 ∧
      Word.has (lvtReadOnly entry) lapicLvtMasked = false := by
  revert entry
  decide

lemma shown_localVectorTable {entry : Fin 7} {value : BitVec 32} {a : LocalApic} :
    (ProgrammedRegister.localVectorTable entry).shown value a =
        (ProgrammedRegister.localVectorTable entry).writtenBits value a.lapic ↔
      (ProgrammedRegister.localVectorTable entry).Kept value a := by
  obtain ⟨hsplit, hdisjoint, hmasked⟩ := lvtMask_split entry
  have hmask := Word.and_eq_and_or_iff (x := value) hdisjoint
  unfold ProgrammedRegister.shown ProgrammedRegister.writtenBits ProgrammedRegister.Kept
  dsimp only
  rw [hsplit]
  split_ifs with hdisabled
  · refine Iff.trans ⟨fun h => ?_, fun h => by rw [h]⟩ hmask
    have hread := congrArg (· &&& lvtReadOnly entry) h
    rw [Word.set_and hmasked, Word.set_and hmasked, BitVec.and_assoc, BitVec.and_assoc,
      Word.or_and_right, hdisjoint, BitVec.and_zero] at hread
    exact hmask.mpr hread
  · rw [eq_comm]
    exact hmask

lemma shown_timerInitialCount {value : BitVec 32} {a : LocalApic} :
    ProgrammedRegister.timerInitialCount.shown value a =
        ProgrammedRegister.timerInitialCount.writtenBits value a.lapic ↔
      ProgrammedRegister.timerInitialCount.Kept value a := by
  unfold ProgrammedRegister.shown ProgrammedRegister.writtenBits ProgrammedRegister.Kept
  dsimp only
  split_ifs with hzero
  · rw [hzero]
    exact ⟨Or.inr, fun h => h.resolve_left (not_not_intro rfl)⟩
  · exact iff_of_true rfl (Or.inl hzero)

/-- The four low bits of a divide configuration are all that counts. -/
lemma apicDivider_of_forall {p : BitVec 32 → BitVec 32 → Prop}
    (h : ∀ v : BitVec 4, p (v.setWidth 32 &&& 0xb) (apicDivider (v.setWidth 32)))
    (value : BitVec 32) : p (value &&& 0xb) (apicDivider value) := by
  have hlow : (value.setWidth 4).setWidth 32 = value &&& 0xf := by
    have hnibble : (0xf : BitVec 32).toNat = 2 ^ 4 - 1 := rfl
    refine BitVec.eq_of_toNat_eq ?_
    rw [BitVec.toNat_setWidth, BitVec.toNat_setWidth, Word.toNat_and_mask hnibble,
      Nat.mod_eq_of_lt (by omega)]
  have hmask : ∀ m : BitVec 32, 0xf &&& m = m → (value &&& 0xf) &&& m = value &&& m := by
    intro m hm
    rw [BitVec.and_assoc, hm]
  have hdivider : apicDivider (value &&& 0xf) = apicDivider value := by
    unfold apicDivider apicWriteDivideConfiguration
    dsimp only
    rw [hmask 8 (by decide), hmask 3 (by decide)]
  have hvalue := h (value.setWidth 4)
  rw [hlow, hdivider, hmask 0xb (by decide)] at hvalue
  exact hvalue

/-- No divider is its own configuration. -/
lemma apicDivider_ne (value : BitVec 32) : apicDivider value ≠ value &&& 0xb :=
  apicDivider_of_forall (p := fun bits divider => divider ≠ bits) (by decide) value

lemma apicDivider_mem (value : BitVec 32) :
    apicDivider value ∈ ([1, 2, 4, 8, 16, 32, 64, 128] : List (BitVec 32)) :=
  apicDivider_of_forall
    (p := fun _ divider => divider ∈ ([1, 2, 4, 8, 16, 32, 64, 128] : List (BitVec 32)))
    (by decide) value

/-- A read of a register right after a write returns the bits that software may write exactly when
the value is kept. -/
theorem apic_read_back_iff (clock later : BitVec 64) (active after : BitVec 8)
    (r : ProgrammedRegister) (value : BitVec 32) (a : LocalApic) :
    apicReadBack clock later active after r.register value a =
        .ok (some (r.writtenBits value a.lapic)) ↔ r.Kept value a := by
  have hread : apicReadBack clock later active after r.register value a =
      .ok (some (r.writtenBits value a.lapic)) ↔ r.shown value a = r.writtenBits value a.lapic := by
    rw [apicReadBack_eq_shown]
    exact ⟨fun h => Option.some.inj (Except.ok.inj h), fun h => by rw [h]⟩
  rw [hread]
  cases r with
  | taskPriority => exact shown_taskPriority
  | logicalDestination => exact shown_logicalDestination
  | destinationFormat => exact iff_of_true shown_destinationFormat trivial
  | spuriousVector => exact shown_spuriousVector
  | localVectorTable entry => exact shown_localVectorTable
  | interruptCommandHigh => exact iff_of_true rfl trivial
  | timerInitialCount => exact shown_timerInitialCount
  | timerDivideConfiguration => exact iff_of_false (apicDivider_ne value) id

/-- After `ApicInitialize` a task priority of 0x20 is dropped, a logical destination of 0x10 is
read as none, a spurious vector register with both flags shows one, and a divide configuration of 0
is read as the divider 2. -/
theorem apic_read_back_loses :
    let a := LocalApic.initial (State.initial fun _ _ => true) 0
    let lost (r : ProgrammedRegister) (value shown : BitVec 32) : Prop :=
      apicReadBack 0 0 0 0 r.register value a = .ok (some shown) ∧
        shown ≠ r.writtenBits value a.lapic
    lost .taskPriority 0x20 0 ∧ lost .logicalDestination 0x10000000 0 ∧
      lost .spuriousVector 0x3ff 0x1ff ∧ lost .timerDivideConfiguration 0 2 := by
  dsimp only
  simp only [apicReadBack_eq_shown]
  refine ⟨⟨?_, ?_⟩, ⟨?_, ?_⟩, ⟨?_, ?_⟩, ⟨?_, ?_⟩⟩ <;> decide +kernel

end Svmm
