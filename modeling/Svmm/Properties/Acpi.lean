import Svmm.Construction.Acpi

/-!
# Writes of the power management device

`acpi_writes_exact_iff` says which port writes change what they address and nothing else: the cases
of the length fall through to the store of four bytes, and the cases of the SMBus registers fall
through to `Data`.

`acpi_sci_follows_iff` says when a write of the status, enable or control register does to the
status what it asks for and leaves the SCI at the level of the enabled status bits.  The status is
what a guest reads there: the stored bits and, once the clock has reached the threshold, the
overflow bit.
-/

namespace Svmm

open Bytes

/-! ## Stores past the end -/

section Stores

variable {a b : Acpi} {reg n m : ℕ} {value : BitVec 32}

/-- The byte `k` places from the start of `PmRegisters`, past its end too. -/
def Acpi.byteFrom (a : Acpi) (k : ℕ) : BitVec 8 :=
  if h : k < 56 then a.pmRegisters ⟨k, h⟩
  else if k = 56 then a.smBus.hostStatus
  else if k = 57 then a.smBus.slaveStatus
  else a.smBus.hostControl

lemma byteFrom_register (i : Fin 56) : a.byteFrom i = a.pmRegisters i := by
  rw [Acpi.byteFrom, dif_pos i.isLt]

@[simp] lemma byteFrom_hostStatus : a.byteFrom 56 = a.smBus.hostStatus := rfl

@[simp] lemma byteFrom_slaveStatus : a.byteFrom 57 = a.smBus.slaveStatus := rfl

@[simp] lemma byteFrom_hostControl : a.byteFrom 58 = a.smBus.hostControl := rfl

/-- The larger of two stores at one place is what is left of both. -/
lemma storedByte_storedByte (hnm : n ≤ m) (k : ℕ) (old : BitVec 8) :
    storedByte reg m value k (storedByte reg n value k old) = storedByte reg m value k old := by
  unfold storedByte
  by_cases hm : reg ≤ k ∧ k < reg + m
  · rw [if_pos hm, if_pos hm]
  · rw [if_neg hm, if_neg hm, if_neg (by omega)]

lemma store_store (hnm : n ≤ m) :
    (a.store reg n value).store reg m value = a.store reg m value := by
  simp only [Acpi.store, storedByte_storedByte hnm]

lemma storedByte_eq_self_iff {k : ℕ} {old : BitVec 8} :
    storedByte reg n value k old = old ↔
      (reg ≤ k → k < reg + n → old = byteAt value (k - reg)) := by
  unfold storedByte
  by_cases hk : reg ≤ k ∧ k < reg + n
  · rw [if_pos hk]
    exact ⟨fun h _ _ => h.symm, fun h => (h hk.1 hk.2).symm⟩
  · rw [if_neg hk]
    exact ⟨fun _ h1 h2 => absurd ⟨h1, h2⟩ hk, fun _ => rfl⟩

/-- The `n` bytes of the array from `reg` on are the value's, and nothing else has changed. -/
structure ExactStore (reg n : ℕ) (value : BitVec 32) (a b : Acpi) : Prop where
  inside : reg + n ≤ 56
  registers : ∀ i : Fin 56, b.pmRegisters i =
    if reg ≤ i ∧ i < reg + n then byteAt value (i - reg) else a.pmRegisters i
  others : { b with pmRegisters := a.pmRegisters } = a

/-- A store of four bytes is one of `n` exactly if the bytes after these are there already. -/
lemma exactStore_store_iff (hn : 0 < n) (hn4 : n ≤ 4) (hreg : reg + n ≤ 56) :
    ExactStore reg n value a (a.store reg 4 value) ↔
      ∀ k, reg + n ≤ k → k < reg + 4 → a.byteFrom k = byteAt value (k - reg) := by
  have hpast : ∀ k, 56 ≤ k → (storedByte reg 4 value k (a.byteFrom k) = a.byteFrom k ↔
      (reg + n ≤ k → k < reg + 4 → a.byteFrom k = byteAt value (k - reg))) := by
    intro k hk
    rw [storedByte_eq_self_iff]
    exact ⟨fun h h1 h2 => h (by omega) h2, fun h h1 h2 => h (by omega) h2⟩
  constructor
  · intro h k hk hk4
    by_cases hin : k < 56
    · have hregister := h.registers ⟨k, hin⟩
      rw [if_neg (by show ¬ (reg ≤ k ∧ k < reg + n); omega)] at hregister
      have hstored : storedByte reg 4 value k (a.byteFrom k) = a.byteFrom k := by
        rw [show a.byteFrom k = a.pmRegisters ⟨k, hin⟩ from byteFrom_register ⟨k, hin⟩]
        exact hregister
      exact storedByte_eq_self_iff.mp hstored (by omega) hk4
    · have hbus : (a.store reg 4 value).smBus = a.smBus := by
        have hsm := congrArg Acpi.smBus h.others
        exact hsm
      have hcases : k = 56 ∨ k = 57 ∨ k = 58 := by omega
      refine (hpast k (by omega)).mp ?_ hk hk4
      rcases hcases with rfl | rfl | rfl
      · exact congrArg SmBus.hostStatus hbus
      · exact congrArg SmBus.slaveStatus hbus
      · exact congrArg SmBus.hostControl hbus
  · intro h
    refine ⟨hreg, fun i => ?_, ?_⟩
    · show storedByte reg 4 value i (a.pmRegisters i) = _
      by_cases hin : reg ≤ i ∧ i < reg + n
      · rw [storedByte, if_pos ⟨hin.1, by omega⟩, if_pos hin]
      · rw [if_neg hin, storedByte_eq_self_iff]
        intro h1 h2
        rw [← byteFrom_register]
        exact h i (by omega) h2
    · have hstatus := (hpast 56 (by omega)).mpr (h 56)
      have hslave := (hpast 57 (by omega)).mpr (h 57)
      have hcontrol := (hpast 58 (by omega)).mpr (h 58)
      simp only [byteFrom_hostStatus, byteFrom_slaveStatus, byteFrom_hostControl]
        at hstatus hslave hcontrol
      simp only [Acpi.store, hstatus, hslave, hcontrol]

end Stores

/-! ## The SMBus -/

section SmBusWrites

variable {b : SmBus} {reg value : BitVec 32}

/-- What the registers other than the one at `reg` hold is the same; register 7 is the window on
`Data`, with the index behind it. -/
structure OnlySmBusRegister (reg : BitVec 32) (b c : SmBus) : Prop where
  hostStatus : reg ≠ 0 → c.hostStatus = b.hostStatus
  slaveStatus : reg ≠ 1 → c.slaveStatus = b.slaveStatus
  hostControl : reg ≠ 2 → c.hostControl = b.hostControl
  hostCommand : reg ≠ 3 → c.hostCommand = b.hostCommand
  hostAddress : reg ≠ 4 → c.hostAddress = b.hostAddress
  hostData0 : reg ≠ 5 → c.hostData0 = b.hostData0
  hostData1 : reg ≠ 6 → c.hostData1 = b.hostData1
  data : reg ≠ 7 → c.data = b.data ∧ c.index = b.index
  slaveControl : reg ≠ 8 → c.slaveControl = b.slaveControl

lemma onlySmBusRegister_refl : OnlySmBusRegister reg b b :=
  ⟨fun _ => rfl, fun _ => rfl, fun _ => rfl, fun _ => rfl, fun _ => rfl, fun _ => rfl, fun _ => rfl,
    fun _ => ⟨rfl, rfl⟩, fun _ => rfl⟩

/-- Every register up to 7 moves the index. -/
lemma index_acpiSmWrite (h : reg ≤ 7) : (acpiSmWrite reg value b).index = b.index + 1 := by
  rw [acpiSmWrite, if_pos h]
  simp only [apply_ite SmBus.index, ite_self]

lemma acpiSmWrite_only_iff : OnlySmBusRegister reg b (acpiSmWrite reg value b) ↔ 7 ≤ reg := by
  constructor
  · intro h
    by_contra hreg
    have hindex := (h.data (by bv_omega)).2
    rw [index_acpiSmWrite (by bv_omega)] at hindex
    have hval := congrArg Fin.val hindex
    rw [Fin.val_add] at hval
    have hone : (1 : Fin 32).val = 1 := rfl
    omega
  · intro hreg
    by_cases h7 : reg = 7
    · subst h7
      exact ⟨fun _ => rfl, fun _ => rfl, fun _ => rfl, fun _ => rfl, fun _ => rfl, fun _ => rfl,
        fun _ => rfl, fun h => absurd rfl h, fun _ => rfl⟩
    · rw [acpiSmWrite, if_neg (by bv_omega)]
      by_cases h8 : reg = 8
      · rw [if_pos h8]
        exact ⟨fun _ => rfl, fun _ => rfl, fun _ => rfl, fun _ => rfl, fun _ => rfl, fun _ => rfl,
          fun _ => rfl, fun _ => ⟨rfl, rfl⟩, fun h => absurd h8 h⟩
      · rw [if_neg h8]
        exact onlySmBusRegister_refl

end SmBusWrites

/-! ## Writes by width -/

section Widths

variable {conf : ℕ → BitVec 8} {a : Acpi} {address value length : BitVec 32}
  {ticksTotal : BitVec 64}

/-- A write of a power management register without special meaning that the handler accepts: one,
two or four bytes that pass its check of the offset. -/
structure Acpi.PlainWrite (conf : ℕ → BitVec 8) (a : Acpi) (address length : BitVec 32) : Prop where
  isPm : a.IsPm address
  enabled : Word.has (conf 0x80) 0 = true
  notStatus : address &&& 0x3f ≠ 0
  notEnable : address &&& 0x3f ≠ 2
  notControl : address &&& 0x3f ≠ 4
  writable : address &&& 0x3f ∉ acpiReadOnly
  width : length = 1 ∨ length = 2 ∨ length = 4
  accepted : address &&& 0x3f ≤ acpiPmRegistersSize - length

/-- The write is of the SMBus, which is enabled. -/
def Acpi.SmWrite (conf : ℕ → BitVec 8) (a : Acpi) (address : BitVec 32) : Prop :=
  a.IsSm address ∧ (Word.has (conf 0x04) 0 = true ∨ Word.has (conf 0xd2) 0 = true)

/-- A write of a plain register stores its bytes, one of the SMBus changes its register at most. -/
def WidthExact (conf : ℕ → BitVec 8) (address value length : BitVec 32) (a b : Acpi) : Prop :=
  (a.PlainWrite conf address length →
    ExactStore (address &&& 0x3f).toNat length.toNat value a b) ∧
  (a.IsSm address →
    OnlySmBusRegister (address &&& 0x3f) a.smBus b.smBus ∧ { b with smBus := a.smBus } = a)

/-- The bytes up to the fourth are there already, and the SMBus register is none of those that fall
through. -/
def WidthHarmless (conf : ℕ → BitVec 8) (address value length : BitVec 32) (a : Acpi) : Prop :=
  (a.PlainWrite conf address length → ∀ k, (address &&& 0x3f).toNat + length.toNat ≤ k →
    k < (address &&& 0x3f).toNat + 4 →
    a.byteFrom k = byteAt value (k - (address &&& 0x3f).toNat)) ∧
  (a.SmWrite conf address → 7 ≤ address &&& 0x3f)

/-- The smaller stores come first, and the store of four bytes is always made. -/
lemma acpiPmStore_eq_store {reg : BitVec 32} (hwidth : length = 1 ∨ length = 2 ∨ length = 4)
    (hreg : reg ≤ acpiPmRegistersSize - length) :
    acpiPmStore reg value length a = a.store reg.toNat 4 value := by
  rw [acpiPmStore, if_neg (BitVec.not_lt.mpr hreg)]
  rcases hwidth with rfl | rfl | rfl
  · show ((a.store reg.toNat 1 value).store reg.toNat 2 value).store reg.toNat 4 value = _
    rw [store_store (by decide), store_store (by decide)]
  · show (a.store reg.toNat 2 value).store reg.toNat 4 value = _
    rw [store_store (by decide)]
  · rfl

lemma acpiWrite_plain (h : a.PlainWrite conf address length) :
    acpiWritePortIoHandler ticksTotal conf address value length a =
      (a.store (address &&& 0x3f).toNat 4 value, []) := by
  rw [acpiWritePortIoHandler, if_pos h.isPm, if_pos h.enabled, acpiPmWrite, if_neg h.notStatus,
    if_neg h.notEnable, if_neg h.notControl, if_neg h.writable,
    acpiPmStore_eq_store h.width h.accepted]

lemma acpiWrite_sm (h : a.SmWrite conf address) :
    acpiWritePortIoHandler ticksTotal conf address value length a =
      ({ a with smBus := acpiSmWrite (address &&& 0x3f) value a.smBus }, []) := by
  rw [acpiWritePortIoHandler, if_neg h.1.1, if_pos h.1, if_pos h.2]

lemma acpiWrite_sm_disabled (h : a.IsSm address) (hoff : ¬ a.SmWrite conf address) :
    acpiWritePortIoHandler ticksTotal conf address value length a = (a, []) := by
  rw [acpiWritePortIoHandler, if_neg h.1, if_pos h, if_neg fun hon => hoff ⟨h, hon⟩]

/-- The check of the offset is one of the end of the store. -/
lemma plainWrite_bounds (h : a.PlainWrite conf address length) :
    0 < length.toNat ∧ length.toNat ≤ 4 ∧ (address &&& 0x3f).toNat + length.toNat ≤ 56 := by
  have hreg := h.accepted
  unfold acpiPmRegistersSize at hreg
  rcases h.width with rfl | rfl | rfl
  · exact ⟨by decide, by decide, by bv_omega⟩
  · exact ⟨by decide, by decide, by bv_omega⟩
  · exact ⟨by decide, by decide, by bv_omega⟩

/-- A write changes what it addresses alone exactly if the cases it falls into change nothing. -/
theorem acpi_writes_exact_iff (ticksTotal : BitVec 64) (conf : ℕ → BitVec 8)
    (address value length : BitVec 32) (a : Acpi) :
    WidthExact conf address value length a
        (acpiWritePortIoHandler ticksTotal conf address value length a).1 ↔
      WidthHarmless conf address value length a := by
  refine and_congr ?_ ?_
  · refine imp_congr_right fun h => ?_
    obtain ⟨hn, hn4, hreg⟩ := plainWrite_bounds h
    rw [acpiWrite_plain h]
    exact exactStore_store_iff hn hn4 hreg
  · by_cases hsm : a.IsSm address
    · by_cases hon : a.SmWrite conf address
      · rw [acpiWrite_sm hon]
        constructor
        · exact fun h _ => acpiSmWrite_only_iff.mp (h hsm).1
        · exact fun h _ => ⟨acpiSmWrite_only_iff.mpr (h hon), rfl⟩
      · rw [acpiWrite_sm_disabled hsm hon]
        exact ⟨fun _ h => absurd h hon, fun _ _ => ⟨onlySmBusRegister_refl, rfl⟩⟩
    · exact ⟨fun _ h => absurd h.1 hsm, fun _ h => absurd h hsm⟩

/-- A byte is stored where a word has been, and the word is gone; a write of the address of the
SMBus host moves the index of its data. -/
theorem acpi_write_spills :
    let conf : ℕ → BitVec 8 := fun k => if k = 0x80 ∨ k = 0xd2 then 1 else 0
    let a : Acpi := { acpiInitialize 3 with pmBase := 0xb000, smBase := 0xb100 }
    let b := (acpiWritePortIoHandler 0 conf 0xb010 0x11223344 4 a).1
    let c := (acpiWritePortIoHandler 0 conf 0xb010 0x55 1 b).1
    let d := (acpiWritePortIoHandler 0 conf 0xb104 0x21 1 a).1
    (b.pmRegisters 0x11 = 0x33 ∧ c.pmRegisters 0x11 = 0 ∧ ¬ WidthExact conf 0xb010 0x55 1 b c) ∧
      (a.smBus.index = 0 ∧ d.smBus.index = 1 ∧ ¬ WidthExact conf 0xb104 0x21 1 a d) := by
  intro conf a b c d
  refine ⟨⟨by decide, by decide, fun h => ?_⟩, by decide, by decide, fun h => ?_⟩
  · have hplain : b.PlainWrite conf 0xb010 1 :=
      ⟨by decide, by decide, by decide, by decide, by decide, by decide, by decide, by decide⟩
    exact absurd ((h.1 hplain).registers 0x11) (by decide)
  · exact absurd ((h.2 (by decide)).1.data (by decide)).2 (by decide)

end Widths

/-! ## The SCI -/

section Sci

variable {conf : ℕ → BitVec 8} {a : Acpi} {pm : AcpiPm} {address value length : BitVec 32}
  {ticksTotal : BitVec 64} {interruptPin : BitVec 8} {level : Bool} {r : PmRegister}

/-- The registers behind the SCI. -/
inductive PmRegister where
  | status
  | enable
  | control

/-- Where a register is. -/
def PmRegister.offset : PmRegister → BitVec 32
  | .status => 0
  | .enable => 2
  | .control => 4

/-- The status that a guest reads: what is stored, and the overflow once the clock has reached the
threshold. -/
def AcpiPm.sampled (ticksTotal : BitVec 64) (a : AcpiPm) : BitVec 16 :=
  if a.overflowed ticksTotal then Word.set a.pmStatus tmrofEn else a.pmStatus

/-- Some status bit behind the SCI is enabled. -/
def AcpiPm.SciDue (ticksTotal : BitVec 64) (a : AcpiPm) : Prop :=
  a.sampled ticksTotal &&& a.pmEnable &&& sciMask ≠ 0

instance (ticksTotal : BitVec 64) (a : AcpiPm) : Decidable (a.SciDue ticksTotal) :=
  inferInstanceAs (Decidable (_ ≠ _))

/-- The level the line is left at by a list of calls. -/
def sciLine (level : Bool) (calls : List AcpiCall) : Bool :=
  calls.foldl (fun level call => match call with
    | .device (.pciSetIrq _ _ raise) => raise != 0
    | _ => level) level

/-- A write of the status clears the bits written as 1, one of the enable register changes that
register, where the status may be taken from the clock anew; and after each write the SCI is at the
level of the enabled status bits. -/
structure SciFollows (ticksTotal : BitVec 64) (value : BitVec 32) (level : Bool) (r : PmRegister)
    (a : Acpi) (b : Acpi × List AcpiCall) : Prop where
  cleared : r = .status →
    b.1.pm.sampled ticksTotal = a.pm.sampled ticksTotal &&& ~~~ (value.setWidth 16)
  enabled : r = .enable → b.1.pm.sampled ticksTotal = a.pm.sampled ticksTotal ∧
    b.1 = { a with pm := { a.pm with pmStatus := b.1.pm.pmStatus, pmEnable := value.setWidth 16 } }
  line : sciLine level b.2 = true ↔ b.1.pm.SciDue ticksTotal

/-- What makes a write come out right.  All bits of the status are cleared but the overflow that has
come, and the line is lowered; a write of the enable register raises the line for the stored bits 5
and 0, whether they are enabled or not; a write of the control register leaves it. -/
def SciHarmless (ticksTotal : BitVec 64) (value : BitVec 32) (level : Bool) (a : AcpiPm) :
    PmRegister → Prop
  | .status =>
      (∀ i, i ≠ 0 → Word.has a.pmStatus i = true → Word.has value i = true) ∧
      (a.overflowed ticksTotal → Word.has value 0 = false ∧ Word.has a.pmEnable 0 = false) ∧
      (¬ a.overflowed ticksTotal → Word.has a.pmStatus 0 = true → Word.has value 0 = true)
  | .enable =>
      Word.has a.pmStatus 5 = true ∨ Word.has a.pmStatus 0 = true ↔
        a.sampled ticksTotal &&& value.setWidth 16 &&& sciMask ≠ 0
  | .control => level = true ↔ a.SciDue ticksTotal

lemma has_sciMask {i : ℕ} : Word.has sciMask i = true ↔ i = 0 ∨ i = 5 ∨ i = 8 ∨ i = 10 := by
  constructor
  · intro h
    have hi := Word.lt_of_has h
    have hall : ∀ i < 16, Word.has sciMask i = true → i = 0 ∨ i = 5 ∨ i = 8 ∨ i = 10 := by decide
    exact hall i hi h
  · rintro (rfl | rfl | rfl | rfl) <;> decide

/-- Taking the status from the clock once more changes nothing. -/
lemma sampled_acpiGetPmStatus : (acpiGetPmStatus ticksTotal pm).2.sampled ticksTotal =
    pm.sampled ticksTotal := by
  by_cases h : pm.overflowed ticksTotal
  · have hget : (acpiGetPmStatus ticksTotal pm).2 =
        { pm with pmStatus := Word.set pm.pmStatus tmrofEn } := if_pos h
    have hagain : ({ pm with pmStatus := Word.set pm.pmStatus tmrofEn } : AcpiPm).overflowed
        ticksTotal := h
    rw [hget, AcpiPm.sampled, AcpiPm.sampled, if_pos h, if_pos hagain]
    refine Word.ext_has fun i hi => ?_
    rw [Word.has_set, Word.has_set]
    simp
  · have hget : (acpiGetPmStatus ticksTotal pm).2 = pm := if_neg h
    rw [hget]

/-- The status is stored as it is taken from the clock. -/
lemma pmStatus_acpiGetPmStatus :
    (acpiGetPmStatus ticksTotal pm).2.pmStatus = pm.sampled ticksTotal := by
  by_cases h : pm.overflowed ticksTotal
  · rw [AcpiPm.sampled, if_pos h]
    exact congrArg AcpiPm.pmStatus (if_pos h)
  · rw [AcpiPm.sampled, if_neg h]
    exact congrArg AcpiPm.pmStatus (if_neg h)

lemma acpiGetPmStatus_others : (acpiGetPmStatus ticksTotal pm).2 =
    { pm with pmStatus := (acpiGetPmStatus ticksTotal pm).2.pmStatus } := by
  unfold acpiGetPmStatus
  simp only
  split <;> rfl

/-- The update records the status. -/
lemma pm_updateSci :
    (a.updateSci ticksTotal interruptPin).1 =
      { a with pm := (acpiGetPmStatus ticksTotal a.pm).2 } :=
  rfl

/-- The stored status has been combined with itself, and cut to a byte. -/
lemma sciLine_updateSci : sciLine level (a.updateSci ticksTotal interruptPin).2 = true ↔
    Word.has a.pm.pmStatus 5 = true ∨ Word.has a.pm.pmStatus 0 = true := by
  have hkept : ∀ i, Word.has a.pm.pmStatus i = true →
      Word.has (a.pm.sampled ticksTotal) i = true := by
    intro i hi
    rw [AcpiPm.sampled]
    split
    · rw [Word.has_set, hi, Bool.true_or]
    · exact hi
  have hline : sciLine level (a.updateSci ticksTotal interruptPin).2 = true ↔
      (a.pm.pmStatus &&& (acpiGetPmStatus ticksTotal a.pm).2.pmStatus &&& sciMask).setWidth 8 ≠
        0#8 := bne_iff_ne
  rw [hline, pmStatus_acpiGetPmStatus, Word.ne_zero_iff]
  constructor
  · rintro ⟨i, hi⟩
    rw [Word.has_setWidth, Word.has_and, Word.has_and, Bool.and_eq_true, Bool.and_eq_true,
      Bool.and_eq_true, decide_eq_true_eq] at hi
    obtain ⟨hi8, ⟨hstatus, -⟩, hmask⟩ := hi
    rcases has_sciMask.mp hmask with rfl | rfl | rfl | rfl
    · exact Or.inr hstatus
    · exact Or.inl hstatus
    · exact absurd hi8 (by decide)
    · exact absurd hi8 (by decide)
  · have hbit : ∀ i, i < 8 → Word.has sciMask i = true → Word.has a.pm.pmStatus i = true →
        Word.has ((a.pm.pmStatus &&& a.pm.sampled ticksTotal &&& sciMask).setWidth 8) i = true := by
      intro i hi8 hmask hstatus
      rw [Word.has_setWidth, Word.has_and, Word.has_and, hmask, hstatus, hkept i hstatus,
        decide_eq_true hi8]
      rfl
    rintro (h | h)
    · exact ⟨5, hbit 5 (by decide) (by decide) h⟩
    · exact ⟨0, hbit 0 (by decide) (by decide) h⟩

/-- A register that is decoded and enabled. -/
lemma acpiWrite_pm (hpm : a.IsPm address) (hon : Word.has (conf 0x80) 0 = true) :
    acpiWritePortIoHandler ticksTotal conf address value length a =
      acpiPmWrite ticksTotal (conf 0x3d) (address &&& 0x3f) value length a := by
  rw [acpiWritePortIoHandler, if_pos hpm, if_pos hon]

/-- The bits left are those of the status that are not written. -/
lemma eq_and_not_iff {x y : BitVec 16} :
    x = y &&& ~~~ (value.setWidth 16) ↔
      ∀ i < 16, Word.has x i = (Word.has y i && !Word.has value i) := by
  have hbit : ∀ i < 16, Word.has (y &&& ~~~ (value.setWidth 16)) i =
      (Word.has y i && !Word.has value i) := by
    intro i hi
    rw [Word.has_and, Word.has_not, Word.has_setWidth, decide_eq_true hi, Bool.true_and,
      Bool.true_and]
  constructor
  · intro h i hi
    rw [h, hbit i hi]
  · exact fun h => Word.ext_has fun i hi => (h i hi).trans (hbit i hi).symm

/-- Nothing is left but the overflow. -/
lemma cleared_iff :
    ({ pm with pmStatus := 0 } : AcpiPm).sampled ticksTotal =
        pm.sampled ticksTotal &&& ~~~ (value.setWidth 16) ↔
      (∀ i, i ≠ 0 → Word.has pm.pmStatus i = true → Word.has value i = true) ∧
      (pm.overflowed ticksTotal → Word.has value 0 = false) ∧
      (¬ pm.overflowed ticksTotal → Word.has pm.pmStatus 0 = true → Word.has value 0 = true) := by
  rw [eq_and_not_iff]
  by_cases hov : pm.overflowed ticksTotal
  · have hzero : ({ pm with pmStatus := 0 } : AcpiPm).sampled ticksTotal = Word.set 0 tmrofEn :=
      if_pos hov
    rw [hzero, AcpiPm.sampled, if_pos hov]
    constructor
    · intro h
      refine ⟨fun i hi hstatus => ?_, fun _ => ?_, fun hnot => absurd hov hnot⟩
      · have hbit := h i (Word.lt_of_has hstatus)
        have hne : tmrofEn ≠ i := fun heq => hi heq.symm
        simpa [hne, hstatus] using hbit
      · simpa [tmrofEn] using h 0 (by decide)
    · rintro ⟨hkept, hwritten, -⟩ i hi
      by_cases hi0 : i = 0
      · subst hi0
        simp [hwritten hov, tmrofEn]
      · have hne : tmrofEn ≠ i := fun heq => hi0 heq.symm
        cases hstatus : Word.has pm.pmStatus i with
        | false => simp [hne, hstatus]
        | true => simp [hne, hkept i hi0 hstatus]
  · have hzero : ({ pm with pmStatus := 0 } : AcpiPm).sampled ticksTotal = 0 := if_neg hov
    rw [hzero, AcpiPm.sampled, if_neg hov]
    constructor
    · intro h
      have hall : ∀ i, Word.has pm.pmStatus i = true → Word.has value i = true := by
        intro i hstatus
        simpa [hstatus] using h i (Word.lt_of_has hstatus)
      exact ⟨fun i _ => hall i, fun hyes => absurd hyes hov, fun _ => hall 0⟩
    · rintro ⟨hkept, -, hwritten⟩ i hi
      cases hstatus : Word.has pm.pmStatus i with
      | false => simp
      | true =>
          by_cases hi0 : i = 0
          · subst hi0
            simp [hwritten hov hstatus]
          · simp [hkept i hi0 hstatus]

/-- With nothing stored, only an overflow that is enabled is due. -/
lemma sciDue_cleared_iff :
    ({ pm with pmStatus := 0 } : AcpiPm).SciDue ticksTotal ↔
      pm.overflowed ticksTotal ∧ Word.has pm.pmEnable 0 = true := by
  unfold AcpiPm.SciDue
  by_cases hov : pm.overflowed ticksTotal
  · have hzero : ({ pm with pmStatus := 0 } : AcpiPm).sampled ticksTotal = Word.set 0 tmrofEn :=
      if_pos hov
    rw [hzero]
    show Word.set 0 tmrofEn &&& pm.pmEnable &&& sciMask ≠ 0#16 ↔ _
    rw [Word.ne_zero_iff]
    constructor
    · rintro ⟨i, hi⟩
      rw [Word.has_and, Word.has_and, Bool.and_eq_true, Bool.and_eq_true] at hi
      obtain ⟨⟨hset, henable⟩, -⟩ := hi
      have hi0 : i = 0 := by
        by_contra hne
        have hne' : tmrofEn ≠ i := fun heq => hne heq.symm
        simp [hne'] at hset
      exact ⟨hov, hi0 ▸ henable⟩
    · rintro ⟨-, henable⟩
      refine ⟨0, ?_⟩
      rw [Word.has_and, Word.has_and, henable]
      decide
  · have hzero : ({ pm with pmStatus := 0 } : AcpiPm).sampled ticksTotal = 0 := if_neg hov
    rw [hzero]
    show 0#16 &&& pm.pmEnable &&& sciMask ≠ 0#16 ↔ _
    rw [BitVec.zero_and, BitVec.zero_and]
    exact ⟨fun h => absurd rfl h, fun h => absurd h.1 hov⟩

/-- What is due does not depend on whether the status has been recorded. -/
lemma sciDue_acpiGetPmStatus :
    (acpiGetPmStatus ticksTotal pm).2.SciDue ticksTotal ↔ pm.SciDue ticksTotal := by
  rw [AcpiPm.SciDue, sampled_acpiGetPmStatus, acpiGetPmStatus_others]
  rfl

lemma acpiPmWrite_status : acpiPmWrite ticksTotal interruptPin 0 value length a =
    ({ a with pm := { a.pm with pmStatus := 0 } }).updateSci ticksTotal interruptPin := by
  rw [acpiPmWrite, if_pos rfl]
  simp only
  split <;> rfl

lemma acpiPmWrite_enable : acpiPmWrite ticksTotal interruptPin 2 value length a =
    ({ a with pm := { a.pm with pmEnable := value.setWidth 16 } }).updateSci ticksTotal
      interruptPin := by
  rw [acpiPmWrite, if_neg (by decide), if_pos rfl]

/-- Bit 13 has just been cleared, so that the device is never suspended. -/
lemma acpiPmWrite_control : acpiPmWrite ticksTotal interruptPin 4 value length a =
    ({ a with pmControl := (Word.clear value 13).setWidth 16 }, []) := by
  have hclear : ¬ (Word.has ((Word.clear value 13).setWidth 16 : BitVec 16) 13 = true ∧
      (value >>> 10) &&& 7 ≠ 0) := by
    rintro ⟨hbit, -⟩
    simp at hbit
  rw [acpiPmWrite, if_neg (by decide), if_neg (by decide), if_pos rfl]
  exact if_neg hclear

lemma sciFollows_status_iff :
    SciFollows ticksTotal value level .status a
        (acpiPmWrite ticksTotal interruptPin 0 value length a) ↔
      SciHarmless ticksTotal value level a.pm .status := by
  have hline : ¬ sciLine level (acpiPmWrite ticksTotal interruptPin 0 value length a).2 = true := by
    rw [acpiPmWrite_status, sciLine_updateSci]
    simp
  have hstate : (acpiPmWrite ticksTotal interruptPin 0 value length a).1 =
      { a with pm := (acpiGetPmStatus ticksTotal { a.pm with pmStatus := 0 }).2 } := by
    rw [acpiPmWrite_status, pm_updateSci]
  have hcleared := @cleared_iff a.pm value ticksTotal
  have hdue := @sciDue_cleared_iff a.pm ticksTotal
  constructor
  · intro h
    have hkept := h.cleared rfl
    rw [hstate, sampled_acpiGetPmStatus] at hkept
    obtain ⟨hothers, hwritten, hset⟩ := hcleared.mp hkept
    refine ⟨hothers, fun hov => ⟨hwritten hov, ?_⟩, hset⟩
    have hnot : ¬ (acpiPmWrite ticksTotal interruptPin 0 value length a).1.pm.SciDue ticksTotal :=
      fun hyes => hline (h.line.mpr hyes)
    rw [hstate, sciDue_acpiGetPmStatus, hdue] at hnot
    exact Bool.eq_false_iff.mpr fun henable => hnot ⟨hov, henable⟩
  · rintro ⟨hothers, hov, hset⟩
    refine ⟨fun _ => ?_, fun h => PmRegister.noConfusion h, ?_⟩
    · rw [hstate, sampled_acpiGetPmStatus]
      exact hcleared.mpr ⟨hothers, fun h => (hov h).1, hset⟩
    · rw [hstate, sciDue_acpiGetPmStatus, hdue]
      refine ⟨fun h => absurd h hline, fun h => ?_⟩
      rw [(hov h.1).2] at h
      exact absurd h.2 (by decide)

lemma sciFollows_enable_iff :
    SciFollows ticksTotal value level .enable a
        (acpiPmWrite ticksTotal interruptPin 2 value length a) ↔
      SciHarmless ticksTotal value level a.pm .enable := by
  rw [acpiPmWrite_enable]
  constructor
  · intro h
    have hline := h.line
    rw [sciLine_updateSci, pm_updateSci, sciDue_acpiGetPmStatus] at hline
    exact hline
  · intro h
    refine ⟨fun hr => PmRegister.noConfusion hr, fun _ => ⟨?_, ?_⟩, ?_⟩
    · rw [pm_updateSci, sampled_acpiGetPmStatus]
      rfl
    · rw [pm_updateSci, acpiGetPmStatus_others]
    · rw [sciLine_updateSci, pm_updateSci, sciDue_acpiGetPmStatus]
      exact h

lemma sciFollows_control_iff :
    SciFollows ticksTotal value level .control a
        (acpiPmWrite ticksTotal interruptPin 4 value length a) ↔
      SciHarmless ticksTotal value level a.pm .control := by
  rw [acpiPmWrite_control]
  constructor
  · exact fun h => h.line
  · exact fun h => ⟨fun hr => PmRegister.noConfusion hr, fun hr => PmRegister.noConfusion hr, h⟩

/-- A write of the status, enable or control register comes out right exactly if what it clears is
all but the overflow that has come, and the stored bits that raise the line are the enabled ones. -/
theorem acpi_sci_follows_iff (hpm : a.IsPm address) (hon : Word.has (conf 0x80) 0 = true)
    (hreg : address &&& 0x3f = r.offset) :
    SciFollows ticksTotal value level r a
        (acpiWritePortIoHandler ticksTotal conf address value length a) ↔
      SciHarmless ticksTotal value level a.pm r := by
  rw [acpiWrite_pm hpm hon, hreg]
  cases r with
  | status => exact sciFollows_status_iff
  | enable => exact sciFollows_enable_iff
  | control => exact sciFollows_control_iff

/-- The guest clears the status of the global lock, and no overflow has come. -/
theorem acpi_sci_follows_global_lock :
    let a : Acpi := { acpiInitialize 3 with pmBase := 0xb000, pm := ⟨0xffffffff, 0x20, 0x01, 3⟩ }
    ∀ conf : ℕ → BitVec 8, conf 0x80 = 1 →
      SciFollows 0 0x20 true .status a (acpiWritePortIoHandler 0 conf 0xb000 0x20 2 a) := by
  intro a conf hconf
  refine (acpi_sci_follows_iff (r := .status) (by decide) (by rw [hconf]; decide)
    (by decide)).mpr ?_
  have hov : ¬ a.pm.overflowed 0 := by decide
  refine ⟨fun i hi hstatus => ?_, fun h => absurd h hov, fun _ h => absurd h (by decide)⟩
  have hall : ∀ i < 16, i ≠ 0 → Word.has a.pm.pmStatus i = true →
      Word.has (0x20 : BitVec 32) i = true := by
    decide
  exact hall i (Word.lt_of_has hstatus) hi hstatus

/-- The clock has passed the threshold and the guest has read the overflow: it writes a 1 to clear
it, and the bit stays; it disables it, and the line is raised. -/
theorem acpi_sci_storm :
    let conf : ℕ → BitVec 8 := fun k => if k = 0x80 then 1 else 0
    let a : Acpi := { acpiInitialize 3 with pmBase := 0xb000, pm := ⟨0xffffffff, 0x01, 0x01, 3⟩ }
    let b := acpiWritePortIoHandler 1300000000000 conf 0xb000 0x01 2 a
    let c := acpiWritePortIoHandler 1300000000000 conf 0xb002 0x00 2 a
    (b.1.pm.pmStatus = 1 ∧ ¬ SciFollows 1300000000000 0x01 true .status a b) ∧
      (sciLine false c.2 = true ∧ c.1.pm.pmEnable = 0 ∧
        ¬ SciFollows 1300000000000 0x00 true .enable a c) := by
  intro conf a b c
  refine ⟨⟨by decide, fun h => absurd (h.cleared rfl) (by decide)⟩, by decide, by decide,
    fun h => ?_⟩
  exact absurd (h.line.mp (by decide)) (by decide)

end Sci

end Svmm
