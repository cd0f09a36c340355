import Svmm.Construction.DeviceCall
import Svmm.Framework.Bytes
import Svmm.Framework.Word

/-!
# The power management device

`AcpiGetPmStatus` and `AcpiPmUpdateSci` of `acpi.c`: the overflow status of the timer, the level of
the SCI and the timer that waits for the next overflow; and `AcpiWritePortIoHandler`, the writes of
the power management and of the SMBus registers.

`PmRegisters` is the array of 56 bytes, and the registers of the SMBus follow it in the structure:
what is stored past its end is stored in the first three of them.
-/

namespace Svmm

/-- `PM_FREQ`. -/
def pmFreq : BitVec 32 := 3579545

/-- Bit of `TMROF_EN`. -/
def tmrofEn : ℕ := 0

/-- `RTC_EN | PWRBTN_EN | GBL_EN | TMROF_EN`. -/
def sciMask : BitVec 16 := 1 <<< 10 ||| 1 <<< 8 ||| 1 <<< 5 ||| 1 <<< 0

/-- `PCI_DEVFUNC_OFFSET_TO_ADDRESS(0, BX_PCI_DEVICE(1, 3), 0)`. -/
def acpiPciAddress : BitVec 32 := (1 <<< 3 ||| 3) <<< 8

/-- The fields of `ACPI` behind the power management timer. -/
structure AcpiPm where
  timerOverflow : BitVec 32
  pmStatus : BitVec 16
  pmEnable : BitVec 16
  timerId : BitVec 32
  deriving DecidableEq

/-- `TimerGetTotalUseconds`. -/
def timerGetTotalUseconds (ticksTotal : BitVec 64) : BitVec 64 := ticksTotal / 1000

/-- `AcpiGetPmStatus`, which returns the status before it sets the overflow bit. -/
def acpiGetPmStatus (ticksTotal : BitVec 64) (a : AcpiPm) : BitVec 16 × AcpiPm :=
  let value := muldiv64 (timerGetTotalUseconds ticksTotal) pmFreq 1000000
  (a.pmStatus,
    if a.timerOverflow.setWidth 64 ≤ value then
      { a with pmStatus := Word.set a.pmStatus tmrofEn }
    else a)

/-- The time at which the timer overflows, as `AcpiPmUpdateSci` computes it. -/
def AcpiPm.expireTime (a : AcpiPm) : BitVec 64 :=
  muldiv64 (a.timerOverflow.setWidth 64) 1000000 pmFreq

/-- `AcpiPmUpdateSci`; `interruptPin` is `PciDevices[0][devFunc].conf[0x3d]`. -/
def acpiPmUpdateSci (ticksTotal : BitVec 64) (interruptPin : BitVec 8) (a : AcpiPm) :
    AcpiPm × List DeviceCall :=
  let (status, a) := acpiGetPmStatus ticksTotal a
  -- `SciLevel` is a `BYTE`
  let sciLevel := (status &&& a.pmStatus &&& sciMask).setWidth 8
  (a, [.pciSetIrq acpiPciAddress interruptPin sciLevel,
    .timer (if Word.has a.pmEnable tmrofEn ∧ ¬ Word.has status tmrofEn then
      .activate a.timerId a.expireTime 0
    else .deactivate a.timerId)])

/-! ## The device -/

/-- `ACPI_PM_REGISTERS_SIZE`. -/
def acpiPmRegistersSize : BitVec 32 := 56

/-- `struct SmBus`; the code keeps `Index` below 32. -/
structure SmBus where
  hostStatus : BitVec 8
  slaveStatus : BitVec 8
  hostControl : BitVec 8
  hostCommand : BitVec 8
  hostAddress : BitVec 8
  hostData0 : BitVec 8
  hostData1 : BitVec 8
  slaveControl : BitVec 8
  index : Fin 32
  data : Fin 56 → BitVec 8

/-- The fields of `struct ACPI`, but `PmTimeReg`, which nothing uses. -/
structure Acpi where
  pmBase : BitVec 32
  smBase : BitVec 32
  pmRegisters : Fin 56 → BitVec 8
  smBus : SmBus
  pm : AcpiPm
  pmControl : BitVec 16

/-- The device after `AcpiInitialize`. -/
def acpiInitialize (timerId : BitVec 32) : Acpi where
  pmBase := 0
  smBase := 0
  pmRegisters := fun _ => 0
  smBus := ⟨0, 0, 0, 0, 0, 0, 0, 0, 0, fun _ => 0⟩
  pm := ⟨0xffffffff, 0, 0, timerId⟩
  pmControl := 0

/-- The calls of the device on other modules. -/
inductive AcpiCall where
  | device (call : DeviceCall)
  | cmosSetRegister (index value : BitVec 8)
  deriving DecidableEq

/-- Byte `k` from `PmRegisters` on, after `n` bytes of the value are stored at `reg`. -/
def storedByte (reg n : ℕ) (value : BitVec 32) (k : ℕ) (old : BitVec 8) : BitVec 8 :=
  if reg ≤ k ∧ k < reg + n then Bytes.byteAt value (k - reg) else old

/-- A store of `n` bytes through a pointer to `PmRegisters[reg]`. -/
def Acpi.store (reg n : ℕ) (value : BitVec 32) (a : Acpi) : Acpi :=
  { a with
    pmRegisters := fun i => storedByte reg n value i (a.pmRegisters i)
    smBus := { a.smBus with
      hostStatus := storedByte reg n value 56 a.smBus.hostStatus
      slaveStatus := storedByte reg n value 57 a.smBus.slaveStatus
      hostControl := storedByte reg n value 58 a.smBus.hostControl } }

/-- `AcpiPmUpdateSci` on the device. -/
def Acpi.updateSci (ticksTotal : BitVec 64) (interruptPin : BitVec 8) (a : Acpi) :
    Acpi × List AcpiCall :=
  let (pm, calls) := acpiPmUpdateSci ticksTotal interruptPin a.pm
  ({ a with pm }, calls.map .device)

/-- Whether the clock has reached `TimerOverflow`. -/
def AcpiPm.overflowed (ticksTotal : BitVec 64) (a : AcpiPm) : Prop :=
  a.timerOverflow.setWidth 64 ≤ muldiv64 (timerGetTotalUseconds ticksTotal) pmFreq 1000000

instance (ticksTotal : BitVec 64) (a : AcpiPm) : Decidable (a.overflowed ticksTotal) :=
  inferInstanceAs (Decidable (_ ≤ _))

/-- The registers whose writes are dropped: `GPSTS`, `PLVL2`, `PLVL3`, `GLBSTS`, `DEVSTS` and
`GPIREG`. -/
def acpiReadOnly : List (BitVec 32) :=
  [0x0c, 0x0d, 0x14, 0x15, 0x18, 0x19, 0x1c, 0x1d, 0x1e, 0x1f, 0x30, 0x31, 0x32]

/-- The `default` of the registers; no case of the length has a `break`. -/
def acpiPmStore (reg value length : BitVec 32) (a : Acpi) : Acpi :=
  if reg > acpiPmRegistersSize - length then a
  else
    let a := if length = 1 then a.store reg.toNat 1 value else a
    let a := if length = 1 ∨ length = 2 then a.store reg.toNat 2 value else a
    if length = 1 ∨ length = 2 ∨ length = 4 then a.store reg.toNat 4 value else a

/-- The power management registers of `AcpiWritePortIoHandler`. -/
def acpiPmWrite (ticksTotal : BitVec 64) (interruptPin : BitVec 8) (reg value length : BitVec 32)
    (a : Acpi) : Acpi × List AcpiCall :=
  if reg = 0 then
    -- the overflow bit that is set here is cleared with the rest, and the next threshold dropped
    let pm := if a.pm.overflowed ticksTotal then
      { a.pm with pmStatus := Word.set a.pm.pmStatus tmrofEn } else a.pm
    ({ a with pm := { pm with pmStatus := 0 } }).updateSci ticksTotal interruptPin
  else if reg = 2 then
    ({ a with pm := { a.pm with pmEnable := value.setWidth 16 } }).updateSci ticksTotal interruptPin
  else if reg = 4 then
    let a := { a with pmControl := (Word.clear value 13).setWidth 16 }
    if Word.has a.pmControl 13 ∧ (value >>> 10) &&& 7 ≠ 0 then
      ({ a with pm := { a.pm with pmStatus := Word.set (Word.set a.pm.pmStatus 15) 8 } },
        [.cmosSetRegister 0x0f 0xfe])
    else (a, [])
  else if reg ∈ acpiReadOnly then (a, [])
  else (acpiPmStore reg value length a, [])

/-- The SMBus registers of `AcpiWritePortIoHandler`; the cases fall through as far as `Data`. -/
def acpiSmWrite (reg value : BitVec 32) (b : SmBus) : SmBus :=
  if reg ≤ 7 then
    let b := if reg ≤ 0 then { b with hostStatus := 0 } else b
    let b := if reg ≤ 1 then { b with slaveStatus := 0 } else b
    let b := if reg ≤ 2 then { b with hostControl := 0 } else b
    let b := if reg ≤ 3 then { b with hostCommand := 0 } else b
    let b := if reg ≤ 4 then { b with hostAddress := 0 } else b
    let b := if reg ≤ 5 then { b with hostData0 := 0 } else b
    let b := if reg ≤ 6 then { b with hostData1 := 0 } else b
    -- past 31 the index is 0 again
    { b with
      data := Function.update b.data (b.index.castLE (by decide)) (value.setWidth 8)
      index := b.index + 1 }
  else if reg = 8 then { b with slaveControl := 0 }
  else b

/-- The address is one of the power management registers. -/
def Acpi.IsPm (a : Acpi) (address : BitVec 32) : Prop := address &&& 0xffc0 = a.pmBase

/-- The address is one of the SMBus registers. -/
def Acpi.IsSm (a : Acpi) (address : BitVec 32) : Prop :=
  ¬ a.IsPm address ∧ address &&& 0xfff0 = a.smBase

instance (a : Acpi) (address : BitVec 32) : Decidable (a.IsPm address) :=
  inferInstanceAs (Decidable (_ = _))

instance (a : Acpi) (address : BitVec 32) : Decidable (a.IsSm address) :=
  inferInstanceAs (Decidable (_ ∧ _))

/-- `AcpiWritePortIoHandler`; `conf` is `PciDevices[0][devFunc].conf`. -/
def acpiWritePortIoHandler (ticksTotal : BitVec 64) (conf : ℕ → BitVec 8)
    (address value length : BitVec 32) (a : Acpi) : Acpi × List AcpiCall :=
  let reg := address &&& 0x3f
  if a.IsPm address then
    if Word.has (conf 0x80) 0 then
      acpiPmWrite ticksTotal (conf 0x3d) reg value length a
    else (a, [])
  else if a.IsSm address then
    if Word.has (conf 0x04) 0 ∨ Word.has (conf 0xd2) 0 then
      ({ a with smBus := acpiSmWrite reg value a.smBus }, [])
    else (a, [])
  else (a, [])

end Svmm
