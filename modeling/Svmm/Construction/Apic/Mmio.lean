import Svmm.Construction.Apic.Timer
import Svmm.Construction.DeviceCall

/-!
# The registers of the local APIC in memory

`ApicMMIOWriteHandler` and `ApicMMIOReadHandler`: the register that an address selects, what a
write does to `Lapic[0]`, and what a read returns.  `clock` is what `TimerGetClockNs` returns and
`active` is `TimerGetState(TimerId)`.
-/

namespace Svmm

/-- The registers that a `case` of the handlers names. -/
inductive ApicRegister where
  | id
  | version
  | taskPriority
  | arbitrationPriority
  | processPriority
  | endOfInterrupt
  | remoteRead
  | logicalDestination
  | destinationFormat
  | spuriousVector
  | interruptService (i : Fin 8)
  | triggerMode (i : Fin 8)
  | interruptRequest (i : Fin 8)
  | errorStatus
  | interruptCommandLow
  | interruptCommandHigh
  | localVectorTable (i : Fin 7)
  | timerInitialCount
  | timerCurrentCount
  | timerDivideConfiguration
  deriving DecidableEq

/-- The offsets of `apic.h`. -/
def ApicRegister.offset : ApicRegister → BitVec 32
  | .id => 0x020
  | .version => 0x030
  | .taskPriority => 0x080
  | .arbitrationPriority => 0x090
  | .processPriority => 0x0A0
  | .endOfInterrupt => 0x0B0
  | .remoteRead => 0x0C0
  | .logicalDestination => 0x0D0
  | .destinationFormat => 0x0E0
  | .spuriousVector => 0x0F0
  | .interruptService i => 0x100 + 0x10 * BitVec.ofNat 32 i.val
  | .triggerMode i => 0x180 + 0x10 * BitVec.ofNat 32 i.val
  | .interruptRequest i => 0x200 + 0x10 * BitVec.ofNat 32 i.val
  | .errorStatus => 0x280
  | .interruptCommandLow => 0x300
  | .interruptCommandHigh => 0x310
  -- CMCI, the last entry, lies apart
  | .localVectorTable i => if i = 6 then 0x2F0 else 0x320 + 0x10 * BitVec.ofNat 32 i.val
  | .timerInitialCount => 0x380
  | .timerCurrentCount => 0x390
  | .timerDivideConfiguration => 0x3E0

/-- The labels of the `switch` statements. -/
def apicRegisters : List ApicRegister :=
  [ApicRegister.id, .version, .taskPriority, .arbitrationPriority, .processPriority,
    .endOfInterrupt, .remoteRead, .logicalDestination, .destinationFormat, .spuriousVector] ++
  (List.finRange 8).map ApicRegister.interruptService ++
  (List.finRange 8).map ApicRegister.triggerMode ++
  (List.finRange 8).map ApicRegister.interruptRequest ++
  [ApicRegister.errorStatus, .interruptCommandLow, .interruptCommandHigh] ++
  (List.finRange 7).map ApicRegister.localVectorTable ++
  [ApicRegister.timerInitialCount, .timerCurrentCount, .timerDivideConfiguration]

/-- The case that `Address & 0xff0` selects; `none` is the default. -/
def apicRegister (address : BitVec 32) : Option ApicRegister :=
  apicRegisters.find? fun r => r.offset = address &&& 0xff0

/-- `APIC_DEFAULT_MMIO`. -/
def apicDefaultMmio : BitVec 32 := 0xfee00000

def ApicRegister.address (r : ApicRegister) : BitVec 32 := apicDefaultMmio + r.offset

/-- Bit of `APIC_ERR_ILLEGAL_ADDR`. -/
def apicErrIllegalAddr : ℕ := 7

/-- How an access goes wrong. -/
inductive LocalApicFault where
  | bus (f : ApicFault)
  | division (f : DivisionFault)
  deriving DecidableEq, Repr

abbrev LocalApicOutcome := Except LocalApicFault

/-- `Lapic[0]` and what it shares with the rest of the VMM. -/
structure LocalApic where
  ipi : IpiState
  timer : ApicTimer
  apicVersion : BitVec 32
  errorStatus : BitVec 32

namespace LocalApic

variable (a : LocalApic)

def shared : State := a.ipi.shared

def lapic : Lapic := a.ipi.shared.lapic

def setShared (s : State) : LocalApic := { a with ipi := { a.ipi with shared := s } }

def setLapic (l : Lapic) : LocalApic := a.setShared (a.shared.setLapic l)

def setTimer (t : ApicTimer) : LocalApic := { a with timer := t }

/-- `Lapic[0].ShadowErrorStatus |= APIC_ERR_ILLEGAL_ADDR`. -/
def illegalAddress : LocalApic :=
  a.setLapic { a.lapic with
    shadowErrorStatus := Word.set a.lapic.shadowErrorStatus apicErrIllegalAddr }

end LocalApic

/-- `lvt_mask`. -/
def lvtMask (entry : Fin 7) : BitVec 32 :=
  if entry = 0 then 0x000710ff
  else if entry = 3 ∨ entry = 4 then 0x0001f7ff
  else if entry = 5 then 0x000110ff
  else 0x000117ff

/-- `ApicSetLvtEntry`. -/
def apicSetLvtEntry (entry : Fin 7) (value : BitVec 32) (l : Lapic) : Lapic :=
  let stored := value &&& lvtMask entry
  { l with
    localVectorTable := Function.update l.localVectorTable entry
      (if l.softwareEnable = 0 then Word.set stored lapicLvtMasked else stored) }

/-- `ApicGetArbitrationPriority`. -/
def apicGetArbitrationPriority (l : Lapic) : ℕ :=
  let ppr := apicGetProcessPriority l
  let irrPrio := apicHighestPriority l.interruptRequestRegister
  if ppr < irrPrio then irrPrio else ppr

/-- The `switch` of `ApicMMIOWriteHandler`. -/
def apicWriteRegister (clock : BitVec 64) (active : BitVec 8) (value : BitVec 32) (a : LocalApic) :
    Option ApicRegister → LocalApicOutcome (LocalApic × List TimerCall)
  | some .taskPriority => .ok (a.setShared (apicWriteTaskPriority value a.shared), [])
  | some .endOfInterrupt => .ok (a.setShared (apicReceiveEOI a.shared), [])
  | some .logicalDestination =>
      .ok (a.setLapic { a.lapic with destinationLogical := (value >>> 24) &&& 0xf }, [])
  | some .destinationFormat =>
      .ok (a.setLapic { a.lapic with destinationFormat := (value >>> 28) &&& 0xf }, [])
  | some .spuriousVector => .ok (a.setShared (apicWriteSpuriousInterrupt value a.shared), [])
  | some .errorStatus =>
      .ok ({ a.setLapic { a.lapic with shadowErrorStatus := 0 } with
        errorStatus := a.lapic.shadowErrorStatus }, [])
  | some .interruptCommandLow =>
      match apicWriteInterruptCommandLow value a.ipi with
      | .ok ipi => .ok ({ a with ipi := ipi }, [])
      | .error f => .error (.bus f)
  | some .interruptCommandHigh =>
      .ok ({ a with ipi := apicWriteInterruptCommandHigh value a.ipi }, [])
  | some (.localVectorTable entry) => .ok (a.setLapic (apicSetLvtEntry entry value a.lapic), [])
  | some .timerInitialCount =>
      let (t, calls) := apicWriteInitialCount clock active
        (a.lapic.localVectorTable apicLvtTimer) value a.timer
      .ok (a.setTimer t, calls)
  | some .timerDivideConfiguration =>
      .ok (a.setTimer (apicWriteDivideConfiguration value a.timer), [])
  -- all read-only registers
  | some _ => .ok (a, [])
  | none => .ok (a.illegalAddress, [])

/-- `ApicMMIOWriteHandler`. -/
def apicMmioWriteHandler (clock : BitVec 64) (active : BitVec 8)
    (address value length : BitVec 32) (a : LocalApic) :
    LocalApicOutcome (LocalApic × List TimerCall) :=
  if length ≠ 4 ∨ address &&& 0xf ≠ 0 then .ok (a, [])
  else apicWriteRegister clock active value a (apicRegister address)

/-- Two words of a 256-bit register. -/
def vectorRegisterPair (r : VectorRegister) (i : Fin 8) : BitVec 32 :=
  (r ⟨2 * i.val + 1, by omega⟩).setWidth 32 <<< 16 ||| (r ⟨2 * i.val, by omega⟩).setWidth 32

/-- The `LAPIC_SPURIOUS_VECTOR` case of `_ApicMMIOReadHandler`. -/
def apicReadSpuriousInterrupt (l : Lapic) : BitVec 32 :=
  if l.softwareEnable ≠ 0 then l.spuriousVector.setWidth 32 ||| 0x100
  else if l.focusDisable ≠ 0 then l.spuriousVector.setWidth 32 ||| 0x200
  else l.spuriousVector.setWidth 32

/-- The `LAPIC_TIMER_CURRENT_COUNT` case of `_ApicMMIOReadHandler`, which counts the initial count
register down. -/
def apicReadCurrentCount (clock : BitVec 64) (active : BitVec 8) (t : ApicTimer) :
    Except DivisionFault ApicTimer :=
  if active ≠ 0 then
    if t.timerDivideConfigurationRegister = 0 then .error .divByZero
    else
      .ok { t with
        timerInitialCountRegister := t.timerInitialCountRegister -
          (clock - t.timerInitialLoadTime).setWidth 32 / t.timerDivideConfigurationRegister }
  else .ok t

/-- `_ApicMMIOReadHandler`. -/
def apicReadRegister (clock : BitVec 64) (active : BitVec 8) (a : LocalApic) :
    Option ApicRegister → LocalApicOutcome (BitVec 32 × LocalApic)
  | some .id => .ok (a.ipi.apicId <<< 24, a)
  | some .version => .ok (a.apicVersion, a)
  | some .taskPriority => .ok ((a.lapic.taskPriority <<< 4) &&& 0xff, a)
  | some .arbitrationPriority => .ok (BitVec.ofNat 32 (apicGetArbitrationPriority a.lapic), a)
  | some .processPriority => .ok (BitVec.ofNat 32 (apicGetProcessPriority a.lapic), a)
  | some .endOfInterrupt => .ok (0, a)
  | some .logicalDestination => .ok ((a.lapic.destinationLogical &&& 0xf) <<< 24, a)
  | some .destinationFormat => .ok ((a.lapic.destinationFormat &&& 0xf) <<< 28, a)
  | some .spuriousVector => .ok (apicReadSpuriousInterrupt a.lapic, a)
  | some .errorStatus => .ok (a.errorStatus, a)
  | some .interruptCommandLow => .ok (a.ipi.interruptCommandRegisterLow, a)
  | some .interruptCommandHigh => .ok (a.ipi.interruptCommandRegisterHigh, a)
  | some (.localVectorTable entry) => .ok (a.lapic.localVectorTable entry, a)
  | some .timerInitialCount => .ok (a.timer.timerInitialCountRegister, a)
  | some .timerCurrentCount =>
      match apicReadCurrentCount clock active a.timer with
      | .ok t => .ok (t.timerInitialCountRegister, a.setTimer t)
      | .error f => .error (.division f)
  | some .timerDivideConfiguration => .ok (a.timer.timerDivideConfigurationRegister, a)
  | some (.interruptService i) => .ok (vectorRegisterPair a.lapic.interruptServiceRegister i, a)
  | some (.triggerMode i) => .ok (vectorRegisterPair a.lapic.triggerModeRegister i, a)
  | some (.interruptRequest i) => .ok (vectorRegisterPair a.lapic.interruptRequestRegister i, a)
  -- there is no case for `LAPIC_RRD`
  | some .remoteRead | none => .ok (0, a.illegalAddress)

/-- `ApicMMIOReadHandler`; `none` is an access that leaves `Data` as it is. -/
def apicMmioReadHandler (clock : BitVec 64) (active : BitVec 8) (address length : BitVec 32)
    (a : LocalApic) : LocalApicOutcome (Option (BitVec 32) × LocalApic) :=
  if length ≠ 4 ∨ address &&& 0xf ≠ 0 then .ok (none, a)
  else do
    let (value, a) ← apicReadRegister clock active a (apicRegister address)
    return (some value, a)

/-! ## Runs -/

/-- What happens to the local APIC: an access to its page, the expiry of its timer, an interrupt
from the bus, and the acknowledgement of one. -/
inductive LocalApicOp where
  | write (active : BitVec 8) (address value length : BitVec 32)
  | read (active : BitVec 8) (address length : BitVec 32)
  | expire
  | deliver (vector : BitVec 8) (destination destinationMode deliveryMode triggerMode : BitVec 32)
  | acknowledge

/-- A function of the shared globals, as a step of the local APIC. -/
def LocalApic.onShared {α : Type} (f : State → Outcome (α × State)) (a : LocalApic) :
    LocalApicOutcome LocalApic :=
  match f a.shared with
  | .ok (_, s) => .ok (a.setShared s)
  | .error h => .error (.bus (.halt h))

/-- `ApicTimerHandler`. -/
def LocalApic.expire (a : LocalApic) : LocalApicOutcome LocalApic :=
  match apicTimerHandler a.shared a.timer with
  | .ok (s, t, _) => .ok ((a.setShared s).setTimer t)
  | .error h => .error (.bus (.halt h))

/-- The clock and what happens then. -/
def localApicStep (a : LocalApic) : BitVec 64 × LocalApicOp → LocalApicOutcome LocalApic
  | (clock, .write active address value length) => do
      return (← apicMmioWriteHandler clock active address value length a).1
  | (clock, .read active address length) => do
      return (← apicMmioReadHandler clock active address length a).2
  | (_, .expire) => a.expire
  | (_, .deliver vector destination destinationMode deliveryMode triggerMode) =>
      a.onShared
        (apicBusDeliverInterrupt vector destination destinationMode deliveryMode triggerMode)
  | (_, .acknowledge) => a.onShared apicAcknowledgeInterrupt

/-- The timer after `ApicInitialize`. -/
def ApicTimer.initial (timerId : BitVec 32) : ApicTimer where
  timerDivideConfigurationRegister := 0
  timerInitialCountRegister := 0
  timerInitialLoadTime := 0
  timerNextExpire := 0
  timerId := timerId

/-- `Lapic[0]` after `ApicInitialize`, with the rest of the VMM in any state. -/
def LocalApic.initial (s : State) (timerId : BitVec 32) : LocalApic where
  ipi := {
    shared := s.setLapic Lapic.initial
    apicId := 0
    interruptCommandRegisterLow := 0
    interruptCommandRegisterHigh := 0
    deliveries := [] }
  timer := ApicTimer.initial timerId
  apicVersion := 0x60010
  errorStatus := 0

end Svmm
