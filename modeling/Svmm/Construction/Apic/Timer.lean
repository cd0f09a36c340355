import Svmm.Construction.Apic.Ipi
import Svmm.Construction.Apic.Registers
import Svmm.Construction.Timer

/-!
# The local APIC timer

`ApicGetNextTimerCount`, `ApicTimerHandler` and the initial-count and divide cases of
`ApicMMIOWriteHandler`.  `clock` is what `TimerGetClockNs` returns.
-/

namespace Svmm

/-- `APIC_LVT_TIMER`. -/
def apicLvtTimer : Fin 7 := 0

/-- Bit of `LAPIC_TIMER_PERIODIC`. -/
def lapicTimerPeriodic : ℕ := 17

/-- The timer fields of `LAPIC`. -/
structure ApicTimer where
  timerDivideConfigurationRegister : BitVec 32
  timerInitialCountRegister : BitVec 32
  timerInitialLoadTime : BitVec 64
  timerNextExpire : BitVec 64
  timerId : BitVec 32
  deriving DecidableEq

namespace ApicTimer

variable (t : ApicTimer)

/-- The divide register as a shift count, which the processor takes modulo 64. -/
def shift : ℕ := t.timerDivideConfigurationRegister.toNat % 64

/-- `(ULONG64)TimerInitialCountRegister + 1`. -/
def period : BitVec 64 := t.timerInitialCountRegister.setWidth 64 + 1

end ApicTimer

/-- `!(LocalVectorTable[APIC_LVT_TIMER] & LAPIC_TIMER_PERIODIC)`. -/
def apicTimerOneShot (lvt : BitVec 32) : BitVec 8 :=
  if Word.has lvt lapicTimerPeriodic then 0 else 1

/-- `ApicGetNextTimerCount`; `lvt` is `LocalVectorTable[APIC_LVT_TIMER]`. -/
def apicGetNextTimerCount (lvt : BitVec 32) (currentTime : BitVec 64) (t : ApicTimer) :
    BitVec 64 :=
  let timePassed := (currentTime - t.timerInitialLoadTime) >>> t.shift
  if Word.has lvt lapicTimerPeriodic then
    if t.timerInitialCountRegister = 0 then 0
    else t.timerInitialLoadTime + (((timePassed / t.period) + 1) * t.period) <<< t.shift
  else if t.timerInitialCountRegister.setWidth 64 ≤ timePassed then 0
  else t.timerInitialLoadTime + t.period <<< t.shift

/-- `ApicTimerHandler`, with the parameter that `ApicReset` registers it with. -/
def apicTimerHandler (s : State) (t : ApicTimer) : Outcome (State × ApicTimer × List TimerCall) :=
  let lvt := s.lapic.localVectorTable apicLvtTimer
  if Word.has lvt lapicLvtMasked then .ok (s, t, [])
  else do
    let (_, s) ← apicBusDeliverInterrupt ((lvt &&& 0xff).setWidth 8) 0 destinationModePhysical
      (lvt &&& deliveryModeMask) (lvt &&& lapicTriggerModeMask) s
    let lvt := s.lapic.localVectorTable apicLvtTimer
    let t := { t with timerNextExpire := apicGetNextTimerCount lvt t.timerInitialLoadTime t }
    return (s, t, [.activate t.timerId t.timerNextExpire (apicTimerOneShot lvt)])

/-- The end of a count that starts at the load time, as the initial-count write computes it. -/
def ApicTimer.countEnd (t : ApicTimer) : BitVec 64 :=
  t.timerInitialLoadTime + t.timerInitialCountRegister.setWidth 64 *
    t.timerDivideConfigurationRegister.setWidth 64

/-- The `LAPIC_TIMER_INITIAL_COUNT` case; `active` is `TimerGetState(TimerId)`. -/
def apicWriteInitialCount (clock : BitVec 64) (active : BitVec 8) (lvt value : BitVec 32)
    (t : ApicTimer) : ApicTimer × List TimerCall :=
  let stop : List TimerCall := if active ≠ 0 then [.deactivate t.timerId] else []
  if value = 0 then (t, stop)
  else
    let t := { t with timerInitialCountRegister := value, timerInitialLoadTime := clock }
    (t, stop ++ [.activate t.timerId t.countEnd (apicTimerOneShot lvt)])

/-- The `LAPIC_TIMER_DIVIDE_CFG` case. -/
def apicWriteDivideConfiguration (value : BitVec 32) (t : ApicTimer) : ApicTimer :=
  let value := (value &&& 8) >>> 1 ||| value &&& 3
  { t with timerDivideConfigurationRegister := if value = 7 then 1 else 2 <<< value.toNat }

end Svmm
