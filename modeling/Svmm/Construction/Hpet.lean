import Svmm.Construction.DeviceCall
import Svmm.Framework.Word

/-!
# The high precision event timer

The main counter of `hpet.c` as a function of the clock, and `HpetUpdateTimer`, which arms the
timer of a comparator.  `clock` is what `TimerGetClockNs` returns.
-/

namespace Svmm

/-- Bit of `HPET_TIMER_CONF_PERIODIC_ENABLED`. -/
def hpetTimerConfPeriodicEnabled : ℕ := 3

/-- The fields of `HPET` that set the main counter. -/
structure HpetReference where
  referenceTime : BitVec 64
  referenceValue : BitVec 64
  deriving DecidableEq

/-- The fields of `HPET_TIMER_BLOCK` that `HpetUpdateTimer` reads. -/
structure HpetTimerBlock where
  configCapabilities : BitVec 32
  comparator : BitVec 64
  timerId : BitVec 32
  deriving DecidableEq

/-- `HpetGetTicks`. -/
def hpetGetTicks (clock : BitVec 64) (h : HpetReference) : BitVec 64 :=
  (clock - h.referenceTime) / 10 + h.referenceValue

/-- `HpetTicksToNs`. -/
def hpetTicksToNs (ticks : BitVec 64) : BitVec 64 := ticks * 10

/-- `HpetUpdateTimer`.  The mask is the `BYTE` argument `OneShot`. -/
def hpetUpdateTimer (clock : BitVec 64) (h : HpetReference) (b : HpetTimerBlock) : TimerCall :=
  let currentTick := hpetGetTicks clock h
  let diff := b.comparator - currentTick
  .activate b.timerId (hpetTicksToNs diff)
    ((b.configCapabilities &&& Word.bit hpetTimerConfPeriodicEnabled).setWidth 8)

end Svmm
