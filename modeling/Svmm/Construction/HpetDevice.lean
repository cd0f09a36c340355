import Svmm.Construction.Hpet

/-!
# The registers of the high precision event timer

The whole of `hpet.c`: the interrupt and timer calls of a comparator, `HpetTimerHandler`, and the
two handlers of the register page.  `Timer[i].Id` is `i` from `HpetInitialize` on, so a pointer to
a timer block is its index.  A call on behalf of a timer carries that index, which nothing reads.
-/

namespace Svmm

/-- Bit of `HPET_CONFIG_ENABLED`. -/
def hpetConfigEnabled : ℕ := 0

/-- Bit of `HPET_CONFIG_LEGACY`. -/
def hpetConfigLegacy : ℕ := 1

/-- Bit of `HPET_TIMER_CONF_EDGE_LEVEL`. -/
def hpetTimerConfEdgeLevel : ℕ := 1

/-- Bit of `HPET_TIMER_CONF_IRQ_ENABLE`. -/
def hpetTimerConfIrqEnable : ℕ := 2

/-- Bit of `HPET_TIMER_CONF_VALUE_SET`. -/
def hpetTimerConfValueSet : ℕ := 6

/-- Bit of `HPET_TIMER_CONF_TIMER_32BIT`. -/
def hpetTimerConfTimer32bit : ℕ := 8

/-- Bit of `HPET_TIMER_CONF_FSB_ENABLE`. -/
def hpetTimerConfFsbEnable : ℕ := 14

def hpetTimerConfIntRouteMask : BitVec 32 := 0x3e00
def hpetTimerConfIntRouteShift : ℕ := 9
def hpetTimerConfCfgWriteMask : BitVec 32 := 0x7f4e

/-- `PIT_IRQ`. -/
def pitIrq : BitVec 8 := 0

/-- `HPET_TIMER_BLOCK`, but for `Id`. -/
structure HpetTimer extends HpetTimerBlock where
  interruptRoutingCapability : BitVec 32
  frontSideBusInterruptValue : BitVec 32
  frontSideBusInterruptAddress : BitVec 32
  lastTimeChecked : BitVec 64
  timerPeriod : BitVec 64
  deriving DecidableEq

/-- `HPET`, with the three of its timer blocks that are used. -/
structure Hpet extends HpetReference where
  globalCapabilities : BitVec 32
  clockPeriod : BitVec 32
  globalConfiguration : BitVec 64
  interruptStatus : BitVec 64
  counter : BitVec 64
  timer : Fin 3 → HpetTimer

/-- The calls of `hpet.c` on other modules. -/
inductive HpetCall where
  /-- `PicRaiseIrq`. -/
  | raiseIrq (i : Fin 3) (irqNumber : BitVec 8)
  /-- `PicLowerIrq`. -/
  | lowerIrq (i : Fin 3) (irqNumber : BitVec 8)
  /-- The store through `SvmmGetHostAddress`. -/
  | store (address value : BitVec 32)
  /-- `PitSetInterrupt`. -/
  | pitSetInterrupt (enable : BitVec 8)
  /-- `CmosSetInterrupt`. -/
  | cmosSetInterrupt (enable : BitVec 8)
  | timer (call : TimerCall)
  deriving DecidableEq

/-- The loop of `HpetTimerHandler` may not end. -/
inductive HpetFault where
  | hang
  deriving DecidableEq, Repr

abbrev HpetOutcome := Except HpetFault

namespace Hpet

/-- `GlobalConfiguration & HPET_CONFIG_ENABLED`. -/
def enabled (h : Hpet) : Bool := Word.has h.globalConfiguration hpetConfigEnabled

/-- `GlobalConfiguration & HPET_CONFIG_LEGACY`. -/
def legacy (h : Hpet) : Bool := Word.has h.globalConfiguration hpetConfigLegacy

/-- `InterruptStatus & (1ULL << i)`. -/
def status (h : Hpet) (i : Fin 3) : Bool := Word.has h.interruptStatus i.val

def setTimer (i : Fin 3) (b : HpetTimer) (h : Hpet) : Hpet :=
  { h with timer := Function.update h.timer i b }

end Hpet

namespace HpetTimer

variable (b : HpetTimer)

def level : Bool := Word.has b.configCapabilities hpetTimerConfEdgeLevel

def irqEnable : Bool := Word.has b.configCapabilities hpetTimerConfIrqEnable

def periodic : Bool := Word.has b.configCapabilities hpetTimerConfPeriodicEnabled

def valueSet : Bool := Word.has b.configCapabilities hpetTimerConfValueSet

def timer32bit : Bool := Word.has b.configCapabilities hpetTimerConfTimer32bit

def fsbEnable : Bool := Word.has b.configCapabilities hpetTimerConfFsbEnable

/-- The route field. -/
def route : BitVec 8 :=
  ((b.configCapabilities &&& hpetTimerConfIntRouteMask) >>> hpetTimerConfIntRouteShift).setWidth 8

end HpetTimer

/-- A loop over the three timers. -/
def hpetForTimers (f : Fin 3 → Hpet → Hpet × List HpetCall) (h : Hpet) : Hpet × List HpetCall :=
  let (h, calls₀) := f 0 h
  let (h, calls₁) := f 1 h
  let (h, calls₂) := f 2 h
  (h, calls₀ ++ calls₁ ++ calls₂)

/-! ## Interrupts and timers -/

/-- The `IrqNumber` of `HpetUpdateIrq`.  The bit it tests for legacy replacement is that of the
timer's own configuration. -/
def hpetIrqNumber (i : Fin 3) (b : HpetTimer) : BitVec 8 :=
  if Word.has b.configCapabilities hpetConfigLegacy then if i ≠ 0 then rtcIrq else pitIrq
  else b.route

/-- `HpetUpdateIrq`. -/
def hpetUpdateIrq (i : Fin 3) (raiseIrq : Bool) (h : Hpet) : Hpet × List HpetCall :=
  let b := h.timer i
  let irqNumber := hpetIrqNumber i b
  if raiseIrq && h.enabled then
    -- the status is set even where the interrupt is not
    let h := if b.level then { h with interruptStatus := Word.set h.interruptStatus i.val } else h
    if b.irqEnable = false then (h, [])
    else if b.fsbEnable then
      (h, [.store b.frontSideBusInterruptAddress b.frontSideBusInterruptValue])
    else if b.level = false then (h, [.lowerIrq i irqNumber, .raiseIrq i irqNumber])
    else (h, [.raiseIrq i irqNumber])
  else (h, [.lowerIrq i irqNumber])

/-- `HpetUpdateTimer`, on a timer block of `Hpet`. -/
def hpetTimerCall (clock : BitVec 64) (i : Fin 3) (h : Hpet) : HpetCall :=
  .timer (hpetUpdateTimer clock h.toHpetReference (h.timer i).toHpetTimerBlock)

/-- `HpetDisableTimer`. -/
def hpetDisableTimer (i : Fin 3) (h : Hpet) : Hpet × List HpetCall :=
  let (g, calls) := hpetUpdateIrq i false h
  (g, .timer (.deactivate (h.timer i).timerId) :: calls)

/-- The test of `HpetTimerHandler`. -/
def hpetPassed (lastTimeChecked comparator currentTick : BitVec 64) : Bool :=
  decide (lastTimeChecked ≤ currentTick ∧ lastTimeChecked ≤ comparator ∧ comparator ≤ currentTick)

/-- The `do` loop of `HpetTimerHandler`, for a number of turns. -/
def hpetCatchUp (lastTimeChecked currentTick timerPeriod : BitVec 64) :
    ℕ → BitVec 64 → HpetOutcome (BitVec 64)
  | 0, _ => .error .hang
  | turns + 1, comparator =>
    let comparator := comparator + timerPeriod
    if hpetPassed lastTimeChecked comparator currentTick then
      hpetCatchUp lastTimeChecked currentTick timerPeriod turns comparator
    else .ok comparator

/-- The branch of `HpetTimerHandler` that fires.  A turn of its loop sees nothing but the
comparator, so a loop of `2 ^ 64` turns has come back to one it saw, and does not end. -/
def hpetFire (currentTick : BitVec 64) (i : Fin 3) (h : Hpet) :
    HpetOutcome (Hpet × List HpetCall) :=
  let b := h.timer i
  let (g, calls) := hpetUpdateIrq i true h
  if b.periodic && decide (b.timerPeriod ≠ 0) then do
    let comparator ← hpetCatchUp b.lastTimeChecked currentTick b.timerPeriod (2 ^ 64) b.comparator
    return (g.setTimer i { b with comparator := comparator }, calls)
  else .ok (g, calls)

/-- `HpetTimerHandler`. -/
def hpetTimerHandler (clock : BitVec 64) (i : Fin 3) (h : Hpet) :
    HpetOutcome (Hpet × List HpetCall) := do
  let b := h.timer i
  let currentTick := hpetGetTicks clock h.toHpetReference
  let (g, calls) ←
    if hpetPassed b.lastTimeChecked b.comparator currentTick ||
        (decide (b.lastTimeChecked ≤ b.comparator) || decide (b.comparator ≤ currentTick)) then
      hpetFire currentTick i h
    else .ok (h, [])
  return (g.setTimer i { g.timer i with lastTimeChecked := currentTick },
    calls ++ [hpetTimerCall clock i g])

/-! ## Writes -/

/-- The `HPET_CONFIGURE` case when the counter starts. -/
def hpetEnable (clock : BitVec 64) (h : Hpet) : Hpet × List HpetCall :=
  hpetForTimers (fun i h =>
      let (h, calls) :=
        if (h.timer i).irqEnable && h.status i then hpetUpdateIrq i true h else (h, [])
      (h, calls ++ [hpetTimerCall clock i h]))
    { h with referenceTime := clock, referenceValue := h.counter }

/-- The `HPET_CONFIGURE` case when the counter halts. -/
def hpetDisable (clock : BitVec 64) (h : Hpet) : Hpet × List HpetCall :=
  hpetForTimers hpetDisableTimer { h with counter := hpetGetTicks clock h.toHpetReference }

/-- The `HPET_CONFIGURE` case. -/
def hpetWriteConfigure (clock : BitVec 64) (value : BitVec 32) (h : Hpet) :
    Hpet × List HpetCall :=
  let (g, calls) :=
    if Word.has value hpetConfigEnabled && !h.enabled then hpetEnable clock h
    else if h.enabled && !Word.has value hpetConfigEnabled then hpetDisable clock h
    else (h, [])
  let legacyCalls : List HpetCall :=
    if Word.has value hpetConfigLegacy && !g.legacy then [.pitSetInterrupt 0, .cmosSetInterrupt 0]
    else if g.legacy && !Word.has value hpetConfigLegacy then
      [.pitSetInterrupt 1, .cmosSetInterrupt 1]
    else []
  ({ g with
    globalConfiguration := g.globalConfiguration &&& ~~~3 ||| (value &&& 3).setWidth 64 },
    calls ++ legacyCalls)

/-- The `HPET_STATUS` case. -/
def hpetWriteStatus (value : BitVec 32) (h : Hpet) : Hpet × List HpetCall :=
  hpetForTimers (fun i h =>
      if Word.has value i.val && h.status i then
        let (h, calls) := hpetUpdateIrq i false h
        ({ h with interruptStatus := Word.clear h.interruptStatus i.val }, calls)
      else (h, []))
    h

/-- `Hpet.Counter` is written, and every timer is checked from there. -/
def Hpet.setCounter (counter : BitVec 64) (h : Hpet) : Hpet :=
  { h with
    counter := counter
    timer := fun i => { h.timer i with lastTimeChecked := counter } }

/-- The `HPET_COUNTER + 4` case. -/
def hpetWriteCounterHigh (value : BitVec 32) (h : Hpet) : Hpet :=
  if h.enabled then h
  else h.setCounter (h.counter &&& (0xffffffff : BitVec 64) ||| value.setWidth 64 <<< 32)

/-- The `HPET_COUNTER` case, which goes on into the next one. -/
def hpetWriteCounterLow (value : BitVec 32) (h : Hpet) : Hpet :=
  hpetWriteCounterHigh value
    (if h.enabled then h
    else h.setCounter (h.counter &&& 0xffffffff00000000 ||| value.setWidth 64))

/-- The timer block after a write of its configuration. -/
def HpetTimer.configure (value : BitVec 32) (b : HpetTimer) : HpetTimer :=
  -- the upper half of the mask leaves nothing of a 32-bit register
  let b := { b with configCapabilities := value &&& hpetTimerConfCfgWriteMask }
  if b.timer32bit then
    { b with
      comparator := b.comparator &&& 0xffffffff
      timerPeriod := b.timerPeriod &&& 0xffffffff }
  else b

/-- The `HPET_TIMER_CONFIG` case. -/
def hpetWriteTimerConfig (clock : BitVec 64) (i : Fin 3) (value : BitVec 32) (h : Hpet) :
    Hpet × List HpetCall :=
  let b := (h.timer i).configure value
  let h := h.setTimer i b
  let h :=
    if b.fsbEnable || !b.level then
      { h with interruptStatus := Word.clear h.interruptStatus i.val }
    else h
  let (h, calls) :=
    if b.irqEnable && h.enabled then hpetUpdateIrq i (h.status i) h else (h, [])
  (h, if h.enabled then calls ++ [hpetTimerCall clock i h] else calls)

/-- A write of one half of the comparator, given as a function on the 64 bits it is part of. -/
def hpetWriteComparator (clock : BitVec 64) (i : Fin 3) (half : BitVec 64 → BitVec 64) (h : Hpet) :
    Hpet × List HpetCall :=
  let b := h.timer i
  let h := h.setTimer i { b with
    comparator := if !b.periodic || b.valueSet then half b.comparator else b.comparator
    timerPeriod := half b.timerPeriod
    configCapabilities := Word.clear b.configCapabilities hpetTimerConfValueSet }
  (h, if h.enabled then [hpetTimerCall clock i h] else [])

/-- The `switch` on the registers of a timer. -/
def hpetWriteTimer (clock : BitVec 64) (i : Fin 3) (register value : BitVec 32) (h : Hpet) :
    Hpet × List HpetCall :=
  let b := h.timer i
  if register = 0x00 then hpetWriteTimerConfig clock i value h
  else if register = 0x08 then
    hpetWriteComparator clock i (fun x => x &&& 0xffffffff00000000 ||| value.setWidth 64) h
  else if register = 0x0c then
    if b.timer32bit then (h, [])
    else
      hpetWriteComparator clock i
        (fun x => x &&& (0xffffffff : BitVec 64) ||| value.setWidth 64 <<< 32) h
  else if register = 0x10 then
    -- this case goes on into the next one
    (h.setTimer i { b with
      frontSideBusInterruptValue := value, frontSideBusInterruptAddress := value }, [])
  else if register = 0x14 then
    (h.setTimer i { b with frontSideBusInterruptAddress := value }, [])
  else (h, [])

/-- The timer that an index selects. -/
def hpetTimerIndex (index : BitVec 32) : Option (Fin 3) :=
  let timerId := (index.toNat - 0x100) / 0x20
  if h : timerId < 3 then some ⟨timerId, h⟩ else none

/-- `_HpetWriteMmioHandler`. -/
def hpetWrite (clock : BitVec 64) (address value : BitVec 32) (h : Hpet) : Hpet × List HpetCall :=
  let index := address &&& 0x3ff
  if index.toNat < 0x100 then
    if index = 0x010 then hpetWriteConfigure clock value h
    else if index = 0x020 then hpetWriteStatus value h
    else if index = 0x0f0 then (hpetWriteCounterLow value h, [])
    else if index = 0x0f4 then (hpetWriteCounterHigh value h, [])
    else (h, [])
  else
    match hpetTimerIndex index with
    | none => (h, [])
    | some i => hpetWriteTimer clock i (index &&& 0x1f) value h

/-- `HpetWriteMmioHandler`. -/
def hpetWriteMmioHandler (clock : BitVec 64) (address : BitVec 32) (value : BitVec 64)
    (length : BitVec 32) (h : Hpet) : Hpet × List HpetCall :=
  if length = 4 then hpetWrite clock address (value.setWidth 32) h
  else if length = 8 then
    let (h, calls) := hpetWrite clock address (value.setWidth 32) h
    let (h, calls') := hpetWrite clock (address + 4) ((value >>> 32).setWidth 32) h
    (h, calls ++ calls')
  else (h, [])

/-! ## Reads -/

/-- The `switch` on the registers of a timer. -/
def hpetReadTimer (register : BitVec 32) (b : HpetTimer) : BitVec 32 :=
  if register = 0x00 then b.configCapabilities
  else if register = 0x04 then b.interruptRoutingCapability
  else if register = 0x08 then b.comparator.setWidth 32
  else if register = 0x0c then (b.comparator >>> 32).setWidth 32
  else if register = 0x10 then b.frontSideBusInterruptValue
  else if register = 0x14 then b.frontSideBusInterruptAddress
  else 0

/-- The main counter as the guest sees it. -/
def Hpet.visibleCounter (clock : BitVec 64) (h : Hpet) : BitVec 64 :=
  if h.enabled then hpetGetTicks clock h.toHpetReference else h.counter

/-- `_HpetReadMmioHandler`; it returns no value for a timer past the third. -/
def hpetRead (clock : BitVec 64) (address : BitVec 32) (h : Hpet) : Option (BitVec 32) :=
  let index := address &&& 0x3ff
  if index.toNat < 0x100 then
    if index = 0x000 then some h.globalCapabilities
    else if index = 0x004 then some h.clockPeriod
    else if index = 0x010 then some (h.globalConfiguration.setWidth 32)
    else if index = 0x014 then some ((h.globalConfiguration >>> 32).setWidth 32)
    else if index = 0x020 then some (h.interruptStatus.setWidth 32)
    else if index = 0x024 then some ((h.interruptStatus >>> 32).setWidth 32)
    else if index = 0x0f0 then some ((h.visibleCounter clock).setWidth 32)
    else if index = 0x0f4 then some ((h.visibleCounter clock >>> 32).setWidth 32)
    else some 0
  else (hpetTimerIndex index).map fun i => hpetReadTimer (index &&& 0x1f) (h.timer i)

/-- `HpetReadMmioHandler`; `none` where it leaves `Data` alone, or writes no value of its own. -/
def hpetReadMmioHandler (clock : BitVec 64) (address length : BitVec 32) (h : Hpet) :
    Option (BitVec 32) :=
  if length = 1 then (hpetRead clock address h).map (· &&& 0xff)
  else if length = 2 then (hpetRead clock address h).map (· &&& 0xffff)
  else if length = 4 then hpetRead clock address h
  else none

/-! ## Runs -/

/-- What happens to the HPET: an access to its page, and the expiry of a timer. -/
inductive HpetOp where
  | write (address : BitVec 32) (value : BitVec 64) (length : BitVec 32)
  | read (address length : BitVec 32)
  | expire (i : Fin 3)

/-- The clock and what happens then. -/
def hpetStep (h : Hpet) : BitVec 64 × HpetOp → HpetOutcome Hpet
  | (clock, .write address value length) =>
      .ok (hpetWriteMmioHandler clock address value length h).1
  | (_, .read _ _) => .ok h
  | (clock, .expire i) => do return (← hpetTimerHandler clock i h).1

/-- `Hpet` after `HpetInitialize`, with the identifiers that `TimerCreate` returned. -/
def Hpet.initial (timerId : Fin 3 → BitVec 32) : Hpet where
  referenceTime := 0
  referenceValue := 0
  -- revision 1, three timers, a 64-bit counter, legacy replacement, vendor 0x8086
  globalCapabilities := 0x8086a201
  clockPeriod := 10000000
  globalConfiguration := 0
  interruptStatus := 0
  counter := 0
  timer := fun i => {
    configCapabilities := 0
    comparator := 0
    timerId := timerId i
    interruptRoutingCapability := 0
    frontSideBusInterruptValue := 0
    frontSideBusInterruptAddress := 0
    lastTimeChecked := 0
    timerPeriod := 0 }

end Svmm
