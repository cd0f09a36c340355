import Svmm.Framework.Word
import Svmm.Construction.DeviceCall

/-!
# The interval timer

`pit.c`: the three counters, their transition times and outputs as functions of the clock, and
the port handlers.  `clock` is what `TimerGetClockNs` returns.
-/

namespace Svmm

/-- `PIT_FREQ`. -/
def pitFreq : BitVec 32 := 1193182

/-- `NANOSECONDS_PER_SECOND`. -/
def nanosecondsPerSecond : BitVec 32 := 1000000000

def rwStateLsb : BitVec 8 := 1
def rwStateMsb : BitVec 8 := 2
def rwStateWord0 : BitVec 8 := 3
def rwStateWord1 : BitVec 8 := 4

/-- `struct Counter`, but for the fields that only unused functions touch. -/
structure PitCounter where
  count : BitVec 32
  countLatched : BitVec 8
  writeState : BitVec 8
  readState : BitVec 8
  mode : BitVec 8
  rwMode : BitVec 8
  bcdMode : BitVec 8
  countWritten : BitVec 8
  inlatch : BitVec 16
  outlatch : BitVec 16
  statusLatch : BitVec 8
  statusLatched : BitVec 8
  nextTransitionTime : BitVec 64
  gate : BitVec 8
  timerId : BitVec 32
  countLoadTime : BitVec 64
  deriving DecidableEq

/-- `Pit`, with `PitChannelSound` and the `ClockNs` that `PitReadHandler` keeps. -/
structure Pit where
  counter : Fin 3 → PitCounter
  interruptEnabled : BitVec 8
  channelSound : BitVec 8
  clockNs : BitVec 64

abbrev PitOutcome := Except DivisionFault

def Pit.setCounter (channel : Fin 3) (c : PitCounter) (p : Pit) : Pit :=
  { p with counter := Function.update p.counter channel c }

/-! ## Time -/

/-- The counter's ticks from its load time to a time. -/
def PitCounter.ticks (c : PitCounter) (currentTime : BitVec 64) : BitVec 64 :=
  muldiv64 (currentTime - c.countLoadTime) pitFreq nanosecondsPerSecond

/-- The tick of the transition that `PitGetNextTransitionTime` finds, before it converts it;
`none` where it returns -1. -/
def PitCounter.nextTick (c : PitCounter) (result : BitVec 64) : PitOutcome (Option (BitVec 64)) :=
  let count := c.count.setWidth 64
  if c.mode = 2 then do
    let base := (← divide result count) * count
    return some (base + count)
  else if c.mode = 3 then do
    let base := (← divide result count) * count
    let period2 := ((c.count + 1) >>> 1).setWidth 64
    if result - base < period2 then return some (base + period2) else return some (base + count)
  else if result < count then .ok (some count)
  else .ok none

/-- `PitGetNextTransitionTime`. -/
def pitGetNextTransitionTime (c : PitCounter) (currentTime : BitVec 64) :
    PitOutcome (BitVec 64) := do
  match ← c.nextTick (c.ticks currentTime) with
  | none => return -1
  | some nextTime =>
    let nextTime := c.countLoadTime + muldiv64 nextTime nanosecondsPerSecond pitFreq
    return (if nextTime ≤ currentTime then currentTime else nextTime) + 1

/-- `PitGetOut`. -/
def pitGetOut (c : PitCounter) (currentTime : BitVec 64) : PitOutcome Bool :=
  let result := c.ticks currentTime
  let count := c.count.setWidth 64
  if c.mode = 1 then .ok (decide (result < count))
  else if c.mode = 2 then do return decide ((← remainder result count) = 0) && decide (result ≠ 0)
  else if c.mode = 3 then do
    return decide ((← remainder result count) < ((c.count + 1) >>> 1).setWidth 64)
  else if c.mode = 4 ∨ c.mode = 5 then .ok (decide (result = count))
  else .ok (decide (count ≤ result))

/-- `PitGetCount`. -/
def pitGetCount (clock : BitVec 64) (c : PitCounter) : PitOutcome (BitVec 32) :=
  let result := c.ticks clock
  let count := c.count.setWidth 64
  if c.mode = 0 ∨ c.mode = 1 ∨ c.mode = 4 ∨ c.mode = 5 then
    .ok (((count - result) &&& 0xffff).setWidth 32)
  else if c.mode = 3 then do return (count - (← remainder (2 * result) count)).setWidth 32
  else do return (count - (← remainder result count)).setWidth 32

/-! ## Interrupts -/

/-- The interrupt calls of `PitIrqTimerUpdate`. -/
def pitIrqCalls (interruptEnabled mode : BitVec 8) (irqLevel timer : Bool) : List DeviceCall :=
  if mode = 2 ∨ mode = 4 ∨ mode = 5 then
    -- flip flop
    if timer ∧ interruptEnabled ≠ 0 then [.lowerIrq 0, .raiseIrq 0] else []
  else if interruptEnabled ≠ 0 then
    if irqLevel then [.raiseIrq 0] else [.lowerIrq 0]
  else []

/-- The call on the timer that `PitIrqTimerUpdate` ends with. -/
def pitTimerCall (timerId : BitVec 32) (expireTime : BitVec 64) : TimerCall :=
  if expireTime ≠ -1 then .activate timerId expireTime 0 else .deactivate timerId

/-- `PitIrqTimerUpdate`. -/
def pitIrqTimerUpdate (channel : Fin 3) (currentTime : BitVec 64) (timer : Bool) (p : Pit) :
    PitOutcome (Pit × List DeviceCall) := do
  let c := p.counter channel
  let expireTime ← pitGetNextTransitionTime c currentTime
  let irqLevel ← pitGetOut c currentTime
  return (p.setCounter channel { c with nextTransitionTime := expireTime },
    pitIrqCalls p.interruptEnabled c.mode irqLevel timer ++
      [.timer (pitTimerCall c.timerId expireTime)])

/-- `PitTimerHandler`, with the parameter that `PitInitialize` registers it with. -/
def pitTimerHandler (p : Pit) : PitOutcome (Pit × List DeviceCall) :=
  pitIrqTimerUpdate 0 (p.counter 0).nextTransitionTime true p

/-- `PitLoadCount`. -/
def pitLoadCount (clock : BitVec 64) (channel : Fin 3) (value : BitVec 32) (p : Pit) :
    PitOutcome (Pit × List DeviceCall) :=
  let c := { p.counter channel with
    count := if value = 0 then 0x10000 else value &&& 0xffff
    countWritten := 1
    countLoadTime := clock }
  pitIrqTimerUpdate channel clock false (p.setCounter channel c)

/-- `PitSetGate`.  The gate it writes is that of counter 2. -/
def pitSetGate (clock : BitVec 64) (channel : Fin 3) (value : BitVec 32) (p : Pit) :
    PitOutcome (Pit × List DeviceCall) := do
  let c := p.counter channel
  let (p, calls) ←
    if (c.mode = 1 ∨ c.mode = 5 ∨ c.mode = 2 ∨ c.mode = 3) ∧ c.gate.setWidth 32 < value then
      pitIrqTimerUpdate channel clock false
        (p.setCounter channel { c with countLoadTime := clock })
    else .ok (p, [])
  return (p.setCounter 2 { p.counter 2 with gate := value.setWidth 8 }, calls)

/-! ## The ports -/

/-- `PitLatchCount`. -/
def pitLatchCount (clock : BitVec 64) (c : PitCounter) : PitOutcome PitCounter :=
  if c.countLatched = 0 then do
    return { c with outlatch := (← pitGetCount clock c).setWidth 16, countLatched := c.rwMode }
  else .ok c

/-- `PitLatchStatus`. -/
def pitLatchStatus (c : PitCounter) : PitOutcome PitCounter :=
  if c.statusLatched = 0 then do
    let out : BitVec 8 := if ← pitGetOut c c.countLoadTime then 1 else 0
    return { c with
      statusLatch := out <<< 7 ||| c.rwMode <<< 4 ||| c.mode <<< 1 ||| c.bcdMode
      statusLatched := 1 }
  else .ok c

/-- The counter that a port selects. -/
def pitPortChannel (address : BitVec 32) : Fin 3 := if address &&& 2 = 0 then 0 else 2

/-- The read-back command, for one counter. -/
def pitReadBackOne (clock : BitVec 64) (value : BitVec 32) (p : Pit) (channel : Fin 3) :
    PitOutcome Pit :=
  if value &&& (2 <<< channel.val) = 0 then .ok p
  else do
    let c := p.counter channel
    let c ← if value &&& 0x20 = 0 then pitLatchCount clock c else .ok c
    let c ← if value &&& 0x10 = 0 ∧ c.statusLatched = 0 then pitLatchStatus c else .ok c
    return p.setCounter channel c

/-- The control word for one counter. -/
def pitControlOne (clock : BitVec 64) (value : BitVec 32) (c : PitCounter) :
    PitOutcome PitCounter :=
  let access : BitVec 8 := ((value >>> 4) &&& 3).setWidth 8
  if access = 0 then pitLatchCount clock c
  else
    let mode : BitVec 8 := ((value >>> 1) &&& 7).setWidth 8
    .ok { c with
      readState := access
      writeState := access
      mode := if 5 < mode then mode - 4 else mode
      rwMode := access
      bcdMode := (value &&& 1).setWidth 8 }

/-- The data ports of `PitWriteHandler`. -/
def pitWriteCount (clock : BitVec 64) (channel : Fin 3) (value : BitVec 32) (p : Pit) :
    PitOutcome (Pit × List DeviceCall) :=
  let c := p.counter channel
  if c.writeState = rwStateMsb then pitLoadCount clock channel (value <<< 8) p
  else if c.writeState = rwStateWord0 then
    .ok (p.setCounter channel
      { c with inlatch := (value.setWidth 8).setWidth 16, writeState := rwStateWord1 }, [])
  else if c.writeState = rwStateWord1 then do
    let (p, calls) ←
      pitLoadCount clock channel (c.inlatch.setWidth 32 ||| (value &&& 0xff) <<< 8) p
    return (p.setCounter channel { p.counter channel with writeState := rwStateWord0 }, calls)
  else pitLoadCount clock channel value p

/-- The command port of `PitWriteHandler`. -/
def pitWriteControl (clock : BitVec 64) (value : BitVec 32) (p : Pit) :
    PitOutcome (Pit × List DeviceCall) :=
  let channel := (value >>> 6) &&& 3
  if channel = 3 then do
    -- `PIT_READ_BACK`
    return (← [0, 1, 2].foldlM (pitReadBackOne clock value) p, [])
  else
    let channel : Fin 3 := if channel = 0 then 0 else if channel = 1 then 1 else 2
    do return (p.setCounter channel (← pitControlOne clock value (p.counter channel)), [])

/-- `PitWriteHandler`. -/
def pitWriteHandler (clock : BitVec 64) (address value : BitVec 32) (p : Pit) :
    PitOutcome (Pit × List DeviceCall) :=
  if address = 0x40 ∨ address = 0x41 ∨ address = 0x42 then
    pitWriteCount clock (pitPortChannel address) value p
  else if address = 0x43 then pitWriteControl clock value p
  else if address = 0x61 then
    pitSetGate clock 2 (value &&& 1)
      { p with channelSound := ((value >>> 1) &&& 1).setWidth 8 }
  else .ok (p, [])

/-- Port 0x61 of `PitReadHandler`: the gate, the refresh bit and the output of counter 2. -/
def pitReadGate (clock : BitVec 64) (p : Pit) : PitOutcome (BitVec 32 × Pit) := do
  let now := clock + p.clockNs
  let refresh : BitVec 32 := ((now / 15085) &&& 1).setWidth 32
  let out : BitVec 32 := if ← pitGetOut (p.counter 2) now then 1 else 0
  return ((p.counter 2).gate.setWidth 32 ||| refresh <<< 4 ||| out <<< 5,
    { p with clockNs := p.clockNs + 4000000 })

/-- A latched count is read. -/
def PitCounter.readLatch (c : PitCounter) : BitVec 32 × PitCounter :=
  if c.countLatched = rwStateMsb then
    (((c.outlatch >>> 8) &&& 0xff).setWidth 32, { c with countLatched := 0 })
  else if c.countLatched = rwStateWord0 then
    ((c.outlatch &&& 0xff).setWidth 32, { c with countLatched := rwStateMsb })
  else ((c.outlatch &&& 0xff).setWidth 32, { c with countLatched := 0 })

/-- The running count is read. -/
def PitCounter.readCount (clock : BitVec 64) (c : PitCounter) :
    PitOutcome (BitVec 32 × PitCounter) := do
  let count ← pitGetCount clock c
  if c.readState = rwStateMsb then return ((count >>> 8) &&& 0xff, c)
  else if c.readState = rwStateWord0 then
    return (count &&& 0xff, { c with readState := rwStateMsb })
  else if c.readState = rwStateWord1 then
    return ((count >>> 8) &&& 0xff, { c with readState := rwStateWord0 })
  else return (count &&& 0xff, c)

/-- `PitReadHandler`. -/
def pitReadHandler (clock : BitVec 64) (address : BitVec 32) (p : Pit) :
    PitOutcome (BitVec 32 × Pit) :=
  if address = 0x61 then pitReadGate clock p
  else
    let channel := pitPortChannel address
    let c := p.counter channel
    if c.statusLatched ≠ 0 then
      .ok (c.statusLatch.setWidth 32, p.setCounter channel { c with statusLatched := 0 })
    else if c.countLatched ≠ 0 then
      let (value, c) := c.readLatch
      .ok (value, p.setCounter channel c)
    else do
      let (value, c) ← c.readCount clock
      return (value, p.setCounter channel c)

/-- The counters after `PitInitialize`; only counter 0 has a timer. -/
def PitCounter.initial (timerId : BitVec 32) : PitCounter where
  count := 0
  countLatched := 0
  writeState := rwStateLsb
  readState := rwStateLsb
  mode := 4
  rwMode := 1
  bcdMode := 0
  countWritten := 0
  inlatch := 0
  outlatch := 0
  statusLatch := 0
  statusLatched := 0
  nextTransitionTime := 0
  gate := 1
  timerId := timerId
  countLoadTime := 0

/-- `Pit` after `PitInitialize`. -/
def Pit.initial (timerId : BitVec 32) : Pit where
  counter := Function.update (fun _ => PitCounter.initial 0) 0 (PitCounter.initial timerId)
  interruptEnabled := 1
  channelSound := 0
  clockNs := 0

/-! ## Runs -/

/-- What happens to the interval timer: an access to a port, of any width, and the call that its
timer was registered with. -/
inductive PitOp where
  | write (address value : BitVec 32)
  | read (address : BitVec 32)
  | tick

/-- The clock and what happens then. -/
def pitStep (p : Pit) : BitVec 64 × PitOp → PitOutcome Pit
  | (clock, .write address value) => do return (← pitWriteHandler clock address value p).1
  | (clock, .read address) => do return (← pitReadHandler clock address p).2
  | (_, .tick) => do return (← pitTimerHandler p).1

end Svmm
