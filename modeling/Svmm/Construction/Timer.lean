import Svmm.Framework.Run
import Svmm.Framework.Sse
import Mathlib.Logic.Function.Basic

/-!
# Timers

`timer.c`: the table of software timers, the clock, and `TimerTick`, which the run loop calls
as time passes.

What the handler of a timer does is not `timer.c`'s: a tick takes as input the timer calls that
each handler makes, should its timer fire.  No handler creates a timer.  Four history variables
that no function reads record, for each timer, the clock at its activation or last firing and
whether an earlier life of it has ended, and for the table, every firing and every activation of
a timer after the end of an earlier life.
-/

namespace Svmm

/-- `muldiv64`. -/
def muldiv64 (a : BitVec 64) (b c : BitVec 32) : BitVec 64 :=
  let a128 := Sse.setEpi64x 0 a
  let b128 := Sse.set1Epi32 b
  let mulResult := Sse.mulEpu32 a128 b128
  let lo := Sse.cvtsi128Si64 mulResult
  let hi := Sse.extractEpi32 mulResult 1
  (hi.setWidth 64 <<< 32 ||| lo) / c.setWidth 64

/-- `MSECOND_TO_NANOSECONDS`. -/
def msecondToNanoseconds : BitVec 32 := 1000000

/-- `CPU_FREQ`. -/
def cpuFreq : BitVec 32 := 4000000

/-- `sizeof(Timers) / sizeof(TIMER)`. -/
def maxTimers : ℕ := 32

/-- The fields of `TIMER` but for the handler and its parameter.  `TimeToFire` is signed. -/
structure Timer where
  nseconds : BitVec 64
  timeToFire : BitVec 64
  active : BitVec 8
  oneShot : BitVec 8
  deriving DecidableEq

/-- A call of a timer's handler: the duration that was programmed, the clock at the activation
or the firing before, and the clock at the call. -/
structure Firing where
  timer : Fin maxTimers
  nseconds : BitVec 64
  since : BitVec 64
  clock : BitVec 64
  deriving DecidableEq

/-- An activation of a timer of which an earlier life has ended: the duration asked for, and the
countdown that the activation leaves. -/
structure Reactivation where
  timer : Fin maxTimers
  nseconds : BitVec 64
  timeToFire : BitVec 64
  deriving DecidableEq

/-- The globals of `timer.c`, and the history. -/
structure TimerState where
  timersIdx : BitVec 32
  ticksTotal : BitVec 64
  nsecondsTotal : BitVec 64
  timers : Fin maxTimers → Timer
  since : Fin maxTimers → BitVec 64
  ended : Fin maxTimers → Bool
  firings : List Firing
  reactivations : List Reactivation

/-- An access to `Timers` past its end. -/
inductive TimerFault where
  | outOfBounds
  deriving DecidableEq, Repr

/-- The globals after `TimerInitialize`. -/
def timerInitialize : TimerState where
  timersIdx := 0
  ticksTotal := 0
  nsecondsTotal := 0
  timers := fun _ => { nseconds := 0, timeToFire := 0, active := 0, oneShot := 0 }
  since := fun _ => 0
  ended := fun _ => false
  firings := []
  reactivations := []

/-- `TimerGetClockNs`. -/
def timerGetClockNs (s : TimerState) : BitVec 64 :=
  muldiv64 s.ticksTotal msecondToNanoseconds cpuFreq

/-- The place of `Timers[index]`. -/
def timerIndex (index : BitVec 32) : Except TimerFault (Fin maxTimers) :=
  if h : index.toNat < maxTimers then .ok ⟨index.toNat, h⟩ else .error .outOfBounds

def TimerState.setTimer (i : Fin maxTimers) (t : Timer) (s : TimerState) : TimerState :=
  { s with timers := Function.update s.timers i t }

/-- The clock of the timer's activation or firing is now. -/
def TimerState.setSince (i : Fin maxTimers) (s : TimerState) : TimerState :=
  { s with since := Function.update s.since i (timerGetClockNs s) }

/-- If the timer is active, its life ends now. -/
def TimerState.endLife (i : Fin maxTimers) (s : TimerState) : TimerState :=
  if (s.timers i).active ≠ 0 then { s with ended := Function.update s.ended i true } else s

/-- If an earlier life of the timer has ended and no other has begun, an activation for
`nseconds` is recorded. -/
def TimerState.logReactivation (i : Fin maxTimers) (nseconds : BitVec 64) (s : TimerState) :
    TimerState :=
  if (s.timers i).active = 0 ∧ s.ended i then
    { s with reactivations :=
        { timer := i, nseconds := nseconds, timeToFire := (s.timers i).timeToFire } ::
          s.reactivations }
  else s

/-- The call of the timer's handler is recorded. -/
def TimerState.logFiring (i : Fin maxTimers) (s : TimerState) : TimerState :=
  { s with firings :=
      { timer := i, nseconds := (s.timers i).nseconds, since := s.since i
        clock := timerGetClockNs s } :: s.firings }

/-- `TimerActivate`, which leaves `TimeToFire` as it is. -/
def timerActivate (index : BitVec 32) (nseconds : BitVec 64) (oneShot : BitVec 8)
    (s : TimerState) : Except TimerFault TimerState := do
  let i ← timerIndex index
  let s := (s.logReactivation i nseconds).setSince i
  return s.setTimer i { s.timers i with active := 1, nseconds := nseconds, oneShot := oneShot }

/-- `TimerDeactivate`, which clears the countdown of the first free timer. -/
def timerDeactivate (index : BitVec 32) (s : TimerState) : Except TimerFault TimerState := do
  let i ← timerIndex index
  let s := s.endLife i
  let s := s.setTimer i { s.timers i with active := 0 }
  let free ← timerIndex s.timersIdx
  return s.setTimer free { s.timers free with nseconds := 0, timeToFire := 0 }

/-- `TimerCreate`, but for the index it returns, which is `TimersIdx` before the call. -/
def timerCreate (s : TimerState) : Except TimerFault TimerState := do
  let free ← timerIndex s.timersIdx
  let s := s.setTimer free { nseconds := 0, timeToFire := 0, active := 0, oneShot := 0 }
  return { s with timersIdx := s.timersIdx + 1 }

/-- `TimerRegister`, but for the index it returns, which is `TimersIdx` before the call. -/
def timerRegister (nseconds : BitVec 32) (s : TimerState) : Except TimerFault TimerState := do
  let free ← timerIndex s.timersIdx
  let s := (s.setSince free).setTimer free
    { nseconds := nseconds.setWidth 64, timeToFire := nseconds.setWidth 64, active := 1
      oneShot := 0 }
  return { s with timersIdx := s.timersIdx + 1 }

/-- A call that a handler or a device makes on a timer it has. -/
inductive TimerCall where
  | activate (index : BitVec 32) (nseconds : BitVec 64) (oneShot : BitVec 8)
  | deactivate (index : BitVec 32)
  deriving DecidableEq

def timerCall (s : TimerState) : TimerCall → Except TimerFault TimerState
  | .activate index nseconds oneShot => timerActivate index nseconds oneShot s
  | .deactivate index => timerDeactivate index s

/-- The timer's countdown, cut by the accumulated time. -/
def TimerState.countDown (i : Fin maxTimers) (s : TimerState) : TimerState :=
  if (s.timers i).active ≠ 0 then
    s.setTimer i { s.timers i with timeToFire := (s.timers i).timeToFire - s.nsecondsTotal }
  else s

/-- The timer is active and its countdown is over. -/
def TimerState.Due (i : Fin maxTimers) (s : TimerState) : Prop :=
  (s.timers i).active ≠ 0 ∧ (s.timers i).timeToFire.toInt ≤ 0

instance (i : Fin maxTimers) (s : TimerState) : Decidable (s.Due i) :=
  inferInstanceAs (Decidable (_ ∧ _))

/-- A due timer up to the call of its handler. -/
def TimerState.fire (i : Fin maxTimers) (s : TimerState) : TimerState :=
  let s := s.setTimer i { s.timers i with timeToFire := 0 }
  (s.logFiring i).setSince i

/-- A timer after its handler has returned. -/
def TimerState.reload (i : Fin maxTimers) (s : TimerState) : TimerState :=
  let s :=
    if (s.timers i).oneShot ≠ 0 then
      (s.endLife i).setTimer i { s.timers i with active := 0 }
    else s
  s.setTimer i { s.timers i with timeToFire := (s.timers i).nseconds }

/-- One turn of the loop of `TimerTick`; `calls` are those of the timer's handler. -/
def timerVisit (s : TimerState) : BitVec 32 × List TimerCall → Except TimerFault TimerState
  | (index, calls) => do
    let i ← timerIndex index
    let s := s.countDown i
    if s.Due i then
      let s ← TransitionRun.run timerCall (s.fire i) calls
      return s.reload i
    else return s

/-- `TimerTick` up to its loop. -/
def TimerState.advance (ticks : BitVec 64) (s : TimerState) : TimerState :=
  let s := { s with ticksTotal := s.ticksTotal + ticks }
  { s with nsecondsTotal := s.nsecondsTotal + timerGetClockNs s }

/-- The turns of the loop of `TimerTick`. -/
def TimerState.turns (calls : ℕ → List TimerCall) (s : TimerState) :
    List (BitVec 32 × List TimerCall) :=
  (List.range s.timersIdx.toNat).map fun i => (BitVec.ofNat 32 i, calls i)

/-- `TimerTick`; `calls i` are those that the handler of timer `i` makes. -/
def timerTick (ticks : BitVec 64) (calls : ℕ → List TimerCall) (s : TimerState) :
    Except TimerFault TimerState :=
  let s := s.advance ticks
  TransitionRun.run timerVisit s (s.turns calls)

/-- What the rest of the program does with the timers. -/
inductive TimerOp where
  | tick (ticks : BitVec 64) (calls : ℕ → List TimerCall)
  | call (c : TimerCall)
  | create
  | register (nseconds : BitVec 32)

def timerStep (s : TimerState) : TimerOp → Except TimerFault TimerState
  | .tick ticks calls => timerTick ticks calls s
  | .call c => timerCall s c
  | .create => timerCreate s
  | .register nseconds => timerRegister nseconds s

end Svmm
