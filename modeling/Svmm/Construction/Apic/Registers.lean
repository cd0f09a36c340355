import Svmm.Construction.IoApic

/-!
# The local APIC's own registers

The entry points of `apic.c` the virtual CPU drives: the task priority, EOI and spurious
vector cases of `ApicMMIOWriteHandler`, and `ApicAcknowledgeInterrupt`, which the run loop
calls when the interrupt window opens.
-/

namespace Svmm

/-- Bit of `LAPIC_LVT_MASKED`. -/
def lapicLvtMasked : ℕ := 16

/-- `ApicReceiveEOI`.  The vector retired is the highest in service; nothing happens when it
is the spurious vector, and the I/O APIC hears of it only when its trigger mode bit is set. -/
def apicReceiveEOI (s : State) : State :=
  let vector := highestVector s.lapic.interruptServiceRegister
  if vector ≠ s.lapic.spuriousVector then
    -- `isrPrio` is the class of `vector`
    let s := s.setLapic { s.lapic with
      interruptServiceRegister := clearVector s.lapic.interruptServiceRegister vector }
    let s :=
      if hasVector s.lapic.triggerModeRegister vector then
        let s := ioApicReceiveEndOfInterrupt vector s
        s.setLapic { s.lapic with
          triggerModeRegister := clearVector s.lapic.triggerModeRegister vector }
      else s
    apicService s
  else s

/-- The `LAPIC_TPR` case of `ApicMMIOWriteHandler`. -/
def apicWriteTaskPriority (value : BitVec 32) (s : State) : State :=
  if 15 < value.toNat then s
  else
    let t := s.setLapic { s.lapic with taskPriority := value &&& 0xff }
    if value.toNat < s.lapic.taskPriority.toNat then apicService t else t

/-- `ApicWriteSpuriousInterrupt`.  Bits 0-3 of the spurious vector are hardwired to 1. -/
def apicWriteSpuriousInterrupt (value : BitVec 32) (s : State) : State :=
  let enable : BitVec 8 := ((value >>> 8) &&& 1).setWidth 8
  s.setLapic { s.lapic with
    spuriousVector := (value &&& 0xf0 ||| 0xf).setWidth 8
    softwareEnable := enable
    focusDisable := ((value >>> 9) &&& 1).setWidth 8
    localVectorTable :=
      if enable = 0 then fun i => Word.set (s.lapic.localVectorTable i) lapicLvtMasked
      else s.lapic.localVectorTable }

/-- `ApicAcknowledgeInterrupt`: the returned vector and the state after it. -/
def apicAcknowledgeInterrupt (s : State) : Outcome (BitVec 8 × State) :=
  if s.pendingLapicIntr = false then .error .exit
  else if apicHighestPriority s.lapic.interruptRequestRegister <
      apicGetProcessPriority s.lapic then
    -- the request fell below the process priority: spurious
    .ok (s.lapic.spuriousVector, s.clearEvent eventPendingLapicIntr)
  else
    let vector := highestVector s.lapic.interruptRequestRegister
    let t := (s.setLapic { s.lapic with
      interruptRequestRegister := clearVector s.lapic.interruptRequestRegister vector
      interruptServiceRegister := setVector s.lapic.interruptServiceRegister vector
      }).clearEvent eventPendingLapicIntr
    .ok (vector, apicService t)

/-- The local APIC after `ApicInitialize`. -/
def Lapic.initial : Lapic where
  taskPriority := 0
  interruptServiceRegister := fun _ => 0
  triggerModeRegister := fun _ => 0
  interruptRequestRegister := fun _ => 0
  destinationLogical := 0
  destinationFormat := 0
  shadowErrorStatus := 0
  spuriousVector := 0xff
  softwareEnable := 0
  focusDisable := 0
  msrEnable := 1
  localVectorTable := fun _ => 0

/-- The I/O APIC after `IoApicInitialize`. -/
def IoApic.initial : IoApic where
  ioRegisterSelect := 0
  ioApicId := 1
  ioRedirectTable := fun _ => { high := 0, low := Word.bit ioApicMasked }
  irr := 0

end Svmm
