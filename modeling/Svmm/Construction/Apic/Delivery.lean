import Svmm.Construction.Apic.VectorRegister

/-!
# Delivery of an interrupt to the local APIC

`ApicService`, `ApicSetIrq` and the two bus functions of `apic.c`, with the priority
computation they rest on.  A bus function returns the C status: `0` for delivered, `1` for
not delivered.
-/

namespace Svmm

/-- Bit of `LAPIC_ESR_RECV_ILLEGAL_VECTOR`. -/
def lapicEsrRecvIllegalVector : ℕ := 6

def deliveryModeFixed : BitVec 32 := 0
def deliveryModeLowPri : BitVec 32 := 1 <<< 8
def deliveryModeSmi : BitVec 32 := 1 <<< 9
def deliveryModeNmi : BitVec 32 := 1 <<< 10
def deliveryModeInit : BitVec 32 := 5 <<< 8
def deliveryModeSipi : BitVec 32 := 6 <<< 8
def deliveryModeExt : BitVec 32 := 7 <<< 8

def destinationModePhysical : BitVec 32 := 0

/-- `NUM_LOCAL_APICS`. -/
def numLocalApics : ℕ := 1

/-- `ApicGetProcessPriority`: the larger of the task priority and the highest class in
service, returned as a `BYTE`. -/
def apicGetProcessPriority (l : Lapic) : ℕ :=
  let ppr := apicHighestPriority l.interruptServiceRegister
  if ppr < l.taskPriority.toNat then (l.taskPriority.setWidth 8).toNat else ppr

/-- `ApicMatchLogicalAddress`; any non-zero result is a match. -/
def apicMatchLogicalAddress (l : Lapic) (destination : BitVec 32) : BitVec 32 :=
  if l.destinationFormat = 0xf then
    destination &&& l.destinationLogical
  else if l.destinationFormat = 0 then
    -- cluster model
    if destination = 0xff then 1
    else if destination &&& 0xf0 = l.destinationLogical &&& 0xf0 then
      destination &&& l.destinationLogical &&& 0x0f
    else 0
  else 0

/-- `ApicService`: request an interrupt window when a class above the process priority is
waiting, unless one is already requested. -/
def apicService (s : State) : State :=
  if apicGetProcessPriority s.lapic <
      apicHighestPriority s.lapic.interruptRequestRegister then
    if s.pendingLapicIntr then s
    else if s.requestInterruptWindow ≠ 0 then s
    else (s.setWindow 1).setEvent eventPendingLapicIntr
  else s

/-- What `ApicSetIrq` writes once it accepts a vector: the request and trigger mode bits. -/
def Lapic.accept (l : Lapic) (vector : BitVec 8) (levelSensitive : BitVec 32) : Lapic :=
  { l with
    interruptRequestRegister := setVector l.interruptRequestRegister vector
    triggerModeRegister :=
      if levelSensitive ≠ 0 then setVector l.triggerModeRegister vector
      else clearVector l.triggerModeRegister vector }

/-- `ApicSetIrq`. -/
def apicSetIrq (vector : BitVec 8) (levelSensitive : BitVec 32) (s : State) : State :=
  if vector.toNat ≤ 15 then
    s.setLapic { s.lapic with
      shadowErrorStatus := Word.set s.lapic.shadowErrorStatus lapicEsrRecvIllegalVector }
  else if hasVector s.lapic.interruptRequestRegister vector then s
  else apicService (s.setLapic (s.lapic.accept vector levelSensitive))

/-- `ApicBusDeliverLowPriorityInterrupt`.  The first loop looks for a focus processor, the
second for the processor of lowest task priority among those the destination names. -/
def apicBusDeliverLowPriorityInterrupt (vector : BitVec 8) (destination triggerMode : BitVec 32)
    (s : State) : ℕ × State :=
  if s.lapic.focusDisable = 0 ∧ s.lapic.msrEnable ≠ 0 then
    (0, apicSetIrq vector triggerMode s)
  else if s.lapic.msrEnable ≠ 0 ∧ apicMatchLogicalAddress s.lapic destination ≠ 0 ∧
      s.lapic.taskPriority.toNat < 0x10 then
    (0, apicSetIrq vector triggerMode s)
  else (1, s)

/-- The `DELIVERY_MODE_FIXED` case of `ApicBusDeliverInterrupt`, which reports success
whether or not it reaches a local APIC. -/
def apicBusDeliverFixed (vector : BitVec 8) (destination destinationMode triggerMode : BitVec 32)
    (s : State) : ℕ × State :=
  if destinationMode = destinationModePhysical then
    if destination.toNat < numLocalApics ∧ s.lapic.msrEnable ≠ 0 then
      (0, apicSetIrq vector triggerMode s)
    else (0, s)
  else if s.lapic.msrEnable ≠ 0 ∧ apicMatchLogicalAddress s.lapic destination ≠ 0 then
    (0, apicSetIrq vector triggerMode s)
  else (0, s)

/-- The `DELIVERY_MODE_SMI` and `DELIVERY_MODE_NMI` cases: the driver call, and the `return 1`
that both the failure branch and the end of the function reach. -/
def apicBusDeliverIoctl (call : Ioctl) (s : State) : ℕ × State :=
  (1, (s.deviceIoControl call).2)

/-- `ApicBusDeliverInterrupt`. -/
def apicBusDeliverInterrupt (vector : BitVec 8)
    (destination destinationMode deliveryMode triggerMode : BitVec 32) (s : State) :
    Outcome (ℕ × State) :=
  -- lowest priority with a physical destination is fixed, for one APIC
  let deliveryMode :=
    if destinationMode = destinationModePhysical ∧ deliveryMode = deliveryModeLowPri then
      deliveryModeFixed
    else deliveryMode
  if deliveryMode = deliveryModeFixed then
    .ok (apicBusDeliverFixed vector destination destinationMode triggerMode s)
  else if deliveryMode = deliveryModeLowPri then
    .ok (apicBusDeliverLowPriorityInterrupt vector destination triggerMode s)
  else if deliveryMode = deliveryModeSmi then .ok (apicBusDeliverIoctl .gvmSmi s)
  else if deliveryMode = deliveryModeNmi then .ok (apicBusDeliverIoctl .gvmNmi s)
  else if deliveryMode = deliveryModeInit ∨ deliveryMode = deliveryModeSipi ∨
      deliveryMode = deliveryModeExt then .ok (1, s)
  else .error .exit

end Svmm
