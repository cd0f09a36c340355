import Svmm.Construction.IoApic

/-!
# Inter-processor interrupts

The interrupt command register of `apic.c`, and the way a command takes to `Lapic[i]`.  The bus
functions of `Construction/Apic/Delivery.lean` are written for the one local APIC there is;
here they are written once more with the index of every access to the array, which stops with
a fault when it lies past the end.  The history variable `deliveries` records what reached a
processor since the last write of the register: the calls of `ApicSetIrq`, with their index,
and the driver calls.
-/

namespace Svmm

def lapicDestinationModeMask : BitVec 32 := 1 <<< 11
def deliveryModeMask : BitVec 32 := 7 <<< 8
def lapicTriggerModeMask : BitVec 32 := 1 <<< 15

def lapicDshApicId : BitVec 32 := 0 <<< 18
def lapicDshSelf : BitVec 32 := 1 <<< 18
def lapicDshAll : BitVec 32 := 1 <<< 19
def lapicDshAllNoSelf : BitVec 32 := 3 <<< 18
def lapicDshMask : BitVec 32 := 3 <<< 18

/-- Bit of `APIC_ERR_TX_ACCEPT_ERR`. -/
def apicErrTxAcceptErr : ℕ := 2

/-- How a function on the array `Lapic` goes wrong. -/
inductive ApicFault where
  | halt (h : Halt)
  | outOfBounds (apicId : ℕ)
  deriving DecidableEq, Repr

abbrev ApicOutcome := Except ApicFault

/-- What reaches a processor. -/
inductive IpiDelivery where
  | setIrq (apicId : ℕ)
  | driver (call : Ioctl)
  deriving DecidableEq, Repr

/-- The shared globals with the fields of `Lapic[0]` that only the interrupt command uses. -/
structure IpiState where
  shared : State
  apicId : BitVec 32
  interruptCommandRegisterLow : BitVec 32
  interruptCommandRegisterHigh : BitVec 32
  deliveries : List IpiDelivery

/-- An access to `Lapic[apicId]`. -/
def lapicAt (apicId : ℕ) : ApicOutcome Unit :=
  if apicId < numLocalApics then .ok () else .error (.outOfBounds apicId)

/-- `ApicSetIrq` on `Lapic[apicId]`, which every branch of it accesses. -/
def apicSetIrqAt (apicId : ℕ) (vector : BitVec 8) (levelSensitive : BitVec 32) (s : IpiState) :
    ApicOutcome IpiState := do
  lapicAt apicId
  return { s with
    shared := apicSetIrq vector levelSensitive s.shared
    deliveries := .setIrq apicId :: s.deliveries }

/-- The first loop of `ApicBusDeliverLowPriorityInterrupt`: the focus processor. -/
def focusProcessor (s : IpiState) : List ℕ → ApicOutcome (Option ℕ)
  | [] => .ok none
  | i :: rest => do
    lapicAt i
    if s.shared.lapic.focusDisable = 0 ∧ s.shared.lapic.msrEnable ≠ 0 then return some i
    else focusProcessor s rest

/-- The second loop of `ApicBusDeliverLowPriorityInterrupt`.  It never lowers `lowestPrioTpr`,
so the last processor that qualifies wins. -/
def lowestPrioApicId (destination : BitVec 32) (s : IpiState) :
    List ℕ → Option ℕ → ApicOutcome (Option ℕ)
  | [], found => .ok found
  | i :: rest, found => do
    lapicAt i
    if s.shared.lapic.msrEnable ≠ 0 ∧ apicMatchLogicalAddress s.shared.lapic destination ≠ 0 ∧
        s.shared.lapic.taskPriority.toNat < 0x10 then
      lowestPrioApicId destination s rest (some i)
    else lowestPrioApicId destination s rest found

/-- `ApicBusDeliverLowPriorityInterrupt`. -/
def apicBusDeliverLowPriorityInterruptAt (vector : BitVec 8)
    (destination triggerMode : BitVec 32) (s : IpiState) : ApicOutcome (ℕ × IpiState) := do
  let focus ← focusProcessor s (List.range numLocalApics)
  match focus with
  | some i => return (0, ← apicSetIrqAt i vector triggerMode s)
  | none =>
    let lowest ← lowestPrioApicId destination s (List.range numLocalApics) none
    match lowest with
    | some i => return (0, ← apicSetIrqAt i vector triggerMode s)
    | none => return (1, s)

/-- The loop of the `DELIVERY_MODE_FIXED` case for a logical destination. -/
def apicBusDeliverLogicalAt (vector : BitVec 8) (destination triggerMode : BitVec 32)
    (s : IpiState) (cpuId : ℕ) : ApicOutcome IpiState := do
  lapicAt cpuId
  if s.shared.lapic.msrEnable ≠ 0 ∧ apicMatchLogicalAddress s.shared.lapic destination ≠ 0 then
    apicSetIrqAt cpuId vector triggerMode s
  else return s

/-- The `DELIVERY_MODE_FIXED` case of `ApicBusDeliverInterrupt`. -/
def apicBusDeliverFixedAt (vector : BitVec 8)
    (destination destinationMode triggerMode : BitVec 32) (s : IpiState) :
    ApicOutcome (ℕ × IpiState) :=
  if destinationMode = destinationModePhysical then
    if destination.toNat < numLocalApics then do
      lapicAt destination.toNat
      if s.shared.lapic.msrEnable ≠ 0 then
        return (0, ← apicSetIrqAt destination.toNat vector triggerMode s)
      else return (0, s)
    else .ok (0, s)
  else do
    let s ← (List.range numLocalApics).foldlM
      (apicBusDeliverLogicalAt vector destination triggerMode) s
    return (0, s)

/-- The `DELIVERY_MODE_SMI` and `DELIVERY_MODE_NMI` cases. -/
def apicBusDeliverIoctlAt (call : Ioctl) (s : IpiState) : ℕ × IpiState :=
  (1, { s with
    shared := (s.shared.deviceIoControl call).2
    deliveries := .driver call :: s.deliveries })

/-- `ApicBusDeliverInterrupt`. -/
def apicBusDeliverInterruptAt (vector : BitVec 8)
    (destination destinationMode deliveryMode triggerMode : BitVec 32) (s : IpiState) :
    ApicOutcome (ℕ × IpiState) :=
  let deliveryMode :=
    if destinationMode = destinationModePhysical ∧ deliveryMode = deliveryModeLowPri then
      deliveryModeFixed
    else deliveryMode
  if deliveryMode = deliveryModeFixed then
    apicBusDeliverFixedAt vector destination destinationMode triggerMode s
  else if deliveryMode = deliveryModeLowPri then
    apicBusDeliverLowPriorityInterruptAt vector destination triggerMode s
  else if deliveryMode = deliveryModeSmi then .ok (apicBusDeliverIoctlAt .gvmSmi s)
  else if deliveryMode = deliveryModeNmi then .ok (apicBusDeliverIoctlAt .gvmNmi s)
  else if deliveryMode = deliveryModeInit ∨ deliveryMode = deliveryModeSipi ∨
      deliveryMode = deliveryModeExt then .ok (1, s)
  else .error (.halt .exit)

/-- One turn of the `LAPIC_DSH_ALL_NO_SELF` and `LAPIC_DSH_ALL` loops, which keep the last
status. -/
def apicSendIpiTurn (vector : BitVec 8)
    (destination destinationMode deliveryMode triggerMode : BitVec 32) (skipSelf : Bool) :
    ℕ × IpiState → ℕ → ApicOutcome (ℕ × IpiState)
  | (status, s), cpuId =>
    if skipSelf && decide (cpuId = s.apicId.toNat) then .ok (status, s)
    else apicBusDeliverInterruptAt vector destination destinationMode deliveryMode triggerMode s

/-- The `switch` of `ApicSendIpi`. -/
def apicSendIpiShorthand (vector : BitVec 8)
    (destination destinationMode deliveryMode triggerMode destinationShorthand : BitVec 32)
    (s : IpiState) : ApicOutcome (ℕ × IpiState) :=
  if destinationShorthand = lapicDshApicId then
    apicBusDeliverInterruptAt vector destination destinationMode deliveryMode triggerMode s
  else if destinationShorthand = lapicDshSelf then do
    return (0, ← apicSetIrqAt destination.toNat vector triggerMode s)
  else if destinationShorthand = lapicDshAllNoSelf then
    (List.range numLocalApics).foldlM
      (apicSendIpiTurn vector destination destinationMode deliveryMode triggerMode true) (0, s)
  else if destinationShorthand = lapicDshAll then
    (List.range numLocalApics).foldlM
      (apicSendIpiTurn vector destination destinationMode deliveryMode triggerMode false) (0, s)
  else .ok (0, s)

/-- `Lapic[0].ShadowErrorStatus |= APIC_ERR_TX_ACCEPT_ERR`. -/
def IpiState.acceptError (s : IpiState) : IpiState :=
  { s with shared := s.shared.setLapic { s.shared.lapic with
      shadowErrorStatus := Word.set s.shared.lapic.shadowErrorStatus apicErrTxAcceptErr } }

/-- `ApicSendIpi`. -/
def apicSendIpi (vector : BitVec 8)
    (destination destinationMode deliveryMode triggerMode destinationShorthand : BitVec 32)
    (s : IpiState) : ApicOutcome (ℕ × IpiState) :=
  if deliveryMode = deliveryModeInit then
    apicBusDeliverLowPriorityInterruptAt vector destination triggerMode s
  else do
    let (status, s) ← apicSendIpiShorthand vector destination destinationMode deliveryMode
      triggerMode destinationShorthand s
    if status ≠ 0 then return (status, s.acceptError) else return (status, s)

/-- The `LAPIC_ICR_HI` case of `ApicMMIOWriteHandler`. -/
def apicWriteInterruptCommandHigh (value : BitVec 32) (s : IpiState) : IpiState :=
  { s with interruptCommandRegisterHigh := value &&& 0xff000000 }

/-- The `LAPIC_ICR_LO` case of `ApicMMIOWriteHandler`: the command is sent. -/
def apicWriteInterruptCommandLow (value : BitVec 32) (s : IpiState) : ApicOutcome IpiState := do
  -- the delivery status bit reads idle
  let low := Word.clear value 12
  let (_, s) ← apicSendIpi ((low &&& 0xff).setWidth 8) (s.interruptCommandRegisterHigh >>> 24)
    (low &&& lapicDestinationModeMask) (low &&& deliveryModeMask) (low &&& lapicTriggerModeMask)
    (low &&& lapicDshMask) { s with interruptCommandRegisterLow := low, deliveries := [] }
  return s

end Svmm
