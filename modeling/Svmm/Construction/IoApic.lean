import Svmm.Construction.Apic.Delivery
import Mathlib.Data.List.FinRange

/-!
# The I/O APIC

`ioapic.c`: the redirection table, the raise and lower entry points, the service scan over
the 24 pins, the EOI broadcast from the local APIC and the MMIO write handler.
-/

namespace Svmm

/-- Bits of the low half of a redirection entry. -/
def ioApicMasked : ℕ := 16
def ioApicLevelSensitive : ℕ := 15
def ioApicIrr : ℕ := 14
def ioApicDeliveryStatus : ℕ := 12

def ioApicDestinationMode : BitVec 32 := 1 <<< 11
def ioApicDeliveryMode : BitVec 32 := 7 <<< 8

namespace IoRedirectEntry

variable (e : IoRedirectEntry)

/-- `Low & IOAPIC_MASKED`. -/
def masked : Bool := Word.has e.low ioApicMasked

/-- `Low & IOAPIC_LEVEL_SENSITIVE`. -/
def levelSensitive : Bool := Word.has e.low ioApicLevelSensitive

/-- `Low & IOAPIC_IRR`, the remote IRR bit. -/
def remoteIrr : Bool := Word.has e.low ioApicIrr

/-- `Low & 0xff` as the `BYTE` argument of the bus. -/
def vector : BitVec 8 := (e.low &&& 0xff).setWidth 8

/-- `High >> 24`. -/
def destination : BitVec 32 := e.high >>> 24

def destinationMode : BitVec 32 := e.low &&& ioApicDestinationMode

def deliveryMode : BitVec 32 := e.low &&& ioApicDeliveryMode

/-- `Low & IOAPIC_LEVEL_SENSITIVE` as the bus's `TriggerMode` argument. -/
def triggerMode : BitVec 32 := e.low &&& Word.bit ioApicLevelSensitive

end IoRedirectEntry

/-- Replace one redirection entry. -/
def IoApic.setEntry (a : IoApic) (pin : Fin 24) (e : IoRedirectEntry) : IoApic :=
  { a with ioRedirectTable := Function.update a.ioRedirectTable pin e }

/-- What `IoApicSetIntr` writes for the status the bus returned. -/
def IoApic.afterBus (a : IoApic) (pin : Fin 24) (status : ℕ) : IoApic :=
  let e := a.ioRedirectTable pin
  if status = 0 then
    if e.levelSensitive then
      a.setEntry pin
        { e with low := Word.clear (Word.set e.low ioApicIrr) ioApicDeliveryStatus }
    else
      { a with irr := Word.clear a.irr pin }.setEntry pin
        { e with low := Word.clear e.low ioApicDeliveryStatus }
  else a.setEntry pin { e with low := Word.set e.low ioApicDeliveryStatus }

/-- `IoApicSetIntr` returns early on this entry: masked, or level-sensitive with its remote
IRR bit still set. -/
def IoRedirectEntry.held (e : IoRedirectEntry) : Bool :=
  e.masked || (e.levelSensitive && e.remoteIrr)

/-- `IoApicSetIntr`. -/
def ioApicSetIntr (pin : Fin 24) (s : State) : Outcome State :=
  let e := s.ioApic.ioRedirectTable pin
  if e.held then .ok s
  else do
    let (status, t) ← apicBusDeliverInterrupt e.vector e.destination e.destinationMode
      e.deliveryMode e.triggerMode { s with busCalls := pin :: s.busCalls }
    .ok (t.setIoApic (t.ioApic.afterBus pin status))

/-- The loop of `IoApicService` over a list of pins. -/
def ioApicServicePins : List (Fin 24) → State → Outcome State
  | [], s => .ok s
  | pin :: pins, s =>
      if Word.has s.ioApic.irr pin then do
        let t ← ioApicSetIntr pin s
        ioApicServicePins pins t
      else ioApicServicePins pins s

/-- `IoApicService`. -/
def ioApicService (s : State) : Outcome State := ioApicServicePins (List.finRange 24) s

/-- The pin an IRQ number drives: 0 goes to pin 2, numbers past the last pin to none. -/
def ioApicPin (irqNumber : BitVec 8) : Option (Fin 24) :=
  let irq := if irqNumber = 0 then 2 else irqNumber.toNat
  if h : irq < 24 then some ⟨irq, h⟩ else none

/-- `IoApicLowerIrq`. -/
def ioApicLowerIrq (irqNumber : BitVec 8) (s : State) : State :=
  match ioApicPin irqNumber with
  | none => s
  | some pin =>
      if (s.ioApic.ioRedirectTable pin).levelSensitive then
        s.setIoApic { s.ioApic with irr := Word.clear s.ioApic.irr pin }
      else s

/-- `IoApicRaiseIrq`. -/
def ioApicRaiseIrq (irqNumber : BitVec 8) (s : State) : Outcome State :=
  match ioApicPin irqNumber with
  | none => .ok s
  | some pin =>
      let t := s.setIoApic { s.ioApic with irr := Word.set s.ioApic.irr pin }
      if (s.ioApic.ioRedirectTable pin).levelSensitive then ioApicService t
      else if Word.has s.ioApic.irr pin then .ok s
      else ioApicService t

/-- One iteration of the loop of `IoApicReceiveEndOfInterrupt`. -/
def IoRedirectEntry.receiveEndOfInterrupt (vector : BitVec 8) (e : IoRedirectEntry) :
    IoRedirectEntry :=
  if e.levelSensitive && decide (e.low &&& 0xff = vector.setWidth 32) then
    { e with low := Word.clear e.low ioApicIrr }
  else e

/-- `IoApicReceiveEndOfInterrupt`: the loop runs over all pins and each iteration touches its
own entry only. -/
def ioApicReceiveEndOfInterrupt (vector : BitVec 8) (s : State) : State :=
  s.setIoApic { s.ioApic with
    ioRedirectTable := fun pin =>
      (s.ioApic.ioRedirectTable pin).receiveEndOfInterrupt vector }

/-! ## The MMIO write handler -/

def ioApicSetIndex : BitVec 32 := 0x00
def ioApicSetData : BitVec 32 := 0x10

/-- `(BYTE)(IoRegisterSelect - 0x10) >> 1`. -/
def ioApicEntryIndex (ioRegisterSelect : BitVec 32) : ℕ :=
  ((ioRegisterSelect - 0x10).setWidth 8).toNat / 2

/-- What a write of the low half of a redirection entry stores. -/
def ioApicLowWritten (value : BitVec 32) : BitVec 32 :=
  if Word.has value ioApicLevelSensitive then value else Word.clear value ioApicIrr

/-- The redirection table after a data write. -/
def IoApic.writeEntry (a : IoApic) (pin : Fin 24) (value : BitVec 32) : IoApic :=
  let e := a.ioRedirectTable pin
  if Word.has a.ioRegisterSelect 0 then a.setEntry pin { e with high := value }
  else a.setEntry pin { e with low := ioApicLowWritten value }

/-- `_IoApicMMIOWriteHandler`. -/
def ioApicMMIOWriteHandler (address value : BitVec 32) (s : State) : Outcome State :=
  if address = ioApicSetIndex then
    .ok (s.setIoApic { s.ioApic with ioRegisterSelect := value &&& 0xff })
  else if address = ioApicSetData then
    if s.ioApic.ioRegisterSelect = 0 then
      .ok (s.setIoApic { s.ioApic with ioApicId := (value >>> 24) &&& 0xf })
    else if s.ioApic.ioRegisterSelect = 1 ∨ s.ioApic.ioRegisterSelect = 2 then .ok s
    else if h : ioApicEntryIndex s.ioApic.ioRegisterSelect < 24 then
      ioApicService
        (s.setIoApic (s.ioApic.writeEntry ⟨ioApicEntryIndex s.ioApic.ioRegisterSelect, h⟩ value))
    else .ok s
  else .ok s

end Svmm
