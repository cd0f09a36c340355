import Svmm.Construction.Pci
import Svmm.Construction.Pic

/-!
# Interrupts of PCI functions

`PciSetIrq` of `pci.c`: a function's pin goes to one of four inputs, the input to a pin of the I/O
APIC and to the line of the PICs that is read from the configuration space of the function.
-/

namespace Svmm

/-- `((devFunc >> 3) + IrqNumber - 2) & 3`. -/
def pirqInput (fn : PciFunction) (irqNumber : BitVec 8) : BitVec 8 :=
  (((fn.2.setWidth 32) >>> 3) + irqNumber.setWidth 32 - 2 &&& 3).setWidth 8

/-- The lines of the PICs that an input may go to: `0xdef8` has their bits. -/
def pciIrqLine (irq : BitVec 8) : Prop :=
  irq.toNat < 16 ∧ Word.has (0xdef8 : BitVec 16) irq.toNat = true

instance (irq : BitVec 8) : Decidable (pciIrqLine irq) := inferInstanceAs (Decidable (_ ∧ _))

/-- `conf[0x60 + irq]` of a function. -/
def pirqRoute (bus : PciBus) (fn : PciFunction) (input : BitVec 8) : BitVec 8 :=
  (bus.device fn).conf (0x60 + input.toNat)

/-- `PciSetIrq`. -/
def pciSetIrq (bus : PciBus) (fn : PciFunction) (irqNumber raise : BitVec 8) (s : State) :
    Outcome State :=
  let input := pirqInput fn irqNumber
  (if raise ≠ 0 then ioApicRaiseIrq (irqNumber + input) s
    else .ok (ioApicLowerIrq (irqNumber + input) s)) >>= fun s =>
  let irq := pirqRoute bus fn input
  if pciIrqLine irq then
    if raise ≠ 0 then picRaiseIrq irq s else .ok (picLowerIrq irq s)
  else .ok s

end Svmm
