import Mathlib.Data.Nat.Notation
import Svmm.Framework.Word
import Svmm.Construction.Pci

/-!
# The configuration space of the functions

The configuration writes that `PciWriteConfHandler` passes on: the handlers of `i440fx.c`,
`piix3.c`, `ide.c`, `acpi.c` and `vga.c`, with what they keep beside the configuration space.  A
handler gets the function that is written to; the one of the IDE function takes it for the first of
an array.
-/

namespace Svmm

open Bytes

/-! ## State -/

/-- The calls of `i440fx.c` on `gvm.c`. -/
inductive GvmCall where
  | unmapMemory (address : BitVec 32) (size : BitVec 64)
  | mapMemory (address size : BitVec 32) (ram : BitVec 64)
  | registerMmio (address : BitVec 32) (size : BitVec 64)
  deriving DecidableEq

/-- The fields of `struct i440fx` that configuration writes reach. -/
structure I440fx where
  memoryType : ℕ → Fin 2 → Bool
  dramDetect : BitVec 8
  drb : BitVec 3 → BitVec 8

/-- The field of `struct piix3` that configuration writes reach. -/
structure Piix3 where
  irqRegister : Fin 16 → BitVec 8

/-- The fields of `struct ACPI` that configuration writes reach. -/
structure AcpiBases where
  pmBase : BitVec 32
  smBase : BitVec 32

/-- The functions, with their state, the address of SMM RAM and `Ram`, `RamSize` and
`Registers.smbase`. -/
structure PciSystem where
  bus : PciBus
  i440fx : I440fx
  piix3 : Piix3
  acpi : AcpiBases
  ram : BitVec 64
  smmRam : BitVec 64
  smbase : BitVec 64
  gvmCalls : List GvmCall

/-- What stops the program: what stops it in `pci.c`, or a store beyond a configuration space. -/
inductive PciConfigFault where
  | pci (fault : PciFault)
  | confOverrun
  deriving DecidableEq

abbrev PciConfigOutcome := Except PciConfigFault

/-- The functions of the bridges, of power management and of the display. -/
def i440fxFunction : PciFunction := (0, 0)
def piix3Function : PciFunction := (0, 8)
def acpiFunction : PciFunction := (0, 11)
def vgaFunction : PciFunction := (0, 16)

namespace PciSystem

variable (s : PciSystem) (fn : PciFunction)

/-- A byte of the configuration space of a function. -/
def conf (x : ℕ) : BitVec 8 := (s.bus.device fn).conf x

/-- Replace the configuration space of a function. -/
def setConf (conf : ℕ → BitVec 8) : PciSystem :=
  { s with bus := s.bus.setDevice fn { s.bus.device fn with conf := conf } }

/-- Store a byte of it. -/
def storeConf (x : ℕ) (value : BitVec 8) : PciSystem :=
  s.setConf fn (Function.update (s.bus.device fn).conf x value)

def call (c : GvmCall) : PciSystem := { s with gvmCalls := s.gvmCalls ++ [c] }

end PciSystem

/-- `0xff & (Value >> i)`: the shift of the bridges. -/
def bridgeByte (value : BitVec 32) (i : ℕ) : BitVec 8 := (value >>> i).setWidth 8

/-! ## The host bridge -/

/-- `SMM_RAM_SIZE`. -/
def smmSize : BitVec 32 := 0x20000

/-- What a register of the host bridge holds after a byte is written to it. -/
def i440fxRegister (x : ℕ) (old byte : BitVec 8) : BitVec 8 :=
  if x = 0x04 then byte &&& 0x40 ||| 0x06
  else if x = 0x07 then old &&& ~~~(byte &&& 0xf9)
  else if x = 0x0d then byte &&& 0xf8
  else if x = 0x06 ∨ x = 0x0c ∨ x = 0x0f then old
  else if x = 0x50 then byte &&& 0x70
  else if x = 0x51 then byte &&& 0x8f ||| 0x20
  else if x = 0x7a then old &&& 0x0a ||| byte &&& 0xf5
  else byte

/-- `BX_MEM_AREA_F0000`. -/
def memAreaF0000 : ℕ := 12

/-- The memory types of an area, from two bits of the value. -/
def I440fx.setMemoryType (area : ℕ) (value : BitVec 32) (bit : ℕ) (f : I440fx) : I440fx :=
  { f with memoryType := Function.update f.memoryType area fun rw => Word.has value (bit + rw) }

/-- The memory types that a register of attributes stands for.  The bits are those of the whole
value. -/
def I440fx.setAttributes (x : ℕ) (value : BitVec 32) (f : I440fx) : I440fx :=
  if x = 0x59 then f.setMemoryType memAreaF0000 value 4
  else
    let area := 2 * (x - 0x5a)
    (f.setMemoryType area value 0).setMemoryType (area + 1) value 4

/-- The row boundary of a register, and whether what is detected differs from it. -/
def I440fx.detect (x : ℕ) (byte : BitVec 8) (f : I440fx) : I440fx :=
  { f with dramDetect :=
      if byte ≠ f.drb (BitVec.ofNat 3 x) then Word.set f.dramDetect (x % 8)
      else Word.clear f.dramDetect (x % 8) }

/-- The mapping of SMM RAM that the control register asks for. -/
def i440fxSmram (byte : BitVec 8) (s : PciSystem) : PciSystem :=
  let smbase := s.smbase.setWidth 32
  if Word.has byte 6 then
    ((s.call (.unmapMemory smbase 0x20000)).call (.mapMemory smbase smmSize s.smmRam)).call
      (.mapMemory 0xa0000 smmSize s.smmRam)
  else
    let s := ((s.call (.unmapMemory smbase 0x20000)).call
      (.mapMemory smbase smmSize (s.ram + s.smbase))).call (.registerMmio 0xa0000 0x20000)
    { s with smbase := 0xa0000 }

/-- A turn of the loop of `I440fxPciConfWriteHandler`. -/
def i440fxWriteByte (fn : PciFunction) (address : ℕ) (value : BitVec 32) (s : PciSystem) (i : ℕ) :
    PciSystem :=
  let x := address + i
  let byte := bridgeByte value i
  let t := s.storeConf fn x (i440fxRegister x (s.conf fn x) byte)
  if 0x59 ≤ x ∧ x ≤ 0x5f then
    if s.conf fn x ≠ byte then { t with i440fx := t.i440fx.setAttributes x value } else s
  else if 0x60 ≤ x ∧ x ≤ 0x67 then
    -- what is compared is the byte at the address of the whole write
    { t with i440fx := t.i440fx.detect x (t.conf fn address) }
  else if x = 0x72 then (i440fxSmram byte s).storeConf fn x byte
  else t

/-- `I440fxPciConfWriteHandler`. -/
def i440fxPciConfWriteHandler (w : PciWrite) (s : PciSystem) : PciSystem :=
  if 0x10 ≤ w.offset.toNat ∧ w.offset.toNat < 0x34 then s
  else (List.range w.length).foldl (i440fxWriteByte w.fn w.offset.toNat w.value) s

/-! ## The ISA bridge -/

/-- `Piix3RegisterIrq`. -/
def piix3RegisterIrq (fn : PciFunction) (address : ℕ) (irq : BitVec 8) (s : PciSystem) :
    PciSystem :=
  if h : irq.toNat < 16 then
    { s.storeConf fn address irq with piix3 :=
      { irqRegister := Function.update s.piix3.irqRegister ⟨irq.toNat, h⟩
          (Word.set (s.piix3.irqRegister ⟨irq.toNat, h⟩) (address % 4)) } }
  else s

/-- `Piix3UnregisterIrq`. -/
def piix3UnregisterIrq (fn : PciFunction) (address : ℕ) (irq : BitVec 8) (s : PciSystem) :
    PciSystem :=
  if h : irq.toNat < 16 then
    { s.storeConf fn address irq with piix3 :=
      { irqRegister := Function.update s.piix3.irqRegister ⟨irq.toNat, h⟩
          (Word.clear (s.piix3.irqRegister ⟨irq.toNat, h⟩) (address % 4)) } }
  else s

/-- What a register of the ISA bridge holds after a byte is written to it. -/
def piix3Register (x : ℕ) (old byte : BitVec 8) : BitVec 8 :=
  if x = 0x04 then byte &&& 0x08 ||| 0x07
  else if x = 0x05 then byte &&& 0x01
  else if x = 0x07 then old &&& ~~~byte ||| 0x02
  else if x = 0x4f then byte &&& 1
  else if x = 0x6a then byte &&& 0xd7
  else if x = 0x80 then old
  else byte

/-- A write to a PIRQ route register. -/
def piix3Route (fn : PciFunction) (x : ℕ) (byte : BitVec 8) (s : PciSystem) : PciSystem :=
  if byte = s.conf fn x then s
  else if Word.has byte 7 then piix3UnregisterIrq fn x byte s
  else piix3RegisterIrq fn x byte s

/-- A turn of the loop of `Piix3PciConfWriteHandler`, which cuts the value down at the register of
the status. -/
def piix3WriteByte (fn : PciFunction) (address : ℕ) (r : PciSystem × BitVec 32) (i : ℕ) :
    PciSystem × BitVec 32 :=
  let (s, value) := r
  let x := address + i
  let byte := bridgeByte value i
  if 0x60 ≤ x ∧ x ≤ 0x63 then (piix3Route fn x (byte &&& 0x8f) s, value)
  else (s.storeConf fn x (piix3Register x (s.conf fn x) byte),
    if x = 0x07 then value &&& 0x78 else value)

/-- `Piix3PciConfWriteHandler`. -/
def piix3PciConfWriteHandler (w : PciWrite) (s : PciSystem) : PciSystem :=
  if 0x10 ≤ w.offset.toNat ∧ w.offset.toNat < 0x34 then s
  else ((List.range w.length).foldl (piix3WriteByte w.fn w.offset.toNat) (s, w.value)).1

/-! ## The other functions -/

/-- What a register of the IDE function holds after a byte is written to it. -/
def ideRegister (x : ℕ) (old byte : BitVec 8) : BitVec 8 :=
  if x = 0x05 ∨ x = 0x06 then old else if x = 0x04 then byte &&& 0x5 else byte

/-- The function that is `BX_PCI_DEVICE(1, 1)` places after one in the array. -/
def ideTarget (fn : PciFunction) : PciFunction := (fn.1, fn.2 + 9)

/-- `IdePciConfWriteHandler`. -/
def idePciConfWriteHandler (w : PciWrite) (s : PciSystem) : PciSystem :=
  if 0x10 ≤ w.offset.toNat ∧ w.offset.toNat < 0x20 ∨
      0x23 < w.offset.toNat ∧ w.offset.toNat < 0x40 then s
  else (List.range w.length).foldl (fun s i =>
    let x := w.offset.toNat + i
    s.storeConf (ideTarget w.fn) x
      (ideRegister x (s.conf (ideTarget w.fn) x) (byteAt w.value i))) s

/-- `VgaWritePciConfHandler`. -/
def vgaWritePciConfHandler (w : PciWrite) (s : PciSystem) : PciSystem :=
  if 0x14 ≤ w.offset.toNat ∧ w.offset.toNat < 0x30 then s
  else (List.range w.length).foldl (fun s i =>
    let x := w.offset.toNat + i
    if x = 0x04 ∨ x = 0x06 then s else s.storeConf w.fn x (byteAt w.value i)) s

/-- The write of an ACPI base to its BAR.  Were it passed on, the handler would ignore it. -/
def acpiWriteBar (bar : BitVec 8) (value : BitVec 32) (s : PciSystem) :
    PciConfigOutcome PciSystem :=
  match pciWriteConfHandler (fun bus _ => .ok bus) s.bus
      { fn := acpiFunction, offset := bar, value := value &&& ~~~1, length := 4 } with
  | .ok bus => .ok { s with bus := bus }
  | .error e => .error (.pci e)

/-- `AcpiPciConfWriteHandler`. -/
def acpiPciConfWriteHandler (w : PciWrite) (s : PciSystem) : PciConfigOutcome PciSystem :=
  if 0x10 ≤ w.offset.toNat ∧ w.offset.toNat < 0x34 then .ok s
  else if 0xff ≤ w.offset.toNat + w.length then .ok s
  else if w.offset = 0x06 then .ok s
  else if w.offset = 0x40 then do
    let s ← acpiWriteBar 0x10 w.value s
    return { s with acpi := { s.acpi with pmBase := w.value &&& ~~~1 } }
  else if w.offset = 0x90 then do
    let s ← acpiWriteBar 0x14 w.value s
    return { s with acpi := { s.acpi with smBase := w.value &&& ~~~1 } }
  else if 0x100 < w.offset.toNat + 4 then .error .confOverrun
  else .ok (s.setConf w.fn (storeDword (s.bus.device w.fn).conf w.offset.toNat w.value))

/-! ## Dispatch -/

/-- The handler that a function registered. -/
def pciConfWriteHandler (s : PciSystem) (w : PciWrite) : PciConfigOutcome PciSystem :=
  if w.fn = i440fxFunction then .ok (i440fxPciConfWriteHandler w s)
  else if w.fn = piix3Function then .ok (piix3PciConfWriteHandler w s)
  else if w.fn = ideFunction then .ok (idePciConfWriteHandler w s)
  else if w.fn = acpiFunction then acpiPciConfWriteHandler w s
  else if w.fn = vgaFunction then .ok (vgaWritePciConfHandler w s)
  else .ok s

namespace PciWrite

variable (w : PciWrite)

/-- The write reaches a function, inside its configuration space. -/
def Reaches (bus : PciBus) : Prop :=
  (bus.device w.fn).initialized = true ∧ w.offset ≠ 0xff ∧ w.offset.toNat + w.length < 0xff

/-- `PciWriteConfHandler` passes the write on to the function's handler. -/
def Passed (bus : PciBus) : Prop :=
  w.Reaches bus ∧ ¬ ((bus.device w.fn).conf pciConfHdrType &&& 3 = 0 ∧
    pciConfBar0 ≤ w.offset.toNat ∧
    w.offset.toNat ≤ pciConfBar5) ∧ w.offset ≠ pciConfRomAddress ∧ w.offset ≠ pciConfIrqLine

instance (bus : PciBus) : Decidable (w.Reaches bus) := inferInstanceAs (Decidable (_ ∧ _ ∧ _))
instance (bus : PciBus) : Decidable (w.Passed bus) := inferInstanceAs (Decidable (_ ∧ _ ∧ _ ∧ _))

end PciWrite

/-- `PciWriteConfHandler` of the system. -/
def pciSystemWrite (s : PciSystem) (w : PciWrite) : PciConfigOutcome PciSystem :=
  if w.Passed s.bus then pciConfWriteHandler s w
  else
    match pciWriteConfHandler (fun bus _ => .ok bus) s.bus w with
    | .ok bus => .ok { s with bus := bus }
    | .error e => .error (.pci e)

/-! ## Setting up -/

/-- `PciInitialize`, with the structures of the functions cleared. -/
def pciSystemInitialState : PciSystem where
  bus := pciInitialState
  i440fx := { memoryType := fun _ _ => false, dramDetect := 0, drb := fun _ => 0 }
  piix3 := { irqRegister := fun _ => 0 }
  acpi := { pmBase := 0, smBase := 0 }
  ram := 0
  smmRam := 0
  smbase := 0xa0000
  gvmCalls := []

/-- One-byte writes to a function. -/
def pciWriteBytes (fn : PciFunction) (writes : List (BitVec 8 × BitVec 32)) (s : PciSystem) :
    PciConfigOutcome PciSystem :=
  writes.foldlM (fun s w => pciSystemWrite s
    { fn := fn, offset := w.1, value := w.2, length := 1 }) s

/-- `PciRegisterConfigHandler`, then `PciInitConfig`. -/
def pciAddFunction (fn : PciFunction) (vendor device : BitVec 16) (revision : BitVec 8)
    (cls : BitVec 32) (progIf type interruptPin : BitVec 8) (s : PciSystem) :
    PciConfigOutcome PciSystem :=
  match pciInitConfig fn vendor device revision cls progIf type interruptPin
      (pciRegisterConfigHandler fn s.bus) with
  | .ok bus => .ok { s with bus := bus }
  | .error e => .error (.pci e)

/-- `Piix3Reset`. -/
def piix3Reset : PciSystem → PciConfigOutcome PciSystem :=
  pciWriteBytes piix3Function
    [(0x07, 0x02), (0x4c, 0x4d), (0x4e, 0x03), (0x69, 0x02), (0x70, 0x80), (0x76, 0x0c),
      (0x77, 0x0c), (0x78, 0x02), (0xa0, 0x08), (0xa8, 0x0f)]

/-- `Piix3Initialize`, without its ports. -/
def piix3Initialize (s : PciSystem) : PciConfigOutcome PciSystem := do
  let s ← pciAddFunction piix3Function 0x8086 0x7000 0x00 0x0601 0x00 0x80 0 s
  let s ← piix3Reset s
  pciWriteBytes piix3Function
    [(0x04, 0x07), (0x60, 0x80), (0x61, 0x80), (0x62, 0x80), (0x63, 0x80)] s

end Svmm
