import Mathlib.Data.Nat.Notation
import Mathlib.Logic.Function.Basic
import Svmm.Framework.Bytes

/-!
# PCI base addresses

`pci.c`: the table of port handlers, the registration of functions and their I/O BARs, and
configuration writes to BARs.  No memory BAR is ever set up, so a BAR has type none or I/O.
-/

namespace Svmm

open Bytes

/-! ## Handlers of ports -/

/-- Bus and device function. -/
abbrev PciFunction := BitVec 8 × BitVec 8

/-- The function of the IDE controller, `BX_PCI_DEVICE(1, 1)`. -/
def ideFunction : PciFunction := (0, 9)

/-- Who registered the handlers of a port: a device that is always there, or a BAR. -/
inductive PortOwner where
  | device (n : ℕ)
  | bar (fn : PciFunction) (barNum : ℕ)
  deriving DecidableEq, Repr

/-- `BX_PCI_BAR_TYPE_NONE` and `BX_PCI_BAR_TYPE_IO`. -/
inductive PciBarType where
  | none
  | io
  deriving DecidableEq, Repr

/-- `pci_bar`, without its handlers. -/
structure PciBar where
  type : PciBarType
  size : BitVec 32
  addr : BitVec 32
  mask : BitVec 64

/-- `PCI`, without the handlers of its configuration space. -/
structure PciDevice where
  conf : ℕ → BitVec 8
  bar : ℕ → PciBar
  initialized : Bool

/-- `PciDevices`, and the port handlers with their bitmap. -/
structure PciBus where
  device : PciFunction → PciDevice
  port : BitVec 32 → Option PortOwner

/-- What stops the program: a call of `exit`, a bit beyond the bitmap, or a shift of the 64-bit mask
by more than its width. -/
inductive PciFault where
  | exit
  | bitmapOverrun
  | shiftOverflow
  deriving DecidableEq, Repr

abbrev PciOutcome := Except PciFault

/-- The bits that `PortIoBitmap` is allocated with. -/
def portIoBitmapSize : BitVec 32 := 0xffff / 32 * 32

/-- `RegisterPortIoHandler`. -/
def registerPortIoHandler (address : BitVec 32) (owner : PortOwner) (s : PciBus) :
    PciOutcome PciBus :=
  if 0xffff ≤ address then .error .exit
  else if portIoBitmapSize ≤ address then .error .bitmapOverrun
  else if (s.port address).isSome then .error .exit
  else .ok { s with port := Function.update s.port address (some owner) }

/-- `RemovePortIoHandler`. -/
def removePortIoHandler (address : BitVec 32) (s : PciBus) : PciOutcome PciBus :=
  if 0xffff ≤ address then .error .exit
  else if portIoBitmapSize ≤ address then .error .bitmapOverrun
  else if (s.port address).isNone then .error .exit
  else .ok { s with port := Function.update s.port address none }

/-! ## Registration -/

/-- `PCI_CONF_HDR_TYPE`, `PCI_CONF_BAR0` and `PCI_CONF_BAR5`. -/
def pciConfHdrType : ℕ := 0x0e
def pciConfBar0 : ℕ := 0x10
def pciConfBar5 : ℕ := 0x24

/-- A doubleword of the configuration space. -/
def storeDword (conf : ℕ → BitVec 8) (offset : ℕ) (value : BitVec 32) : ℕ → BitVec 8 := fun x =>
  if offset ≤ x ∧ x < offset + 4 then byteAt value (x - offset) else conf x

def PciBus.setDevice (fn : PciFunction) (device : PciDevice) (s : PciBus) : PciBus :=
  { s with device := Function.update s.device fn device }

/-- `PciInitialize`, with no port registered. -/
def pciInitialState : PciBus where
  device _ :=
    { conf := fun x => if x < 256 then 0xff else 0
      bar := fun _ => ⟨.none, 0, 0, 0⟩
      initialized := false }
  port _ := none

/-- `PciRegisterConfigHandler`. -/
def pciRegisterConfigHandler (fn : PciFunction) (s : PciBus) : PciBus :=
  if (s.device fn).initialized then s
  else s.setDevice fn { s.device fn with initialized := true }

/-- `PciInitConfig`. -/
def pciInitConfig (fn : PciFunction) (vendor device : BitVec 16) (revision : BitVec 8)
    (cls : BitVec 32) (progIf type interruptPin : BitVec 8) (s : PciBus) : PciOutcome PciBus :=
  if (s.device fn).initialized = false then .error .exit
  else .ok <| s.setDevice fn
    { s.device fn with
      conf := fun x =>
        if x = 0x3d then interruptPin
        else if x = pciConfHdrType then type
        else if x = 0x0b then (cls >>> 8).setWidth 8
        else if x = 0x0a then cls.setWidth 8
        else if x = 0x09 then progIf
        else if x = 0x08 then revision
        else if x = 0x03 then (device >>> 8).setWidth 8
        else if x = 0x02 then device.setWidth 8
        else if x = 0x01 then (vendor >>> 8).setWidth 8
        else if x = 0x00 then vendor.setWidth 8
        else if x < 0xff then 0
        else (s.device fn).conf x }

/-- `PciSetBarIo`. -/
def pciSetBarIo (fn : PciFunction) (barNumber : BitVec 8) (barAddress : BitVec 32)
    (size : BitVec 16) (mask : BitVec 64) (s : PciBus) : PciBus :=
  if barNumber < 6 then
    s.setDevice fn
      { s.device fn with
        bar := Function.update (s.device fn).bar barNumber.toNat
          ⟨.io, size.setWidth 32, barAddress, mask⟩
        conf := storeDword (s.device fn).conf (pciConfBar0 + 4 * barNumber.toNat)
          (barAddress ||| 1) }
  else s

/-- What devices do as they are set up.  Every call of `PciSetBarIo` passes the address 0. -/
inductive PciRegistration where
  | handler (fn : PciFunction)
  | config (fn : PciFunction) (vendor device : BitVec 16) (revision : BitVec 8) (cls : BitVec 32)
      (progIf type interruptPin : BitVec 8)
  | bar (fn : PciFunction) (barNumber : BitVec 8) (size : BitVec 16) (mask : BitVec 64)
  | port (address : BitVec 32) (n : ℕ)

def pciRegistration (s : PciBus) : PciRegistration → PciOutcome PciBus
  | .handler fn => .ok (pciRegisterConfigHandler fn s)
  | .config fn vendor device revision cls progIf type interruptPin =>
      pciInitConfig fn vendor device revision cls progIf type interruptPin s
  | .bar fn barNumber size mask => .ok (pciSetBarIo fn barNumber 0 size mask s)
  | .port address n => registerPortIoHandler address (.device n) s

/-! ## Writes to BARs -/

/-- A configuration write. -/
structure PciWrite where
  fn : PciFunction
  offset : BitVec 8
  value : BitVec 32
  length : ℕ

namespace PciWrite

variable (w : PciWrite)

def barNum : ℕ := (w.offset.toNat - pciConfBar0) / 4

/-- The address that the value stands for. -/
def address : BitVec 32 := w.value &&& ~~~3

/-- A byte of the value, as it is put into the configuration space of an I/O BAR. -/
def byte (i : ℕ) : BitVec 8 :=
  if i = 0 then byteAt w.value 0 &&& 0xfc ||| 1 else byteAt w.value i

/-- The configuration space with the bytes of the value in it. -/
def store (conf : ℕ → BitVec 8) : ℕ → BitVec 8 := fun x =>
  if w.offset.toNat ≤ x ∧ x < w.offset.toNat + w.length then w.byte (x - w.offset.toNat)
  else conf x

/-- `bar_change` is not set. -/
def Quiet (conf : ℕ → BitVec 8) : Prop :=
  ∀ i < w.length, w.byte i = conf (w.offset.toNat + i)

instance (conf : ℕ → BitVec 8) : Decidable (w.Quiet conf) :=
  inferInstanceAs (Decidable (∀ i < w.length, _))

/-- The configuration space with the size of the BAR in it, for a value of all ones. -/
def storeSize (size : BitVec 32) (conf : ℕ → BitVec 8) : ℕ → BitVec 8 :=
  storeDword conf w.offset.toNat (~~~(size - 1) &&& 0xfffffffc ||| 1)

end PciWrite

/-- The address of a BAR. -/
def PciDevice.setAddr (barNum : ℕ) (addr : BitVec 32) (device : PciDevice) : PciDevice :=
  { device with
    bar := Function.update device.bar barNum { device.bar barNum with addr := addr } }

/-- A turn of the loop first removes the handlers of the port at the old address, if there is
one. -/
def removeBarPort (bar : PciBar) (i : ℕ) (s : PciBus) : PciOutcome PciBus :=
  if bar.addr ≠ 0 then removePortIoHandler (bar.addr + BitVec.ofNat 32 i) s else .ok s

/-- The loop over the ports of a BAR, from a list of them on, and what follows it. -/
def pciMoveBar (w : PciWrite) : List ℕ → PciBus → PciOutcome PciBus
  | [], s => .ok (s.setDevice w.fn ((s.device w.fn).setAddr w.barNum w.address))
  | i :: is, s =>
      let bar := (s.device w.fn).bar w.barNum
      if 64 ≤ i then .error .shiftOverflow
      else if bar.mask.getLsbD i then pciMoveBar w is s
      else do
        let s ← removeBarPort bar i s
        if w.address = 0 then
          let device := (s.device w.fn).setAddr w.barNum 0
          return s.setDevice w.fn
            { device with conf := storeDword device.conf w.offset.toNat 1 }
        else do
          let s ← registerPortIoHandler (w.address + BitVec.ofNat 32 i) (.bar w.fn w.barNum) s
          pciMoveBar w is s

/-- `PCI_CONF_ROM_ADDRESS` and `PCI_CONF_IRQ_LINE`. -/
def pciConfRomAddress : BitVec 8 := 0x30
def pciConfIrqLine : BitVec 8 := 0x3c

/-- `PciWriteConfHandler`, with the handlers that functions have for the rest of their
configuration space. -/
def pciWriteConfHandler (writePciConfHandler : PciBus → PciWrite → PciOutcome PciBus) (s : PciBus)
    (w : PciWrite) : PciOutcome PciBus :=
  let device := s.device w.fn
  if device.initialized = false then .ok s
  else if w.offset = 0xff ∨ 0xff ≤ w.offset.toNat + w.length then .ok s
  else if device.conf pciConfHdrType &&& 3 = 0 ∧ pciConfBar0 ≤ w.offset.toNat ∧
      w.offset.toNat ≤ pciConfBar5 then
    if (device.bar w.barNum).type = .none then .ok s
    else
      let s' := s.setDevice w.fn { device with conf := w.store device.conf }
      if w.Quiet device.conf then .ok s'
      else if w.value = 0xffffffff then
        .ok (s.setDevice w.fn { device with
          conf := w.storeSize (device.bar w.barNum).size (w.store device.conf) })
      else pciMoveBar w (List.range (device.bar w.barNum).size.toNat) s'
  else if w.offset = pciConfRomAddress then .ok s
  else if w.offset = pciConfIrqLine then
    .ok (s.setDevice w.fn { device with
      conf := Function.update (Function.update device.conf 0x3c (byteAt w.value 0)) 0x3d 1 })
  else writePciConfHandler s w

end Svmm
