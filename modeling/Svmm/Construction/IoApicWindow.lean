import Svmm.Construction.RunLoop

/-!
# The I/O APIC's page of MMIO

The handlers that `IoApicInitialize` registers for the page at `IOAPIC_DEFAULT_MMIO`.  The
dispatcher of `pci.c` passes them the whole guest address.  The write handler cuts the address
to its low byte before it decodes it; the read handler decodes it as it is.
-/

namespace Svmm

/-- `IOAPIC_DEFAULT_MMIO`. -/
def ioApicDefaultMmio : BitVec 32 := 0xfec00000

/-- `IoApicVersion`, as `IoApicInitialize` sets it. -/
def ioApicVersion : BitVec 32 := (24 - 1) <<< 16 ||| 0x11

/-- The `Length` bytes of a value; a length that no `case` names has none. -/
def ioApicValue (data : BitVec 32) (length : ℕ) : Option (BitVec 32) :=
  if length = 1 then some (data &&& 0xff)
  else if length = 2 then some (data &&& 0xffff)
  else if length = 4 then some data
  else none

/-- `IoApicMMIOWriteHandler`; `data` is the `DWORD` at `Data`. -/
def ioApicWindowWrite (address data : BitVec 32) (length : ℕ) (s : State) : Outcome State :=
  let address := address &&& 0xff
  if address &&& 3 ≠ 0 then .ok s
  else
    match ioApicValue data length with
    | some value => ioApicMMIOWriteHandler address value s
    | none => .ok s

/-- The `switch` of `_IoApicMMIOReadHandler` on `IoRegisterSelect`. -/
def IoApic.dataRegister (a : IoApic) : BitVec 32 :=
  if a.ioRegisterSelect = 0 then (a.ioApicId &&& 0xf) <<< 24
  else if a.ioRegisterSelect = 1 then ioApicVersion
  else if a.ioRegisterSelect = 2 then 0
  else if h : ioApicEntryIndex a.ioRegisterSelect < 24 then
    let e := a.ioRedirectTable ⟨ioApicEntryIndex a.ioRegisterSelect, h⟩
    if Word.has a.ioRegisterSelect 0 then e.high else e.low
  else 0

/-- `_IoApicMMIOReadHandler`. -/
def ioApicMMIOReadHandler (address : BitVec 32) (a : IoApic) : BitVec 32 :=
  if address = 0 then a.ioRegisterSelect else a.dataRegister

/-- `IoApicMMIOReadHandler`: what it stores at `Data`, when it stores anything. -/
def ioApicWindowRead (address : BitVec 32) (length : ℕ) (s : State) : Option (BitVec 32) :=
  if address &&& 3 ≠ 0 then none
  else ioApicValue (ioApicMMIOReadHandler address s.ioApic) length

end Svmm
