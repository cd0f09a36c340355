import Svmm.Construction.Pci
import Svmm.Construction.Dispatch

/-!
# I/O and memory BARs

`pci.c`: the branch of `PciWriteConfHandler` for base addresses, `PciReadConfHandler`, `PciSetBarIo`
and `PciSetBarMmio`, for one function of the bus and the tables of handlers that its BARs register
in.  The file `Construction/Pci.lean` has all functions of the bus, with the I/O BARs that they set
up; here a BAR may be a memory BAR as well, and the handlers are those of
`Construction/Dispatch.lean`.
-/

namespace Svmm

open Bytes

/-- `BX_PCI_BAR_TYPE_NONE`, `BX_PCI_BAR_TYPE_IO` and `BX_PCI_BAR_TYPE_MEM`. -/
inductive BarType where
  | none
  | io
  | mem
  deriving DecidableEq, Repr

/-- `pci_bar`. -/
structure Bar (η : Type) where
  type : BarType
  size : BitVec 32
  addr : BitVec 32
  mask : BitVec 64
  writeHandler : Option η
  readHandler : Option η

/-- A function of the bus, and the tables of handlers. -/
structure BarSystem (η : Type) where
  conf : ℕ → BitVec 8
  bar : ℕ → Bar η
  dispatch : Dispatch η

/-- What stops the program: a call of `exit`, or a shift of the 64-bit mask by more than its
width. -/
inductive BarFault where
  | exit
  | shiftOverflow
  deriving DecidableEq, Repr

abbrev BarOutcome := Except BarFault

variable {η : Type}

/-! ## Setting up -/

namespace BarSystem

/-- `PciSetBarIo`. -/
def pciSetBarIo (barNumber : BitVec 8) (barAddress : BitVec 32) (size : BitVec 16) (w r : Option η)
    (mask : BitVec 64) (s : BarSystem η) : BarSystem η :=
  if barNumber < 6 then
    { s with
      bar := Function.update s.bar barNumber.toNat
        ⟨.io, size.setWidth 32, barAddress, mask, w, r⟩
      conf := storeDword s.conf (pciConfBar0 + 4 * barNumber.toNat) (barAddress ||| 1) }
  else s

/-- `PciSetBarMmio`, which leaves the mask alone. -/
def pciSetBarMmio (barNumber : BitVec 8) (barAddress size : BitVec 32) (w r : Option η)
    (s : BarSystem η) : BarSystem η :=
  if barNumber < 6 then
    { s with
      bar := Function.update s.bar barNumber.toNat
        ⟨.mem, size, barAddress, (s.bar barNumber.toNat).mask, w, r⟩
      conf := storeDword s.conf (pciConfBar0 + 4 * barNumber.toNat) barAddress }
  else s

/-- The address of a BAR. -/
def setAddr (barNum : ℕ) (addr : BitVec 32) (s : BarSystem η) : BarSystem η :=
  { s with bar := Function.update s.bar barNum { s.bar barNum with addr := addr } }

/-- A call on the tables, which ends the program where they refuse it. -/
def call (f : Dispatch η → Except Unit (Dispatch η)) (s : BarSystem η) :
    BarOutcome (BarSystem η) :=
  match f s.dispatch with
  | .ok dispatch => .ok { s with dispatch := dispatch }
  | .error _ => .error .exit

end BarSystem

/-! ## Writes -/

namespace PciWrite

variable (w : PciWrite)

/-- A byte of the value as it is put into a BAR: the first one keeps the type bits. -/
def barByte (type : BarType) (conf : ℕ → BitVec 8) (i : ℕ) : BitVec 8 :=
  if i = 0 then
    if type = .io then byteAt w.value 0 &&& 0xfc ||| 1
    else byteAt w.value 0 &&& 0xf0 ||| conf w.offset.toNat &&& 0x0f
  else byteAt w.value i

/-- The first pass: the configuration space with the bytes of the value in it. -/
def storeBar (type : BarType) (conf : ℕ → BitVec 8) : ℕ → BitVec 8 := fun x =>
  if w.offset.toNat ≤ x ∧ x < w.offset.toNat + w.length then
    w.barByte type conf (x - w.offset.toNat)
  else conf x

/-- `bar_change` stays 0. -/
def BarQuiet (type : BarType) (conf : ℕ → BitVec 8) : Prop :=
  ∀ i < w.length, w.barByte type conf i = conf (w.offset.toNat + i)

instance (type : BarType) (conf : ℕ → BitVec 8) : Decidable (w.BarQuiet type conf) :=
  inferInstanceAs (Decidable (∀ i < w.length, _))

/-- The size of a memory BAR: the bytes of the mask are taken in the opposite order, from what the
first pass stored. -/
def storeMemSize (size : BitVec 32) (conf : ℕ → BitVec 8) : ℕ → BitVec 8 := fun x =>
  let mask := ~~~(size - 1)
  if x = w.offset.toNat + 3 then conf x &&& (byteAt mask 0 &&& 0xfc)
  else if x = w.offset.toNat + 2 then conf x &&& byteAt mask 1
  else if x = w.offset.toNat + 1 then conf x &&& byteAt mask 2
  else if x = w.offset.toNat then conf x &&& byteAt mask 3
  else conf x

end PciWrite

open BarSystem

/-- The loop over the ports of an I/O BAR, from a list of them on, and what follows it. -/
def barMoveIo (w : PciWrite) : List ℕ → BarSystem η → BarOutcome (BarSystem η)
  | [], s => .ok (s.setAddr w.barNum w.address)
  | i :: is, s =>
      let bar := s.bar w.barNum
      if 64 ≤ i then .error .shiftOverflow
      else if bar.mask.getLsbD i then barMoveIo w is s
      else do
        let s ← if bar.addr ≠ 0 then
            s.call (Dispatch.removePortIoHandler (bar.addr + BitVec.ofNat 32 i))
          else .ok s
        if w.address = 0 then
          return { s.setAddr w.barNum 0 with conf := storeDword s.conf w.offset.toNat 1 }
        else do
          let s ← s.call (Dispatch.registerPortIoHandler (w.address + BitVec.ofNat 32 i)
            bar.writeHandler bar.readHandler)
          barMoveIo w is s

/-- The loop over the pages of a memory BAR; the answers of the driver are those to the removal and
to the registration of a turn. -/
def barMoveMmio (answer : ℕ → Bool → Bool) (w : PciWrite) :
    List ℕ → BarSystem η → BarOutcome (BarSystem η)
  | [], s => .ok (s.setAddr w.barNum w.address)
  | i :: is, s => do
      let bar := s.bar w.barNum
      let s ← if bar.addr ≠ 0 then
          s.call (Dispatch.mmioRemoveHandler (answer i false) (bar.addr + BitVec.ofNat 32 i))
        else .ok s
      if w.address = 0 then
        return { s.setAddr w.barNum 0 with conf := storeDword s.conf w.offset.toNat 0 }
      else do
        let s ← s.call (Dispatch.mmioRegisterHandler (answer i true)
          (w.address + BitVec.ofNat 32 i) 0x1000 bar.writeHandler bar.readHandler)
        barMoveMmio answer w is s

/-- The values of `i` in the loop over the pages, for sizes that leave room for the last step. -/
def barPages (size : BitVec 32) : List ℕ :=
  (List.range ((size.toNat + 0xffff) / 0x10000)).map (0x10000 * ·)

/-- What `PciWriteConfHandler` does with a write to a BAR. -/
def pciWriteBar (answer : ℕ → Bool → Bool) (s : BarSystem η) (w : PciWrite) :
    BarOutcome (BarSystem η) :=
  let bar := s.bar w.barNum
  let t := { s with conf := w.storeBar bar.type s.conf }
  if bar.type = .none then .ok s
  else if w.BarQuiet bar.type s.conf then .ok t
  else if bar.type = .io then
    if w.value = 0xffffffff then .ok { t with conf := w.storeSize bar.size t.conf }
    else barMoveIo w (List.range bar.size.toNat) t
  else
    if w.value = 0xffffffff then .ok { t with conf := w.storeMemSize bar.size t.conf }
    else barMoveMmio answer w (barPages bar.size) t

/-- What `PciReadConfHandler` returns for a read of a BAR. -/
def pciReadBar (s : BarSystem η) (offset length : ℕ) : BitVec 32 :=
  if (s.bar ((offset - pciConfBar0) / 4)).type = .none then 0
  else littleEndian (fun i => s.conf (offset + i)) length

end Svmm
