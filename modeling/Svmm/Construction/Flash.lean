import Mathlib.Tactic.Common
import Mathlib.Logic.Function.Basic
import Svmm.Framework.Word

/-!
# The flash chip

`flash.c`: the command machine behind the window at `FLASH_MMIO`, whose array is the image file.
`Data` is a buffer of the caller's: a read stores into it what it returns and leaves the rest.
Beside what a handler does stands the part of `Storage` that its `memcpy` touches, by its
offset and its length; nothing here says that the part is inside the allocation.
-/

namespace Svmm

/-- `FLASH_MMIO`. -/
def flashMmio : BitVec 32 := 0xffc00000

/-- `FLASH_SIZE`. -/
def flashSize : BitVec 32 := 0x400000

/-- What `FlashInitialize` registers of it: the last 128 KiB are the BIOS ROM's. -/
def flashWindow : ℕ := 0x400000 - 128 * 1024

/-- Bit of the status register: ready. -/
def flashReady : ℕ := 7

/-- Bit of the status register: programming error. -/
def flashProgramError : ℕ := 4

/-- `struct Flash`, with the length of `Storage`. -/
structure Flash where
  cmd : BitVec 8
  status : BitVec 8
  wcycle : BitVec 8
  cfiTable : ℕ → BitVec 8
  storage : ℕ → BitVec 8
  storageSize : ℕ

/-- The table that `FlashInitialize` fills in; what it leaves out is 0. -/
def cfiTable : List (BitVec 8) :=
  [0, 0, 0, 0, 0, 0, 0, 0, 0, 0, 0, 0, 0, 0, 0, 0,
   -- "QRY", the command set, its table, no alternate set and no table of one
   0x51, 0x52, 0x59, 0x01, 0x00, 0x31, 0x00, 0x00, 0x00, 0x00, 0x00,
   -- voltages, timeouts
   0x45, 0x55, 0x00, 0x00, 0x07, 0x07, 0x0a, 0x00, 0x04, 0x04, 0x04, 0x00,
   -- the device: its size, its interface, its write buffer, its blocks
   0x22, 0x02, 0x00, 0x08, 0x00, 0x01, 0xff, 0x03, 0x10, 0x00,
   -- "PRI" and version 1.0
   0x50, 0x52, 0x49, 0x31, 0x30, 0x00, 0x00, 0x00, 0x00, 0x00, 0x00, 0x00, 0x00, 0x00,
   0x01]

namespace Flash

variable (s : Flash)

/-- `Wcycle = 0; Cmd = 0`. -/
def toArray : Flash := { s with wcycle := 0, cmd := 0 }

/-- `Status |= 0x80`. -/
def setReady : Flash := { s with status := Word.set s.status flashReady }

/-- `memcpy(Storage + offset, Data, length)`. -/
def program (offset length : ℕ) (data : ℕ → BitVec 8) : Flash :=
  { s with storage := fun i =>
      if offset ≤ i ∧ i < offset + length then data (i - offset) else s.storage i }

end Flash

/-! ## Writes -/

/-- The `case 0` of `Wcycle`: the `switch` is on `Cmd`, the command that was written before. -/
def flashWriteFirst (value : BitVec 8) (s : Flash) : Flash :=
  if s.cmd = 0x10 ∨ s.cmd = 0x40 ∨ s.cmd = 0x60 ∨ s.cmd = 0x98 then
    { s with wcycle := s.wcycle + 1, cmd := value }
  else if s.cmd = 0x70 ∨ s.cmd = 0x90 then { s with cmd := value }
  else if s.cmd = 0xe8 then
    { s.setReady with wcycle := s.wcycle + 1, cmd := value }
  else if s.cmd = 0x20 then s
  else if s.cmd = 0x50 then { s.toArray with status := 0 }
  else s.toArray

/-- The `case 1` of `Wcycle`, with what it copies. -/
def flashWriteSecond (address length : BitVec 32) (data : ℕ → BitVec 8) (s : Flash) :
    Flash × List (ℕ × ℕ) :=
  if s.cmd = 0x10 ∨ s.cmd = 0x40 then
    if flashSize ≤ address + length then (s, [])
    else
      ({ (s.program address.toNat length.toNat data).setReady with wcycle := 0 },
        [(address.toNat, length.toNat)])
  else if s.cmd = 0x20 ∨ s.cmd = 0x28 then
    if data 0 = 0xd0 then ({ s.setReady with wcycle := 0 }, []) else (s.toArray, [])
  else if s.cmd = 0xe8 then ({ s with wcycle := s.wcycle + 1 }, [])
  else if s.cmd = 0x60 then
    if data 0 = 0xd0 ∨ data 0 = 0x01 then ({ s.setReady with wcycle := 0 }, [])
    else (s.toArray, [])
  else if s.cmd = 0x98 then
    if data 0 = 0xff then (s.toArray, []) else (s, [])
  else (s.toArray, [])

/-- The `case 2` of `Wcycle`, with what it copies. -/
def flashWriteThird (address length : BitVec 32) (data : ℕ → BitVec 8) (s : Flash) :
    Flash × List (ℕ × ℕ) :=
  if s.cmd = 0xe8 then
    if flashSize ≤ address + length then (s, [])
    else
      ((s.program address.toNat length.toNat data).setReady, [(address.toNat, length.toNat)])
  else (s.toArray, [])

/-- The `case 3` of `Wcycle`. -/
def flashWriteFourth (data : ℕ → BitVec 8) (s : Flash) : Flash :=
  if s.cmd = 0xe8 ∧ data 0 = 0xd0 ∧ Word.has s.status flashProgramError = false then
    { s.setReady with wcycle := 0 }
  else s.toArray

/-- `FlashWriteMmioHandler`, with the parts of `Storage` that it copies. -/
def flashWriteMmioHandler (address length : BitVec 32) (data : ℕ → BitVec 8) (s : Flash) :
    Flash × List (ℕ × ℕ) :=
  let address := address - flashMmio
  if s.wcycle = 0 then (flashWriteFirst (data 0) s, [])
  else if s.wcycle = 1 then flashWriteSecond address length data s
  else if s.wcycle = 2 then flashWriteThird address length data s
  else if s.wcycle = 3 then (flashWriteFourth data s, [])
  else (s, [])

/-! ## Reads -/

/-- What a read does: the buffer at `Data`, the parts of `Storage` copied, the state. -/
structure FlashRead where
  data : ℕ → BitVec 8
  copies : List (ℕ × ℕ)
  state : Flash

/-- The array read, to which an unknown command falls through. -/
def flashReadArray (address length : BitVec 32) (data : ℕ → BitVec 8) (s : Flash) : FlashRead :=
  if flashSize ≤ address + length then ⟨data, [], s⟩
  else
    ⟨fun i => if i < length.toNat then s.storage (address.toNat + i) else data i,
      [(address.toNat, length.toNat)], s⟩

/-- `FlashReadMmioHandler`. -/
def flashReadMmioHandler (address length : BitVec 32) (data : ℕ → BitVec 8) (s : Flash) :
    FlashRead :=
  let address := address - flashMmio
  if s.cmd = 0x00 then flashReadArray address length data s
  else if s.cmd = 0x10 ∨ s.cmd = 0x20 ∨ s.cmd = 0x28 ∨ s.cmd = 0x40 ∨ s.cmd = 0x50 ∨
      s.cmd = 0x60 ∨ s.cmd = 0x70 ∨ s.cmd = 0xe8 then
    ⟨Function.update data 0 s.status, [], s⟩
  else if s.cmd = 0x90 then ⟨data, [], s⟩
  else if s.cmd = 0x98 then
    ⟨Function.update data 0 (s.cfiTable (address &&& 0x51).toNat), [], s⟩
  else flashReadArray address length data s.toArray

/-! ## The image -/

/-- An image file whose size `GetFileSize` reports: any but `INVALID_FILE_SIZE`. -/
structure FlashImage where
  content : ℕ → BitVec 8
  fileSize : BitVec 32
  accepted : fileSize ≠ 0xffffffff

/-- `Flash` after `FlashInitialize`. -/
def FlashImage.flashInitialize (image : FlashImage) : Flash where
  cmd := 0
  status := 0
  wcycle := 0
  cfiTable k := cfiTable.getD k 0
  storage := image.content
  storageSize := image.fileSize.toNat

end Svmm
