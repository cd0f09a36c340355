import Svmm.Construction.Paging
import Svmm.Construction.HardDisk.Timer

/-!
# The bus master

`ide.c`: the registers of the two channels, and the timer that takes an entry of the table of
physical regions and moves its data between guest memory and a drive.  `memcpy` is given host
pointers; a tick lists the copies that touch them, each with the guest address that was looked up.
What the disk controllers call in this file is in the list of their calls.
-/

namespace Svmm

open Bytes

/-! ## Constants -/

/-- `IDE_BDMA_COMMAND_START` and `IDE_BDMA_COMMAND_WRITE` of `ide.h`. -/
def ideBdmaCommandStart : ℕ := 0
def ideBdmaCommandWrite : ℕ := 3

/-- `IDE_STATUS_ACTIVE`, `IDE_STATUS_INTERRUPT` and `IDE_STATUS_START`. -/
def bmdmaStatusActive : ℕ := 0
def bmdmaStatusInterrupt : ℕ := 2
def bmdmaStatusStart : ℕ := 4

/-- `IDE_BUFFER_SIZE`. -/
def ideBufferSize : ℕ := 0x20000

/-! ## State -/

/-- `BMDMA`. -/
structure Bmdma where
  command : BitVec 32
  status : BitVec 32
  prdTable : BitVec 32
  prdCurrent : BitVec 32
  buffer : ℕ → BitVec 8
  dataReady : BitVec 8
  bufferOffset : BitVec 32

/-- `Ide`, with the disk controllers and the machine.  The address of BAR 4 is what `IdeBdmaPresent`
returns. -/
structure IdeSystem where
  bmdma : Fin 2 → Bmdma
  disk : HardDisk
  machine : Machine

/-- What stops the program: a call of `exit`, or an access outside an allocated buffer. -/
abbrev IdeOutcome := Except HardDiskFault

/-- A `memcpy` at a host pointer that was looked up for a guest address.  The data of an entry, or
one of its two words. -/
structure IdeCopy where
  address : BitVec 32
  host : BitVec 64
  size : ℕ
  data : Bool

namespace IdeSystem

variable (s : IdeSystem)

def modify (ch : Fin 2) (f : Bmdma → Bmdma) : IdeSystem :=
  { s with bmdma := Function.update s.bmdma ch (f (s.bmdma ch)) }

/-- `IdeSetIrq` and `IdeStartTransfer`; the other calls go elsewhere. -/
def diskCall : HardDiskCall → IdeSystem
  | .ideSetIrq ch =>
      if h : ch.val < 2 then
        s.modify ⟨ch, h⟩ fun b => { b with status := Word.set b.status bmdmaStatusInterrupt }
      else s
  | .ideStartTransfer ch =>
      if h : ch.val < 2 then s.modify ⟨ch, h⟩ fun b => { b with dataReady := 1 } else s
  | .picRaiseIrq _ => s
  | .picLowerIrq _ => s

/-- The system after the disk controllers have moved on, and have made calls. -/
def withDisk (disk : HardDisk) : IdeSystem :=
  (disk.calls.drop s.disk.calls.length).foldl diskCall { s with disk := disk }

/-- `SvmmGetHostPageFromGPA`. -/
def host (address : BitVec 32) : BitVec 64 :=
  svmmGetHostPageFromGPA s.machine (address.setWidth 64)

/-- The bytes at a host pointer. -/
def hostByte (host : BitVec 64) (j : ℕ) : BitVec 8 := s.machine.byte (host + BitVec.ofNat 64 j)

/-- The copy of the bytes at a guest address. -/
def copy (address : BitVec 32) (size : ℕ) (data : Bool) : IdeCopy :=
  ⟨address, s.host address, size, data⟩

/-- A word of an entry. -/
def fetch (address : BitVec 32) : BitVec 32 := littleEndian (s.hostByte (s.host address)) 4

/-- `memcpy` to a host pointer. -/
def writeHost (host : BitVec 64) (size : ℕ) (data : ℕ → BitVec 8) : IdeSystem :=
  { s with machine := { s.machine with
    byte := fun p =>
      if (p - host).toNat < size then data (p - host).toNat else s.machine.byte p } }

/-- Store what a sector access returned in the buffer of a channel. -/
def storeBuffer (ch : Fin 2) (offset : ℕ) (bytes : List (BitVec 8)) : IdeOutcome IdeSystem :=
  if offset + bytes.length ≤ ideBufferSize then
    .ok (s.modify ch fun b => { b with
      buffer := fun j =>
        if offset ≤ j ∧ j < offset + bytes.length then bytes.getD (j - offset) 0 else b.buffer j })
  else .error .bufferOverrun

end IdeSystem

/-- The number of a channel among the disk controllers'. -/
def ataChannel (ch : Fin 2) : Fin 4 := ch.castLE (by decide)

/-- `IdeInitialize`. -/
def ideInitialize (disk : HardDisk) (machine : Machine) : IdeSystem where
  bmdma := fun _ => ⟨0, 0, 0, 0, fun _ => 0, 0, 0⟩
  disk := disk
  machine := machine

/-! ## Ports -/

/-- The command register: start, or stop. -/
def Bmdma.writeCommand (value : BitVec 32) (b : Bmdma) : Bmdma :=
  if Word.has value ideBdmaCommandStart ∧ ¬ Word.has b.command ideBdmaCommandStart then
    { b with
      command := value
      status := Word.set b.status bmdmaStatusActive
      prdCurrent := b.prdTable
      bufferOffset := 0 }
  else if ¬ Word.has value ideBdmaCommandStart ∧ Word.has b.command ideBdmaCommandStart then
    { b with command := value, status := Word.clear b.status bmdmaStatusActive }
  else b

/-- A register of a channel, by its offset. -/
def Bmdma.writePort (offset value : BitVec 32) (b : Bmdma) : Bmdma :=
  if offset = 0 then b.writeCommand value
  else if offset = 2 then
    { b with status := (value &&& 0x60) ||| (b.status &&& 1) |||
      (b.status &&& (~~~value &&& 0x06)) }
  else if offset = 4 then { b with prdTable := value &&& 0xfffffffc }
  else b

/-- `IdePortIoWriteHandler`.  The offset is a byte; a channel from 2 on is beyond the array. -/
def idePortIoWriteHandler (address value : BitVec 32) (s : IdeSystem) : IdeOutcome IdeSystem :=
  let offset := ((address - s.disk.bdmaPresent).setWidth 8).setWidth 32
  let channel := (offset >>> 3).toNat
  if h : channel < 2 then .ok (s.modify ⟨channel, h⟩ (Bmdma.writePort (offset &&& 0x07) value))
  else .error .bufferOverrun

/-! ## The timer -/

/-- The first channel that is active and has an entry. -/
def IdeSystem.activeChannel (s : IdeSystem) : Option (Fin 2) :=
  if Word.has (s.bmdma 0).status bmdmaStatusActive ∧ (s.bmdma 0).prdCurrent ≠ 0 then some 0
  else if Word.has (s.bmdma 1).status bmdmaStatusActive ∧ (s.bmdma 1).prdCurrent ≠ 0 then some 1
  else none

/-- The size that the second word of an entry gives. -/
def prdSize (count : BitVec 32) : BitVec 32 :=
  if count &&& 0xfffe = 0 then 0x10000 else count &&& 0xfffe

/-- Where in the buffer the data of an entry goes. -/
def prdOffset (bufferOffset size : BitVec 32) : BitVec 32 :=
  if bufferOffset + size < size ∨ BitVec.ofNat 32 ideBufferSize < bufferOffset + size then 0
  else bufferOffset

/-- The passes of `for (i = 0; i < size; i += 512)`. -/
def prdPasses (size : BitVec 32) : ℕ := (size.toNat + 511) / 512

/-- The loop for a transfer from a drive, from `i` on: whether every call returned zero. -/
def ideReadLoop (ch : Fin 2) (offset : ℕ) : ℕ → ℕ → IdeSystem → IdeOutcome (IdeSystem × Bool)
  | 0, _, s => .ok (s, true)
  | n + 1, i, s => do
      let (disk, ret, bytes) ← hardDiskBmdmaReadSector (ataChannel ch) s.disk
      let s ← (s.withDisk disk).storeBuffer ch (offset + i) bytes
      if ret ≠ 0 then return (s, false) else ideReadLoop ch offset n (i + 512) s

/-- The loop for a transfer to a drive. -/
def ideWriteLoop (ch : Fin 2) : ℕ → IdeSystem → IdeOutcome (IdeSystem × Bool)
  | 0, s => .ok (s, true)
  | n + 1, s => do
      let (disk, ret) ← hardDiskBmdmaWriteSector (ataChannel ch) s.disk
      let s := s.withDisk disk
      if ret ≠ 0 then return (s, false) else ideWriteLoop ch n s

/-- `HardDiskBdmaComplete`. -/
def ideBdmaComplete (ch : Fin 2) (s : IdeSystem) : IdeSystem :=
  s.withDisk (hardDiskBdmaComplete (ataChannel ch) s.disk)

/-- After the data of an entry: the end of the table, or the next entry. -/
def ideNextEntry (ch : Fin 2) (count size : BitVec 32) (s : IdeSystem) : IdeSystem :=
  if Word.has count 31 then
    ideBdmaComplete ch (s.modify ch fun b => { b with
      status := Word.set (Word.clear b.status bmdmaStatusActive) bmdmaStatusStart
      prdCurrent := 0
      bufferOffset := 0 })
  else s.modify ch fun b => { b with
    bufferOffset := b.bufferOffset + size
    prdCurrent := b.prdCurrent + 8 }

/-- What a tick comes to, and its copies at host pointers. -/
structure IdeTick where
  copies : List IdeCopy
  result : IdeOutcome IdeSystem

/-- `IdeTimerHandler`, from the entry of a channel on. -/
def ideTransfer (ch : Fin 2) (s : IdeSystem) : IdeTick :=
  let b := s.bmdma ch
  let words := [s.copy b.prdCurrent 4 false, s.copy (b.prdCurrent + 4) 4 false]
  let address := s.fetch b.prdCurrent
  let count := s.fetch (b.prdCurrent + 4)
  let size := prdSize count
  let offset := prdOffset b.bufferOffset size
  let data := s.copy address size.toNat true
  let s := s.modify ch fun b => { b with bufferOffset := offset }
  if Word.has b.command ideBdmaCommandWrite then
    match ideReadLoop ch offset.toNat (prdPasses size) 0 s with
    | .error e => ⟨words, .error e⟩
    | .ok r =>
        if r.2 then
          ⟨words ++ [data], .ok (ideNextEntry ch count size (r.1.writeHost data.host size.toNat
            fun j => (r.1.bmdma ch).buffer (offset.toNat + j)))⟩
        else ⟨words, .ok (ideBdmaComplete ch r.1)⟩
  else
    let s := s.modify ch fun b => { b with
      buffer := fun j =>
        if offset.toNat ≤ j ∧ j < offset.toNat + size.toNat then
          s.hostByte data.host (j - offset.toNat)
        else b.buffer j }
    match ideWriteLoop ch (prdPasses size) s with
    | .error e => ⟨words ++ [data], .error e⟩
    | .ok r =>
        ⟨words ++ [data], .ok (if r.2 then ideNextEntry ch count size r.1
          else ideBdmaComplete ch r.1)⟩

/-- `IdeTimerHandler`. -/
def ideTimerHandler (s : IdeSystem) : IdeTick :=
  match s.activeChannel with
  | none => ⟨[], .ok s⟩
  | some ch =>
      if (s.bmdma ch).dataReady = 0 ∧ Word.has (s.bmdma ch).command ideBdmaCommandWrite then
        ⟨[], .ok s⟩
      else ideTransfer ch s

/-! ## Events -/

/-- What can happen.  The guest's own steps leave memory and registers as they please; where RAM is
they do not choose. -/
inductive IdeEvent where
  | guest (machine : Machine)
  | bar (address : BitVec 32)
  | portWrite (address value : BitVec 32)
  | diskWrite (address value length : BitVec 32)
  | diskRead (address length : BitVec 32)
  | seekTimer
  | tick

/-- One event. -/
def ideStep (s : IdeSystem) : IdeEvent → IdeOutcome IdeSystem
  | .guest machine =>
      .ok { s with machine := { machine with
        ram := s.machine.ram, ramSize := s.machine.ramSize, memoryEnd := s.machine.memoryEnd } }
  | .bar address => .ok { s with disk := { s.disk with bdmaPresent := address } }
  | .portWrite address value => idePortIoWriteHandler address value s
  | .diskWrite address value length => do
      let disk ← hardDiskPortIoWriteHandler address value length s.disk
      return s.withDisk disk
  | .diskRead address length => do
      let (disk, _) ← hardDiskPortIoReadHandler address length s.disk
      return s.withDisk disk
  | .seekTimer => .ok (s.withDisk (hardDiskSeekTimer s.disk))
  | .tick => (ideTimerHandler s).result

end Svmm
