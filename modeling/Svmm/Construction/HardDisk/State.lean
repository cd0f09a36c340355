import Svmm.Framework.Word
import Svmm.Framework.Bytes

/-!
# The disk controllers

`harddisk.h`: four ATA channels of two drives each, with the registers of each drive's controller.
What is outside `harddisk.c` is seen through its calls: the disk image and the CD-ROM image have
the content that reads of them return, and the calls on the interrupt controller and on the bus
master are listed.
-/

namespace Svmm

open Bytes

/-! ## Constants -/

/-- `IDE_STATUS_ERROR` and the other bits of the status register. -/
def ideStatusError : ℕ := 0
def ideStatusIndexPulse : ℕ := 1
def ideStatusCorrectedData : ℕ := 2
def ideStatusDevReq : ℕ := 3
def ideStatusDevSeekComp : ℕ := 4
def ideStatusWriteFault : ℕ := 5
def ideStatusDriveRdy : ℕ := 6
def ideStatusBusy : ℕ := 7

/-- `HARDDISK_SECTOR_SIZE`. -/
def hardDiskSectorSize : ℕ := 512

def hardDiskHeads : BitVec 64 := 16
def hardDiskSectors : BitVec 64 := 63

/-- `MAX_MULTIPLE_SECTORS`. -/
def maxMultipleSectors : ℕ := 16

/-! ## A drive -/

/-- What stops the program: a call of `exit`, or an access outside an allocated buffer. -/
inductive HardDiskFault where
  | exit
  | bufferOverrun
  deriving DecidableEq, Repr

abbrev HardDiskOutcome := Except HardDiskFault

/-- `Controller.Buffer` and its allocated length. -/
structure AtaBuffer where
  size : ℕ
  byte : ℕ → BitVec 8

/-- `HOB`. -/
structure Hob where
  lowCylinder : BitVec 8
  highCylinder : BitVec 8
  sector : BitVec 8
  nsector : BitVec 8
  deriving DecidableEq

/-- `ATAPI`. -/
structure Atapi where
  atapiCommand : BitVec 8
  drqBytes : BitVec 32
  totalBytesRemaining : BitVec 32
  deriving DecidableEq

/-- `SENSE_INFO`. -/
structure SenseInfo where
  senseKey : BitVec 8
  information : Fin 4 → BitVec 8
  specificInf : Fin 4 → BitVec 8
  keySpec : Fin 3 → BitVec 8
  fruc : BitVec 8
  asc : BitVec 8
  ascq : BitVec 8

/-- `CONTROLLER`.  `interrupt_reason` is the low bits of `sectorCount`. -/
structure AtaController where
  buffer : AtaBuffer
  bufferSize : BitVec 32
  bufferIndex : BitVec 32
  numberOfSectors : BitVec 32
  sectorCount : BitVec 8
  sectorNumber : BitVec 8
  multipleSectors : BitVec 8
  addressMode : BitVec 8
  lbAddress : BitVec 32
  lba48 : BitVec 8
  hob : Hob
  headNumber : BitVec 8
  cylinderNumber : BitVec 16
  status : BitVec 8
  errorRegister : BitVec 8
  indexPulse : BitVec 8
  resetInProgress : BitVec 8
  reset : BitVec 8
  mdmaMode : BitVec 8
  udmaMode : BitVec 8
  packetDma : BitVec 8
  currentCommand : BitVec 8
  drqIndex : BitVec 32
  features : BitVec 8
  disableIrq : BitVec 8
  atapi : Atapi
  sense : SenseInfo
  remainingBlocks : BitVec 32
  locked : BitVec 8

/-- `DRIVE_TYPE_NONE`, `DRIVE_TYPE_CDROM` and `DRIVE_TYPE_DISK`. -/
inductive DriveType where
  | none
  | cdrom
  | disk
  deriving DecidableEq, Repr

/-- `DRIVE`. -/
structure AtaDrive where
  driveId : ℕ → BitVec 16
  model : ℕ → BitVec 8
  driveType : DriveType
  controller : AtaController
  cylinders : BitVec 64
  heads : BitVec 64
  spt : BitVec 64
  nextLSector : BitVec 64
  currentLSector : BitVec 64
  identifySet : BitVec 8

/-- `ATA_CHANNEL`. -/
structure AtaChannel where
  ioAddr1 : BitVec 16
  ioAddr2 : BitVec 16
  irq : BitVec 8
  drive : Fin 2 → AtaDrive
  driveSelect : BitVec 8

/-! ## The images and the whole device -/

/-- The disk image: its size and content, the offset last sought, every offset sought and every
block written so far, each with the offset it was written at.  `writeSucceeds` is whether a call
of `VhdWrite` returns other than zero, by the number of calls before it. -/
structure DiskImage where
  size : BitVec 64
  content : ℕ → BitVec 8
  offset : BitVec 64
  seeks : List (BitVec 64)
  writes : List (BitVec 64 × List (BitVec 8))
  writeSucceeds : ℕ → Bool

/-- The CD-ROM image: its capacity, and what `ReadFile` delivers for a frame. -/
structure CdRom where
  capacity : BitVec 64
  frame : BitVec 32 → List (BitVec 8)

/-- The calls on other modules. -/
inductive HardDiskCall where
  | picRaiseIrq (irqNumber : BitVec 8)
  | picLowerIrq (irqNumber : BitVec 8)
  | ideSetIrq (channel : Fin 4)
  | ideStartTransfer (channel : Fin 4)
  deriving DecidableEq

/-- The state of `harddisk.c`.  `bdmaPresent` is what `IdeBdmaPresent` returns. -/
structure HardDisk where
  channel : Fin 4 → AtaChannel
  image : DiskImage
  cdRom : CdRom
  bdmaPresent : BitVec 32
  calls : List HardDiskCall

/-! ## Access to the buffer -/

namespace AtaBuffer

variable (b : AtaBuffer)

/-- The length of an access of a port instruction: a switch that knows 4, 2 and 1. -/
def accessLength (length : BitVec 32) : ℕ :=
  if length = 4 then 4 else if length = 2 then 2 else if length = 1 then 1 else 0

/-- `temp = *(DWORD *)&Buffer[BufferIndex]` and its narrower forms. -/
def load (index : ℕ) (length : BitVec 32) : HardDiskOutcome (BitVec 32) :=
  if index + accessLength length ≤ b.size then
    .ok (littleEndian (fun j => b.byte (index + j)) (accessLength length))
  else .error .bufferOverrun

/-- Overwrite `count` bytes from an index on. -/
def fill (index count : ℕ) (data : ℕ → BitVec 8) : HardDiskOutcome AtaBuffer :=
  if index + count ≤ b.size then
    .ok { b with
      byte := fun j => if index ≤ j ∧ j < index + count then data (j - index) else b.byte j }
  else .error .bufferOverrun

/-- `*(DWORD *)&Buffer[BufferIndex] = Value` and its narrower forms. -/
def store (index : ℕ) (length : BitVec 32) (value : BitVec 32) : HardDiskOutcome AtaBuffer :=
  b.fill index (accessLength length) (byteAt value)

/-- The bytes that a call is given a pointer to. -/
def slice (index count : ℕ) : HardDiskOutcome (List (BitVec 8)) :=
  if index + count ≤ b.size then .ok ((List.range count).map fun j => b.byte (index + j))
  else .error .bufferOverrun

end AtaBuffer

/-! ## Access to the registers -/

namespace AtaController

variable (c : AtaController)

/-- An assignment to `Controller.Status`. -/
def updateStatus (f : BitVec 8 → BitVec 8) : AtaController := { c with status := f c.status }

/-- `Controller.Status |= bit`. -/
def setStatus (bit : ℕ) : AtaController := c.updateStatus (Word.set · bit)

/-- `Controller.Status &= ~bit`. -/
def clearStatus (bit : ℕ) : AtaController := c.updateStatus (Word.clear · bit)

/-- The truth value of `Controller.Status & bit`. -/
def hasStatus (bit : ℕ) : Bool := Word.has c.status bit

/-- `interrupt_reason.c_d`, `.i_o` and `.rel`. -/
def setInterruptReason (commandData inputOutput : Bool) : AtaController :=
  let count := if commandData then Word.set c.sectorCount 0 else Word.clear c.sectorCount 0
  { c with sectorCount := if inputOutput then Word.set count 1 else Word.clear count 1 }

def clearInterruptRel : AtaController := { c with sectorCount := Word.clear c.sectorCount 2 }

end AtaController

/-- `Dnum`: the selected drive. -/
def AtaChannel.dnum (c : AtaChannel) : Fin 2 := if c.driveSelect ≠ 0 then 1 else 0

namespace HardDisk

variable (ch : Fin 4)

/-- `AtaChannel[Channel].Drive[Dnum]`. -/
def drive (s : HardDisk) : AtaDrive := (s.channel ch).drive (s.channel ch).dnum

/-- `AtaChannel[Channel].Drive[Dnum].Controller`. -/
def controller (s : HardDisk) : AtaController := (s.drive ch).controller

def setChannel (c : AtaChannel) (s : HardDisk) : HardDisk :=
  { s with channel := Function.update s.channel ch c }

/-- Update the drive with a number. -/
def modifyDriveAt (n : Fin 2) (f : AtaDrive → AtaDrive) (s : HardDisk) : HardDisk :=
  s.setChannel ch { s.channel ch with
    drive := Function.update (s.channel ch).drive n (f ((s.channel ch).drive n)) }

/-- Update the selected drive. -/
def modifyDrive (f : AtaDrive → AtaDrive) (s : HardDisk) : HardDisk :=
  s.modifyDriveAt ch (s.channel ch).dnum f

/-- Update the selected drive's controller. -/
def modifyController (f : AtaController → AtaController) (s : HardDisk) : HardDisk :=
  s.modifyDrive ch fun d => { d with controller := f d.controller }

/-- Update both controllers of a channel. -/
def modifyControllers (f : AtaController → AtaController) (s : HardDisk) : HardDisk :=
  s.setChannel ch { s.channel ch with
    drive := fun n => { (s.channel ch).drive n with
      controller := f ((s.channel ch).drive n).controller } }

def call (c : HardDiskCall) (s : HardDisk) : HardDisk := { s with calls := s.calls ++ [c] }

end HardDisk

end Svmm
