import Svmm.Construction.HardDisk.State

/-!
# Addresses and sector transfers

The functions of `harddisk.c` under the commands: the address registers, the interrupt, the end of
a command, and the loops that move sectors between the buffer and the disk image.
-/

namespace Svmm

/-! ## Address registers -/

/-- `HardDiskLba48Transform`. -/
def AtaController.lba48Transform (lba48 : BitVec 8) (c : AtaController) : AtaController :=
  { c with
    lba48 := lba48
    numberOfSectors :=
      if lba48 = 0 then
        if c.sectorCount = 0 then 256 else c.sectorCount.setWidth 32
      else if c.sectorCount = 0 ∧ c.hob.nsector = 0 then 65536
      else c.hob.nsector.setWidth 32 <<< 8 ||| c.sectorCount.setWidth 32 }

/-- Write a logical address to the address registers, as `HardDiskIncrementAddress` does. -/
def AtaController.setLba (logicalSector : BitVec 64) (c : AtaController) : AtaController :=
  if c.lba48 ≠ 0 then
    { c with
      hob := { c.hob with
        highCylinder := (logicalSector >>> 40).setWidth 8
        lowCylinder := (logicalSector >>> 32).setWidth 8
        sector := (logicalSector >>> 24).setWidth 8 }
      cylinderNumber := (logicalSector >>> 8).setWidth 16
      sectorNumber := logicalSector.setWidth 8 }
  else
    { c with
      headNumber := (logicalSector >>> 24).setWidth 8
      cylinderNumber := (logicalSector >>> 8).setWidth 16
      sectorNumber := logicalSector.setWidth 8 }

namespace AtaDrive

variable (d : AtaDrive)

/-- The cylinder, head and sector step of `HardDiskIncrementAddress`. -/
def incrementChs : AtaController :=
  let c := { d.controller with sectorNumber := d.controller.sectorNumber + 1 }
  if d.spt < c.sectorNumber.setWidth 64 then
    let c := { c with sectorNumber := 1, headNumber := c.headNumber + 1 }
    if d.heads ≤ c.sectorNumber.setWidth 64 then
      let c := { c with sectorNumber := 0, cylinderNumber := c.cylinderNumber + 1 }
      if d.cylinders ≤ c.cylinderNumber.setWidth 64 then
        { c with cylinderNumber := (d.cylinders - 1).setWidth 16 }
      else c
    else c
  else c

/-- `HardDiskIncrementAddress`. -/
def incrementAddress (logicalSector : BitVec 64) : AtaDrive × BitVec 64 :=
  let d := { d with controller := { d.controller with
    sectorCount := d.controller.sectorCount - 1
    numberOfSectors := d.controller.numberOfSectors - 1 } }
  if d.controller.addressMode ≠ 0 then
    ({ d with controller := d.controller.setLba (logicalSector + 1) }, logicalSector + 1)
  else ({ d with controller := d.incrementChs }, logicalSector)

/-- The address registers as a logical address. -/
def logicalAddress : BitVec 64 :=
  let c := d.controller
  if c.addressMode ≠ 0 then
    if c.lba48 ≠ 0 then
      c.hob.highCylinder.setWidth 64 <<< 40 ||| c.hob.lowCylinder.setWidth 64 <<< 32 |||
        c.hob.sector.setWidth 64 <<< 24 ||| c.cylinderNumber.setWidth 64 <<< 8 |||
        c.sectorNumber.setWidth 64
    else
      c.headNumber.setWidth 64 <<< 24 ||| c.cylinderNumber.setWidth 64 <<< 8 |||
        c.sectorNumber.setWidth 64
  else
    c.cylinderNumber.setWidth 64 * hardDiskHeads * hardDiskSectors +
      c.headNumber.setWidth 64 * hardDiskSectors + (c.sectorNumber.setWidth 64 - 1)

/-- `HardDiskCalculateLogicalAddress`; -1 where the address is not on the disk. -/
def calculateLogicalAddress (diskSize : BitVec 64) : BitVec 64 :=
  if diskSize / 512 ≤ d.logicalAddress then -1 else d.logicalAddress

end AtaDrive

/-! ## The end of a command -/

/-- `HardDiskRaiseInterrupt`. -/
def hardDiskRaiseInterrupt (ch : Fin 4) (s : HardDisk) : HardDisk :=
  if (s.controller ch).disableIrq = 0 then
    (s.call (.ideSetIrq ch)).call (.picRaiseIrq (s.channel ch).irq)
  else s

/-- `PicLowerIrq(AtaChannel[Channel].Irq)`. -/
def hardDiskLowerIrq (ch : Fin 4) (s : HardDisk) : HardDisk :=
  s.call (.picLowerIrq (s.channel ch).irq)

def AtaController.aborted (c : AtaController) : AtaController :=
  let c := { c with currentCommand := 0 }
  let c := ((c.clearStatus ideStatusBusy).setStatus ideStatusError).setStatus ideStatusDriveRdy
  let c := { c with errorRegister := 4 }
  let c := (c.clearStatus ideStatusDevReq).clearStatus ideStatusCorrectedData
  { c with bufferIndex := 0 }

/-- `HardDiskCommandAborted`. -/
def hardDiskCommandAborted (ch : Fin 4) (s : HardDisk) : HardDisk :=
  hardDiskRaiseInterrupt ch (s.modifyController ch AtaController.aborted)

/-! ## Sector transfers -/

/-- `VhdSeek`. -/
def DiskImage.seek (offset : BitVec 64) (image : DiskImage) : DiskImage :=
  { image with offset := offset, seeks := image.seeks ++ [offset] }

/-- `VhdWrite`: whether it succeeded. -/
def DiskImage.write (block : List (BitVec 8)) (image : DiskImage) : Bool × DiskImage :=
  (image.writeSucceeds image.writes.length,
    { image with writes := image.writes ++ [(image.offset, block)] })

/-- The passes of `for (i = 0; i < BufferSize; i += HARDDISK_SECTOR_SIZE)`. -/
def sectorPasses (bufferSize : BitVec 32) : ℕ :=
  (bufferSize.toNat + (hardDiskSectorSize - 1)) / hardDiskSectorSize

/-- The loop of `HardDiskReadSector`, from `i` on. -/
def readSectorLoop : ℕ → ℕ → AtaDrive × DiskImage → HardDiskOutcome (AtaDrive × DiskImage)
  | 0, _, s => .ok s
  | n + 1, i, (d, image) => do
      let logicalSector := d.calculateLogicalAddress image.size
      let image := image.seek (logicalSector * 512)
      let buffer ← d.controller.buffer.fill i hardDiskSectorSize fun j =>
        image.content (image.offset.toNat + j)
      let d := { d with controller := { d.controller with buffer := buffer } }
      let (d, logicalSector) := d.incrementAddress logicalSector
      readSectorLoop n (i + hardDiskSectorSize) ({ d with nextLSector := logicalSector }, image)

/-- `HardDiskReadSector`. -/
def hardDiskReadSector (ch : Fin 4) (s : HardDisk) : HardDiskOutcome (HardDisk × ℕ) := do
  let passes := sectorPasses (s.controller ch).bufferSize
  let (d, image) ← readSectorLoop passes 0 (s.drive ch, s.image)
  return ({ s.modifyDrive ch fun _ => d with image := image }, passes * hardDiskSectorSize)

/-- The loop of `HardDiskWriteSector`, from `i` on, and whether it came to its end. -/
def writeSectorLoop :
    ℕ → ℕ → AtaDrive × DiskImage → HardDiskOutcome (AtaDrive × DiskImage × Bool)
  | 0, _, (d, image) => .ok (d, image, true)
  | n + 1, i, (d, image) =>
      let logicalSector := d.calculateLogicalAddress image.size
      if logicalSector = -1 then .ok (d, image, false) else do
        let image := image.seek (logicalSector * 512)
        let block ← d.controller.buffer.slice i hardDiskSectorSize
        let (ret, image) := image.write block
        if !ret then return (d, image, false) else
          let (d, logicalSector) := d.incrementAddress logicalSector
          writeSectorLoop n (i + hardDiskSectorSize)
            ({ d with nextLSector := logicalSector }, image)

/-- `HardDiskWriteSector`. -/
def hardDiskWriteSector (ch : Fin 4) (s : HardDisk) : HardDiskOutcome (HardDisk × ℕ) := do
  let passes := sectorPasses (s.controller ch).bufferSize
  let (d, image, complete) ← writeSectorLoop passes 0 (s.drive ch, s.image)
  let s := { s.modifyDrive ch fun _ => d with image := image }
  if complete then return (s, passes * hardDiskSectorSize)
  else return (hardDiskCommandAborted ch s, 0)

end Svmm
