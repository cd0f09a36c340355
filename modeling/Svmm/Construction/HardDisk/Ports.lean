import Svmm.Construction.HardDisk.Atapi

/-!
# The port handlers of the disk controllers

`HardDiskPortIoWriteHandler`, `HardDiskPortIoReadHandler`, and the state that
`HardDiskInitialize` leaves.
-/

namespace Svmm

/-! ## The data port -/

/-- The registers after a sector write of the data port: a further block is requested, or the
command is over. -/
def AtaDrive.endOfBlockWritten (d : AtaDrive) : AtaDrive :=
  let c := d.controller
  let c := if c.currentCommand ∈ writeMultiples then { c with bufferSize := c.multipleBlock } else c
  let c := { c with bufferIndex := 0 }
  if c.numberOfSectors ≠ 0 then
    let c := ((c.clearStatus ideStatusBusy).setStatus ideStatusDriveRdy).setStatus ideStatusDevReq
    { d with controller := (c.clearStatus ideStatusCorrectedData).clearStatus ideStatusError }
  else
    let c := ((c.clearStatus ideStatusBusy).setStatus ideStatusDriveRdy).clearStatus ideStatusDevReq
    { d with
      controller := (c.clearStatus ideStatusError).clearStatus ideStatusCorrectedData
      currentLSector := d.nextLSector }

/-- `Controller.BufferIndex += Length`. -/
def AtaController.advance (length : BitVec 32) (c : AtaController) : AtaController :=
  { c with bufferIndex := c.bufferIndex + length }

/-- `Controller.BufferIndex = 0`. -/
def AtaController.rewind (c : AtaController) : AtaController := { c with bufferIndex := 0 }

/-- A full buffer is written, and a further block is requested or the command is over. -/
def hardDiskBlockFilled (ch : Fin 4) (s : HardDisk) : HardDiskOutcome HardDisk := do
  let (s, temp) ← hardDiskWriteSector ch s
  if temp = 0 then return s
  else return hardDiskRaiseInterrupt ch (s.modifyDrive ch AtaDrive.endOfBlockWritten)

/-- A write to the data port during a sector write. -/
def hardDiskWriteData (ch : Fin 4) (value length : BitVec 32) (s : HardDisk) :
    HardDiskOutcome HardDisk :=
  let c := s.controller ch
  if c.bufferSize ≤ c.bufferIndex then .error .exit
  else do
    let buffer ← c.buffer.store c.bufferIndex.toNat length value
    let s := s.modifyController ch fun c => { c with buffer := buffer }.advance length
    if (s.controller ch).bufferIndex < (s.controller ch).bufferSize then return s
    else hardDiskBlockFilled ch s

/-- The registers once the buffer of a sector read has been read to its end. -/
def AtaDrive.endOfBlockRead (d : AtaDrive) : AtaDrive :=
  let c := d.controller
  let c := if c.currentCommand ∈ readMultiples then { c with bufferSize := c.multipleBlock } else c
  let c := ((c.setStatus ideStatusDriveRdy).setStatus ideStatusDevSeekComp).clearStatus
    ideStatusBusy
  let c := (c.clearStatus ideStatusWriteFault).clearStatus ideStatusError
  { d with controller := c.clearStatus ideStatusCorrectedData, currentLSector := d.nextLSector }

/-- The registers while the next block of a sector read is offered. -/
def AtaController.requestBlock (c : AtaController) : AtaController :=
  (c.setStatus ideStatusDevReq).setStatus ideStatusDevSeekComp

/-- The registers once the last block of a sector read has been read. -/
def AtaDrive.endOfRead (d : AtaDrive) : AtaDrive :=
  { d with
    controller := d.controller.clearStatus ideStatusDevReq
    currentLSector := d.nextLSector }

/-- An emptied buffer is filled with the next block, or the command is over. -/
def hardDiskBlockEmptied (ch : Fin 4) (s : HardDisk) : HardDiskOutcome HardDisk :=
  if (s.controller ch).numberOfSectors ≠ 0 then do
    let (s, _) ← hardDiskReadSector ch (s.modifyController ch AtaController.requestBlock)
    return hardDiskRaiseInterrupt ch (s.modifyController ch AtaController.rewind)
  else return s.modifyDrive ch AtaDrive.endOfRead

/-- What follows the bytes of a data read. -/
def hardDiskBytesTaken (ch : Fin 4) (s : HardDisk) : HardDiskOutcome HardDisk :=
  if (s.controller ch).bufferIndex < (s.controller ch).bufferSize then .ok s
  else hardDiskBlockEmptied ch (s.modifyDrive ch AtaDrive.endOfBlockRead)

/-- A read of the data port during a sector read. -/
def hardDiskReadData (ch : Fin 4) (length : BitVec 32) (s : HardDisk) :
    HardDiskOutcome (HardDisk × BitVec 32) :=
  let c := s.controller ch
  if c.bufferSize ≤ c.bufferIndex then .error .exit
  else if c.bufferSize < c.bufferIndex + length then .ok (s, 0)
  else do
    let temp ← c.buffer.load c.bufferIndex.toNat length
    let s ← hardDiskBytesTaken ch (s.modifyController ch (AtaController.advance length))
    return (s, temp)

/-- A read of the data port during an identification. -/
def hardDiskReadIdentity (ch : Fin 4) (length : BitVec 32) (s : HardDisk) :
    HardDiskOutcome (HardDisk × BitVec 32) := do
  let c := s.controller ch
  let c := ((c.clearStatus ideStatusBusy).setStatus ideStatusDriveRdy).clearStatus
    ideStatusWriteFault
  let c := ((c.setStatus ideStatusDevSeekComp).clearStatus ideStatusCorrectedData).clearStatus
    ideStatusError
  let c := if 512 ≤ c.bufferIndex + length then c.clearStatus ideStatusDevReq else c
  let temp ← c.buffer.load c.bufferIndex.toNat length
  return (s.modifyController ch fun _ => { c with bufferIndex := c.bufferIndex + length }, temp)

/-- `case 0` of `HardDiskPortIoWriteHandler`. -/
def hardDiskWriteDataPort (ch : Fin 4) (value length : BitVec 32) (s : HardDisk) :
    HardDiskOutcome HardDisk :=
  let command := (s.controller ch).currentCommand
  if command ∈ writeCommands28 ++ writeCommandsExt then hardDiskWriteData ch value length s
  else if command = ideCommandAtapiPacket then hardDiskWritePacket ch value length s
  else .ok s

/-- `case 0` of `HardDiskPortIoReadHandler`. -/
def hardDiskReadDataPort (ch : Fin 4) (length : BitVec 32) (s : HardDisk) :
    HardDiskOutcome (HardDisk × BitVec 32) :=
  let command := (s.controller ch).currentCommand
  if !(s.controller ch).hasStatus ideStatusDevReq then .ok (s, 0)
  else if command ∈ readCommands28 ++ readCommandsExt then hardDiskReadData ch length s
  else if command ∈ [ideCommandIdentify, ideCommandAtapiIdentify] then
    hardDiskReadIdentity ch length s
  else if command = ideCommandAtapiPacket then hardDiskReadReply ch length s
  else .ok (s, 0)

/-! ## The other ports -/

/-- The registers of a software reset. -/
def AtaController.resetting (c : AtaController) : AtaController :=
  let c := { (c.setStatus ideStatusBusy).clearStatus ideStatusDriveRdy with resetInProgress := 1 }
  let c := ((c.clearStatus ideStatusWriteFault).setStatus ideStatusDevSeekComp).clearStatus
    ideStatusDevReq
  let c := (c.clearStatus ideStatusCorrectedData).clearStatus ideStatusError
  { c with
    errorRegister := 1
    currentCommand := 0
    bufferIndex := 0
    multipleSectors := 0
    addressMode := 0
    disableIrq := 0 }

/-- `case 0x16` of `HardDiskPortIoWriteHandler`: the device control register. -/
def hardDiskWriteControl (ch : Fin 4) (value : BitVec 32) (s : HardDisk) : HardDisk :=
  let prevReset := (s.controller ch).reset
  let dnum := (s.channel ch).dnum
  let s := s.modifyControllers ch fun c => { c with
    reset := (value &&& 0x04).setWidth 8
    disableIrq := (value &&& 0x02).setWidth 8 }
  let c := s.controller ch
  if prevReset = 0 ∧ c.reset ≠ 0 then
    hardDiskLowerIrq ch (hardDiskLowerIrq ch (s.modifyControllers ch AtaController.resetting))
  else if c.resetInProgress ≠ 0 ∧ c.reset = 0 then
    let release (n : Fin 2) (s : HardDisk) : HardDisk :=
      hardDiskSetSignature ch dnum <| s.modifyDriveAt ch n fun d => { d with
        controller := { (d.controller.clearStatus ideStatusBusy).setStatus ideStatusDriveRdy with
          resetInProgress := 0 } }
    release 1 (release 0 s)
  else s

/-- `case 0x16` of `HardDiskPortIoReadHandler`: the index pulse and the status. -/
def AtaController.alternateStatus (c : AtaController) : AtaController :=
  let c := { c.clearStatus ideStatusIndexPulse with indexPulse := c.indexPulse + 1 }
  if 10 < c.indexPulse then { c.setStatus ideStatusIndexPulse with indexPulse := 0 } else c

/-! ## The handlers -/

/-- The channel and the port within it that an address selects. -/
def HardDisk.decode (s : HardDisk) (address : BitVec 32) : Fin 4 × BitVec 32 :=
  let base := address &&& 0xfff8
  let selects (ch : Fin 4) : Option (Fin 4 × BitVec 32) :=
    let addr1 := (s.channel ch).ioAddr1.setWidth 32
    let addr2 := (s.channel ch).ioAddr2.setWidth 32
    if base = addr1 then some (ch, address - addr1)
    else if base = addr2 then some (ch, address - addr2 + 0x10) else none
  ((selects 0).or ((selects 1).or ((selects 2).or (selects 3)))).getD (0, address - 0x3e0)

/-- `HardDiskPortIoWriteHandler`. -/
def hardDiskPortIoWriteHandler (address value length : BitVec 32) (s : HardDisk) :
    HardDiskOutcome HardDisk :=
  let (ch, port) := s.decode address
  let byte := value.setWidth 8
  if port = 0 then hardDiskWriteDataPort ch value length s
  else if port = 1 then .ok (s.modifyControllers ch fun c => { c with features := byte })
  else if port = 2 then .ok (s.modifyControllers ch fun c => { c with sectorCount := byte })
  else if port = 3 then .ok (s.modifyControllers ch fun c => { c with sectorNumber := byte })
  else if port = 4 then
    .ok (s.modifyControllers ch fun c => { c with
      cylinderNumber := c.cylinderNumber &&& 0xff00 ||| byte.setWidth 16 })
  else if port = 5 then
    .ok (s.modifyControllers ch fun c => { c with
      cylinderNumber := byte.setWidth 16 <<< 8 ||| c.cylinderNumber &&& 0xff })
  else if port = 6 then
    let s := s.setChannel ch { s.channel ch with driveSelect := byte &&& 0x10 }
    .ok (s.modifyControllers ch fun c => { c with
      addressMode := byte &&& 0x40
      headNumber := byte &&& 0xf })
  else if port = 7 then hardDiskWriteCommandRegister ch value s
  else if port = 0x16 then .ok (hardDiskWriteControl ch value s)
  else .ok s

/-- `HardDiskPortIoReadHandler`. -/
def hardDiskPortIoReadHandler (address length : BitVec 32) (s : HardDisk) :
    HardDiskOutcome (HardDisk × BitVec 32) :=
  let (ch, port) := s.decode address
  let c := s.controller ch
  let present := (s.drive ch).driveType ≠ .none
  if port = 0 then hardDiskReadDataPort ch length s
  else if port = 1 then .ok (s, if present then c.errorRegister.setWidth 32 else 0)
  else if port = 2 then .ok (s, if present then c.sectorCount.setWidth 32 else 0)
  else if port = 3 then .ok (s, if present then c.sectorNumber.setWidth 32 else 0)
  else if port = 4 then .ok (s, if present then c.cylinderNumber.setWidth 32 &&& 0xff else 0)
  else if port = 5 then .ok (s, if present then (c.cylinderNumber >>> 8).setWidth 32 else 0)
  else if port = 6 then
    .ok (s, 0xa0 ||| c.addressMode.setWidth 32 ||| (s.channel ch).driveSelect.setWidth 32 |||
      (c.headNumber &&& 0xf).setWidth 32)
  else if port = 7 then
    if present then .ok (hardDiskLowerIrq ch s, c.status.setWidth 32) else .ok (s, 0)
  else if port = 0x16 then
    if present then
      .ok (s.modifyController ch AtaController.alternateStatus,
        c.alternateStatus.status.setWidth 32)
    else .ok (s, 0)
  else if port = 0x17 then .ok (s, 0xff)
  else .ok (s, 0)

/-! ## The state at power-on -/

/-- A drive after `memset`. -/
def emptyDrive : AtaDrive :=
  { driveId := fun _ => 0
    model := fun _ => 0
    driveType := .none
    controller :=
      { buffer := { size := 0, byte := fun _ => 0 }
        bufferSize := 0, bufferIndex := 0, numberOfSectors := 0, sectorCount := 0
        sectorNumber := 0, multipleSectors := 0, addressMode := 0, lbAddress := 0, lba48 := 0
        hob := ⟨0, 0, 0, 0⟩, headNumber := 0, cylinderNumber := 0, status := 0
        errorRegister := 0, indexPulse := 0, resetInProgress := 0, reset := 0, mdmaMode := 0
        udmaMode := 0, packetDma := 0, currentCommand := 0, drqIndex := 0, features := 0
        disableIrq := 0, atapi := ⟨0, 0, 0⟩
        sense := ⟨0, fun _ => 0, fun _ => 0, fun _ => 0, 0, 0, 0⟩
        remainingBlocks := 0, locked := 0 }
    cylinders := 0
    heads := 0
    spt := 0
    nextLSector := 0
    currentLSector := 0
    identifySet := 0 }

/-- The registers that `HardDiskInitialize` gives a drive that is present. -/
def AtaController.initialized (allocated : ℕ) (c : AtaController) : AtaController :=
  { c with
    buffer := { size := allocated, byte := fun _ => 0 }
    status := Word.set (Word.set 0 ideStatusDriveRdy) ideStatusDevSeekComp
    errorRegister := 1
    sectorCount := 1
    sectorNumber := 1 }

/-- The disk of channel 0. -/
def initialDisk (size : BitVec 64) : AtaDrive :=
  { emptyDrive with
    driveType := .disk
    controller := emptyDrive.controller.initialized (maxMultipleSectors * hardDiskSectorSize + 6)
    cylinders := size / (16 * 63 * 512)
    heads := 16
    spt := 63
    currentLSector := size / 512 }

/-- The CD-ROM of channel 1. -/
def initialCdRom : AtaDrive :=
  { emptyDrive with
    driveType := .cdrom
    controller := emptyDrive.controller.initialized 2356 }

/-- `HardDiskInitialize`. -/
def hardDiskInitialize (image : DiskImage) (cdRom : CdRom) (bdmaPresent : BitVec 32) : HardDisk :=
  let channel (ioAddr1 ioAddr2 : BitVec 16) (irq : BitVec 8) (first : AtaDrive) : AtaChannel :=
    { ioAddr1 := ioAddr1, ioAddr2 := ioAddr2, irq := irq, driveSelect := 0
      drive := fun n => if n = 0 then first else emptyDrive }
  { channel := fun ch =>
      if ch = 0 then channel 0x1f0 0x3f0 14 (initialDisk image.size)
      else if ch = 1 then channel 0x170 0x370 15 initialCdRom
      else if ch = 2 then channel 0x1e8 0x3e0 0 emptyDrive
      else channel 0x168 0x360 0 emptyDrive
    image := image
    cdRom := cdRom
    bdmaPresent := bdmaPresent
    calls := [] }

/-- A run of byte writes to ports, each an address and a value. -/
def hardDiskWrites (writes : List (BitVec 32 × BitVec 32)) (s : HardDisk) :
    HardDiskOutcome HardDisk :=
  writes.foldlM (fun s write => hardDiskPortIoWriteHandler write.1 write.2 1 s) s

end Svmm
