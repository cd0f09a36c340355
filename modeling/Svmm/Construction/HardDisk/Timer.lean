import Svmm.Construction.HardDisk.Ports

/-!
# Seek timer and bus master

What reaches the disk controllers from elsewhere than the ports: the tick that ends a seek, and the
calls with which the bus master moves the sectors of a DMA command.
-/

namespace Svmm

/-! ## The seek timer -/

/-- The registers when a seek has come to its end. -/
def AtaController.seekEnded (c : AtaController) : AtaController :=
  let c := { c with errorRegister := 0 }
  let c := ((c.clearStatus ideStatusBusy).setStatus ideStatusDriveRdy).setStatus
    ideStatusDevSeekComp
  (c.setStatus ideStatusDevReq).clearStatus ideStatusCorrectedData

/-- A pass of `HardDiskSeekTimer`, for a channel. -/
def hardDiskSeekTick (ch : Fin 4) (s : HardDisk) : HardDisk :=
  let c := s.controller ch
  match (s.drive ch).driveType with
  | .disk =>
      if c.currentCommand ∈ readCommandsExt ++ readCommands28 ++ [ideCommandSeek] then
        hardDiskRaiseInterrupt ch <| s.modifyController ch fun c =>
          { c.seekEnded with bufferIndex := 0 }
      else if c.currentCommand ∈ [ideCommandReadDmaExt, ideCommandReadDma] then
        (s.modifyController ch AtaController.seekEnded).call (.ideStartTransfer ch)
      else s
  | .cdrom =>
      if c.atapi.atapiCommand ∈ [scsiopRead, scsiopRead12, scsiopReadCd] then
        hardDiskReadySendAtapi ch s
      else s
  | .none => s

/-- `HardDiskSeekTimer`. -/
def hardDiskSeekTimer (s : HardDisk) : HardDisk := hardDiskSeekTick 1 (hardDiskSeekTick 0 s)

/-! ## The bus master -/

/-- The registers when a DMA command is complete. -/
def AtaDrive.bdmaCompleted (d : AtaDrive) : AtaDrive :=
  let c := ((d.controller.clearStatus ideStatusBusy).setStatus ideStatusDriveRdy).clearStatus
    ideStatusDevReq
  let c := c.clearStatus ideStatusError
  if d.driveType = .cdrom then
    { d with controller := (c.setInterruptReason true true).clearInterruptRel }
  else
    { d with
      controller := ((c.clearStatus ideStatusWriteFault).setStatus ideStatusDevSeekComp).clearStatus
        ideStatusCorrectedData
      currentLSector := d.nextLSector }

/-- `HardDiskBdmaComplete`. -/
def hardDiskBdmaComplete (ch : Fin 4) (s : HardDisk) : HardDisk :=
  hardDiskRaiseInterrupt ch (s.modifyDrive ch AtaDrive.bdmaCompleted)

/-- `CdRomReadBlock`: the bytes that `ReadFile` delivered, and what is stored at the address it was
given. -/
def cdRomBlock (cdRom : CdRom) (lbAddress bufferSize : BitVec 32) : ℕ × List (BitVec 8) :=
  let frame := cdRom.frame lbAddress
  if bufferSize = 2352 then
    let minute := ((lbAddress + 150) / 75 / 60).setWidth 8
    let second := ((lbAddress + 150) / 75 % 60).setWidth 8
    (frame.length, [0] ++ List.replicate 10 0xff ++
      [0, minute, second, ((lbAddress + 150) % 75).setWidth 8, 0x01] ++ frame ++
        List.replicate (2336 - frame.length) 0)
  else (frame.length, frame)

/-- `HardDiskBmdmaReadSector`: what it returns, and what it stores at the address it was given.
A sector of the disk goes to the controller's buffer, and nothing to that address. -/
def hardDiskBmdmaReadSector (ch : Fin 4) (s : HardDisk) :
    HardDiskOutcome (HardDisk × ℕ × List (BitVec 8)) :=
  let c := s.controller ch
  if c.currentCommand ∈ [ideCommandReadDma, ideCommandReadDmaExt] then
    if c.numberOfSectors = 0 then .ok (s, 0, [])
    else do
      let (s, ret) ← hardDiskReadSector ch s
      return (s, if ret = 0 then 0 else 1, [])
  else if c.currentCommand = ideCommandAtapiPacket ∧ c.packetDma ≠ 0 then
    if c.atapi.atapiCommand ∈ [scsiopRead, scsiopRead12, scsiopReadCd] then
      let (ret, bytes) := cdRomBlock s.cdRom c.lbAddress c.bufferSize
      if ret = 0 then .ok (s, 0, bytes)
      else .ok (s.modifyController ch fun c =>
        { c with lbAddress := c.lbAddress + 1, remainingBlocks := c.remainingBlocks - 1 }, 1, bytes)
    else do
      let bytes ← c.buffer.slice 0 (min c.bufferSize.toNat c.remainingBlocks.toNat)
      return (s, 1, bytes)
  else .ok (hardDiskCommandAborted ch s, 0, [])

/-- `HardDiskBmdmaWriteSector`.  The DMA writes are the commands that it refuses. -/
def hardDiskBmdmaWriteSector (ch : Fin 4) (s : HardDisk) : HardDiskOutcome (HardDisk × ℕ) :=
  let c := s.controller ch
  if c.currentCommand ∈ [ideCommandWriteDma, ideCommandWriteDmaExt] then
    .ok (hardDiskCommandAborted ch s, 0)
  else if c.numberOfSectors = 0 then .ok (s, 0)
  else hardDiskWriteSector ch s

/-! ## Events -/

/-- What can happen to the disk controllers. -/
inductive DiskEvent where
  | portWrite (address value length : BitVec 32)
  | portRead (address length : BitVec 32)
  | seekTimer
  | bdmaComplete (ch : Fin 4)
  | bmdmaRead (ch : Fin 4)
  | bmdmaWrite (ch : Fin 4)

/-- One event. -/
def hardDiskStep (s : HardDisk) : DiskEvent → HardDiskOutcome HardDisk
  | .portWrite address value length => hardDiskPortIoWriteHandler address value length s
  | .portRead address length => do
      let (s, _) ← hardDiskPortIoReadHandler address length s
      return s
  | .seekTimer => .ok (hardDiskSeekTimer s)
  | .bdmaComplete ch => .ok (hardDiskBdmaComplete ch s)
  | .bmdmaRead ch => do
      let (s, _) ← hardDiskBmdmaReadSector ch s
      return s
  | .bmdmaWrite ch => do
      let (s, _) ← hardDiskBmdmaWriteSector ch s
      return s

end Svmm
