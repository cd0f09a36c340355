import Svmm.Construction.HardDisk.Transfer
import Svmm.Construction.HardDisk.Identify

/-!
# Commands

What a write to the command register (port 7 of a channel) does.  `HardDiskPortIoWriteHandler`
switches on the whole 32-bit value it is given.
-/

namespace Svmm

/-! ## Command codes -/

def ideCommandRead : BitVec 8 := 0x20
def ideCommandReadWithoutRetries : BitVec 8 := 0x21
def ideCommandReadExt : BitVec 8 := 0x24
def ideCommandReadMultipleExt : BitVec 8 := 0x29
def ideCommandReadMultiple : BitVec 8 := 0xc4
def ideCommandWrite : BitVec 8 := 0x30
def ideCommandWriteExt : BitVec 8 := 0x34
def ideCommandWriteMultipleExt : BitVec 8 := 0x39
def ideCommandWriteMultiple : BitVec 8 := 0xc5
def ideCommandReadDmaExt : BitVec 8 := 0x25
def ideCommandReadDma : BitVec 8 := 0xc8
def ideCommandWriteDmaExt : BitVec 8 := 0x35
def ideCommandWriteDma : BitVec 8 := 0xca
def ideCommandVerify : BitVec 8 := 0x40
def ideCommandVerifyNoRetry : BitVec 8 := 0x41
def ideCommandVerifyExt : BitVec 8 := 0x42
def ideCommandSeek : BitVec 8 := 0x70
def ideCommandExecuteDeviceDiagnostic : BitVec 8 := 0x90
def ideCommandSetDriveParameters : BitVec 8 := 0x91
def ideCommandAtapiReset : BitVec 8 := 0x08
def ideCommandAtapiPacket : BitVec 8 := 0xa0
def ideCommandAtapiIdentify : BitVec 8 := 0xa1
def ideCommandSetMultiple : BitVec 8 := 0xc6
def ideCommandStandbyImmediate : BitVec 8 := 0xe0
def ideCommandIdleImmediate : BitVec 8 := 0xe1
def ideCommandCheckPower : BitVec 8 := 0xe5
def ideCommandFlushCache : BitVec 8 := 0xe7
def ideCommandFlushCacheExt : BitVec 8 := 0xea
def ideCommandIdentify : BitVec 8 := 0xec
def ideCommandSetFeature : BitVec 8 := 0xef
def ideCommandReadNativeAddress : BitVec 8 := 0xf8
def ideCommandReadNativeAddressExt : BitVec 8 := 0x27

/-- The sector reads of the data port, 28-bit and EXT. -/
def readCommands28 : List (BitVec 8) :=
  [ideCommandRead, ideCommandReadWithoutRetries, ideCommandReadMultiple]

def readCommandsExt : List (BitVec 8) := [ideCommandReadExt, ideCommandReadMultipleExt]

/-- The sector writes of the data port, 28-bit and EXT. -/
def writeCommands28 : List (BitVec 8) := [ideCommandWrite, ideCommandWriteMultiple]

def writeCommandsExt : List (BitVec 8) := [ideCommandWriteExt, ideCommandWriteMultipleExt]

/-- The forms that transfer several sectors to a block. -/
def readMultiples : List (BitVec 8) := [ideCommandReadMultiple, ideCommandReadMultipleExt]

def writeMultiples : List (BitVec 8) := [ideCommandWriteMultiple, ideCommandWriteMultipleExt]

/-- The 32-bit value is one of the codes. -/
def IsCommand (value : BitVec 32) (codes : List (BitVec 8)) : Prop :=
  ∃ code ∈ codes, value = code.setWidth 32

instance (value : BitVec 32) (codes : List (BitVec 8)) : Decidable (IsCommand value codes) :=
  inferInstanceAs (Decidable (∃ code ∈ codes, value = code.setWidth 32))

/-! ## Sector reads and writes -/

/-- `BufferSize` for the next block of a `MULTIPLE` command. -/
def AtaController.multipleBlock (c : AtaController) : BitVec 32 :=
  if c.multipleSectors.setWidth 32 < c.numberOfSectors then c.multipleSectors.setWidth 32 * 512
  else c.numberOfSectors * 512

/-- The block size that a read or write command starts with. -/
def AtaController.startBlock (multiple : Bool) (c : AtaController) : AtaController :=
  { c with bufferSize := if multiple then c.multipleBlock else 512 }

/-- The registers of a read command that has found its address. -/
def AtaDrive.startRead (address : BitVec 64) (value : BitVec 32) (d : AtaDrive) : AtaDrive :=
  let c := { d.controller with currentCommand := value.setWidth 8, errorRegister := 0 }
  let c := (((c.setStatus ideStatusBusy).setStatus ideStatusDriveRdy).clearStatus
    ideStatusDevSeekComp).clearStatus ideStatusDevReq
  let c := { c.clearStatus ideStatusCorrectedData with bufferIndex := 0 }
  { d with nextLSector := address, controller := c }

/-- `IDE_COMMAND_READ` and the commands that share its code. -/
def hardDiskReadCommand (ch : Fin 4) (ext : BitVec 8) (value : BitVec 32) (s : HardDisk) :
    HardDiskOutcome HardDisk :=
  let c := s.controller ch
  if (s.drive ch).driveType ≠ .disk then .ok (hardDiskCommandAborted ch s)
  else if c.addressMode = 0 ∧ c.headNumber = 0 ∧ c.cylinderNumber = 0 ∧ c.sectorNumber = 0 then
    .ok (hardDiskCommandAborted ch s)
  else
    let s := s.modifyController ch (AtaController.lba48Transform ext)
    let multiple := decide (IsCommand value readMultiples)
    if multiple = true ∧ (s.controller ch).multipleSectors = 0 then
      .ok (hardDiskCommandAborted ch s)
    else
      let s := s.modifyController ch (AtaController.startBlock multiple)
      let temp := (s.drive ch).calculateLogicalAddress s.image.size
      if temp = -1 then .ok (hardDiskCommandAborted ch s) else do
        let (s, temp) ← hardDiskReadSector ch (s.modifyDrive ch (AtaDrive.startRead temp value))
        if temp = 0 then return hardDiskCommandAborted ch s
        else return s.modifyController ch fun c =>
          (c.clearStatus ideStatusBusy).setStatus ideStatusDevReq

/-- The registers of a write command that has found its address. -/
def AtaDrive.startWrite (address : BitVec 64) (value : BitVec 32) (d : AtaDrive) : AtaDrive :=
  let c := { d.controller with currentCommand := value.setWidth 8, errorRegister := 0 }
  let c := ((c.clearStatus ideStatusBusy).setStatus ideStatusDevSeekComp).setStatus ideStatusDevReq
  { d with nextLSector := address, controller := { c with bufferIndex := 0 } }

/-- `IDE_COMMAND_WRITE` and the commands that share its code. -/
def hardDiskWriteCommand (ch : Fin 4) (ext : BitVec 8) (value : BitVec 32) (s : HardDisk) :
    HardDiskOutcome HardDisk :=
  if (s.drive ch).driveType ≠ .disk then .ok (hardDiskCommandAborted ch s)
  else
    let s := s.modifyController ch (AtaController.lba48Transform ext)
    let multiple := decide (IsCommand value writeMultiples)
    if multiple = true ∧ (s.controller ch).multipleSectors = 0 then
      .ok (hardDiskCommandAborted ch s)
    else
      let s := s.modifyController ch (AtaController.startBlock multiple)
      let temp := (s.drive ch).calculateLogicalAddress s.image.size
      if temp = -1 then .ok (hardDiskCommandAborted ch s) else do
        -- the block is written here already, before the guest has filled the buffer
        let (s, temp) ← hardDiskWriteSector ch (s.modifyDrive ch (AtaDrive.startWrite temp value))
        if temp = 0 then return hardDiskCommandAborted ch s else return s

/-! ## Other commands -/

/-- `HardDiskSetSignature`, for a drive of the channel. -/
def hardDiskSetSignature (ch : Fin 4) (n : Fin 2) (s : HardDisk) : HardDisk :=
  let driveType := ((s.channel ch).drive n).driveType
  let s := s.modifyDriveAt ch n fun d => { d with controller := { d.controller with
    headNumber := 0
    sectorCount := 1
    sectorNumber := 1
    cylinderNumber := match driveType with
      | .disk => 0
      | .cdrom => 0xeb14
      | .none => 0xffff } }
  match driveType with
  | .disk => s.setChannel ch { s.channel ch with driveSelect := 0 }
  | _ => s

/-- The command has no data phase: ready, no request, and an interrupt. -/
def AtaController.ready (c : AtaController) : AtaController :=
  ((c.clearStatus ideStatusBusy).setStatus ideStatusDriveRdy).clearStatus ideStatusDevReq

/-- The 0x10 commands. -/
def hardDiskRecalibrate (ch : Fin 4) (s : HardDisk) : HardDisk :=
  if (s.drive ch).driveType ≠ .disk then hardDiskCommandAborted ch s
  else hardDiskRaiseInterrupt ch <| s.modifyController ch fun c =>
    let c := { c with errorRegister := 0, cylinderNumber := 0 }
    (((c.clearStatus ideStatusBusy).setStatus ideStatusDriveRdy).setStatus
      ideStatusDevSeekComp).clearStatus ideStatusDevReq

def hardDiskVerify (ch : Fin 4) (ext : BitVec 8) (s : HardDisk) : HardDisk :=
  if (s.drive ch).driveType ≠ .disk then hardDiskCommandAborted ch s
  else hardDiskRaiseInterrupt ch <| s.modifyController ch fun c => (c.lba48Transform ext).ready

def hardDiskDiagnostic (ch : Fin 4) (s : HardDisk) : HardDisk :=
  let n := (s.channel ch).dnum
  hardDiskRaiseInterrupt ch <| (hardDiskSetSignature ch n s).modifyDriveAt ch n fun d =>
    { d with controller := { d.controller with errorRegister := 0x01 }.clearStatus ideStatusDevReq }

/-- `IDE_COMMAND_SET_DRIVE_PARAMETERS`. -/
def hardDiskSetDriveParameters (ch : Fin 4) (s : HardDisk) : HardDiskOutcome HardDisk :=
  let c := s.controller ch
  if (s.drive ch).driveType ≠ .disk then .ok (hardDiskCommandAborted ch s)
  else if c.sectorCount.setWidth 64 ≠ hardDiskSectors then .ok (hardDiskCommandAborted ch s)
  else if c.headNumber = 0 then .error .exit
  else if c.headNumber.setWidth 64 ≠ hardDiskHeads - 1 then .ok (hardDiskCommandAborted ch s)
  else .ok (hardDiskRaiseInterrupt ch (s.modifyController ch AtaController.ready))

/-- The registers of an identification that is accepted. -/
def AtaController.identifying (value : BitVec 32) (c : AtaController) : AtaController :=
  let c := { c with currentCommand := value.setWidth 8, errorRegister := 0 }
  let c := ((c.clearStatus ideStatusBusy).setStatus ideStatusDriveRdy).clearStatus
    ideStatusCorrectedData
  ((c.setStatus ideStatusDevReq).setStatus ideStatusDevSeekComp).clearStatus ideStatusWriteFault

/-- The copy of `DriveId` to the buffer, and the interrupt. -/
def hardDiskSendDriveId (ch : Fin 4) (s : HardDisk) : HardDiskOutcome HardDisk := do
  let buffer ← (s.controller ch).buffer.fill 0 512 (s.drive ch).driveIdByte
  return hardDiskRaiseInterrupt ch (s.modifyController ch fun c => { c with buffer := buffer })

/-- `IDE_COMMAND_IDENTIFY`. -/
def hardDiskIdentify (ch : Fin 4) (value : BitVec 32) (s : HardDisk) : HardDiskOutcome HardDisk :=
  match (s.drive ch).driveType with
  | .none => .ok (hardDiskCommandAborted ch s)
  | .cdrom => .ok (hardDiskSetSignature ch (s.channel ch).dnum (hardDiskCommandAborted ch s))
  | .disk =>
      let s := s.modifyController ch (AtaController.identifying value)
      hardDiskSendDriveId ch <| s.modifyDrive ch fun d =>
        d.identified (d.identifyWords ch (s.channel ch).driveSelect s.image.size)

/-- `IDE_COMMAND_ATAPI_IDENTIFY`. -/
def hardDiskAtapiIdentify (ch : Fin 4) (value : BitVec 32) (s : HardDisk) :
    HardDiskOutcome HardDisk :=
  if (s.drive ch).driveType ≠ .cdrom then .ok (hardDiskCommandAborted ch s)
  else
    let s := s.modifyController ch fun c => { c.identifying value with bufferIndex := 0 }
    hardDiskSendDriveId ch <| s.modifyDrive ch fun d =>
      d.identified (d.atapiIdentifyWords (s.channel ch).driveSelect)

/-- The transfer mode that a value of the sector count sets: the multiword and ultra modes. -/
def AtaController.transferMode (c : AtaController) : Option (BitVec 8 × BitVec 8) :=
  let mode := 1#8 <<< (c.sectorCount &&& 7)
  if c.sectorCount >>> 3 = 0x00 ∨ c.sectorCount >>> 3 = 0x01 then some (0x00, 0x00)
  else if c.sectorCount >>> 3 = 0x04 then some (mode, 0x00)
  else if c.sectorCount >>> 3 = 0x08 then some (0x00, mode)
  else none

def AtaController.readySeekComp (c : AtaController) : AtaController :=
  (c.setStatus ideStatusDriveRdy).setStatus ideStatusDevSeekComp

/-- `IDE_COMMAND_SET_FEATURE`. -/
def hardDiskSetFeature (ch : Fin 4) (s : HardDisk) : HardDisk :=
  let c := s.controller ch
  if c.features = 0x03 then
    let s := match c.transferMode with
      | some (mdmaMode, udmaMode) =>
          hardDiskRaiseInterrupt ch <| s.modifyController ch fun c =>
            { c with mdmaMode := mdmaMode, udmaMode := udmaMode }.readySeekComp
      | none => hardDiskCommandAborted ch s
    s.modifyDrive ch fun d => { d with identifySet := 0 }
  else if c.features ∈ [0x02, 0x82, 0xaa, 0x55, 0xcc, 0x66] then
    hardDiskRaiseInterrupt ch (s.modifyController ch AtaController.readySeekComp)
  else s

/-- `IDE_COMMAND_SET_MULTIPLE`. -/
def hardDiskSetMultiple (ch : Fin 4) (s : HardDisk) : HardDisk :=
  let c := s.controller ch
  if (s.drive ch).driveType ≠ .disk then hardDiskCommandAborted ch s
  else if hardDiskSectors < c.sectorCount.setWidth 64 ∨ c.sectorCount = 0 then
    hardDiskCommandAborted ch s
  else hardDiskRaiseInterrupt ch <| s.modifyController ch fun c =>
    let c := { c with multipleSectors := c.sectorCount }
    (((c.clearStatus ideStatusBusy).clearStatus ideStatusWriteFault).clearStatus
      ideStatusDevReq).setStatus ideStatusDriveRdy

/-- `IDE_COMMAND_ATAPI_PACKET`. -/
def hardDiskPacketCommand (ch : Fin 4) (value : BitVec 32) (s : HardDisk) : HardDisk :=
  if (s.drive ch).driveType ≠ .cdrom then hardDiskCommandAborted ch s
  else
    let s := s.modifyController ch fun c => { c with packetDma := c.features &&& 0x01 }
    if (s.controller ch).packetDma &&& 0x02 ≠ 0 then hardDiskCommandAborted ch s
    else s.modifyController ch fun c =>
      let c := { c with sectorCount := 1 }
      let c := ((c.clearStatus ideStatusBusy).clearStatus ideStatusWriteFault).setStatus
        ideStatusDevReq
      { c with currentCommand := value.setWidth 8, bufferIndex := 0 }

/-- `IDE_COMMAND_ATAPI_RESET`. -/
def hardDiskAtapiReset (ch : Fin 4) (s : HardDisk) : HardDisk :=
  if (s.drive ch).driveType ≠ .cdrom then hardDiskCommandAborted ch s
  else
    let n := (s.channel ch).dnum
    (hardDiskSetSignature ch n s).modifyDriveAt ch n fun d =>
      let c := { d.controller with errorRegister := Word.clear d.controller.errorRegister 7 }
      { d with controller := (((c.clearStatus ideStatusBusy).clearStatus
          ideStatusWriteFault).clearStatus ideStatusCorrectedData).clearStatus ideStatusDevReq }

/-- The power and cache commands. -/
def hardDiskPowerCommand (ch : Fin 4) (s : HardDisk) : HardDisk :=
  hardDiskRaiseInterrupt ch <| s.modifyController ch fun c =>
    (((c.clearStatus ideStatusBusy).clearStatus ideStatusWriteFault).setStatus
      ideStatusDriveRdy).clearStatus ideStatusDevReq

/-- `IDE_COMMAND_SEEK`. -/
def hardDiskSeek (ch : Fin 4) (value : BitVec 32) (s : HardDisk) : HardDisk :=
  if (s.drive ch).driveType ≠ .disk then hardDiskCommandAborted ch s
  else
    let temp := (s.drive ch).calculateLogicalAddress s.image.size
    if temp = -1 then hardDiskCommandAborted ch s
    else s.modifyDrive ch fun d =>
      let c := { d.controller with currentCommand := value.setWidth 8, errorRegister := 0 }
      let c := ((c.setStatus ideStatusBusy).clearStatus ideStatusCorrectedData).setStatus
        ideStatusDriveRdy
      { d with
        nextLSector := temp
        controller := (c.clearStatus ideStatusDevReq).clearStatus ideStatusDevSeekComp }

/-- The DMA commands: `start` is what they do to the registers of an address on the disk. -/
def hardDiskDmaCommand (ch : Fin 4) (ext : BitVec 8) (start : AtaController → AtaController)
    (s : HardDisk) : HardDisk :=
  if (s.drive ch).driveType ≠ .disk ∨ s.bdmaPresent = 0 then hardDiskCommandAborted ch s
  else
    let s := s.modifyController ch (AtaController.lba48Transform ext)
    let temp := (s.drive ch).calculateLogicalAddress s.image.size
    if temp = -1 then hardDiskCommandAborted ch s
    else s.modifyDrive ch fun d => { d with nextLSector := temp, controller := start d.controller }

/-- `IDE_COMMAND_READ_DMA` and its EXT form. -/
def hardDiskReadDma (ch : Fin 4) (ext : BitVec 8) (value : BitVec 32) : HardDisk → HardDisk :=
  hardDiskDmaCommand ch ext fun c =>
    let c := { c with currentCommand := value.setWidth 8, errorRegister := 0 }
    let c := ((c.setStatus ideStatusBusy).setStatus ideStatusDriveRdy).clearStatus
      ideStatusCorrectedData
    (c.clearStatus ideStatusDevReq).clearStatus ideStatusDevSeekComp

/-- `IDE_COMMAND_WRITE_DMA` and its EXT form. -/
def hardDiskWriteDma (ch : Fin 4) (ext : BitVec 8) (value : BitVec 32) : HardDisk → HardDisk :=
  hardDiskDmaCommand ch ext fun c =>
    let c := { c with currentCommand := value.setWidth 8 }
    ((c.setStatus ideStatusDriveRdy).setStatus ideStatusDevSeekComp).setStatus ideStatusDevReq

/-- `IDE_COMMAND_READ_NATIVE_ADDRESS` and its EXT form. -/
def hardDiskReadNativeAddress (ch : Fin 4) (ext : BitVec 8) (s : HardDisk) : HardDisk :=
  if (s.drive ch).driveType ≠ .disk ∨ (s.controller ch).addressMode = 0 then
    hardDiskCommandAborted ch s
  else
    let last := s.image.size / 512 - 1
    hardDiskRaiseInterrupt ch <| s.modifyController ch fun c =>
      let c := (c.lba48Transform ext).setLba last
      -- the 28-bit form keeps four bits of the head number
      let c := if c.lba48 = 0 then { c with headNumber := c.headNumber &&& 0xf } else c
      c.readySeekComp

/-! ## The command register -/

/-- The switch of `case 7`. -/
def hardDiskCommand (ch : Fin 4) (value : BitVec 32) (s : HardDisk) : HardDiskOutcome HardDisk :=
  if value = 0x10 then .ok (hardDiskRecalibrate ch s)
  else if IsCommand value readCommandsExt then hardDiskReadCommand ch 1 value s
  else if IsCommand value readCommands28 then hardDiskReadCommand ch 0 value s
  else if IsCommand value [ideCommandVerifyExt] then .ok (hardDiskVerify ch 1 s)
  else if IsCommand value [ideCommandVerify, ideCommandVerifyNoRetry] then
    .ok (hardDiskVerify ch 0 s)
  else if IsCommand value writeCommandsExt then hardDiskWriteCommand ch 1 value s
  else if IsCommand value writeCommands28 then hardDiskWriteCommand ch 0 value s
  else if IsCommand value [ideCommandExecuteDeviceDiagnostic] then .ok (hardDiskDiagnostic ch s)
  else if IsCommand value [ideCommandSetDriveParameters] then hardDiskSetDriveParameters ch s
  else if IsCommand value [ideCommandIdentify] then hardDiskIdentify ch value s
  else if IsCommand value [ideCommandSetFeature] then .ok (hardDiskSetFeature ch s)
  else if IsCommand value [ideCommandSetMultiple] then .ok (hardDiskSetMultiple ch s)
  else if IsCommand value [ideCommandAtapiPacket] then .ok (hardDiskPacketCommand ch value s)
  else if IsCommand value [ideCommandAtapiIdentify] then hardDiskAtapiIdentify ch value s
  else if IsCommand value [ideCommandAtapiReset] then .ok (hardDiskAtapiReset ch s)
  else if IsCommand value [ideCommandCheckPower] then
    .ok (hardDiskPowerCommand ch (s.modifyController ch fun c => { c with sectorCount := 0xff }))
  else if IsCommand value [ideCommandStandbyImmediate, ideCommandIdleImmediate,
      ideCommandFlushCache, ideCommandFlushCacheExt] then .ok (hardDiskPowerCommand ch s)
  else if IsCommand value [ideCommandSeek] then .ok (hardDiskSeek ch value s)
  else if IsCommand value [ideCommandReadDmaExt] then .ok (hardDiskReadDma ch 1 value s)
  else if IsCommand value [ideCommandReadDma] then .ok (hardDiskReadDma ch 0 value s)
  else if IsCommand value [ideCommandWriteDmaExt] then .ok (hardDiskWriteDma ch 1 value s)
  else if IsCommand value [ideCommandWriteDma] then .ok (hardDiskWriteDma ch 0 value s)
  else if IsCommand value [ideCommandReadNativeAddressExt] then
    .ok (hardDiskReadNativeAddress ch 1 s)
  else if IsCommand value [ideCommandReadNativeAddress] then .ok (hardDiskReadNativeAddress ch 0 s)
  else .ok (hardDiskCommandAborted ch s)

/-- `case 7` of `HardDiskPortIoWriteHandler`. -/
def hardDiskWriteCommandRegister (ch : Fin 4) (value : BitVec 32) (s : HardDisk) :
    HardDiskOutcome HardDisk :=
  if (s.channel ch).dnum ≠ 0 then .ok s
  else
    let s := hardDiskLowerIrq ch s
    if (s.controller ch).hasStatus ideStatusBusy then .ok s
    else
      let value := if value &&& 0xf0 = 0x10 then 0x10 else value
      hardDiskCommand ch value (s.modifyController ch fun c => c.clearStatus ideStatusError)

end Svmm
