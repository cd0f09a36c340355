import Svmm.Construction.HardDisk.Commands

/-!
# Packet commands

The CD-ROM half of the data port: the twelve bytes of a packet are collected in the buffer, and
the command in them prepares a reply that the guest then reads.
-/

namespace Svmm

/-! ## Constants -/

/-- `PACKET_SIZE`. -/
def packetSize : BitVec 32 := 12

def cdRomFrameSize : ℕ := 2048

def ideSenseIllegalRequest : BitVec 8 := 5
def ideSenseUnitAttention : BitVec 8 := 6
def ideAscIllegalOpcode : BitVec 8 := 0x20
def ideAscLogicalBlockOor : BitVec 8 := 0x21
def ideAscInvFieldInCmdPacket : BitVec 8 := 0x24
def ideAscSavingParametersNotSupported : BitVec 8 := 0x39

def scsiopRead : BitVec 8 := 0x28
def scsiopRead12 : BitVec 8 := 0xa8
def scsiopReadCd : BitVec 8 := 0xbe

/-! ## The end of a packet command -/

/-- `HardDiskCommandNop`. -/
def AtaController.commandNop (c : AtaController) : AtaController :=
  let c := (c.setInterruptReason true true).clearInterruptRel
  (((c.clearStatus ideStatusBusy).setStatus ideStatusDriveRdy).clearStatus
    ideStatusDevReq).clearStatus ideStatusError

/-- `HardDiskAtapiError`. -/
def AtaController.atapiError (senseKey asc : BitVec 8) (c : AtaController) : AtaController :=
  let c := { c with errorRegister := senseKey <<< 4 }
  let c := (c.setInterruptReason true true).clearInterruptRel
  let c := ((c.clearStatus ideStatusBusy).setStatus ideStatusError).setStatus ideStatusDriveRdy
  let c := (c.clearStatus ideStatusDevReq).clearStatus ideStatusWriteFault
  { c with sense := { c.sense with senseKey := senseKey, asc := asc, ascq := 0 } }

def hardDiskNop (ch : Fin 4) (s : HardDisk) : HardDisk :=
  hardDiskRaiseInterrupt ch (s.modifyController ch AtaController.commandNop)

def hardDiskAtapiError (ch : Fin 4) (asc : BitVec 8) (s : HardDisk) : HardDisk :=
  hardDiskRaiseInterrupt ch
    (s.modifyController ch (AtaController.atapiError ideSenseIllegalRequest asc))

/-- `HardDiskReadySendAtapi`. -/
def hardDiskReadySendAtapi (ch : Fin 4) (s : HardDisk) : HardDisk :=
  let s := s.modifyController ch fun c =>
    let c := ((c.clearStatus ideStatusBusy).setStatus ideStatusDevReq).clearStatus ideStatusError
    c.setInterruptReason false true
  if (s.controller ch).packetDma ≠ 0 then s.call (.ideStartTransfer ch)
  else hardDiskRaiseInterrupt ch s

/-- `HardDiskInitAtapiCommand`.  The byte count limit is in the cylinder registers; its test for
-1 compares a `WORD` with an `int` and never holds. -/
def AtaController.initAtapiCommand (command : BitVec 8) (reqLength allocLength : BitVec 32)
    (c : AtaController) : AtaController :=
  let c := if c.cylinderNumber &&& 1 ≠ 0 ∧ c.cylinderNumber.setWidth 32 < allocLength then
    { c with cylinderNumber := c.cylinderNumber - 1 } else c
  if c.packetDma = 0 ∧ c.cylinderNumber = 0 then c
  else
    let allocLength := if allocLength = 0 then c.cylinderNumber.setWidth 32 else allocLength
    let c := (((c.setStatus ideStatusBusy).setStatus ideStatusDriveRdy).clearStatus
      ideStatusDevReq).clearStatus ideStatusError
    let c := { c with bufferIndex := 0, drqIndex := 0 }
    let c := if reqLength < c.cylinderNumber.setWidth 32 then
      { c with cylinderNumber := reqLength.setWidth 16 } else c
    let c := if allocLength < c.cylinderNumber.setWidth 32 then
      { c with cylinderNumber := allocLength.setWidth 16 } else c
    { c with atapi :=
        { atapiCommand := command
          drqBytes := c.cylinderNumber.setWidth 32
          totalBytesRemaining := if reqLength < allocLength then reqLength else allocLength } }

/-- Write bytes to the buffer, from an index on. -/
def AtaController.putBytes (index : ℕ) (bytes : List (BitVec 8)) (c : AtaController) :
    HardDiskOutcome AtaController := do
  let buffer ← c.buffer.fill index bytes.length fun j => bytes.getD j 0
  return { c with buffer := buffer }

/-- Announce a reply, write its bytes from an index on, and offer it. -/
def hardDiskReply (ch : Fin 4) (command : BitVec 8) (reqLength allocLength : BitVec 32)
    (index : ℕ) (bytes : List (BitVec 8)) (s : HardDisk) : HardDiskOutcome HardDisk := do
  let c := (s.controller ch).initAtapiCommand command reqLength allocLength
  let c ← c.putBytes index bytes
  return hardDiskReadySendAtapi ch (s.modifyController ch fun _ => c)

/-! ## The packet in the buffer -/

namespace AtaController

variable (c : AtaController)

/-- `Controller.Buffer[index]`, of the packet. -/
def packet (index : ℕ) : BitVec 8 := c.buffer.byte index

/-- `Read16` and `Read32`: big-endian numbers of the packet. -/
def read16 (index : ℕ) : BitVec 32 :=
  (c.packet index).setWidth 32 <<< 8 ||| (c.packet (index + 1)).setWidth 32

def read32 (index : ℕ) : BitVec 32 := c.read16 index <<< 16 ||| c.read16 (index + 2)

end AtaController

/-- A number as big-endian bytes. -/
def bigEndian32 (x : BitVec 32) : List (BitVec 8) :=
  [(x >>> 24).setWidth 8, (x >>> 16).setWidth 8, (x >>> 8).setWidth 8, x.setWidth 8]

/-- A block address as minutes, seconds and frames. -/
def msfAddress (blocks : BitVec 32) : List (BitVec 8) :=
  [0, ((blocks + 150) / 75 / 60).setWidth 8, ((blocks + 150) / 75 % 60).setWidth 8,
    ((blocks + 150) % 75).setWidth 8]

/-! ## Replies -/

/-- The bytes 8 to 27 of the capabilities page. -/
def capabilitiesPage (locked : BitVec 8) : List (BitVec 8) :=
  [0x2a, 0x12, 0x03, 0x00, 0x71, 0x60, 0x29 ||| (if locked ≠ 0 then 0x02 else 0), 0x00,
    0x0b, 0x00, 0x00, 0x02, 0x02, 0x00, 0x0b, 0x00, 0x00, 0x00, 0x00, 0x00]

/-- `HardDiskInitModeSense`: the header and, without a source, the error recovery page; a source
is always the place it is copied to. -/
def AtaController.initModeSense (source : Bool) (size : ℕ) (c : AtaController) :
    HardDiskOutcome AtaController := do
  let length := BitVec.ofNat 32 (size + 6)
  let c ← c.putBytes 0 (List.replicate (7 + size) 0)
  let c ← c.putBytes 0 [(length >>> 8).setWidth 8, length.setWidth 8, 0x12]
  if source then do
    let kept ← c.buffer.slice 8 size
    c.putBytes 8 kept
  else c.putBytes 8 [0x01, 0x06, 0x00, 0x05, 0x00, 0x00, 0x00, 0x00]

def inquiryData : List (BitVec 8) :=
  [0x05, 0x80, 0x00, 0x21, 31, 0x00, 0x00, 0x00] ++
  -- "BOCHS   ", "Generic CD-ROM  ", "1.0 "
  [0x42, 0x4f, 0x43, 0x48, 0x53, 0x20, 0x20, 0x20] ++
  [0x47, 0x65, 0x6e, 0x65, 0x72, 0x69, 0x63, 0x20, 0x43, 0x44, 0x2d, 0x52, 0x4f, 0x4d, 0x20,
    0x20] ++
  [0x31, 0x2e, 0x30, 0x20]

def SenseInfo.reply (sense : SenseInfo) : List (BitVec 8) :=
  [0xf0, 0, sense.senseKey, sense.information 0, sense.information 1, sense.information 2,
    sense.information 3, 10, sense.specificInf 0, sense.specificInf 1, sense.specificInf 2,
    sense.specificInf 3, sense.asc, sense.ascq, sense.fruc, sense.keySpec 0, sense.keySpec 1,
    sense.keySpec 2]

/-- One entry of the raw table of contents. -/
def rawTocEntry (blocks : BitVec 32) (msf : Bool) (i : ℕ) : List (BitVec 8) :=
  [1, 0x14, 0, if i < 3 then 0xa0 + BitVec.ofNat 8 i else 1, 0, 0, 0] ++
  if i < 2 then [0, 1, 0, 0]
  else if i = 2 then if msf then msfAddress blocks else bigEndian32 blocks
  else [0, 0, 0, 0]

/-- The bytes that `CdRomReadToc` writes; `none` where it returns 0. -/
def cdRomToc (capacity : BitVec 64) (msf : Bool) (startTrack format : BitVec 8) :
    Option (List (BitVec 8)) :=
  let blocks := capacity.setWidth 32
  let withLength (tracks : List (BitVec 8)) : List (BitVec 8) :=
    let length := BitVec.ofNat 32 (tracks.length + 2)
    [(length >>> 8).setWidth 8, length.setWidth 8, 1, 1] ++ tracks
  if format = 0 then
    if 1 < startTrack ∧ startTrack ≠ 0xaa then none
    else
      let first := if startTrack ≤ 1 then
        [0, 0x14, 1, 0] ++ (if msf then [0, 0, 2, 0] else [0, 0, 0, 0]) else []
      let leadOut := [0, 0x16, 0xaa, 0] ++ if msf then msfAddress blocks else bigEndian32 blocks
      some (withLength (first ++ leadOut))
  else if format = 1 then some ([0, 0x0a, 1, 1] ++ List.replicate 8 0)
  else if format = 2 then some (withLength ((List.range 4).flatMap (rawTocEntry blocks msf)))
  else none

/-! ## The commands -/

/-- `MODE SENSE`. -/
def hardDiskModeSense (ch : Fin 4) (command : BitVec 8) (s : HardDisk) :
    HardDiskOutcome HardDisk :=
  let c := s.controller ch
  let transferLength := if command = 0x5a then c.read16 7 else (c.packet 4).setWidth 32
  let control := c.packet 2 >>> 6
  let page := c.packet 2 &&& 0x3f
  if (control = 0 ∨ control = 2) ∧ page = 0x2a then do
    let c ← (c.initAtapiCommand command 28 transferLength).initModeSense true 28
    let c ← c.putBytes 8 (capabilitiesPage c.locked)
    return hardDiskReadySendAtapi ch (s.modifyController ch fun _ => c)
  else if control = 0 ∧ page = 0x01 then do
    let c ← (c.initAtapiCommand command 16 transferLength).initModeSense false 8
    return hardDiskReadySendAtapi ch (s.modifyController ch fun _ => c)
  else if control = 3 then .ok (hardDiskAtapiError ch ideAscSavingParametersNotSupported s)
  else .ok (hardDiskAtapiError ch ideAscInvFieldInCmdPacket s)

/-- The transfer that a read of blocks announces. -/
def hardDiskStartBlocks (ch : Fin 4) (command : BitVec 8) (length blocks lbAddress : BitVec 32)
    (s : HardDisk) : HardDisk :=
  s.modifyController ch fun c =>
    let c := c.initAtapiCommand command length length
    { c with bufferIndex := c.bufferSize, lbAddress := lbAddress, remainingBlocks := blocks }

/-- `SCSIOP_READ` and `SCSIOP_READ12`.  Neither refusal leaves the switch. -/
def hardDiskReadBlocks (ch : Fin 4) (command : BitVec 8) (s : HardDisk) : HardDisk :=
  let c := s.controller ch
  let short := if command = scsiopRead then c.read16 7 else 0
  let transferLength := if short = 0 then c.read32 6 else short
  let temp := c.read32 2
  let last := s.cdRom.capacity - 1
  let s := if transferLength * 2048 < transferLength ∨
      last < (transferLength * 2048).setWidth 64 ∨ last < temp.setWidth 64 ∨
      temp + transferLength < temp ∨ temp + transferLength - 1 < temp ∨
      transferLength * 2048 + temp < temp then
    hardDiskAtapiError ch ideAscLogicalBlockOor s else s
  let transferLength :=
    if last < temp.setWidth 64 + transferLength.setWidth 64 - 1 then
      (last - temp.setWidth 64 + 1).setWidth 32 else transferLength
  let s := if transferLength = 0 ∨ last < transferLength.setWidth 64 then hardDiskNop ch s else s
  hardDiskStartBlocks ch command (transferLength * 2048) transferLength temp s

/-- `SCSIOP_READ_CD`. -/
def hardDiskReadCd (ch : Fin 4) (command : BitVec 8) (s : HardDisk) : HardDisk :=
  let c := s.controller ch
  let transferLength := (c.packet 8).setWidth 32 ||| (c.packet 7).setWidth 32 <<< 8 |||
    (c.packet 6).setWidth 32 <<< 16
  let start (s : HardDisk) : HardDisk :=
    hardDiskStartBlocks ch command (transferLength * (s.controller ch).bufferSize) transferLength
      (c.read32 2) s
  if transferLength = 0 then hardDiskNop ch s
  else if c.packet 9 &&& 0xf8 = 0x00 then hardDiskNop ch s
  else if c.packet 9 &&& 0xf8 = 0xf8 then
    start (s.modifyController ch fun c => { c with bufferSize := 2352 })
  else if c.packet 9 &&& 0xf8 = 0x10 then start s
  else hardDiskAtapiError ch ideAscInvFieldInCmdPacket s

/-- `SCSIOP_READ_TOC`. -/
def hardDiskReadToc (ch : Fin 4) (command : BitVec 8) (s : HardDisk) : HardDiskOutcome HardDisk :=
  let c := s.controller ch
  let transferLength := c.read16 7
  let format := c.packet 9 >>> 6
  let msf := c.packet 1 >>> 1 &&& 1 ≠ 0
  if (format = 2 ∨ format = 3) ∧ ¬ msf then .error .exit
  else match cdRomToc s.cdRom.capacity (decide msf) (c.packet 6) format with
    | none => .ok (hardDiskAtapiError ch ideAscInvFieldInCmdPacket s)
    | some bytes => do
        let c ← c.putBytes 0 bytes
        let s := s.modifyController ch fun _ => c
        if transferLength = 0 then return hardDiskAtapiError ch ideAscInvFieldInCmdPacket s
        else return hardDiskReadySendAtapi ch (s.modifyController ch
          (AtaController.initAtapiCommand command transferLength transferLength))

/-- `SCSIOP_GET_EVENT_STATUS`. -/
def hardDiskGetEventStatus (ch : Fin 4) (command : BitVec 8) (s : HardDisk) :
    HardDiskOutcome HardDisk :=
  let c := s.controller ch
  if c.packet 1 &&& 1 = 0 then .ok (hardDiskAtapiError ch ideAscInvFieldInCmdPacket s)
  else
    let (temp, bytes) : BitVec 32 × List (BitVec 8) :=
      if c.packet 4 = 0x10 then
        (if c.read16 7 ≤ 4 then 4 else 8, [0, 4, 0x04, 0x10, 0, 0x02, 0, 0])
      else (4, [0, 0, 0x80 ||| c.packet 4, 0x10])
    do
      let c ← c.putBytes 0 bytes
      return hardDiskReadySendAtapi ch
        (s.modifyController ch fun _ => c.initAtapiCommand command temp temp)

/-- `IDE_COMMAND_REQUEST_SENSE`. -/
def hardDiskRequestSense (ch : Fin 4) (command : BitVec 8) (s : HardDisk) :
    HardDiskOutcome HardDisk := do
  let c := s.controller ch
  let c := c.initAtapiCommand command 18 ((c.packet 4).setWidth 32)
  let c ← c.putBytes 0 c.sense.reply
  let c := if c.sense.senseKey = ideSenseUnitAttention then
    { c with sense := { c.sense with senseKey := 0 } } else c
  return hardDiskReadySendAtapi ch (s.modifyController ch fun _ => c)

/-- The switch on the command of a packet. -/
def hardDiskPacket (ch : Fin 4) (s : HardDisk) : HardDiskOutcome HardDisk :=
  let c := s.controller ch
  let command := c.packet 0
  if command = 0x00 ∨ command = 0x1b then .ok (hardDiskNop ch s)
  else if command = 0xbd then
    if c.read16 8 = 0 then .ok s
    else hardDiskReply ch command 8 (c.read16 8) 0 [0, 0, 0, 0, 0, 1, 0, 0] s
  else if command = 0x1a ∨ command = 0x5a then hardDiskModeSense ch command s
  else if command = 0x12 then
    hardDiskReply ch command 36 ((c.packet 4).setWidth 32) 0 inquiryData s
  else if command = 0x03 then hardDiskRequestSense ch command s
  else if command = 0x25 then
    hardDiskReply ch command 8 8 0
      (bigEndian32 ((s.cdRom.capacity - 1).setWidth 32) ++ bigEndian32 2048) s
  else if command = scsiopRead ∨ command = scsiopRead12 then .ok (hardDiskReadBlocks ch command s)
  else if command = scsiopReadCd then .ok (hardDiskReadCd ch command s)
  else if command = 0x43 then hardDiskReadToc ch command s
  else if command = 0x2b then
    if s.cdRom.capacity - 1 < (c.read32 2).setWidth 64 then
      .ok (hardDiskAtapiError ch ideAscLogicalBlockOor s)
    else .ok (hardDiskNop ch (s.modifyController ch fun c => { c with lbAddress := c.read32 2 }))
  else if command = 0x1e then
    .ok (hardDiskNop ch (s.modifyController ch fun c => { c with locked := c.packet 4 &&& 1 }))
  else if command = 0x42 then
    -- the sub-channel flag is tested after its byte was zeroed, so only the header is sent
    do
      let transferLength := c.read16 7
      let c ← c.putBytes 0 [0, 0, 0, 0]
      return hardDiskReadySendAtapi ch
        (s.modifyController ch fun _ => c.initAtapiCommand command 4 transferLength)
  else if command = 0x51 then .ok (hardDiskAtapiError ch ideAscInvFieldInCmdPacket s)
  else if command = 0x4a then hardDiskGetEventStatus ch command s
  else .ok (hardDiskAtapiError ch ideAscIllegalOpcode s)

/-! ## The data port -/

/-- A write to the data port while a packet is collected. -/
def hardDiskWritePacket (ch : Fin 4) (value length : BitVec 32) (s : HardDisk) :
    HardDiskOutcome HardDisk :=
  let c := s.controller ch
  if packetSize < c.bufferIndex then .ok s
  else do
    let buffer ← c.buffer.store c.bufferIndex.toNat length value
    let c := { c with buffer := buffer, bufferIndex := c.bufferIndex + length }
    if c.bufferIndex < packetSize then return s.modifyController ch fun _ => c
    else hardDiskPacket ch (s.modifyController ch fun _ => { c with bufferSize := 2048 })

/-- `CdRomReadBlock`, into the buffer: the bytes read. -/
def cdRomReadBlock (cdRom : CdRom) (c : AtaController) : HardDiskOutcome (ℕ × AtaController) := do
  let frame := cdRom.frame c.lbAddress
  if c.bufferSize = 2352 then do
    let minute := ((c.lbAddress + 150) / 75 / 60).setWidth 8
    let second := ((c.lbAddress + 150) / 75 % 60).setWidth 8
    let c ← c.putBytes 0 (List.replicate 2352 0)
    let c ← c.putBytes 1 (List.replicate 10 0xff)
    let c ← c.putBytes 12 [minute, second, ((c.lbAddress + 150) % 75).setWidth 8, 0x01]
    return (frame.length, ← c.putBytes 16 frame)
  else return (frame.length, ← c.putBytes 0 frame)

/-- The next block of a read of blocks, when the buffer has been read to its end. -/
def hardDiskNextBlock (cdRom : CdRom) (c : AtaController) : HardDiskOutcome AtaController :=
  if c.bufferIndex = c.bufferSize ∧
      c.atapi.atapiCommand ∈ [scsiopRead, scsiopRead12, scsiopReadCd] then do
    let (count, c) ← cdRomReadBlock cdRom c
    if count ≠ c.bufferSize.toNat then .error .exit
    else return { c with
      lbAddress := c.lbAddress + 1, remainingBlocks := c.remainingBlocks - 1, bufferIndex := 0 }
  else return c

/-- The end of a block of a reply: the next one is announced, or the command is over. -/
def AtaController.endOfDrq (c : AtaController) : AtaController :=
  let c := { c.clearStatus ideStatusDevReq with drqIndex := 0 }
  let c := { c with atapi := { c.atapi with
    totalBytesRemaining := c.atapi.totalBytesRemaining - c.atapi.drqBytes } }
  if 0 < c.atapi.totalBytesRemaining then
    let c := ((c.clearStatus ideStatusBusy).setStatus ideStatusDevReq).setInterruptReason false true
    let c := if c.atapi.totalBytesRemaining < c.cylinderNumber.setWidth 32 then
      { c with cylinderNumber := c.atapi.totalBytesRemaining.setWidth 16 } else c
    { c with atapi := { c.atapi with drqBytes := c.cylinderNumber.setWidth 32 } }
  else
    let c := (c.setInterruptReason true true).clearInterruptRel
    (((c.setStatus ideStatusDriveRdy).clearStatus ideStatusBusy).clearStatus
      ideStatusDevReq).clearStatus ideStatusError

/-- A read of the data port while a reply is sent. -/
def hardDiskReadReply (ch : Fin 4) (length : BitVec 32) (s : HardDisk) :
    HardDiskOutcome (HardDisk × BitVec 32) := do
  let c ← hardDiskNextBlock s.cdRom (s.controller ch)
  if c.bufferSize < c.bufferIndex then return (s.modifyController ch fun _ => c, 0)
  else
    let temp ← c.buffer.load c.bufferIndex.toNat length
    let c := { c with bufferIndex := c.bufferIndex + length, drqIndex := c.drqIndex + length }
    if c.atapi.drqBytes ≤ c.drqIndex then
      return (hardDiskRaiseInterrupt ch (s.modifyController ch fun _ => c.endOfDrq), temp)
    else return (s.modifyController ch fun _ => c, temp)

end Svmm
