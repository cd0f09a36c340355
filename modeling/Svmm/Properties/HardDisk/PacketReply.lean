import Mathlib.Data.List.GetD
import Mathlib.Tactic.IntervalCases
import Svmm.Properties.HardDisk.PacketSend
import Svmm.Properties.HardDisk.ReadCheck

/-!
# Replies to packet commands

From the command register to the last byte of the answer: the guest sends `PACKET` and the twelve
bytes of a packet, in accesses of any width, and reads what the command answers, in blocks of at
most the byte count limit.  `packetReply` lists what the commands answer.
-/

namespace Svmm

open TransitionRun StreamDelivery Bytes

/-! ## The announcement of an answer -/

namespace AtaController

variable (c : AtaController)

/-- The byte count limit of a command: an odd one below the allocation length is lowered. -/
def byteLimit (allocLength : BitVec 32) : ℕ :=
  if c.cylinderNumber &&& 1 ≠ 0 ∧ c.cylinderNumber.setWidth 32 < allocLength then
    c.cylinderNumber.toNat - 1 else c.cylinderNumber.toNat

/-- The bytes that a command answers: without an allocation length, those of one block. -/
def answerLength (reqLength allocLength : BitVec 32) : ℕ :=
  min reqLength.toNat (if allocLength = 0 then c.byteLimit allocLength else allocLength.toNat)

def evened (allocLength : BitVec 32) : AtaController :=
  if c.cylinderNumber &&& 1 ≠ 0 ∧ c.cylinderNumber.setWidth 32 < allocLength then
    { c with cylinderNumber := c.cylinderNumber - 1 } else c

def atapiBusy : AtaController :=
  (((c.setStatus ideStatusBusy).setStatus ideStatusDriveRdy).clearStatus
    ideStatusDevReq).clearStatus ideStatusError

def indicesReset : AtaController := { c with bufferIndex := 0, drqIndex := 0 }

def limited (length : BitVec 32) : AtaController :=
  if length < c.cylinderNumber.setWidth 32 then
    { c with cylinderNumber := length.setWidth 16 } else c

def counted (command : BitVec 8) (total : BitVec 32) : AtaController :=
  { c with atapi :=
      { atapiCommand := command
        drqBytes := c.cylinderNumber.setWidth 32
        totalBytesRemaining := total } }

/-- The allocation length that the code goes on with. -/
def allocated (allocLength : BitVec 32) : BitVec 32 :=
  if allocLength = 0 then (c.evened allocLength).cylinderNumber.setWidth 32 else allocLength

lemma initAtapiCommand_eq (command : BitVec 8) (reqLength allocLength : BitVec 32) :
    c.initAtapiCommand command reqLength allocLength =
      if (c.evened allocLength).packetDma = 0 ∧ (c.evened allocLength).cylinderNumber = 0 then
        c.evened allocLength
      else (((c.evened allocLength).atapiBusy.indicesReset.limited reqLength).limited
        (c.allocated allocLength)).counted command
          (if reqLength < c.allocated allocLength then reqLength else c.allocated allocLength) :=
  rfl

variable {c} {command : BitVec 8} {reqLength allocLength : BitVec 32}

variable (allocLength) in
lemma toNat_evened (h : 2 ≤ c.cylinderNumber.toNat) :
    (c.evened allocLength).cylinderNumber.toNat = c.byteLimit allocLength ∧
      0 < c.byteLimit allocLength := by
  unfold evened byteLimit
  split
  · have hone : (1 : BitVec 16).toNat = 1 := rfl
    have hword := c.cylinderNumber.isLt
    constructor
    · show (c.cylinderNumber - 1).toNat = _
      rw [BitVec.toNat_sub, hone]
      omega
    · omega
  · exact ⟨rfl, by omega⟩

lemma toNat_limited (length : BitVec 32) :
    (c.limited length).cylinderNumber.toNat = min c.cylinderNumber.toNat length.toNat := by
  have hword := c.cylinderNumber.isLt
  unfold limited
  simp only [BitVec.lt_def, BitVec.toNat_setWidth]
  split
  · show (length.setWidth 16).toNat = _
    rw [BitVec.toNat_setWidth]
    omega
  · omega

/-- What an announcement leaves alone. -/
def SameReply (c c' : AtaController) : Prop :=
  c'.buffer = c.buffer ∧ c'.bufferSize = c.bufferSize ∧ c'.currentCommand = c.currentCommand ∧
    c'.sense = c.sense ∧ c'.locked = c.locked

lemma SameReply.refl (c : AtaController) : SameReply c c := ⟨rfl, rfl, rfl, rfl, rfl⟩

lemma SameReply.trans {c c' c'' : AtaController} (h : SameReply c c') (h' : SameReply c' c'') :
    SameReply c c'' :=
  ⟨h'.1.trans h.1, h'.2.1.trans h.2.1, h'.2.2.1.trans h.2.2.1, h'.2.2.2.1.trans h.2.2.2.1,
    h'.2.2.2.2.trans h.2.2.2.2⟩

lemma sameReply_evened : SameReply c (c.evened allocLength) := by
  unfold evened
  split
  · exact ⟨rfl, rfl, rfl, rfl, rfl⟩
  · exact .refl c

lemma sameReply_limited (length : BitVec 32) : SameReply c (c.limited length) := by
  unfold limited
  split
  · exact ⟨rfl, rfl, rfl, rfl, rfl⟩
  · exact .refl c

lemma sameReply_updateStatus (f : BitVec 8 → BitVec 8) : SameReply c (c.updateStatus f) :=
  ⟨rfl, rfl, rfl, rfl, rfl⟩

lemma cylinder_atapiBusy : c.atapiBusy.indicesReset.cylinderNumber = c.cylinderNumber := rfl

lemma sameReply_atapiBusy : SameReply c c.atapiBusy :=
  (sameReply_updateStatus _).trans <| (sameReply_updateStatus _).trans <|
    (sameReply_updateStatus _).trans (sameReply_updateStatus _)

lemma sameReply_indicesReset : SameReply c c.indicesReset := ⟨rfl, rfl, rfl, rfl, rfl⟩

lemma sameReply_counted (total : BitVec 32) : SameReply c (c.counted command total) :=
  ⟨rfl, rfl, rfl, rfl, rfl⟩

variable (c command reqLength allocLength) in
lemma sameReply_initAtapiCommand :
    SameReply c (c.initAtapiCommand command reqLength allocLength) := by
  rw [initAtapiCommand_eq]
  split
  · exact sameReply_evened
  · exact sameReply_evened.trans <| sameReply_atapiBusy.trans <|
      sameReply_indicesReset.trans <|
      (sameReply_limited _).trans <| (sameReply_limited _).trans (sameReply_counted _)

/-- The registers with an answer announced. -/
structure Announced (command : BitVec 8) (limit total : ℕ) (c : AtaController) : Prop where
  command : c.atapi.atapiCommand = command
  drqIndex : c.drqIndex = 0
  remaining : c.atapi.totalBytesRemaining.toNat = total
  announced : c.atapi.drqBytes.toNat = min limit total
  cylinder : c.cylinderNumber.toNat = min limit total

lemma limited_same (length : BitVec 32) : (c.limited length).bufferIndex = c.bufferIndex ∧
    (c.limited length).drqIndex = c.drqIndex := by
  unfold limited
  split
  · exact ⟨rfl, rfl⟩
  · exact ⟨rfl, rfl⟩

variable (command reqLength allocLength) in
/-- `HardDiskInitAtapiCommand` announces the answer, unless the limit is 0 or 1. -/
lemma announced_initAtapiCommand (h : 2 ≤ c.cylinderNumber.toNat) :
    Announced command (c.byteLimit allocLength) (c.answerLength reqLength allocLength)
        (c.initAtapiCommand command reqLength allocLength) ∧
      (c.initAtapiCommand command reqLength allocLength).bufferIndex = 0 := by
  obtain ⟨hlimit, hpositive⟩ := toNat_evened allocLength h
  have hword := (c.evened allocLength).cylinderNumber.isLt
  have hnonzero : ¬ ((c.evened allocLength).packetDma = 0 ∧
      (c.evened allocLength).cylinderNumber = 0) := by
    rintro ⟨-, hzero⟩
    rw [hzero] at hlimit
    have hzero' : (0 : BitVec 16).toNat = 0 := rfl
    omega
  have hallocated : (c.allocated allocLength).toNat =
      if allocLength = 0 then c.byteLimit allocLength else allocLength.toNat := by
    unfold allocated
    split
    · rw [BitVec.toNat_setWidth, hlimit]
      omega
    · rfl
  have hlength : (((c.evened allocLength).atapiBusy.indicesReset.limited reqLength).limited
      (c.allocated allocLength)).cylinderNumber.toNat =
        min (c.byteLimit allocLength) (c.answerLength reqLength allocLength) := by
    rw [toNat_limited, toNat_limited, hallocated, answerLength, ← Nat.min_assoc,
      cylinder_atapiBusy, hlimit]
  obtain ⟨hindex, hdrq⟩ := ((c.evened allocLength).atapiBusy.indicesReset.limited
    reqLength).limited_same (c.allocated allocLength)
  obtain ⟨hindex', hdrq'⟩ := (c.evened allocLength).atapiBusy.indicesReset.limited_same reqLength
  have hzero : (c.evened allocLength).atapiBusy.indicesReset.bufferIndex = 0 ∧
      (c.evened allocLength).atapiBusy.indicesReset.drqIndex = 0 := ⟨rfl, rfl⟩
  rw [hindex', hzero.1] at hindex
  rw [hdrq', hzero.2] at hdrq
  rw [initAtapiCommand_eq, if_neg hnonzero]
  generalize ((c.evened allocLength).atapiBusy.indicesReset.limited reqLength).limited
    (c.allocated allocLength) = c' at hlength hindex hdrq
  have hword' := c'.cylinderNumber.isLt
  refine ⟨⟨rfl, hdrq, ?_, ?_, hlength⟩, hindex⟩
  · show (if reqLength < c.allocated allocLength then reqLength
      else c.allocated allocLength).toNat = _
    rw [answerLength, ← hallocated]
    simp only [BitVec.lt_def]
    split
    · omega
    · omega
  · show (c'.cylinderNumber.setWidth 32).toNat = _
    rw [BitVec.toNat_setWidth, ← hlength]
    omega

end AtaController

/-! ## The offer of an answer -/

namespace AtaController

variable (c : AtaController)

/-- The registers of `HardDiskReadySendAtapi`. -/
def readySend : AtaController :=
  (((c.clearStatus ideStatusBusy).setStatus ideStatusDevReq).clearStatus
    ideStatusError).setInterruptReason false true

lemma hasStatus_readySend : c.readySend.hasStatus ideStatusDevReq = true := by
  show Word.has (Word.clear (Word.set _ ideStatusDevReq) ideStatusError) ideStatusDevReq = true
  rw [Word.has_clear, Word.has_set]
  simp [ideStatusDevReq, ideStatusError]

lemma readySend_same : c.readySend.source = c.source ∧ c.readySend.drqIndex = c.drqIndex ∧
    c.readySend.atapi = c.atapi ∧ c.readySend.cylinderNumber = c.cylinderNumber ∧
    c.readySend.currentCommand = c.currentCommand := ⟨rfl, rfl, rfl, rfl, rfl⟩

end AtaController

/-- `HardDiskReadySendAtapi` changes the status, and calls. -/
lemma readySendAtapi_eq (s : HardDisk) :
    (hardDiskReadySendAtapi 1 s).controller 1 = (s.controller 1).readySend ∧
      (hardDiskReadySendAtapi 1 s).cdRom = s.cdRom ∧
      (s.CdInstalled → (hardDiskReadySendAtapi 1 s).CdInstalled) := by
  have hcontroller : (s.modifyController 1 AtaController.readySend).controller 1 =
      (s.controller 1).readySend := HardDisk.controller_modifyController ..
  have hinstalled (h : s.CdInstalled) :
      (s.modifyController 1 AtaController.readySend).CdInstalled :=
    h.modifyController rfl
  have heq : hardDiskReadySendAtapi 1 s =
      if ((s.modifyController 1 AtaController.readySend).controller 1).packetDma ≠ 0 then
        (s.modifyController 1 AtaController.readySend).call (.ideStartTransfer 1)
      else hardDiskRaiseInterrupt 1 (s.modifyController 1 AtaController.readySend) := rfl
  rw [heq]
  split
  · exact ⟨hcontroller, rfl, fun h => (hinstalled h).call _⟩
  · refine ⟨?_, ?_, fun h => (hinstalled h).raiseInterrupt⟩
    · rw [controller_raiseInterrupt, hcontroller]
    · unfold hardDiskRaiseInterrupt
      split <;> rfl

/-- A drive that offers what was announced starts to answer. -/
lemma answering_of_announced {a : PacketAnswer} {width : ℕ} {At : ℕ → PacketSource → Prop}
    {command : BitVec 8} {s : HardDisk} (hs : s.CdInstalled)
    (hpacket : (s.controller 1).currentCommand = ideCommandAtapiPacket)
    (hannounced : (s.controller 1).Announced command a.limit a.total) (ha : a.Divided width)
    (hat : At 0 (s.controller 1).source) :
    a.Answering s.cdRom width At 0 (hardDiskReadySendAtapi 1 s) := by
  obtain ⟨hcontroller, hcdRom, hinstalled⟩ := readySendAtapi_eq s
  obtain ⟨hsource, hindex, hatapi, hcylinder, hcommand⟩ := (s.controller 1).readySend_same
  have hzero : (s.controller 1).drqIndex.toNat = 0 := by
    rw [hannounced.drqIndex]
    rfl
  refine ⟨hinstalled hs, hcdRom, ?_, ⟨0, ?_⟩, ?_⟩
  · rw [hcontroller, hcommand]
    exact hpacket
  · rw [hcontroller]
    refine ⟨AtaController.hasStatus_readySend _, ?_, ?_, ?_, ?_, ?_, Nat.dvd_zero _, ?_⟩
    · rw [hindex, hzero]
    · rw [hatapi, hannounced.remaining, Nat.zero_add]
    · rw [hatapi, hannounced.announced, Nat.sub_zero]
    · rw [hcylinder, hannounced.cylinder, Nat.sub_zero]
    · rw [hindex, hatapi, hzero, hannounced.announced]
      exact Nat.lt_min.mpr ⟨ha.limited, ha.positive⟩
    · rw [hindex, hzero]
      exact Nat.dvd_zero _
  · rw [hcontroller, hsource]
    exact hat

/-! ## A reply in the buffer -/

/-- The reply is in the buffer, and has been read up to a position. -/
structure InBuffer (stream : ℕ → BitVec 8) (p : ℕ) (source : PacketSource) : Prop where
  command : source.command ∉ [scsiopRead, scsiopRead12, scsiopReadCd]
  bufferSize : source.bufferSize = 2048
  allocated : source.buffer.size = 2356
  position : source.bufferIndex.toNat = p
  bytes : source.buffer.byte = stream

/-- The buffer supplies an answer that is not longer than its 2048 bytes. -/
lemma supplied_inBuffer {a : PacketAnswer} {cdRom : CdRom} {width : BitVec 32}
    (hw : width ∈ portWidths) (htotal : a.total ≤ 2048) :
    a.Supplied cdRom width (InBuffer a.stream) := by
  intro p c h hlt _
  obtain ⟨haccess, -, hsmall, -⟩ := accessLength_of_width hw
  have hposition : c.bufferIndex.toNat = p := h.position
  have hsize : c.buffer.size = 2356 := h.allocated
  have hbufferSize : c.bufferSize = 2048 := h.bufferSize
  have hlimit : (2048 : BitVec 32).toNat = 2048 := rfl
  refine ⟨c.buffer, c.bufferIndex, c.lbAddress, c.remainingBlocks, ?_, rfl, ?_, ?_, ?_⟩
  · exact if_neg fun hnext => h.command hnext.2
  · rw [hbufferSize, BitVec.le_def, hposition, hlimit]
    omega
  · rw [AtaBuffer.load, haccess, hposition, if_pos (by omega)]
    refine congrArg Except.ok (littleEndian_congr fun j _ => ?_)
    exact congrFun h.bytes (p + j)
  · refine ⟨h.command, h.bufferSize, h.allocated, ?_, h.bytes⟩
    show (c.bufferIndex + width).toNat = p + width.toNat
    rw [BitVec.toNat_add, hposition]
    omega

/-! ## What the commands answer -/

/-- `MODE SENSE`: the header and the page. -/
def modeSenseReply (c : AtaController) : Option (BitVec 32 × BitVec 32 × List (BitVec 8)) :=
  let transferLength := if c.packet 0 = 0x5a then c.read16 7 else (c.packet 4).setWidth 32
  let control := c.packet 2 >>> 6
  let page := c.packet 2 &&& 0x3f
  if (control = 0 ∨ control = 2) ∧ page = 0x2a then
    some (28, transferLength, [0, 34, 0x12, 0, 0, 0, 0, 0] ++ capabilitiesPage c.locked)
  else if control = 0 ∧ page = 0x01 then
    some (16, transferLength, [0, 14, 0x12, 0, 0, 0, 0, 0, 0x01, 0x06, 0x00, 0x05, 0, 0, 0, 0])
  else none

/-- `READ TOC`: the table of contents, of which the guest says how much it wants. -/
def tocReply (capacity : BitVec 64) (c : AtaController) :
    Option (BitVec 32 × BitVec 32 × List (BitVec 8)) :=
  let format := c.packet 9 >>> 6
  let msf := c.packet 1 >>> 1 &&& 1 ≠ 0
  if (format = 2 ∨ format = 3) ∧ ¬ msf ∨ c.read16 7 = 0 then none
  else (cdRomToc capacity (decide msf) (c.packet 6) format).map fun bytes =>
    (c.read16 7, c.read16 7, bytes)

/-- `GET EVENT STATUS NOTIFICATION`, polled. -/
def eventReply (c : AtaController) : Option (BitVec 32 × BitVec 32 × List (BitVec 8)) :=
  if c.packet 1 &&& 1 = 0 then none
  else if c.packet 4 = 0x10 then
    let length := if c.read16 7 ≤ 4 then 4 else 8
    some (length, length, [0, 4, 0x04, 0x10, 0, 0x02, 0, 0])
  else some (4, 4, [0, 0, 0x80 ||| c.packet 4, 0x10])

/-- What the packet in the buffer is answered with: the length of the answer, the allocation length
of the packet, and the bytes.  Reads of blocks, and what answers without data, are not listed. -/
def packetReply (capacity : BitVec 64) (c : AtaController) :
    Option (BitVec 32 × BitVec 32 × List (BitVec 8)) :=
  let command := c.packet 0
  if command = 0xbd then
    if c.read16 8 = 0 then none else some (8, c.read16 8, [0, 0, 0, 0, 0, 1, 0, 0])
  else if command = 0x1a ∨ command = 0x5a then modeSenseReply c
  else if command = 0x12 then some (36, (c.packet 4).setWidth 32, inquiryData)
  else if command = 0x03 then some (18, (c.packet 4).setWidth 32, c.sense.reply)
  else if command = 0x25 then
    some (8, 8, bigEndian32 ((capacity - 1).setWidth 32) ++ bigEndian32 2048)
  else if command = 0x43 then tocReply capacity c
  else if command = 0x42 then some (4, c.read16 7, [0, 0, 0, 0])
  else if command = 0x4a then eventReply c
  else none

/-- The packets that answer with data, by their command. -/
lemma packetReply_cases {capacity : BitVec 64} {c : AtaController}
    {reqLength allocLength : BitVec 32} {data : List (BitVec 8)}
    (h : packetReply capacity c = some (reqLength, allocLength, data)) :
    c.packet 0 = 0xbd ∧ c.read16 8 ≠ 0 ∧
        (8, c.read16 8, [0, 0, 0, 0, 0, 1, 0, 0]) = (reqLength, allocLength, data) ∨
      (c.packet 0 = 0x1a ∨ c.packet 0 = 0x5a) ∧
        modeSenseReply c = some (reqLength, allocLength, data) ∨
      c.packet 0 = 0x12 ∧
        (36, (c.packet 4).setWidth 32, inquiryData) = (reqLength, allocLength, data) ∨
      c.packet 0 = 0x03 ∧
        (18, (c.packet 4).setWidth 32, c.sense.reply) = (reqLength, allocLength, data) ∨
      c.packet 0 = 0x25 ∧ (8, 8, bigEndian32 ((capacity - 1).setWidth 32) ++ bigEndian32 2048) =
        (reqLength, allocLength, data) ∨
      c.packet 0 = 0x43 ∧ tocReply capacity c = some (reqLength, allocLength, data) ∨
      c.packet 0 = 0x42 ∧ (4, c.read16 7, [0, 0, 0, 0]) = (reqLength, allocLength, data) ∨
      c.packet 0 = 0x4a ∧ eventReply c = some (reqLength, allocLength, data) := by
  unfold packetReply at h
  dsimp only at h
  split_ifs at h with h₁ h₂ h₃ h₄ h₅ h₆ h₇ h₈ h₉
  · exact Or.inl ⟨h₁, h₂, Option.some.inj h⟩
  · exact Or.inr (Or.inl ⟨h₃, h⟩)
  · exact Or.inr (Or.inr (Or.inl ⟨h₄, Option.some.inj h⟩))
  · exact Or.inr (Or.inr (Or.inr (Or.inl ⟨h₅, Option.some.inj h⟩)))
  · exact Or.inr (Or.inr (Or.inr (Or.inr (Or.inl ⟨h₆, Option.some.inj h⟩))))
  · exact Or.inr (Or.inr (Or.inr (Or.inr (Or.inr (Or.inl ⟨h₇, h⟩)))))
  · exact Or.inr (Or.inr (Or.inr (Or.inr (Or.inr (Or.inr (Or.inl ⟨h₈, Option.some.inj h⟩))))))
  · exact Or.inr (Or.inr (Or.inr (Or.inr (Or.inr (Or.inr (Or.inr ⟨h₉, h⟩))))))

/-- The buffer with bytes from an index on. -/
def AtaBuffer.overwritten (index : ℕ) (bytes : List (BitVec 8)) (b : AtaBuffer) : AtaBuffer where
  size := b.size
  byte := fun j =>
    if index ≤ j ∧ j < index + bytes.length then bytes.getD (j - index) 0 else b.byte j

/-- The controller with bytes in its buffer. -/
def AtaController.withBytes (index : ℕ) (bytes : List (BitVec 8)) (c : AtaController) :
    AtaController :=
  { c with buffer := c.buffer.overwritten index bytes }

section Prepared

variable {c c' : AtaController} {command : BitVec 8} {reqLength allocLength : BitVec 32}
  {data : List (BitVec 8)} {index : ℕ} {bytes : List (BitVec 8)}

lemma putBytes_eq (h : index + bytes.length ≤ c.buffer.size) :
    c.putBytes index bytes = .ok (c.withBytes index bytes) := by
  rw [AtaController.putBytes, AtaBuffer.fill, if_pos h]
  rfl

/-- A reply has been prepared. -/
structure Prepared (c : AtaController) (command : BitVec 8) (reqLength allocLength : BitVec 32)
    (data : List (BitVec 8)) (c' : AtaController) : Prop where
  announced : c'.Announced command (c.byteLimit allocLength) (c.answerLength reqLength allocLength)
  position : c'.bufferIndex = 0
  bufferSize : c'.bufferSize = c.bufferSize
  packet : c'.currentCommand = c.currentCommand
  size : c'.buffer.size = c.buffer.size
  bytes : ∀ j < data.length, c'.buffer.byte j = data.getD j 0

/-- Bytes behind those of the reply do not matter. -/
lemma Prepared.of_bytes (h : Prepared c command reqLength allocLength [] c')
    (hbytes : ∀ j < data.length, c'.buffer.byte j = data.getD j 0) :
    Prepared c command reqLength allocLength data c' :=
  ⟨h.announced, h.position, h.bufferSize, h.packet, h.size, hbytes⟩

/-- An announcement alone. -/
lemma prepared_init (h : 2 ≤ c.cylinderNumber.toNat) :
    Prepared c command reqLength allocLength []
      (c.initAtapiCommand command reqLength allocLength) := by
  obtain ⟨hbuffer, hsize, hpacket, -, -⟩ :=
    c.sameReply_initAtapiCommand command reqLength allocLength
  obtain ⟨hannounced, hindex⟩ :=
    AtaController.announced_initAtapiCommand command reqLength allocLength h
  exact ⟨hannounced, hindex, hsize, hpacket, congrArg AtaBuffer.size hbuffer,
    fun j hj => absurd hj (Nat.not_lt_zero j)⟩

lemma Prepared.withBytes (h : Prepared c command reqLength allocLength [] c') :
    Prepared c command reqLength allocLength [] (c'.withBytes index bytes) :=
  ⟨⟨h.announced.command, h.announced.drqIndex, h.announced.remaining, h.announced.announced,
    h.announced.cylinder⟩, h.position, h.bufferSize, h.packet, h.size,
    fun j hj => absurd hj (Nat.not_lt_zero j)⟩

lemma byte_withBytes_zero {j : ℕ} (hj : j < bytes.length) :
    (c.withBytes 0 bytes).buffer.byte j = bytes.getD j 0 := by
  show (if 0 ≤ j ∧ j < 0 + bytes.length then bytes.getD (j - 0) 0 else _) = _
  rw [if_pos ⟨Nat.zero_le j, by omega⟩, Nat.sub_zero]

/-- Announced, and then written. -/
lemma prepared_written (h : 2 ≤ c.cylinderNumber.toNat) :
    Prepared c command reqLength allocLength data
      ((c.initAtapiCommand command reqLength allocLength).withBytes 0 data) :=
  (prepared_init h).withBytes.of_bytes fun _ hj => byte_withBytes_zero hj

/-- Written, and then announced. -/
lemma prepared_announced (h : 2 ≤ c.cylinderNumber.toNat) :
    Prepared c command reqLength allocLength data
      ((c.withBytes 0 data).initAtapiCommand command reqLength allocLength) := by
  obtain ⟨hbuffer, -, -, -, -⟩ :=
    (c.withBytes 0 data).sameReply_initAtapiCommand command reqLength allocLength
  have hinit : Prepared (c.withBytes 0 data) command reqLength allocLength [] _ := prepared_init h
  refine ⟨hinit.announced, hinit.position, hinit.bufferSize, hinit.packet, hinit.size,
    fun j hj => ?_⟩
  rw [hbuffer]
  exact byte_withBytes_zero hj

end Prepared

/-! ## The length of a table of contents -/

lemma length_address (msf : Bool) (blocks : BitVec 32) :
    (if msf then msfAddress blocks else bigEndian32 blocks).length = 4 := by
  cases msf <;> rfl

lemma length_rawTocEntry (blocks : BitVec 32) (msf : Bool) (i : ℕ) :
    (rawTocEntry blocks msf i).length = 11 := by
  have hposition : (if i < 2 then [0, 1, 0, 0]
      else if i = 2 then if msf then msfAddress blocks else bigEndian32 blocks
      else [0, 0, 0, 0] : List (BitVec 8)).length = 4 := by
    split
    · rfl
    · split
      · exact length_address msf blocks
      · rfl
  rw [rawTocEntry, List.length_append, hposition]
  rfl

lemma length_cdRomToc {capacity : BitVec 64} {msf : Bool} {track format : BitVec 8}
    {data : List (BitVec 8)} (h : cdRomToc capacity msf track format = some data) :
    data.length ≤ 2356 := by
  unfold cdRomToc at h
  extract_lets blocks withLength first leadOut at h
  have hwith (tracks : List (BitVec 8)) : (withLength tracks).length = tracks.length + 4 := by
    rw [List.length_append]
    exact Nat.add_comm 4 _
  by_cases htracks : format = 0
  · rw [if_pos htracks] at h
    by_cases hrange : 1 < track ∧ track ≠ 0xaa
    · rw [if_pos hrange] at h
      cases h
    · rw [if_neg hrange] at h
      have hfirst : first.length ≤ 8 := by
        show (if track ≤ 1 then _ else [] : List (BitVec 8)).length ≤ 8
        split
        · cases msf <;> decide
        · decide
      have hleadOut : leadOut.length = 8 := by
        rw [List.length_append, length_address]
        rfl
      obtain rfl := Option.some.inj h
      rw [hwith, List.length_append]
      omega
  · rw [if_neg htracks] at h
    split at h
    · obtain rfl := Option.some.inj h
      decide
    · split at h
      · obtain rfl := Option.some.inj h
        rw [hwith, List.length_flatMap]
        simp only [length_rawTocEntry]
        decide
      · cases h

/-! ## The pages of `MODE SENSE` -/

/-- What `HardDiskInitModeSense` writes in front of a page. -/
def AtaController.withHeader (size : ℕ) (c : AtaController) : AtaController :=
  (c.withBytes 0 (List.replicate (7 + size) 0)).withBytes 0 [0, BitVec.ofNat 8 (size + 6), 0x12]

lemma Prepared.withHeader {c c' : AtaController} {command : BitVec 8}
    {reqLength allocLength : BitVec 32} {size : ℕ}
    (h : Prepared c command reqLength allocLength [] c') :
    Prepared c command reqLength allocLength [] (c'.withHeader size) :=
  h.withBytes.withBytes

section Pages

variable {c : AtaController} {page kept : List (BitVec 8)}

lemma byte_withHeader {size j : ℕ} (hj : j < 8) (hsize : 0 < size) :
    (c.withHeader size).buffer.byte j =
      [0, BitVec.ofNat 8 (size + 6), 0x12, 0, 0, 0, 0, 0].getD j 0 := by
  show (if 0 ≤ j ∧ j < 0 + 3 then [0, BitVec.ofNat 8 (size + 6), 0x12].getD (j - 0) 0
    else if 0 ≤ j ∧ j < 0 + (List.replicate (7 + size) (0 : BitVec 8)).length then
      (List.replicate (7 + size) (0 : BitVec 8)).getD (j - 0) 0 else c.buffer.byte j) = _
  have hzeros (i : ℕ) : (List.replicate (7 + size) (0 : BitVec 8)).getD i 0 = 0 := by
    rw [List.getD_eq_getElem?_getD, List.getElem?_replicate]
    split <;> rfl
  rw [List.length_replicate, hzeros, if_pos (show 0 ≤ j ∧ j < 0 + (7 + size) by omega)]
  interval_cases j <;> rfl

/-- A page goes behind the header. -/
lemma byte_withPage {size j : ℕ} (hsize : 0 < size) (hj : j < 8 + page.length) :
    ((c.withHeader size).withBytes 8 page).buffer.byte j =
      ([0, BitVec.ofNat 8 (size + 6), 0x12, 0, 0, 0, 0, 0] ++ page).getD j 0 := by
  show (if 8 ≤ j ∧ j < 8 + page.length then page.getD (j - 8) 0
    else (c.withHeader size).buffer.byte j) = _
  by_cases hheader : j < 8
  · rw [if_neg (by omega), byte_withHeader hheader hsize, List.getD_append _ _ _ _ hheader]
  · rw [if_pos (by omega), List.getD_append_right _ _ _ _ (by show 8 ≤ j; omega)]
    rfl

/-- A page that is written twice is the second one. -/
lemma byte_withBytes_withBytes {index j : ℕ} (hj : j < index + page.length) :
    ((c.withBytes index kept).withBytes index page).buffer.byte j =
      (c.withBytes index page).buffer.byte j := by
  show (if index ≤ j ∧ j < index + page.length then page.getD (j - index) 0
    else if index ≤ j ∧ j < index + kept.length then _ else c.buffer.byte j) =
    if index ≤ j ∧ j < index + page.length then page.getD (j - index) 0 else c.buffer.byte j
  by_cases hin : index ≤ j ∧ j < index + page.length
  · rw [if_pos hin, if_pos hin]
  · rw [if_neg hin, if_neg hin, if_neg (by omega)]

lemma initModeSense_header {size : ℕ} (hroom : size + 8 ≤ c.buffer.size) (hsmall : size < 250)
    (source : Bool) : c.initModeSense source size =
      if source then (do
        let kept ← (c.withHeader size).buffer.slice 8 size
        (c.withHeader size).putBytes 8 kept)
      else (c.withHeader size).putBytes 8 [0x01, 0x06, 0x00, 0x05, 0x00, 0x00, 0x00, 0x00] := by
  have hzeros : c.putBytes 0 (List.replicate (7 + size) 0) =
      .ok (c.withBytes 0 (List.replicate (7 + size) 0)) := by
    apply putBytes_eq
    rw [List.length_replicate]
    omega
  have hheader : (c.withBytes 0 (List.replicate (7 + size) 0)).putBytes 0
      [0, BitVec.ofNat 8 (size + 6), 0x12] = .ok (c.withHeader size) :=
    putBytes_eq (by show 0 + 3 ≤ c.buffer.size; omega)
  have hhigh : ((BitVec.ofNat 32 (size + 6)) >>> 8).setWidth 8 = (0 : BitVec 8) := by
    apply BitVec.eq_of_toNat_eq
    rw [BitVec.toNat_setWidth, BitVec.toNat_ushiftRight, BitVec.toNat_ofNat,
      Nat.shiftRight_eq_div_pow]
    show _ = 0
    omega
  have hlow : (BitVec.ofNat 32 (size + 6)).setWidth 8 = BitVec.ofNat 8 (size + 6) := by
    apply BitVec.eq_of_toNat_eq
    rw [BitVec.toNat_setWidth, BitVec.toNat_ofNat, BitVec.toNat_ofNat]
    omega
  unfold AtaController.initModeSense
  dsimp only
  rw [hzeros, ok_bind, hhigh, hlow, hheader, ok_bind]

end Pages

/-! ## The commands -/

/-- A sense code that was told once is not told again. -/
def AtaController.attentionTold (c : AtaController) : AtaController :=
  if c.sense.senseKey = ideSenseUnitAttention then
    { c with sense := { c.sense with senseKey := 0 } } else c

lemma hardDiskRequestSense_eq (command : BitVec 8) (s : HardDisk) :
    hardDiskRequestSense 1 command s = (do
      let c := (s.controller 1).initAtapiCommand command 18
        (((s.controller 1).packet 4).setWidth 32)
      let c ← c.putBytes 0 c.sense.reply
      return hardDiskReadySendAtapi 1 (s.modifyController 1 fun _ => c.attentionTold)) := rfl

lemma Prepared.attentionTold {c c' : AtaController} {command : BitVec 8}
    {reqLength allocLength : BitVec 32} {data : List (BitVec 8)}
    (h : Prepared c command reqLength allocLength data c') :
    Prepared c command reqLength allocLength data c'.attentionTold := by
  unfold AtaController.attentionTold
  split
  · exact ⟨⟨h.announced.command, h.announced.drqIndex, h.announced.remaining,
      h.announced.announced, h.announced.cylinder⟩, h.position, h.bufferSize, h.packet, h.size,
      h.bytes⟩
  · exact h

/-- A reply is offered. -/
def Replies (s : HardDisk) (command : BitVec 8) (reqLength allocLength : BitVec 32)
    (data : List (BitVec 8)) (outcome : HardDiskOutcome HardDisk) : Prop :=
  ∃ c', outcome = .ok (hardDiskReadySendAtapi 1 (s.modifyController 1 fun _ => c')) ∧
    Prepared (s.controller 1) command reqLength allocLength data c'

section Commands

variable {s : HardDisk} {command : BitVec 8} {reqLength allocLength : BitVec 32}
  {data : List (BitVec 8)}

variable (hsize : (s.controller 1).buffer.size = 2356)
  (hlimit : 2 ≤ (s.controller 1).cylinderNumber.toNat)

include hsize hlimit

lemma replies_reply (hdata : data.length ≤ 2356) :
    Replies s command reqLength allocLength data
      (hardDiskReply 1 command reqLength allocLength 0 data s) := by
  have hinit : Prepared (s.controller 1) command reqLength allocLength [] _ := prepared_init hlimit
  refine ⟨_, ?_, prepared_written hlimit⟩
  have hroom : 0 + data.length ≤
      ((s.controller 1).initAtapiCommand command reqLength allocLength).buffer.size := by
    rw [hinit.size, hsize, Nat.zero_add]
    exact hdata
  rw [hardDiskReply, putBytes_eq hroom]
  rfl

lemma replies_requestSense :
    Replies s command 18 (((s.controller 1).packet 4).setWidth 32) (s.controller 1).sense.reply
      (hardDiskRequestSense 1 command s) := by
  have hinit :
      Prepared (s.controller 1) command 18 (((s.controller 1).packet 4).setWidth 32) [] _ :=
    prepared_init hlimit
  obtain ⟨-, -, -, hsense, -⟩ := (s.controller 1).sameReply_initAtapiCommand command 18
    (((s.controller 1).packet 4).setWidth 32)
  have hwritten : Prepared (s.controller 1) command 18 (((s.controller 1).packet 4).setWidth 32)
      (s.controller 1).sense.reply _ := prepared_written hlimit
  have hroom : 0 + (s.controller 1).sense.reply.length ≤ ((s.controller 1).initAtapiCommand command
      18 (((s.controller 1).packet 4).setWidth 32)).buffer.size := by
    rw [hinit.size, hsize]
    show 18 ≤ 2356
    omega
  refine ⟨_, ?_, hwritten.attentionTold⟩
  rw [hardDiskRequestSense_eq]
  dsimp only
  rw [hsense, putBytes_eq hroom, ok_bind]
  rfl

variable (command reqLength allocLength data) in
/-- What is written before it is announced. -/
lemma replies_announced (hdata : data.length ≤ 2356) :
    (s.controller 1).putBytes 0 data = .ok ((s.controller 1).withBytes 0 data) ∧
    Replies s command reqLength allocLength data
      (.ok (hardDiskReadySendAtapi 1 (s.modifyController 1 fun _ =>
        ((s.controller 1).withBytes 0 data).initAtapiCommand command reqLength allocLength))) := by
  refine ⟨putBytes_eq ?_, _, rfl, prepared_announced hlimit⟩
  rw [hsize, Nat.zero_add]
  exact hdata

lemma replies_eventStatus (h : eventReply (s.controller 1) = some (reqLength, allocLength, data)) :
    Replies s command reqLength allocLength data (hardDiskGetEventStatus 1 command s) := by
  unfold eventReply at h
  unfold hardDiskGetEventStatus
  by_cases hpolled : (s.controller 1).packet 1 &&& 1 = 0
  · rw [if_pos hpolled] at h
    cases h
  · rw [if_neg hpolled] at h
    simp only [if_neg hpolled]
    by_cases hmedia : (s.controller 1).packet 4 = 0x10
    · simp only [if_pos hmedia] at h ⊢
      cases h
      obtain ⟨hput, hreplies⟩ := replies_announced command _ _
        [0, 4, 0x04, 0x10, 0, 0x02, 0, 0] hsize hlimit (by decide)
      rw [hput]
      exact hreplies
    · simp only [if_neg hmedia] at h ⊢
      cases h
      obtain ⟨hput, hreplies⟩ := replies_announced command _ _
        [0, 0, 0x80 ||| (s.controller 1).packet 4, 0x10] hsize hlimit
        (by show 4 ≤ 2356; omega)
      rw [hput]
      exact hreplies

lemma replies_readToc (h : tocReply s.cdRom.capacity (s.controller 1) =
      some (reqLength, allocLength, data)) :
    Replies s command reqLength allocLength data (hardDiskReadToc 1 command s) := by
  unfold tocReply at h
  unfold hardDiskReadToc
  extract_lets format msf at h
  extract_lets c transferLength format' msf'
  by_cases hnone : (format = 2 ∨ format = 3) ∧ ¬ msf ∨ (s.controller 1).read16 7 = 0
  · rw [if_pos hnone] at h
    cases h
  · rw [if_neg hnone] at h
    have hmsf : ¬ ((format' = 2 ∨ format' = 3) ∧ ¬ msf') := fun hraw => hnone (Or.inl hraw)
    have hlength : ¬ transferLength = 0 := fun hzero => hnone (Or.inr hzero)
    obtain ⟨bytes, htoc, hbytes⟩ := Option.map_eq_some_iff.mp h
    obtain ⟨rfl, rfl, rfl⟩ : reqLength = (s.controller 1).read16 7 ∧
        allocLength = (s.controller 1).read16 7 ∧ data = bytes := by
      cases hbytes
      exact ⟨rfl, rfl, rfl⟩
    have htoc' : cdRomToc s.cdRom.capacity (decide msf') (c.packet 6) format' = some data := htoc
    obtain ⟨hput, hreplies⟩ := replies_announced command ((s.controller 1).read16 7)
      ((s.controller 1).read16 7) data hsize hlimit (length_cdRomToc htoc)
    rw [if_neg hmsf, htoc']
    simp only [hlength, if_false, modifyController_modifyController]
    rw [hput]
    exact hreplies

lemma replies_modeSense (h : modeSenseReply (s.controller 1) =
      some (reqLength, allocLength, data)) :
    Replies s ((s.controller 1).packet 0) reqLength allocLength data
      (hardDiskModeSense 1 ((s.controller 1).packet 0) s) := by
  unfold modeSenseReply at h
  unfold hardDiskModeSense
  extract_lets transferLength control page at h
  extract_lets c transferLength' control' page'
  by_cases hcapabilities : (control = 0 ∨ control = 2) ∧ page = 0x2a
  · rw [if_pos hcapabilities] at h
    have hparts := Option.some.inj h
    rw [Prod.mk.injEq, Prod.mk.injEq] at hparts
    obtain ⟨rfl, halloc, rfl⟩ := hparts
    rw [← halloc]
    have hinit : Prepared (s.controller 1) ((s.controller 1).packet 0) 28 transferLength [] _ :=
      prepared_init hlimit
    obtain ⟨-, -, -, -, hlocked⟩ := (s.controller 1).sameReply_initAtapiCommand
      ((s.controller 1).packet 0) 28 transferLength
    set c₁ := (s.controller 1).initAtapiCommand ((s.controller 1).packet 0) 28 transferLength
    have hroom : 28 + 8 ≤ c₁.buffer.size := by
      rw [hinit.size, hsize]
      omega
    obtain ⟨kept, hkept, hlength⟩ : ∃ kept, (c₁.withHeader 28).buffer.slice 8 28 = .ok kept ∧
        kept.length = 28 := by
      refine ⟨_, if_pos (by show 8 + 28 ≤ c₁.buffer.size; omega), ?_⟩
      rw [List.length_map, List.length_range]
    have hpage : (capabilitiesPage c₁.locked).length = 20 := rfl
    have hwritten : c₁.initModeSense true 28 = .ok ((c₁.withHeader 28).withBytes 8 kept) := by
      rw [initModeSense_header hroom (by omega), if_pos rfl, hkept, ok_bind]
      exact putBytes_eq (by show 8 + kept.length ≤ c₁.buffer.size; omega)
    have hput : ((c₁.withHeader 28).withBytes 8 kept).putBytes 8 (capabilitiesPage c₁.locked) =
        .ok (((c₁.withHeader 28).withBytes 8 kept).withBytes 8 (capabilitiesPage c₁.locked)) :=
      putBytes_eq (by rw [hpage]; show 8 + 20 ≤ c₁.buffer.size; omega)
    refine ⟨((c₁.withHeader 28).withBytes 8 kept).withBytes 8 (capabilitiesPage c₁.locked), ?_,
      hinit.withHeader.withBytes.withBytes.of_bytes fun j hj => ?_⟩
    · rw [if_pos hcapabilities]
      show (do
        let c ← c₁.initModeSense true 28
        _ : HardDiskOutcome HardDisk) = _
      rw [hwritten, ok_bind]
      show (do
        let c ← ((c₁.withHeader 28).withBytes 8 kept).putBytes 8 (capabilitiesPage c₁.locked)
        _ : HardDiskOutcome HardDisk) = _
      rw [hput]
      rfl
    · have hj' : j < 8 + (capabilitiesPage c₁.locked).length := hj
      rw [byte_withBytes_withBytes hj', byte_withPage (by omega) hj', hlocked]
      rfl
  · rw [if_neg hcapabilities] at h
    rw [if_neg hcapabilities]
    by_cases hrecovery : control = 0 ∧ page = 0x01
    · rw [if_pos hrecovery] at h
      have hparts := Option.some.inj h
      rw [Prod.mk.injEq, Prod.mk.injEq] at hparts
      obtain ⟨rfl, halloc, rfl⟩ := hparts
      rw [← halloc]
      have hinit : Prepared (s.controller 1) ((s.controller 1).packet 0) 16 transferLength [] _ :=
        prepared_init hlimit
      set c₁ := (s.controller 1).initAtapiCommand ((s.controller 1).packet 0) 16 transferLength
      have hroom : 8 + 8 ≤ c₁.buffer.size := by
        rw [hinit.size, hsize]
        omega
      have hwritten : c₁.initModeSense false 8 = .ok ((c₁.withHeader 8).withBytes 8
          [0x01, 0x06, 0x00, 0x05, 0x00, 0x00, 0x00, 0x00]) := by
        rw [initModeSense_header hroom (by omega), if_neg Bool.false_ne_true]
        exact putBytes_eq (by show 8 + 8 ≤ c₁.buffer.size; omega)
      refine ⟨(c₁.withHeader 8).withBytes 8 [0x01, 0x06, 0x00, 0x05, 0x00, 0x00, 0x00, 0x00], ?_,
        hinit.withHeader.withBytes.of_bytes fun j hj => ?_⟩
      · rw [if_pos hrecovery]
        show (do
          let c ← c₁.initModeSense false 8
          _ : HardDiskOutcome HardDisk) = _
        rw [hwritten]
        rfl
      · exact (byte_withPage (Nat.succ_pos 7) hj).trans rfl
    · rw [if_neg hrecovery] at h
      cases h

/-- What is listed is offered. -/
lemma packet_replies (h : packetReply s.cdRom.capacity (s.controller 1) =
      some (reqLength, allocLength, data)) :
    Replies s ((s.controller 1).packet 0) reqLength allocLength data (hardDiskPacket 1 s) := by
  rcases packetReply_cases h with ⟨hx, hlength, hdata⟩ | ⟨hx, hdata⟩ | ⟨hx, hdata⟩ | ⟨hx, hdata⟩ |
    ⟨hx, hdata⟩ | ⟨hx, hdata⟩ | ⟨hx, hdata⟩ | ⟨hx, hdata⟩
  · cases hdata
    have hrun : hardDiskPacket 1 s = hardDiskReply 1 0xbd 8 ((s.controller 1).read16 8) 0
        [0, 0, 0, 0, 0, 1, 0, 0] s := by
      unfold hardDiskPacket
      simp only [hx]
      exact if_neg hlength
    rw [hrun, hx]
    exact replies_reply hsize hlimit (by decide)
  · have hrun : hardDiskPacket 1 s = hardDiskModeSense 1 ((s.controller 1).packet 0) s := by
      unfold hardDiskPacket
      rcases hx with hx | hx
      · simp only [hx]
        rfl
      · simp only [hx]
        rfl
    rw [hrun]
    exact replies_modeSense hsize hlimit hdata
  · cases hdata
    have hrun : hardDiskPacket 1 s = hardDiskReply 1 0x12 36
        (((s.controller 1).packet 4).setWidth 32) 0 inquiryData s := by
      unfold hardDiskPacket
      simp only [hx]
      rfl
    rw [hrun, hx]
    exact replies_reply hsize hlimit (by decide)
  · cases hdata
    have hrun : hardDiskPacket 1 s = hardDiskRequestSense 1 0x03 s := by
      unfold hardDiskPacket
      simp only [hx]
      rfl
    rw [hrun, hx]
    exact replies_requestSense hsize hlimit
  · cases hdata
    have hrun : hardDiskPacket 1 s = hardDiskReply 1 0x25 8 8 0
        (bigEndian32 ((s.cdRom.capacity - 1).setWidth 32) ++ bigEndian32 2048) s := by
      unfold hardDiskPacket
      simp only [hx]
      rfl
    rw [hrun, hx]
    exact replies_reply hsize hlimit (by show 8 ≤ 2356; omega)
  · have hrun : hardDiskPacket 1 s = hardDiskReadToc 1 0x43 s := by
      unfold hardDiskPacket
      simp only [hx]
      rfl
    rw [hrun, hx]
    exact replies_readToc hsize hlimit hdata
  · cases hdata
    obtain ⟨hput, hreplies⟩ := replies_announced 0x42 4 ((s.controller 1).read16 7)
      [0, 0, 0, 0] hsize hlimit (by decide)
    have hrun : hardDiskPacket 1 s = (do
        let c ← (s.controller 1).putBytes 0 [0, 0, 0, 0]
        return hardDiskReadySendAtapi 1 (s.modifyController 1 fun _ =>
          c.initAtapiCommand 0x42 4 ((s.controller 1).read16 7))) := by
      unfold hardDiskPacket
      simp only [hx]
      rfl
    rw [hrun, hx, hput]
    exact hreplies
  · have hrun : hardDiskPacket 1 s = hardDiskGetEventStatus 1 0x4a s := by
      unfold hardDiskPacket
      simp only [hx]
      rfl
    rw [hrun, hx]
    exact replies_eventStatus hsize hlimit hdata

end Commands

/-! ## From the packet to the last byte -/

section Reply

variable {c : AtaController} {capacity : BitVec 64} {reqLength allocLength : BitVec 32}
  {data : List (BitVec 8)}

/-- What is listed has a length, and is no read of blocks. -/
lemma packetReply_sound (h : packetReply capacity c = some (reqLength, allocLength, data)) :
    reqLength ≠ 0 ∧ c.packet 0 ∉ [scsiopRead, scsiopRead12, scsiopReadCd] := by
  rcases packetReply_cases h with ⟨hx, -, hdata⟩ | ⟨hx, hdata⟩ | ⟨hx, hdata⟩ | ⟨hx, hdata⟩ |
    ⟨hx, hdata⟩ | ⟨hx, hdata⟩ | ⟨hx, hdata⟩ | ⟨hx, hdata⟩
  · cases hdata
    exact ⟨by decide, by rw [hx]; decide⟩
  · refine ⟨?_, by rcases hx with hx | hx <;> rw [hx] <;> decide⟩
    unfold modeSenseReply at hdata
    dsimp only at hdata
    split_ifs at hdata
    all_goals
      cases hdata
      decide
  · cases hdata
    exact ⟨by decide, by rw [hx]; decide⟩
  · cases hdata
    exact ⟨by decide, by rw [hx]; decide⟩
  · cases hdata
    exact ⟨by decide, by rw [hx]; decide⟩
  · refine ⟨?_, by rw [hx]; decide⟩
    unfold tocReply at hdata
    dsimp only at hdata
    split_ifs at hdata with hnone
    obtain ⟨bytes, -, hbytes⟩ := Option.map_eq_some_iff.mp hdata
    rw [← (Prod.mk.inj hbytes).1]
    exact fun hzero => hnone (Or.inr hzero)
  · cases hdata
    exact ⟨by decide, by rw [hx]; decide⟩
  · refine ⟨?_, by rw [hx]; decide⟩
    unfold eventReply at hdata
    dsimp only at hdata
    split_ifs at hdata
    all_goals
      cases hdata
      decide

lemma answerLength_pos (hreq : reqLength ≠ 0) (hlimit : 2 ≤ c.cylinderNumber.toNat) :
    0 < c.answerLength reqLength allocLength := by
  have hnonzero {x : BitVec 32} (hx : x ≠ 0) : 0 < x.toNat := by
    refine Nat.pos_of_ne_zero fun hzero => hx (BitVec.eq_of_toNat_eq ?_)
    rw [hzero]
    rfl
  refine Nat.lt_min.mpr ⟨hnonzero hreq, ?_⟩
  split
  · exact (AtaController.toNat_evened allocLength hlimit).2
  · rename_i halloc
    exact hnonzero halloc

end Reply

/-- The bytes of a buffer that starts with data. -/
lemma take_prefixOf_data {stream : ℕ → BitVec 8} {data : List (BitVec 8)}
    (h : ∀ j < data.length, stream j = data.getD j 0) (total : ℕ) :
    (prefixOf stream total).take data.length = data.take total := by
  apply List.ext_getElem
  · rw [List.length_take, List.length_take, prefixOf_length, Nat.min_comm]
  · intro j hj hj'
    rw [List.length_take] at hj'
    have hin : j < (prefixOf stream total).length := by
      rw [prefixOf_length]
      omega
    have hposition : (prefixOf stream total)[j] = stream j := by
      simp only [prefixOf, List.getElem_map, List.getElem_range]
    rw [List.getElem_take, List.getElem_take, hposition, h j (by omega),
      List.getD_eq_getElem _ _ (by omega)]

/-- A packet that is sent to the idle CD-ROM drive and answered from the buffer is answered in any
order of data reads of one width and status reads, as long as a DRQ block is not cut in the middle
of a read: what the guest reads are the bytes of the reply, as many as the shorter of its length and
the allocation length says; the data request stays until the last of them. -/
theorem packet_reply_delivers {s : HardDisk} {packet : ℕ → BitVec 8} {written width : BitVec 32}
    {reqLength allocLength : BitVec 32} {data : List (BitVec 8)} (h : s.CdInstalled)
    (hidle : (s.controller 1).hasStatus ideStatusBusy = false) (hwritten : written ∈ portWidths)
    (hw : width ∈ portWidths)
    (hreply : packetReply s.cdRom.capacity ((s.controller 1).packetComplete packet) =
      some (reqLength, allocLength, data))
    (hlimit : 2 ≤ (s.controller 1).cylinderNumber.toNat)
    (hwhole : width.toNat ∣ (s.controller 1).byteLimit allocLength ∨
      (s.controller 1).answerLength reqLength allocLength ≤
        (s.controller 1).byteLimit allocLength)
    (hbuffer : (s.controller 1).answerLength reqLength allocLength ≤ 2048) (reads : List PioRead) :
    ∃ started σ, sendPacket packet written s = .ok started ∧
      TransitionRun.run (sessionStep (cdRead width)) ⟨started, []⟩ reads = .ok σ ∧
      σ.received.length = width.toNat * reads.count .data ∧
      (σ.received.take ((s.controller 1).answerLength reqLength allocLength)).take data.length =
        (data.take ((s.controller 1).answerLength reqLength allocLength)).take
          σ.received.length ∧
      ((σ.device.controller 1).hasStatus ideStatusDevReq = true ↔
        σ.received.length < (s.controller 1).answerLength reqLength allocLength) := by
  set t := (hardDiskLowerIrq 1 s).modifyController 1 (·.packetComplete packet) with ht
  have hcontroller : t.controller 1 = (s.controller 1).packetComplete packet :=
    HardDisk.controller_modifyController ..
  have hinstalled : t.CdInstalled := h.lowerIrq.modifyController rfl
  have hcdRom : t.cdRom = s.cdRom := rfl
  have hlimit' : 2 ≤ (t.controller 1).cylinderNumber.toNat := by
    rw [hcontroller]
    exact hlimit
  rw [← hcontroller, ← hcdRom] at hreply
  obtain ⟨c', hrun, hprepared⟩ := packet_replies hinstalled.allocated hlimit' hreply
  obtain ⟨hreq, hcommand⟩ := packetReply_sound hreply
  have hannounced := hprepared.announced
  have hbytes := hprepared.bytes
  have hpacket := hprepared.packet
  have hbufferSize := hprepared.bufferSize
  have hsize := hprepared.size
  rw [hcontroller] at hannounced hpacket hbufferSize hsize
  set a : PacketAnswer :=
    { total := (s.controller 1).answerLength reqLength allocLength
      limit := (s.controller 1).byteLimit allocLength
      stream := c'.buffer.byte } with ha
  have hdivided : a.Divided width.toNat :=
    ⟨answerLength_pos hreq hlimit, (AtaController.toNat_evened allocLength hlimit).2, hwhole⟩
  have hsupplied : a.Supplied s.cdRom width (InBuffer a.stream) := supplied_inBuffer hw hbuffer
  have hoffered : (t.modifyController 1 fun _ => c').controller 1 = c' :=
    HardDisk.controller_modifyController ..
  have hanswering : a.Answering s.cdRom width.toNat (InBuffer a.stream) 0
      (hardDiskReadySendAtapi 1 (t.modifyController 1 fun _ => c')) := by
    apply answering_of_announced (hinstalled.modifyController hprepared.size) _ _ hdivided
    · rw [hoffered]
      refine ⟨?_, hbufferSize, ?_, ?_, rfl⟩
      · show c'.atapi.atapiCommand ∉ _
        rw [hannounced.command, ← hcontroller]
        exact hcommand
      · exact hsize.trans h.allocated
      · show c'.bufferIndex.toNat = 0
        rw [hprepared.position]
        rfl
    · exact ((t.controller 1).packet 0)
    · rw [hoffered]
      exact hpacket
    · rw [hoffered, hcontroller]
      exact hannounced
  obtain ⟨σ, hσ, hlength, hreceived, hrequest⟩ := a.delivers hanswering hdivided hw hsupplied reads
  refine ⟨_, σ, ?_, hσ, hlength, ?_, hrequest⟩
  · rw [sendPacket_eq h hidle hwritten]
    exact hrun
  · rw [hreceived, List.take_take, Nat.min_comm, ← List.take_take]
    congr 1
    exact take_prefixOf_data hbytes _

/-- The CD-ROM drive of a disk of 5000 blocks, after the guest has set a limit of four bytes. -/
def limitedDrive : HardDisk :=
  (hardDiskInitialize numberedImage ⟨5000, fun _ => []⟩ 0).modifyController 1 fun c =>
    { c with cylinderNumber := 4 }

/-- `READ CAPACITY`, sent in words of two bytes and read in four bytes of two blocks: the last block
and the length of a block. -/
theorem packet_reply_delivers_capacity :
    ∃ started σ, sendPacket (fun j => [0x25].getD j 0) 2 limitedDrive = .ok started ∧
      TransitionRun.run (sessionStep (cdRead 4)) ⟨started, []⟩
        [.data, .status 1, .data, .data] = .ok σ ∧
      σ.received.take 8 = [0x00, 0x00, 0x13, 0x87, 0x00, 0x00, 0x08, 0x00] ∧
      (σ.device.controller 1).hasStatus ideStatusDevReq = false := by
  have hreply : packetReply limitedDrive.cdRom.capacity
      ((limitedDrive.controller 1).packetComplete fun j => [0x25].getD j 0) =
        some (8, 8, [0x00, 0x00, 0x13, 0x87, 0x00, 0x00, 0x08, 0x00]) := by
    decide +kernel
  have hwritten : (2 : BitVec 32) ∈ portWidths := by decide
  have hw : (4 : BitVec 32) ∈ portWidths := by decide
  obtain ⟨started, σ, hstarted, hrun, hlength, hreceived, hrequest⟩ :=
    packet_reply_delivers (by decide +kernel) (by decide +kernel) hwritten hw hreply
      (by decide +kernel) (by decide +kernel) (by decide +kernel) [.data, .status 1, .data, .data]
  have htotal : (limitedDrive.controller 1).answerLength 8 8 = 8 := by decide +kernel
  have hcount : σ.received.length = 12 := hlength
  rw [htotal, hcount] at hrequest
  rw [htotal, hcount] at hreceived
  refine ⟨started, σ, hstarted, hrun, ?_, ?_⟩
  · rw [List.take_take] at hreceived
    exact hreceived
  · exact Bool.eq_false_iff.mpr fun h => absurd (hrequest.mp h) (by decide)

end Svmm
