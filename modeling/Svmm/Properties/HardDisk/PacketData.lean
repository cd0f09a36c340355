import Svmm.Framework.Delivery
import Svmm.Properties.HardDisk.PioRead

/-!
# Reading the answer to a packet command

A packet command that answers with data announces it in blocks of at most the byte count limit, and
the guest reads it in accesses of one width.  Whatever supplies the bytes, the buffer or the frames
of the CD-ROM, every run of data and status reads delivers them; the data request stays until the
last of them.
-/

namespace Svmm

open TransitionRun StreamDelivery Bytes

/-! ## The CD-ROM drive -/

/-- What `HardDiskInitialize` fixes for the CD-ROM: the ports of every channel and the first drive
of channel 1, with its buffer; and that drive is the selected one. -/
structure HardDisk.CdInstalled (s : HardDisk) : Prop where
  ports : ∀ ch, ((s.channel ch).ioAddr1, (s.channel ch).ioAddr2) =
    (if ch = 0 then (0x1f0, 0x3f0) else if ch = 1 then (0x170, 0x370)
      else if ch = 2 then (0x1e8, 0x3e0) else (0x168, 0x360))
  selected : (s.channel 1).dnum = 0
  isCdRom : (s.drive 1).driveType = .cdrom
  allocated : (s.controller 1).buffer.size = 2356

instance (s : HardDisk) : Decidable s.CdInstalled :=
  decidable_of_iff (_ ∧ _ ∧ _ ∧ _)
    ⟨fun h => ⟨h.1, h.2.1, h.2.2.1, h.2.2.2⟩,
      fun h => ⟨h.ports, h.selected, h.isCdRom, h.allocated⟩⟩

namespace HardDisk.CdInstalled

variable {s : HardDisk}

/-- It stays when the controller changes, as long as the buffer has its size. -/
lemma modifyController (h : s.CdInstalled) {f : AtaController → AtaController}
    (hf : (f (s.controller 1)).buffer.size = (s.controller 1).buffer.size) :
    (s.modifyController 1 f).CdInstalled := by
  refine ⟨fun ch => ?_, (s.modifyDrive_dnum 1 _).trans h.selected, ?_, ?_⟩
  · rw [← h.ports ch]
    by_cases hch : ch = 1
    · subst hch
      simp [HardDisk.modifyController, HardDisk.modifyDrive, HardDisk.modifyDriveAt]
    · simp [HardDisk.modifyController, HardDisk.modifyDrive, HardDisk.modifyDriveAt,
        HardDisk.setChannel, hch]
  · rw [HardDisk.drive_modifyController]
    exact h.isCdRom
  · rw [HardDisk.controller_modifyController, hf]
    exact h.allocated

lemma call (h : s.CdInstalled) (c : HardDiskCall) : (s.call c).CdInstalled :=
  ⟨h.ports, h.selected, h.isCdRom, h.allocated⟩

lemma lowerIrq (h : s.CdInstalled) : (hardDiskLowerIrq 1 s).CdInstalled :=
  ⟨h.ports, h.selected, h.isCdRom, h.allocated⟩

lemma raiseInterrupt (h : s.CdInstalled) : (hardDiskRaiseInterrupt 1 s).CdInstalled := by
  unfold hardDiskRaiseInterrupt
  split
  · exact (h.call _).call _
  · exact h

variable (h : s.CdInstalled)

include h

/-- The addresses of channel 1 are decoded to it. -/
lemma decode_eq {address port : BitVec 32}
    (haddress : (address, port) ∈ [(0x170, 0), (0x177, 7), (0x376, (0x16 : BitVec 32))]) :
    s.decode address = (1, port) := by
  have hfirst : (s.channel 0).ioAddr1 = 0x1f0 ∧ (s.channel 0).ioAddr2 = 0x3f0 :=
    Prod.mk.inj (h.ports 0)
  have hsecond : (s.channel 1).ioAddr1 = 0x170 ∧ (s.channel 1).ioAddr2 = 0x370 :=
    Prod.mk.inj (h.ports 1)
  simp only [List.mem_cons, Prod.mk.injEq, List.not_mem_nil, or_false] at haddress
  rcases haddress with ⟨rfl, rfl⟩ | ⟨rfl, rfl⟩ | ⟨rfl, rfl⟩
  · simp [HardDisk.decode, hfirst.1, hfirst.2, hsecond.1]
  · simp [HardDisk.decode, hfirst.1, hfirst.2, hsecond.1]
  · simp [HardDisk.decode, hfirst.1, hfirst.2, hsecond.1, hsecond.2]

lemma write_command (value length : BitVec 32) :
    hardDiskPortIoWriteHandler 0x177 value length s = hardDiskWriteCommandRegister 1 value s := by
  unfold hardDiskPortIoWriteHandler
  rw [h.decode_eq (by decide : ((0x177 : BitVec 32), (7 : BitVec 32)) ∈ _)]
  rfl

lemma write_data (value length : BitVec 32) :
    hardDiskPortIoWriteHandler 0x170 value length s = hardDiskWriteDataPort 1 value length s := by
  unfold hardDiskPortIoWriteHandler
  rw [h.decode_eq (by decide : ((0x170 : BitVec 32), (0 : BitVec 32)) ∈ _)]
  rfl

lemma read_data (length : BitVec 32) :
    hardDiskPortIoReadHandler 0x170 length s = hardDiskReadDataPort 1 length s := by
  unfold hardDiskPortIoReadHandler
  rw [h.decode_eq (by decide : ((0x170 : BitVec 32), (0 : BitVec 32)) ∈ _)]
  rfl

lemma read_status (length : BitVec 32) :
    hardDiskPortIoReadHandler 0x177 length s =
      .ok (hardDiskLowerIrq 1 s, (s.controller 1).status.setWidth 32) := by
  have hpresent : (s.drive 1).driveType ≠ .none := by simp [h.isCdRom]
  unfold hardDiskPortIoReadHandler
  rw [h.decode_eq (by decide : ((0x177 : BitVec 32), (7 : BitVec 32)) ∈ _)]
  simp [hpresent]

lemma read_alternate_status (length : BitVec 32) :
    hardDiskPortIoReadHandler 0x376 length s =
      .ok (s.modifyController 1 AtaController.alternateStatus,
        (s.controller 1).alternateStatus.status.setWidth 32) := by
  have hpresent : (s.drive 1).driveType ≠ .none := by simp [h.isCdRom]
  unfold hardDiskPortIoReadHandler
  rw [h.decode_eq (by decide : ((0x376 : BitVec 32), (0x16 : BitVec 32)) ∈ _)]
  simp [hpresent]

end HardDisk.CdInstalled

/-! ## The blocks of an answer -/

/-- An answer: how many bytes it has, how many a block may have, and the bytes, with what an access
that runs over the end gives. -/
structure PacketAnswer where
  total : ℕ
  limit : ℕ
  stream : ℕ → BitVec 8

/-- There are bytes, and every block but the last can be read to its end in accesses of a width. -/
structure PacketAnswer.Divided (a : PacketAnswer) (width : ℕ) : Prop where
  positive : 0 < a.total
  limited : 0 < a.limit
  whole : width ∣ a.limit ∨ a.total ≤ a.limit

instance (a : PacketAnswer) (width : ℕ) : Decidable (a.Divided width) :=
  decidable_of_iff (0 < a.total ∧ 0 < a.limit ∧ (width ∣ a.limit ∨ a.total ≤ a.limit))
    ⟨fun h => ⟨h.1, h.2.1, h.2.2⟩, fun h => ⟨h.positive, h.limited, h.whole⟩⟩

/-- The bytes that accesses of a width give, up to the one that gives the last byte. -/
def PacketAnswer.readable (a : PacketAnswer) (width : ℕ) : ℕ :=
  (a.total + width - 1) / width * width

/-- The counters at a position of the answer: the block starts at `start`, and its length has been
announced. -/
structure PacketAnswer.Counting (a : PacketAnswer) (width start p : ℕ) (c : AtaController) :
    Prop where
  requested : c.hasStatus ideStatusDevReq = true
  position : start + c.drqIndex.toNat = p
  remaining : start + c.atapi.totalBytesRemaining.toNat = a.total
  announced : c.atapi.drqBytes.toNat = min a.limit (a.total - start)
  cylinder : c.cylinderNumber.toNat = min a.limit (a.total - start)
  unread : c.drqIndex.toNat < c.atapi.drqBytes.toNat
  startAligned : width ∣ start
  indexAligned : width ∣ c.drqIndex.toNat

namespace PacketAnswer

variable {a : PacketAnswer} {width start p : ℕ} {c : AtaController}

lemma Counting.position_lt (h : a.Counting width start p c) : p < a.total := by
  have h1 := h.position
  have h2 := h.unread
  have h3 := h.announced
  omega

lemma Counting.aligned (h : a.Counting width start p c) : width ∣ p := by
  rw [← h.position]
  exact Nat.dvd_add h.startAligned h.indexAligned

/-- The next aligned position after the last byte. -/
lemma readable_eq {q : ℕ} (hw : 0 < width) (haligned : width ∣ q) (hlt : q < a.total)
    (hle : a.total ≤ q + width) : a.readable width = q + width := by
  obtain ⟨k, rfl⟩ := haligned
  have hdiv : (a.total + width - 1) / width = k + 1 := by
    apply Nat.div_eq_of_lt_le
    · rw [Nat.mul_comm, Nat.mul_add, Nat.mul_one]
      omega
    · rw [Nat.mul_comm, Nat.mul_add, Nat.mul_add]
      omega
  rw [readable, hdiv, Nat.mul_comm, Nat.mul_add, Nat.mul_one]

lemma le_readable (hw : 0 < width) : a.total ≤ a.readable width := by
  have hdiv := Nat.div_add_mod (a.total + width - 1) width
  have hmod := Nat.mod_lt (a.total + width - 1) hw
  rw [readable, Nat.mul_comm]
  omega

end PacketAnswer

/-! ## The end of a block -/

namespace AtaController

variable (c : AtaController)

/-- The registers when a block has been read. -/
def blockTaken : AtaController :=
  { c with
    status := Word.clear c.status ideStatusDevReq
    drqIndex := 0
    atapi := { c.atapi with
      totalBytesRemaining := c.atapi.totalBytesRemaining - c.atapi.drqBytes } }

/-- The registers when the next block is offered. -/
def blockOffered : AtaController :=
  ((c.clearStatus ideStatusBusy).setStatus ideStatusDevReq).setInterruptReason false true

/-- The length of the next block: that of the one before, unless fewer bytes are left. -/
def shortened : AtaController :=
  if c.atapi.totalBytesRemaining < c.cylinderNumber.setWidth 32 then
    { c with cylinderNumber := c.atapi.totalBytesRemaining.setWidth 16 } else c

/-- The length of a block is announced. -/
def announced : AtaController :=
  { c with atapi := { c.atapi with drqBytes := c.cylinderNumber.setWidth 32 } }

/-- The registers when the command is over. -/
def packetOver : AtaController :=
  let c := (c.setInterruptReason true true).clearInterruptRel
  (((c.setStatus ideStatusDriveRdy).clearStatus ideStatusBusy).clearStatus
    ideStatusDevReq).clearStatus ideStatusError

/-- The end of a block, by whether bytes are left. -/
lemma endOfDrq_eq : c.endOfDrq =
    if 0 < c.blockTaken.atapi.totalBytesRemaining then c.blockTaken.blockOffered.shortened.announced
    else c.blockTaken.packetOver := rfl

lemma hasStatus_blockOffered : c.blockOffered.hasStatus ideStatusDevReq = true := by
  show Word.has (Word.set _ ideStatusDevReq) ideStatusDevReq = true
  rw [Word.has_set]
  exact Bool.or_true _

lemma hasStatus_packetOver : c.packetOver.hasStatus ideStatusDevReq = false := by
  show Word.has (Word.clear (Word.clear _ ideStatusDevReq) ideStatusError) ideStatusDevReq = false
  rw [Word.has_clear, Word.has_clear, decide_eq_true rfl, Bool.not_true, Bool.and_false,
    Bool.false_and]

lemma shortened_cylinder :
    c.shortened.cylinderNumber.toNat =
      min c.cylinderNumber.toNat c.atapi.totalBytesRemaining.toNat := by
  have hcylinder := c.cylinderNumber.isLt
  unfold shortened
  simp only [BitVec.lt_def, BitVec.toNat_setWidth]
  split
  · show (c.atapi.totalBytesRemaining.setWidth 16).toNat = _
    rw [BitVec.toNat_setWidth]
    omega
  · omega

lemma shortened_same : c.shortened.status = c.status ∧ c.shortened.drqIndex = c.drqIndex ∧
    c.shortened.atapi = c.atapi := by
  unfold shortened
  split
  · exact ⟨rfl, rfl, rfl⟩
  · exact ⟨rfl, rfl, rfl⟩

end AtaController

/-! ## The counters -/

namespace PacketAnswer

variable {a : PacketAnswer} {width start p : ℕ} {c c' : AtaController}

/-- The counters after an access that leaves bytes in the block. -/
lemma Counting.within (h : a.Counting width start p c)
    (hindex : c'.drqIndex.toNat = c.drqIndex.toNat + width) (hstatus : c'.status = c.status)
    (hcylinder : c'.cylinderNumber = c.cylinderNumber) (hatapi : c'.atapi = c.atapi)
    (hmore : ¬ c'.atapi.drqBytes ≤ c'.drqIndex) : a.Counting width start (p + width) c' := by
  refine ⟨?_, ?_, ?_, ?_, ?_, BitVec.not_le.mp hmore, h.startAligned, ?_⟩
  · rw [AtaController.hasStatus, hstatus]
    exact h.requested
  · rw [hindex, ← Nat.add_assoc, h.position]
  · rw [hatapi]
    exact h.remaining
  · rw [hatapi]
    exact h.announced
  · rw [hcylinder]
    exact h.cylinder
  · rw [hindex]
    exact Nat.dvd_add h.indexAligned (Nat.dvd_refl width)

/-- An access that comes to the end of its block leads to the start of the next one, or it has given
the last byte. -/
lemma Counting.endOfDrq (h : a.Counting width start p c) (ha : a.Divided width) (hw : 0 < width)
    (hindex : c'.drqIndex.toNat = c.drqIndex.toNat + width)
    (hcylinder : c'.cylinderNumber = c.cylinderNumber) (hatapi : c'.atapi = c.atapi)
    (hend : c'.atapi.drqBytes ≤ c'.drqIndex) :
    (∃ start', a.Counting width start' (p + width) c'.endOfDrq) ∨
      p + width = a.readable width ∧ c'.endOfDrq.hasStatus ideStatusDevReq = false := by
  have hposition := h.position
  have hremaining := h.remaining
  have hannounced := h.announced
  have hunread := h.unread
  have hpositive := ha.positive
  have hlimited := ha.limited
  have hlt := h.position_lt
  have hreached : c.atapi.drqBytes.toNat ≤ c.drqIndex.toNat + width := by
    rw [← hindex, ← hatapi]
    exact hend
  have htaken : c'.blockTaken.atapi.totalBytesRemaining.toNat =
      c.atapi.totalBytesRemaining.toNat - c.atapi.drqBytes.toNat := by
    show (c'.atapi.totalBytesRemaining - c'.atapi.drqBytes).toNat = _
    rw [hatapi, BitVec.toNat_sub]
    have hword := c.atapi.totalBytesRemaining.isLt
    omega
  rw [c'.endOfDrq_eq]
  by_cases hmore : 0 < c'.blockTaken.atapi.totalBytesRemaining
  · -- the block was not the last, so that it was a whole number of accesses
    have hmore' : 0 < c'.blockTaken.atapi.totalBytesRemaining.toNat := hmore
    have hblock : c.atapi.drqBytes.toNat = a.limit := by omega
    have hdvd : width ∣ a.limit := ha.whole.resolve_right (by omega)
    have hfull : c.drqIndex.toNat + width = a.limit := by
      have hleft : width ≤ a.limit - c.drqIndex.toNat :=
        Nat.le_of_dvd (by omega) (Nat.dvd_sub hdvd h.indexAligned)
      omega
    obtain ⟨hstatus, hdrq, hcounters⟩ := c'.blockTaken.blockOffered.shortened_same
    have hlength : c'.blockTaken.blockOffered.shortened.cylinderNumber.toNat =
        min a.limit (a.total - (start + a.limit)) := by
      rw [AtaController.shortened_cylinder]
      show min c'.cylinderNumber.toNat c'.blockTaken.atapi.totalBytesRemaining.toNat = _
      have hwhole := h.cylinder
      rw [hcylinder, htaken]
      omega
    have hword := c'.blockTaken.blockOffered.shortened.cylinderNumber.isLt
    have hannounced' : (c'.blockTaken.blockOffered.shortened.cylinderNumber.setWidth 32).toNat =
        min a.limit (a.total - (start + a.limit)) := by
      rw [BitVec.toNat_setWidth, hlength]
      omega
    have hzero : c'.blockTaken.blockOffered.shortened.drqIndex.toNat = 0 := by
      rw [hdrq]
      rfl
    rw [if_pos hmore]
    refine Or.inl ⟨start + a.limit, ?_, ?_, ?_, hannounced', hlength, ?_, ?_, ?_⟩
    · show Word.has c'.blockTaken.blockOffered.shortened.status ideStatusDevReq = true
      rw [hstatus]
      exact c'.blockTaken.hasStatus_blockOffered
    · show start + a.limit + c'.blockTaken.blockOffered.shortened.drqIndex.toNat = p + width
      omega
    · show start + a.limit +
        c'.blockTaken.blockOffered.shortened.atapi.totalBytesRemaining.toNat = _
      rw [hcounters]
      show start + a.limit + c'.blockTaken.atapi.totalBytesRemaining.toNat = _
      omega
    · show c'.blockTaken.blockOffered.shortened.drqIndex.toNat <
        (c'.blockTaken.blockOffered.shortened.cylinderNumber.setWidth 32).toNat
      omega
    · exact Nat.dvd_add h.startAligned hdvd
    · show width ∣ c'.blockTaken.blockOffered.shortened.drqIndex.toNat
      rw [hzero]
      exact Nat.dvd_zero width
  · have hnone : c'.blockTaken.atapi.totalBytesRemaining.toNat = 0 :=
      Nat.eq_zero_of_not_pos hmore
    rw [if_neg hmore]
    refine Or.inr ⟨(readable_eq hw h.aligned hlt ?_).symm, c'.blockTaken.hasStatus_packetOver⟩
    omega

end PacketAnswer

/-! ## Where the bytes come from -/

/-- What the next bytes are taken from. -/
structure PacketSource where
  buffer : AtaBuffer
  bufferSize : BitVec 32
  bufferIndex : BitVec 32
  lbAddress : BitVec 32
  command : BitVec 8

namespace AtaController

variable (c : AtaController)

def source : PacketSource where
  buffer := c.buffer
  bufferSize := c.bufferSize
  bufferIndex := c.bufferIndex
  lbAddress := c.lbAddress
  command := c.atapi.atapiCommand

/-- The controller with another source. -/
def refilled (buffer : AtaBuffer) (bufferIndex lbAddress remainingBlocks : BitVec 32) :
    AtaController :=
  { c with
    buffer := buffer
    bufferIndex := bufferIndex
    lbAddress := lbAddress
    remainingBlocks := remainingBlocks }

/-- `Controller.BufferIndex += Length` and `Controller.DrqIndex += Length`. -/
def taken (length : BitVec 32) : AtaController :=
  { c with bufferIndex := c.bufferIndex + length, drqIndex := c.drqIndex + length }

lemma source_announced : c.announced.source = c.source := rfl

lemma source_shortened : c.shortened.source = c.source := by
  unfold shortened
  split
  · rfl
  · rfl

lemma source_blockOffered : c.blockOffered.source = c.source := rfl

lemma source_packetOver : c.packetOver.source = c.source := rfl

lemma source_endOfDrq : c.endOfDrq.source = c.source := by
  rw [endOfDrq_eq]
  split
  · rw [source_announced, source_shortened, source_blockOffered]
    rfl
  · rw [source_packetOver]
    rfl

lemma currentCommand_shortened : c.shortened.currentCommand = c.currentCommand := by
  unfold shortened
  split
  · rfl
  · rfl

lemma currentCommand_endOfDrq : c.endOfDrq.currentCommand = c.currentCommand := by
  rw [endOfDrq_eq]
  split
  · exact c.blockTaken.blockOffered.currentCommand_shortened
  · rfl

/-- The index pulse is all that a read of the alternate status changes. -/
lemma alternateStatus_same : c.alternateStatus.source = c.source ∧
    c.alternateStatus.currentCommand = c.currentCommand ∧
    c.alternateStatus.drqIndex = c.drqIndex ∧ c.alternateStatus.atapi = c.atapi ∧
    c.alternateStatus.cylinderNumber = c.cylinderNumber ∧
    c.alternateStatus.hasStatus ideStatusDevReq = c.hasStatus ideStatusDevReq := by
  have hset (x : BitVec 8) : Word.has (Word.set x ideStatusIndexPulse) ideStatusDevReq =
      Word.has x ideStatusDevReq := by
    rw [Word.has_set]
    exact Bool.or_false _
  have hclear (x : BitVec 8) : Word.has (Word.clear x ideStatusIndexPulse) ideStatusDevReq =
      Word.has x ideStatusDevReq := by
    rw [Word.has_clear]
    exact Bool.and_true _
  unfold alternateStatus
  extract_lets c₁ c₂
  split
  · exact ⟨rfl, rfl, rfl, rfl, rfl, (hset _).trans (hclear _)⟩
  · exact ⟨rfl, rfl, rfl, rfl, rfl, hclear _⟩

end AtaController

namespace PacketAnswer

/-- From every source at an aligned position before the end, the next access gives the bytes that
come next and leaves a source at the position after them. -/
def Supplied (a : PacketAnswer) (cdRom : CdRom) (length : BitVec 32)
    (At : ℕ → PacketSource → Prop) : Prop :=
  ∀ p c, At p c.source → p < a.total → length.toNat ∣ p →
    ∃ buffer bufferIndex lbAddress remainingBlocks,
      hardDiskNextBlock cdRom c =
        .ok (c.refilled buffer bufferIndex lbAddress remainingBlocks) ∧
      buffer.size = c.buffer.size ∧ bufferIndex ≤ c.bufferSize ∧
      buffer.load bufferIndex.toNat length =
        .ok (littleEndian (fun j => a.stream (p + j)) length.toNat) ∧
      At (p + length.toNat) { c.source with
        buffer := buffer, bufferIndex := bufferIndex + length, lbAddress := lbAddress }

/-- The drive is at a position of the answer. -/
structure Answering (a : PacketAnswer) (cdRom : CdRom) (width : ℕ) (At : ℕ → PacketSource → Prop)
    (p : ℕ) (s : HardDisk) : Prop where
  installed : s.CdInstalled
  sameCdRom : s.cdRom = cdRom
  packet : (s.controller 1).currentCommand = ideCommandAtapiPacket
  counting : ∃ start, a.Counting width start p (s.controller 1)
  source : At p (s.controller 1).source

/-- The drive has answered. -/
structure Answered (s : HardDisk) : Prop where
  installed : s.CdInstalled
  released : (s.controller 1).hasStatus ideStatusDevReq = false

section Read

variable {a : PacketAnswer} {cdRom : CdRom} {length : BitVec 32} {At : ℕ → PacketSource → Prop}
  {p : ℕ} {s : HardDisk}

/-- A read of the data port gives the next bytes. -/
lemma Answering.read (h : a.Answering cdRom length.toNat At p s) (ha : a.Divided length.toNat)
    (hw : length ∈ portWidths) (hsupplied : a.Supplied cdRom length At) :
    ∃ u, hardDiskPortIoReadHandler 0x170 length s =
        .ok (u, littleEndian (fun j => a.stream (p + j)) length.toNat) ∧
      (p + length.toNat < a.readable length.toNat ∧
          a.Answering cdRom length.toNat At (p + length.toNat) u ∨
        p + length.toNat = a.readable length.toNat ∧ Answered u) := by
  obtain ⟨start, hcounting⟩ := h.counting
  obtain ⟨-, hpos, hsmall, -⟩ := accessLength_of_width hw
  obtain ⟨buffer, bufferIndex, lbAddress, remainingBlocks, hnext, hsize, hbounds, hload, hat⟩ :=
    hsupplied p (s.controller 1) h.source hcounting.position_lt hcounting.aligned
  set c := (s.controller 1).refilled buffer bufferIndex lbAddress remainingBlocks
  have hrequested := hcounting.requested
  have hindex : (c.taken length).drqIndex.toNat =
      (s.controller 1).drqIndex.toNat + length.toNat := by
    have hunread := hcounting.unread
    have hannounced := hcounting.cylinder.trans hcounting.announced.symm
    have hword := (s.controller 1).cylinderNumber.isLt
    show ((s.controller 1).drqIndex + length).toNat = _
    rw [BitVec.toNat_add]
    omega
  have hread : hardDiskPortIoReadHandler 0x170 length s =
      if (c.taken length).atapi.drqBytes ≤ (c.taken length).drqIndex then
        .ok (hardDiskRaiseInterrupt 1 (s.modifyController 1 fun _ => (c.taken length).endOfDrq),
          littleEndian (fun j => a.stream (p + j)) length.toNat)
      else .ok (s.modifyController 1 fun _ => c.taken length,
        littleEndian (fun j => a.stream (p + j)) length.toNat) := by
    rw [h.installed.read_data, hardDiskReadDataPort]
    simp only [hrequested, h.packet, Bool.not_true]
    rw [if_neg Bool.false_ne_true, if_neg (by decide), if_neg (by decide), if_pos trivial,
      hardDiskReadReply, h.sameCdRom, hnext, ok_bind]
    have hinside : ¬ c.bufferSize < c.bufferIndex := BitVec.not_lt.mpr hbounds
    have hload' : c.buffer.load c.bufferIndex.toNat length = _ := hload
    rw [if_neg hinside, hload']
    rfl
  rw [hread]
  by_cases hend : (c.taken length).atapi.drqBytes ≤ (c.taken length).drqIndex
  · rw [if_pos hend]
    have hcontroller : (hardDiskRaiseInterrupt 1
        (s.modifyController 1 fun _ => (c.taken length).endOfDrq)).controller 1 =
          (c.taken length).endOfDrq := by
      rw [HardDisk.controller_eq_drive, drive_raiseInterrupt, ← HardDisk.controller_eq_drive,
        HardDisk.controller_modifyController]
    have hinstalled : (hardDiskRaiseInterrupt 1
        (s.modifyController 1 fun _ => (c.taken length).endOfDrq)).CdInstalled := by
      refine (h.installed.modifyController ?_).raiseInterrupt
      have hsource := congrArg (fun source => source.buffer.size) (c.taken length).source_endOfDrq
      exact hsource.trans hsize
    refine ⟨_, rfl, ?_⟩
    rcases hcounting.endOfDrq ha hpos hindex rfl rfl hend with ⟨start', hnew⟩ | ⟨hlast, hreleased⟩
    · refine Or.inl ⟨hnew.position_lt.trans_le (le_readable hpos), hinstalled, ?_, ?_,
        ⟨start', ?_⟩, ?_⟩
      · rw [← h.sameCdRom]
        unfold hardDiskRaiseInterrupt
        split <;> rfl
      · rw [hcontroller, AtaController.currentCommand_endOfDrq]
        exact h.packet
      · rw [hcontroller]
        exact hnew
      · rw [hcontroller, AtaController.source_endOfDrq]
        exact hat
    · refine Or.inr ⟨hlast, hinstalled, ?_⟩
      rw [hcontroller]
      exact hreleased
  · rw [if_neg hend]
    have hcontroller : (s.modifyController 1 fun _ => c.taken length).controller 1 =
        c.taken length := HardDisk.controller_modifyController ..
    have hnew := hcounting.within hindex rfl rfl rfl hend
    refine ⟨_, rfl, Or.inl ⟨hnew.position_lt.trans_le (le_readable hpos),
      h.installed.modifyController hsize, h.sameCdRom, ?_, ⟨start, ?_⟩, ?_⟩⟩
    · rw [hcontroller]
      exact h.packet
    · rw [hcontroller]
      exact hnew
    · rw [hcontroller]
      exact hat

/-- A read of a status register leaves the answer where it is. -/
lemma Answering.statusRead (h : a.Answering cdRom length.toNat At p s) :
    a.Answering cdRom length.toNat At p (hardDiskLowerIrq 1 s) :=
  ⟨h.installed.lowerIrq, h.sameCdRom, h.packet, h.counting, h.source⟩

lemma Answering.alternateRead (h : a.Answering cdRom length.toNat At p s) :
    a.Answering cdRom length.toNat At p (s.modifyController 1 AtaController.alternateStatus) := by
  obtain ⟨start, hcounting⟩ := h.counting
  obtain ⟨hsource, hcommand, hindex, hatapi, hcylinder, hrequest⟩ :=
    (s.controller 1).alternateStatus_same
  have hcontroller := HardDisk.controller_modifyController 1 s AtaController.alternateStatus
  refine ⟨h.installed.modifyController (congrArg (fun source => source.buffer.size) hsource),
    h.sameCdRom, ?_, ⟨start, ?_⟩, ?_⟩
  · rw [hcontroller, hcommand]
    exact h.packet
  · rw [hcontroller]
    refine ⟨hrequest.trans hcounting.requested, ?_, ?_, ?_, ?_, ?_, hcounting.startAligned, ?_⟩
    · rw [hindex]
      exact hcounting.position
    · rw [hatapi]
      exact hcounting.remaining
    · rw [hatapi]
      exact hcounting.announced
    · rw [hcylinder]
      exact hcounting.cylinder
    · rw [hindex, hatapi]
      exact hcounting.unread
    · rw [hindex]
      exact hcounting.indexAligned
  · rw [hcontroller, hsource]
    exact h.source

end Read

end PacketAnswer

/-! ## Runs of reads -/

/-- A read of the CD-ROM drive, and the bytes of the data port that it gives. -/
def cdRead (width : BitVec 32) (s : HardDisk) :
    PioRead → HardDiskOutcome (HardDisk × List (BitVec 8))
  | .data => do
      let (s, value) ← hardDiskPortIoReadHandler 0x170 width s
      return (s, bytesOf value width.toNat)
  | .status length => do
      let (s, _) ← hardDiskPortIoReadHandler 0x177 length s
      return (s, [])
  | .alternateStatus length => do
      let (s, _) ← hardDiskPortIoReadHandler 0x376 length s
      return (s, [])

lemma cdRead_length {width : BitVec 32} (s : HardDisk) (r : PioRead) (s' : HardDisk)
    (piece : List (BitVec 8)) (h : cdRead width s r = .ok (s', piece)) :
    piece.length = r.size width.toNat := by
  cases r with
  | data =>
      obtain ⟨⟨u, value⟩, -, hpiece⟩ := bind_eq_ok.mp h
      obtain ⟨-, rfl⟩ := Prod.mk.inj (Except.ok.inj hpiece)
      exact bytesOf_length value width.toNat
  | status length =>
      obtain ⟨⟨u, value⟩, -, hpiece⟩ := bind_eq_ok.mp h
      obtain ⟨-, rfl⟩ := Prod.mk.inj (Except.ok.inj hpiece)
      rfl
  | alternateStatus length =>
      obtain ⟨⟨u, value⟩, -, hpiece⟩ := bind_eq_ok.mp h
      obtain ⟨-, rfl⟩ := Prod.mk.inj (Except.ok.inj hpiece)
      rfl

namespace PacketAnswer

/-- A drive that has answered gives zeros, and stays so. -/
lemma Answered.cdRead {s : HardDisk} (h : Answered s) (width : BitVec 32) (r : PioRead) :
    ∃ u piece, Svmm.cdRead width s r = .ok (u, piece) ∧ Answered u := by
  cases r with
  | data =>
      refine ⟨s, bytesOf 0 width.toNat, ?_, h⟩
      rw [Svmm.cdRead, h.installed.read_data, hardDiskReadDataPort]
      simp only [h.released, Bool.not_false, if_true]
      rfl
  | status length =>
      refine ⟨hardDiskLowerIrq 1 s, [], ?_, h.installed.lowerIrq, h.released⟩
      rw [Svmm.cdRead, h.installed.read_status, ok_bind]
      rfl
  | alternateStatus length =>
      obtain ⟨hsource, -, -, -, -, hrequest⟩ := (s.controller 1).alternateStatus_same
      refine ⟨s.modifyController 1 AtaController.alternateStatus, [], ?_,
        h.installed.modifyController (congrArg (fun source => source.buffer.size) hsource), ?_⟩
      · rw [Svmm.cdRead, h.installed.read_alternate_status, ok_bind]
        rfl
      · rw [HardDisk.controller_modifyController, hrequest]
        exact h.released

variable {a : PacketAnswer} {cdRom : CdRom} {width : BitVec 32} {At : ℕ → PacketSource → Prop}

/-- No read leaves the answer or stops the program. -/
lemma follows (ha : a.Divided width.toNat) (hw : width ∈ portWidths)
    (hsupplied : a.Supplied cdRom width At) :
    Follows (cdRead width) a.stream (a.readable width.toNat)
      (a.Answering cdRom width.toNat At) Answered := by
  obtain ⟨-, hpos, hsmall, -⟩ := accessLength_of_width hw
  refine ⟨?_, fun s r h => h.cdRead width r⟩
  intro p s r h
  obtain ⟨start, hcounting⟩ := h.counting
  have hlt : p < a.readable width.toNat := hcounting.position_lt.trans_le (le_readable hpos)
  cases r with
  | data =>
      obtain ⟨u, hread, hnext⟩ := h.read ha hw hsupplied
      refine ⟨u, width.toNat, ?_, hnext⟩
      rw [cdRead, hread, ok_bind, ← bytesOf_littleEndian _ hsmall]
      rfl
  | status length =>
      refine ⟨hardDiskLowerIrq 1 s, 0, ?_, Or.inl ⟨hlt, h.statusRead⟩⟩
      rw [cdRead, h.installed.read_status, ok_bind]
      rfl
  | alternateStatus length =>
      refine ⟨s.modifyController 1 AtaController.alternateStatus, 0, ?_,
        Or.inl ⟨hlt, h.alternateRead⟩⟩
      rw [cdRead, h.installed.read_alternate_status, ok_bind]
      rfl

/-- Every run of reads of a drive that starts to answer gives the bytes of the answer, in order; the
data request stays until the last of them and is gone after it; and nothing stops the program. -/
lemma delivers {s : HardDisk} (h : a.Answering cdRom width.toNat At 0 s)
    (ha : a.Divided width.toNat) (hw : width ∈ portWidths) (hsupplied : a.Supplied cdRom width At)
    (reads : List PioRead) :
    ∃ σ, TransitionRun.run (sessionStep (cdRead width)) ⟨s, []⟩ reads = .ok σ ∧
      σ.received.length = width.toNat * reads.count .data ∧
      σ.received.take a.total = (prefixOf a.stream a.total).take σ.received.length ∧
      ((σ.device.controller 1).hasStatus ideStatusDevReq = true ↔
        σ.received.length < a.total) := by
  obtain ⟨-, hpos, -, -⟩ := accessLength_of_width hw
  have hle : a.total ≤ a.readable width.toNat := le_readable hpos
  have hstart : Delivering a.stream (a.readable width.toNat) (a.Answering cdRom width.toNat At)
      Answered ⟨s, []⟩ :=
    Or.inl ⟨0, Nat.lt_of_lt_of_le ha.positive hle, h, rfl⟩
  obtain ⟨σ, hrun, hσ⟩ := hstart.run (follows ha hw hsupplied) reads
  refine ⟨σ, hrun, ?_, ?_, ?_⟩
  · rw [received_length cdRead_length hrun, sum_sizes]
    exact Nat.zero_add _
  · have htake := congrArg (List.take a.total) hσ.take_received
    rw [List.take_take, Nat.min_eq_left hle, List.take_take, Nat.min_comm, ← List.take_take,
      take_prefixOf a.stream hle] at htake
    exact htake
  · rcases hσ.device with ⟨-, hat⟩ | ⟨hge, hdone⟩
    · obtain ⟨start, hcounting⟩ := hat.counting
      exact iff_of_true hcounting.requested hcounting.position_lt
    · exact iff_of_false (by rw [hdone.released]; exact Bool.false_ne_true)
        (Nat.not_lt.mpr (hle.trans hge))

end PacketAnswer

end Svmm
