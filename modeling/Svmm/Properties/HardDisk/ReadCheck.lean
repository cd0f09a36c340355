import Svmm.Construction.HardDisk.Atapi
import Svmm.Properties.HardDisk.Effects

/-!
# The range check of a read of blocks

A refused read is reported and then started all the same, as neither of the two refusals leaves the
switch: it overwrites the address and the counters of the transfer before it.  Of the reads that are
in range only those are accepted whose length in bytes passes a comparison with the capacity in
blocks.
-/

namespace Svmm

/-- What a read of blocks sets up, and what a refusal of it reports. -/
structure TransferState where
  lbAddress : BitVec 32
  remainingBlocks : BitVec 32
  bufferIndex : BitVec 32
  drqIndex : BitVec 32
  atapi : Atapi
  sense : SenseInfo
  errorRegister : BitVec 8

namespace AtaController

variable (c : AtaController)

/-- The controller with a transfer before. -/
def withTransfer (p : TransferState) : AtaController :=
  { c with
    lbAddress := p.lbAddress
    remainingBlocks := p.remainingBlocks
    bufferIndex := p.bufferIndex
    drqIndex := p.drqIndex
    atapi := p.atapi
    sense := p.sense
    errorRegister := p.errorRegister }

/-- The transfer length of the packet, by its command. -/
def readLength : BitVec 32 := if c.packet 0 = scsiopRead then c.read16 7 else c.read32 6

/-- The address of the packet. -/
def readAddress : BitVec 32 := c.read32 2

/-- What the guest is told of an error. -/
def reported : SenseInfo × BitVec 8 := (c.sense, c.errorRegister)

end AtaController

/-! ## The two answers -/

section Check

variable (ch : Fin 4) (s : HardDisk)

/-- The read is in range. -/
def CdReadInRange : Prop :=
  0 < (s.controller ch).readLength.toNat ∧
    (s.controller ch).readAddress.toNat + (s.controller ch).readLength.toNat ≤
      s.cdRom.capacity.toNat

/-- The read is set up, and nothing is reported. -/
def CdReadAccepted (p : TransferState) (c : AtaController) : Prop :=
  c.lbAddress = (s.controller ch).readAddress ∧ c.remainingBlocks = (s.controller ch).readLength ∧
    c.reported = (p.sense, p.errorRegister)

/-- The read is reported as out of range, and the transfer is as it was. -/
def CdReadRefused (p : TransferState) (c : AtaController) : Prop :=
  c.sense.senseKey = ideSenseIllegalRequest ∧ c.sense.asc = ideAscLogicalBlockOor ∧
    c.lbAddress = p.lbAddress ∧ c.remainingBlocks = p.remainingBlocks ∧
    c.bufferIndex = p.bufferIndex ∧ c.drqIndex = p.drqIndex ∧ c.atapi = p.atapi

/-- Whatever the transfer before was, a read in range is accepted, and any other one is refused. -/
def CdReadChecked : Prop :=
  ∀ p, ∃ t, hardDiskPacket ch (s.modifyController ch (AtaController.withTransfer · p)) = .ok t ∧
    (CdReadInRange ch s → CdReadAccepted ch s p (t.controller ch)) ∧
    (¬ CdReadInRange ch s → CdReadRefused p (t.controller ch))

/-- The length in bytes, as the check computes it. -/
def readBytes : ℕ := (s.controller ch).readLength.toNat * 2048 % 2 ^ 32

/-- The read is in range, its length in bytes is not below that in blocks and is below the capacity
in blocks, and no sum with the address is cut off. -/
def CdReadFits : Prop :=
  CdReadInRange ch s ∧ (s.controller ch).readLength.toNat ≤ readBytes ch s ∧
    readBytes ch s < s.cdRom.capacity.toNat ∧
    (s.controller ch).readAddress.toNat + (s.controller ch).readLength.toNat < 2 ^ 32 ∧
    (s.controller ch).readAddress.toNat + readBytes ch s < 2 ^ 32

end Check

/-! ## What the code does -/

/-- The six comparisons of the check. -/
def CdReadRefusal (last : BitVec 64) (temp length : BitVec 32) : Prop :=
  length * 2048 < length ∨ last < (length * 2048).setWidth 64 ∨ last < temp.setWidth 64 ∨
    temp + length < temp ∨ temp + length - 1 < temp ∨ length * 2048 + temp < temp

instance (last : BitVec 64) (temp length : BitVec 32) :
    Decidable (CdReadRefusal last temp length) :=
  inferInstanceAs (Decidable (_ ∨ _))

/-- The length that a read is started with. -/
def startedBlocks (last : BitVec 64) (temp length : BitVec 32) : BitVec 32 :=
  if last < temp.setWidth 64 + length.setWidth 64 - 1 then (last - temp.setWidth 64 + 1).setWidth 32
  else length

/-- The length that the code takes from the packet. -/
def AtaController.takenLength (c : AtaController) (command : BitVec 8) : BitVec 32 :=
  let short := if command = scsiopRead then c.read16 7 else 0
  if short = 0 then c.read32 6 else short

section Reported

variable (c : AtaController)

lemma reported_setStatus (b : ℕ) : (c.setStatus b).reported = c.reported := rfl
lemma reported_clearStatus (b : ℕ) : (c.clearStatus b).reported = c.reported := rfl
lemma reported_clearInterruptRel : c.clearInterruptRel.reported = c.reported := rfl
lemma reported_setInterruptReason (commandData inputOutput : Bool) :
    (c.setInterruptReason commandData inputOutput).reported = c.reported := rfl

lemma reported_indices :
    AtaController.reported { c with bufferIndex := 0, drqIndex := 0 } = c.reported := rfl

lemma reported_atapi (atapi : Atapi) :
    AtaController.reported { c with atapi := atapi } = c.reported := rfl

lemma reported_cylinder (p : Prop) [Decidable p] (x : BitVec 16) :
    (if p then { c with cylinderNumber := x } else c).reported = c.reported := by
  split
  · rfl
  · rfl

lemma reported_atapiBusy :
    AtaController.reported { (((c.setStatus ideStatusBusy).setStatus ideStatusDriveRdy).clearStatus
      ideStatusDevReq).clearStatus ideStatusError with bufferIndex := 0, drqIndex := 0 } =
      c.reported := by
  rw [reported_indices]
  simp only [reported_setStatus, reported_clearStatus]

lemma reported_commandNop : c.commandNop.reported = c.reported := by
  simp only [AtaController.commandNop, reported_setStatus, reported_clearStatus,
    reported_setInterruptReason, reported_clearInterruptRel]

/-- A command that is set up leaves what was reported alone. -/
lemma reported_initAtapiCommand (command : BitVec 8) (req alloc : BitVec 32) :
    (c.initAtapiCommand command req alloc).reported = c.reported := by
  unfold AtaController.initAtapiCommand
  extract_lets c₁ a c₂ c₃ c₄ c₅
  have h₁ : c₁.reported = c.reported := reported_cylinder c _ _
  have h₃ : c₃.reported = c₁.reported := reported_atapiBusy c₁
  have h₄ : c₄.reported = c₃.reported := reported_cylinder c₃ _ _
  have h₅ : c₅.reported = c₄.reported := reported_cylinder c₄ _ _
  split
  · exact h₁
  · rw [reported_atapi, h₅, h₄, h₃, h₁]

end Reported

section Controllers

variable (ch : Fin 4) (s : HardDisk)

lemma controller_raiseInterrupt :
    (hardDiskRaiseInterrupt ch s).controller ch = s.controller ch := by
  rw [HardDisk.controller_eq_drive, drive_raiseInterrupt, HardDisk.controller_eq_drive]

lemma controller_nop : (hardDiskNop ch s).controller ch = (s.controller ch).commandNop := by
  rw [hardDiskNop, controller_raiseInterrupt, HardDisk.controller_modifyController]

lemma controller_atapiError (asc : BitVec 8) : (hardDiskAtapiError ch asc s).controller ch =
    (s.controller ch).atapiError ideSenseIllegalRequest asc := by
  rw [hardDiskAtapiError, controller_raiseInterrupt, HardDisk.controller_modifyController]

lemma controller_startBlocks (command : BitVec 8) (length blocks lbAddress : BitVec 32) :
    (hardDiskStartBlocks ch command length blocks lbAddress s).controller ch =
      { (s.controller ch).initAtapiCommand command length length with
        bufferIndex := ((s.controller ch).initAtapiCommand command length length).bufferSize
        lbAddress := lbAddress
        remainingBlocks := blocks } := HardDisk.controller_modifyController ..

lemma reported_startBlocks (command : BitVec 8) (length blocks lbAddress : BitVec 32) :
    ((hardDiskStartBlocks ch command length blocks lbAddress s).controller ch).reported =
      (s.controller ch).reported := by
  rw [controller_startBlocks]
  exact reported_initAtapiCommand (s.controller ch) command length length

end Controllers

section Blocks

variable {ch : Fin 4} {s : HardDisk}

variable (ch s) in
lemma hardDiskPacket_read (h : (s.controller ch).packet 0 = scsiopRead ∨
    (s.controller ch).packet 0 = scsiopRead12) :
    hardDiskPacket ch s = .ok (hardDiskReadBlocks ch ((s.controller ch).packet 0) s) := by
  unfold hardDiskPacket
  rcases h with h | h
  · simp only [h]
    rfl
  · simp only [h]
    rfl

/-- The controller with what a read of blocks reports on the way. -/
def reportedRead (ch : Fin 4) (command : BitVec 8) (s : HardDisk) : HardDisk :=
  if CdReadRefusal (s.cdRom.capacity - 1) (s.controller ch).readAddress
      ((s.controller ch).takenLength command) then hardDiskAtapiError ch ideAscLogicalBlockOor s
  else s

/-- The read is always set up, whether it was refused or not. -/
lemma hardDiskReadBlocks_eq (ch : Fin 4) (command : BitVec 8) (s : HardDisk) :
    let length := startedBlocks (s.cdRom.capacity - 1) (s.controller ch).readAddress
      ((s.controller ch).takenLength command)
    hardDiskReadBlocks ch command s =
      hardDiskStartBlocks ch command (length * 2048) length (s.controller ch).readAddress
        (if length = 0 ∨ s.cdRom.capacity - 1 < length.setWidth 64 then
          hardDiskNop ch (reportedRead ch command s) else reportedRead ch command s) := rfl

/-- A sense code and an error register that say that a block is out of range. -/
def outOfRange (sense : SenseInfo) : SenseInfo × BitVec 8 :=
  ({ sense with senseKey := ideSenseIllegalRequest, asc := ideAscLogicalBlockOor, ascq := 0 },
    ideSenseIllegalRequest <<< 4)

variable (ch s) in
/-- The registers after a read: the address is taken in any case. -/
lemma controller_readBlocks (command : BitVec 8) :
    ((hardDiskReadBlocks ch command s).controller ch).lbAddress = (s.controller ch).readAddress ∧
      ((hardDiskReadBlocks ch command s).controller ch).remainingBlocks =
        startedBlocks (s.cdRom.capacity - 1) (s.controller ch).readAddress
          ((s.controller ch).takenLength command) ∧
      ((hardDiskReadBlocks ch command s).controller ch).reported =
        if CdReadRefusal (s.cdRom.capacity - 1) (s.controller ch).readAddress
            ((s.controller ch).takenLength command) then outOfRange (s.controller ch).sense
        else (s.controller ch).reported := by
  have hreported : ((reportedRead ch command s).controller ch).reported =
      if CdReadRefusal (s.cdRom.capacity - 1) (s.controller ch).readAddress
          ((s.controller ch).takenLength command) then outOfRange (s.controller ch).sense
      else (s.controller ch).reported := by
    unfold reportedRead
    split_ifs
    · rw [controller_atapiError]
      rfl
    · rfl
  rw [hardDiskReadBlocks_eq, reported_startBlocks, controller_startBlocks, ← hreported]
  refine ⟨rfl, rfl, ?_⟩
  split
  · rw [controller_nop, reported_commandNop]
  · rfl

/-- A length of zero is the only one that is looked for in another place. -/
lemma takenLength_eq (c : AtaController) (h : c.packet 0 = scsiopRead ∨ c.packet 0 = scsiopRead12)
    (hpos : c.readLength ≠ 0) : c.takenLength (c.packet 0) = c.readLength := by
  unfold AtaController.takenLength AtaController.readLength at *
  rcases h with h | h
  · simp only [h, if_true] at hpos ⊢
    rw [if_neg hpos]
  · have hother : ¬ scsiopRead12 = scsiopRead := by decide
    simp only [h, if_neg hother, if_true]

/-- The comparisons of the check, for a read that is in range. -/
lemma not_cdReadRefusal_iff {capacity : BitVec 64} {temp length : BitVec 32}
    (hpos : 0 < length.toNat) (hrange : temp.toNat + length.toNat ≤ capacity.toNat) :
    ¬ CdReadRefusal (capacity - 1) temp length ↔
      length.toNat ≤ length.toNat * 2048 % 2 ^ 32 ∧
        length.toNat * 2048 % 2 ^ 32 < capacity.toNat ∧
        temp.toNat + length.toNat < 2 ^ 32 ∧
        temp.toNat + length.toNat * 2048 % 2 ^ 32 < 2 ^ 32 := by
  have hone : (1 : BitVec 64).toNat = 1 := rfl
  have hone' : (1 : BitVec 32).toNat = 1 := rfl
  have htimes : (2048 : BitVec 32).toNat = 2048 := rfl
  have hcapacity := capacity.isLt
  have htemp := temp.isLt
  have hlength := length.isLt
  unfold CdReadRefusal
  simp only [BitVec.lt_def, BitVec.toNat_add, BitVec.toNat_sub, BitVec.toNat_mul,
    BitVec.toNat_setWidth, hone, hone', htimes]
  omega

lemma startedBlocks_of_range {capacity : BitVec 64} {temp length : BitVec 32}
    (hpos : 0 < length.toNat) (hrange : temp.toNat + length.toNat ≤ capacity.toNat) :
    startedBlocks (capacity - 1) temp length = length := by
  have hone : (1 : BitVec 64).toNat = 1 := rfl
  have hcapacity := capacity.isLt
  have htemp := temp.isLt
  have hlength := length.isLt
  unfold startedBlocks
  refine if_neg ?_
  simp only [BitVec.lt_def, BitVec.toNat_add, BitVec.toNat_sub, BitVec.toNat_setWidth, hone]
  omega

end Blocks

/-- A transfer before, at another address and without an illegal request. -/
def otherTransfer (ch : Fin 4) (s : HardDisk) : TransferState where
  lbAddress := (s.controller ch).readAddress + 1
  remainingBlocks := 0
  bufferIndex := 0
  drqIndex := 0
  atapi := (s.controller ch).atapi
  sense := { (s.controller ch).sense with senseKey := 0 }
  errorRegister := 0

section After

variable {ch : Fin 4} {s : HardDisk}

/-- The registers that the read of a packet leaves, after any transfer. -/
lemma hardDiskPacket_after (h : (s.controller ch).packet 0 = scsiopRead ∨
    (s.controller ch).packet 0 = scsiopRead12) (p : TransferState) :
    ∃ t, hardDiskPacket ch (s.modifyController ch (AtaController.withTransfer · p)) = .ok t ∧
      (t.controller ch).lbAddress = (s.controller ch).readAddress ∧
      (t.controller ch).remainingBlocks =
        startedBlocks (s.cdRom.capacity - 1) (s.controller ch).readAddress
          ((s.controller ch).takenLength ((s.controller ch).packet 0)) ∧
      (t.controller ch).reported =
        if CdReadRefusal (s.cdRom.capacity - 1) (s.controller ch).readAddress
            ((s.controller ch).takenLength ((s.controller ch).packet 0)) then outOfRange p.sense
        else (p.sense, p.errorRegister) := by
  have hcontroller : (s.modifyController ch (AtaController.withTransfer · p)).controller ch =
      (s.controller ch).withTransfer p := HardDisk.controller_modifyController ..
  have hread := hardDiskPacket_read ch (s.modifyController ch (AtaController.withTransfer · p))
    (by rw [hcontroller]; exact h)
  obtain ⟨haddress, hblocks, hreported⟩ := controller_readBlocks ch
    (s.modifyController ch (AtaController.withTransfer · p)) ((s.controller ch).packet 0)
  rw [hcontroller] at hread haddress hblocks hreported
  exact ⟨_, hread, haddress, hblocks, hreported⟩

/-- A read that is out of range overwrites the address of the transfer before. -/
lemma not_cdReadChecked_of_out (h : (s.controller ch).packet 0 = scsiopRead ∨
    (s.controller ch).packet 0 = scsiopRead12) (hout : ¬ CdReadInRange ch s) :
    ¬ CdReadChecked ch s := by
  intro hchecked
  obtain ⟨t, ht, -, hrefused⟩ := hchecked (otherTransfer ch s)
  obtain ⟨t', ht', haddress, -⟩ := hardDiskPacket_after h (otherTransfer ch s)
  rw [ht'] at ht
  cases ht
  rw [(hrefused hout).2.2.1] at haddress
  have hnext : (s.controller ch).readAddress + 1 = (s.controller ch).readAddress := haddress
  have htoNat := congrArg BitVec.toNat hnext
  have hone : (1 : BitVec 32).toNat = 1 := rfl
  have hlt := (s.controller ch).readAddress.isLt
  rw [BitVec.toNat_add, hone] at htoNat
  omega

end After

/-- Whatever the transfer before was, a read is accepted when it is in range and refused when it is
not, exactly when it is in range, its length in bytes is not cut off below that in blocks and is
below the capacity in blocks, and neither the end of the range nor the sum of the address and the
length in bytes is cut off. -/
theorem cd_read_checked_iff (ch : Fin 4) (s : HardDisk)
    (h : (s.controller ch).packet 0 = scsiopRead ∨ (s.controller ch).packet 0 = scsiopRead12) :
    CdReadChecked ch s ↔ CdReadFits ch s := by
  by_cases hrange : CdReadInRange ch s
  · have hzero : (s.controller ch).readLength ≠ 0 := by
      intro hzero
      have hpos := hrange.1
      rw [hzero] at hpos
      exact absurd hpos (by decide)
    have htaken := takenLength_eq (s.controller ch) h hzero
    have hstarted := startedBlocks_of_range hrange.1 hrange.2
    have hcomparisons := not_cdReadRefusal_iff hrange.1 hrange.2
    constructor
    · intro hchecked
      obtain ⟨t, ht, hread, -⟩ := hchecked (otherTransfer ch s)
      obtain ⟨t', ht', -, -, hreported⟩ := hardDiskPacket_after h (otherTransfer ch s)
      rw [ht'] at ht
      cases ht
      refine ⟨hrange, hcomparisons.mp fun hrefusal => ?_⟩
      -- the sense code before is not the one of a refusal
      rw [htaken, if_pos hrefusal, (hread hrange).2.2] at hreported
      have hkey : (0 : BitVec 8) = ideSenseIllegalRequest :=
        congrArg (fun r => r.1.senseKey) hreported
      exact absurd hkey (by decide)
    · intro hfits p
      obtain ⟨t, ht, haddress, hblocks, hreported⟩ := hardDiskPacket_after h p
      rw [htaken, if_neg (hcomparisons.mpr hfits.2)] at hreported
      rw [htaken, hstarted] at hblocks
      exact ⟨t, ht, fun _ => ⟨haddress, hblocks, hreported⟩, fun hout => absurd hrange hout⟩
  · exact iff_of_false (not_cdReadChecked_of_out h hrange) fun hfits => hrange hfits.1

/-- The CD-ROM drive that `HardDiskInitialize` sets up, with a packet in its buffer. -/
def packetDrive (capacity : BitVec 64) (packet : List (BitVec 8)) : HardDisk :=
  let s := hardDiskInitialize ⟨0, fun _ => 0, 0, [], [], fun _ => true⟩ ⟨capacity, fun _ => []⟩ 0
  s.modifyController 1 fun c => { c with
    buffer := ⟨c.buffer.size, fun i => packet.getD i 0⟩
    bufferSize := 2048
    bufferIndex := packetSize }

/-- Two blocks of a CD-ROM of 5000 blocks. -/
theorem cd_read_checked_two :
    CdReadChecked 1 (packetDrive 5000 [0x28, 0, 0, 0, 0, 3, 0, 0, 2]) :=
  (cd_read_checked_iff 1 _ (Or.inl (by decide +kernel))).mpr
    ⟨⟨by decide +kernel, by decide +kernel⟩, by decide +kernel, by decide +kernel,
      by decide +kernel, by decide +kernel⟩

/-- The block 20 of a CD-ROM of 16 blocks. -/
theorem cd_read_starts_beyond :
    ¬ CdReadChecked 1 (packetDrive 16 [0x28, 0, 0, 0, 0, 20, 0, 0, 1]) := by
  refine not_cdReadChecked_of_out (Or.inl (by decide +kernel)) fun hrange => ?_
  exact absurd hrange.2 (by decide +kernel)

end Svmm
