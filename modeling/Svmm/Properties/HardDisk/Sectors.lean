import Svmm.Properties.HardDisk.Address

/-!
# The sector loops

A transfer of `count` sectors from `start` on is a stream of bytes.  `Positioned` says how far a
drive has come in it: the registers hold the address of the next sector and the number of sectors
that are left.  One pass of the read loop moves the position on by one and puts the sector into
the buffer; the run of the loop follows by induction on the passes.
-/

namespace Svmm

/-- Byte `p` of the sectors from `start` on, as the registers count them. -/
def diskStream (content : ℕ → BitVec 8) (start span p : ℕ) : BitVec 8 :=
  content ((start + p / 512) % span * 512 + p % 512)

/-! ## What a transfer of sectors leaves alone -/

/-- The part of a drive that the sector loops do not touch. -/
structure TransferFrame where
  driveType : DriveType
  allocated : ℕ
  bufferSize : BitVec 32
  bufferIndex : BitVec 32
  status : BitVec 8
  currentCommand : BitVec 8
  multipleSectors : BitVec 8
  addressMode : BitVec 8
  lba48 : BitVec 8

def AtaDrive.frame (d : AtaDrive) : TransferFrame :=
  { driveType := d.driveType
    allocated := d.controller.buffer.size
    bufferSize := d.controller.bufferSize
    bufferIndex := d.controller.bufferIndex
    status := d.controller.status
    currentCommand := d.controller.currentCommand
    multipleSectors := d.controller.multipleSectors
    addressMode := d.controller.addressMode
    lba48 := d.controller.lba48 }

lemma frame_incrementAddress {d : AtaDrive} (x : BitVec 64) (hmode : d.controller.addressMode ≠ 0) :
    (d.incrementAddress x).1.frame = d.frame := by
  simp only [AtaDrive.incrementAddress, if_pos hmode, AtaController.setLba]
  split
  · rfl
  · rfl

lemma addressSpan_of_frame {d d' : AtaDrive} (h : d'.frame = d.frame) :
    d'.controller.addressSpan = d.controller.addressSpan := by
  have hlba : d'.controller.lba48 = d.controller.lba48 := congrArg TransferFrame.lba48 h
  simp only [AtaController.addressSpan, hlba]

/-- The two drives agree on the registers that say what a transfer is of and how far it has
come. -/
structure AtaDrive.SameRegisters (d d' : AtaDrive) : Prop where
  driveType : d'.driveType = d.driveType
  buffer : d'.controller.buffer = d.controller.buffer
  numberOfSectors : d'.controller.numberOfSectors = d.controller.numberOfSectors
  currentCommand : d'.controller.currentCommand = d.controller.currentCommand
  multipleSectors : d'.controller.multipleSectors = d.controller.multipleSectors
  addressMode : d'.controller.addressMode = d.controller.addressMode
  lba48 : d'.controller.lba48 = d.controller.lba48
  hob : d'.controller.hob = d.controller.hob
  headNumber : d'.controller.headNumber = d.controller.headNumber
  cylinderNumber : d'.controller.cylinderNumber = d.controller.cylinderNumber
  sectorNumber : d'.controller.sectorNumber = d.controller.sectorNumber

/-! ## The position in a transfer -/

/-- The drive has the sectors before `done` behind it. -/
structure Positioned (start count done : ℕ) (d : AtaDrive) : Prop where
  lbaMode : d.controller.addressMode ≠ 0
  address : d.logicalAddress.toNat = (start + done) % d.controller.addressSpan
  remaining : d.controller.numberOfSectors.toNat + done = count

section Position

variable {start count done : ℕ} {size : BitVec 64} {d : AtaDrive}

/-- The next sector of a transfer that fits on the disk is on the disk. -/
lemma Positioned.on_disk (h : Positioned start count done d)
    (hfits : start + count ≤ size.toNat / 512) (hdone : done < count) :
    d.logicalAddress.toNat < size.toNat / 512 := by
  rw [h.address]
  have hle := Nat.mod_le (start + done) d.controller.addressSpan
  omega

lemma AtaDrive.SameRegisters.logicalAddress {d' : AtaDrive} (h : d.SameRegisters d') :
    d'.logicalAddress = d.logicalAddress := by
  simp only [AtaDrive.logicalAddress, h.addressMode, h.lba48, h.hob, h.headNumber,
    h.cylinderNumber, h.sectorNumber]

lemma Positioned.of_registers {d' : AtaDrive} (hp : Positioned start count done d)
    (h : d.SameRegisters d') : Positioned start count done d' := by
  refine ⟨?_, ?_, ?_⟩
  · rw [h.addressMode]
    exact hp.lbaMode
  · rw [h.logicalAddress, hp.address, AtaController.addressSpan, AtaController.addressSpan, h.lba48]
  · rw [h.numberOfSectors]
    exact hp.remaining

/-- The position does not depend on the buffer. -/
lemma Positioned.withBuffer (hp : Positioned start count done d) (b : AtaBuffer) :
    Positioned start count done { d with controller := { d.controller with buffer := b } } :=
  ⟨hp.lbaMode, hp.address, hp.remaining⟩

lemma Positioned.withNext (hp : Positioned start count done d) (x : BitVec 64) :
    Positioned start count done { d with nextLSector := x } :=
  ⟨hp.lbaMode, hp.address, hp.remaining⟩

/-- Stepping the address moves the position on by one sector. -/
lemma Positioned.increment (h : Positioned start count done d)
    (hfits : start + count ≤ size.toNat / 512) (hdone : done < count) :
    Positioned start count (done + 1) (d.incrementAddress d.logicalAddress).1 := by
  have hmode := h.lbaMode
  have hframe := frame_incrementAddress d.logicalAddress hmode
  have hdisk := h.on_disk hfits hdone
  have hsize := size.isLt
  refine ⟨?_, ?_, ?_⟩
  · rw [show (d.incrementAddress d.logicalAddress).1.controller.addressMode =
      d.controller.addressMode from congrArg TransferFrame.addressMode hframe]
    exact hmode
  · rw [addressSpan_of_frame hframe]
    have hnext : (d.logicalAddress + 1).toNat = d.logicalAddress.toNat + 1 := by
      rw [BitVec.toNat_add]
      have hone : (1 : BitVec 64).toNat = 1 := by decide
      rw [hone]
      omega
    have hread := toNat_logicalAddress_setLba
      { d with controller := { d.controller with
        sectorCount := d.controller.sectorCount - 1
        numberOfSectors := d.controller.numberOfSectors - 1 } } (d.logicalAddress + 1) hmode
    simp only [AtaDrive.incrementAddress, if_pos hmode]
    rw [hread, hnext, h.address]
    simp only [AtaController.addressSpan]
    rw [Nat.mod_add_mod, Nat.add_assoc]
  · have hnumber : (d.incrementAddress d.logicalAddress).1.controller.numberOfSectors =
        d.controller.numberOfSectors - 1 := by
      simp only [AtaDrive.incrementAddress, if_pos hmode, AtaController.setLba]
      split
      · rfl
      · rfl
    have hremaining := h.remaining
    rw [hnumber]
    have hpos : 1 ≤ d.controller.numberOfSectors.toNat := by omega
    rw [BitVec.toNat_sub_of_le (by simpa [BitVec.le_def] using hpos)]
    have hone : (1 : BitVec 32).toNat = 1 := by decide
    rw [hone]
    omega

end Position

/-! ## The read loop -/

/-- The drive after one pass of the read loop. -/
def AtaDrive.sectorRead (d : AtaDrive) (byte : ℕ → BitVec 8) : AtaDrive :=
  let d := { d with controller := { d.controller with
    buffer := { d.controller.buffer with byte := byte } } }
  { (d.incrementAddress d.logicalAddress).1 with
    nextLSector := (d.incrementAddress d.logicalAddress).2 }

section ReadLoop

variable {start count : ℕ}

/-- One pass of the read loop, at a sector that is on the disk. -/
lemma readSectorLoop_succ {n i : ℕ} {d : AtaDrive} {image : DiskImage}
    (hdisk : d.logicalAddress.toNat < image.size.toNat / 512)
    (hroom : i + 512 ≤ d.controller.buffer.size) :
    readSectorLoop (n + 1) i (d, image) =
      readSectorLoop n (i + 512)
        (d.sectorRead fun j =>
            if i ≤ j ∧ j < i + 512 then image.content (d.logicalAddress.toNat * 512 + (j - i))
            else d.controller.buffer.byte j,
          image.seek (d.logicalAddress * 512)) := by
  rw [readSectorLoop]
  simp only [calculateLogicalAddress_of_lt hdisk, AtaBuffer.fill, hardDiskSectorSize, if_pos hroom,
    TransitionRun.ok_bind, DiskImage.seek, toNat_sector_offset hdisk]
  rfl

lemma frame_sectorRead {d : AtaDrive} (byte : ℕ → BitVec 8)
    (hmode : d.controller.addressMode ≠ 0) : (d.sectorRead byte).frame = d.frame :=
  frame_incrementAddress _ hmode

lemma byte_sectorRead {d : AtaDrive} (byte : ℕ → BitVec 8)
    (hmode : d.controller.addressMode ≠ 0) :
    (d.sectorRead byte).controller.buffer.byte = byte := by
  simp only [AtaDrive.sectorRead, AtaDrive.incrementAddress, if_pos hmode, AtaController.setLba]
  split
  · rfl
  · rfl

/-- What the read loop leaves: the sectors in the buffer, one after the other, and the position
behind them. -/
structure SectorsRead (start count done n i : ℕ) (d : AtaDrive) (image : DiskImage)
    (d' : AtaDrive) (image' : DiskImage) : Prop where
  content : image'.content = image.content
  size : image'.size = image.size
  frame : d'.frame = d.frame
  position : Positioned start count (done + n) d'
  bytes : ∀ j, d'.controller.buffer.byte j =
    if i ≤ j ∧ j < i + n * 512 then
      diskStream image.content start d.controller.addressSpan (done * 512 + (j - i))
    else d.controller.buffer.byte j

/-- The read loop, from any position from which its sectors are part of the transfer. -/
lemma readSectorLoop_spec {n i done : ℕ} {d : AtaDrive} {image : DiskImage}
    (hp : Positioned start count done d) (hfits : start + count ≤ image.size.toNat / 512)
    (hn : done + n ≤ count) (hroom : i + n * 512 ≤ d.controller.buffer.size) :
    ∃ d' image', readSectorLoop n i (d, image) = .ok (d', image') ∧
      SectorsRead start count done n i d image d' image' := by
  induction n generalizing i done d image with
  | zero =>
      refine ⟨d, image, rfl, rfl, rfl, rfl, hp, fun j => ?_⟩
      rw [if_neg (by omega)]
  | succ n ih =>
      have hmode := hp.lbaMode
      have hdisk := hp.on_disk hfits (by omega)
      rw [readSectorLoop_succ hdisk (by omega)]
      set byte : ℕ → BitVec 8 := fun j =>
        if i ≤ j ∧ j < i + 512 then image.content (d.logicalAddress.toNat * 512 + (j - i))
        else d.controller.buffer.byte j with hbyte
      have hframe : (d.sectorRead byte).frame = d.frame := frame_sectorRead byte hmode
      have hnext : Positioned start count (done + 1) (d.sectorRead byte) := by
        have hloaded := hp.withBuffer { d.controller.buffer with byte := byte }
        exact (hloaded.increment hfits (by omega)).withNext _
      have hsize : (d.sectorRead byte).controller.buffer.size = d.controller.buffer.size :=
        congrArg TransferFrame.allocated hframe
      have hrest : i + 512 + n * 512 ≤ (d.sectorRead byte).controller.buffer.size := by
        rw [hsize]
        omega
      obtain ⟨d', image', hrun, hread⟩ :=
        @ih (i + 512) (done + 1) _ (image.seek (d.logicalAddress * 512)) hnext hfits
          (by omega) hrest
      refine ⟨d', image', hrun, hread.content, hread.size, hread.frame.trans hframe, ?_,
        fun j => ?_⟩
      · rw [show done + (n + 1) = done + 1 + n by omega]
        exact hread.position
      · rw [hread.bytes j, addressSpan_of_frame hframe, byte_sectorRead byte hmode]
        by_cases hlater : i + 512 ≤ j ∧ j < i + 512 + n * 512
        · have hindex : (done + 1) * 512 + (j - (i + 512)) = done * 512 + (j - i) := by omega
          rw [if_pos hlater, if_pos (by omega), hindex]
          rfl
        · rw [if_neg hlater, hbyte]
          by_cases hfirst : i ≤ j ∧ j < i + 512
          · have hdiv : (done * 512 + (j - i)) / 512 = done := by omega
            have hmod : (done * 512 + (j - i)) % 512 = j - i := by omega
            simp only [if_pos hfirst]
            rw [if_pos (by omega), diskStream, hdiv, hmod, hp.address]
          · simp only [if_neg hfirst]
            rw [if_neg (by omega)]

end ReadLoop

end Svmm
