import Svmm.Properties.HardDisk.Sectors

/-!
# Transfer commands

What the controller holds for a sector command when the guest issues it: the first address and the
number of sectors; and what it takes for the command to be accepted.
-/

namespace Svmm

/-! ## The sectors of an image -/

/-- Sector `k` of an image. -/
def DiskImage.sector (image : DiskImage) (k : ℕ) : List (BitVec 8) :=
  (List.range 512).map fun j => image.content (k * 512 + j)

/-- `count` sectors of an image, from `start` on. -/
def DiskImage.sectors (image : DiskImage) (start count : ℕ) : List (BitVec 8) :=
  (List.range count).flatMap fun k => image.sector (start + k)

lemma DiskImage.sectors_eq (image : DiskImage) (start count : ℕ) :
    image.sectors start count =
      (List.range (count * 512)).map fun p => image.content (start * 512 + p) := by
  induction count with
  | zero => simp [DiskImage.sectors]
  | succ count ih =>
      have hstep : image.sectors start (count + 1) =
          image.sectors start count ++ image.sector (start + count) := by
        simp [DiskImage.sectors, List.range_succ]
      rw [hstep, ih, Nat.add_mul, Nat.one_mul, List.range_add, List.map_append, List.map_map]
      refine congrArg _ ?_
      refine List.map_congr_left fun j _ => ?_
      have hoffset : (start + count) * 512 + j = start * 512 + (count * 512 + j) := by ring
      rw [Function.comp_apply, hoffset]

/-! ## What a command asks for -/

/-- The `temp` with which a command selects its address form. -/
def extFlag (command : BitVec 8) : BitVec 8 :=
  if command ∈ readCommandsExt ++ writeCommandsExt then 1 else 0

/-- The drive with the address form of a command selected. -/
def HardDisk.commandDrive (s : HardDisk) (command : BitVec 8) : AtaDrive :=
  { s.drive 0 with controller := (s.controller 0).lba48Transform (extFlag command) }

/-- The logical address that the controller holds for a command. -/
def HardDisk.commandStart (s : HardDisk) (command : BitVec 8) : ℕ :=
  (s.commandDrive command).logicalAddress.toNat

/-- The sector count that the controller holds for a command. -/
def HardDisk.commandCount (s : HardDisk) (command : BitVec 8) : ℕ :=
  (s.commandDrive command).controller.numberOfSectors.toNat

/-- The addresses that a command can tell apart: 48 bits in the EXT form, 32 in the other. -/
def commandSpan (command : BitVec 8) : ℕ :=
  if command ∈ readCommandsExt ++ writeCommandsExt then 2 ^ 48 else 2 ^ 32

/-- A transfer command in LBA mode that the controller accepts, for sectors that are on the
disk. -/
structure TransferAccepted (commands multiples : List (BitVec 8)) (s : HardDisk)
    (command : BitVec 8) : Prop where
  installed : s.Installed
  known : command ∈ commands
  idle : (s.controller 0).hasStatus ideStatusBusy = false
  lbaMode : (s.controller 0).addressMode ≠ 0
  multiple : command ∈ multiples → (s.controller 0).multipleSectors ≠ 0
  onDisk : s.commandStart command + s.commandCount command ≤ s.image.size.toNat / 512

instance (commands multiples : List (BitVec 8)) (s : HardDisk) (command : BitVec 8) :
    Decidable (TransferAccepted commands multiples s command) :=
  decidable_of_iff (_ ∧ _ ∧ _ ∧ _ ∧ _ ∧ _)
    ⟨fun h => ⟨h.1, h.2.1, h.2.2.1, h.2.2.2.1, h.2.2.2.2.1, h.2.2.2.2.2⟩,
      fun h => ⟨h.installed, h.known, h.idle, h.lbaMode, h.multiple, h.onDisk⟩⟩

/-! ## Counts, sizes and addresses -/

/-- Every command is for at least one sector. -/
lemma numberOfSectors_pos (c : AtaController) (ext : BitVec 8) :
    0 < (c.lba48Transform ext).numberOfSectors.toNat := by
  have hcount : (c.sectorCount.setWidth 32).toNat = c.sectorCount.toNat := by
    have hlt := c.sectorCount.isLt
    rw [BitVec.toNat_setWidth]
    exact Nat.mod_eq_of_lt (by omega)
  have hzero (x : BitVec 8) : x.toNat = 0 ↔ x = 0 :=
    ⟨fun h => BitVec.eq_of_toNat_eq h, fun h => by rw [h]; rfl⟩
  by_cases hext : ext = 0
  · by_cases hsector : c.sectorCount = 0
    · simp only [AtaController.lba48Transform, if_pos hext, if_pos hsector]
      decide
    · have hne := (hzero c.sectorCount).not.mpr hsector
      simp only [AtaController.lba48Transform, if_pos hext, if_neg hsector, hcount]
      omega
  · by_cases hboth : c.sectorCount = 0 ∧ c.hob.nsector = 0
    · simp only [AtaController.lba48Transform, if_neg hext, if_pos hboth]
      decide
    · simp only [AtaController.lba48Transform, if_neg hext, if_neg hboth, BitVec.toNat_or, hcount]
      have hhigh : (c.hob.nsector.setWidth 32 <<< 8).toNat = c.hob.nsector.toNat * 256 := by
        have hlt := c.hob.nsector.isLt
        rw [BitVec.toNat_shiftLeft, BitVec.toNat_setWidth, Nat.shiftLeft_eq]
        omega
      rw [hhigh]
      have hleft := Nat.left_le_or (n := c.hob.nsector.toNat * 256) (m := c.sectorCount.toNat)
      have hright := Nat.right_le_or (n := c.hob.nsector.toNat * 256) (m := c.sectorCount.toNat)
      by_contra hnone
      have hc : c.sectorCount = 0 := (hzero _).mp (by omega)
      have hn : c.hob.nsector = 0 := (hzero _).mp (by omega)
      exact hboth ⟨hc, hn⟩

lemma commandCount_pos (s : HardDisk) (command : BitVec 8) : 0 < s.commandCount command :=
  numberOfSectors_pos _ _

/-- The next block of a `MULTIPLE` command: as many sectors as a block may have, or as are left. -/
lemma toNat_multipleBlock (c : AtaController) :
    c.multipleBlock.toNat = min c.multipleSectors.toNat c.numberOfSectors.toNat * 512 := by
  have hbyte := c.multipleSectors.isLt
  have hwide : (c.multipleSectors.setWidth 32).toNat = c.multipleSectors.toNat := by
    rw [BitVec.toNat_setWidth]
    exact Nat.mod_eq_of_lt (by omega)
  have hsector : (512 : BitVec 32).toNat = 512 := by decide
  unfold AtaController.multipleBlock
  by_cases hlt : c.multipleSectors.setWidth 32 < c.numberOfSectors
  · have hnat : c.multipleSectors.toNat < c.numberOfSectors.toNat := by
      rw [BitVec.lt_def, hwide] at hlt
      exact hlt
    rw [if_pos hlt, BitVec.toNat_mul, hwide, hsector, Nat.min_eq_left (by omega)]
    exact Nat.mod_eq_of_lt (by omega)
  · have hnat : c.numberOfSectors.toNat ≤ c.multipleSectors.toNat := by
      rw [BitVec.lt_def, hwide] at hlt
      omega
    rw [if_neg hlt, BitVec.toNat_mul, hsector, Nat.min_eq_right hnat]
    exact Nat.mod_eq_of_lt (by omega)

lemma addressSpan_extFlag (c : AtaController) (command : BitVec 8) :
    (c.lba48Transform (extFlag command)).addressSpan = commandSpan command := by
  by_cases hext : command ∈ readCommandsExt ++ writeCommandsExt
  · simp only [AtaController.addressSpan, AtaController.lba48Transform, extFlag, commandSpan,
      if_pos hext]
    rfl
  · simp only [AtaController.addressSpan, AtaController.lba48Transform, extFlag, commandSpan,
      if_neg hext]
    rfl

lemma sectorPasses_eq {bufferSize : BitVec 32} {n : ℕ} (h : bufferSize.toNat = n * 512) :
    sectorPasses bufferSize = n := by
  unfold sectorPasses hardDiskSectorSize
  omega

/-! ## The command register -/

lemma isCommand_setWidth {command : BitVec 8} {codes : List (BitVec 8)} :
    IsCommand (command.setWidth 32) codes ↔ command ∈ codes := by
  constructor
  · rintro ⟨code, hcode, heq⟩
    have hcut := congrArg (fun x : BitVec 32 => x.setWidth 8) heq
    simp only [Word.setWidth_setWidth_eq (by decide : 8 ≤ 32)] at hcut
    rwa [hcut]
  · exact fun h => ⟨command, h, rfl⟩

/-- No sector command is one of the 0x10 commands. -/
lemma not_recalibrate : ∀ command ∈ readCommands28 ++ readCommandsExt ++
    (writeCommands28 ++ writeCommandsExt), ¬ command.setWidth 32 &&& 0xf0 = (0x10 : BitVec 32) := by
  decide

/-- A command that the controller is ready for goes to the switch. -/
lemma writeCommandRegister_of_idle {s : HardDisk} (hs : s.Installed)
    (hidle : (s.controller 0).hasStatus ideStatusBusy = false) {value : BitVec 32}
    (hvalue : ¬ value &&& 0xf0 = 0x10) (length : BitVec 32) :
    hardDiskPortIoWriteHandler 0x1f7 value length s =
      hardDiskCommand 0 value ((hardDiskLowerIrq 0 s).modifyController 0 fun c =>
        c.clearStatus ideStatusError) := by
  have hdnum : ¬ (s.channel 0).dnum ≠ 0 := by
    rw [hs.selected]
    simp
  have hready :
      ¬ (HardDisk.controller 0 (hardDiskLowerIrq 0 s)).hasStatus ideStatusBusy = true := by
    rw [show HardDisk.controller 0 (hardDiskLowerIrq 0 s) = s.controller 0 from rfl, hidle]
    decide
  rw [hs.write_command, hardDiskWriteCommandRegister, if_neg hdnum]
  simp only [if_neg hready, if_neg hvalue]

/-! ## A command that is ready to start -/

/-- The drive that a sector command starts from, once its address form and block size are set. -/
def AtaDrive.forCommand (d : AtaDrive) (ext : BitVec 8) (multiple : Bool) : AtaDrive :=
  { d with controller :=
      ((d.controller.clearStatus ideStatusError).lba48Transform ext).startBlock multiple }

/-- The state in which a sector command looks its address up. -/
def HardDisk.ready (s : HardDisk) (multiples : List (BitVec 8)) (command : BitVec 8) : HardDisk :=
  (((hardDiskLowerIrq 0 s).modifyController 0 fun c =>
    c.clearStatus ideStatusError).modifyController 0
      (AtaController.lba48Transform (extFlag command))).modifyController 0
        (AtaController.startBlock (decide (command ∈ multiples)))

lemma HardDisk.drive_ready (s : HardDisk) (multiples : List (BitVec 8)) (command : BitVec 8) :
    (s.ready multiples command).drive 0 =
      (s.drive 0).forCommand (extFlag command) (decide (command ∈ multiples)) := by
  simp only [HardDisk.ready, HardDisk.drive_modifyController, HardDisk.controller_modifyController]
  rfl

lemma HardDisk.ready_registers (s : HardDisk) (multiples : List (BitVec 8)) (command : BitVec 8) :
    (s.commandDrive command).SameRegisters ((s.ready multiples command).drive 0) := by
  rw [s.drive_ready]
  exact ⟨rfl, rfl, rfl, rfl, rfl, rfl, rfl, rfl, rfl, rfl, rfl⟩

/-- The block that a sector command starts with. -/
lemma HardDisk.ready_bufferSize (s : HardDisk) (multiples : List (BitVec 8)) (command : BitVec 8) :
    ((s.ready multiples command).controller 0).bufferSize =
      if command ∈ multiples then (s.commandDrive command).controller.multipleBlock else 512 := by
  rw [HardDisk.controller_eq_drive, s.drive_ready]
  by_cases hin : command ∈ multiples
  · simp only [AtaDrive.forCommand, AtaController.startBlock, hin, decide_true, if_true]
    rfl
  · simp only [AtaDrive.forCommand, AtaController.startBlock, hin, decide_false, if_false]
    rfl

namespace TransferAccepted

variable {commands multiples : List (BitVec 8)} {s : HardDisk} {command : BitVec 8}
  (h : TransferAccepted commands multiples s command)

include h

/-- The first sector is on the disk. -/
lemma on_disk : (s.commandDrive command).logicalAddress.toNat < s.image.size.toNat / 512 :=
  lt_of_lt_of_le (Nat.lt_add_of_pos_right (commandCount_pos s command)) h.onDisk

lemma address_ne : (s.commandDrive command).logicalAddress ≠ -1 := ne_neg_one_of_lt h.on_disk

/-- The address that the command looks up is the one the registers hold. -/
lemma calculateLogicalAddress_eq :
    ((s.ready multiples command).drive 0).calculateLogicalAddress s.image.size =
      (s.commandDrive command).logicalAddress := by
  have hregisters := s.ready_registers multiples command
  have hdisk := h.on_disk
  rw [← hregisters.logicalAddress] at hdisk ⊢
  exact calculateLogicalAddress_of_lt hdisk

/-- The drive is there, and its blocks have a size where the command asks for it. -/
lemma isDisk : ¬ (((hardDiskLowerIrq 0 s).modifyController 0 fun c =>
    c.clearStatus ideStatusError).drive 0).driveType ≠ .disk := by
  rw [not_not, HardDisk.drive_modifyController]
  exact h.installed.isDisk

lemma block_set : ¬ (decide (command ∈ multiples) = true ∧
    ((((hardDiskLowerIrq 0 s).modifyController 0 fun c =>
      c.clearStatus ideStatusError).modifyController 0
        (AtaController.lba48Transform (extFlag command))).controller 0).multipleSectors = 0) := by
  rintro ⟨hin, hzero⟩
  rw [HardDisk.controller_modifyController, HardDisk.controller_modifyController] at hzero
  exact h.multiple (of_decide_eq_true hin) hzero

end TransferAccepted

end Svmm
