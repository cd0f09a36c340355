import Mathlib.Logic.Function.Iterate
import Svmm.Properties.HardDisk.Images
import Svmm.Properties.HardDisk.BusyRequest
import Svmm.Properties.HardDisk.PioWrite
import Svmm.Properties.HardDisk.Block

/-!
# The sectors that are sought

`HardDiskWriteSector` gives a command up at the first address that is not on the disk;
`HardDiskReadSector` goes on with the address -1, times the size of a sector.  So a run keeps to the
disk exactly when every block that a read is about to fetch lies on it.  The addresses of a block
are those that the address registers step through, and depend on no other register.
-/

namespace Svmm

open TransitionRun HardDisk.Moves

/-! ## The addresses of a block -/

namespace AtaDrive

/-- The drive with its address registers and its geometry alone. -/
def addressOf (d : AtaDrive) : AtaDrive :=
  { emptyDrive with
    controller := { emptyDrive.controller with
      addressMode := d.controller.addressMode
      lba48 := d.controller.lba48
      hob := d.controller.hob
      headNumber := d.controller.headNumber
      cylinderNumber := d.controller.cylinderNumber
      sectorNumber := d.controller.sectorNumber }
    cylinders := d.cylinders
    heads := d.heads
    spt := d.spt }

/-- The drive with its address stepped. -/
def stepped (d : AtaDrive) : AtaDrive := (d.incrementAddress d.logicalAddress).1

/-- The address that the registers hold after a number of steps. -/
def sectorAddress (d : AtaDrive) (k : ℕ) : BitVec 64 := (stepped^[k] d).logicalAddress

/-- The first addresses that the registers step through are on a disk of the size.  (On one of the
last 512 byte sizes of the 64-bit range the offset of the address -1 would be on the disk too.) -/
def SectorsOnDisk (size : BitVec 64) (n : ℕ) (d : AtaDrive) : Prop :=
  size.toNat ≤ 2 ^ 64 - 512 → ∀ k < n, (d.sectorAddress k).toNat < size.toNat / 512

instance (size : BitVec 64) (n : ℕ) (d : AtaDrive) : Decidable (d.SectorsOnDisk size n) :=
  inferInstanceAs (Decidable (_ → _))

variable {d d' : AtaDrive}

lemma addressOf_incrementAddress (d : AtaDrive) (x : BitVec 64) :
    (d.incrementAddress x).1.addressOf = (d.addressOf.incrementAddress x).1.addressOf := by
  by_cases hmode : d.controller.addressMode = 0
  · simp only [incrementAddress, addressOf, incrementChs, hmode, ne_eq, not_true_eq_false, if_false]
    split
    · split
      · split <;> rfl
      · rfl
    · rfl
  · simp only [incrementAddress]
    rw [if_pos hmode, if_pos (show d.addressOf.controller.addressMode ≠ 0 from hmode)]
    simp only [AtaController.setLba]
    by_cases hlba : d.controller.lba48 ≠ 0
    · rw [if_pos hlba, if_pos (show d.addressOf.controller.lba48 ≠ 0 from hlba)]
      rfl
    · rw [if_neg hlba, if_neg (show ¬ d.addressOf.controller.lba48 ≠ 0 from hlba)]
      rfl

/-- The addresses of a block depend on the address registers alone. -/
lemma sectorAddress_congr (h : d'.addressOf = d.addressOf) (k : ℕ) :
    d'.sectorAddress k = d.sectorAddress k := by
  induction k generalizing d d' with
  | zero =>
      have haddress (e : AtaDrive) : e.logicalAddress = e.addressOf.logicalAddress := rfl
      show d'.logicalAddress = d.logicalAddress
      rw [haddress d', h, ← haddress d]
  | succ k ih =>
      have hstep (e : AtaDrive) : e.stepped.addressOf = e.addressOf.stepped.addressOf :=
        addressOf_incrementAddress e _
      have hnext : d'.stepped.addressOf = d.stepped.addressOf := by rw [hstep, h, ← hstep]
      exact ih hnext

lemma sectorsOnDisk_congr (h : d'.addressOf = d.addressOf) {size : BitVec 64} {n : ℕ} :
    d'.SectorsOnDisk size n ↔ d.SectorsOnDisk size n := by
  simp only [SectorsOnDisk, sectorAddress_congr h]

/-- A block is on the disk when its first sector is and the rest is. -/
lemma sectorsOnDisk_succ {size : BitVec 64} {n : ℕ} :
    d.SectorsOnDisk size (n + 1) ↔
      (size.toNat ≤ 2 ^ 64 - 512 → d.logicalAddress.toNat < size.toNat / 512) ∧
        d.stepped.SectorsOnDisk size n := by
  constructor
  · intro h
    exact ⟨fun hsize => h hsize 0 (Nat.succ_pos n),
      fun hsize k hk => h hsize (k + 1) (Nat.succ_lt_succ hk)⟩
  · rintro ⟨hfirst, hrest⟩ hsize k hk
    cases k with
    | zero => exact hfirst hsize
    | succ k => exact hrest hsize k (Nat.lt_of_succ_lt_succ hk)

end AtaDrive

/-! ## The log of seeks -/

/-- Every offset sought is on the disk. -/
def DiskImage.SeeksOnDisk (image : DiskImage) : Prop := ∀ offset ∈ image.seeks, offset < image.size

instance (image : DiskImage) : Decidable image.SeeksOnDisk :=
  inferInstanceAs (Decidable (∀ offset ∈ image.seeks, offset < image.size))

lemma seeksOnDisk_seek {image : DiskImage} {offset : BitVec 64} :
    (image.seek offset).SeeksOnDisk ↔ image.SeeksOnDisk ∧ offset < image.size := by
  simp only [DiskImage.SeeksOnDisk, DiskImage.seek, List.forall_mem_append, List.mem_singleton,
    forall_eq]

/-- The offset of an address is on the disk exactly when the address is. -/
lemma offset_lt_iff {d : AtaDrive} {size : BitVec 64} :
    d.calculateLogicalAddress size * 512 < size ↔
      (size.toNat ≤ 2 ^ 64 - 512 → d.logicalAddress.toNat < size.toNat / 512) := by
  by_cases hdisk : d.logicalAddress.toNat < size.toNat / 512
  · rw [calculateLogicalAddress_of_lt hdisk, BitVec.lt_def, toNat_sector_offset hdisk]
    refine ⟨fun _ _ => hdisk, fun _ => ?_⟩
    omega
  · have hbeyond : size / 512 ≤ d.logicalAddress := by
      rw [BitVec.le_def, BitVec.toNat_udiv]
      exact not_lt.mp hdisk
    have hoffset : ((-1 : BitVec 64) * 512).toNat = 2 ^ 64 - 512 := by decide
    rw [AtaDrive.calculateLogicalAddress, if_pos hbeyond, BitVec.lt_def, hoffset]
    constructor
    · intro hlt hsize
      omega
    · intro h
      by_contra hlt
      exact hdisk (h (not_lt.mp hlt))

/-- What the read loop adds to the log: the sectors of a block. -/
lemma readSectorLoop_seeks {n i : ℕ} {d d' : AtaDrive} {image image' : DiskImage}
    (h : readSectorLoop n i (d, image) = .ok (d', image')) :
    image'.size = image.size ∧
      (image'.SeeksOnDisk ↔ image.SeeksOnDisk ∧ d.SectorsOnDisk image.size n) := by
  induction n generalizing i d image with
  | zero =>
      obtain ⟨-, rfl⟩ := Prod.mk.inj (Except.ok.inj h)
      exact ⟨rfl, (and_iff_left fun _ k hk => absurd hk (Nat.not_lt_zero k)).symm⟩
  | succ n ih =>
      rw [readSectorLoop] at h
      obtain ⟨buffer, -, h⟩ := bind_eq_ok.mp h
      obtain ⟨hsize, hrest⟩ := ih h
      refine ⟨hsize, hrest.trans ?_⟩
      rw [seeksOnDisk_seek, offset_lt_iff, AtaDrive.sectorsOnDisk_succ, and_assoc]
      refine and_congr_right fun _ => and_congr_right fun hfirst => ?_
      by_cases hwide : image.size.toNat ≤ 2 ^ 64 - 512
      · refine AtaDrive.sectorsOnDisk_congr ?_
        have hcalc : d.calculateLogicalAddress image.size = d.logicalAddress :=
          calculateLogicalAddress_of_lt (hfirst hwide)
        have hloaded : ({ d with controller := { d.controller with buffer := buffer } } :
            AtaDrive).addressOf = d.addressOf := rfl
        show (AtaDrive.incrementAddress _ _).1.addressOf =
          (AtaDrive.incrementAddress d _).1.addressOf
        rw [hcalc, AtaDrive.addressOf_incrementAddress, hloaded,
          ← AtaDrive.addressOf_incrementAddress]
      · exact ⟨fun _ hle => absurd hle hwide, fun _ hle => absurd hle hwide⟩

/-- The write loop seeks no address that is not on the disk. -/
lemma writeSectorLoop_seeks {n i : ℕ} {d d' : AtaDrive} {image image' : DiskImage}
    {complete : Bool} (h : writeSectorLoop n i (d, image) = .ok (d', image', complete)) :
    image'.size = image.size ∧ (image'.SeeksOnDisk ↔ image.SeeksOnDisk) := by
  induction n generalizing i d image with
  | zero =>
      obtain ⟨-, rfl, -⟩ := by simpa [writeSectorLoop] using h
      exact ⟨rfl, Iff.rfl⟩
  | succ n ih =>
      rw [writeSectorLoop] at h
      by_cases hend : d.calculateLogicalAddress image.size = -1
      · simp only [if_pos hend] at h
        obtain ⟨-, rfl, -⟩ := by simpa using h
        exact ⟨rfl, Iff.rfl⟩
      · simp only [if_neg hend] at h
        have hdisk : d.logicalAddress.toNat < image.size.toNat / 512 := by
          by_contra hbeyond
          refine hend (if_pos ?_)
          rw [BitVec.le_def, BitVec.toNat_udiv]
          exact not_lt.mp hbeyond
        have hseek : (image.seek (d.calculateLogicalAddress image.size * 512)).SeeksOnDisk ↔
            image.SeeksOnDisk := by
          rw [seeksOnDisk_seek, and_iff_left (offset_lt_iff.mpr fun _ => hdisk)]
        obtain ⟨block, -, h⟩ := bind_eq_ok.mp h
        split at h
        · obtain ⟨-, rfl, -⟩ := by simpa [pure, Except.pure] using h
          exact ⟨rfl, hseek⟩
        · obtain ⟨hsize, hrest⟩ := ih h
          exact ⟨hsize, hrest.trans hseek⟩

/-- A block of a write that leaves the disk does not come to its end. -/
lemma writeSectorLoop_past {n i : ℕ} {d d' : AtaDrive} {image image' : DiskImage} {complete : Bool}
    (h : writeSectorLoop n i (d, image) = .ok (d', image', complete))
    (hpast : ¬ d.SectorsOnDisk image.size n) : complete = false := by
  induction n generalizing i d image with
  | zero => exact absurd (fun _ k hk => absurd hk (Nat.not_lt_zero k)) hpast
  | succ n ih =>
      rw [writeSectorLoop] at h
      by_cases hend : d.calculateLogicalAddress image.size = -1
      · simp only [if_pos hend] at h
        obtain ⟨-, -, rfl⟩ := by simpa using h
        rfl
      · simp only [if_neg hend] at h
        have hdisk : d.logicalAddress.toNat < image.size.toNat / 512 := by
          by_contra hbeyond
          refine hend (if_pos ?_)
          rw [BitVec.le_def, BitVec.toNat_udiv]
          exact not_lt.mp hbeyond
        obtain ⟨block, -, h⟩ := bind_eq_ok.mp h
        split at h
        · obtain ⟨-, -, rfl⟩ := by simpa [pure, Except.pure] using h
          rfl
        · refine ih h fun hrest => hpast ?_
          rw [calculateLogicalAddress_of_lt hdisk] at hrest
          have haddress (e : AtaDrive) (x : BitVec 64) :
              ({ e with nextLSector := x } : AtaDrive).addressOf = e.addressOf := rfl
          exact AtaDrive.sectorsOnDisk_succ.mpr
            ⟨fun _ => hdisk, (AtaDrive.sectorsOnDisk_congr (haddress _ _)).mp hrest⟩

/-! ## What enters `HardDiskReadSector` -/

namespace HardDisk

variable (ch : Fin 4) (s : HardDisk)

/-- Every sector of the block that `HardDiskReadSector` is about to fetch is on the disk. -/
def BlockOnDisk : Prop :=
  (s.drive ch).SectorsOnDisk s.image.size (sectorPasses (s.controller ch).bufferSize)

/-- A read command that gets as far as the transfer finds its first block on the disk. -/
def CommandOnDisk (value : BitVec 32) : Prop :=
  let ext : BitVec 8 := if IsCommand value readCommandsExt then 1 else 0
  let multiple := decide (IsCommand value readMultiples)
  let u := s.modifyController ch (AtaController.lba48Transform ext)
  let v := u.modifyController ch (AtaController.startBlock multiple)
  IsCommand value (readCommandsExt ++ readCommands28) → (s.drive ch).driveType = .disk →
    ¬ ((s.controller ch).addressMode = 0 ∧ (s.controller ch).headNumber = 0 ∧
      (s.controller ch).cylinderNumber = 0 ∧ (s.controller ch).sectorNumber = 0) →
    ¬ (multiple = true ∧ (u.controller ch).multipleSectors = 0) →
    (v.drive ch).calculateLogicalAddress v.image.size ≠ -1 → v.BlockOnDisk ch

/-- A data read that takes the last bytes of a block, of a transfer that goes on, finds the next
block on the disk. -/
def NextOnDisk (length : BitVec 32) : Prop :=
  (s.controller ch).hasStatus ideStatusDevReq = true →
    (s.controller ch).currentCommand ∈ readCommands28 ++ readCommandsExt →
    (s.controller ch).bufferIndex < (s.controller ch).bufferSize →
    ¬ (s.controller ch).bufferSize < (s.controller ch).bufferIndex + length →
    ¬ (s.controller ch).bufferIndex + length < (s.controller ch).bufferSize →
    (s.controller ch).numberOfSectors ≠ 0 →
    (s.modifyDrive ch AtaDrive.endOfBlockRead).BlockOnDisk ch

end HardDisk

/-- A block of a read that an event fetches is on the disk. -/
def DiskEvent.OnDisk (s : HardDisk) : DiskEvent → Prop
  | .portWrite address value _ =>
      let (ch, port) := s.decode address
      port = 7 → (s.channel ch).dnum = 0 → (s.controller ch).hasStatus ideStatusBusy = false →
        (switched ch s).CommandOnDisk ch value
  | .portRead address length =>
      let (ch, port) := s.decode address
      port = 0 → s.NextOnDisk ch length
  | .bmdmaRead ch =>
      (s.controller ch).currentCommand ∈ [ideCommandReadDma, ideCommandReadDmaExt] →
        (s.controller ch).numberOfSectors ≠ 0 → s.BlockOnDisk ch
  | _ => True

instance (ch : Fin 4) (s : HardDisk) : Decidable (s.BlockOnDisk ch) :=
  inferInstanceAs (Decidable (AtaDrive.SectorsOnDisk _ _ _))

instance (ch : Fin 4) (s : HardDisk) (value : BitVec 32) : Decidable (s.CommandOnDisk ch value) :=
  inferInstanceAs (Decidable (_ → _ → ¬ (_ ∧ _ ∧ _ ∧ _) → ¬ (_ ∧ _) → _ → HardDisk.BlockOnDisk _ _))

instance (ch : Fin 4) (s : HardDisk) (length : BitVec 32) : Decidable (s.NextOnDisk ch length) :=
  inferInstanceAs (Decidable (_ → _ → _ → ¬ _ → ¬ _ → _ → HardDisk.BlockOnDisk _ _))

instance (s : HardDisk) : ∀ a : DiskEvent, Decidable (a.OnDisk s)
  | .portWrite _ _ _ => inferInstanceAs (Decidable (_ → _ → _ → HardDisk.CommandOnDisk _ _ _))
  | .portRead _ _ => inferInstanceAs (Decidable (_ → HardDisk.NextOnDisk _ _ _))
  | .bmdmaRead _ => inferInstanceAs (Decidable (_ → _ → HardDisk.BlockOnDisk _ _))
  | .seekTimer | .bdmaComplete _ | .bmdmaWrite _ => inferInstanceAs (Decidable True)

/-- The event adds seeks that are on the disk exactly when a condition holds. -/
def HardDisk.Seeks (P : Prop) (s t : HardDisk) : Prop :=
  t.image.size = s.image.size ∧ (t.image.SeeksOnDisk ↔ s.image.SeeksOnDisk ∧ P)

lemma AtaDrive.addressOf_startRead (d : AtaDrive) (address : BitVec 64) (value : BitVec 32) :
    (d.startRead address value).addressOf = d.addressOf := by
  simp [AtaDrive.addressOf, AtaDrive.startRead, AtaController.setStatus, AtaController.clearStatus,
    AtaController.updateStatus]

lemma AtaDrive.addressOf_endOfBlockRead (d : AtaDrive) : d.endOfBlockRead.addressOf =
    d.addressOf := by
  have h := d.endOfBlockRead_registers
  simp only [AtaDrive.addressOf, h.addressMode, h.lba48, h.hob, h.headNumber, h.cylinderNumber,
    h.sectorNumber]
  rfl

namespace HardDisk.Seeks

variable {P Q : Prop} {s t u : HardDisk} {ch : Fin 4}

lemma blockOnDisk_congr (himage : t.image = s.image)
    (haddress : (t.drive ch).addressOf = (s.drive ch).addressOf)
    (hsize : (t.controller ch).bufferSize = (s.controller ch).bufferSize) :
    t.BlockOnDisk ch ↔ s.BlockOnDisk ch := by
  unfold HardDisk.BlockOnDisk
  rw [himage, hsize, AtaDrive.sectorsOnDisk_congr haddress]

lemma of_image (h : t.image = s.image) (hP : P) : Seeks P s t := by
  rw [Seeks, h]
  exact ⟨rfl, (and_iff_left hP).symm⟩

lemma congr (h : Seeks P s t) (hs : u.image = s.image) (hPQ : P ↔ Q) : Seeks Q u t := by
  rw [Seeks, hs, ← hPQ]
  exact h

lemma then_image (h : Seeks P s t) (ht : u.image = t.image) : Seeks P s u := by
  rw [Seeks, ht]
  exact h

/-- The registers that start a read are not those of the address. -/
lemma blockOnDisk_startRead (ch : Fin 4) (s : HardDisk) (address : BitVec 64) (value : BitVec 32) :
    (s.modifyDrive ch (AtaDrive.startRead address value)).BlockOnDisk ch ↔ s.BlockOnDisk ch := by
  refine blockOnDisk_congr rfl ?_ ?_
  · rw [HardDisk.drive_modifyDrive]
    exact AtaDrive.addressOf_startRead _ _ _
  · rw [HardDisk.controller_modifyDrive]
    simp [AtaDrive.startRead, HardDisk.controller]

lemma readSector {n : ℕ} (h : hardDiskReadSector ch s = .ok (t, n)) :
    Seeks (s.BlockOnDisk ch) s t := by
  obtain ⟨⟨d, image⟩, hloop, h⟩ := bind_eq_ok.mp h
  obtain ⟨rfl, -⟩ := Prod.mk.inj (Except.ok.inj h)
  exact readSectorLoop_seeks hloop

lemma writeSector {n : ℕ} (h : hardDiskWriteSector ch s = .ok (t, n)) : Seeks True s t := by
  obtain ⟨d, complete, hloop⟩ := hardDiskWriteSector_ok h
  obtain ⟨hsize, hseeks⟩ := writeSectorLoop_seeks hloop
  exact ⟨hsize, hseeks.trans (and_iff_left trivial).symm⟩

/-- A read command: its first block, if it gets as far as that. -/
lemma readCommand {ext : BitVec 8} {value : BitVec 32}
    (hext : ext = if IsCommand value readCommandsExt then 1 else 0)
    (hvalue : IsCommand value (readCommandsExt ++ readCommands28))
    (h : hardDiskReadCommand ch ext value s = .ok t) : Seeks (s.CommandOnDisk ch value) s t := by
  simp only [hardDiskReadCommand] at h
  obtain ⟨htype, h⟩ | ⟨htype, h⟩ := ite_eq_ok h
  · obtain rfl := Except.ok.inj h
    exact of_image (by simp) fun _ hdisk => absurd hdisk htype
  obtain ⟨haddress, h⟩ | ⟨haddress, h⟩ := ite_eq_ok h
  · obtain rfl := Except.ok.inj h
    exact of_image (by simp) fun _ _ hne => absurd haddress hne
  rw [hext] at h
  obtain ⟨hzero, h⟩ | ⟨hzero, h⟩ := ite_eq_ok h
  · obtain rfl := Except.ok.inj h
    exact of_image (by simp) fun _ _ _ hne => absurd hzero hne
  obtain ⟨hend, h⟩ | ⟨hend, h⟩ := ite_eq_ok h
  · obtain rfl := Except.ok.inj h
    exact of_image (by simp) fun _ _ _ _ hne => absurd hend hne
  obtain ⟨⟨v, temp⟩, hread, h⟩ := bind_eq_ok.mp h
  have hcondition : s.CommandOnDisk ch value ↔ HardDisk.BlockOnDisk ch
      ((s.modifyController ch (AtaController.lba48Transform
        (if IsCommand value readCommandsExt then 1 else 0))).modifyController ch
          (AtaController.startBlock (decide (IsCommand value readMultiples)))) :=
    ⟨fun hc => hc hvalue (not_not.mp htype) haddress hzero hend, fun hb _ _ _ _ _ => hb⟩
  refine ((readSector hread).congr rfl
    ((blockOnDisk_startRead ch _ _ value).trans hcondition.symm)).then_image ?_
  · simp only at h
    obtain ⟨-, h⟩ | ⟨-, h⟩ := ite_eq_ok h
    · rw [← Except.ok.inj h, image_commandAborted]
    · rw [← Except.ok.inj h, HardDisk.image_modifyController]

lemma writeCommand {ext : BitVec 8} {value : BitVec 32}
    (h : hardDiskWriteCommand ch ext value s = .ok t) : Seeks True s t := by
  simp only [hardDiskWriteCommand] at h
  obtain ⟨-, h⟩ | ⟨-, h⟩ := ite_eq_ok h
  · obtain rfl := Except.ok.inj h
    exact of_image (by simp) trivial
  obtain ⟨-, h⟩ | ⟨-, h⟩ := ite_eq_ok h
  · obtain rfl := Except.ok.inj h
    exact of_image (by simp) trivial
  obtain ⟨-, h⟩ | ⟨-, h⟩ := ite_eq_ok h
  · obtain rfl := Except.ok.inj h
    exact of_image (by simp) trivial
  obtain ⟨⟨v, temp⟩, hwrite, h⟩ := bind_eq_ok.mp h
  refine ((writeSector hwrite).congr (by simp) Iff.rfl).then_image ?_
  simp only at h
  obtain ⟨-, h⟩ | ⟨-, h⟩ := ite_eq_ok h
  · rw [← Except.ok.inj h, image_commandAborted]
  · rw [← Except.ok.inj h]

/-- The switch of the command register. -/
lemma command {value : BitVec 32} (h : hardDiskCommand ch value s = .ok t) :
    Seeks (s.CommandOnDisk ch value) s t := by
  unfold hardDiskCommand at h
  obtain ⟨hvalue, h⟩ | ⟨-, h⟩ := ite_eq_ok h
  · obtain rfl := Except.ok.inj h
    refine of_image image_recalibrate fun hread => ?_
    rw [hvalue] at hread
    exact absurd hread (by decide)
  obtain ⟨hvalue, h⟩ | ⟨hnotExt, h⟩ := ite_eq_ok h
  · exact readCommand (if_pos hvalue).symm (isCommand_append_left _ hvalue) h
  obtain ⟨hvalue, h⟩ | ⟨hnot28, h⟩ := ite_eq_ok h
  · exact readCommand (if_neg hnotExt).symm (isCommand_append_right _ hvalue) h
  have hother : s.CommandOnDisk ch value := by
    rintro ⟨code, hcode, hcodeValue⟩
    rcases List.mem_append.mp hcode with hcode | hcode
    · exact absurd ⟨code, hcode, hcodeValue⟩ hnotExt
    · exact absurd ⟨code, hcode, hcodeValue⟩ hnot28
  have hstill (himage : t.image = s.image) : Seeks (s.CommandOnDisk ch value) s t :=
    of_image himage hother
  have hwritten (hseeks : Seeks True s t) : Seeks (s.CommandOnDisk ch value) s t :=
    hseeks.congr rfl (iff_of_true trivial hother)
  obtain ⟨-, h⟩ | ⟨-, h⟩ := ite_eq_ok h
  · exact hstill (by simp [← Except.ok.inj h])
  obtain ⟨-, h⟩ | ⟨-, h⟩ := ite_eq_ok h
  · exact hstill (by simp [← Except.ok.inj h])
  obtain ⟨-, h⟩ | ⟨-, h⟩ := ite_eq_ok h
  · exact hwritten (writeCommand h)
  obtain ⟨-, h⟩ | ⟨-, h⟩ := ite_eq_ok h
  · exact hwritten (writeCommand h)
  obtain ⟨-, h⟩ | ⟨-, h⟩ := ite_eq_ok h
  · exact hstill (by simp [← Except.ok.inj h])
  obtain ⟨-, h⟩ | ⟨-, h⟩ := ite_eq_ok h
  · exact hstill (image_setDriveParameters h)
  obtain ⟨-, h⟩ | ⟨-, h⟩ := ite_eq_ok h
  · exact hstill (image_identify h)
  obtain ⟨-, h⟩ | ⟨-, h⟩ := ite_eq_ok h
  · exact hstill (by simp [← Except.ok.inj h])
  obtain ⟨-, h⟩ | ⟨-, h⟩ := ite_eq_ok h
  · exact hstill (by simp [← Except.ok.inj h])
  obtain ⟨-, h⟩ | ⟨-, h⟩ := ite_eq_ok h
  · exact hstill (by simp [← Except.ok.inj h])
  obtain ⟨-, h⟩ | ⟨-, h⟩ := ite_eq_ok h
  · exact hstill (image_atapiIdentify h)
  obtain ⟨-, h⟩ | ⟨-, h⟩ := ite_eq_ok h
  · exact hstill (by simp [← Except.ok.inj h])
  obtain ⟨-, h⟩ | ⟨-, h⟩ := ite_eq_ok h
  · exact hstill (by simp [← Except.ok.inj h])
  obtain ⟨-, h⟩ | ⟨-, h⟩ := ite_eq_ok h
  · exact hstill (by simp [← Except.ok.inj h])
  obtain ⟨-, h⟩ | ⟨-, h⟩ := ite_eq_ok h
  · exact hstill (by simp [← Except.ok.inj h])
  obtain ⟨-, h⟩ | ⟨-, h⟩ := ite_eq_ok h
  · exact hstill (by simp [← Except.ok.inj h, hardDiskReadDma])
  obtain ⟨-, h⟩ | ⟨-, h⟩ := ite_eq_ok h
  · exact hstill (by simp [← Except.ok.inj h, hardDiskReadDma])
  obtain ⟨-, h⟩ | ⟨-, h⟩ := ite_eq_ok h
  · exact hstill (by simp [← Except.ok.inj h, hardDiskWriteDma])
  obtain ⟨-, h⟩ | ⟨-, h⟩ := ite_eq_ok h
  · exact hstill (by simp [← Except.ok.inj h, hardDiskWriteDma])
  obtain ⟨-, h⟩ | ⟨-, h⟩ := ite_eq_ok h
  · exact hstill (by simp [← Except.ok.inj h])
  obtain ⟨-, h⟩ | ⟨-, h⟩ := ite_eq_ok h
  · exact hstill (by simp [← Except.ok.inj h])
  · exact hstill (by simp [← Except.ok.inj h])

/-- The command register. -/
lemma writeCommandRegister {value : BitVec 32}
    (h : hardDiskWriteCommandRegister ch value s = .ok t) :
    Seeks ((s.channel ch).dnum = 0 → (s.controller ch).hasStatus ideStatusBusy = false →
      (switched ch s).CommandOnDisk ch value) s t := by
  simp only [hardDiskWriteCommandRegister] at h
  obtain ⟨hdnum, h⟩ | ⟨hdnum, h⟩ := ite_eq_ok h
  · obtain rfl := Except.ok.inj h
    exact of_image rfl fun hzero => absurd hzero hdnum
  obtain ⟨hbusy, h⟩ | ⟨hbusy, h⟩ := ite_eq_ok h
  · obtain rfl := Except.ok.inj h
    exact of_image rfl fun _ hidle => absurd hbusy (Bool.eq_false_iff.mp hidle)
  have hidle : (s.controller ch).hasStatus ideStatusBusy = false := Bool.eq_false_iff.mpr hbusy
  refine (command h).congr rfl ?_
  split
  · rename_i hten
    refine iff_of_true (fun hread => absurd hread (by decide)) fun _ _ hread => ?_
    obtain ⟨code, hcode, rfl⟩ := hread
    have hall : ∀ code ∈ readCommandsExt ++ readCommands28,
        ¬ code.setWidth 32 &&& 0xf0 = (0x10 : BitVec 32) := by decide
    exact absurd hten (hall code hcode)
  · exact ⟨fun hc _ _ => hc, fun hc => hc (not_not.mp hdnum) hidle⟩

/-- The data request that goes before the fetch of a next block has no bearing on its address. -/
lemma blockOnDisk_requestBlock (ch : Fin 4) (s : HardDisk) :
    (s.modifyController ch AtaController.requestBlock).BlockOnDisk ch ↔ s.BlockOnDisk ch :=
  blockOnDisk_congr rfl (by rw [HardDisk.drive_modifyController]; rfl)
    (by rw [HardDisk.controller_modifyController]; rfl)

lemma blockEmptied (h : hardDiskBlockEmptied ch s = .ok t) :
    Seeks ((s.controller ch).numberOfSectors ≠ 0 → s.BlockOnDisk ch) s t := by
  unfold hardDiskBlockEmptied at h
  obtain ⟨hmore, h⟩ | ⟨hlast, h⟩ := ite_eq_ok h
  · obtain ⟨⟨u, n⟩, hread, h⟩ := bind_eq_ok.mp h
    refine ((readSector hread).congr rfl ?_).then_image ?_
    · rw [blockOnDisk_requestBlock]
      exact ⟨fun hb _ => hb, fun hb => hb hmore⟩
    · rw [← Except.ok.inj h, image_raiseInterrupt, HardDisk.image_modifyController]
  · exact of_image (by rw [← Except.ok.inj h, HardDisk.image_modifyDrive]) fun hmore =>
      absurd hmore hlast

/-- The end of a block keeps the count and the address, wherever the guest is in the buffer. -/
lemma bytesTaken (h : hardDiskBytesTaken ch s = .ok t) :
    Seeks (¬ (s.controller ch).bufferIndex < (s.controller ch).bufferSize →
      (s.controller ch).numberOfSectors ≠ 0 →
        (s.modifyDrive ch AtaDrive.endOfBlockRead).BlockOnDisk ch) s t := by
  unfold hardDiskBytesTaken at h
  obtain ⟨hmid, h⟩ | ⟨hend, h⟩ := ite_eq_ok h
  · exact of_image (by rw [← Except.ok.inj h]) fun hend => absurd hmid hend
  · have hcount : ((s.modifyDrive ch AtaDrive.endOfBlockRead).controller ch).numberOfSectors =
        (s.controller ch).numberOfSectors := by
      rw [HardDisk.controller_modifyDrive]
      exact (s.drive ch).endOfBlockRead_registers.numberOfSectors
    refine (blockEmptied h).congr rfl ?_
    rw [hcount]
    exact ⟨fun hb _ => hb, fun hb => hb hend⟩

/-- Taking bytes from the buffer has no bearing on the next block. -/
lemma blockOnDisk_advance (ch : Fin 4) (length : BitVec 32) (s : HardDisk) :
    ((s.modifyController ch (AtaController.advance length)).modifyDrive ch
      AtaDrive.endOfBlockRead).BlockOnDisk ch ↔
        (s.modifyDrive ch AtaDrive.endOfBlockRead).BlockOnDisk ch := by
  refine blockOnDisk_congr rfl ?_ ?_
  · rw [HardDisk.drive_modifyDrive, HardDisk.drive_modifyDrive, HardDisk.drive_modifyController,
      AtaDrive.addressOf_endOfBlockRead, AtaDrive.addressOf_endOfBlockRead]
    rfl
  · rw [HardDisk.controller_modifyDrive, HardDisk.controller_modifyDrive,
      AtaDrive.endOfBlockRead_bufferSize, AtaDrive.endOfBlockRead_bufferSize,
      HardDisk.drive_modifyController]
    rfl

lemma readData {length value : BitVec 32} (h : hardDiskReadData ch length s = .ok (t, value)) :
    Seeks ((s.controller ch).bufferIndex < (s.controller ch).bufferSize →
      ¬ (s.controller ch).bufferSize < (s.controller ch).bufferIndex + length →
      ¬ (s.controller ch).bufferIndex + length < (s.controller ch).bufferSize →
      (s.controller ch).numberOfSectors ≠ 0 →
        (s.modifyDrive ch AtaDrive.endOfBlockRead).BlockOnDisk ch) s t := by
  simp only [hardDiskReadData] at h
  obtain ⟨-, h⟩ | ⟨hunread, h⟩ := ite_eq_ok h
  · cases h
  obtain ⟨hlong, h⟩ | ⟨hfits, h⟩ := ite_eq_ok h
  · exact of_image (by rw [← (Prod.mk.inj (Except.ok.inj h)).1]) fun _ hfits => absurd hlong hfits
  obtain ⟨temp, -, h⟩ := bind_eq_ok.mp h
  obtain ⟨u, htaken, h⟩ := bind_eq_ok.mp h
  obtain ⟨rfl, -⟩ := Prod.mk.inj (Except.ok.inj h)
  refine (bytesTaken htaken).congr rfl ?_
  rw [HardDisk.controller_modifyController, blockOnDisk_advance]
  exact ⟨fun hb _ _ => hb, fun hb => hb (BitVec.not_le.mp hunread) hfits⟩

lemma blockFilled (h : hardDiskBlockFilled ch s = .ok t) : Seeks True s t := by
  obtain ⟨⟨u, n⟩, hwrite, h⟩ := bind_eq_ok.mp h
  refine (writeSector hwrite).then_image ?_
  obtain ⟨-, h⟩ | ⟨-, h⟩ := ite_eq_ok h
  · rw [← Except.ok.inj h]
  · rw [← Except.ok.inj h, image_raiseInterrupt, HardDisk.image_modifyDrive]

lemma writeData {value length : BitVec 32} (h : hardDiskWriteData ch value length s = .ok t) :
    Seeks True s t := by
  simp only [hardDiskWriteData] at h
  obtain ⟨-, h⟩ | ⟨-, h⟩ := ite_eq_ok h
  · cases h
  obtain ⟨buffer, -, h⟩ := bind_eq_ok.mp h
  obtain ⟨-, h⟩ | ⟨-, h⟩ := ite_eq_ok h
  · exact of_image (by rw [← Except.ok.inj h, HardDisk.image_modifyController]) trivial
  · exact (blockFilled h).congr rfl Iff.rfl

lemma readDataPort {length value : BitVec 32}
    (h : hardDiskReadDataPort ch length s = .ok (t, value)) :
    Seeks (s.NextOnDisk ch length) s t := by
  simp only [hardDiskReadDataPort] at h
  obtain ⟨hnone, h⟩ | ⟨hreq, h⟩ := ite_eq_ok h
  · exact of_image (by rw [← (Prod.mk.inj (Except.ok.inj h)).1]) fun hreq => by simp [hreq] at hnone
  obtain ⟨hread, h⟩ | ⟨hother, h⟩ := ite_eq_ok h
  · refine (readData h).congr rfl ?_
    exact ⟨fun hb _ _ => hb, fun hb => hb (by simpa using hreq) hread⟩
  have hvacuous : s.NextOnDisk ch length := fun _ hread => absurd hread hother
  obtain ⟨-, h⟩ | ⟨-, h⟩ := ite_eq_ok h
  · exact of_image (image_readIdentity h) hvacuous
  obtain ⟨-, h⟩ | ⟨-, h⟩ := ite_eq_ok h
  · exact of_image (image_readReply h) hvacuous
  · exact of_image (by rw [← (Prod.mk.inj (Except.ok.inj h)).1]) hvacuous

lemma writeDataPort {value length : BitVec 32}
    (h : hardDiskWriteDataPort ch value length s = .ok t) : Seeks True s t := by
  simp only [hardDiskWriteDataPort] at h
  obtain ⟨-, h⟩ | ⟨-, h⟩ := ite_eq_ok h
  · exact writeData h
  obtain ⟨-, h⟩ | ⟨-, h⟩ := ite_eq_ok h
  · exact of_image (image_writePacket h) trivial
  · exact of_image (by rw [← Except.ok.inj h]) trivial

lemma portWrite {address value length : BitVec 32}
    (h : hardDiskPortIoWriteHandler address value length s = .ok t) :
    Seeks (DiskEvent.OnDisk s (.portWrite address value length)) s t := by
  simp only [hardDiskPortIoWriteHandler] at h
  simp only [DiskEvent.OnDisk]
  set ch := (s.decode address).1 with hch
  set port := (s.decode address).2 with hport
  have hstill {n : BitVec 32} (hn : port = n) (hseven : n ≠ 7) (himage : t.image = s.image) :
      Seeks (port = 7 → (s.channel ch).dnum = 0 →
        (s.controller ch).hasStatus ideStatusBusy = false → (switched ch s).CommandOnDisk ch value)
        s t :=
    of_image himage fun h => absurd (hn.symm.trans h) hseven
  obtain ⟨hport, h⟩ | ⟨-, h⟩ := ite_eq_ok h
  · refine (writeDataPort h).congr rfl (iff_of_true trivial fun hseven => ?_)
    exact absurd (hport.symm.trans hseven) (by decide)
  obtain ⟨hport, h⟩ | ⟨-, h⟩ := ite_eq_ok h
  · exact hstill hport (by decide) (by rw [← Except.ok.inj h, HardDisk.image_modifyControllers])
  obtain ⟨hport, h⟩ | ⟨-, h⟩ := ite_eq_ok h
  · exact hstill hport (by decide) (by rw [← Except.ok.inj h, HardDisk.image_modifyControllers])
  obtain ⟨hport, h⟩ | ⟨-, h⟩ := ite_eq_ok h
  · exact hstill hport (by decide) (by rw [← Except.ok.inj h, HardDisk.image_modifyControllers])
  obtain ⟨hport, h⟩ | ⟨-, h⟩ := ite_eq_ok h
  · exact hstill hport (by decide) (by rw [← Except.ok.inj h, HardDisk.image_modifyControllers])
  obtain ⟨hport, h⟩ | ⟨-, h⟩ := ite_eq_ok h
  · exact hstill hport (by decide) (by rw [← Except.ok.inj h, HardDisk.image_modifyControllers])
  obtain ⟨hport, h⟩ | ⟨-, h⟩ := ite_eq_ok h
  · exact hstill hport (by decide) (by
      rw [← Except.ok.inj h, HardDisk.image_modifyControllers, HardDisk.image_setChannel])
  obtain ⟨hport, h⟩ | ⟨hnot, h⟩ := ite_eq_ok h
  · refine (writeCommandRegister h).congr rfl ?_
    exact ⟨fun hc _ => hc, fun hc => hc hport⟩
  obtain ⟨-, h⟩ | ⟨-, h⟩ := ite_eq_ok h
  · exact of_image (by rw [← Except.ok.inj h, image_writeControl]) fun hseven => absurd hseven hnot
  · exact of_image (by rw [← Except.ok.inj h]) fun hseven => absurd hseven hnot

lemma portRead {address length value : BitVec 32}
    (h : hardDiskPortIoReadHandler address length s = .ok (t, value)) :
    Seeks (DiskEvent.OnDisk s (.portRead address length)) s t := by
  simp only [hardDiskPortIoReadHandler] at h
  simp only [DiskEvent.OnDisk]
  set ch := (s.decode address).1 with hch
  set port := (s.decode address).2 with hport
  obtain ⟨hport, h⟩ | ⟨hnot, h⟩ := ite_eq_ok h
  · refine (readDataPort h).congr rfl ?_
    exact ⟨fun hb _ => hb, fun hb => hb hport⟩
  have hstill (himage : t.image = s.image) :
      Seeks (port = 0 → s.NextOnDisk ch length) s t :=
    of_image himage fun hzero => absurd hzero hnot
  have hread {x : BitVec 32} (h : (Except.ok (s, x) : HardDiskOutcome _) = .ok (t, value)) :
      Seeks (port = 0 → s.NextOnDisk ch length) s t :=
    hstill (by rw [(Prod.mk.inj (Except.ok.inj h)).1])
  obtain ⟨-, h⟩ | ⟨-, h⟩ := ite_eq_ok h
  · exact hread h
  obtain ⟨-, h⟩ | ⟨-, h⟩ := ite_eq_ok h
  · exact hread h
  obtain ⟨-, h⟩ | ⟨-, h⟩ := ite_eq_ok h
  · exact hread h
  obtain ⟨-, h⟩ | ⟨-, h⟩ := ite_eq_ok h
  · exact hread h
  obtain ⟨-, h⟩ | ⟨-, h⟩ := ite_eq_ok h
  · exact hread h
  obtain ⟨-, h⟩ | ⟨-, h⟩ := ite_eq_ok h
  · exact hread h
  obtain ⟨-, h⟩ | ⟨-, h⟩ := ite_eq_ok h
  · obtain ⟨-, h⟩ | ⟨-, h⟩ := ite_eq_ok h
    · exact hstill (by rw [← (Prod.mk.inj (Except.ok.inj h)).1]; rfl)
    · exact hread h
  obtain ⟨-, h⟩ | ⟨-, h⟩ := ite_eq_ok h
  · obtain ⟨-, h⟩ | ⟨-, h⟩ := ite_eq_ok h
    · exact hstill (by rw [← (Prod.mk.inj (Except.ok.inj h)).1, HardDisk.image_modifyController])
    · exact hread h
  obtain ⟨-, h⟩ | ⟨-, h⟩ := ite_eq_ok h
  · exact hread h
  · exact hread h

lemma bmdmaRead {n : ℕ} {bytes : List (BitVec 8)}
    (h : hardDiskBmdmaReadSector ch s = .ok (t, n, bytes)) :
    Seeks (DiskEvent.OnDisk s (.bmdmaRead ch)) s t := by
  simp only [hardDiskBmdmaReadSector] at h
  simp only [DiskEvent.OnDisk]
  obtain ⟨hdma, h⟩ | ⟨hother, h⟩ := ite_eq_ok h
  · obtain ⟨hzero, h⟩ | ⟨hsome, h⟩ := ite_eq_ok h
    · exact of_image (by rw [(Prod.mk.inj (Except.ok.inj h)).1]) fun _ hsome => absurd hzero hsome
    · obtain ⟨⟨u, ret⟩, hread, h⟩ := bind_eq_ok.mp h
      obtain ⟨rfl, -⟩ := Prod.mk.inj (Except.ok.inj h)
      exact (readSector hread).congr rfl ⟨fun hb _ _ => hb, fun hb => hb hdma hsome⟩
  have hstill (himage : t.image = s.image) :
      Seeks ((s.controller ch).currentCommand ∈ [ideCommandReadDma, ideCommandReadDmaExt] →
        (s.controller ch).numberOfSectors ≠ 0 → s.BlockOnDisk ch) s t :=
    of_image himage fun hdma _ => absurd hdma hother
  obtain ⟨-, h⟩ | ⟨-, h⟩ := ite_eq_ok h
  · obtain ⟨-, h⟩ | ⟨-, h⟩ := ite_eq_ok h
    · obtain ⟨-, h⟩ | ⟨-, h⟩ := ite_eq_ok h
      · exact hstill (by rw [(Prod.mk.inj (Except.ok.inj h)).1])
      · exact hstill (by rw [← (Prod.mk.inj (Except.ok.inj h)).1, HardDisk.image_modifyController])
    · obtain ⟨copied, -, h⟩ := bind_eq_ok.mp h
      exact hstill (by rw [← (Prod.mk.inj (Except.ok.inj h)).1])
  · exact hstill (by rw [← (Prod.mk.inj (Except.ok.inj h)).1, image_commandAborted])

lemma bmdmaWrite {n : ℕ} (h : hardDiskBmdmaWriteSector ch s = .ok (t, n)) : Seeks True s t := by
  simp only [hardDiskBmdmaWriteSector] at h
  obtain ⟨-, h⟩ | ⟨-, h⟩ := ite_eq_ok h
  · exact of_image (by rw [← (Prod.mk.inj (Except.ok.inj h)).1, image_commandAborted]) trivial
  obtain ⟨-, h⟩ | ⟨-, h⟩ := ite_eq_ok h
  · exact of_image (by rw [(Prod.mk.inj (Except.ok.inj h)).1]) trivial
  · exact writeSector h

/-- What an event adds to the log of seeks. -/
lemma event {a : DiskEvent} (h : hardDiskStep s a = .ok t) : Seeks (a.OnDisk s) s t := by
  cases a with
  | portWrite address value length => exact portWrite h
  | portRead address length =>
      obtain ⟨⟨u, value⟩, hread, h⟩ := bind_eq_ok.mp h
      obtain rfl := Except.ok.inj h
      exact portRead hread
  | seekTimer =>
      obtain rfl := Except.ok.inj h
      exact of_image (image_seekTick.trans image_seekTick) trivial
  | bdmaComplete ch =>
      obtain rfl := Except.ok.inj h
      exact of_image (by rw [hardDiskBdmaComplete, image_raiseInterrupt,
        HardDisk.image_modifyDrive])
        trivial
  | bmdmaRead ch =>
      obtain ⟨⟨u, n, bytes⟩, hread, h⟩ := bind_eq_ok.mp h
      obtain rfl := Except.ok.inj h
      exact bmdmaRead hread
  | bmdmaWrite ch =>
      obtain ⟨⟨u, n⟩, hwrite, h⟩ := bind_eq_ok.mp h
      obtain rfl := Except.ok.inj h
      exact bmdmaWrite hwrite

end HardDisk.Seeks

/-! ## Runs -/

/-- A write whose block leaves the disk ends with an error. -/
lemma writeSector_past {s t : HardDisk} {ch : Fin 4} {n : ℕ}
    (h : hardDiskWriteSector ch s = .ok (t, n)) (hpast : ¬ s.BlockOnDisk ch) :
    n = 0 ∧ (t.controller ch).hasStatus ideStatusError = true := by
  obtain ⟨⟨d, image, complete⟩, hloop, h⟩ := bind_eq_ok.mp h
  obtain rfl : complete = false := writeSectorLoop_past hloop hpast
  obtain ⟨rfl, rfl⟩ := Prod.mk.inj (Except.ok.inj h)
  refine ⟨rfl, ?_⟩
  rw [HardDisk.controller, hardDiskCommandAborted, drive_raiseInterrupt,
    HardDisk.drive_modifyController]
  simp [AtaController.aborted, AtaController.hasStatus, ideStatusError, ideStatusBusy,
    ideStatusDriveRdy, ideStatusDevReq, ideStatusCorrectedData]

/-- On every run the offsets sought are all on the disk exactly when every block that a read was
about to fetch was, and a write whose block leaves the disk is stopped with an error. -/
theorem seeks_on_disk_iff (s : HardDisk) (events : List DiskEvent) {t : HardDisk}
    (h : run hardDiskStep s events = .ok t) :
    (t.image.SeeksOnDisk ↔ s.image.SeeksOnDisk ∧ Meets hardDiskStep DiskEvent.OnDisk s events) ∧
      ∀ ch u n, hardDiskWriteSector ch t = .ok (u, n) → ¬ t.BlockOnDisk ch →
        n = 0 ∧ (u.controller ch).hasStatus ideStatusError = true := by
  refine ⟨Meets.iff_of_step (L := fun s : HardDisk => s.image.SeeksOnDisk) ?_ h, ?_⟩
  · exact fun u a v hstep => (HardDisk.Seeks.event hstep).2
  · exact fun ch u n hwrite hpast => writeSector_past hwrite hpast

/-- `READ MULTIPLE` of the last two sectors of the disk. -/
def lastSectorsRead : List DiskEvent :=
  [.portWrite 0x1f6 0x40 1, .portWrite 0x1f2 2 1, .portWrite 0x1f7 0xc6 1, .portWrite 0x1f3 62 1,
    .portWrite 0x1f7 0xc4 1]

theorem seeks_on_disk_iff_read :
    ∃ t, run hardDiskStep (hardDiskInitialize numberedImage ⟨0, fun _ => []⟩ 0)
        lastSectorsRead = .ok t ∧
      t.image.seeks = [62 * 512, 63 * 512] ∧ t.image.SeeksOnDisk ∧
      ∀ ch u n, hardDiskWriteSector ch t = .ok (u, n) → ¬ t.BlockOnDisk ch →
        n = 0 ∧ (u.controller ch).hasStatus ideStatusError = true := by
  have hends : ends (fun t : HardDisk => t.image.seeks = [62 * 512, 63 * 512])
      (run hardDiskStep (hardDiskInitialize numberedImage ⟨0, fun _ => []⟩ 0)
        lastSectorsRead) = true := by
    decide +kernel
  have hmeets : Meets hardDiskStep DiskEvent.OnDisk
      (hardDiskInitialize numberedImage ⟨0, fun _ => []⟩ 0) lastSectorsRead := by
    decide +kernel
  have hempty : numberedImage.SeeksOnDisk := fun _ hmem => absurd hmem List.not_mem_nil
  obtain ⟨t, ht, hseeks⟩ := exists_of_ends _ hends
  obtain ⟨hiff, hwrites⟩ := seeks_on_disk_iff _ _ ht
  exact ⟨t, ht, hseeks, hiff.mpr ⟨hempty, hmeets⟩, hwrites⟩

/-- `READ MULTIPLE` of two sectors, from the last one of the disk on. -/
theorem seek_beyond_disk :
    ∃ t, run hardDiskStep (hardDiskInitialize numberedImage ⟨0, fun _ => []⟩ 0)
        [.portWrite 0x1f6 0x40 1, .portWrite 0x1f2 2 1, .portWrite 0x1f7 0xc6 1,
          .portWrite 0x1f3 63 1, .portWrite 0x1f7 0xc4 1] = .ok t ∧
      (¬ t.image.SeeksOnDisk ∧ t.image.seeks = [63 * 512, 0xfffffffffffffe00]) ∧
      (t.controller 0).hasStatus ideStatusError = false := by
  have hends : ends (fun t : HardDisk => t.image.seeks = [63 * 512, 0xfffffffffffffe00] ∧
      t.image.size = 64 * 512 ∧ (t.controller 0).hasStatus ideStatusError = false)
      (run hardDiskStep (hardDiskInitialize numberedImage ⟨0, fun _ => []⟩ 0)
        [.portWrite 0x1f6 0x40 1, .portWrite 0x1f2 2 1, .portWrite 0x1f7 0xc6 1,
          .portWrite 0x1f3 63 1, .portWrite 0x1f7 0xc4 1]) = true := by
    decide +kernel
  obtain ⟨t, ht, hseeks, hsize, hstatus⟩ := exists_of_ends _ hends
  refine ⟨t, ht, ⟨fun hon => ?_, hseeks⟩, hstatus⟩
  have hlast := hon 0xfffffffffffffe00 (hseeks ▸ List.mem_cons_of_mem _ (List.mem_singleton_self _))
  rw [hsize] at hlast
  exact absurd hlast (by decide)

end Svmm
