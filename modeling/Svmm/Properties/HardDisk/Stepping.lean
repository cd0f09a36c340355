import Svmm.Properties.HardDisk.PortMoves

/-!
# The successor of an address

`HardDiskIncrementAddress` steps what `HardDiskCalculateLogicalAddress` reads.  In the LBA modes the
step is right up to the last address that the registers hold.  In CHS mode the carry out of the
sector register goes to the head, and the carry out of the head is looked for in the sector
register, which has just been set to 1: the head counts on past the last one.
-/

namespace Svmm

open TransitionRun HardDisk.Moves

namespace AtaDrive

/-! ## Geometry -/

/-- The geometry that `HardDiskInitialize` gives a disk. -/
structure HasGeometry (size : BitVec 64) (d : AtaDrive) : Prop where
  cylinders : d.cylinders = size / (16 * 63 * 512)
  heads : d.heads = 16
  spt : d.spt = 63

/-- The cylinder, the head and the sector. -/
def chs (d : AtaDrive) : ℕ × ℕ × ℕ :=
  (d.controller.cylinderNumber.toNat, d.controller.headNumber.toNat,
    d.controller.sectorNumber.toNat)

/-- The registers are within the geometry. -/
structure ChsInRange (d : AtaDrive) : Prop where
  cylinder : d.controller.cylinderNumber.toNat < d.cylinders.toNat
  head : d.controller.headNumber.toNat < d.heads.toNat
  sector_pos : 1 ≤ d.controller.sectorNumber.toNat
  sector_le : d.controller.sectorNumber.toNat ≤ d.spt.toNat

/-- The registers hold an address of their mode: in LBA28 the head has four bits. -/
def AddressInRange (d : AtaDrive) : Prop :=
  if d.controller.addressMode = 0 then d.ChsInRange
  else d.controller.lba48 = 0 → d.controller.headNumber.toNat < 16

/-- The order of the addresses: sector, head, cylinder. -/
def nextChs (d : AtaDrive) : ℕ × ℕ × ℕ :=
  let (cylinder, head, sector) := d.chs
  if sector < d.spt.toNat then (cylinder, head, sector + 1)
  else if head + 1 < d.heads.toNat then (cylinder, head + 1, 1)
  else (cylinder + 1, 0, 1)

/-! ## What is asked of a step -/

/-- The drive after `HardDiskIncrementAddress` of the address that it holds. -/
def incremented (size : BitVec 64) (d : AtaDrive) : AtaDrive :=
  (d.incrementAddress (d.calculateLogicalAddress size)).1

/-- The next address is the one after, and the registers step through the geometry in its order. -/
structure StepsRight (size : BitVec 64) (d : AtaDrive) : Prop where
  address : (d.calculateLogicalAddress size).toNat + 1 < size.toNat / 512 →
    (d.incremented size).calculateLogicalAddress size = d.calculateLogicalAddress size + 1
  range : d.controller.addressMode = 0 → (d.incremented size).ChsInRange
  order : d.controller.addressMode = 0 → d.nextChs.1 < d.cylinders.toNat →
    (d.incremented size).chs = d.nextChs

/-- In CHS mode the address is not the last one of a cylinder; in LBA48 it is not the last one that
the registers hold, on a disk that goes on after it. -/
def StepsWithin (size : BitVec 64) (d : AtaDrive) : Prop :=
  if d.controller.addressMode = 0 then
    ¬ (d.controller.sectorNumber.toNat = 63 ∧ d.controller.headNumber.toNat = 15)
  else d.controller.lba48 ≠ 0 → d.logicalAddress.toNat + 1 < size.toNat / 512 →
    d.logicalAddress.toNat + 1 < 2 ^ 48

/-- The counts of sectors are down by a number. -/
def CountsOff (n : ℕ) (d e : AtaDrive) : Prop :=
  e.controller.sectorCount = d.controller.sectorCount - BitVec.ofNat 8 n ∧
    e.controller.numberOfSectors = d.controller.numberOfSectors - BitVec.ofNat 32 n

end AtaDrive

/-- The number of calls of `VhdWrite` that succeeded. -/
def DiskImage.written (image : DiskImage) : ℕ :=
  (List.range image.writes.length).countP image.writeSucceeds

/-- A transfer counts off every sector that it moves, which are all sectors of the block unless a
write is given up. -/
structure HardDisk.CountsSectors (ch : Fin 4) (s : HardDisk) : Prop where
  read : ∀ t bytes, hardDiskReadSector ch s = .ok (t, bytes) →
    ∃ n, t.image.seeks.length = s.image.seeks.length + n ∧ bytes = n * 512 ∧
      n = sectorPasses (s.controller ch).bufferSize ∧ (s.drive ch).CountsOff n (t.drive ch)
  write : ∀ t bytes, hardDiskWriteSector ch s = .ok (t, bytes) →
    ∃ n, t.image.written = s.image.written + n ∧ (bytes ≠ 0 → bytes = n * 512) ∧
      (bytes = sectorPasses (s.controller ch).bufferSize * 512 ↔
        n = sectorPasses (s.controller ch).bufferSize) ∧ (s.drive ch).CountsOff n (t.drive ch)

/-! ## Cylinders, heads and sectors -/

namespace AtaDrive

section Chs

variable {size : BitVec 64} {d : AtaDrive}

lemma toNat_add_one {x : BitVec 8} (h : x.toNat < 255) : (x + 1).toNat = x.toNat + 1 := by
  rw [BitVec.toNat_add]
  exact Nat.mod_eq_of_lt (by omega : x.toNat + 1 < 2 ^ 8)

/-- Within a track the sector is stepped; at its end the head is, whatever it is. -/
lemma incrementChs_eq (hgeometry : d.HasGeometry size) (hrange : d.ChsInRange) :
    d.incrementChs =
      if d.controller.sectorNumber.toNat < 63 then
        { d.controller with sectorNumber := d.controller.sectorNumber + 1 }
      else { d.controller with sectorNumber := 1, headNumber := d.controller.headNumber + 1 } := by
  have hle := hrange.sector_le
  have hspt : d.spt.toNat = 63 := by rw [hgeometry.spt]; rfl
  have hnext : (d.controller.sectorNumber + 1).toNat = d.controller.sectorNumber.toNat + 1 :=
    toNat_add_one (by omega)
  have hlt : d.spt < (d.controller.sectorNumber + 1).setWidth 64 ↔
      ¬ d.controller.sectorNumber.toNat < 63 := by
    rw [BitVec.lt_def, BitVec.toNat_setWidth, hnext, hspt]
    omega
  unfold incrementChs
  dsimp only
  by_cases hinner : d.controller.sectorNumber.toNat < 63
  · rw [if_pos hinner, if_neg fun h => hlt.mp h hinner]
  · rw [if_neg hinner, if_pos (hlt.mpr hinner), if_neg]
    rw [hgeometry.heads]
    decide

/-- The drive with one sector counted off. -/
def counted (d : AtaDrive) : AtaDrive :=
  { d with controller := { d.controller with
    sectorCount := d.controller.sectorCount - 1
    numberOfSectors := d.controller.numberOfSectors - 1 } }

lemma incremented_of_chs (hmode : d.controller.addressMode = 0) :
    d.incremented size = { d.counted with controller := d.counted.incrementChs } := by
  unfold incremented incrementAddress
  rw [if_neg (not_not_intro hmode)]
  rfl

lemma incremented_of_lba (hmode : d.controller.addressMode ≠ 0) :
    d.incremented size =
      { d.counted with
        controller := d.counted.controller.setLba (d.calculateLogicalAddress size + 1) } := by
  unfold incremented incrementAddress
  rw [if_pos hmode]
  rfl

/-- What the registers hold after a step. -/
lemma chs_incremented (hmode : d.controller.addressMode = 0) (hgeometry : d.HasGeometry size)
    (hrange : d.ChsInRange) :
    (d.incremented size).chs =
      if d.controller.sectorNumber.toNat < 63 then
        (d.controller.cylinderNumber.toNat, d.controller.headNumber.toNat,
          d.controller.sectorNumber.toNat + 1)
      else (d.controller.cylinderNumber.toNat, d.controller.headNumber.toNat + 1, 1) := by
  have hhead := hrange.head
  have hheads : d.heads.toNat = 16 := by rw [hgeometry.heads]; rfl
  have hcounted : d.counted.HasGeometry size :=
    ⟨hgeometry.cylinders, hgeometry.heads, hgeometry.spt⟩
  have hcountedRange : d.counted.ChsInRange :=
    ⟨hrange.cylinder, hrange.head, hrange.sector_pos, hrange.sector_le⟩
  have hsector : d.counted.controller.sectorNumber = d.controller.sectorNumber := rfl
  rw [incremented_of_chs hmode, incrementChs_eq hcounted hcountedRange, hsector]
  by_cases hinner : d.controller.sectorNumber.toNat < 63
  · rw [if_pos hinner, if_pos hinner, ← toNat_add_one (by omega)]
    rfl
  · rw [if_neg hinner, if_neg hinner, ← toNat_add_one (by omega)]
    rfl

lemma addressMode_incremented (hmode : d.controller.addressMode = 0)
    (hgeometry : d.HasGeometry size) (hrange : d.ChsInRange) :
    (d.incremented size).controller.addressMode = 0 := by
  have hcounted : d.counted.HasGeometry size :=
    ⟨hgeometry.cylinders, hgeometry.heads, hgeometry.spt⟩
  have hcountedRange : d.counted.ChsInRange :=
    ⟨hrange.cylinder, hrange.head, hrange.sector_pos, hrange.sector_le⟩
  rw [incremented_of_chs hmode, incrementChs_eq hcounted hcountedRange]
  split
  · exact hmode
  · exact hmode

/-- The address that the registers hold, also with a head past the last one. -/
lemma toNat_logicalAddress_chs (hmode : d.controller.addressMode = 0) (hsector : 1 ≤ d.chs.2.2) :
    d.logicalAddress.toNat = d.chs.1 * 1008 + d.chs.2.1 * 63 + (d.chs.2.2 - 1) := by
  have hcylinder := d.controller.cylinderNumber.isLt
  have hhead := d.controller.headNumber.isLt
  have hlt := d.controller.sectorNumber.isLt
  unfold chs at hsector ⊢
  unfold logicalAddress hardDiskHeads hardDiskSectors
  dsimp only at hsector ⊢
  rw [if_neg (not_not_intro hmode)]
  bv_omega

/-- An address below another one of the disk is the one that the registers hold. -/
lemma calculateLogicalAddress_of_next
    (hdisk : (d.calculateLogicalAddress size).toNat + 1 < size.toNat / 512) :
    d.calculateLogicalAddress size = d.logicalAddress := by
  unfold calculateLogicalAddress at hdisk ⊢
  by_cases hbeyond : size / 512 ≤ d.logicalAddress
  · rw [if_pos hbeyond] at hdisk
    have hsize := size.isLt
    have hones : ((-1 : BitVec 64)).toNat = 2 ^ 64 - 1 := by decide
    omega
  · rw [if_neg hbeyond]

lemma toNat_next (hdisk : (d.calculateLogicalAddress size).toNat + 1 < size.toNat / 512) :
    (d.calculateLogicalAddress size + 1).toNat = (d.calculateLogicalAddress size).toNat + 1 := by
  have hsize := size.isLt
  rw [BitVec.toNat_add]
  exact Nat.mod_eq_of_lt (by omega : (d.calculateLogicalAddress size).toNat + 1 < 2 ^ 64)

/-- In CHS mode every step goes on to the next address. -/
lemma address_incremented_chs (hmode : d.controller.addressMode = 0)
    (hgeometry : d.HasGeometry size) (hrange : d.ChsInRange)
    (hdisk : (d.calculateLogicalAddress size).toNat + 1 < size.toNat / 512) :
    (d.incremented size).calculateLogicalAddress size = d.calculateLogicalAddress size + 1 := by
  have hpos := hrange.sector_pos
  have hle := hrange.sector_le
  have hspt : d.spt.toNat = 63 := by rw [hgeometry.spt]; rfl
  have hregisters := calculateLogicalAddress_of_next hdisk
  have hbefore := toNat_logicalAddress_chs hmode hpos
  have hchs := chs_incremented hmode hgeometry hrange
  have hmode' := addressMode_incremented hmode hgeometry hrange
  have hafter : (d.incremented size).logicalAddress.toNat =
      (d.calculateLogicalAddress size).toNat + 1 := by
    rw [toNat_logicalAddress_chs hmode' (by rw [hchs]; split <;> simp), hregisters, hbefore, hchs]
    unfold chs
    split
    · dsimp only
      omega
    · dsimp only
      omega
  rw [calculateLogicalAddress_of_lt (by rw [hafter]; exact hdisk)]
  apply BitVec.eq_of_toNat_eq
  rw [hafter, toNat_next hdisk]

lemma geometry_incremented (hmode : d.controller.addressMode = 0) :
    (d.incremented size).cylinders = d.cylinders ∧ (d.incremented size).heads = d.heads ∧
      (d.incremented size).spt = d.spt := by
  rw [incremented_of_chs hmode]
  exact ⟨rfl, rfl, rfl⟩

/-- The registers are within the geometry, by what they hold. -/
lemma chsInRange_incremented_iff (hmode : d.controller.addressMode = 0)
    (hgeometry : d.HasGeometry size) {cylinder head sector : ℕ}
    (hchs : (d.incremented size).chs = (cylinder, head, sector)) :
    (d.incremented size).ChsInRange ↔
      cylinder < d.cylinders.toNat ∧ head < 16 ∧ 1 ≤ sector ∧ sector ≤ 63 := by
  obtain ⟨hcylinders, hheads, hspt⟩ := @geometry_incremented size d hmode
  obtain ⟨hcylinder, hrest⟩ := Prod.mk.inj hchs
  obtain ⟨hhead, hsector⟩ := Prod.mk.inj hrest
  have hheads' : (d.incremented size).heads.toNat = 16 := by rw [hheads, hgeometry.heads]; rfl
  have hspt' : (d.incremented size).spt.toNat = 63 := by rw [hspt, hgeometry.spt]; rfl
  rw [← hcylinder, ← hhead, ← hsector]
  constructor
  · rintro ⟨h1, h2, h3, h4⟩
    rw [hcylinders] at h1
    rw [hheads'] at h2
    rw [hspt'] at h4
    exact ⟨h1, h2, h3, h4⟩
  · rintro ⟨h1, h2, h3, h4⟩
    rw [← hcylinders] at h1
    exact ⟨h1, by rw [hheads']; exact h2, h3, by rw [hspt']; exact h4⟩

/-- In CHS mode the registers step through the geometry exactly before the end of a cylinder. -/
lemma stepsRight_chs_iff (hmode : d.controller.addressMode = 0) (hgeometry : d.HasGeometry size)
    (hrange : d.ChsInRange) :
    d.StepsRight size ↔
      ¬ (d.controller.sectorNumber.toNat = 63 ∧ d.controller.headNumber.toNat = 15) := by
  have hle := hrange.sector_le
  have hpos := hrange.sector_pos
  have hhead := hrange.head
  have hspt : d.spt.toNat = 63 := by rw [hgeometry.spt]; rfl
  have hheads : d.heads.toNat = 16 := by rw [hgeometry.heads]; rfl
  have hchs := chs_incremented hmode hgeometry hrange
  have haddress := @address_incremented_chs size d hmode hgeometry hrange
  by_cases hinner : d.controller.sectorNumber.toNat < 63
  · rw [if_pos hinner] at hchs
    refine iff_of_true ⟨haddress, fun _ => ?_, fun _ _ => ?_⟩ fun h => by omega
    · rw [chsInRange_incremented_iff hmode hgeometry hchs]
      exact ⟨hrange.cylinder, by omega, by omega, by omega⟩
    · rw [hchs, nextChs, chs]
      dsimp only
      rw [if_pos (by omega)]
  · rw [if_neg hinner] at hchs
    have hin := chsInRange_incremented_iff hmode hgeometry hchs
    constructor
    · rintro ⟨-, hrange', -⟩ ⟨-, hlast⟩
      obtain ⟨-, hnext, -⟩ := hin.mp (hrange' hmode)
      omega
    · intro hlast
      refine ⟨haddress, fun _ => hin.mpr ⟨hrange.cylinder, by omega, by omega, by omega⟩,
        fun _ _ => ?_⟩
      rw [hchs, nextChs, chs]
      dsimp only
      rw [if_neg (by omega), if_pos (by omega)]

/-! ## Logical addresses -/

/-- In an LBA mode the step is right where the registers hold the next address. -/
lemma address_incremented_lba_iff (hmode : d.controller.addressMode ≠ 0)
    (hdisk : (d.calculateLogicalAddress size).toNat + 1 < size.toNat / 512) :
    (d.incremented size).calculateLogicalAddress size = d.calculateLogicalAddress size + 1 ↔
      (d.calculateLogicalAddress size).toNat + 1 < d.controller.addressSpan := by
  have hregisters := calculateLogicalAddress_of_next hdisk
  have hbelow := logicalAddress_lt_span d hmode
  rw [← hregisters] at hbelow
  have hafter : (d.incremented size).logicalAddress.toNat =
      ((d.calculateLogicalAddress size).toNat + 1) % d.controller.addressSpan := by
    rw [incremented_of_lba hmode, ← toNat_next hdisk]
    exact toNat_logicalAddress_setLba d.counted _ hmode
  have hmod : ((d.calculateLogicalAddress size).toNat + 1) % d.controller.addressSpan ≤
      (d.calculateLogicalAddress size).toNat + 1 := Nat.mod_le _ _
  rw [calculateLogicalAddress_of_lt (by omega), ← BitVec.toNat_inj, hafter, toNat_next hdisk]
  constructor
  · intro heq
    rw [← heq]
    exact Nat.mod_lt _ (by omega)
  · exact Nat.mod_eq_of_lt

/-- Four bits of the head make an address of 28 bits. -/
lemma logicalAddress_lba28_lt (hmode : d.controller.addressMode ≠ 0) (hlba : d.controller.lba48 = 0)
    (hhead : d.controller.headNumber.toNat < 16) : d.logicalAddress.toNat < 2 ^ 28 := by
  have hplaced : (d.controller.headNumber.setWidth 64 <<< 24).toNat < 2 ^ 28 := by
    rw [BitVec.toNat_shiftLeft, BitVec.toNat_setWidth, Nat.shiftLeft_eq]
    omega
  have hsector : (d.controller.sectorNumber.setWidth 64).toNat < 2 ^ 28 := by
    rw [BitVec.toNat_setWidth]
    omega
  unfold logicalAddress
  dsimp only
  rw [if_pos hmode, if_neg (not_not_intro hlba)]
  exact toNat_or_lt (toNat_or_lt hplaced (toNat_placed_lt _ (by decide))) hsector

lemma stepsRight_lba_iff (hmode : d.controller.addressMode ≠ 0)
    (hhead : d.controller.lba48 = 0 → d.controller.headNumber.toNat < 16) :
    d.StepsRight size ↔
      (d.controller.lba48 ≠ 0 → d.logicalAddress.toNat + 1 < size.toNat / 512 →
        d.logicalAddress.toNat + 1 < 2 ^ 48) := by
  have hregisters (hnext : d.logicalAddress.toNat + 1 < size.toNat / 512) :
      d.calculateLogicalAddress size = d.logicalAddress :=
    calculateLogicalAddress_of_lt (by omega)
  constructor
  · rintro ⟨haddress, -, -⟩ hlba hnext
    have hspan : d.controller.addressSpan = 2 ^ 48 := if_pos hlba
    have hcalculated := hregisters hnext
    have hdisk : (d.calculateLogicalAddress size).toNat + 1 < size.toNat / 512 := by
      rw [hcalculated]
      exact hnext
    have hfits := (address_incremented_lba_iff hmode hdisk).mp (haddress hdisk)
    rw [hcalculated, hspan] at hfits
    exact hfits
  · intro hfits
    refine ⟨fun hdisk => ?_, fun h => absurd h hmode, fun h => absurd h hmode⟩
    have hcalculated := calculateLogicalAddress_of_next hdisk
    rw [address_incremented_lba_iff hmode hdisk]
    rw [hcalculated] at hdisk ⊢
    unfold AtaController.addressSpan
    by_cases hlba : d.controller.lba48 = 0
    · have hbelow := logicalAddress_lba28_lt hmode hlba (hhead hlba)
      rw [if_neg (not_not_intro hlba)]
      omega
    · rw [if_pos hlba]
      exact hfits hlba hdisk

/-- A step is right exactly within what the registers hold. -/
lemma stepsRight_iff (hgeometry : d.HasGeometry size) (hrange : d.AddressInRange) :
    d.StepsRight size ↔ d.StepsWithin size := by
  unfold AddressInRange at hrange
  unfold StepsWithin
  by_cases hmode : d.controller.addressMode = 0
  · rw [if_pos hmode] at hrange ⊢
    exact stepsRight_chs_iff hmode hgeometry hrange
  · rw [if_neg hmode] at hrange ⊢
    exact stepsRight_lba_iff hmode hrange

end Chs

/-! ## Counts -/

section Counts

variable {n i : ℕ} {d d' e : AtaDrive} {image image' : DiskImage} {complete : Bool}

lemma countsOff_zero (d : AtaDrive) : d.CountsOff 0 d := by
  refine ⟨?_, ?_⟩
  · rw [BitVec.sub_zero]
  · rw [BitVec.sub_zero]

/-- A step of the address counts one sector off. -/
lemma countsOff_incrementAddress (d : AtaDrive) (x : BitVec 64) :
    d.CountsOff 1 (d.incrementAddress x).1 := by
  unfold incrementAddress
  dsimp only
  split
  · unfold AtaController.setLba
    split
    · exact ⟨rfl, rfl⟩
    · exact ⟨rfl, rfl⟩
  · unfold incrementChs
    dsimp only
    split
    · split
      · split
        · exact ⟨rfl, rfl⟩
        · exact ⟨rfl, rfl⟩
      · exact ⟨rfl, rfl⟩
    · exact ⟨rfl, rfl⟩

lemma CountsOff.succ (hfirst : d.CountsOff 1 e) (hrest : e.CountsOff n d') :
    d.CountsOff (n + 1) d' := by
  obtain ⟨hcount, hnumber⟩ := hfirst
  obtain ⟨hcount', hnumber'⟩ := hrest
  refine ⟨?_, ?_⟩
  · rw [hcount', hcount, BitVec.sub_sub, BitVec.ofNat_add, BitVec.add_comm]
  · rw [hnumber', hnumber, BitVec.sub_sub, BitVec.ofNat_add, BitVec.add_comm]

lemma countsOff_readSectorLoop (h : readSectorLoop n i (d, image) = .ok (d', image')) :
    image'.seeks.length = image.seeks.length + n ∧ d.CountsOff n d' := by
  induction n generalizing i d image with
  | zero =>
      obtain ⟨rfl, rfl⟩ := Prod.mk.inj (Except.ok.inj h)
      exact ⟨rfl, countsOff_zero d⟩
  | succ n ih =>
      rw [readSectorLoop] at h
      obtain ⟨buffer, -, h⟩ := bind_eq_ok.mp h
      obtain ⟨hseeks, hcount⟩ := ih h
      refine ⟨?_, CountsOff.succ ?_ hcount⟩
      · rw [hseeks]
        simp only [DiskImage.seek, List.length_append, List.length_singleton]
        omega
      · exact countsOff_incrementAddress
          { d with controller := { d.controller with buffer := buffer } } _

/-- A call of `VhdWrite` counts if it succeeds. -/
lemma written_write (block : List (BitVec 8)) (offset : BitVec 64) :
    ((image.seek offset).write block).2.written =
      image.written + if ((image.seek offset).write block).1 then 1 else 0 := by
  unfold DiskImage.written DiskImage.write DiskImage.seek
  dsimp only
  rw [List.length_append, List.length_singleton, List.range_succ, List.countP_append,
    List.countP_singleton]

/-- A write loop counts off the sectors that it wrote, which are all if it comes to its end. -/
lemma countsOff_writeSectorLoop (h : writeSectorLoop n i (d, image) = .ok (d', image', complete)) :
    ∃ m ≤ n, image'.written = image.written + m ∧ (complete = true ↔ m = n) ∧ d.CountsOff m d' := by
  induction n generalizing i d image with
  | zero =>
      obtain ⟨rfl, hrest⟩ := Prod.mk.inj (Except.ok.inj h)
      obtain ⟨rfl, rfl⟩ := Prod.mk.inj hrest
      exact ⟨0, le_rfl, rfl, by simp, countsOff_zero d⟩
  | succ n ih =>
      rw [writeSectorLoop] at h
      by_cases hend : d.calculateLogicalAddress image.size = -1
      · simp only [if_pos hend] at h
        obtain ⟨rfl, hrest⟩ := Prod.mk.inj (Except.ok.inj h)
        obtain ⟨rfl, rfl⟩ := Prod.mk.inj hrest
        exact ⟨0, Nat.zero_le _, rfl, by simp, countsOff_zero d⟩
      · simp only [if_neg hend] at h
        obtain ⟨block, -, h⟩ := bind_eq_ok.mp h
        have hwritten := @written_write image block (d.calculateLogicalAddress image.size * 512)
        split at h
        · rename_i hfails
          rw [if_neg (by simpa using hfails)] at hwritten
          obtain ⟨rfl, hrest⟩ := Prod.mk.inj (Except.ok.inj h)
          obtain ⟨rfl, rfl⟩ := Prod.mk.inj hrest
          exact ⟨0, Nat.zero_le _, hwritten, by simp, countsOff_zero d⟩
        · rename_i hsucceeds
          rw [if_pos (by simpa using hsucceeds)] at hwritten
          obtain ⟨m, hm, hcount, hcomplete, hoff⟩ := ih h
          refine ⟨m + 1, Nat.succ_le_succ hm, ?_, ?_, CountsOff.succ ?_ hoff⟩
          · omega
          · rw [hcomplete]
            omega
          · exact countsOff_incrementAddress d _

end Counts

end AtaDrive

section Transfers

variable {ch : Fin 4} {s : HardDisk}

lemma AtaController.aborted_counts (c : AtaController) :
    c.aborted.sectorCount = c.sectorCount ∧ c.aborted.numberOfSectors = c.numberOfSectors := by
  simp [AtaController.aborted, AtaController.setStatus, AtaController.clearStatus,
    AtaController.updateStatus]

/-- Giving up a command leaves the counts as they are. -/
lemma countsOff_aborted {n : ℕ} {d : AtaDrive} {t : HardDisk} (h : d.CountsOff n (t.drive ch)) :
    d.CountsOff n ((hardDiskCommandAborted ch t).drive ch) := by
  have haborted : ((hardDiskCommandAborted ch t).drive ch).controller =
      (t.controller ch).aborted := by
    rw [hardDiskCommandAborted, drive_raiseInterrupt]
    exact HardDisk.controller_modifyController ch t _
  obtain ⟨hcount, hnumber⟩ := h
  refine ⟨?_, ?_⟩
  · rw [haborted, (AtaController.aborted_counts _).1]
    exact hcount
  · rw [haborted, (AtaController.aborted_counts _).2]
    exact hnumber

/-- The transfers count their sectors in every state. -/
lemma countsSectors (ch : Fin 4) (s : HardDisk) : s.CountsSectors ch := by
  constructor
  · intro t bytes h
    obtain ⟨⟨d, image⟩, hloop, hrest⟩ := bind_eq_ok.mp h
    obtain ⟨rfl, rfl⟩ := Prod.mk.inj (Except.ok.inj hrest)
    obtain ⟨hseeks, hcount⟩ := AtaDrive.countsOff_readSectorLoop hloop
    refine ⟨_, hseeks, rfl, rfl, ?_⟩
    have hdrive : (s.modifyDrive ch fun _ => d).drive ch = d := s.drive_modifyDrive ch _
    rw [← hdrive] at hcount
    exact hcount
  · intro t bytes h
    obtain ⟨⟨d, image, complete⟩, hloop, hrest⟩ := bind_eq_ok.mp h
    obtain ⟨m, hm, hwritten, hcomplete, hcount⟩ := AtaDrive.countsOff_writeSectorLoop hloop
    cases complete with
    | true =>
        obtain ⟨rfl, rfl⟩ := Prod.mk.inj (Except.ok.inj hrest)
        have hdrive : (s.modifyDrive ch fun _ => d).drive ch = d := s.drive_modifyDrive ch _
        rw [← hdrive] at hcount
        obtain rfl := hcomplete.mp rfl
        exact ⟨_, hwritten, fun _ => rfl, iff_of_true rfl rfl, hcount⟩
    | false =>
        obtain ⟨rfl, rfl⟩ := Prod.mk.inj (Except.ok.inj hrest)
        have hdrive : (s.modifyDrive ch fun _ => d).drive ch = d := s.drive_modifyDrive ch _
        rw [← hdrive] at hcount
        have hne : m ≠ sectorPasses (s.controller ch).bufferSize := fun heq =>
          absurd (hcomplete.mpr heq) Bool.false_ne_true
        refine ⟨m, ?_, fun hzero => absurd rfl hzero, iff_of_false (fun hzero => ?_) hne,
          countsOff_aborted hcount⟩
        · rw [image_commandAborted]
          exact hwritten
        · omega

end Transfers

/-- For every address within its mode, a step gives the next address, within the geometry and in
its order, exactly if it is not the last address of a cylinder, nor the last one that the registers
hold.  The transfers count off every sector. -/
theorem ata_steps_right_iff (ch : Fin 4) (s : HardDisk)
    (hgeometry : (s.drive ch).HasGeometry s.image.size) (hrange : (s.drive ch).AddressInRange) :
    (s.drive ch).StepsRight s.image.size ∧ s.CountsSectors ch ↔
      (s.drive ch).StepsWithin s.image.size := by
  rw [and_iff_left (countsSectors ch s)]
  exact AtaDrive.stepsRight_iff hgeometry hrange

/-- An image of two cylinders, at power-on. -/
def twoCylinders : HardDisk :=
  hardDiskInitialize
    { size := 1032192, content := fun _ => 0, offset := 0, seeks := [], writes := []
      writeSucceeds := fun _ => true } { capacity := 0, frame := fun _ => [] } 0

/-- From the last sector of a head a step goes to the first of the next. -/
theorem ata_steps_right_next_head :
    ∃ s, hardDiskWrites [(0x1f3, 63), (0x1f6, 0x02)] twoCylinders = .ok s ∧
      (s.drive 0).StepsRight s.image.size ∧ s.CountsSectors 0 ∧
      ((s.drive 0).incremented s.image.size).controller.headNumber = 3 ∧
      ((s.drive 0).incremented s.image.size).controller.sectorNumber = 1 := by
  obtain ⟨s, hs, hsteps, hcounts⟩ : ∃ s,
      hardDiskWrites [(0x1f3, 63), (0x1f6, 0x02)] twoCylinders = .ok s ∧
        (s.drive 0).StepsRight s.image.size ∧ s.CountsSectors 0 := by
    refine ⟨_, rfl, (ata_steps_right_iff 0 _ ⟨rfl, rfl, rfl⟩ ?_).mpr ?_⟩
    · show AtaDrive.ChsInRange _
      exact ⟨by decide, by decide, by decide, by decide⟩
    · show ¬ (_ ∧ _)
      decide
  refine ⟨s, hs, hsteps, hcounts, ?_⟩
  obtain rfl := Except.ok.inj hs
  exact ⟨rfl, rfl⟩

/-- The last sector of the last head: the head goes on to 16. -/
theorem ata_head_past_last :
    ∃ s, hardDiskWrites [(0x1f3, 63), (0x1f6, 0x0f)] twoCylinders = .ok s ∧
      (s.drive 0).HasGeometry s.image.size ∧ (s.drive 0).AddressInRange ∧
      ((s.drive 0).incremented s.image.size).controller.headNumber = 16 ∧
      ¬ (s.drive 0).StepsRight s.image.size := by
  refine ⟨_, rfl, ⟨rfl, rfl, rfl⟩, ?_, ?_, ?_⟩
  · show AtaDrive.ChsInRange _
    exact ⟨by decide, by decide, by decide, by decide⟩
  · rfl
  · rintro ⟨-, hrange, -⟩
    exact absurd (hrange rfl).head (by decide)

end Svmm
