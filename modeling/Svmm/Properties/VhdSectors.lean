import Svmm.Construction.VhdSectors
import Svmm.Properties.Vhd
import Svmm.Properties.HardDisk.Seeks

/-!
# Sector reads from a virtual hard disk

The disk controllers see a disk as its size and its content.  A virtual hard disk that was opened is
such a disk as long as the sectors read are readable: the loop over the functions of `vhd.c` leaves
the drive as the loop over the content does, after any reads before.  What a read changes of the
image are the two pointers only.
-/

namespace Svmm

open TransitionRun

/-! ## What a read changes of the image -/

/-- Nothing but the pointers has changed. -/
structure VhdImage.SameDisk (image image' : VhdImage) : Prop where
  file : SameBytes image.file image'.file
  cbSize : image'.cbSize = image.cbSize
  table : image'.pBlockAllocationTable = image.pBlockAllocationTable
  entries : image'.cBlockAllocationTableEntries = image.cBlockAllocationTableEntries
  sectors : image'.cSectorsPerDataBlock = image.cSectorsPerDataBlock
  bitmap : image'.cDataBlockBitmapSectors = image.cDataBlockBitmapSectors

namespace VhdImage.SameDisk

variable {image image' image'' : VhdImage}

lemma refl (image : VhdImage) : image.SameDisk image := ⟨⟨rfl, rfl⟩, rfl, rfl, rfl, rfl, rfl⟩

lemma trans (h : image.SameDisk image') (h' : image'.SameDisk image'') :
    image.SameDisk image'' :=
  ⟨⟨h'.file.1.trans h.file.1, h'.file.2.trans h.file.2⟩, h'.cbSize.trans h.cbSize,
    h'.table.trans h.table, h'.entries.trans h.entries, h'.sectors.trans h.sectors,
    h'.bitmap.trans h.bitmap⟩

lemma seek (offset : BitVec 64) (image : VhdImage) : image.SameDisk (vhdSeek offset image) :=
  ⟨⟨rfl, rfl⟩, rfl, rfl, rfl, rfl, rfl⟩

end VhdImage.SameDisk

lemma vhdReadAt_sameBytes {file file' : ByteFile} {offset : BitVec 64} {count : ℕ}
    {buffer buffer' : ℕ → BitVec 8}
    (h : vhdReadAt file offset count buffer = .ok (file', buffer')) : SameBytes file file' := by
  rw [vhdReadAt_of_lt (lt_of_vhdReadAt h)] at h
  obtain ⟨rfl, -⟩ := Prod.mk.inj (Except.ok.inj h)
  exact ⟨rfl, rfl⟩

lemma vhdRead_sameDisk {image image' : VhdImage} {buffer buffer' : ℕ → BitVec 8}
    {size : BitVec 64} (h : vhdRead buffer size image = .ok (image', buffer')) :
    image.SameDisk image' := by
  unfold vhdRead at h
  cases htable : image.pBlockAllocationTable with
  | none =>
      simp only [htable] at h
      obtain ⟨⟨file, bytes⟩, hread, h⟩ := bind_eq_ok.mp h
      obtain ⟨rfl, -⟩ := Prod.mk.inj (Except.ok.inj h)
      exact ⟨vhdReadAt_sameBytes hread, rfl, htable.symm, rfl, rfl, rfl⟩
  | some table =>
      simp only [htable] at h
      split at h
      · cases h
      split at h
      · cases h
      split at h
      · cases h
      obtain ⟨⟨file, bytes⟩, hread, h⟩ := bind_eq_ok.mp h
      obtain ⟨rfl, -⟩ := Prod.mk.inj (Except.ok.inj h)
      exact ⟨vhdReadAt_sameBytes hread, rfl, htable.symm, rfl, rfl, rfl⟩

/-! ## An open image -/

/-- What opening a file leaves, as far as reads of sectors are concerned. -/
structure VhdOpen (f : ByteFile) (image : VhdImage) : Prop where
  small : f.size < 2 ^ 63
  known : vhdDiskType? f = some vhdFooterDiskTypeFixed ∨
    vhdDiskType? f = some vhdFooterDiskTypeDynamic
  fixed : vhdDiskType? f = some vhdFooterDiskTypeFixed →
    SameBytes f image.file ∧ image.pBlockAllocationTable = none
  dynamic : vhdDiskType? f = some vhdFooterDiskTypeDynamic → ∀ l, vhdLayout? f = some l →
    SameBytes f image.file ∧ VhdLoaded f l image

namespace VhdOpen

variable {f : ByteFile} {image image' : VhdImage} {k : ℕ}

lemma congr (h : VhdOpen f image) (hsame : image.SameDisk image') : VhdOpen f image' := by
  have hbytes (hf : SameBytes f image.file) : SameBytes f image'.file :=
    ⟨hsame.file.1.trans hf.1, hsame.file.2.trans hf.2⟩
  refine ⟨h.small, h.known, fun hfixed => ?_, fun hdynamic l hl => ?_⟩
  · obtain ⟨hf, htable⟩ := h.fixed hfixed
    exact ⟨hbytes hf, hsame.table.trans htable⟩
  · obtain ⟨hf, hloaded⟩ := h.dynamic hdynamic l hl
    refine ⟨hbytes hf, ⟨?_, ?_, ?_, ?_⟩⟩
    · rw [hsame.entries]
      exact hloaded.entries
    · rw [hsame.sectors]
      exact hloaded.sectors
    · rw [hsame.bitmap]
      exact hloaded.bitmap
    · rw [hsame.table]
      exact hloaded.table

/-- A read of a readable sector returns its bytes. -/
lemma readsSector (h : VhdOpen f image) (hk : k < 2 ^ 55) (hreadable : VhdReadable f k) :
    VhdReadsSector f image k := by
  rcases h.known with hfixed | hdynamic
  · obtain ⟨hsame, htable⟩ := h.fixed hfixed
    rw [VhdReadable, if_pos hfixed] at hreadable
    exact (vhdReadsSector_fixed h.small hsame htable hk hfixed).mpr hreadable
  · have hfixed : vhdDiskType? f ≠ some vhdFooterDiskTypeFixed := by
      rw [hdynamic]
      exact fun heq => absurd (Option.some.inj heq) (by decide)
    rw [VhdReadable, if_neg hfixed] at hreadable
    obtain ⟨l, entry, hl, hsectors, hentry, hfound⟩ := hreadable
    obtain ⟨hsame, hloaded⟩ := h.dynamic hdynamic l hl
    exact (vhdReadsSector_dynamic hsame hloaded hk hfixed hl hsectors hentry).mpr hfound

end VhdOpen

/-! ## Blocks -/

/-- The content of a disk image is what the format gives the sectors of a file. -/
structure ShowsVhd (f : ByteFile) (image : VhdImage) (disk : DiskImage) : Prop where
  size : disk.size = image.cbSize
  content : ∀ k j x, j < 512 → vhdSectorByte? f k j = some x → disk.content (k * 512 + j) = x

/-- The first sectors that the address registers step through are on the disk and readable. -/
def AtaDrive.SectorsReadable (f : ByteFile) (image : VhdImage) (n : ℕ) (d : AtaDrive) : Prop :=
  ∀ k < n, (d.sectorAddress k).toNat < image.cbSize.toNat / 512 ∧
    VhdReadable f (d.sectorAddress k).toNat

section Loop

variable {f : ByteFile} {image : VhdImage} {disk : DiskImage} {d : AtaDrive} {n i : ℕ}

/-- A pass of the loop, at a sector that a read returns. -/
lemma vhdReadSectorLoop_succ {image' : VhdImage} {bytes : ℕ → BitVec 8}
    (hdisk : d.logicalAddress.toNat < image.cbSize.toNat / 512)
    (hroom : i + 512 ≤ d.controller.buffer.size)
    (hread : vhdRead (fun j => d.controller.buffer.byte (i + j)) 512
      (vhdSeek (BitVec.ofNat 64 (512 * d.logicalAddress.toNat)) image) = .ok (image', bytes)) :
    vhdReadSectorLoop (n + 1) i (d, image) =
      vhdReadSectorLoop n (i + 512)
        (d.sectorRead fun j =>
            if i ≤ j ∧ j < i + 512 then bytes (j - i) else d.controller.buffer.byte j, image') := by
  have hoffset : d.logicalAddress * 512 = BitVec.ofNat 64 (512 * d.logicalAddress.toNat) := by
    apply BitVec.eq_of_toNat_eq
    rw [BitVec.toNat_mul, BitVec.toNat_ofNat, Nat.mul_comm]
    rfl
  have hbuffer : d.controller.buffer.readVhd i
      (vhdSeek (d.logicalAddress * 512) image) = .ok (image', { d.controller.buffer with
        byte := fun j =>
          if i ≤ j ∧ j < i + 512 then bytes (j - i) else d.controller.buffer.byte j }) := by
    replace hread : vhdRead (fun j => d.controller.buffer.byte (i + j))
        (BitVec.ofNat 64 hardDiskSectorSize)
        (vhdSeek (BitVec.ofNat 64 (512 * d.logicalAddress.toNat)) image) = .ok (image', bytes) :=
      hread
    rw [AtaBuffer.readVhd, hoffset, hread]
    exact if_pos hroom
  rw [vhdReadSectorLoop]
  simp only [calculateLogicalAddress_of_lt hdisk, hbuffer, ok_bind]
  rfl

lemma size_sectorRead (byte : ℕ → BitVec 8) :
    (d.sectorRead byte).controller.buffer.size = d.controller.buffer.size := by
  simp only [AtaDrive.sectorRead, AtaDrive.incrementAddress]
  split
  · simp only [AtaController.setLba]
    split <;> rfl
  · simp only [AtaDrive.incrementChs]
    split
    · split
      · split <;> rfl
      · rfl
    · rfl

/-- The loop over the functions of `vhd.c` and the loop over the content leave the same drive. -/
lemma vhdReadSectorLoop_spec (hopen : VhdOpen f image) (hshows : ShowsVhd f image disk)
    (hreadable : d.SectorsReadable f image n) (hroom : i + n * 512 ≤ d.controller.buffer.size) :
    ∃ d' image' disk', vhdReadSectorLoop n i (d, image) = .ok (d', image') ∧
      readSectorLoop n i (d, disk) = .ok (d', disk') ∧ image.SameDisk image' := by
  induction n generalizing i d image disk with
  | zero => exact ⟨d, image, disk, rfl, rfl, .refl image⟩
  | succ n ih =>
      obtain ⟨hdisk, hreadable₀⟩ :
          d.logicalAddress.toNat < image.cbSize.toNat / 512 ∧
            VhdReadable f d.logicalAddress.toNat := hreadable 0 (Nat.succ_pos n)
      have hk : d.logicalAddress.toNat < 2 ^ 55 := by
        have := image.cbSize.isLt
        omega
      obtain ⟨image₁, bytes, hread, hbytes⟩ := hopen.readsSector hk hreadable₀
        fun j => d.controller.buffer.byte (i + j)
      have hsame : image.SameDisk image₁ := (VhdImage.SameDisk.seek _ image).trans
        (vhdRead_sameDisk hread)
      have hflat : d.logicalAddress.toNat < disk.size.toNat / 512 := by
        rw [hshows.size]
        exact hdisk
      -- both passes fill the buffer with the same bytes
      have hfill : (fun j => if i ≤ j ∧ j < i + 512 then bytes (j - i)
          else d.controller.buffer.byte j) = fun j => if i ≤ j ∧ j < i + 512 then
            disk.content (d.logicalAddress.toNat * 512 + (j - i))
          else d.controller.buffer.byte j := by
        funext j
        by_cases hj : i ≤ j ∧ j < i + 512
        · rw [if_pos hj, if_pos hj]
          exact (hshows.content _ _ _ (by omega) (hbytes _ (by omega))).symm
        · rw [if_neg hj, if_neg hj]
      set d₁ := d.sectorRead fun j => if i ≤ j ∧ j < i + 512 then
        disk.content (d.logicalAddress.toNat * 512 + (j - i)) else d.controller.buffer.byte j
      have haddress : d₁.addressOf = d.stepped.addressOf := by
        show (AtaDrive.incrementAddress _ _).1.addressOf =
          (AtaDrive.incrementAddress d _).1.addressOf
        rw [AtaDrive.addressOf_incrementAddress, AtaDrive.addressOf_incrementAddress d]
        rfl
      have hreadable₁ : d₁.SectorsReadable f image₁ n := by
        intro k hk
        rw [AtaDrive.sectorAddress_congr haddress, hsame.cbSize]
        exact hreadable (k + 1) (Nat.succ_lt_succ hk)
      have hroom₁ : i + 512 + n * 512 ≤ d₁.controller.buffer.size := by
        rw [size_sectorRead]
        omega
      have hshows₁ : ShowsVhd f image₁ (disk.seek (d.logicalAddress * 512)) :=
        ⟨hshows.size.trans hsame.cbSize.symm, hshows.content⟩
      obtain ⟨d', image', disk', hloop, hflatLoop, hsame'⟩ :=
        ih (hopen.congr hsame) hshows₁ hreadable₁ hroom₁
      refine ⟨d', image', disk', ?_, ?_, hsame.trans hsame'⟩
      · rw [vhdReadSectorLoop_succ hdisk (by omega) hread, hfill]
        exact hloop
      · rw [readSectorLoop_succ hflat (by omega)]
        exact hflatLoop

/-- A loop that comes to its end has changed nothing of the image but the pointers. -/
lemma vhdReadSectorLoop_sameDisk {d' : AtaDrive} {image' : VhdImage}
    (h : vhdReadSectorLoop n i (d, image) = .ok (d', image')) : image.SameDisk image' := by
  induction n generalizing i d image with
  | zero =>
      obtain ⟨-, rfl⟩ := Prod.mk.inj (Except.ok.inj h)
      exact .refl image
  | succ n ih =>
      rw [vhdReadSectorLoop] at h
      obtain ⟨⟨image₁, buffer⟩, hbuffer, h⟩ := bind_eq_ok.mp h
      refine VhdImage.SameDisk.trans ?_ (ih h)
      rw [AtaBuffer.readVhd] at hbuffer
      split at hbuffer
      · split at hbuffer
        · cases hbuffer
        · rename_i hread
          obtain ⟨rfl, -⟩ := Prod.mk.inj (Except.ok.inj hbuffer)
          exact (VhdImage.SameDisk.seek _ image).trans (vhdRead_sameDisk hread)
      · cases hbuffer

end Loop

/-! ## Reads from a file that was opened -/

section Opened

variable {file : ByteFile} {image image' : VhdImage}

lemma VhdOpen.of_initialize {stack : ℕ → BitVec 8} (hsize : file.size < 2 ^ 63)
    (h : vhdInitializeHardDisk file stack = .ok image)
    (htype : vhdDiskType? file = some vhdFooterDiskTypeFixed ∨
      vhdDiskType? file = some vhdFooterDiskTypeDynamic) : VhdOpen file image :=
  ⟨hsize, htype, (vhdOpened hsize h).1, (vhdOpened hsize h).2⟩

/-- Nothing but the pointers changes in a run of reads. -/
lemma sameDisk_of_run {reads : List AtaDrive}
    (h : TransitionRun.run vhdReadStep image reads = .ok image') : image.SameDisk image' := by
  have hstep : ∀ s d t, image.SameDisk s → True → vhdReadStep s d = .ok t → image.SameDisk t := by
    intro s d t hs _ ht
    obtain ⟨⟨d', t'⟩, hloop, ht⟩ := bind_eq_ok.mp ht
    obtain rfl := Except.ok.inj ht
    exact hs.trans (vhdReadSectorLoop_sameDisk hloop)
  exact run_invariant hstep (.refl image) (Meets.always image reads) h

/-- `HardDiskReadSector` over a virtual hard disk refines the one over a disk of the same content:
from a file that was opened, and after any blocks read from it, a block of readable sectors leaves
the same drive. -/
theorem vhd_block_refines {stack : ℕ → BitVec 8} (hsize : file.size < 2 ^ 63)
    (h : vhdInitializeHardDisk file stack = .ok image)
    (htype : vhdDiskType? file = some vhdFooterDiskTypeFixed ∨
      vhdDiskType? file = some vhdFooterDiskTypeDynamic)
    {reads : List AtaDrive} (hrun : TransitionRun.run vhdReadStep image reads = .ok image')
    {ch : Fin 4} {s : HardDisk} (hshows : ShowsVhd file image s.image)
    (hroom : sectorPasses (s.controller ch).bufferSize * 512 ≤ (s.controller ch).buffer.size)
    (hreadable : (s.drive ch).SectorsReadable file image
      (sectorPasses (s.controller ch).bufferSize)) :
    ∃ d image'' t, vhdReadSectors image' (s.drive ch) = .ok (d, image'') ∧
      hardDiskReadSector ch s = .ok (t, sectorPasses (s.controller ch).bufferSize * 512) ∧
      t.drive ch = d := by
  have hsame := sameDisk_of_run hrun
  have hopen := (VhdOpen.of_initialize hsize h htype).congr hsame
  have hshows' : ShowsVhd file image' s.image :=
    ⟨hshows.size.trans hsame.cbSize.symm, hshows.content⟩
  have hreadable' : (s.drive ch).SectorsReadable file image'
      (sectorPasses (s.controller ch).bufferSize) := by
    intro k hk
    rw [hsame.cbSize]
    exact hreadable k hk
  obtain ⟨d, image'', disk', hloop, hflat, -⟩ := vhdReadSectorLoop_spec hopen hshows' hreadable'
    (by rwa [Nat.zero_add])
  refine ⟨d, image'', { s.modifyDrive ch fun _ => d with image := disk' }, hloop, ?_, ?_⟩
  · rw [hardDiskReadSector]
    simp only [hflat, ok_bind]
    rfl
  · exact s.drive_modifyDrive ch fun _ => d

end Opened

/-- The disk that the sectors of a file make up. -/
def vhdDisk (f : ByteFile) (image : VhdImage) : DiskImage :=
  { size := image.cbSize
    content := fun p => (vhdSectorByte? f (p / 512) (p % 512)).getD 0
    offset := 0
    seeks := []
    writes := []
    writeSucceeds := fun _ => true }

lemma shows_vhdDisk (f : ByteFile) (image : VhdImage) : ShowsVhd f image (vhdDisk f image) := by
  refine ⟨rfl, fun k j x hj hx => ?_⟩
  have hdiv : (k * 512 + j) / 512 = k := by omega
  have hmod : (k * 512 + j) % 512 = j := by omega
  show (vhdSectorByte? f ((k * 512 + j) / 512) ((k * 512 + j) % 512)).getD 0 = x
  rw [hdiv, hmod, hx]
  rfl

/-- The registers of a block of two sectors from sector 4094 on. -/
def AtaController.lastSectors (c : AtaController) : AtaController :=
  { c with
    bufferSize := 1024
    addressMode := 0x40
    cylinderNumber := 0x0f
    sectorNumber := 0xfe }

/-- The drive of that disk, about to read the block. -/
def lastSectors (disk : DiskImage) : HardDisk :=
  (hardDiskInitialize disk ⟨0, fun _ => []⟩ 0).modifyController 0 AtaController.lastSectors

/-- The last two sectors of a disk of one block. -/
theorem vhd_block_refines_last : ∃ image d image' t,
    vhdInitializeHardDisk (dynamicDisk [0, 0, 0, 4] 0x200c00) (fun _ => 0) = .ok image ∧
      let s := lastSectors (vhdDisk (dynamicDisk [0, 0, 0, 4] 0x200c00) image)
      vhdReadSectors image (s.drive 0) = .ok (d, image') ∧
        hardDiskReadSector 0 s = .ok (t, 1024) ∧ t.drive 0 = d := by
  obtain ⟨image, himage, hsize⟩ := exists_of_ends (fun image : VhdImage =>
    image.cbSize = 0x200000) (show ends _
      (vhdInitializeHardDisk (dynamicDisk [0, 0, 0, 4] 0x200c00) fun _ => 0) = true by
        decide +kernel)
  have hdynamic : vhdDiskType? (dynamicDisk [0, 0, 0, 4] 0x200c00) =
      some vhdFooterDiskTypeDynamic := by decide +kernel
  have hlayout : vhdLayout? (dynamicDisk [0, 0, 0, 4] 0x200c00) = some ⟨1536, 1, 0x200000⟩ := by
    decide +kernel
  have hentry : VhdLayout.entry? ⟨1536, 1, 0x200000⟩ 0 (dynamicDisk [0, 0, 0, 4] 0x200c00) =
      some 4 := by decide +kernel
  have hreadable (k : ℕ) (hk : k < 4096) :
      VhdReadable (dynamicDisk [0, 0, 0, 4] 0x200c00) k := by
    have hblock : k / 4096 = 0 := Nat.div_eq_of_lt hk
    have hindex : k % 4096 = k := Nat.mod_eq_of_lt hk
    have hbitmap : VhdLayout.bitmapSectors ⟨1536, 1, 0x200000⟩ = 1 := by decide
    have hregular : VhdLayout.Regular ⟨1536, 1, 0x200000⟩ k := by
      refine ⟨by decide, ?_⟩
      show 4 * (k / 4096) < 4 * 1 % 2 ^ 32
      rw [hblock]
      decide
    rw [VhdReadable,
      if_neg (by rw [hdynamic]; exact fun h => absurd (Option.some.inj h) (by decide))]
    refine ⟨⟨1536, 1, 0x200000⟩, 4, hlayout, by decide, ?_, ?_⟩
    · show VhdLayout.entry? ⟨1536, 1, 0x200000⟩ (k / 4096) _ = some 4
      rw [hblock]
      exact hentry
    · rw [VhdLayout.Found, if_pos hregular, hbitmap]
      refine ⟨by decide, ?_⟩
      show ((4 : BitVec 32).toNat + 1 + k % 4096) * 512 + 512 ≤ 0x200c00
      rw [hindex, show (4 : BitVec 32).toNat = 4 from rfl]
      omega
  set s := lastSectors (vhdDisk (dynamicDisk [0, 0, 0, 4] 0x200c00) image)
  have hdrive : s.drive 0 = _ := HardDisk.drive_modifyController 0 _ _
  have hbuffer : (s.controller 0).bufferSize = 1024 := by
    rw [HardDisk.controller_eq_drive, hdrive]
    rfl
  have hpasses : sectorPasses (s.controller 0).bufferSize = 2 := by
    rw [hbuffer]
    decide
  have hroom : (s.controller 0).buffer.size = 16 * 512 + 6 := by
    rw [HardDisk.controller_eq_drive, hdrive]
    rfl
  set last : AtaDrive := { initialDisk 0x200000 with
    controller := (initialDisk 0x200000).controller.lastSectors } with hlast
  have haddress : (s.drive 0).addressOf = last.addressOf := by
    rw [hdrive, hlast, ← hsize]
    rfl
  have haddresses : (s.drive 0).sectorAddress 0 = 4094 ∧ (s.drive 0).sectorAddress 1 = 4095 := by
    rw [AtaDrive.sectorAddress_congr haddress, AtaDrive.sectorAddress_congr haddress]
    decide +kernel
  have hsectors : (s.drive 0).SectorsReadable (dynamicDisk [0, 0, 0, 4] 0x200c00) image
      (sectorPasses (s.controller 0).bufferSize) := by
    intro k hk
    rw [hsize]
    obtain rfl | rfl : k = 0 ∨ k = 1 := by omega
    · rw [haddresses.1]
      exact ⟨by decide, hreadable 4094 (by decide)⟩
    · rw [haddresses.2]
      exact ⟨by decide, hreadable 4095 (by decide)⟩
  have hstart : TransitionRun.run vhdReadStep image [] = .ok image := rfl
  obtain ⟨d, image', t, hloop, hflat, hread⟩ := vhd_block_refines (by decide) himage
    (Or.inr hdynamic) hstart (shows_vhdDisk _ image) (by rw [hpasses, hroom]; decide) hsectors
  rw [hpasses] at hflat
  exact ⟨image, d, image', t, himage, hloop, hflat, hread⟩

end Svmm
