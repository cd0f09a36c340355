import Svmm.Properties.Vhd

/-!
# What the headers of a virtual hard disk can make a read do

The size of the disk is a field of the footer, the size of a block and the length of the table are
fields of the header of a dynamic disk, and the loader compares none of them with the others.  A
block of less than a sector is a division by zero, and a disk that is longer than the blocks of its
table leads a read past the end of the table.
-/

namespace Svmm

open Bytes TransitionRun

/-! ## The headers -/

/-- The footer and the header of a dynamic disk, as the loader reads them: where the file ends
before, the content of the stack. -/
def vhdFooter (f : ByteFile) (stack : ℕ → BitVec 8) : ℕ → BitVec 8 :=
  ({ f with position := (BitVec.ofNat 64 (f.size - vhdFooterSize)).toNat } : ByteFile).readInto
    vhdFooterSize stack

def vhdDataOffset (f : ByteFile) (stack : ℕ → BitVec 8) : BitVec 64 :=
  bigEndian 64 (fun j => vhdFooter f stack (16 + j)) 8

def vhdDynamicDiskHeader (f : ByteFile) (stack : ℕ → BitVec 8) : ℕ → BitVec 8 :=
  ({ f with position := (vhdDataOffset f stack).toNat } : ByteFile).readInto
    vhdDynamicDiskHeaderSize stack

/-- `DiskType` and `CurSize` of the footer, `MaxTableEntries` and `BlockSize` of the header. -/
def vhdDiskType (f : ByteFile) (stack : ℕ → BitVec 8) : BitVec 32 :=
  bigEndian 32 (fun j => vhdFooter f stack (60 + j)) 4

def vhdCurSize (f : ByteFile) (stack : ℕ → BitVec 8) : BitVec 64 :=
  bigEndian 64 (fun j => vhdFooter f stack (48 + j)) 8

def vhdMaxTableEntries (f : ByteFile) (stack : ℕ → BitVec 8) : BitVec 32 :=
  bigEndian 32 (fun j => vhdDynamicDiskHeader f stack (28 + j)) 4

def vhdBlockSize (f : ByteFile) (stack : ℕ → BitVec 8) : BitVec 32 :=
  bigEndian 32 (fun j => vhdDynamicDiskHeader f stack (32 + j)) 4

/-- The headers fit together: the disk is a fixed one, or it is empty, or its blocks have sectors,
and the last one of the disk has an entry in the table. -/
def VhdHeadersFit (f : ByteFile) (stack : ℕ → BitVec 8) : Prop :=
  vhdDiskType f stack = vhdFooterDiskTypeFixed ∨ vhdCurSize f stack = 0 ∨
    512 ≤ (vhdBlockSize f stack).toNat ∧
      ((vhdCurSize f stack).toNat - 1) / 512 / ((vhdBlockSize f stack).toNat / 512) <
        (vhdMaxTableEntries f stack).toNat

/-! ## Reads -/

/-- A seek, and a read into a buffer. -/
structure VhdRequest where
  offset : BitVec 64
  bufferSize : BitVec 64
  buffer : ℕ → BitVec 8

def vhdServe (image : VhdImage) (r : VhdRequest) : VhdOutcome VhdImage := do
  let (image, _) ← vhdRead r.buffer r.bufferSize (vhdSeek r.offset image)
  return image

/-- A read below the size of the disk divides by no zero and stays in the table. -/
def VhdImage.ReadsInside (image : VhdImage) (r : VhdRequest) : Prop :=
  r.offset < image.cbSize → vhdServe image r ≠ .error .divideByZero ∧
    vhdServe image r ≠ .error .tableOverrun

/-- The two images have the same headers. -/
structure SameHeaders (image t : VhdImage) : Prop where
  cbSize : t.cbSize = image.cbSize
  table : t.pBlockAllocationTable = image.pBlockAllocationTable
  entries : t.cBlockAllocationTableEntries = image.cBlockAllocationTableEntries
  sectors : t.cSectorsPerDataBlock = image.cSectorsPerDataBlock

section Reads

variable {image t u : VhdImage} {r : VhdRequest}

lemma SameHeaders.refl (image : VhdImage) : SameHeaders image image := ⟨rfl, rfl, rfl, rfl⟩

lemma SameHeaders.trans (h : SameHeaders image t) (ht : SameHeaders t u) : SameHeaders image u :=
  ⟨ht.cbSize.trans h.cbSize, ht.table.trans h.table, ht.entries.trans h.entries,
    ht.sectors.trans h.sectors⟩

/-- A read at a place of the file. -/
def vhdServeAt (image : VhdImage) (r : VhdRequest) (place : BitVec 64) : VhdOutcome VhdImage :=
  vhdReadAt image.file place (r.bufferSize.setWidth 32).toNat r.buffer >>= fun x =>
    .ok { vhdSeek r.offset image with file := x.1 }

/-- The entry that a read looks up. -/
def VhdImage.entryOf (image : VhdImage) (offset : BitVec 64) : BitVec 32 :=
  (offset / vhdSectorSize / image.cSectorsPerDataBlock.setWidth 64).setWidth 32

/-- The place of the file that a read of a dynamic disk goes to. -/
def VhdImage.placeOf (image : VhdImage) (table : ℕ → BitVec 32) (offset : BitVec 64) : BitVec 64 :=
  ((table (image.entryOf offset).toNat).setWidth 64 + image.cDataBlockBitmapSectors.setWidth 64 +
    ((offset / vhdSectorSize % image.cSectorsPerDataBlock.setWidth 64).setWidth 32).setWidth 64) *
      vhdSectorSize

lemma vhdServe_fixed (htable : image.pBlockAllocationTable = none) :
    vhdServe image r = vhdServeAt image r r.offset := by
  unfold vhdServe vhdRead vhdServeAt
  simp only [vhdSeek, htable]
  cases vhdReadAt image.file r.offset (r.bufferSize.setWidth 32).toNat r.buffer <;> rfl

lemma vhdServe_dynamic {table : ℕ → BitVec 32} (htable : image.pBlockAllocationTable = some table) :
    vhdServe image r =
      if image.cSectorsPerDataBlock = 0 then .error .divideByZero
      else if image.cBlockAllocationTableEntries ≤ image.entryOf r.offset then .error .tableOverrun
      else if table (image.entryOf r.offset).toNat = 0xffffffff then .error .exit
      else vhdServeAt image r (image.placeOf table r.offset) := by
  unfold vhdServe vhdRead vhdServeAt VhdImage.placeOf VhdImage.entryOf
  simp only [vhdSeek, htable]
  split_ifs
  · rfl
  · rfl
  · rfl
  · generalize vhdReadAt image.file _ _ _ = access
    cases access <;> rfl

/-- A read leaves the headers alone. -/
lemma sameHeaders_vhdServe (h : vhdServe image r = .ok t) : SameHeaders image t := by
  have hat {place : BitVec 64} (hplace : vhdServeAt image r place = .ok t) :
      SameHeaders image t := by
    obtain ⟨x, -, hx⟩ := bind_eq_ok.mp hplace
    cases hx
    exact ⟨rfl, rfl, rfl, rfl⟩
  cases htable : image.pBlockAllocationTable with
  | none =>
      rw [vhdServe_fixed htable] at h
      exact hat h
  | some table =>
      rw [vhdServe_dynamic htable] at h
      split_ifs at h
      exact hat h

lemma vhdServeAt_ne {place : BitVec 64} {fault : VhdFault} (h : fault ≠ .exit) :
    vhdServeAt image r place ≠ .error fault := by
  unfold vhdServeAt vhdReadAt
  split
  · intro heq
    exact h (Except.error.inj heq).symm
  · nofun

/-- A read of a dynamic disk, by what can go wrong. -/
lemma vhdServe_inside_iff {table : ℕ → BitVec 32}
    (htable : image.pBlockAllocationTable = some table) :
    (vhdServe image r ≠ .error .divideByZero ∧ vhdServe image r ≠ .error .tableOverrun) ↔
      image.cSectorsPerDataBlock ≠ 0 ∧
        (image.entryOf r.offset).toNat < image.cBlockAllocationTableEntries.toNat := by
  rw [vhdServe_dynamic htable]
  split_ifs with hsectors hentry hfree
  · exact iff_of_false (fun h => h.1 rfl) fun h => h.1 hsectors
  · exact iff_of_false (fun h => h.2 rfl) fun h => Nat.not_lt.mpr (BitVec.le_def.mp hentry) h.2
  · exact iff_of_true ⟨nofun, nofun⟩ ⟨hsectors, Nat.lt_of_not_le fun h =>
      hentry (BitVec.le_def.mpr h)⟩
  · exact iff_of_true ⟨vhdServeAt_ne (by decide), vhdServeAt_ne (by decide)⟩
      ⟨hsectors, Nat.lt_of_not_le fun h => hentry (BitVec.le_def.mpr h)⟩

end Reads

/-- The entries of all offsets below a size are in a table when that of the last one is. -/
lemma entries_lt_iff {size : BitVec 64} {sectors entries : BitVec 32} (hsize : size ≠ 0)
    (hsectors : sectors ≠ 0) :
    (∀ offset < size, ((offset / vhdSectorSize / sectors.setWidth 64).setWidth 32).toNat <
      entries.toNat) ↔ (size.toNat - 1) / 512 / sectors.toNat < entries.toNat := by
  have hpos : 0 < size.toNat := Nat.pos_of_ne_zero fun h => hsize (BitVec.eq_of_toNat_eq h)
  have hspos : 0 < sectors.toNat := Nat.pos_of_ne_zero fun h => hsectors (BitVec.eq_of_toNat_eq h)
  have hentry (offset : BitVec 64) :
      ((offset / vhdSectorSize / sectors.setWidth 64).setWidth 32).toNat =
      offset.toNat / 512 / sectors.toNat % 2 ^ 32 := by
    rw [BitVec.toNat_setWidth, BitVec.toNat_udiv, BitVec.toNat_udiv,
      BitVec.toNat_setWidth_of_le (by decide)]
    rfl
  constructor
  · intro h
    by_contra hlong
    -- the first offset of the block that is just after the table
    have hblock : entries.toNat * sectors.toNat * 512 ≤ size.toNat - 1 := by
      have hdiv := Nat.le_of_not_lt hlong
      rw [Nat.le_div_iff_mul_le hspos, Nat.le_div_iff_mul_le (by decide)] at hdiv
      exact hdiv
    have hbelow := size.isLt
    have hoffset : (BitVec.ofNat 64 (entries.toNat * sectors.toNat * 512)).toNat =
        entries.toNat * sectors.toNat * 512 := by
      rw [BitVec.toNat_ofNat, Nat.mod_eq_of_lt (by omega)]
    have hlast := h (BitVec.ofNat 64 (entries.toNat * sectors.toNat * 512)) (by
      rw [BitVec.lt_def, hoffset]
      omega)
    rw [hentry, hoffset, Nat.mul_div_cancel _ (by decide), Nat.mul_div_cancel _ hspos,
      Nat.mod_eq_of_lt entries.isLt] at hlast
    exact Nat.lt_irrefl _ hlast
  · intro h offset hoffset
    have hlt : offset.toNat ≤ size.toNat - 1 := by
      have := BitVec.lt_def.mp hoffset
      omega
    have hle : offset.toNat / 512 / sectors.toNat ≤ (size.toNat - 1) / 512 / sectors.toNat :=
      Nat.div_le_div_right (Nat.div_le_div_right hlt)
    rw [hentry]
    exact Nat.lt_of_le_of_lt (Nat.mod_le _ _) (Nat.lt_of_le_of_lt hle h)

/-! ## Loading -/

section Loading

variable {f : ByteFile} {stack : ℕ → BitVec 8} {image : VhdImage}

/-- What the loader takes from the header of a dynamic disk. -/
lemma vhdLoadDynamicDisk_headers {offset : BitVec 64} {image' : VhdImage}
    (h : vhdLoadDynamicDisk offset stack image = .ok image') :
    (∃ table, image'.pBlockAllocationTable = some table) ∧
      image'.cBlockAllocationTableEntries = bigEndian 32 (fun j =>
        ({ image.file with position := offset.toNat } : ByteFile).readInto
          vhdDynamicDiskHeaderSize stack (28 + j)) 4 ∧
      image'.cSectorsPerDataBlock = bigEndian 32 (fun j =>
        ({ image.file with position := offset.toNat } : ByteFile).readInto
          vhdDynamicDiskHeaderSize stack (32 + j)) 4 / 512 := by
  obtain ⟨⟨file, header⟩, hread, h⟩ := bind_eq_ok.mp h
  rw [vhdReadAt_of_lt (lt_of_vhdReadAt hread)] at hread
  obtain ⟨rfl, rfl⟩ := Prod.mk.inj (Except.ok.inj hread)
  simp only at h
  split at h
  · cases h
  split at h
  · cases h
  obtain ⟨⟨file, table⟩, -, h⟩ := bind_eq_ok.mp h
  obtain rfl := Except.ok.inj h
  exact ⟨⟨_, rfl⟩, rfl, rfl⟩

/-- What the loader takes from the headers. -/
lemma vhdLoaded_headers (h : vhdInitializeHardDisk f stack = .ok image) :
    image.cbSize = vhdCurSize f stack ∧
      (vhdDiskType f stack = vhdFooterDiskTypeFixed → image.pBlockAllocationTable = none) ∧
      (vhdDiskType f stack ≠ vhdFooterDiskTypeFixed →
        (∃ table, image.pBlockAllocationTable = some table) ∧
          image.cBlockAllocationTableEntries = vhdMaxTableEntries f stack ∧
          image.cSectorsPerDataBlock = vhdBlockSize f stack / 512) := by
  unfold vhdInitializeHardDisk at h
  split at h
  · cases h
  obtain ⟨⟨file, footer⟩, hread, h⟩ := bind_eq_ok.mp h
  rw [vhdReadAt_of_lt (lt_of_vhdReadAt hread)] at hread
  obtain ⟨rfl, rfl⟩ := Prod.mk.inj (Except.ok.inj hread)
  simp only at h
  split at h
  · cases h
  split at h
  · rename_i hfixed
    cases h
    exact ⟨rfl, fun _ => rfl, fun hdynamic => absurd hfixed hdynamic⟩
  rename_i hdynamic
  split at h
  · obtain ⟨loaded, hloaded, h⟩ := bind_eq_ok.mp h
    obtain rfl := Except.ok.inj h
    obtain ⟨htable, hentries, hsectors⟩ := vhdLoadDynamicDisk_headers hloaded
    simp only [ByteFile.afterRead] at hentries hsectors
    refine ⟨rfl, fun hfixed => absurd hfixed hdynamic, fun _ => ⟨htable, ?_, ?_⟩⟩
    · unfold vhdMaxTableEntries vhdDynamicDiskHeader vhdDataOffset vhdFooter
      exact hentries
    · unfold vhdBlockSize vhdDynamicDiskHeader vhdDataOffset vhdFooter
      exact hsectors
  · cases h

end Loading

section Runs

variable {image : VhdImage}

/-- What is so for every image with the same headers is so along a run of reads. -/
lemma meets_readsInside (hinside : ∀ t, SameHeaders image t → ∀ r, t.ReadsInside r)
    (requests : List VhdRequest) : Meets vhdServe VhdImage.ReadsInside image requests :=
  Meets.of_invariant (I := SameHeaders image) (fun _ _ _ ht _ hu =>
    ht.trans (sameHeaders_vhdServe hu))
    (fun t r ht _ => hinside t ht r) (SameHeaders.refl image) (Meets.always image requests)

/-- The runs of reads of a dynamic disk. -/
lemma meets_readsInside_dynamic_iff {table : ℕ → BitVec 32}
    (htable : image.pBlockAllocationTable = some table) :
    (∀ requests, Meets vhdServe VhdImage.ReadsInside image requests) ↔
      ∀ offset < image.cbSize, image.cSectorsPerDataBlock ≠ 0 ∧
        (image.entryOf offset).toNat < image.cBlockAllocationTableEntries.toNat := by
  constructor
  · intro h offset hoffset
    obtain ⟨r, rfl⟩ : ∃ r : VhdRequest, r.offset = offset := ⟨⟨offset, 512, fun _ => 0⟩, rfl⟩
    have hread := (h [r]).1 hoffset
    exact (vhdServe_inside_iff htable).mp hread
  · intro h requests
    refine meets_readsInside (fun t ht r hoffset => ?_) requests
    rw [ht.cbSize] at hoffset
    have hinside := h r.offset hoffset
    rw [vhdServe_inside_iff (ht.table.trans htable), VhdImage.entryOf, ht.sectors, ht.entries]
    exact hinside

end Runs

/-- Of an image that was opened, no read below the size of the disk divides by zero or looks up an
entry past the table, in any run of reads, exactly when the headers fit together. -/
theorem vhd_headers_inside_iff (file : ByteFile) (stack : ℕ → BitVec 8) (image : VhdImage)
    (h : vhdInitializeHardDisk file stack = .ok image) :
    (∀ requests, Meets vhdServe VhdImage.ReadsInside image requests) ↔
      VhdHeadersFit file stack := by
  obtain ⟨hsize, hfixed, hdynamic⟩ := vhdLoaded_headers h
  unfold VhdHeadersFit
  rw [← hsize]
  by_cases htype : vhdDiskType file stack = vhdFooterDiskTypeFixed
  · refine iff_of_true (meets_readsInside fun t ht r _ => ?_) (Or.inl htype)
    rw [vhdServe_fixed (ht.table.trans (hfixed htype))]
    exact ⟨vhdServeAt_ne (by decide), vhdServeAt_ne (by decide)⟩
  rw [or_iff_right htype]
  obtain ⟨⟨table, htable⟩, hentries, hsectors⟩ := hdynamic htype
  have hsectorsNat : image.cSectorsPerDataBlock.toNat = (vhdBlockSize file stack).toNat / 512 := by
    rw [hsectors, BitVec.toNat_udiv]
    rfl
  have hsectorsZero : image.cSectorsPerDataBlock ≠ 0 ↔ 512 ≤ (vhdBlockSize file stack).toNat := by
    rw [Ne, ← BitVec.toNat_inj, hsectorsNat]
    have hzero : (0 : BitVec 32).toNat = 0 := rfl
    omega
  rw [meets_readsInside_dynamic_iff htable]
  by_cases hempty : image.cbSize = 0
  · refine iff_of_true (fun offset hoffset => ?_) (Or.inl hempty)
    rw [hempty] at hoffset
    exact absurd hoffset BitVec.not_lt_zero
  rw [or_iff_right hempty, ← hsectorsZero, ← hsectorsNat, ← hentries]
  constructor
  · intro hall
    have hpos : 0 < image.cbSize := by
      rw [BitVec.lt_def]
      exact Nat.pos_of_ne_zero fun hzero => hempty (BitVec.eq_of_toNat_eq hzero)
    have hfirst := (hall 0 hpos).1
    exact ⟨hfirst, (entries_lt_iff hempty hfirst).mp fun offset hoffset => (hall offset hoffset).2⟩
  · rintro ⟨hnonzero, hlast⟩ offset hoffset
    exact ⟨hnonzero, (entries_lt_iff hempty hnonzero).mpr hlast offset hoffset⟩

/-- A dynamic disk of 2 MiB, as its footer says, in blocks of 2 MiB. -/
theorem vhd_headers_inside_iff_block : ∃ image,
    vhdInitializeHardDisk (dynamicDisk [0, 0, 0, 4] 0x200c00) (fun _ => 0) = .ok image ∧
      ∀ requests, Meets vhdServe VhdImage.ReadsInside image requests := by
  obtain ⟨image, himage, -⟩ := exists_of_ends (fun image : VhdImage => image.cbSize = 0x200000)
    (show ends _ (vhdInitializeHardDisk (dynamicDisk [0, 0, 0, 4] 0x200c00) fun _ => 0) = true by
      decide +kernel)
  refine ⟨image, himage, (vhd_headers_inside_iff _ _ image himage).mpr ?_⟩
  exact Or.inr (Or.inr ⟨by decide +kernel, by decide +kernel⟩)

/-- The disk with another byte in its file. -/
def patchedDisk (place : ℕ) (value : BitVec 8) : ByteFile :=
  { dynamicDisk [0, 0, 0, 4] 0x200c00 with
    byte := Function.update (dynamicDisk [0, 0, 0, 4] 0x200c00).byte place value }

/-- With blocks of 0 bytes, sector 0 is a division by zero; with a disk of 4 MiB, the second block
has no entry. -/
theorem vhd_headers_break_reads :
    (∃ image, vhdInitializeHardDisk (patchedDisk 545 0) (fun _ => 0) = .ok image ∧
      0 < image.cbSize ∧ ¬ image.ReadsInside ⟨0, 512, fun _ => 0⟩) ∧
    ∃ image, vhdInitializeHardDisk (patchedDisk 0x200a35 0x40) (fun _ => 0) = .ok image ∧
      0x200000 < image.cbSize ∧ ¬ image.ReadsInside ⟨0x200000, 512, fun _ => 0⟩ := by
  constructor
  · obtain ⟨image, himage, hsectors, htable, hsize⟩ := exists_of_ends (fun image : VhdImage =>
      image.cSectorsPerDataBlock = 0 ∧ image.pBlockAllocationTable.isSome ∧ 0 < image.cbSize)
      (show ends _ (vhdInitializeHardDisk (patchedDisk 545 0) fun _ => 0) = true by decide +kernel)
    obtain ⟨table, htable⟩ := Option.isSome_iff_exists.mp htable
    refine ⟨image, himage, hsize, fun hread => ?_⟩
    exact ((vhdServe_inside_iff htable).mp (hread hsize)).1 hsectors
  · obtain ⟨image, himage, hentry, htable, hsize⟩ := exists_of_ends (fun image : VhdImage =>
      image.cBlockAllocationTableEntries.toNat ≤ (image.entryOf 0x200000).toNat ∧
        image.pBlockAllocationTable.isSome ∧ 0x200000 < image.cbSize)
      (show ends _ (vhdInitializeHardDisk (patchedDisk 0x200a35 0x40) fun _ => 0) = true by
        decide +kernel)
    obtain ⟨table, htable⟩ := Option.isSome_iff_exists.mp htable
    refine ⟨image, himage, hsize, fun hread => ?_⟩
    exact Nat.not_lt.mpr hentry ((vhdServe_inside_iff htable).mp (hread hsize)).2

end Svmm
