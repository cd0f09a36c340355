import Mathlib.Algebra.GroupWithZero.Nat
import Svmm.Framework.Run
import Svmm.Construction.Vhd

/-!
# Reads of virtual hard disks

The content that the format gives a sector, and when a read returns it.  A fixed disk is the file
itself.  In a dynamic one a block is found through its entry in the block allocation table, and
begins with a bitmap of its sectors, which takes up whole sectors of the file.  The loader counts
the bytes of the bitmap by rounding down, and reads a table of at most 2³² bytes.
-/

namespace Svmm

open Bytes TransitionRun

/-! ## The format -/

/-- What the header of a dynamic disk says. -/
structure VhdLayout where
  tableOffset : ℕ
  maxTableEntries : ℕ
  blockSize : ℕ
  deriving DecidableEq

namespace VhdLayout

variable (l : VhdLayout) (block : ℕ)

def sectorsPerBlock : ℕ := l.blockSize / 512

/-- A bit for each sector of a block, in whole bytes, in whole sectors. -/
def bitmapSectors : ℕ := ((l.sectorsPerBlock + 7) / 8 + 511) / 512

/-- The entry of a block in the table of a file. -/
def entry? (f : ByteFile) : Option (BitVec 32) :=
  if block < l.maxTableEntries then f.number? 32 4 (l.tableOffset + 4 * block) else none

end VhdLayout

/-- `DiskType` of the footer. -/
def vhdDiskType? (f : ByteFile) : Option (BitVec 32) := f.number? 32 4 (f.size - 512 + 60)

/-- The header that `DataOffset` of the footer leads to. -/
def vhdLayout? (f : ByteFile) : Option VhdLayout := do
  let dataOffset ← f.number? 64 8 (f.size - 512 + 16)
  let tableOffset ← f.number? 64 8 (dataOffset.toNat + 16)
  let maxTableEntries ← f.number? 32 4 (dataOffset.toNat + 28)
  let blockSize ← f.number? 32 4 (dataOffset.toNat + 32)
  return ⟨tableOffset.toNat, maxTableEntries.toNat, blockSize.toNat⟩

/-- A byte of a sector of the disk; none where the file does not define it. -/
def vhdSectorByte? (f : ByteFile) (k j : ℕ) : Option (BitVec 8) :=
  if vhdDiskType? f = some vhdFooterDiskTypeFixed then f.get? (512 * k + j)
  else do
    let l ← vhdLayout? f
    if l.sectorsPerBlock = 0 then none
    else do
      let entry ← l.entry? (k / l.sectorsPerBlock) f
      if entry = 0xffffffff then some 0
      else f.get? ((entry.toNat + l.bitmapSectors + k % l.sectorsPerBlock) * 512 + j)

/-- Whatever the buffer held before, a read of one sector returns what the format says. -/
def VhdReadsSector (f : ByteFile) (image : VhdImage) (k : ℕ) : Prop :=
  ∀ buffer, ∃ image' buffer',
    vhdRead buffer 512 (vhdSeek (BitVec.ofNat 64 (512 * k)) image) = .ok (image', buffer') ∧
      ∀ j < 512, vhdSectorByte? f k j = some (buffer' j)

/-! ## When it does -/

namespace VhdLayout

variable (l : VhdLayout)

/-- The entry of a block is among those that the loader reads. -/
def TableRead (block : ℕ) : Prop := 4 * block < 4 * l.maxTableEntries % 2 ^ 32

instance (block : ℕ) : Decidable (l.TableRead block) := inferInstanceAs (Decidable (_ < _))

/-- The entry that the loader has for a block. -/
def loadedEntry (block : ℕ) (entry : BitVec 32) : BitVec 32 :=
  if l.TableRead block then entry else 0

/-- The sectors that the loader allows a bitmap. -/
def loadedBitmapSectors : ℕ := (l.sectorsPerBlock / 8 + 511) / 512

/-- The place where the loader looks for a sector of a block with an entry. -/
def loadedPlace (k : ℕ) (entry : BitVec 32) : ℕ :=
  ((l.loadedEntry (k / l.sectorsPerBlock) entry).toNat + l.loadedBitmapSectors +
    k % l.sectorsPerBlock) * 512

/-- The loader finds the bitmap as large as it is, and has read the entry. -/
def Regular (k : ℕ) : Prop :=
  (8 ∣ l.sectorsPerBlock ∨ ¬ 512 ∣ l.sectorsPerBlock / 8) ∧ l.TableRead (k / l.sectorsPerBlock)

instance (k : ℕ) : Decidable (l.Regular k) := inferInstanceAs (Decidable (_ ∧ _))

/-- The sector is in the file, at a place that the loader finds: the right one, or, where it is
mistaken about the bitmap or the table, one that holds the same bytes. -/
def Found (f : ByteFile) (k : ℕ) (entry : BitVec 32) : Prop :=
  if l.Regular k then
    entry ≠ 0xffffffff ∧
      (entry.toNat + l.bitmapSectors + k % l.sectorsPerBlock) * 512 + 512 ≤ f.size
  else
    l.loadedEntry (k / l.sectorsPerBlock) entry ≠ 0xffffffff ∧
      ∀ j < 512, ∃ x, vhdSectorByte? f k j = some x ∧ f.get? (l.loadedPlace k entry + j) = some x

lemma bitmapSectors_eq (h : 8 ∣ l.sectorsPerBlock ∨ ¬ 512 ∣ l.sectorsPerBlock / 8) :
    l.loadedBitmapSectors = l.bitmapSectors := by
  rw [loadedBitmapSectors, bitmapSectors]
  omega

end VhdLayout

/-- A fixed disk has the sector in the file; a dynamic one has its header and the entry of the block
in the file, sectors in its blocks, and a place for the sector that the loader finds. -/
def VhdReadable (f : ByteFile) (k : ℕ) : Prop :=
  if vhdDiskType? f = some vhdFooterDiskTypeFixed then 512 * k + 512 ≤ f.size
  else ∃ l entry, vhdLayout? f = some l ∧ 0 < l.sectorsPerBlock ∧
    l.entry? (k / l.sectorsPerBlock) f = some entry ∧ l.Found f k entry

/-! ## Reads of the file -/

section File

variable {file file' : ByteFile} {offset : BitVec 64} {count : ℕ} {buffer buffer' : ℕ → BitVec 8}

lemma vhdReadAt_of_lt (h : offset.toNat < 2 ^ 63) :
    vhdReadAt file offset count buffer =
      .ok (({ file with position := offset.toNat } : ByteFile).afterRead count,
        ({ file with position := offset.toNat } : ByteFile).readInto count buffer) := by
  have hint : offset.toInt = offset.toNat := by
    rw [BitVec.toInt_eq_toNat_of_lt (by omega)]
  have hpos : ¬ ((0 : ℕ) : ℤ) + offset.toInt < 0 := by omega
  rw [vhdReadAt, ByteFile.seek, if_neg hpos, hint]
  simp

lemma lt_of_vhdReadAt (h : vhdReadAt file offset count buffer = .ok (file', buffer')) :
    offset.toNat < 2 ^ 63 := by
  by_contra hlarge
  have hint : offset.toInt < 0 := by
    have := offset.isLt
    rw [BitVec.toInt_eq_toNat_cond]
    split
    · omega
    · omega
  rw [vhdReadAt, ByteFile.seek, if_pos (by omega)] at h
  cases h

end File

/-! ## Opening an image -/

/-- The two files have the same bytes. -/
def SameBytes (f g : ByteFile) : Prop := g.size = f.size ∧ g.byte = f.byte

section Loading

variable {f g : ByteFile} {image image' : VhdImage} {stack : ℕ → BitVec 8}

lemma SameBytes.afterRead (h : SameBytes f g) (p n : ℕ) :
    SameBytes f (({ g with position := p } : ByteFile).afterRead n) := h

lemma SameBytes.get? (h : SameBytes f g) (p : ℕ) : g.get? p = f.get? p := by
  rw [ByteFile.get?, ByteFile.get?, h.1, h.2]

lemma SameBytes.number? (h : SameBytes f g) (w n p : ℕ) : g.number? w n p = f.number? w n p := by
  rw [ByteFile.number?, ByteFile.number?, h.1, h.2]

/-- A number of the file that a read has delivered. -/
lemma bigEndian_readInto {w n count offset : ℕ} {x : BitVec w} {buffer : ℕ → BitVec 8}
    (h : f.number? w n (f.position + offset) = some x) (hcount : offset + n ≤ count) :
    bigEndian w (fun j => f.readInto count buffer (offset + j)) n = x := by
  unfold ByteFile.number? at h
  split at h
  · rename_i hfile
    rw [← Option.some.inj h]
    refine bigEndian_congr fun j hj => ?_
    have hdelivered : offset + j < f.readCount count := lt_min (by omega) (by omega)
    rw [ByteFile.readInto, if_pos hdelivered, Nat.add_assoc]
  · cases h

/-- What `VhdLoadDynamicDisk` finds out about a dynamic disk whose header is in the file. -/
structure VhdLoaded (f : ByteFile) (l : VhdLayout) (image : VhdImage) : Prop where
  entries : image.cBlockAllocationTableEntries.toNat = l.maxTableEntries
  sectors : image.cSectorsPerDataBlock.toNat = l.sectorsPerBlock
  bitmap : image.cDataBlockBitmapSectors.toNat = l.loadedBitmapSectors
  table : ∃ table, image.pBlockAllocationTable = some table ∧
    ∀ block entry, l.entry? block f = some entry → table block = l.loadedEntry block entry

lemma toNat_vhdBitmapSectors (x : BitVec 32) :
    (vhdBitmapSectors x).toNat = (x.toNat / 8 + 511) / 512 := by
  have hx := x.isLt
  have hmod : (x / 8 % 512).toNat = x.toNat / 8 % 512 := by
    rw [BitVec.toNat_umod, BitVec.toNat_udiv]
    rfl
  have hdiv : (x / 8 / 512).toNat = x.toNat / 8 / 512 := by
    rw [BitVec.toNat_udiv, BitVec.toNat_udiv]
    rfl
  simp only [vhdBitmapSectors]
  split
  · rename_i hpos
    rw [BitVec.lt_def, hmod] at hpos
    have hpositive : 0 < x.toNat / 8 % 512 := hpos
    have hone : (1 : BitVec 32).toNat = 1 := rfl
    rw [BitVec.toNat_add, hdiv, hone]
    omega
  · rename_i hzero
    rw [BitVec.lt_def, hmod] at hzero
    have hwhole : ¬ 0 < x.toNat / 8 % 512 := hzero
    rw [hdiv]
    omega

/-- The table that the loader reads. -/
lemma loadedTable {t : BitVec 64} {m b : BitVec 32} {block : ℕ} {entry : BitVec 32}
    (hg : SameBytes f g) (hposition : g.position = t.toNat)
    (hentry : VhdLayout.entry? ⟨t.toNat, m.toNat, b.toNat⟩ block f = some entry) :
    bigEndian 32 (fun j => g.readInto (4 * m).toNat (fun _ => 0) (4 * block + j)) 4 =
      VhdLayout.loadedEntry ⟨t.toNat, m.toNat, b.toNat⟩ block entry := by
  have hcount : (4 * m).toNat = 4 * m.toNat % 2 ^ 32 := by
    rw [BitVec.toNat_mul]
    rfl
  unfold VhdLayout.entry? at hentry
  split at hentry
  · by_cases hread : VhdLayout.TableRead ⟨t.toNat, m.toNat, b.toNat⟩ block
    · rw [VhdLayout.loadedEntry, if_pos hread]
      refine bigEndian_readInto ?_ ?_
      · rw [hposition, hg.number?]
        exact hentry
      · have hbelow : 4 * block < 4 * m.toNat % 2 ^ 32 := hread
        rw [hcount]
        omega
    · rw [VhdLayout.loadedEntry, if_neg hread]
      have hzero : ∀ j < 4, g.readInto (4 * m).toNat (fun _ => 0) (4 * block + j) = 0 := by
        intro j hj
        refine if_neg fun hlt => hread ?_
        have hlt' : 4 * block + j < (4 * m).toNat := hlt.trans_le (min_le_left _ _)
        have hbelow : 4 * block < 4 * m.toNat % 2 ^ 32 := by omega
        exact hbelow
      rw [bigEndian_congr hzero]
      decide
  · cases hentry

/-- A dynamic disk that is loaded, its header in the file. -/
lemma vhdLoaded {offset t : BitVec 64} {m b : BitVec 32} (hg : SameBytes f image.file)
    (ht : f.number? 64 8 (offset.toNat + 16) = some t)
    (hm : f.number? 32 4 (offset.toNat + 28) = some m)
    (hb : f.number? 32 4 (offset.toNat + 32) = some b)
    (h : vhdLoadDynamicDisk offset stack image = .ok image') :
    SameBytes f image'.file ∧ VhdLoaded f ⟨t.toNat, m.toNat, b.toNat⟩ image' := by
  obtain ⟨⟨file, header⟩, hread, h⟩ := bind_eq_ok.mp h
  rw [vhdReadAt_of_lt (lt_of_vhdReadAt hread)] at hread
  obtain ⟨rfl, rfl⟩ := Prod.mk.inj (Except.ok.inj hread)
  have hfield {w n o : ℕ} {x : BitVec w} (hx : f.number? w n (offset.toNat + o) = some x)
      (hsize : o + n ≤ vhdDynamicDiskHeaderSize) :
      bigEndian w (fun j => ({ image.file with position := offset.toNat } : ByteFile).readInto
        vhdDynamicDiskHeaderSize stack (o + j)) n = x :=
    bigEndian_readInto ((hg.number? _ _ _).trans hx) hsize
  simp only at h
  split at h
  · cases h
  split at h
  · cases h
  obtain ⟨⟨file, table⟩, htable, h⟩ := bind_eq_ok.mp h
  rw [hfield ht (by decide), hfield hm (by decide)] at htable
  rw [vhdReadAt_of_lt (lt_of_vhdReadAt htable)] at htable
  obtain ⟨rfl, rfl⟩ := Prod.mk.inj (Except.ok.inj htable)
  rw [hfield hm (by decide), hfield hb (by decide)] at h
  obtain rfl := Except.ok.inj h
  refine ⟨hg, rfl, ?_, ?_, _, rfl, fun block entry hentry => loadedTable hg rfl hentry⟩
  · rw [BitVec.toNat_udiv]
    rfl
  · rw [toNat_vhdBitmapSectors, BitVec.toNat_udiv]
    rfl

/-- What the header is, once its fields are in the file. -/
lemma vhdLayout?_eq_some {l : VhdLayout} :
    vhdLayout? f = some l ↔ ∃ offset t m b, f.number? 64 8 (f.size - 512 + 16) = some offset ∧
      f.number? 64 8 (offset.toNat + 16) = some t ∧ f.number? 32 4 (offset.toNat + 28) = some m ∧
      f.number? 32 4 (offset.toNat + 32) = some b ∧ l = ⟨t.toNat, m.toNat, b.toNat⟩ := by
  rw [vhdLayout?]
  constructor
  · intro h
    obtain ⟨offset, hoffset, h⟩ := Option.bind_eq_some_iff.mp h
    obtain ⟨t, ht, h⟩ := Option.bind_eq_some_iff.mp h
    obtain ⟨m, hm, h⟩ := Option.bind_eq_some_iff.mp h
    obtain ⟨b, hb, h⟩ := Option.bind_eq_some_iff.mp h
    exact ⟨offset, t, m, b, hoffset, ht, hm, hb, (Option.some.inj h).symm⟩
  · rintro ⟨offset, t, m, b, hoffset, ht, hm, hb, rfl⟩
    simp only [hoffset, ht, hm, hb, Option.bind_eq_bind, Option.bind_some]
    rfl

/-- A number of the footer, as the loader reads it. -/
lemma footerField (stack : ℕ → BitVec 8) (hsize : f.size < 2 ^ 63) (hfooter : 512 ≤ f.size)
    {w n o : ℕ}
    (ho : o + n ≤ vhdFooterSize) :
    f.number? w n (f.size - 512 + o) = some (bigEndian w (fun j =>
      ({ f with position := (BitVec.ofNat 64 (f.size - vhdFooterSize)).toNat } : ByteFile).readInto
        vhdFooterSize stack (o + j)) n) := by
  have hplace : (BitVec.ofNat 64 (f.size - vhdFooterSize)).toNat = f.size - 512 := by
    have hlt : f.size - 512 < 2 ^ 64 := by omega
    rw [BitVec.toNat_ofNat, vhdFooterSize, Nat.mod_eq_of_lt hlt]
  have hinside : o + n ≤ 512 := ho
  have hfile : f.size - 512 + o + n ≤ f.size := by omega
  rw [hplace]
  generalize f.size - 512 = place at hfile ⊢
  have hnumber : f.number? w n (place + o) =
      some (bigEndian w (fun j => f.byte (place + o + j)) n) := by
    rw [ByteFile.number?, if_pos hfile]
  rw [hnumber, bigEndian_readInto (f := { f with position := place }) hnumber ho]

/-- A disk that was opened. -/
lemma vhdOpened (hsize : f.size < 2 ^ 63) (h : vhdInitializeHardDisk f stack = .ok image) :
    (vhdDiskType? f = some vhdFooterDiskTypeFixed →
      SameBytes f image.file ∧ image.pBlockAllocationTable = none) ∧
    (vhdDiskType? f = some vhdFooterDiskTypeDynamic → ∀ l, vhdLayout? f = some l →
      SameBytes f image.file ∧ VhdLoaded f l image) := by
  unfold vhdInitializeHardDisk at h
  split at h
  · cases h
  rename_i hfooter
  have hfooter' : 512 ≤ f.size := not_lt.mp hfooter
  obtain ⟨⟨file, footer⟩, hread, h⟩ := bind_eq_ok.mp h
  rw [vhdReadAt_of_lt (lt_of_vhdReadAt hread)] at hread
  obtain ⟨rfl, rfl⟩ := Prod.mk.inj (Except.ok.inj hread)
  have htype := footerField stack (w := 32) (n := 4) (o := 60) hsize hfooter' (by decide)
  have hoffset :=
    footerField stack (w := 64) (n := 8) (o := 16) hsize hfooter' (by decide)
  simp only at h
  split at h
  · cases h
  rw [vhdDiskType?, htype]
  constructor
  · intro hfixed
    rw [if_pos (Option.some.inj hfixed)] at h
    obtain ⟨loaded, hloaded, h⟩ := bind_eq_ok.mp h
    obtain rfl := Except.ok.inj hloaded
    obtain rfl := Except.ok.inj h
    exact ⟨SameBytes.afterRead ⟨rfl, rfl⟩ _ _, rfl⟩
  · intro hdynamic l hl
    have hdynamic' := Option.some.inj hdynamic
    rw [if_neg (by rw [hdynamic']; decide), if_pos (Or.inl hdynamic')] at h
    obtain ⟨loaded, hloaded, h⟩ := bind_eq_ok.mp h
    obtain rfl := Except.ok.inj h
    obtain ⟨offset, t, m, b, hat, ht, hm, hb, rfl⟩ := vhdLayout?_eq_some.mp hl
    rw [hoffset] at hat
    rw [Option.some.inj hat] at hloaded
    have hfile := SameBytes.afterRead (⟨rfl, rfl⟩ : SameBytes f f)
      (BitVec.ofNat 64 (f.size - vhdFooterSize)).toNat vhdFooterSize
    obtain ⟨hsame, hentries, hsectors, hbitmap, htable⟩ := vhdLoaded hfile ht hm hb hloaded
    exact ⟨hsame, hentries, hsectors, hbitmap, htable⟩

end Loading

/-! ## Reading a sector -/

section Reading

variable {f : ByteFile} {image : VhdImage} {k : ℕ}

/-- A read that leaves the buffer to `ReadFile`, which has been sent to a place. -/
lemma vhdReadsSector_iff (place : ℕ) (hsame : SameBytes f image.file)
    (h : ∀ buffer, ∃ image', vhdRead buffer 512 (vhdSeek (BitVec.ofNat 64 (512 * k)) image) =
      .ok (image', ({ image.file with position := place } : ByteFile).readInto 512 buffer)) :
    VhdReadsSector f image k ↔
      ∀ j < 512, ∃ x, vhdSectorByte? f k j = some x ∧ f.get? (place + j) = some x := by
  have hat (j : ℕ) : ({ image.file with position := place } : ByteFile).get? (place + j) =
      f.get? (place + j) := hsame.get? _
  constructor
  · intro hreads j hj
    have hbyte (buffer : ℕ → BitVec 8) : vhdSectorByte? f k j =
        some (({ image.file with position := place } : ByteFile).readInto 512 buffer j) := by
      obtain ⟨image₁, hread⟩ := h buffer
      obtain ⟨image₂, buffer₂, hread₂, hbytes⟩ := hreads buffer
      obtain ⟨rfl, rfl⟩ := Prod.mk.inj (Except.ok.inj (hread.symm.trans hread₂))
      exact hbytes j hj
    refine ⟨_, hbyte fun _ => 0, ?_⟩
    rw [← hat]
    refine (ByteFile.readInto_eq_iff hj).mp fun buffer => ?_
    exact Option.some.inj ((hbyte buffer).symm.trans (hbyte fun _ => 0))
  · intro hbytes buffer
    obtain ⟨image₁, hread⟩ := h buffer
    refine ⟨image₁, _, hread, fun j hj => ?_⟩
    obtain ⟨x, hx, hfile⟩ := hbytes j hj
    rw [← hat] at hfile
    rw [(ByteFile.readInto_eq_iff hj).mpr hfile buffer, hx]

/-- A read that stops the program. -/
lemma not_vhdReadsSector (h : ∀ buffer, ∃ fault,
    vhdRead buffer 512 (vhdSeek (BitVec.ofNat 64 (512 * k)) image) = .error fault) :
    ¬ VhdReadsSector f image k := by
  intro hreads
  obtain ⟨_, hfault⟩ := h fun _ => 0
  obtain ⟨_, _, hread, _⟩ := hreads fun _ => 0
  rw [hfault] at hread
  cases hread

/-- All 512 bytes from a place on are in the file. -/
lemma sectorInFile_iff {place : ℕ} :
    (∀ j < 512, ∃ x, f.get? (place + j) = some x) ↔ place + 512 ≤ f.size := by
  constructor
  · intro h
    obtain ⟨x, hx⟩ := h 511 (by decide)
    have := (ByteFile.get?_eq_some.mp hx).1
    omega
  · intro h j hj
    exact ⟨_, ByteFile.get?_of_lt (by omega)⟩

lemma vhdSectorByte?_fixed (h : vhdDiskType? f = some vhdFooterDiskTypeFixed) (j : ℕ) :
    vhdSectorByte? f k j = f.get? (512 * k + j) := if_pos h

/-- A sector of a dynamic disk has a byte only if the header and the entry are in the file. -/
lemma vhdSectorByte?_eq_some {j : ℕ} {x : BitVec 8}
    (hfixed : vhdDiskType? f ≠ some vhdFooterDiskTypeFixed) :
    vhdSectorByte? f k j = some x ↔ ∃ l entry, vhdLayout? f = some l ∧ 0 < l.sectorsPerBlock ∧
      l.entry? (k / l.sectorsPerBlock) f = some entry ∧
      (if entry = 0xffffffff then x = 0
      else f.get? ((entry.toNat + l.bitmapSectors + k % l.sectorsPerBlock) * 512 + j) =
        some x) := by
  rw [vhdSectorByte?, if_neg hfixed]
  constructor
  · intro h
    obtain ⟨l, hl, h⟩ := Option.bind_eq_some_iff.mp h
    split at h
    · cases h
    rename_i hsectors
    obtain ⟨entry, hentry, h⟩ := Option.bind_eq_some_iff.mp h
    refine ⟨l, entry, hl, Nat.pos_of_ne_zero hsectors, hentry, ?_⟩
    split at h
    · rename_i hfree
      rw [if_pos hfree]
      exact (Option.some.inj h).symm
    · rename_i hused
      rw [if_neg hused]
      exact h
  · rintro ⟨l, entry, hl, hsectors, hentry, h⟩
    simp only [hl, Option.bind_eq_bind, Option.bind_some, if_neg hsectors.ne', hentry]
    split at h
    · rename_i hfree
      rw [if_pos hfree, h]
    · rename_i hused
      rw [if_neg hused]
      exact h

/-! ## Dynamic disks -/

lemma toNat_vhdSector (hk : k < 2 ^ 55) :
    (BitVec.ofNat 64 (512 * k) / vhdSectorSize).toNat = k := by
  have hoffset : (BitVec.ofNat 64 (512 * k)).toNat = 512 * k := by
    rw [BitVec.toNat_ofNat, Nat.mod_eq_of_lt (by omega)]
  rw [BitVec.toNat_udiv, hoffset]
  exact Nat.mul_div_cancel_left k (by decide)

/-- The block of a sector, as a `DWORD`. -/
lemma toNat_vhdBlock (hk : k < 2 ^ 55) {s : BitVec 32} (hblock : k / s.toNat < 2 ^ 32) :
    ((BitVec.ofNat 64 (512 * k) / vhdSectorSize / s.setWidth 64).setWidth 32).toNat =
      k / s.toNat := by
  rw [BitVec.toNat_setWidth, BitVec.toNat_udiv, toNat_vhdSector hk,
    BitVec.toNat_setWidth_of_le (by decide), Nat.mod_eq_of_lt hblock]

/-- The place of a sector in its block, as a `DWORD`. -/
lemma toNat_vhdIndex (hk : k < 2 ^ 55) {s : BitVec 32} (hs : 0 < s.toNat) :
    ((BitVec.ofNat 64 (512 * k) / vhdSectorSize % s.setWidth 64).setWidth 32).toNat =
      k % s.toNat := by
  have hindex : k % s.toNat < 2 ^ 32 := (Nat.mod_lt _ hs).trans s.isLt
  rw [BitVec.toNat_setWidth, BitVec.toNat_umod, toNat_vhdSector hk,
    BitVec.toNat_setWidth_of_le (by decide), Nat.mod_eq_of_lt hindex]

/-- A sum of three `DWORD`s, in bytes, is not cut off. -/
lemma toNat_vhdPlace (x y z : BitVec 32) :
    ((x.setWidth 64 + y.setWidth 64 + z.setWidth 64) * vhdSectorSize).toNat =
      (x.toNat + y.toNat + z.toNat) * 512 := by
  have hx := x.isLt
  have hy := y.isLt
  have hz := z.isLt
  have hsum : x.toNat + y.toNat < 2 ^ 64 := by omega
  have hsum' : x.toNat + y.toNat + z.toNat < 2 ^ 64 := by omega
  have hbytes : (x.toNat + y.toNat + z.toNat) * 512 < 2 ^ 64 := by omega
  have hwidth (w : BitVec 32) : (w.setWidth 64).toNat = w.toNat :=
    BitVec.toNat_setWidth_of_le (by decide)
  rw [BitVec.toNat_mul, BitVec.toNat_add, BitVec.toNat_add, hwidth, hwidth, hwidth,
    Nat.mod_eq_of_lt hsum, Nat.mod_eq_of_lt hsum']
  exact Nat.mod_eq_of_lt hbytes

section Dynamic

variable {l : VhdLayout} {entry : BitVec 32}

/-- What a read of a sector does, once the loader has the header and the entry of the block. -/
lemma vhdRead_dynamic (hloaded : VhdLoaded f l image) (hk : k < 2 ^ 55)
    (hsectors : 0 < l.sectorsPerBlock) (hentry : l.entry? (k / l.sectorsPerBlock) f = some entry)
    (buffer : ℕ → BitVec 8) :
    if l.loadedEntry (k / l.sectorsPerBlock) entry = 0xffffffff then
      vhdRead buffer 512 (vhdSeek (BitVec.ofNat 64 (512 * k)) image) = .error .exit
    else ∃ image', vhdRead buffer 512 (vhdSeek (BitVec.ofNat 64 (512 * k)) image) =
      .ok (image', ({ image.file with position := l.loadedPlace k entry } : ByteFile).readInto
        512 buffer) := by
  obtain ⟨table, htable, hentries⟩ := hloaded.table
  have hblock : k / l.sectorsPerBlock < l.maxTableEntries := by
    unfold VhdLayout.entry? at hentry
    split at hentry
    · assumption
    · cases hentry
  have hmax := hloaded.entries ▸ image.cBlockAllocationTableEntries.isLt
  have hsectors' : 0 < image.cSectorsPerDataBlock.toNat := hloaded.sectors ▸ hsectors
  have hnonzero : image.cSectorsPerDataBlock ≠ 0 := by
    rintro hzero
    rw [hzero] at hsectors'
    exact absurd hsectors' (by decide)
  have hindex := toNat_vhdIndex hk hsectors'
  have htoNat := toNat_vhdBlock hk (s := image.cSectorsPerDataBlock)
    (by rw [hloaded.sectors]; exact hblock.trans hmax)
  rw [hloaded.sectors] at hindex htoNat
  have hinside : ¬ image.cBlockAllocationTableEntries ≤
      (BitVec.ofNat 64 (512 * k) / vhdSectorSize /
        image.cSectorsPerDataBlock.setWidth 64).setWidth 32 := by
    rw [BitVec.le_def, htoNat, hloaded.entries]
    exact not_le.mpr hblock
  have hplace := toNat_vhdPlace (l.loadedEntry (k / l.sectorsPerBlock) entry)
    image.cDataBlockBitmapSectors ((BitVec.ofNat 64 (512 * k) / vhdSectorSize %
      image.cSectorsPerDataBlock.setWidth 64).setWidth 32)
  rw [hindex, hloaded.bitmap] at hplace
  have hbelow : (l.loadedEntry (k / l.sectorsPerBlock) entry).toNat + l.loadedBitmapSectors +
      k % l.sectorsPerBlock < 3 * 2 ^ 32 := by
    have hbitmap := hloaded.bitmap ▸ image.cDataBlockBitmapSectors.isLt
    have hless := (Nat.mod_lt k hsectors).trans (hloaded.sectors ▸ image.cSectorsPerDataBlock.isLt)
    have hloadedEntry := (l.loadedEntry (k / l.sectorsPerBlock) entry).isLt
    omega
  unfold vhdRead
  simp only [vhdSeek, htable, if_neg hnonzero, if_neg hinside, htoNat, hentries _ _ hentry]
  split
  · rfl
  · rw [vhdReadAt_of_lt (by rw [hplace]; omega), hplace]
    exact ⟨_, rfl⟩

/-- The bytes that a sector has, and the place the loader looks at, when it is not mistaken. -/
lemma loadedPlace_of_regular (entry : BitVec 32) (h : l.Regular k) :
    l.loadedEntry (k / l.sectorsPerBlock) entry = entry ∧
      l.loadedPlace k entry = (entry.toNat + l.bitmapSectors + k % l.sectorsPerBlock) * 512 := by
  have hentry : l.loadedEntry (k / l.sectorsPerBlock) entry = entry := if_pos h.2
  refine ⟨hentry, ?_⟩
  rw [VhdLayout.loadedPlace, hentry, l.bitmapSectors_eq h.1]

/-- A sector of a dynamic disk, its header and its entry in the file. -/
lemma vhdReadsSector_dynamic (hsame : SameBytes f image.file) (hloaded : VhdLoaded f l image)
    (hk : k < 2 ^ 55) (hfixed : vhdDiskType? f ≠ some vhdFooterDiskTypeFixed)
    (hl : vhdLayout? f = some l) (hsectors : 0 < l.sectorsPerBlock)
    (hentry : l.entry? (k / l.sectorsPerBlock) f = some entry) :
    VhdReadsSector f image k ↔ l.Found f k entry := by
  have hread := vhdRead_dynamic hloaded hk hsectors hentry
  have hlooked : VhdReadsSector f image k ↔
      l.loadedEntry (k / l.sectorsPerBlock) entry ≠ 0xffffffff ∧
        ∀ j < 512, ∃ x, vhdSectorByte? f k j = some x ∧
          f.get? (l.loadedPlace k entry + j) = some x := by
    by_cases hfree : l.loadedEntry (k / l.sectorsPerBlock) entry = 0xffffffff
    · refine iff_of_false (not_vhdReadsSector fun buffer => ?_) fun h => h.1 hfree
      have h := hread buffer
      rw [if_pos hfree] at h
      exact ⟨_, h⟩
    · rw [and_iff_right hfree]
      refine vhdReadsSector_iff _ hsame fun buffer => ?_
      have h := hread buffer
      rwa [if_neg hfree] at h
  by_cases hregular : l.Regular k
  · obtain ⟨hsame', hplace⟩ := loadedPlace_of_regular entry hregular
    rw [hlooked, VhdLayout.Found, if_pos hregular, hsame', hplace, ← sectorInFile_iff]
    refine and_congr_right fun hused => forall₂_congr fun j _ => exists_congr fun x => ?_
    refine and_iff_right_of_imp fun hx => (vhdSectorByte?_eq_some hfixed).mpr ?_
    refine ⟨l, entry, hl, hsectors, hentry, ?_⟩
    rwa [if_neg hused]
  · rw [hlooked, VhdLayout.Found, if_neg hregular]

end Dynamic

/-! ## Sectors that are read -/

/-- A sector of a fixed disk. -/
lemma vhdReadsSector_fixed (hsize : f.size < 2 ^ 63) (hsame : SameBytes f image.file)
    (htable : image.pBlockAllocationTable = none) (hk : k < 2 ^ 55)
    (hfixed : vhdDiskType? f = some vhdFooterDiskTypeFixed) :
    VhdReadsSector f image k ↔ 512 * k + 512 ≤ f.size := by
  have hoffset : (BitVec.ofNat 64 (512 * k)).toNat = 512 * k := by
    rw [BitVec.toNat_ofNat, Nat.mod_eq_of_lt (by omega)]
  have hread (buffer : ℕ → BitVec 8) :
      vhdRead buffer 512 (vhdSeek (BitVec.ofNat 64 (512 * k)) image) =
        vhdReadAt image.file (BitVec.ofNat 64 (512 * k)) 512 buffer >>= fun r =>
          .ok ({ image with u64DataOffset := BitVec.ofNat 64 (512 * k), file := r.1 }, r.2) := by
    unfold vhdRead
    simp only [vhdSeek, htable]
    rfl
  by_cases hlt : 512 * k < 2 ^ 63
  · rw [← sectorInFile_iff, vhdReadsSector_iff (512 * k) hsame]
    · refine forall₂_congr fun j _ => exists_congr fun x => ?_
      rw [vhdSectorByte?_fixed hfixed, and_self]
    · intro buffer
      rw [hread, vhdReadAt_of_lt (by rw [hoffset]; exact hlt), hoffset]
      exact ⟨_, rfl⟩
  · refine iff_of_false (not_vhdReadsSector fun buffer => ?_) (by omega)
    rw [hread]
    cases hat : vhdReadAt image.file (BitVec.ofNat 64 (512 * k)) 512 buffer with
    | error fault => exact ⟨fault, rfl⟩
    | ok r =>
      have hless := lt_of_vhdReadAt hat
      rw [hoffset] at hless
      exact absurd hless hlt

end Reading

/-- Of an image that was opened, a read of one sector returns what the format gives it exactly when
the sector is readable.  A block that is not allocated is not, unless the loader has not read its
entry and takes it for one at the beginning of the file. -/
theorem vhd_sector_read_iff (file : ByteFile) (stack : ℕ → BitVec 8) (image : VhdImage) (k : ℕ)
    (hsize : file.size < 2 ^ 63) (h : vhdInitializeHardDisk file stack = .ok image)
    (htype : vhdDiskType? file = some vhdFooterDiskTypeFixed ∨
      vhdDiskType? file = some vhdFooterDiskTypeDynamic)
    (hk : k < image.cbSize.toNat / 512) :
    VhdReadsSector file image k ↔ VhdReadable file k := by
  have hk' : k < 2 ^ 55 := by
    have := image.cbSize.isLt
    omega
  rcases htype with hfixed | hdynamic
  · obtain ⟨hsame, htable⟩ := (vhdOpened hsize h).1 hfixed
    rw [vhdReadsSector_fixed hsize hsame htable hk' hfixed, VhdReadable, if_pos hfixed]
  · have hfixed : vhdDiskType? file ≠ some vhdFooterDiskTypeFixed := by
      rw [hdynamic]
      decide
    rw [VhdReadable, if_neg hfixed]
    constructor
    · intro hreads
      obtain ⟨_, buffer, _, hbytes⟩ := hreads fun _ => 0
      obtain ⟨l, entry, hl, hsectors, hentry, _⟩ :=
        (vhdSectorByte?_eq_some hfixed).mp (hbytes 0 (by decide))
      obtain ⟨hsame, hloaded⟩ := (vhdOpened hsize h).2 hdynamic l hl
      exact ⟨l, entry, hl, hsectors, hentry,
        (vhdReadsSector_dynamic hsame hloaded hk' hfixed hl hsectors hentry).mp hreads⟩
    · rintro ⟨l, entry, hl, hsectors, hentry, hfound⟩
      obtain ⟨hsame, hloaded⟩ := (vhdOpened hsize h).2 hdynamic l hl
      exact (vhdReadsSector_dynamic hsame hloaded hk' hfixed hl hsectors hentry).mpr hfound

/-- A dynamic disk with one block of 2 MiB, whose entry in the table is given: the header at 512,
the table at 1536, and the footer at the end. -/
def dynamicDisk (entry : List (BitVec 8)) (size : ℕ) : ByteFile where
  size := size
  byte p :=
    if size - 512 ≤ p then
      if p - (size - 512) < 8 then vhdFooterCookie.getD (p - (size - 512)) 0
      else if p - (size - 512) = 22 then 0x02
      else if p - (size - 512) = 53 then 0x20
      else if p - (size - 512) = 63 then 0x03
      else 0
    else if 512 ≤ p ∧ p < 1536 then
      if p - 512 < 8 then vhdDynamicDiskHeaderCookie.getD (p - 512) 0
      else if p - 512 = 22 then 0x06
      else if p - 512 = 31 then 0x01
      else if p - 512 = 33 then 0x20
      else 0
    else if 1536 ≤ p ∧ p < 1540 then entry.getD (p - 1536) 0
    else 0x5a
  position := 0

/-- A block at sector 4 of the file. -/
theorem vhd_sector_read_iff_allocated : ∃ image,
    vhdInitializeHardDisk (dynamicDisk [0, 0, 0, 4] 0x200c00) (fun _ => 0) = .ok image ∧
      VhdReadsSector (dynamicDisk [0, 0, 0, 4] 0x200c00) image 4095 := by
  obtain ⟨image, himage, hk⟩ := exists_of_ends (fun image : VhdImage =>
    4095 < image.cbSize.toNat / 512) (show ends _
      (vhdInitializeHardDisk (dynamicDisk [0, 0, 0, 4] 0x200c00) fun _ => 0) = true by
        decide +kernel)
  refine ⟨image, himage, (vhd_sector_read_iff _ _ image 4095 (by decide) himage
    (Or.inr (by decide +kernel)) hk).mpr ?_⟩
  rw [VhdReadable, if_neg (by decide +kernel)]
  refine ⟨⟨1536, 1, 0x200000⟩, 4, by decide +kernel, by decide, by decide +kernel, ?_⟩
  rw [VhdLayout.Found, if_pos (by decide)]
  decide

/-- The disk is new, and no block of it is allocated: sector 0 is zero, and a read of it ends the
program. -/
theorem unallocated_block_exits : ∃ image,
    vhdInitializeHardDisk (dynamicDisk [0xff, 0xff, 0xff, 0xff] 2560) (fun _ => 0) = .ok image ∧
      0 < image.cbSize.toNat / 512 ∧
      (∀ j < 512, vhdSectorByte? (dynamicDisk [0xff, 0xff, 0xff, 0xff] 2560) 0 j = some 0) ∧
      ¬ VhdReadsSector (dynamicDisk [0xff, 0xff, 0xff, 0xff] 2560) image 0 := by
  obtain ⟨image, himage, hk⟩ := exists_of_ends (fun image : VhdImage =>
    0 < image.cbSize.toNat / 512) (show ends _
      (vhdInitializeHardDisk (dynamicDisk [0xff, 0xff, 0xff, 0xff] 2560) fun _ => 0) = true by
        decide +kernel)
  have hfixed : vhdDiskType? (dynamicDisk [0xff, 0xff, 0xff, 0xff] 2560) ≠
      some vhdFooterDiskTypeFixed := by decide +kernel
  have hdynamic : vhdDiskType? (dynamicDisk [0xff, 0xff, 0xff, 0xff] 2560) =
      some vhdFooterDiskTypeDynamic := by decide +kernel
  have hl : vhdLayout? (dynamicDisk [0xff, 0xff, 0xff, 0xff] 2560) =
      some ⟨1536, 1, 0x200000⟩ := by decide +kernel
  have hentry : VhdLayout.entry? ⟨1536, 1, 0x200000⟩ 0
      (dynamicDisk [0xff, 0xff, 0xff, 0xff] 2560) = some 0xffffffff := by decide +kernel
  refine ⟨image, himage, hk, fun j _ => ?_, fun hreads => ?_⟩
  · exact (vhdSectorByte?_eq_some hfixed).mpr ⟨_, _, hl, by decide, hentry, rfl⟩
  · obtain ⟨hsame, hloaded⟩ := (vhdOpened (by decide) himage).2 hdynamic _ hl
    have hfound := (vhdReadsSector_dynamic hsame hloaded (by decide) hfixed hl (by decide)
      hentry).mp hreads
    rw [VhdLayout.Found, if_pos (by decide)] at hfound
    exact hfound.1 rfl

end Svmm
