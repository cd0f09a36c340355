import Mathlib.Algebra.GroupWithZero.Nat
import Mathlib.Data.Nat.Bitwise
import Svmm.Framework.Simulation
import Svmm.Construction.Sparse

/-!
# Sparse images as flat arrays

What a sparse image holds is an array of bytes, zero in the pages that are not allocated.  A read or
a write that stays in a page acts on the array when the file pointer is where the move by
`PhysicalPage + PageOffset` leads to the page, which begins at `PhysicalPage * PageSize`.
-/

namespace Svmm

open Bytes TransitionRun

/-! ## The array -/

namespace SparseDisk

variable (d : SparseDisk)

/-- The page of the file that an offset is in. -/
def entryAt (offset : ℕ) : BitVec 32 := d.pageTable (offset / d.pageSize.toNat)

/-- The place of an offset in the file. -/
def placeOf (offset : ℕ) : ℕ :=
  (d.entryAt offset).toNat * d.pageSize.toNat + offset % d.pageSize.toNat

/-- The file, with the pointer at the place of an offset. -/
def fileAt (offset : ℕ) : ByteFile := { d.file with position := d.placeOf offset }

/-- The content of the image. -/
def image (offset : ℕ) : BitVec 8 :=
  if d.entryAt offset = sparsePageNotAllocated then 0 else d.file.content (d.placeOf offset)

end SparseDisk

/-- The content of the image in a file: the page size is at 8, the table at 256, and an entry counts
pages from the beginning of the file. -/
def sparseFileImage (file : ByteFile) (offset : ℕ) : BitVec 8 :=
  let pageSize := (littleEndian (fun j => file.byte (8 + j)) 4).toNat
  let entry := littleEndian (fun j =>
    file.byte (sparseHeaderSize + (4 * (offset / pageSize) + j))) 4
  if entry = sparsePageNotAllocated then 0
  else file.content (entry.toNat * pageSize + offset % pageSize)

namespace SparseCall

/-- The array after a call. -/
def after (image : ℕ → BitVec 8) : SparseCall → ℕ → BitVec 8
  | .read _ _ _ => image
  | .write offset buffer bufferSize => fun p =>
      if offset.toNat ≤ p ∧ p < offset.toNat + bufferSize.toNat then buffer (p - offset.toNat)
      else image p

/-- All bytes are transferred, and those read are the array's. -/
def Answered (image : ℕ → BitVec 8) : SparseCall → BitVec 64 × (ℕ → BitVec 8) → Prop
  | .read offset _ bufferSize, answer => answer.1 = bufferSize ∧
      ∀ j < bufferSize.toNat, answer.2 j = image (offset.toNat + j)
  | .write _ _ bufferSize, answer => answer.1 = bufferSize

end SparseCall

/-- Every call of a list goes through, and acts on the array. -/
def ActsFlat (d : SparseDisk) (image : ℕ → BitVec 8) (calls : List SparseCall) : Prop :=
  Follows sparseCall SparseCall.after SparseCall.Answered d image calls

/-! ## Direct calls -/

/-- The request is in one page, whose end is not that of the table, and the mask finds its offset in
the page. -/
structure InOnePage (d : SparseDisk) (offset bufferSize : BitVec 64) : Prop where
  mask : offset.toNat &&& (d.pageSize.toNat - 1) = offset.toNat % d.pageSize.toNat
  within : offset.toNat % d.pageSize.toNat + bufferSize.toNat ≤ d.pageSize.toNat
  next : offset.toNat % d.pageSize.toNat + bufferSize.toNat = d.pageSize.toNat →
    offset.toNat / d.pageSize.toNat + 1 < d.numberOfPages.toNat

lemma inOnePage_iff {d : SparseDisk} {offset bufferSize : BitVec 64} :
    ((offset.toNat &&& (d.pageSize.toNat - 1) = offset.toNat % d.pageSize.toNat) ∧
      offset.toNat % d.pageSize.toNat + bufferSize.toNat ≤ d.pageSize.toNat ∧
      (offset.toNat % d.pageSize.toNat + bufferSize.toNat = d.pageSize.toNat →
        offset.toNat / d.pageSize.toNat + 1 < d.numberOfPages.toNat)) ↔
      InOnePage d offset bufferSize :=
  ⟨fun h => ⟨h.1, h.2.1, h.2.2⟩, fun h => ⟨h.mask, h.within, h.next⟩⟩

instance (d : SparseDisk) (offset bufferSize : BitVec 64) :
    Decidable (InOnePage d offset bufferSize) := decidable_of_iff _ inOnePage_iff

/-- The file pointer is where the distance of the page leads to the page. -/
def PointsTo (d : SparseDisk) (offset : BitVec 64) : Prop :=
  d.file.position + (d.entryAt offset.toNat).toNat =
    (d.entryAt offset.toNat).toNat * d.pageSize.toNat

instance (d : SparseDisk) (offset : BitVec 64) : Decidable (PointsTo d offset) :=
  inferInstanceAs (Decidable (_ = _))

/-- A call on one page: a read of one that is not allocated, or has the bytes in the file with the
pointer before it; a write to one that is allocated to this page alone, with the pointer before
it. -/
def SparseDirect (d : SparseDisk) : SparseCall → Prop
  | .read offset _ bufferSize => offset < d.totalSize ∧ (bufferSize = 0 ∨
      InOnePage d offset bufferSize ∧ (d.entryAt offset.toNat = sparsePageNotAllocated ∨
        PointsTo d offset ∧ d.placeOf offset.toNat + bufferSize.toNat ≤ d.file.size))
  | .write offset _ bufferSize => offset < d.totalSize ∧ (bufferSize = 0 ∨
      InOnePage d offset bufferSize ∧ d.entryAt offset.toNat ≠ sparsePageNotAllocated ∧
        PointsTo d offset ∧ d.writable = true ∧ ∀ v < d.numberOfPages.toNat,
          d.pageTable v = d.entryAt offset.toNat → v = offset.toNat / d.pageSize.toNat)

instance (d : SparseDisk) (call : SparseCall) : Decidable (SparseDirect d call) :=
  match call with
  | .read _ _ _ => inferInstanceAs (Decidable (_ ∧ _))
  | .write _ _ _ => inferInstanceAs (Decidable (_ ∧ _))

/-! ## Seeks -/

section Seek

variable {d d' : SparseDisk} {offset bufferSize : BitVec 64}

lemma toNat_totalSize (d : SparseDisk) :
    d.totalSize.toNat = d.numberOfPages.toNat * d.pageSize.toNat := by
  have hn := d.numberOfPages.isLt
  have hp := d.pageSize.isLt
  have hproduct : d.numberOfPages.toNat * d.pageSize.toNat < 2 ^ 64 := by
    calc d.numberOfPages.toNat * d.pageSize.toNat
        ≤ 2 ^ 32 * d.pageSize.toNat := Nat.mul_le_mul_right _ hn.le
      _ < 2 ^ 32 * 2 ^ 32 := Nat.mul_lt_mul_of_pos_left hp (by decide)
      _ = 2 ^ 64 := by decide
  rw [d.totalSize_eq, BitVec.toNat_mul, BitVec.toNat_setWidth_of_le (by decide),
    BitVec.toNat_setWidth_of_le (by decide), Nat.mod_eq_of_lt hproduct]

lemma pageSize_pos (h : offset < d.totalSize) : 0 < d.pageSize.toNat := by
  refine Nat.pos_of_ne_zero fun hzero => ?_
  rw [BitVec.lt_def, toNat_totalSize, hzero, Nat.mul_zero] at h
  exact absurd h (Nat.not_lt_zero _)

lemma part_lt {p : ℕ} (h : p < d.totalSize.toNat) :
    p / d.pageSize.toNat < d.numberOfPages.toNat := by
  rw [toNat_totalSize] at h
  exact Nat.div_lt_of_lt_mul (by rwa [Nat.mul_comm])

/-- The disk after a seek. -/
structure Sought (d : SparseDisk) (offset : BitVec 64) (d' : SparseDisk) : Prop where
  file : d'.file = d.file
  writable : d'.writable = d.writable
  pageSize : d'.pageSize = d.pageSize
  numberOfPages : d'.numberOfPages = d.numberOfPages
  pageTable : d'.pageTable = d.pageTable
  virtualPage : d'.positionVirtualPage.toNat = offset.toNat / d.pageSize.toNat
  physicalPage : d'.positionPhysicalPage = d.entryAt offset.toNat
  pageOffset : d'.positionPageOffset.toNat = offset.toNat &&& (d.pageSize.toNat - 1)

lemma exists_sought (h : offset < d.totalSize) :
    ∃ d', sparseSeek offset d = .ok d' ∧ Sought d offset d' := by
  have hpos := pageSize_pos h
  have hpage := part_lt h
  have hn := d.numberOfPages.isLt
  have hvirtual : ((offset / d.pageSize.setWidth 64).setWidth 32).toNat =
      offset.toNat / d.pageSize.toNat := by
    rw [BitVec.toNat_setWidth, BitVec.toNat_udiv, BitVec.toNat_setWidth_of_le (by decide),
      Nat.mod_eq_of_lt (hpage.trans hn)]
  have hone : (d.pageSize - 1).toNat = d.pageSize.toNat - 1 := by
    have hle : (1 : BitVec 32) ≤ d.pageSize := hpos
    exact BitVec.toNat_sub_of_le hle
  have hmask : ((offset &&& (d.pageSize - 1).setWidth 64).setWidth 32).toNat =
      offset.toNat &&& (d.pageSize.toNat - 1) := by
    have hlt : offset.toNat &&& (d.pageSize.toNat - 1) < 2 ^ 32 :=
      lt_of_le_of_lt Nat.and_le_right (by have := d.pageSize.isLt; omega)
    rw [BitVec.toNat_setWidth, BitVec.toNat_and, BitVec.toNat_setWidth_of_le (by decide), hone,
      Nat.mod_eq_of_lt hlt]
  have hsize : ¬ d.totalSize ≤ offset := BitVec.not_le.mpr h
  have hinside : ¬ d.numberOfPages ≤ (offset / d.pageSize.setWidth 64).setWidth 32 := by
    rw [BitVec.le_def, hvirtual]
    exact not_le.mpr hpage
  rw [sparseSeek, if_neg hsize]
  simp only [if_neg hinside]
  refine ⟨_, rfl, rfl, rfl, rfl, rfl, rfl, hvirtual, ?_, hmask⟩
  simp only [hvirtual]
  rfl

end Seek

/-! ## One turn of the loops -/

/-- The two disks differ in their positions at most. -/
structure SameImage (d d' : SparseDisk) : Prop where
  content : d'.file.content = d.file.content
  pageSize : d'.pageSize = d.pageSize
  numberOfPages : d'.numberOfPages = d.numberOfPages
  pageTable : d'.pageTable = d.pageTable

section Turn

variable {d d' d'' : SparseDisk} {offset bufferSize i : BitVec 64} {buffer buffer' : ℕ → BitVec 8}

lemma SameImage.trans (h : SameImage d d') (h' : SameImage d' d'') : SameImage d d'' :=
  ⟨h'.content.trans h.content, h'.pageSize.trans h.pageSize, h'.numberOfPages.trans h.numberOfPages,
    h'.pageTable.trans h.pageTable⟩

lemma SameImage.totalSize (h : SameImage d d') : d'.totalSize = d.totalSize := by
  rw [d'.totalSize_eq, d.totalSize_eq, h.numberOfPages, h.pageSize]

lemma SameImage.entryAt (h : SameImage d d') (p : ℕ) : d'.entryAt p = d.entryAt p := by
  rw [SparseDisk.entryAt, SparseDisk.entryAt, h.pageTable, h.pageSize]

lemma SameImage.placeOf (h : SameImage d d') (p : ℕ) : d'.placeOf p = d.placeOf p := by
  rw [SparseDisk.placeOf, SparseDisk.placeOf, h.entryAt, h.pageSize]

lemma SameImage.image (h : SameImage d d') (p : ℕ) : d'.image p = d.image p := by
  rw [SparseDisk.image, SparseDisk.image, h.entryAt, h.placeOf, h.content]

lemma Sought.sameImage (h : Sought d offset d') : SameImage d d' :=
  ⟨by rw [h.file], h.pageSize, h.numberOfPages, h.pageTable⟩

/-- What is left of the page holds the request. -/
structure Holds (d : SparseDisk) (bufferSize : BitVec 64) : Prop where
  within : d.positionPageOffset.toNat + bufferSize.toNat ≤ d.pageSize.toNat
  next : d.positionPageOffset.toNat + bufferSize.toNat = d.pageSize.toNat →
    d.positionVirtualPage.toNat + 1 < d.numberOfPages.toNat

lemma Sought.holds (h : Sought d offset d') (hpage : InOnePage d offset bufferSize) :
    Holds d' bufferSize := by
  refine ⟨?_, ?_⟩
  · rw [h.pageOffset, hpage.mask, h.pageSize]
    exact hpage.within
  · rw [h.pageOffset, hpage.mask, h.pageSize, h.virtualPage, h.numberOfPages]
    exact hpage.next

lemma Holds.restOfPage (h : Holds d bufferSize) : sparseRestOfPage bufferSize d = bufferSize := by
  have hwithin := h.within
  have hoffset : d.positionPageOffset ≤ d.pageSize := by
    rw [BitVec.le_def]
    omega
  refine if_pos ?_
  rw [BitVec.le_def, BitVec.toNat_setWidth_of_le (by decide), BitVec.toNat_sub_of_le hoffset]
  omega

lemma Holds.nextPage (h : Holds d bufferSize) :
    ∃ d', sparseNextPage bufferSize d = .ok d' ∧ SameImage d d' := by
  have hwithin := h.within
  have hpageSize := d.pageSize.isLt
  have hsum : (d.positionPageOffset + bufferSize.setWidth 32).toNat =
      d.positionPageOffset.toNat + bufferSize.toNat := by
    have hsize : (bufferSize.setWidth 32).toNat = bufferSize.toNat := by
      rw [BitVec.toNat_setWidth, Nat.mod_eq_of_lt (by omega)]
    rw [BitVec.toNat_add, hsize, Nat.mod_eq_of_lt (by omega)]
  unfold sparseNextPage
  simp only
  split
  · rename_i hend
    have hnext := h.next (by rw [← hsum, hend])
    have hpages := d.numberOfPages.isLt
    have hone : (1 : BitVec 32).toNat = 1 := rfl
    have hinside : ¬ d.numberOfPages ≤ d.positionVirtualPage + 1 := by
      rw [BitVec.le_def, BitVec.toNat_add, hone]
      omega
    rw [if_neg hinside]
    exact ⟨_, rfl, rfl, rfl, rfl, rfl⟩
  · exact ⟨_, rfl, rfl, rfl, rfl, rfl⟩

/-- A move by the distance of the page, of a pointer that is before it. -/
lemma Sought.move (h : Sought d offset d') (hpage : InOnePage d offset bufferSize)
    (hpoints : PointsTo d offset) :
    sparseMove (sparseDistance d') d' =
      .ok { d' with file := d.fileAt offset.toNat } := by
  have hentry := (d.entryAt offset.toNat).isLt
  have hoffset := d'.positionPageOffset.isLt
  have hdistance : (sparseDistance d').toNat =
      (d.entryAt offset.toNat).toNat + offset.toNat % d.pageSize.toNat := by
    rw [sparseDistance, BitVec.toNat_add, BitVec.toNat_setWidth_of_le (by decide),
      BitVec.toNat_setWidth_of_le (by decide), h.physicalPage, ← hpage.mask, ← h.pageOffset,
      Nat.mod_eq_of_lt (by omega)]
  have hplace : (d.file.position : ℤ) + (sparseDistance d').toInt = d.placeOf offset.toNat := by
    have hpositive : (sparseDistance d').toInt = (sparseDistance d').toNat := by
      refine BitVec.toInt_eq_toNat_of_lt ?_
      rw [hdistance, ← hpage.mask, ← h.pageOffset]
      omega
    have hpoints' : d.file.position + (d.entryAt offset.toNat).toNat =
      (d.entryAt offset.toNat).toNat * d.pageSize.toNat := hpoints
    rw [hpositive, hdistance, SparseDisk.placeOf, ← hpoints']
    push_cast
    rw [Int.add_assoc]
  have hforward : ¬ (d.file.position : ℤ) + (sparseDistance d').toInt < 0 := by omega
  rw [sparseMove, h.file, ByteFile.seek, if_neg hforward, hplace]
  rfl

lemma sparseReadLoop_done (n : ℕ) (h : ¬ i < bufferSize) :
    sparseReadLoop bufferSize n i buffer d = .ok (d, i, buffer) := by
  cases n with
  | zero => rw [sparseReadLoop, if_neg h]
  | succ n => rw [sparseReadLoop, if_neg h]

/-- A read of one page. -/
lemma Holds.read (h : Holds d bufferSize) (hsize : bufferSize ≠ 0) (h' : Holds d' bufferSize)
    (hread : sparseReadPage buffer bufferSize d = .ok (d', buffer')) :
    ∃ d'', sparseRead buffer bufferSize d = .ok (d'', bufferSize, buffer') ∧ SameImage d' d'' := by
  obtain ⟨n, hn⟩ : ∃ n, bufferSize.toNat = n + 1 :=
    Nat.exists_eq_succ_of_ne_zero fun hzero => hsize (BitVec.eq_of_toNat_eq hzero)
  have hturn : (0 : BitVec 64) < bufferSize := by
    rw [BitVec.lt_def, hn]
    exact Nat.succ_pos n
  obtain ⟨d'', hnext, hsame⟩ := h'.nextPage
  refine ⟨d'', ?_, hsame⟩
  rw [sparseRead, hn, sparseReadLoop, if_pos hturn]
  have hcount : (0 : BitVec 64) + bufferSize = bufferSize := BitVec.zero_add _
  simp only [h.restOfPage, hread, ok_bind, hnext, hcount]
  exact sparseReadLoop_done n (BitVec.lt_irrefl bufferSize)

lemma sparseWriteLoop_done (n : ℕ) (h : ¬ i < bufferSize) :
    sparseWriteLoop buffer bufferSize n i d = .ok (d, i) := by
  cases n with
  | zero => rw [sparseWriteLoop, if_neg h]
  | succ n => rw [sparseWriteLoop, if_neg h]

/-- A write of one page. -/
lemma Holds.write (h : Holds d bufferSize) (hsize : bufferSize ≠ 0) (h' : Holds d' bufferSize)
    (hwrite : sparseWritePage buffer bufferSize d = .ok d') :
    ∃ d'', sparseWrite buffer bufferSize d = .ok (d'', bufferSize) ∧ SameImage d' d'' := by
  obtain ⟨n, hn⟩ : ∃ n, bufferSize.toNat = n + 1 :=
    Nat.exists_eq_succ_of_ne_zero fun hzero => hsize (BitVec.eq_of_toNat_eq hzero)
  have hturn : (0 : BitVec 64) < bufferSize := by
    rw [BitVec.lt_def, hn]
    exact Nat.succ_pos n
  obtain ⟨d'', hnext, hsame⟩ := h'.nextPage
  refine ⟨d'', ?_, hsame⟩
  rw [sparseWrite, hn, sparseWriteLoop, if_pos hturn]
  have hcount : (0 : BitVec 64) + bufferSize = bufferSize := BitVec.zero_add _
  simp only [h.restOfPage, hwrite, ok_bind, hnext, hcount]
  exact sparseWriteLoop_done n (BitVec.lt_irrefl bufferSize)

end Turn

/-! ## Direct calls act on the array -/

/-- A byte of a run in one page, by its page and its place there. -/
lemma mem_page_iff {size a r e s n : ℕ} (hr : r < size) (hn : s + n ≤ size) :
    (e * size + s ≤ a * size + r ∧ a * size + r < e * size + s + n) ↔
      a = e ∧ s ≤ r ∧ r < s + n := by
  constructor
  · rintro ⟨hle, hlt⟩
    rcases lt_trichotomy a e with hae | rfl | hea
    · have hpages : (a + 1) * size ≤ e * size := Nat.mul_le_mul_right _ hae
      rw [Nat.succ_mul] at hpages
      omega
    · exact ⟨rfl, by omega, by omega⟩
    · have hpages : (e + 1) * size ≤ a * size := Nat.mul_le_mul_right _ hea
      rw [Nat.succ_mul] at hpages
      omega
  · rintro ⟨rfl, hle, hlt⟩
    omega

section Direct

variable {d d' : SparseDisk} {offset bufferSize : BitVec 64} {buffer : ℕ → BitVec 8}

/-- A request in one page fits in a `DWORD`. -/
lemma InOnePage.toNat_setWidth (hpage : InOnePage d offset bufferSize) :
    (bufferSize.setWidth 32).toNat = bufferSize.toNat := by
  have hwithin := hpage.within
  have hpageSize := d.pageSize.isLt
  rw [BitVec.toNat_setWidth, Nat.mod_eq_of_lt (by omega)]

/-- The bytes of a direct read are on the disk. -/
lemma SparseDirect.lt_totalSize (hdirect : SparseDirect d (.read offset buffer bufferSize)) {j : ℕ}
    (hj : j < bufferSize.toNat) : offset.toNat + j < d.totalSize.toNat := by
  have hsize : bufferSize ≠ 0 := by
    rintro rfl
    exact Nat.not_lt_zero j hj
  have hpage := (hdirect.2.resolve_left hsize).1
  have hwithin := hpage.within
  have hpages : (offset.toNat / d.pageSize.toNat + 1) * d.pageSize.toNat ≤
      d.numberOfPages.toNat * d.pageSize.toNat :=
    Nat.mul_le_mul_right _ (part_lt hdirect.1)
  have hsplit := Nat.div_add_mod' offset.toNat d.pageSize.toNat
  rw [Nat.succ_mul] at hpages
  rw [toNat_totalSize]
  omega

/-- The bytes of a request in one page. -/
lemma InOnePage.add (hpage : InOnePage d offset bufferSize) (hpos : 0 < d.pageSize.toNat) {j : ℕ}
    (hj : j < bufferSize.toNat) :
    d.entryAt (offset.toNat + j) = d.entryAt offset.toNat ∧
      d.placeOf (offset.toNat + j) = d.placeOf offset.toNat + j := by
  have hwithin := hpage.within
  have hmod := Nat.mod_lt offset.toNat hpos
  have hsplit := Nat.div_add_mod offset.toNat d.pageSize.toNat
  have hless : offset.toNat % d.pageSize.toNat + j < d.pageSize.toNat := by omega
  have hrest : (offset.toNat + j) % d.pageSize.toNat = offset.toNat % d.pageSize.toNat + j := by
    rw [Nat.add_mod_eq_add_mod_right _ (Nat.mod_mod _ _).symm, Nat.mod_eq_of_lt hless]
  have hquotient : (offset.toNat + j) / d.pageSize.toNat = offset.toNat / d.pageSize.toNat := by
    refine Nat.div_eq_of_lt_le ?_ ?_
    · rw [Nat.mul_comm]
      omega
    · rw [Nat.succ_mul, Nat.mul_comm]
      omega
  have hentry : d.entryAt (offset.toNat + j) = d.entryAt offset.toNat := by
    rw [SparseDisk.entryAt, SparseDisk.entryAt, hquotient]
  refine ⟨hentry, ?_⟩
  rw [SparseDisk.placeOf, SparseDisk.placeOf, hentry, hrest, Nat.add_assoc]

/-- A direct read. -/
lemma sparseCall_read (hdirect : SparseDirect d (.read offset buffer bufferSize)) :
    ∃ d' answer, sparseCall d (.read offset buffer bufferSize) = .ok (d', answer) ∧
      SparseCall.Answered d.image (.read offset buffer bufferSize) answer ∧ SameImage d d' := by
  obtain ⟨hoffset, hdirect⟩ := hdirect
  obtain ⟨d₁, hseek, hsought⟩ := exists_sought hoffset
  rw [sparseCall, hseek, ok_bind]
  by_cases hsize : bufferSize = 0
  · refine ⟨d₁, (bufferSize, buffer), ?_, ⟨rfl, ?_⟩, hsought.sameImage⟩
    · rw [hsize]
      rfl
    · rw [hsize]
      exact fun j hj => absurd hj (Nat.not_lt_zero j)
  obtain ⟨hpage, hplace⟩ := hdirect.resolve_left hsize
  have hholds := hsought.holds hpage
  have hpos := pageSize_pos hoffset
  by_cases hfree : d.entryAt offset.toNat = sparsePageNotAllocated
  · have hread : sparseReadPage buffer bufferSize d₁ =
        .ok (d₁, fun j => if j < bufferSize.toNat then 0 else buffer j) := by
      rw [sparseReadPage, hsought.physicalPage, if_pos hfree]
    obtain ⟨d₂, hread₂, hsame⟩ := hholds.read hsize hholds hread
    refine ⟨d₂, _, hread₂, ⟨rfl, fun j hj => ?_⟩, hsought.sameImage.trans hsame⟩
    rw [SparseDisk.image, (hpage.add hpos hj).1, if_pos hfree]
    exact if_pos hj
  · obtain ⟨hpoints, hfile⟩ := hplace.resolve_left hfree
    have hcount : (d.fileAt offset.toNat).readCount bufferSize.toNat = bufferSize.toNat := by
      refine min_eq_left ?_
      change _ ≤ d.file.size - d.placeOf offset.toNat
      omega
    have hread : sparseReadPage buffer bufferSize d₁ =
        .ok ({ d₁ with file := (d.fileAt offset.toNat).afterRead bufferSize.toNat },
          (d.fileAt offset.toNat).readInto bufferSize.toNat buffer) := by
      have hused : d₁.positionPhysicalPage ≠ sparsePageNotAllocated := by
        rw [hsought.physicalPage]
        exact hfree
      rw [sparseReadPage, if_neg hused, hsought.move hpage hpoints, ok_bind, hpage.toNat_setWidth]
      simp only [hcount, BitVec.ofNat_toNat, BitVec.setWidth_eq, ne_eq, not_true_eq_false, if_false]
      rfl
    have hholds' : Holds { d₁ with file := (d.fileAt offset.toNat).afterRead bufferSize.toNat }
        bufferSize := ⟨hholds.within, hholds.next⟩
    obtain ⟨d₂, hread₂, hsame⟩ := hholds.read hsize hholds' hread
    refine ⟨d₂, _, hread₂, ⟨rfl, fun j hj => ?_⟩, SameImage.trans ?_ hsame⟩
    · obtain ⟨hentry, hat⟩ := hpage.add hpos hj
      rw [SparseDisk.image, hentry, if_neg hfree, hat, ByteFile.content, if_pos (by omega)]
      exact ByteFile.readInto_of_le hj hfile
    · exact ⟨rfl, hsought.pageSize, hsought.numberOfPages, hsought.pageTable⟩

/-- The bytes that a direct write leaves in the file. -/
lemma content_fileAt_write (p x : ℕ) :
    ((d.fileAt p).write ((List.range bufferSize.toNat).map buffer)).content x =
      if d.placeOf p ≤ x ∧ x < d.placeOf p + bufferSize.toNat then buffer (x - d.placeOf p)
      else d.file.content x := by
  rw [ByteFile.content_write, List.length_map, List.length_range]
  change (if d.placeOf p ≤ x ∧ x < d.placeOf p + bufferSize.toNat then _ else _) = _
  by_cases hx : d.placeOf p ≤ x ∧ x < d.placeOf p + bufferSize.toNat
  · have hindex : x - d.placeOf p < bufferSize.toNat := by omega
    rw [if_pos hx, if_pos hx, List.getD_eq_getElem?_getD, List.getElem?_map]
    change (Option.map buffer ((List.range bufferSize.toNat)[x - d.placeOf p]?)).getD 0 = _
    rw [List.getElem?_range hindex]
    rfl
  · rw [if_neg hx, if_neg hx]
    rfl

/-- The array after a write to the place of a request in one page, which no other page shares. -/
lemma image_write {g : ByteFile} (hsought : Sought d offset d')
    (hpage : InOnePage d offset bufferSize)
    (hused : d.entryAt offset.toNat ≠ sparsePageNotAllocated)
    (hown : ∀ v < d.numberOfPages.toNat, d.pageTable v = d.entryAt offset.toNat →
      v = offset.toNat / d.pageSize.toNat)
    (hg : ∀ x, g.content x = if d.placeOf offset.toNat ≤ x ∧
      x < d.placeOf offset.toNat + bufferSize.toNat then buffer (x - d.placeOf offset.toNat)
      else d.file.content x)
    (hpos : 0 < d.pageSize.toNat) {p : ℕ} (hp : p < d.totalSize.toNat) :
    SparseDisk.image { d' with file := g } p =
      SparseCall.after d.image (.write offset buffer bufferSize) p := by
  have hentry : SparseDisk.entryAt { d' with file := g } p = d.entryAt p :=
    hsought.sameImage.entryAt p
  have hplace : SparseDisk.placeOf { d' with file := g } p = d.placeOf p :=
    hsought.sameImage.placeOf p
  have hrest := Nat.mod_lt p hpos
  have hpart := part_lt hp
  have hrequest : (offset.toNat ≤ p ∧ p < offset.toNat + bufferSize.toNat) ↔
      p / d.pageSize.toNat = offset.toNat / d.pageSize.toNat ∧
        offset.toNat % d.pageSize.toNat ≤ p % d.pageSize.toNat ∧
        p % d.pageSize.toNat < offset.toNat % d.pageSize.toNat + bufferSize.toNat := by
    rw [← mem_page_iff hrest hpage.within, Nat.div_add_mod', Nat.div_add_mod']
  have hwritten : (d.placeOf offset.toNat ≤ d.placeOf p ∧
      d.placeOf p < d.placeOf offset.toNat + bufferSize.toNat) ↔
      (d.entryAt p).toNat = (d.entryAt offset.toNat).toNat ∧
        offset.toNat % d.pageSize.toNat ≤ p % d.pageSize.toNat ∧
        p % d.pageSize.toNat < offset.toNat % d.pageSize.toNat + bufferSize.toNat :=
    mem_page_iff hrest hpage.within
  rw [SparseDisk.image, hentry, hplace]
  change (if _ then _ else g.content (d.placeOf p)) = if _ then _ else _
  rw [hg]
  by_cases hin : offset.toNat ≤ p ∧ p < offset.toNat + bufferSize.toNat
  · have hpart' := hrequest.mp hin
    have hsame : d.entryAt p = d.entryAt offset.toNat := by
      rw [SparseDisk.entryAt, SparseDisk.entryAt, hpart'.1]
    have hin' := hwritten.mpr ⟨congrArg _ hsame, hpart'.2⟩
    have hat : d.placeOf p - d.placeOf offset.toNat = p - offset.toNat := by
      have hadd := (hpage.add hpos (show p - offset.toNat < bufferSize.toNat by omega)).2
      rw [Nat.add_sub_cancel' hin.1] at hadd
      omega
    rw [hsame, if_neg hused, if_pos hin', if_pos hin, hat]
  · have hout : ¬ (d.placeOf offset.toNat ≤ d.placeOf p ∧
        d.placeOf p < d.placeOf offset.toNat + bufferSize.toNat) := by
      intro h
      have hplaces := hwritten.mp h
      exact hin (hrequest.mpr ⟨hown _ hpart (BitVec.eq_of_toNat_eq hplaces.1), hplaces.2⟩)
    rw [if_neg hout, if_neg hin]
    rfl

/-- A direct write. -/
lemma sparseCall_write (hdirect : SparseDirect d (.write offset buffer bufferSize)) :
    ∃ d' answer, sparseCall d (.write offset buffer bufferSize) = .ok (d', answer) ∧
      answer.1 = bufferSize ∧ d'.totalSize = d.totalSize ∧ ∀ p < d.totalSize.toNat,
        d'.image p = SparseCall.after d.image (.write offset buffer bufferSize) p := by
  obtain ⟨hoffset, hdirect⟩ := hdirect
  obtain ⟨d₁, hseek, hsought⟩ := exists_sought hoffset
  rw [sparseCall, hseek, ok_bind]
  by_cases hsize : bufferSize = 0
  · refine ⟨d₁, (bufferSize, buffer), ?_, rfl, hsought.sameImage.totalSize, fun p _ => ?_⟩
    · rw [hsize]
      rfl
    · have hempty : ¬ (offset.toNat ≤ p ∧ p < offset.toNat + bufferSize.toNat) := by
        rw [hsize]
        exact fun h => absurd h.2 (not_lt.mpr h.1)
      rw [hsought.sameImage.image]
      exact (if_neg hempty).symm
  obtain ⟨hpage, hused, hpoints, hwritable, hown⟩ := hdirect.resolve_left hsize
  have hholds := hsought.holds hpage
  have hpos := pageSize_pos hoffset
  have hwrite : sparseWritePage buffer bufferSize d₁ =
      .ok { d₁ with
        file := (d.fileAt offset.toNat).write ((List.range bufferSize.toNat).map buffer) } := by
    have hused₁ : d₁.positionPhysicalPage ≠ sparsePageNotAllocated := by
      rw [hsought.physicalPage]
      exact hused
    simp only [sparseWritePage, if_neg hused₁, ok_bind, hsought.move hpage hpoints,
      hpage.toNat_setWidth, sparseWriteFile, hsought.writable, hwritable, if_true,
      BitVec.ofNat_toNat, BitVec.setWidth_eq, ne_eq, not_true_eq_false, if_false]
    rfl
  have hholds' : Holds { d₁ with
      file := (d.fileAt offset.toNat).write ((List.range bufferSize.toNat).map buffer) }
      bufferSize := ⟨hholds.within, hholds.next⟩
  obtain ⟨d₂, hwrite₂, hsame⟩ := hholds.write hsize hholds' hwrite
  refine ⟨d₂, (bufferSize, buffer), ?_, rfl, ?_, fun p hp => ?_⟩
  · rw [hwrite₂]
    rfl
  · rw [hsame.totalSize]
    exact (d₁.totalSize_eq).trans (by
      rw [hsought.numberOfPages, hsought.pageSize, d.totalSize_eq])
  · rw [hsame.image]
    exact image_write hsought hpage hused hown (content_fileAt_write _) hpos hp

end Direct

/-! ## Opening an image -/

/-- What is found in the header and the table of an image that has any pages. -/
structure SparseOpened (file : ByteFile) (d : SparseDisk) : Prop where
  content : d.file.content = file.content
  pageSize : d.pageSize = littleEndian (fun j => file.byte (8 + j)) 4
  pageTable : ∀ v < d.numberOfPages.toNat,
    d.pageTable v = littleEndian (fun j => file.byte (sparseHeaderSize + (4 * v + j))) 4

/-- A table that was read whole, and has entries, follows a whole header. -/
lemma size_of_table {file : ByteFile} {pages : BitVec 32} (hpages : 0 < pages.toNat)
    (h : BitVec.ofNat 64 ((({ file with position := 0 } : ByteFile).afterRead
      sparseHeaderSize).readCount ((pages.setWidth 64 * 4).setWidth 32).toNat) =
        pages.setWidth 64 * 4) :
    sparseHeaderSize + 4 * pages.toNat ≤ file.size ∧
      ((pages.setWidth 64 * 4).setWidth 32).toNat = 4 * pages.toNat := by
  have hlt := pages.isLt
  have hsize : (pages.setWidth 64 * 4).toNat = 4 * pages.toNat := by
    have hfour : (4 : BitVec 64).toNat = 4 := rfl
    have hproduct : pages.toNat * 4 < 2 ^ 64 := by omega
    rw [BitVec.toNat_mul, BitVec.toNat_setWidth_of_le (by decide), hfour,
      Nat.mod_eq_of_lt hproduct, Nat.mul_comm]
  have hcount : ((pages.setWidth 64 * 4).setWidth 32).toNat = 4 * pages.toNat % 2 ^ 32 := by
    rw [BitVec.toNat_setWidth, hsize]
  have h' := congrArg BitVec.toNat h
  rw [hsize, hcount, BitVec.toNat_ofNat] at h'
  simp only [ByteFile.readCount, ByteFile.afterRead, sparseHeaderSize] at h'
  rw [hcount, sparseHeaderSize]
  omega

lemma sparseOpened {writable : Bool} {file : ByteFile} {d : SparseDisk}
    (h : sparseInitializeHardDisk writable file = .ok d) (hpages : 0 < d.numberOfPages.toNat) :
    SparseOpened file d := by
  unfold sparseInitializeHardDisk at h
  split at h
  · cases h
  simp only at h
  split at h
  · cases h
  split at h
  · cases h
  split at h
  · cases h
  split at h
  · cases h
  rename_i htable
  obtain rfl := Except.ok.inj h
  obtain ⟨hsize, hcount⟩ := size_of_table hpages (not_not.mp htable)
  unfold sparseHeaderSize at hsize
  have hheader (j : ℕ) (hj : j < 16) : ({ file with position := 0 } : ByteFile).readInto
      sparseHeaderSize (fun _ => 0) j = file.byte j := by
    have hless : j < sparseHeaderSize := hj.trans (by decide)
    have hinside : 0 + sparseHeaderSize ≤ file.size := by
      unfold sparseHeaderSize
      omega
    rw [ByteFile.readInto_of_le hless hinside]
    exact congrArg file.byte (Nat.zero_add j)
  refine ⟨rfl, littleEndian_congr fun j hj => hheader _ (by omega), fun v hv => ?_⟩
  refine littleEndian_congr fun j hj => ?_
  have hposition : (({ file with position := 0 } : ByteFile).afterRead sparseHeaderSize).position =
      sparseHeaderSize := by
    change 0 + min 256 (file.size - 0) = 256
    omega
  rw [ByteFile.readInto_of_le, hposition]
  · rfl
  · rw [hcount]
    change v < _ at hv
    omega
  · rw [hposition, hcount]
    exact hsize

/-- Whatever image was opened, and whether it may be written to or not, a list of calls each of
which is direct where it is made acts on it as on the array of the file. -/
theorem direct_calls_act_flat (writable : Bool) (file : ByteFile) (d : SparseDisk)
    (calls : List SparseCall) (h : sparseInitializeHardDisk writable file = .ok d)
    (hdirect : Meets (advance sparseCall) SparseDirect d calls) :
    ActsFlat d (sparseFileImage file) calls := by
  refine Follows.of_simulation (R := fun d image => ∀ p < d.totalSize.toNat, d.image p = image p)
    (fun d image call himage hcall => ?_) (fun p hp => ?_) hdirect
  · cases call with
    | read offset buffer bufferSize =>
      obtain ⟨d', answer, hok, ⟨hcount, hbytes⟩, hsame⟩ := sparseCall_read hcall
      refine ⟨d', answer, hok, ⟨hcount, fun j hj => ?_⟩, fun p hp => ?_⟩
      · rw [hbytes j hj]
        refine himage _ (SparseDirect.lt_totalSize hcall hj)
      · rw [hsame.totalSize] at hp
        rw [hsame.image]
        exact himage p hp
    | write offset buffer bufferSize =>
      obtain ⟨d', answer, hok, hcount, htotal, hwritten⟩ := sparseCall_write hcall
      refine ⟨d', answer, hok, hcount, fun p hp => ?_⟩
      rw [htotal] at hp
      rw [hwritten p hp]
      by_cases hin : offset.toNat ≤ p ∧ p < offset.toNat + bufferSize.toNat
      · exact (if_pos hin).trans (if_pos hin).symm
      · exact (if_neg hin).trans ((himage p hp).trans (if_neg hin).symm)
  · have hpart := part_lt hp
    have hopened := sparseOpened h (Nat.zero_lt_of_lt hpart)
    rw [SparseDisk.image, SparseDisk.placeOf, SparseDisk.entryAt, hopened.pageTable _ hpart,
      hopened.pageSize, hopened.content]
    rfl

/-- An image with pages of 512 bytes, the first of which have the entries given; the rest are not
allocated. -/
def sparseFile (pages : BitVec 32) (entries : List (BitVec 32)) (size : ℕ) : ByteFile where
  size := size
  byte p :=
    if p = 4 ∨ p = 9 then 2
    else if 12 ≤ p ∧ p < 16 then byteAt pages (p - 12)
    else if 256 ≤ p ∧ p < 256 + 4 * pages.toNat then
      byteAt (entries.getD ((p - 256) / 4) sparsePageNotAllocated) ((p - 256) % 4)
    else if 512 ≤ p then 0x5a
    else 0
  position := 0

/-- A read of page 0 leaves the pointer before page 1; a page that is not allocated needs none. -/
theorem direct_calls_act_flat_three : ∃ d,
    sparseInitializeHardDisk true (sparseFile 447 [4, 5] 3072) = .ok d ∧
      ActsFlat d (sparseFileImage (sparseFile 447 [4, 5] 3072)) [.read 0 (fun _ => 0) 507,
        .write 512 (fun _ => 0x11) 4, .read 1024 (fun _ => 0x22) 512] := by
  obtain ⟨d, hd, hdirect⟩ := exists_of_ends (fun d : SparseDisk =>
    Meets (advance sparseCall) SparseDirect d [.read 0 (fun _ => 0) 507,
      .write 512 (fun _ => 0x11) 4, .read 1024 (fun _ => 0x22) 512])
    (show ends _ (sparseInitializeHardDisk true (sparseFile 447 [4, 5] 3072)) = true by
      decide +kernel)
  exact ⟨d, hd, direct_calls_act_flat true _ d _ hd hdirect⟩

/-- Page 0 is page 1 of the file, at 512; the first read goes to 264 + 1, into the header. -/
theorem first_read_misplaced : ∃ d,
    sparseInitializeHardDisk true (sparseFile 2 [1] 1024) = .ok d ∧ 512 ≤ d.totalSize.toNat ∧
      ¬ ActsFlat d (sparseFileImage (sparseFile 2 [1] 1024)) [.read 0 (fun _ => 0) 512] := by
  obtain ⟨d, hd, hsize, hread⟩ := exists_of_ends (fun d : SparseDisk => 512 ≤ d.totalSize.toNat ∧
    ends (fun r : SparseDisk × BitVec 64 × (ℕ → BitVec 8) =>
      r.2.2 0 ≠ sparseFileImage (sparseFile 2 [1] 1024) 0)
      (sparseCall d (.read 0 (fun _ => 0) 512)) = true)
    (show ends _ (sparseInitializeHardDisk true (sparseFile 2 [1] 1024)) = true by decide +kernel)
  refine ⟨d, hd, hsize, fun hflat => ?_⟩
  obtain ⟨r, hr, hwrong⟩ := exists_of_ends _ hread
  obtain ⟨d', answer, hok, hanswer, -⟩ := hflat
  obtain rfl := Except.ok.inj (hr.symm.trans hok)
  exact hwrong (hanswer.2 0 (by decide))

end Svmm
