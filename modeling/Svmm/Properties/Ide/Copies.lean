import Svmm.Framework.Run
import Svmm.Construction.Ide
import Svmm.Properties.HostMemory
import Svmm.Properties.HardDisk.Effects

/-!
# Where the bus master copies

The timer looks up where an entry and the area it describes begin, and copies from there.  A word
stays between `Ram` and `MemoryEnd` when the lookup leaves room for it, and an area stays in RAM
when each of its addresses is found there.  In the direction from a drive the area is left alone as
long as the drive has something to hand over, since the handler then takes what it returns for an
error.
-/

namespace Svmm

open TransitionRun

/-! ## RAM -/

namespace Machine

variable (m : Machine)

/-- The lookup finds the address in RAM. -/
def FoundInRam (gpa : BitVec 64) : Prop :=
  m.ram.toNat ≤ (svmmGetHostPageFromGPA m gpa).toNat ∧
    (svmmGetHostPageFromGPA m gpa).toNat < m.ram.toNat + m.ramSize.toNat

/-- Every address of the area is in RAM. -/
def WhollyInRam (address : BitVec 32) (size : ℕ) : Prop :=
  ∀ j < size, m.FoundInRam (address.setWidth 64 + BitVec.ofNat 64 j)

/-- The lookup leaves room for the bytes of a word before `MemoryEnd`. -/
def WordInside (address : BitVec 32) : Prop :=
  m.hostOffset (address.setWidth 64) + 4 ≤ bootMemorySize.toNat

instance (gpa : BitVec 64) : Decidable (m.FoundInRam gpa) := inferInstanceAs (Decidable (_ ∧ _))

instance (address : BitVec 32) (size : ℕ) : Decidable (m.WhollyInRam address size) :=
  inferInstanceAs (Decidable (∀ j < size, _))

instance (address : BitVec 32) : Decidable (m.WordInside address) :=
  inferInstanceAs (Decidable (_ ≤ _))

end Machine

/-! ## Statements -/

/-- A copy stays between `Ram` and `MemoryEnd`, and data is copied for an area wholly in RAM. -/
def IdeCopy.Inside (m : Machine) (c : IdeCopy) : Prop :=
  m.ram.toNat ≤ c.host.toNat ∧ c.host.toNat + c.size ≤ m.memoryEnd.toNat ∧
    (c.data = true → m.WhollyInRam c.address c.size)

/-- The copies of a tick stay in guest memory. -/
def CopiesInside (s : IdeSystem) : IdeEvent → Prop
  | .tick => ∀ c ∈ (ideTimerHandler s).copies, c.Inside s.machine
  | _ => True

namespace HardDisk

variable (ch : Fin 4) (s : HardDisk)

/-- The command is a packet with DMA that reads blocks. -/
def ReadsBlocks : Prop :=
  (s.controller ch).currentCommand = ideCommandAtapiPacket ∧ (s.controller ch).packetDma ≠ 0 ∧
    (s.controller ch).atapi.atapiCommand ∈ [scsiopRead, scsiopRead12, scsiopReadCd]

instance : Decidable (s.ReadsBlocks ch) := inferInstanceAs (Decidable (_ ∧ _ ∧ _))

/-- The drive has something to hand over to the bus master: sectors, a block of the CD that is not
empty, or an answer of another kind. -/
def HandsOver : Prop :=
  if (s.controller ch).currentCommand ∈ [ideCommandReadDma, ideCommandReadDmaExt] then
    (s.controller ch).numberOfSectors ≠ 0 ∧ (s.controller ch).bufferSize ≠ 0
  else (s.controller ch).currentCommand = ideCommandAtapiPacket ∧ (s.controller ch).packetDma ≠ 0 ∧
    (s.ReadsBlocks ch → s.cdRom.frame (s.controller ch).lbAddress ≠ [])

/-- What is stored at each call as long as nothing is handed over: the frame around a raw block that
could not be read. -/
def idleBytes : List (BitVec 8) :=
  if s.ReadsBlocks ch then
    (cdRomBlock s.cdRom (s.controller ch).lbAddress (s.controller ch).bufferSize).2
  else []

instance : Decidable (s.HandsOver ch) := by
  unfold HandsOver
  infer_instance

end HardDisk

namespace IdeSystem

variable (s : IdeSystem) (ch : Fin 2)

/-- The two words of the entry of a channel. -/
def entryAddress : BitVec 32 := s.fetch (s.bmdma ch).prdCurrent
def entryCount : BitVec 32 := s.fetch ((s.bmdma ch).prdCurrent + 4)

/-- The area of the entry is copied: always in the direction to a drive, and in the other when the
drive has nothing to hand over and what it stores nevertheless has its place in the buffer. -/
def DataCopied : Prop :=
  Word.has (s.bmdma ch).command ideBdmaCommandWrite →
    ¬ s.disk.HandsOver (ataChannel ch) ∧
      ∀ j < prdPasses (prdSize (s.entryCount ch)),
        (prdOffset (s.bmdma ch).bufferOffset (prdSize (s.entryCount ch))).toNat + 512 * j +
          (s.disk.idleBytes (ataChannel ch)).length ≤ ideBufferSize

/-- The entry of a channel is inside guest memory, and its area, if copied, wholly in RAM. -/
def EntryInside : Prop :=
  s.machine.WordInside (s.bmdma ch).prdCurrent ∧
    s.machine.WordInside ((s.bmdma ch).prdCurrent + 4) ∧
      (s.DataCopied ch →
        s.machine.WhollyInRam (s.entryAddress ch) (prdSize (s.entryCount ch)).toNat)

/-- The timer waits for the drive. -/
def Waits : Prop :=
  (s.bmdma ch).dataReady = 0 ∧ Word.has (s.bmdma ch).command ideBdmaCommandWrite

instance : Decidable (s.DataCopied ch) := inferInstanceAs (Decidable (_ → _))

instance : Decidable (s.EntryInside ch) := inferInstanceAs (Decidable (_ ∧ _ ∧ _))

instance : Decidable (s.Waits ch) := inferInstanceAs (Decidable (_ ∧ _))

end IdeSystem

/-- A tick finds no entry to move, or one that is inside guest memory. -/
def TickInside (s : IdeSystem) : IdeEvent → Prop
  | .tick => ∀ ch ∈ s.activeChannel, ¬ s.Waits ch → s.EntryInside ch
  | _ => True

instance (s : IdeSystem) (e : IdeEvent) : Decidable (TickInside s e) := by
  unfold TickInside
  cases e <;> infer_instance

/-! ## Frames -/

namespace IdeSystem

variable (s : IdeSystem) (ch : Fin 2)

@[simp] lemma machine_modify (f : Bmdma → Bmdma) : (s.modify ch f).machine = s.machine := rfl
@[simp] lemma disk_modify (f : Bmdma → Bmdma) : (s.modify ch f).disk = s.disk := rfl

@[simp] lemma machine_diskCall (call : HardDiskCall) : (s.diskCall call).machine = s.machine := by
  cases call <;> simp only [diskCall] <;> split <;> rfl

@[simp] lemma disk_diskCall (call : HardDiskCall) : (s.diskCall call).disk = s.disk := by
  cases call <;> simp only [diskCall] <;> split <;> rfl

lemma foldl_diskCall (calls : List HardDiskCall) :
    (calls.foldl diskCall s).machine = s.machine ∧ (calls.foldl diskCall s).disk = s.disk := by
  induction calls generalizing s with
  | nil => exact ⟨rfl, rfl⟩
  | cons call calls ih =>
      obtain ⟨hmachine, hdisk⟩ := ih (s.diskCall call)
      exact ⟨hmachine.trans (s.machine_diskCall call), hdisk.trans (s.disk_diskCall call)⟩

@[simp] lemma machine_withDisk (disk : HardDisk) : (s.withDisk disk).machine = s.machine :=
  (foldl_diskCall { s with disk := disk } _).1

@[simp] lemma disk_withDisk (disk : HardDisk) : (s.withDisk disk).disk = disk :=
  (foldl_diskCall { s with disk := disk } _).2

end IdeSystem

section Frames

variable {s t : IdeSystem} {ch : Fin 2}

lemma storeBuffer_ok {offset : ℕ} {bytes : List (BitVec 8)}
    (h : s.storeBuffer ch offset bytes = .ok t) :
    offset + bytes.length ≤ ideBufferSize ∧ t.machine = s.machine ∧ t.disk = s.disk := by
  unfold IdeSystem.storeBuffer at h
  split_ifs at h with hfits
  obtain rfl := Except.ok.inj h
  exact ⟨hfits, rfl, rfl⟩

lemma exists_storeBuffer {offset : ℕ} {bytes : List (BitVec 8)}
    (h : offset + bytes.length ≤ ideBufferSize) :
    ∃ t, s.storeBuffer ch offset bytes = .ok t ∧ t.machine = s.machine ∧ t.disk = s.disk := by
  unfold IdeSystem.storeBuffer
  rw [if_pos h]
  exact ⟨_, rfl, rfl, rfl⟩

lemma machine_readLoop {offset n i : ℕ} {complete : Bool}
    (h : ideReadLoop ch offset n i s = .ok (t, complete)) : t.machine = s.machine := by
  induction n generalizing i s with
  | zero =>
      obtain ⟨rfl, -⟩ := Prod.mk.inj (Except.ok.inj h)
      rfl
  | succ n ih =>
      rw [ideReadLoop, bind_eq_ok] at h
      obtain ⟨r, -, h⟩ := h
      rw [bind_eq_ok] at h
      obtain ⟨u, hu, h⟩ := h
      have hkept := (storeBuffer_ok hu).2.1
      rw [IdeSystem.machine_withDisk] at hkept
      split_ifs at h with hret
      · obtain ⟨rfl, -⟩ := Prod.mk.inj (Except.ok.inj h)
        exact hkept
      · exact (ih h).trans hkept

lemma machine_writeLoop {n : ℕ} {complete : Bool}
    (h : ideWriteLoop ch n s = .ok (t, complete)) : t.machine = s.machine := by
  induction n generalizing s with
  | zero =>
      obtain ⟨rfl, -⟩ := Prod.mk.inj (Except.ok.inj h)
      rfl
  | succ n ih =>
      rw [ideWriteLoop, bind_eq_ok] at h
      obtain ⟨r, -, h⟩ := h
      simp only at h
      split_ifs at h with hret
      · obtain ⟨rfl, -⟩ := Prod.mk.inj (Except.ok.inj h)
        exact s.machine_withDisk _
      · exact (ih h).trans (s.machine_withDisk _)

@[simp] lemma machine_bdmaComplete : (ideBdmaComplete ch s).machine = s.machine :=
  s.machine_withDisk _

@[simp] lemma machine_nextEntry (count size : BitVec 32) :
    (ideNextEntry ch count size s).machine = s.machine := by
  unfold ideNextEntry
  split <;> simp

end Frames

/-! ## The memory block stays where it is -/

/-- The machines have the same memory block. -/
structure Machine.SameBlock (m m' : Machine) : Prop where
  ram : m'.ram = m.ram
  ramSize : m'.ramSize = m.ramSize
  memoryEnd : m'.memoryEnd = m.memoryEnd

lemma Machine.SameBlock.booted {m m' : Machine} (h : m.SameBlock m') (hb : m.Booted) :
    m'.Booted where
  ramSize_eq := h.ramSize.trans hb.ramSize_eq
  memoryEnd_eq := by rw [h.memoryEnd, h.ram, hb.memoryEnd_eq]
  ram_pos := by rw [h.ram]; exact hb.ram_pos
  ram_fits := by rw [h.ram]; exact hb.ram_fits

lemma Machine.SameBlock.of_eq {m m' : Machine} (h : m' = m) : m.SameBlock m' := by
  obtain rfl := h
  exact ⟨rfl, rfl, rfl⟩

lemma sameBlock_transfer {s t : IdeSystem} {ch : Fin 2} (h : (ideTransfer ch s).result = .ok t) :
    s.machine.SameBlock t.machine := by
  unfold ideTransfer at h
  simp only at h
  split_ifs at h with hwrite
  · split at h
    · cases h
    · rename_i r hloop
      have hkept : r.1.machine = _ := machine_readLoop hloop
      split_ifs at h with hdone
      · obtain rfl := Except.ok.inj h
        rw [machine_nextEntry]
        simp only [IdeSystem.writeHost, hkept, IdeSystem.machine_modify]
        exact ⟨rfl, rfl, rfl⟩
      · obtain rfl := Except.ok.inj h
        exact .of_eq (machine_bdmaComplete.trans hkept)
  · split at h
    · cases h
    · rename_i r hloop
      have hkept : r.1.machine = _ := machine_writeLoop hloop
      obtain rfl := Except.ok.inj h
      split
      · exact .of_eq ((machine_nextEntry _ _).trans hkept)
      · exact .of_eq (machine_bdmaComplete.trans hkept)

/-- No event moves the memory block. -/
lemma sameBlock_ideStep {s t : IdeSystem} {e : IdeEvent} (h : ideStep s e = .ok t) :
    s.machine.SameBlock t.machine := by
  cases e with
  | guest machine =>
      obtain rfl := Except.ok.inj h
      exact ⟨rfl, rfl, rfl⟩
  | bar address =>
      obtain rfl := Except.ok.inj h
      exact .of_eq rfl
  | portWrite address value =>
      unfold ideStep idePortIoWriteHandler at h
      simp only at h
      split_ifs at h with hch
      obtain rfl := Except.ok.inj h
      exact .of_eq rfl
  | diskWrite address value length =>
      obtain ⟨disk, -, h⟩ := bind_eq_ok.mp h
      obtain rfl := Except.ok.inj h
      exact .of_eq (s.machine_withDisk disk)
  | diskRead address length =>
      obtain ⟨r, -, h⟩ := bind_eq_ok.mp h
      obtain rfl := Except.ok.inj h
      exact .of_eq (s.machine_withDisk r.1)
  | seekTimer =>
      obtain rfl := Except.ok.inj h
      exact .of_eq (s.machine_withDisk _)
  | tick =>
      unfold ideStep ideTimerHandler at h
      simp only at h
      split at h
      · obtain rfl := Except.ok.inj h
        exact .of_eq rfl
      · split_ifs at h with hwait
        · obtain rfl := Except.ok.inj h
          exact .of_eq rfl
        · exact sameBlock_transfer h

/-! ## What the drive hands over -/

section Drive

variable {ch : Fin 4} {s : HardDisk}

lemma sectorPasses_eq_zero {bufferSize : BitVec 32} : sectorPasses bufferSize = 0 ↔
    bufferSize = 0 := by
  have hzero : bufferSize = 0 ↔ bufferSize.toNat = 0 := BitVec.toNat_inj.symm
  rw [hzero]
  simp only [sectorPasses, hardDiskSectorSize]
  omega

lemma modifyDrive_same : s.modifyDrive ch (fun _ => s.drive ch) = s := by
  have hdrive : Function.update (s.channel ch).drive (s.channel ch).dnum (s.drive ch) =
      (s.channel ch).drive := Function.update_eq_self _ _
  unfold HardDisk.modifyDrive HardDisk.modifyDriveAt HardDisk.setChannel
  rw [hdrive]
  exact congrArg (fun c => { s with channel := c }) (Function.update_eq_self _ _)

lemma fst_cdRomBlock (cdRom : CdRom) (lbAddress bufferSize : BitVec 32) :
    (cdRomBlock cdRom lbAddress bufferSize).1 = (cdRom.frame lbAddress).length := by
  unfold cdRomBlock
  split <;> rfl

lemma currentCommand_commandAborted :
    ((hardDiskCommandAborted ch s).controller ch).currentCommand = 0 := by
  rw [hardDiskCommandAborted, HardDisk.controller_eq_drive, drive_raiseInterrupt,
    HardDisk.drive_modifyController]
  rfl

/-- Without a command, nothing is handed over and nothing stored. -/
lemma idle_of_no_command (h : (s.controller ch).currentCommand = 0) :
    ¬ s.HandsOver ch ∧ s.idleBytes ch = [] := by
  constructor
  · unfold HardDisk.HandsOver
    rw [h, if_neg (by decide)]
    exact fun hhands => absurd hhands.1 (by decide)
  · refine if_neg fun hblocks => ?_
    rw [HardDisk.ReadsBlocks, h] at hblocks
    exact absurd hblocks.1 (by decide)

lemma hardDiskReadSector_nothing (h : (s.controller ch).bufferSize = 0) :
    hardDiskReadSector ch s = .ok (s, 0) := by
  have hpasses : sectorPasses (s.controller ch).bufferSize = 0 := sectorPasses_eq_zero.mpr h
  unfold hardDiskReadSector
  simp only [hpasses, readSectorLoop, ok_bind, Nat.zero_mul]
  rw [modifyDrive_same]
  rfl

/-- As long as nothing is handed over, a call returns zero, and so does the next. -/
lemma idle_read (h : ¬ s.HandsOver ch) :
    ∃ t, hardDiskBmdmaReadSector ch s = .ok (t, 0, s.idleBytes ch) ∧
      ¬ t.HandsOver ch ∧ t.idleBytes ch = s.idleBytes ch := by
  have hsame : ∀ t : HardDisk, t = s → ¬ t.HandsOver ch ∧ t.idleBytes ch = s.idleBytes ch := by
    rintro t rfl
    exact ⟨h, rfl⟩
  unfold HardDisk.HandsOver at h
  unfold hardDiskBmdmaReadSector
  simp only
  by_cases hdma : (s.controller ch).currentCommand ∈ [ideCommandReadDma, ideCommandReadDmaExt]
  · have hbytes : s.idleBytes ch = [] := by
      refine if_neg fun hblocks => ?_
      rw [hblocks.1] at hdma
      exact absurd hdma (by decide)
    rw [if_pos hdma] at h ⊢
    rw [hbytes]
    by_cases hsectors : (s.controller ch).numberOfSectors = 0
    · exact ⟨s, by rw [if_pos hsectors], hbytes ▸ hsame s rfl⟩
    · have hnothing : (s.controller ch).bufferSize = 0 := by
        by_contra hsize
        exact h ⟨hsectors, hsize⟩
      refine ⟨s, ?_, hbytes ▸ hsame s rfl⟩
      rw [if_neg hsectors, hardDiskReadSector_nothing hnothing]
      rfl
  · rw [if_neg hdma] at h ⊢
    by_cases hpacket : (s.controller ch).currentCommand = ideCommandAtapiPacket ∧
        (s.controller ch).packetDma ≠ 0
    · rw [if_pos hpacket]
      have hblocks : s.ReadsBlocks ch ∧ s.cdRom.frame (s.controller ch).lbAddress = [] := by
        by_contra hnot
        exact h ⟨hpacket.1, hpacket.2, fun hreads hempty => hnot ⟨hreads, hempty⟩⟩
      have hret : (cdRomBlock s.cdRom (s.controller ch).lbAddress (s.controller ch).bufferSize).1 =
          0 := by
        rw [fst_cdRomBlock, hblocks.2, List.length_nil]
      refine ⟨s, ?_, hsame s rfl⟩
      rw [if_pos hblocks.1.2.2, if_pos hret, HardDisk.idleBytes, if_pos hblocks.1]
    · have hbytes : s.idleBytes ch = [] := if_neg fun hblocks => hpacket ⟨hblocks.1, hblocks.2.1⟩
      rw [if_neg hpacket, hbytes]
      exact ⟨_, rfl, idle_of_no_command currentCommand_commandAborted⟩

lemma handing_read {r : HardDisk × ℕ × List (BitVec 8)} (h : s.HandsOver ch)
    (hr : hardDiskBmdmaReadSector ch s = .ok r) : r.2.1 ≠ 0 := by
  unfold HardDisk.HandsOver at h
  unfold hardDiskBmdmaReadSector at hr
  simp only at hr
  by_cases hdma : (s.controller ch).currentCommand ∈ [ideCommandReadDma, ideCommandReadDmaExt]
  · rw [if_pos hdma] at h hr
    rw [if_neg h.1, bind_eq_ok] at hr
    obtain ⟨u, hu, hr⟩ := hr
    obtain rfl := Except.ok.inj hr
    have hret : u.2 ≠ 0 := by
      unfold hardDiskReadSector at hu
      obtain ⟨v, -, hu⟩ := bind_eq_ok.mp hu
      obtain rfl := Except.ok.inj hu
      exact Nat.mul_ne_zero (mt sectorPasses_eq_zero.mp h.2) (by decide)
    rw [if_neg hret]
    exact Nat.one_ne_zero
  · rw [if_neg hdma] at h hr
    rw [if_pos ⟨h.1, h.2.1⟩] at hr
    split_ifs at hr with hreads hempty
    · rw [fst_cdRomBlock, List.length_eq_zero_iff] at hempty
      exact absurd hempty (h.2.2 ⟨h.1, h.2.1, hreads⟩)
    · obtain rfl := Except.ok.inj hr
      exact Nat.one_ne_zero
    · obtain ⟨bytes, -, hr⟩ := bind_eq_ok.mp hr
      obtain rfl := Except.ok.inj hr
      exact Nat.one_ne_zero

end Drive

/-! ## The loop from a drive -/

/-- The loop comes to its end exactly when nothing is handed over and what is stored has its place
in the buffer. -/
lemma exists_readLoop_iff {s : IdeSystem} {ch : Fin 2} {offset n i : ℕ} (hn : 0 < n) :
    (∃ t, ideReadLoop ch offset n i s = .ok (t, true)) ↔
      ¬ s.disk.HandsOver (ataChannel ch) ∧ ∀ j < n,
        offset + i + 512 * j + (s.disk.idleBytes (ataChannel ch)).length ≤ ideBufferSize := by
  induction n generalizing i s with
  | zero => exact absurd hn (lt_irrefl 0)
  | succ n ih =>
      by_cases hands : s.disk.HandsOver (ataChannel ch)
      · refine iff_of_false ?_ fun h => h.1 hands
        rintro ⟨t, ht⟩
        rw [ideReadLoop, bind_eq_ok] at ht
        obtain ⟨r, hr, ht⟩ := ht
        obtain ⟨u, -, ht⟩ := bind_eq_ok.mp ht
        rw [if_pos (handing_read hands hr)] at ht
        cases ht
      · obtain ⟨disk, hread, hidle, hbytes⟩ := idle_read hands
        simp only [hands, not_false_eq_true, true_and]
        rw [ideReadLoop, hread, ok_bind]
        simp only [ne_eq, not_true_eq_false, if_false]
        by_cases hfits : offset + i + (s.disk.idleBytes (ataChannel ch)).length ≤ ideBufferSize
        · obtain ⟨u, hu, -, hdisk⟩ : ∃ u,
              (s.withDisk disk).storeBuffer ch (offset + i) (s.disk.idleBytes (ataChannel ch)) =
                .ok u ∧ u.machine = (s.withDisk disk).machine ∧ u.disk = (s.withDisk disk).disk :=
            exists_storeBuffer hfits
          rw [hu, ok_bind]
          rw [IdeSystem.disk_withDisk] at hdisk
          have hrest : (∃ t, ideReadLoop ch offset n (i + 512) u = .ok (t, true)) ↔ ∀ j < n,
              offset + (i + 512) + 512 * j + (s.disk.idleBytes (ataChannel ch)).length ≤
                ideBufferSize := by
            rcases Nat.eq_zero_or_pos n with rfl | hpos
            · exact iff_of_true ⟨u, rfl⟩ fun j hj => absurd hj (Nat.not_lt_zero j)
            · rw [ih hpos, hdisk, hbytes]
              exact and_iff_right hidle
          have hshift : ∀ j, offset + (i + 512) + 512 * j = offset + i + 512 * (j + 1) := by
            intro j
            omega
          simp only [hshift] at hrest
          rw [hrest, Nat.forall_lt_succ_left]
          exact (and_iff_right hfits).symm
        · refine iff_of_false ?_ fun h => hfits (h 0 (Nat.succ_pos n))
          rintro ⟨t, ht⟩
          obtain ⟨u, hu, -⟩ := bind_eq_ok.mp ht
          exact hfits (storeBuffer_ok hu).1

/-! ## The copies of a tick -/

section Tick

variable {s : IdeSystem} {ch : Fin 2}

lemma prdSize_bounds (count : BitVec 32) :
    0 < (prdSize count).toNat ∧ (prdSize count).toNat ≤ 0x10000 := by
  unfold prdSize
  split_ifs with hzero
  · decide
  · constructor
    · refine Nat.pos_of_ne_zero fun h => hzero (BitVec.eq_of_toNat_eq ?_)
      exact h
    · have hle : (count &&& 0xfffe).toNat ≤ (0xfffe : BitVec 32).toNat := by
        rw [BitVec.toNat_and]
        exact Nat.and_le_right
      exact hle.trans (by decide)

lemma prdPasses_pos (count : BitVec 32) : 0 < prdPasses (prdSize count) := by
  have := (prdSize_bounds count).1
  unfold prdPasses
  omega

/-- In the direction from a drive the area is copied when the loop comes to its end. -/
lemma dataCopied_iff_of_write (hwrite : Word.has (s.bmdma ch).command ideBdmaCommandWrite) :
    s.DataCopied ch ↔ ∃ t, ideReadLoop ch
      (prdOffset (s.bmdma ch).bufferOffset (prdSize (s.entryCount ch))).toNat
      (prdPasses (prdSize (s.entryCount ch))) 0
      (s.modify ch fun b =>
        { b with
          bufferOffset := prdOffset (s.bmdma ch).bufferOffset (prdSize (s.entryCount ch)) }) =
      .ok (t, true) := by
  rw [exists_readLoop_iff (prdPasses_pos _), IdeSystem.disk_modify, Nat.add_zero]
  exact imp_iff_right hwrite

/-- The copies of the entry of a channel: its words, and its area when it is copied. -/
lemma forall_copies_transfer {P : IdeCopy → Prop} :
    (∀ c ∈ (ideTransfer ch s).copies, P c) ↔
      P (s.copy (s.bmdma ch).prdCurrent 4 false) ∧
        P (s.copy ((s.bmdma ch).prdCurrent + 4) 4 false) ∧
          (s.DataCopied ch →
            P (s.copy (s.entryAddress ch) (prdSize (s.entryCount ch)).toNat true)) := by
  have hwords : ∀ data : List IdeCopy, (∀ c ∈ [s.copy (s.bmdma ch).prdCurrent 4 false,
      s.copy ((s.bmdma ch).prdCurrent + 4) 4 false] ++ data, P c) ↔
      P (s.copy (s.bmdma ch).prdCurrent 4 false) ∧
        P (s.copy ((s.bmdma ch).prdCurrent + 4) 4 false) ∧ ∀ c ∈ data, P c := by
    intro data
    simp only [List.cons_append, List.nil_append, List.forall_mem_cons]
  have hnone : ∀ c ∈ ([] : List IdeCopy), P c := fun c hc => absurd hc List.not_mem_nil
  unfold ideTransfer
  simp only
  by_cases hwrite : Word.has (s.bmdma ch).command ideBdmaCommandWrite
  · rw [if_pos hwrite]
    split
    · rename_i e hloop
      have hcopied : ¬ s.DataCopied ch := by
        rw [dataCopied_iff_of_write hwrite]
        rintro ⟨t, ht⟩
        cases hloop.symm.trans ht
      exact (hwords []).trans (and_congr_right fun _ => and_congr_right fun _ =>
        iff_of_true hnone fun h => absurd h hcopied)
    · rename_i r hloop
      split_ifs with hdone
      · have hcopied : s.DataCopied ch := by
          rw [dataCopied_iff_of_write hwrite]
          exact ⟨r.1, by rw [← hdone]; exact hloop⟩
        rw [hwords]
        simp only [hcopied, forall_const, List.forall_mem_singleton]
        rfl
      · have hcopied : ¬ s.DataCopied ch := by
          rw [dataCopied_iff_of_write hwrite]
          rintro ⟨t, ht⟩
          obtain rfl := Except.ok.inj (hloop.symm.trans ht)
          exact hdone rfl
        exact (hwords []).trans (and_congr_right fun _ => and_congr_right fun _ =>
          iff_of_true hnone fun h => absurd h hcopied)
  · have hcopied : s.DataCopied ch := fun h => absurd h hwrite
    rw [if_neg hwrite]
    split
    · rw [hwords]
      simp only [hcopied, forall_const, List.forall_mem_singleton]
      rfl
    · rw [hwords]
      simp only [hcopied, forall_const, List.forall_mem_singleton]
      rfl

end Tick

/-! ## Addresses -/

section Addresses

variable {m : Machine} {gpa : BitVec 64} {address : BitVec 32} {size : ℕ}

lemma hostOffset_lt (m : Machine) (gpa : BitVec 64) : m.hostOffset gpa < 18446744073709551616 := by
  have := gpa.isLt
  unfold Machine.hostOffset
  split_ifs <;> omega

lemma hostOffset_address_lt (m : Machine) (address : BitVec 32) :
    m.hostOffset (address.setWidth 64) < 0x200000000 := by
  have := address.isLt
  have hgpa : (address.setWidth 64).toNat = address.toNat := BitVec.toNat_setWidth_of_le (by decide)
  unfold Machine.hostOffset
  rw [hgpa]
  split_ifs <;> omega

/-- What the lookup puts in RAM it puts at its own address. -/
lemma hostOffset_eq_of_lt (h : m.hostOffset gpa < 0x40000000) : m.hostOffset gpa = gpa.toNat := by
  unfold Machine.hostOffset at h ⊢
  split_ifs at h ⊢ <;> omega

lemma foundInRam_iff (hb : m.Booted) : m.FoundInRam gpa ↔ m.hostOffset gpa < 0x40000000 := by
  have hram := hb.ram_lt
  have hpos := hb.ram_pos
  have hoffset := hostOffset_lt m gpa
  unfold Machine.FoundInRam
  rw [toNat_svmmGetHostPageFromGPA hb, hb.toNat_memoryEnd, hb.ramSize_eq, toNat_bootRamSize]
  split_ifs <;> omega

lemma wordInside_iff (hb : m.Booted) :
    m.WordInside address ↔
      m.ram.toNat ≤ (svmmGetHostPageFromGPA m (address.setWidth 64)).toNat ∧
        (svmmGetHostPageFromGPA m (address.setWidth 64)).toNat + 4 ≤ m.memoryEnd.toNat := by
  have hram := hb.ram_lt
  have hpos := hb.ram_pos
  have hoffset := hostOffset_address_lt m address
  unfold Machine.WordInside
  rw [toNat_svmmGetHostPageFromGPA hb, hb.toNat_memoryEnd, toNat_bootMemorySize]
  split_ifs <;> omega

lemma toNat_address_add {j : ℕ} (hj : j ≤ 0x10000) :
    (address.setWidth 64 + BitVec.ofNat 64 j).toNat = address.toNat + j := by
  have := address.isLt
  rw [BitVec.toNat_add, BitVec.toNat_setWidth_of_le (by decide), BitVec.toNat_ofNat]
  omega

/-- An area that is wholly in RAM is one piece of host memory, from the place of its first address
on. -/
lemma host_of_whollyInRam (hb : m.Booted) (hpos : 0 < size) (hsize : size ≤ 0x10000)
    (h : m.WhollyInRam address size) :
    (svmmGetHostPageFromGPA m (address.setWidth 64)).toNat = m.ram.toNat + address.toNat ∧
      address.toNat + size ≤ 0x40000000 := by
  have hram := hb.ram_lt
  have hfirst := (foundInRam_iff hb).mp (h 0 hpos)
  have hlast := (foundInRam_iff hb).mp (h (size - 1) (by omega))
  have hfirst' := hostOffset_eq_of_lt hfirst
  have hlast' := hostOffset_eq_of_lt hlast
  rw [toNat_address_add (by omega)] at hfirst' hlast'
  have hzero : address.setWidth 64 + BitVec.ofNat 64 0 = address.setWidth 64 := BitVec.add_zero _
  rw [hzero] at hfirst hfirst'
  constructor
  · rw [toNat_svmmGetHostPageFromGPA hb, hb.toNat_memoryEnd, if_neg (by omega)]
    omega
  · omega

end Addresses

/-! ## Ticks and runs -/

section Runs

variable {s : IdeSystem}

lemma inside_word_iff (hb : s.machine.Booted) (address : BitVec 32) :
    (s.copy address 4 false).Inside s.machine ↔ s.machine.WordInside address := by
  rw [wordInside_iff hb]
  exact and_congr_right fun _ => and_iff_left fun h => absurd h Bool.false_ne_true

lemma inside_data_iff (hb : s.machine.Booted) {address : BitVec 32} {size : ℕ} (hpos : 0 < size)
    (hsize : size ≤ 0x10000) :
    (s.copy address size true).Inside s.machine ↔ s.machine.WhollyInRam address size := by
  constructor
  · exact fun h => h.2.2 rfl
  · intro h
    obtain ⟨hhost, hend⟩ := host_of_whollyInRam hb hpos hsize h
    have hmemory := hb.toNat_memoryEnd
    refine ⟨?_, ?_, fun _ => h⟩
    · change s.machine.ram.toNat ≤ (svmmGetHostPageFromGPA s.machine (address.setWidth 64)).toNat
      omega
    · change (svmmGetHostPageFromGPA s.machine (address.setWidth 64)).toNat + size ≤ _
      omega

/-- The copies of an event stay in guest memory exactly when the entry that it moves is inside. -/
lemma copiesInside_iff (hb : s.machine.Booted) (e : IdeEvent) :
    CopiesInside s e ↔ TickInside s e := by
  cases e with
  | tick =>
      unfold CopiesInside TickInside ideTimerHandler
      simp only
      cases hch : s.activeChannel with
      | none => simp
      | some ch =>
          simp only [Option.mem_some_iff, forall_eq']
          split_ifs with hwaits
          · exact iff_of_true (fun c hc => absurd hc List.not_mem_nil) fun h => absurd hwaits h
          · obtain ⟨hpos, hsize⟩ := prdSize_bounds (s.entryCount ch)
            rw [forall_copies_transfer, inside_word_iff hb, inside_word_iff hb,
              inside_data_iff hb hpos hsize]
            exact (imp_iff_right hwaits).symm
  | _ => exact Iff.rfl

/-- Along any run, every copy of the timer stays in guest memory exactly when every tick finds an
entry whose words the lookup leaves room for, and whose area is wholly in RAM if the direction is to
the drive or the drive has nothing to hand over. -/
theorem dma_in_ram_iff (hb : s.machine.Booted) (events : List IdeEvent) :
    Meets ideStep CopiesInside s events ↔ Meets ideStep TickInside s events :=
  Meets.congr_of_invariant (fun _ _ _ hb hstep => (sameBlock_ideStep hstep).booted hb)
    (fun _ e hb => copiesInside_iff hb e) hb

end Runs

/-- After start-up, with an empty image, and the bus master at `0xc000`. -/
def startedIde : IdeSystem :=
  ideInitialize
    (hardDiskInitialize ⟨0, fun _ => 0, 0, [], [], fun _ => true⟩ ⟨0, fun _ => []⟩ 0xc000)
    (bootMachine 0x10000)

/-- A table at `0x1000` with one entry, for two bytes at `0x2000`, and a start to the drive. -/
def oneEntry : List IdeEvent := [
  .guest { bootMachine 0x10000 with
    byte := fun p =>
      if p = 0x11001 then 0x20 else if p = 0x11004 then 2 else if p = 0x11007 then 0x80 else 0 },
  .portWrite 0xc004 0x1000 , .portWrite 0xc000 1]

theorem dma_in_ram_one :
    Meets ideStep CopiesInside startedIde (oneEntry ++ [.tick]) ∧
      ∃ s, run ideStep startedIde oneEntry = .ok s ∧ (ideTimerHandler s).copies.length = 3 := by
  refine ⟨(dma_in_ram_iff bootMachine_booted _).mpr (by decide +kernel), ?_⟩
  exact exists_of_ends (fun s : IdeSystem => (ideTimerHandler s).copies.length = 3)
    (show ends _ (run ideStep startedIde oneEntry) = true by decide +kernel)

/-- A table beyond the memory block is read through a null pointer. -/
theorem dma_reads_null :
    ¬ Meets ideStep CopiesInside startedIde
      [.portWrite 0xc004 0x50000000, .portWrite 0xc000 1, .tick] := by
  have hends : ends (fun s : IdeSystem =>
      ∃ c ∈ (ideTimerHandler s).copies, c.host.toNat < s.machine.ram.toNat)
      (run ideStep startedIde [.portWrite 0xc004 0x50000000, .portWrite 0xc000 1]) = true := by
    decide +kernel
  obtain ⟨s, hs, c, hc, hnull⟩ := exists_of_ends _ hends
  intro hmeets
  have hinside : CopiesInside s .tick :=
    hmeets.after hs
  exact absurd hnull (not_lt.mpr (hinside c hc).1)

end Svmm
