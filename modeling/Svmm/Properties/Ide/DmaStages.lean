import Svmm.Properties.Ide.DmaTick

/-!
# The stages of a DMA read

A table of physical regions, what a DMA read with it is asked to do, and when it does so.  At a
stage of the read some entries are done: their regions hold what the buffer of the channel has for
them.
-/

namespace Svmm

open TransitionRun

/-! ## Tables of physical regions -/

/-- The two words of an entry. -/
structure PrdEntry where
  address : BitVec 32
  count : BitVec 32

namespace PrdEntry

variable (e : PrdEntry)

def size : ℕ := (prdSize e.count).toNat

/-- The entry is marked as the last one. -/
def EndsTable : Prop := Word.has e.count 31

/-- The region contains a guest address. -/
def Covers (x : ℕ) : Prop := e.address.toNat ≤ x ∧ x < e.address.toNat + e.size

/-- The bytes of the region, as the guest reads them. -/
def bytes (m : Machine) : List (BitVec 8) :=
  (List.range e.size).map fun j =>
    m.byte (svmmGetHostPageFromGPA m (e.address.setWidth 64 + BitVec.ofNat 64 j))

end PrdEntry

/-- The entry at a place of a table. -/
def IdeSystem.entryAt (s : IdeSystem) (base : BitVec 32) (i : ℕ) : PrdEntry :=
  ⟨s.fetch (base + BitVec.ofNat 32 (8 * i)), s.fetch (base + BitVec.ofNat 32 (8 * i) + 4)⟩

/-- A table in RAM whose last entry ends it, with regions in RAM that meet neither each other nor
the table. -/
structure PrdTable (s : IdeSystem) (base : BitVec 32) (table : List PrdEntry) : Prop where
  listed : ∀ i (h : i < table.length), s.entryAt base i = table[i]
  last : ∀ i (h : i < table.length), table[i].EndsTable ↔ i + 1 = table.length
  inRam : ∀ i < table.length, s.machine.WhollyInRam (base + BitVec.ofNat 32 (8 * i)) 8
  regionsInRam : ∀ e ∈ table, s.machine.WhollyInRam e.address e.size
  apart : table.Pairwise fun e e' => ∀ x, ¬ (e.Covers x ∧ e'.Covers x)
  beside : ∀ e ∈ table, ∀ i < table.length, ∀ j < 8,
    ¬ e.Covers ((base + BitVec.ofNat 32 (8 * i)).toNat + j)

/-- What the handler copies from the buffer for the entries of a table. -/
def bufferWalk (buffer : ℕ → BitVec 8) : BitVec 32 → List PrdEntry → List (BitVec 8)
  | _, [] => []
  | offset, e :: es =>
      let offset := prdOffset offset (prdSize e.count)
      (List.range e.size).map (fun j => buffer (offset.toNat + j)) ++
        bufferWalk buffer (offset + prdSize e.count) es

/-! ## DMA reads -/

/-- The EXT form. -/
def dmaExt (command : BitVec 8) : BitVec 8 := if command = ideCommandReadDmaExt then 1 else 0

namespace HardDisk

variable (command : BitVec 8) (s : HardDisk)

/-- The disk once a DMA read has looked up its address and its count. -/
def dmaLookup : AtaDrive :=
  { s.drive 0 with
    controller := (s.controller 0).lba48Transform (dmaExt command) }

def dmaAddress : ℕ := (s.dmaLookup command).logicalAddress.toNat

def dmaCount : BitVec 32 := (s.dmaLookup command).controller.numberOfSectors

/-- The sectors that a DMA read asks for. -/
def dmaSectors : List (BitVec 8) :=
  (List.range ((s.dmaCount command).toNat * 512)).map fun j =>
    s.image.content (s.dmaAddress command * 512 + j)

end HardDisk

section Reads

variable (s : IdeSystem) (command : BitVec 8) (value : BitVec 32) (table : List PrdEntry)

/-- A DMA read on the disk, for sectors that it has, and a table for as many bytes, while the drive
and the bus master are idle. -/
structure DmaReadAsked : Prop where
  booted : s.machine.Booted
  installed : s.disk.Installed
  idle : (s.disk.controller 0).hasStatus ideStatusBusy = false
  present : s.disk.bdmaPresent ≠ 0
  known : command = ideCommandReadDma ∨ command = ideCommandReadDmaExt
  onDisk : s.disk.dmaAddress command + (s.disk.dmaCount command).toNat ≤
    s.disk.image.size.toNat / 512
  stopped : ¬ Word.has (s.bmdma 0).command ideBdmaCommandStart
  other : ¬ (Word.has (s.bmdma 1).status bmdmaStatusActive ∧ (s.bmdma 1).prdCurrent ≠ 0)
  starts : Word.has value ideBdmaCommandStart
  reads : Word.has value ideBdmaCommandWrite
  walkable : PrdTable s (s.bmdma 0).prdTable table
  total : (table.map PrdEntry.size).sum = (s.disk.dmaCount command).toNat * 512

/-- The regions hold the sectors, one after the other, other memory is as it was, and the drive and
the bus master are done. -/
structure DmaReadDone (t : IdeSystem) : Prop where
  data : table.flatMap (fun e => e.bytes t.machine) = s.disk.dmaSectors command
  others : ∀ p, (∀ e ∈ table, ∀ j < e.size,
    p ≠ svmmGetHostPageFromGPA s.machine (e.address.setWidth 64 + BitVec.ofNat 64 j)) →
      t.machine.byte p = s.machine.byte p
  notBusy : (t.disk.controller 0).hasStatus ideStatusBusy = false
  noRequest : (t.disk.controller 0).hasStatus ideStatusDevReq = false
  inactive : Word.has (t.bmdma 0).status bmdmaStatusActive = false

/-- The command is written, the bus master is started, and ticks of the two timers bring the read to
its end. -/
def DmaReadDelivers : Prop :=
  ∃ timers : List IdeEvent, (∀ e ∈ timers, e = .seekTimer ∨ e = .tick) ∧ ∃ t,
    run ideStep s ([.diskWrite 0x1f7 (command.setWidth 32) 1,
      .portWrite s.disk.bdmaPresent value] ++ timers) = .ok t ∧ DmaReadDone s command table t

/-- The drive reads nothing at a time, or a number of sectors that its buffer has room for and that
counts down to zero. -/
def CountsDown : Prop :=
  (s.disk.controller 0).bufferSize = 0 ∨
    s.disk.dmaPasses * 512 ≤ (s.disk.controller 0).buffer.size ∧
      ∃ r, BitVec.ofNat 32 (r * s.disk.dmaPasses) = s.disk.dmaCount command

/-- The table is not at address 0, the drive counts down, and the buffer of the channel holds the
sectors already. -/
def DmaReadHolds : Prop :=
  (s.bmdma 0).prdTable ≠ 0 ∧ CountsDown s command ∧
    bufferWalk (s.bmdma 0).buffer 0 table = s.disk.dmaSectors command

end Reads

/-! ## Regions in RAM -/

/-- The byte of the process belongs to the region. -/
def PrdEntry.At (m : Machine) (e : PrdEntry) (p : BitVec 64) : Prop :=
  (p - svmmGetHostPageFromGPA m (e.address.setWidth 64)).toNat < e.size

section Regions

variable {m : Machine} {e : PrdEntry} {address : BitVec 32} {size j : ℕ} {p : BitVec 64}

/-- What is in RAM is at its own offset. -/
lemma toNat_host_of_whollyInRam (hb : m.Booted) (h : m.WhollyInRam address size) (hj : j < size)
    (hsize : size ≤ 0x10000) :
    (svmmGetHostPageFromGPA m (address.setWidth 64 + BitVec.ofNat 64 j)).toNat =
      m.ram.toNat + (address.toNat + j) := by
  have hram := hb.ram_lt
  have hpos := hb.ram_pos
  have hlast := (foundInRam_iff hb).mp (h j hj)
  have hoffset := hostOffset_eq_of_lt hlast
  rw [toNat_address_add (by omega)] at hoffset
  rw [toNat_svmmGetHostPageFromGPA hb, hb.toNat_memoryEnd, if_neg (by omega)]
  omega

lemma PrdEntry.size_bounds (e : PrdEntry) : 0 < e.size ∧ e.size ≤ 0x10000 := prdSize_bounds e.count

lemma PrdEntry.at_iff (hb : m.Booted) (h : m.WhollyInRam e.address e.size) :
    e.At m p ↔
      ∃ j < e.size, p = svmmGetHostPageFromGPA m (e.address.setWidth 64 + BitVec.ofNat 64 j) := by
  obtain ⟨hhost, hend⟩ := host_of_whollyInRam hb e.size_bounds.1 e.size_bounds.2 h
  have hram := hb.ram_lt
  have hp := p.isLt
  unfold PrdEntry.At
  rw [BitVec.toNat_sub, hhost]
  constructor
  · intro hlt
    refine ⟨_, hlt, BitVec.eq_of_toNat_eq ?_⟩
    rw [toNat_host_of_whollyInRam hb h hlt e.size_bounds.2]
    omega
  · rintro ⟨j, hj, rfl⟩
    rw [toNat_host_of_whollyInRam hb h hj e.size_bounds.2]
    omega

lemma PrdEntry.At.covers (hb : m.Booted) (h : m.WhollyInRam e.address e.size) (hat : e.At m p) :
    e.Covers (p.toNat - m.ram.toNat) := by
  obtain ⟨j, hj, rfl⟩ := (PrdEntry.at_iff hb h).mp hat
  rw [toNat_host_of_whollyInRam hb h hj e.size_bounds.2]
  unfold PrdEntry.Covers
  omega

end Regions

/-! ## The stages of a read -/

/-- The drive during a read. -/
structure DmaDrive (s : IdeSystem) (command : BitVec 8) (disk : HardDisk) : Prop where
  frame : (disk.controller 0).dmaFrame =
    (command, (s.disk.controller 0).bufferSize, (s.disk.controller 0).buffer.size)
  isDisk : (disk.drive 0).driveType = .disk
  counted : ∃ r, (disk.controller 0).numberOfSectors =
    s.disk.dmaCount command - BitVec.ofNat 32 (r * s.disk.dmaPasses) ∧
      (r ≠ 0 → s.disk.dmaPasses * 512 ≤ (s.disk.controller 0).buffer.size)

/-- Some entries of the table are done and others are left. -/
structure DmaStage (s : IdeSystem) (command : BitVec 8) (t : IdeSystem)
    (done rest : List PrdEntry) : Prop where
  map : ∀ a, svmmGetHostPageFromGPA t.machine a = svmmGetHostPageFromGPA s.machine a
  others : ∀ p, (∀ e ∈ done, ¬ e.At s.machine p) → t.machine.byte p = s.machine.byte p
  data : done.flatMap (fun e => e.bytes t.machine) ++
      bufferWalk (s.bmdma 0).buffer (t.bmdma 0).bufferOffset rest =
    bufferWalk (s.bmdma 0).buffer 0 (done ++ rest)
  buffer : (t.bmdma 0).buffer = (s.bmdma 0).buffer
  reads : Word.has (t.bmdma 0).command ideBdmaCommandWrite
  drive : DmaDrive s command t.disk
  other : ¬ (Word.has (t.bmdma 1).status bmdmaStatusActive ∧ (t.bmdma 1).prdCurrent ≠ 0)
  progress : done ≠ [] → (s.bmdma 0).prdTable ≠ 0 ∧ CountsDown s command
  current : rest ≠ [] → Word.has (t.bmdma 0).status bmdmaStatusActive ∧
    (t.bmdma 0).prdCurrent = (s.bmdma 0).prdTable + BitVec.ofNat 32 (8 * done.length)
  ended : rest = [] → ¬ Word.has (t.bmdma 0).status bmdmaStatusActive

section Drives

variable {s : IdeSystem} {command : BitVec 8} {disk disk' : HardDisk}

lemma DmaDrive.readsDma (h : DmaDrive s command disk)
    (hknown : command = ideCommandReadDma ∨ command = ideCommandReadDmaExt) : disk.ReadsDma := by
  have hcommand : (disk.controller 0).currentCommand = command := congrArg Prod.fst h.frame
  unfold HardDisk.ReadsDma
  rw [hcommand]
  rcases hknown with rfl | rfl
  · decide
  · decide

lemma DmaDrive.bufferSize (h : DmaDrive s command disk) :
    (disk.controller 0).bufferSize = (s.disk.controller 0).bufferSize :=
  congrArg (fun f => f.2.1) h.frame

lemma DmaDrive.allocated (h : DmaDrive s command disk) :
    (disk.controller 0).buffer.size = (s.disk.controller 0).buffer.size :=
  congrArg (fun f => f.2.2) h.frame

lemma DmaDrive.passes (h : DmaDrive s command disk) : disk.dmaPasses = s.disk.dmaPasses :=
  congrArg sectorPasses h.bufferSize

/-- The drive with other status bits. -/
lemma DmaDrive.of_drive (h : DmaDrive s command disk)
    (hframe : (disk'.controller 0).dmaFrame = (disk.controller 0).dmaFrame)
    (hcount : (disk'.controller 0).numberOfSectors = (disk.controller 0).numberOfSectors)
    (htype : (disk'.drive 0).driveType = (disk.drive 0).driveType) : DmaDrive s command disk' := by
  obtain ⟨r, hr, hroom⟩ := h.counted
  exact ⟨hframe.trans h.frame, htype.trans h.isDisk, r, hcount.trans hr, hroom⟩

/-- The drive once it has read sectors. -/
lemma DmaDrive.readSector (h : DmaDrive s command disk) {ret : ℕ}
    (hread : hardDiskReadSector 0 disk = .ok (disk', ret)) (hpasses : disk.dmaPasses ≠ 0) :
    DmaDrive s command disk' := by
  obtain ⟨hframe, htype, hcount, hroom⟩ := hardDiskReadSector_counts hread
  obtain ⟨r, hr, -⟩ := h.counted
  refine ⟨hframe.trans h.frame, htype.trans h.isDisk, r + 1, ?_, fun _ => ?_⟩
  · rw [hcount, hr, h.passes, Nat.succ_mul, BitVec.ofNat_add]
    bv_omega
  · have hlast := hroom hpasses
    rwa [h.passes, h.allocated] at hlast

/-- Once the drive has nothing to hand over, it has counted down. -/
lemma DmaDrive.countsDown (h : DmaDrive s command disk) (hcount : s.disk.dmaCount command ≠ 0)
    (hidle : ¬ ((disk.controller 0).numberOfSectors ≠ 0 ∧ (disk.controller 0).bufferSize ≠ 0)) :
    CountsDown s command := by
  rw [h.bufferSize] at hidle
  by_cases hsize : (s.disk.controller 0).bufferSize = 0
  · exact .inl hsize
  obtain ⟨r, hr, hroom⟩ := h.counted
  have hzero : (disk.controller 0).numberOfSectors = 0 := by
    by_contra hne
    exact hidle ⟨hne, hsize⟩
  rw [hzero] at hr
  have hequal : BitVec.ofNat 32 (r * s.disk.dmaPasses) = s.disk.dmaCount command := by
    have hsub := BitVec.sub_eq_iff_eq_add.mp hr.symm
    rw [hsub]
    exact (BitVec.zero_add _).symm
  refine .inr ⟨hroom fun hr => hcount ?_, r, hequal⟩
  rw [← hequal, hr, Nat.zero_mul]
  rfl

lemma dmaFrame_setStatus (c : AtaController) (b : ℕ) : (c.setStatus b).dmaFrame = c.dmaFrame ∧
    (c.setStatus b).numberOfSectors = c.numberOfSectors := ⟨rfl, rfl⟩

lemma dmaFrame_clearStatus (c : AtaController) (b : ℕ) : (c.clearStatus b).dmaFrame = c.dmaFrame ∧
    (c.clearStatus b).numberOfSectors = c.numberOfSectors := ⟨rfl, rfl⟩

lemma dmaFrame_seekEnded (c : AtaController) : c.seekEnded.dmaFrame = c.dmaFrame ∧
    c.seekEnded.numberOfSectors = c.numberOfSectors := by
  simp only [AtaController.seekEnded, dmaFrame_setStatus, dmaFrame_clearStatus]
  exact ⟨rfl, trivial⟩

lemma DmaDrive.seekTimer (h : DmaDrive s command disk)
    (hknown : command = ideCommandReadDma ∨ command = ideCommandReadDmaExt) :
    DmaDrive s command (hardDiskSeekTimer disk) := by
  obtain ⟨calls, hdrive, -⟩ := seekTimer_of_readsDma (h.readsDma hknown) h.isDisk
  have hframe := dmaFrame_seekEnded (disk.controller 0)
  refine h.of_drive ?_ ?_ ?_
  · rw [HardDisk.controller_eq_drive, hdrive]
    exact hframe.1
  · rw [HardDisk.controller_eq_drive, hdrive]
    exact hframe.2
  · rw [hdrive]

/-- A disk that is told that it is done. -/
lemma bdmaCompleted_frame {d : AtaDrive} (htype : d.driveType = .disk) :
    d.bdmaCompleted.controller.dmaFrame = d.controller.dmaFrame ∧
      d.bdmaCompleted.controller.numberOfSectors = d.controller.numberOfSectors ∧
      d.bdmaCompleted.driveType = d.driveType ∧
      d.bdmaCompleted.controller.hasStatus ideStatusBusy = false ∧
      d.bdmaCompleted.controller.hasStatus ideStatusDevReq = false := by
  have hcdrom : ¬ d.driveType = .cdrom := by
    rw [htype]
    exact DriveType.noConfusion
  unfold AtaDrive.bdmaCompleted
  simp only
  rw [if_neg hcdrom]
  refine ⟨?_, ?_, rfl, ?_, ?_⟩
  · simp only [dmaFrame_setStatus, dmaFrame_clearStatus]
  · simp only [dmaFrame_setStatus, dmaFrame_clearStatus]
  · simp [ideStatusBusy, ideStatusDriveRdy, ideStatusDevReq, ideStatusError, ideStatusWriteFault,
      ideStatusDevSeekComp, ideStatusCorrectedData]
  · simp [ideStatusBusy, ideStatusDriveRdy, ideStatusDevReq, ideStatusError, ideStatusWriteFault,
      ideStatusDevSeekComp, ideStatusCorrectedData]

lemma drive_bdmaComplete (disk : HardDisk) :
    (hardDiskBdmaComplete 0 disk).drive 0 = (disk.drive 0).bdmaCompleted := by
  rw [hardDiskBdmaComplete, drive_raiseInterrupt, HardDisk.drive_modifyDrive]

lemma DmaDrive.bdmaComplete (h : DmaDrive s command disk) :
    DmaDrive s command (hardDiskBdmaComplete 0 disk) := by
  obtain ⟨hframe, hcount, htype, -⟩ := bdmaCompleted_frame h.isDisk
  refine h.of_drive ?_ ?_ ?_
  · rw [HardDisk.controller_eq_drive, drive_bdmaComplete]
    exact hframe
  · rw [HardDisk.controller_eq_drive, drive_bdmaComplete]
    exact hcount
  · rw [drive_bdmaComplete]
    exact htype

end Drives

/-! ## The entry of a stage -/

section Entries

variable {s t : IdeSystem} {command : BitVec 8} {value : BitVec 32}
  {table done rest : List PrdEntry} {e : PrdEntry} {base : BitVec 32} {i w j : ℕ}

/-- No region meets a word of the table. -/
lemma PrdTable.word_not_at (h : PrdTable s base table) (hb : s.machine.Booted) (he : e ∈ table)
    (hi : i < table.length) (hw : w + j < 8) :
    ¬ e.At s.machine (s.host (base + BitVec.ofNat 32 (8 * i) + BitVec.ofNat 32 w) +
      BitVec.ofNat 64 j) := by
  set entry := base + BitVec.ofNat 32 (8 * i) with hentry
  have hram := hb.ram_lt
  have hend : entry.toNat + 8 ≤ 0x40000000 :=
    (host_of_whollyInRam hb (by decide) (by decide) (h.inRam i hi)).2
  have hplace : (entry + BitVec.ofNat 32 w).setWidth 64 =
      entry.setWidth 64 + BitVec.ofNat 64 w := by
    refine BitVec.eq_of_toNat_eq ?_
    rw [toNat_address_add (by omega), BitVec.toNat_setWidth_of_le (by decide), BitVec.toNat_add,
      BitVec.toNat_ofNat]
    omega
  have hhost : (s.host (entry + BitVec.ofNat 32 w)).toNat =
      s.machine.ram.toNat + (entry.toNat + w) := by
    unfold IdeSystem.host
    rw [hplace]
    exact toNat_host_of_whollyInRam hb (h.inRam i hi) (by omega) (by decide)
  intro hat
  have hcovers := hat.covers hb (h.regionsInRam e he)
  rw [BitVec.toNat_add, hhost, BitVec.toNat_ofNat] at hcovers
  refine h.beside e he i hi (w + j) hw ?_
  have hsum : (s.machine.ram.toNat + (entry.toNat + w) + j % 2 ^ 64) % 2 ^ 64 -
      s.machine.ram.toNat = entry.toNat + (w + j) := by
    omega
  rwa [hsum] at hcovers

/-- The words of the table are as they were. -/
lemma DmaStage.fetch_eq (h : DmaStage s command t done rest) (hb : s.machine.Booted)
    (htable : PrdTable s base table) (hdone : ∀ e ∈ done, e ∈ table) (hi : i < table.length)
    (hw : w + 4 ≤ 8) :
    t.fetch (base + BitVec.ofNat 32 (8 * i) + BitVec.ofNat 32 w) =
      s.fetch (base + BitVec.ofNat 32 (8 * i) + BitVec.ofNat 32 w) := by
  refine Bytes.littleEndian_congr fun j hj => ?_
  unfold IdeSystem.hostByte
  have hhost : t.host (base + BitVec.ofNat 32 (8 * i) + BitVec.ofNat 32 w) =
      s.host (base + BitVec.ofNat 32 (8 * i) + BitVec.ofNat 32 w) := h.map _
  rw [hhost]
  exact h.others _ fun e he => htable.word_not_at hb (hdone e he) hi (by omega)

lemma DmaStage.entry (h : DmaStage s command t done (e :: rest)) (hb : s.machine.Booted)
    (htable : PrdTable s (s.bmdma 0).prdTable table) (hsplit : done ++ e :: rest = table) :
    t.entryAddress 0 = e.address ∧ t.entryCount 0 = e.count := by
  have hlength : done.length < table.length := by
    rw [← hsplit, List.length_append, List.length_cons]
    omega
  have hplace : table[done.length] = e := by
    simp only [← hsplit]
    rw [List.getElem_append_right (le_refl _)]
    simp
  have hdone : ∀ e ∈ done, e ∈ table := fun e he => hsplit ▸ List.mem_append_left _ he
  have hlisted := (htable.listed done.length hlength).trans hplace
  have haddress := h.fetch_eq hb htable hdone hlength (show 0 + 4 ≤ 8 by decide)
  have hcount := h.fetch_eq hb htable hdone hlength (show 4 + 4 ≤ 8 by decide)
  rw [BitVec.add_zero] at haddress
  unfold IdeSystem.entryAddress IdeSystem.entryCount
  rw [(h.current (List.cons_ne_nil _ _)).2]
  exact ⟨haddress.trans (congrArg PrdEntry.address hlisted),
    hcount.trans (congrArg PrdEntry.count hlisted)⟩

end Entries

section Steps

variable {s t : IdeSystem} {command : BitVec 8} {done rest : List PrdEntry} {disk : HardDisk}
  {e : PrdEntry}

lemma DmaStage.withDisk (h : DmaStage s command t done rest) (hdrive : DmaDrive s command disk) :
    DmaStage s command (t.withDisk disk) done rest := by
  have hwalk := t.sameWalk_withDisk 0 disk
  have hother := t.sameWalk_withDisk 1 disk
  refine ⟨fun a => ?_, fun p hp => ?_, ?_, hwalk.buffer.trans h.buffer, ?_, ?_, ?_, h.progress,
    fun hrest => ?_, fun hrest => ?_⟩
  · rw [t.machine_withDisk]
    exact h.map a
  · rw [t.machine_withDisk]
    exact h.others p hp
  · rw [t.machine_withDisk, hwalk.bufferOffset]
    exact h.data
  · rw [hwalk.command]
    exact h.reads
  · rw [t.disk_withDisk]
    exact hdrive
  · rw [hother.active, hother.prdCurrent]
    exact h.other
  · rw [hwalk.active, hwalk.prdCurrent]
    exact h.current hrest
  · rw [hwalk.active]
    exact h.ended hrest

lemma prdOffset_prdOffset (offset count : BitVec 32) :
    prdOffset (prdOffset offset (prdSize count)) (prdSize count) =
      prdOffset offset (prdSize count) := by
  obtain ⟨hfits, hsum⟩ := prdOffset_fits offset count
  have hbuffer : (131072#32).toNat = 131072 := rfl
  refine if_neg ?_
  unfold ideBufferSize at *
  rw [not_or, BitVec.lt_def, BitVec.lt_def, hsum, hbuffer]
  omega

lemma bmdma_rewound_zero :
    t.rewound.bmdma 0 = { t.bmdma 0 with bufferOffset := t.entryOffset } := t.bmdma_modify 0 _

lemma bmdma_rewound_one : t.rewound.bmdma 1 = t.bmdma 1 := t.bmdma_modify_of_ne (by decide) _

lemma DmaStage.rewound (h : DmaStage s command t done (e :: rest))
    (hcount : t.entryCount 0 = e.count) :
    DmaStage s command t.rewound done (e :: rest) := by
  have hself := bmdma_rewound_zero (t := t)
  have hother := bmdma_rewound_one (t := t)
  refine ⟨h.map, h.others, ?_, ?_, ?_, h.drive, ?_, h.progress, fun hrest => ?_, fun hrest => ?_⟩
  · rw [hself]
    have hwalk : bufferWalk (s.bmdma 0).buffer t.entryOffset (e :: rest) =
        bufferWalk (s.bmdma 0).buffer (t.bmdma 0).bufferOffset (e :: rest) := by
      unfold IdeSystem.entryOffset
      rw [hcount, bufferWalk, bufferWalk, prdOffset_prdOffset]
    exact (congrArg _ hwalk).trans h.data
  · rw [hself]
    exact h.buffer
  · rw [hself]
    exact h.reads
  · rw [hother]
    exact h.other
  · rw [hself]
    exact h.current hrest
  · exact absurd hrest (List.cons_ne_nil _ _)

/-- The state of the tick that brings an entry into its region. -/
def IdeSystem.entryDone (t : IdeSystem) : IdeSystem :=
  ideNextEntry 0 (t.entryCount 0) (prdSize (t.entryCount 0)) t.entryWritten

section Written

variable (haddress : t.entryAddress 0 = e.address) (hcount : t.entryCount 0 = e.count)
  (hmap : ∀ a, svmmGetHostPageFromGPA t.machine a = svmmGetHostPageFromGPA s.machine a)
include haddress hcount hmap

lemma byte_entryWritten (p : BitVec 64) :
    (e.At s.machine p → t.entryWritten.machine.byte p = (t.bmdma 0).buffer (t.entryOffset.toNat +
      (p - svmmGetHostPageFromGPA s.machine (e.address.setWidth 64)).toNat)) ∧
    (¬ e.At s.machine p → t.entryWritten.machine.byte p = t.machine.byte p) := by
  have hhost : t.host (t.entryAddress 0) =
      svmmGetHostPageFromGPA s.machine (e.address.setWidth 64) := by
    rw [haddress]
    exact hmap _
  have hbyte : t.entryWritten.machine.byte p =
      if (p - t.host (t.entryAddress 0)).toNat < (prdSize (t.entryCount 0)).toNat then
        (t.bmdma 0).buffer (t.entryOffset.toNat + (p - t.host (t.entryAddress 0)).toNat)
      else t.machine.byte p := rfl
  rw [hhost, hcount] at hbyte
  exact ⟨fun hat => hbyte.trans (if_pos hat), fun hat => hbyte.trans (if_neg hat)⟩

/-- The region holds what the buffer has for it. -/
lemma bytes_entryWritten (hb : s.machine.Booted) (h : s.machine.WhollyInRam e.address e.size) :
    e.bytes t.entryWritten.machine =
      (List.range e.size).map fun j => (t.bmdma 0).buffer (t.entryOffset.toNat + j) := by
  obtain ⟨hhost, hend⟩ := host_of_whollyInRam hb e.size_bounds.1 e.size_bounds.2 h
  have hram := hb.ram_lt
  refine List.map_congr_left fun j hj => ?_
  rw [List.mem_range] at hj
  have hplace : svmmGetHostPageFromGPA t.entryWritten.machine
      (e.address.setWidth 64 + BitVec.ofNat 64 j) =
      svmmGetHostPageFromGPA s.machine (e.address.setWidth 64 + BitVec.ofNat 64 j) := hmap _
  have hindex := toNat_host_of_whollyInRam hb h hj e.size_bounds.2
  have hat := (PrdEntry.at_iff hb h).mpr ⟨j, hj, rfl⟩
  rw [hplace, (byte_entryWritten haddress hcount hmap _).1 hat, BitVec.toNat_sub, hhost, hindex]
  have hdiff : (2 ^ 64 - (s.machine.ram.toNat + e.address.toNat) +
      (s.machine.ram.toNat + (e.address.toNat + j))) % 2 ^ 64 = j := by
    have hbounds := e.size_bounds
    omega
  rw [hdiff]

/-- Other regions are as they were. -/
lemma bytes_entryWritten_of_apart (hb : s.machine.Booted)
    (h : s.machine.WhollyInRam e.address e.size) {e' : PrdEntry}
    (h' : s.machine.WhollyInRam e'.address e'.size)
    (hapart : ∀ x, ¬ (e'.Covers x ∧ e.Covers x)) :
    e'.bytes t.entryWritten.machine = e'.bytes t.machine := by
  refine List.map_congr_left fun j hj => ?_
  rw [List.mem_range] at hj
  have hplace : svmmGetHostPageFromGPA t.entryWritten.machine
      (e'.address.setWidth 64 + BitVec.ofNat 64 j) =
      svmmGetHostPageFromGPA s.machine (e'.address.setWidth 64 + BitVec.ofNat 64 j) := hmap _
  rw [hplace, hmap]
  refine (byte_entryWritten haddress hcount hmap _).2 fun hat => hapart _ ⟨?_, hat.covers hb h⟩
  exact ((PrdEntry.at_iff hb h').mpr ⟨j, hj, rfl⟩ : e'.At s.machine _).covers hb h'

end Written

/-- What the bus master has done so far, with the entry of the stage. -/
lemma DmaStage.data_next (h : DmaStage s command t done (e :: rest)) (hb : s.machine.Booted)
    (hregions : ∀ e' ∈ done ++ e :: rest, s.machine.WhollyInRam e'.address e'.size)
    (hapart : (done ++ e :: rest).Pairwise fun e e' => ∀ x, ¬ (e.Covers x ∧ e'.Covers x))
    (haddress : t.entryAddress 0 = e.address) (hcount : t.entryCount 0 = e.count) :
    (done ++ [e]).flatMap (fun e => e.bytes t.entryWritten.machine) ++
        bufferWalk (s.bmdma 0).buffer (t.entryOffset + prdSize e.count) rest =
      bufferWalk (s.bmdma 0).buffer 0 (done ++ [e] ++ rest) := by
  have hregion : s.machine.WhollyInRam e.address e.size :=
    hregions e (List.mem_append_right _ List.mem_cons_self)
  have hkept : done.flatMap (fun e => e.bytes t.entryWritten.machine) =
      done.flatMap fun e => e.bytes t.machine := by
    refine List.flatMap_congr fun e' he' => ?_
    exact bytes_entryWritten_of_apart haddress hcount h.map hb hregion
      (hregions e' (List.mem_append_left _ he'))
      ((List.pairwise_append.mp hapart).2.2 e' he' e List.mem_cons_self)
  have hdata := h.data
  rw [bufferWalk] at hdata
  have hoffset : prdOffset (t.bmdma 0).bufferOffset (prdSize e.count) = t.entryOffset := by
    rw [IdeSystem.entryOffset, hcount]
  rw [hoffset] at hdata
  rw [List.flatMap_append, hkept, List.flatMap_singleton,
    bytes_entryWritten haddress hcount h.map hb hregion, h.buffer, List.append_assoc, hdata,
    List.append_assoc]
  rfl

/-- A tick once the drive has counted down: the entry is done. -/
lemma DmaStage.next (h : DmaStage s command t done (e :: rest)) (hb : s.machine.Booted)
    (hregions : ∀ e' ∈ done ++ e :: rest, s.machine.WhollyInRam e'.address e'.size)
    (hapart : (done ++ e :: rest).Pairwise fun e e' => ∀ x, ¬ (e.Covers x ∧ e'.Covers x))
    (hlast : e.EndsTable ↔ rest = []) (haddress : t.entryAddress 0 = e.address)
    (hcount : t.entryCount 0 = e.count)
    (hprogress : (s.bmdma 0).prdTable ≠ 0 ∧ CountsDown s command) :
    DmaStage s command t.entryDone (done ++ [e]) rest := by
  have hdata := h.data_next hb hregions hapart haddress hcount
  have hothers : ∀ p, (∀ e' ∈ done ++ [e], ¬ e'.At s.machine p) →
      t.entryWritten.machine.byte p = s.machine.byte p := by
    intro p hp
    have hat := hp e (List.mem_append_right _ (List.mem_singleton_self _))
    refine ((byte_entryWritten haddress hcount h.map p).2 hat).trans (h.others p fun e' he' => ?_)
    exact hp e' (List.mem_append_left _ he')
  unfold IdeSystem.entryDone ideNextEntry
  rw [hcount]
  have hself : t.entryWritten.bmdma 0 = { t.bmdma 0 with bufferOffset := t.entryOffset } :=
    bmdma_rewound_zero
  have hother : t.entryWritten.bmdma 1 = t.bmdma 1 := bmdma_rewound_one
  by_cases hends : Word.has e.count 31 = true
  · -- the last entry: the channel stops, and the drive is told that it is done
    obtain rfl := hlast.mp hends
    rw [if_pos hends]
    refine DmaStage.withDisk ⟨h.map, hothers, hdata, ?_, ?_, h.drive, ?_, fun _ => hprogress,
      fun hrest => absurd rfl hrest, fun _ => ?_⟩ h.drive.bdmaComplete
    · rw [IdeSystem.bmdma_modify, hself]
      exact h.buffer
    · rw [IdeSystem.bmdma_modify, hself]
      exact h.reads
    · rw [IdeSystem.bmdma_modify_of_ne _ (by decide), hother]
      exact h.other
    · rw [IdeSystem.bmdma_modify]
      simp [bmdmaStatusActive, bmdmaStatusStart]
  · rw [if_neg hends]
    refine ⟨h.map, hothers, ?_, ?_, ?_, h.drive, ?_, fun _ => hprogress, fun _ => ?_,
      fun hrest => absurd (hlast.mpr hrest) hends⟩
    · rw [IdeSystem.bmdma_modify, hself]
      exact hdata
    · rw [IdeSystem.bmdma_modify, hself]
      exact h.buffer
    · rw [IdeSystem.bmdma_modify, hself]
      exact h.reads
    · rw [IdeSystem.bmdma_modify_of_ne _ (by decide), hother]
      exact h.other
    · obtain ⟨hactive, hcurrent⟩ := h.current (List.cons_ne_nil _ _)
      rw [IdeSystem.bmdma_modify, hself]
      refine ⟨hactive, ?_⟩
      simp only [hcurrent, List.length_append, List.length_singleton, Nat.mul_succ,
        BitVec.ofNat_add]
      exact BitVec.add_assoc _ _ _

end Steps

end Svmm
