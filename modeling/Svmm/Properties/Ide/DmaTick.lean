import Svmm.Properties.HardDisk.Drives
import Svmm.Properties.Ide.Copies

/-!
# A tick during a DMA read

The drive hands nothing over to the bus master: it reads sectors into its own buffer, and what it
returns ends the turn.  Once it has counted its sectors down, a tick copies what the buffer of the
channel holds into the region of the entry.
-/

namespace Svmm

open TransitionRun

/-! ## What a tick leaves alone -/

/-- The position of a channel in its table, and what it is told to do, are the same. -/
structure Bmdma.SameWalk (b b' : Bmdma) : Prop where
  command : b'.command = b.command
  prdTable : b'.prdTable = b.prdTable
  prdCurrent : b'.prdCurrent = b.prdCurrent
  buffer : b'.buffer = b.buffer
  bufferOffset : b'.bufferOffset = b.bufferOffset
  active : Word.has b'.status bmdmaStatusActive = Word.has b.status bmdmaStatusActive
  ready : b.dataReady ≠ 0 → b'.dataReady ≠ 0

namespace Bmdma.SameWalk

variable {b b' b'' : Bmdma}

lemma refl (b : Bmdma) : b.SameWalk b := ⟨rfl, rfl, rfl, rfl, rfl, rfl, id⟩

lemma trans (h : b.SameWalk b') (h' : b'.SameWalk b'') : b.SameWalk b'' :=
  ⟨h'.command.trans h.command, h'.prdTable.trans h.prdTable, h'.prdCurrent.trans h.prdCurrent,
    h'.buffer.trans h.buffer, h'.bufferOffset.trans h.bufferOffset, h'.active.trans h.active,
    h'.ready ∘ h.ready⟩

end Bmdma.SameWalk

namespace IdeSystem

variable (s : IdeSystem) (ch : Fin 2)

@[simp] lemma bmdma_modify (f : Bmdma → Bmdma) : (s.modify ch f).bmdma ch = f (s.bmdma ch) :=
  Function.update_self _ _ _

lemma bmdma_modify_of_ne {ch ch' : Fin 2} (h : ch' ≠ ch) (f : Bmdma → Bmdma) :
    (s.modify ch f).bmdma ch' = s.bmdma ch' := Function.update_of_ne h _ _

lemma sameWalk_modify {f : Bmdma → Bmdma} {ch' : Fin 2} (hf : ∀ b : Bmdma, b.SameWalk (f b)) :
    (s.bmdma ch).SameWalk ((s.modify ch' f).bmdma ch) := by
  by_cases h : ch = ch'
  · subst h
    rw [bmdma_modify]
    exact hf _
  · rw [bmdma_modify_of_ne s h]
    exact .refl _

lemma sameWalk_diskCall (call : HardDiskCall) :
    (s.bmdma ch).SameWalk ((s.diskCall call).bmdma ch) := by
  cases call with
  | picRaiseIrq | picLowerIrq => exact .refl _
  | ideSetIrq channel =>
      simp only [diskCall]
      split
      · exact s.sameWalk_modify ch fun b => ⟨rfl, rfl, rfl, rfl, rfl,
          by simp [bmdmaStatusInterrupt, bmdmaStatusActive], id⟩
      · exact .refl _
  | ideStartTransfer channel =>
      simp only [diskCall]
      split
      · exact s.sameWalk_modify ch fun b => ⟨rfl, rfl, rfl, rfl, rfl, rfl,
          fun _ => show (1 : BitVec 8) ≠ 0 by decide⟩
      · exact .refl _

lemma sameWalk_foldl (calls : List HardDiskCall) :
    (s.bmdma ch).SameWalk ((calls.foldl diskCall s).bmdma ch) := by
  induction calls generalizing s with
  | nil => exact .refl _
  | cons call calls ih => exact (s.sameWalk_diskCall ch call).trans (ih _)

lemma sameWalk_withDisk (disk : HardDisk) :
    (s.bmdma ch).SameWalk ((s.withDisk disk).bmdma ch) :=
  sameWalk_foldl { s with disk := disk } ch _

lemma withDisk_same : s.withDisk s.disk = s := by
  unfold withDisk
  rw [List.drop_length]
  rfl

lemma storeBuffer_nil {offset : ℕ} (h : offset ≤ ideBufferSize) :
    s.storeBuffer ch offset [] = .ok s := by
  unfold storeBuffer
  rw [if_pos (by rw [List.length_nil]; exact h)]
  have hsame : (s.modify ch fun b => { b with
      buffer := fun j => if offset ≤ j ∧ j < offset + ([] : List (BitVec 8)).length then
        ([] : List (BitVec 8)).getD (j - offset) 0 else b.buffer j }) = s := by
    have hbuffer : (fun j => if offset ≤ j ∧ j < offset + ([] : List (BitVec 8)).length then
        ([] : List (BitVec 8)).getD (j - offset) 0 else (s.bmdma ch).buffer j) =
        (s.bmdma ch).buffer := by
      funext j
      rw [List.length_nil, if_neg (by omega)]
    simp only [modify, hbuffer]
    exact congrArg (fun b => { s with bmdma := b }) (Function.update_eq_self _ _)
  rw [hsame]

end IdeSystem

/-! ## The drive -/

/-- What the reads of a DMA command leave alone. -/
def AtaController.dmaFrame (c : AtaController) : BitVec 8 × BitVec 32 × ℕ :=
  (c.currentCommand, c.bufferSize, c.buffer.size)

/-- The sectors that the drive reads at a time. -/
def HardDisk.dmaPasses (s : HardDisk) : ℕ := sectorPasses (s.controller 0).bufferSize

section Drive

variable {d d' : AtaDrive} {image image' : DiskImage} {s t : HardDisk} {n i : ℕ}

lemma dmaFrame_setLba (c : AtaController) (x : BitVec 64) :
    (c.setLba x).dmaFrame = c.dmaFrame ∧ (c.setLba x).numberOfSectors = c.numberOfSectors := by
  unfold AtaController.setLba
  split
  · exact ⟨rfl, rfl⟩
  · exact ⟨rfl, rfl⟩

lemma dmaFrame_incrementChs : d.incrementChs.dmaFrame = d.controller.dmaFrame ∧
    d.incrementChs.numberOfSectors = d.controller.numberOfSectors := by
  unfold AtaDrive.incrementChs
  extract_lets c c₁ c₂
  split_ifs <;> exact ⟨rfl, rfl⟩

lemma dmaFrame_incrementAddress (x : BitVec 64) :
    (d.incrementAddress x).1.controller.dmaFrame = d.controller.dmaFrame ∧
      (d.incrementAddress x).1.controller.numberOfSectors = d.controller.numberOfSectors - 1 ∧
      (d.incrementAddress x).1.driveType = d.driveType := by
  unfold AtaDrive.incrementAddress
  extract_lets c d₁
  split
  · exact ⟨(dmaFrame_setLba d₁.controller _).1, (dmaFrame_setLba d₁.controller _).2, rfl⟩
  · exact ⟨dmaFrame_incrementChs.1, dmaFrame_incrementChs.2, rfl⟩

/-- A pass of the loop counts a sector down. -/
lemma readSectorLoop_pass (n : ℕ) (image : DiskImage) (hfits : i + 512 ≤ d.controller.buffer.size) :
    ∃ d₁ image₁, readSectorLoop (n + 1) i (d, image) = readSectorLoop n (i + 512) (d₁, image₁) ∧
      d₁.controller.dmaFrame = d.controller.dmaFrame ∧ d₁.driveType = d.driveType ∧
      d₁.controller.numberOfSectors = d.controller.numberOfSectors - 1 := by
  rw [readSectorLoop, AtaBuffer.fill, hardDiskSectorSize, if_pos hfits]
  obtain ⟨hframe, hcount, htype⟩ := dmaFrame_incrementAddress
    (d := { d with controller := { d.controller with buffer := { d.controller.buffer with
      byte := fun j => if i ≤ j ∧ j < i + 512 then
        image.content ((d.calculateLogicalAddress image.size * 512).toNat + (j - i))
        else d.controller.buffer.byte j } } })
    (d.calculateLogicalAddress image.size)
  exact ⟨_, _, rfl, hframe, htype, hcount⟩

lemma readSectorLoop_overrun (n : ℕ) (image : DiskImage)
    (hfits : ¬ i + 512 ≤ d.controller.buffer.size) :
    readSectorLoop (n + 1) i (d, image) = .error .bufferOverrun := by
  rw [readSectorLoop, AtaBuffer.fill, hardDiskSectorSize, if_neg hfits]
  rfl

lemma allocated_of_dmaFrame {c c' : AtaController} (h : c'.dmaFrame = c.dmaFrame) :
    c'.buffer.size = c.buffer.size := congrArg (fun f => f.2.2) h

/-- The loop counts as many sectors down as it has passes. -/
lemma readSectorLoop_counts (h : readSectorLoop n i (d, image) = .ok (d', image')) :
    d'.controller.dmaFrame = d.controller.dmaFrame ∧ d'.driveType = d.driveType ∧
      d'.controller.numberOfSectors = d.controller.numberOfSectors - BitVec.ofNat 32 n ∧
      (n ≠ 0 → i + n * 512 ≤ d.controller.buffer.size) := by
  induction n generalizing i d image with
  | zero =>
      obtain ⟨rfl, rfl⟩ := Prod.mk.inj (Except.ok.inj h)
      exact ⟨rfl, rfl, (BitVec.sub_zero _).symm, fun h => absurd rfl h⟩
  | succ n ih =>
      by_cases hfits : i + 512 ≤ d.controller.buffer.size
      · obtain ⟨d₁, image₁, hpass, hframe₁, htype₁, hcount₁⟩ := readSectorLoop_pass n image hfits
        rw [hpass] at h
        obtain ⟨hframe, htype, hcount, hroom⟩ := ih h
        refine ⟨hframe.trans hframe₁, htype.trans htype₁, ?_, fun _ => ?_⟩
        · rw [hcount, hcount₁]
          bv_omega
        · rw [allocated_of_dmaFrame hframe₁] at hroom
          omega
      · rw [readSectorLoop_overrun n image hfits] at h
        cases h

/-- The loop comes to its end when the buffer has room. -/
lemma exists_readSectorLoop (h : i + n * 512 ≤ d.controller.buffer.size) :
    ∃ r, readSectorLoop n i (d, image) = .ok r := by
  induction n generalizing i d image with
  | zero => exact ⟨_, rfl⟩
  | succ n ih =>
      obtain ⟨d₁, image₁, hpass, hframe, -⟩ := readSectorLoop_pass n image
        (show i + 512 ≤ d.controller.buffer.size by omega)
      rw [hpass]
      refine ih ?_
      rw [allocated_of_dmaFrame hframe]
      omega

/-- A read of the sectors that the drive reads at a time. -/
lemma hardDiskReadSector_counts {ret : ℕ} (h : hardDiskReadSector 0 s = .ok (t, ret)) :
    (t.controller 0).dmaFrame = (s.controller 0).dmaFrame ∧
      (t.drive 0).driveType = (s.drive 0).driveType ∧
      (t.controller 0).numberOfSectors =
        (s.controller 0).numberOfSectors - BitVec.ofNat 32 s.dmaPasses ∧
      (s.dmaPasses ≠ 0 → s.dmaPasses * 512 ≤ (s.controller 0).buffer.size) := by
  unfold hardDiskReadSector at h
  obtain ⟨⟨d, image⟩, hloop, h⟩ := bind_eq_ok.mp h
  obtain ⟨rfl, -⟩ := Prod.mk.inj (Except.ok.inj h)
  obtain ⟨hframe, htype, hcount, hroom⟩ := readSectorLoop_counts hloop
  have hdrive : HardDisk.drive 0 { s.modifyDrive 0 (fun _ => d) with image := image } = d :=
    s.drive_modifyDrive 0 fun _ => d
  simp only [HardDisk.controller_eq_drive, hdrive]
  refine ⟨hframe, htype, hcount, fun hpasses => ?_⟩
  have hlast := hroom hpasses
  rwa [Nat.zero_add] at hlast

lemma exists_hardDiskReadSector (h : s.dmaPasses * 512 ≤ (s.controller 0).buffer.size) :
    ∃ r, hardDiskReadSector 0 s = .ok r := by
  have hroom : 0 + s.dmaPasses * 512 ≤ (s.drive 0).controller.buffer.size := by
    rw [Nat.zero_add]
    exact h
  obtain ⟨⟨d, image⟩, hloop⟩ := @exists_readSectorLoop _ s.image _ _ hroom
  unfold HardDisk.dmaPasses at hloop
  unfold hardDiskReadSector
  simp only [hloop]
  exact ⟨_, rfl⟩

/-- The drive carries out a DMA read. -/
def HardDisk.ReadsDma (s : HardDisk) : Prop :=
  (s.controller 0).currentCommand ∈ [ideCommandReadDma, ideCommandReadDmaExt]

lemma handsOver_iff (h : s.ReadsDma) : s.HandsOver 0 ↔
    (s.controller 0).numberOfSectors ≠ 0 ∧ (s.controller 0).bufferSize ≠ 0 := by
  unfold HardDisk.HandsOver
  unfold HardDisk.ReadsDma at h
  rw [if_pos h]

lemma bmdmaReadSector_idle (h : s.ReadsDma) (hidle : ¬ s.HandsOver 0) :
    hardDiskBmdmaReadSector 0 s = .ok (s, 0, []) := by
  rw [handsOver_iff h] at hidle
  unfold hardDiskBmdmaReadSector
  unfold HardDisk.ReadsDma at h
  simp only
  rw [if_pos h]
  by_cases hsectors : (s.controller 0).numberOfSectors = 0
  · rw [if_pos hsectors]
  · have hnothing : (s.controller 0).bufferSize = 0 := by
      by_contra hsize
      exact hidle ⟨hsectors, hsize⟩
    rw [if_neg hsectors, hardDiskReadSector_nothing hnothing]
    rfl

lemma bmdmaReadSector_handing (h : s.ReadsDma) (hands : s.HandsOver 0) {ret : ℕ}
    (hread : hardDiskReadSector 0 s = .ok (t, ret)) :
    hardDiskBmdmaReadSector 0 s = .ok (t, 1, []) := by
  have hdma : hardDiskBmdmaReadSector 0 s = .ok (t, if ret = 0 then 0 else 1, []) := by
    have hsectors := ((handsOver_iff h).mp hands).1
    unfold HardDisk.ReadsDma at h
    unfold hardDiskBmdmaReadSector
    simp only
    rw [if_pos h, if_neg hsectors, hread]
    rfl
  have hret := handing_read hands hdma
  by_cases hzero : ret = 0
  · rw [if_pos hzero] at hret
    exact absurd rfl hret
  · rw [hdma, if_neg hzero]

lemma bmdmaReadSector_error (h : s.ReadsDma) (hands : s.HandsOver 0) {e : HardDiskFault}
    (hread : hardDiskReadSector 0 s = .error e) : hardDiskBmdmaReadSector 0 s = .error e := by
  have hsectors := ((handsOver_iff h).mp hands).1
  unfold HardDisk.ReadsDma at h
  unfold hardDiskBmdmaReadSector
  simp only
  rw [if_pos h, if_neg hsectors, hread]
  rfl

end Drive

/-! ## A tick -/

section Tick

variable {s t : IdeSystem} {offset n i : ℕ}

/-- Once the sectors are counted down, the loop comes to its end and changes nothing. -/
lemma readLoop_idle (h : s.disk.ReadsDma) (hidle : ¬ s.disk.HandsOver 0)
    (hfits : ∀ j < n, offset + i + j * 512 ≤ ideBufferSize) :
    ideReadLoop 0 offset n i s = .ok (s, true) := by
  induction n generalizing i with
  | zero => rfl
  | succ n ih =>
      have hfirst : offset + i ≤ ideBufferSize := by
        have hzero := hfits 0 (Nat.succ_pos n)
        omega
      have hread : hardDiskBmdmaReadSector (ataChannel 0) s.disk = .ok (s.disk, 0, []) :=
        bmdmaReadSector_idle h hidle
      rw [ideReadLoop, hread, ok_bind]
      simp only [IdeSystem.withDisk_same, IdeSystem.storeBuffer_nil s 0 hfirst, ok_bind, ne_eq,
        not_true_eq_false, if_false]
      refine ih fun j hj => ?_
      have hnext := hfits (j + 1) (Nat.succ_lt_succ hj)
      omega

/-- Before, it stops at its first pass. -/
lemma readLoop_handing (h : s.disk.ReadsDma) (hands : s.disk.HandsOver 0) {disk : HardDisk}
    {ret : ℕ} (hread : hardDiskReadSector 0 s.disk = .ok (disk, ret))
    (hfits : offset + i ≤ ideBufferSize) :
    ideReadLoop 0 offset (n + 1) i s = .ok (s.withDisk disk, false) := by
  have hhanding : hardDiskBmdmaReadSector (ataChannel 0) s.disk = .ok (disk, 1, []) :=
    bmdmaReadSector_handing h hands hread
  rw [ideReadLoop, hhanding, ok_bind]
  simp only [IdeSystem.storeBuffer_nil _ 0 hfits, ok_bind, ne_eq, one_ne_zero, not_false_eq_true,
    if_true]
  rfl

lemma readLoop_error (h : s.disk.ReadsDma) (hands : s.disk.HandsOver 0) {e : HardDiskFault}
    (hread : hardDiskReadSector 0 s.disk = .error e) :
    ideReadLoop 0 offset (n + 1) i s = .error e := by
  have herror : hardDiskBmdmaReadSector (ataChannel 0) s.disk = .error e :=
    bmdmaReadSector_error h hands hread
  rw [ideReadLoop, herror]
  rfl

end Tick

namespace IdeSystem

variable (s : IdeSystem)

/-- The offset in the buffer for the entry of channel 0, and the state that has it. -/
def entryOffset : BitVec 32 := prdOffset (s.bmdma 0).bufferOffset (prdSize (s.entryCount 0))

def rewound : IdeSystem := s.modify 0 fun b => { b with bufferOffset := s.entryOffset }

/-- The state with the data of the entry in its region. -/
def entryWritten : IdeSystem :=
  s.rewound.writeHost (s.host (s.entryAddress 0)) (prdSize (s.entryCount 0)).toNat
    fun j => (s.bmdma 0).buffer (s.entryOffset.toNat + j)

end IdeSystem

section Transfer

variable {s : IdeSystem}

lemma prdOffset_fits (offset count : BitVec 32) :
    (prdOffset offset (prdSize count)).toNat + (prdSize count).toNat ≤ ideBufferSize ∧
      (prdOffset offset (prdSize count) + prdSize count).toNat =
        (prdOffset offset (prdSize count)).toNat + (prdSize count).toNat := by
  have hbounds := prdSize_bounds count
  have hbuffer : (131072#32).toNat = 131072 := rfl
  have hlt := offset.isLt
  unfold prdOffset ideBufferSize
  split_ifs with hwrap
  · have hzero : (0 : BitVec 32).toNat = 0 := rfl
    rw [BitVec.toNat_add, hzero]
    omega
  · rw [not_or, BitVec.lt_def, BitVec.lt_def, hbuffer, BitVec.toNat_add] at hwrap
    rw [BitVec.toNat_add]
    omega

lemma prdPasses_fit {offset count : BitVec 32} {j : ℕ} (hj : j < prdPasses (prdSize count)) :
    (prdOffset offset (prdSize count)).toNat + 0 + j * 512 ≤ ideBufferSize := by
  have hfits := (prdOffset_fits offset count).1
  unfold prdPasses at hj
  omega

/-- Once the sectors are counted down, a tick brings the buffer into the region. -/
lemma transfer_idle (hreads : Word.has (s.bmdma 0).command ideBdmaCommandWrite)
    (h : s.disk.ReadsDma) (hidle : ¬ s.disk.HandsOver 0) :
    (ideTransfer 0 s).result =
      .ok (ideNextEntry 0 (s.entryCount 0) (prdSize (s.entryCount 0)) s.entryWritten) := by
  have hloop : ideReadLoop 0 s.entryOffset.toNat (prdPasses (prdSize (s.entryCount 0))) 0
      s.rewound = .ok (s.rewound, true) := readLoop_idle h hidle fun j hj => prdPasses_fit hj
  have hbuffer : (s.rewound.bmdma 0).buffer = (s.bmdma 0).buffer := by
    rw [IdeSystem.rewound, IdeSystem.bmdma_modify]
  unfold ideTransfer
  simp only
  rw [if_pos hreads]
  split
  · rename_i e hother
    cases hloop.symm.trans hother
  · rename_i r hother
    obtain rfl := Except.ok.inj (hloop.symm.trans hother)
    rw [if_pos rfl]
    simp only [hbuffer]
    rfl

/-- Before, a tick only tells the drive that it is done. -/
lemma transfer_handing (hreads : Word.has (s.bmdma 0).command ideBdmaCommandWrite)
    (h : s.disk.ReadsDma) (hands : s.disk.HandsOver 0) {disk : HardDisk} {ret : ℕ}
    (hread : hardDiskReadSector 0 s.disk = .ok (disk, ret)) :
    (ideTransfer 0 s).result = .ok (ideBdmaComplete 0 (s.rewound.withDisk disk)) := by
  obtain ⟨n, hn⟩ := Nat.exists_eq_succ_of_ne_zero (prdPasses_pos (s.entryCount 0)).ne'
  have hloop : ideReadLoop 0 s.entryOffset.toNat (prdPasses (prdSize (s.entryCount 0))) 0
      s.rewound = .ok (s.rewound.withDisk disk, false) := by
    rw [hn]
    have hfits : s.entryOffset.toNat + 0 + 0 * 512 ≤ ideBufferSize :=
      prdPasses_fit (prdPasses_pos (s.entryCount 0))
    exact readLoop_handing (s := s.rewound) h hands hread (by omega)
  unfold ideTransfer
  simp only
  rw [if_pos hreads]
  split
  · rename_i e hother
    cases hloop.symm.trans hother
  · rename_i r hother
    obtain rfl := Except.ok.inj (hloop.symm.trans hother)
    rfl

lemma transfer_error (hreads : Word.has (s.bmdma 0).command ideBdmaCommandWrite)
    (h : s.disk.ReadsDma) (hands : s.disk.HandsOver 0) {e : HardDiskFault}
    (hread : hardDiskReadSector 0 s.disk = .error e) : (ideTransfer 0 s).result = .error e := by
  obtain ⟨n, hn⟩ := Nat.exists_eq_succ_of_ne_zero (prdPasses_pos (s.entryCount 0)).ne'
  have hloop : ideReadLoop 0 s.entryOffset.toNat (prdPasses (prdSize (s.entryCount 0))) 0
      s.rewound = .error e := by
    rw [hn]
    exact readLoop_error (s := s.rewound) h hands hread
  unfold ideTransfer
  simp only
  rw [if_pos hreads]
  split
  · rename_i e' hother
    cases hloop.symm.trans hother
    rfl
  · rename_i r hother
    cases hloop.symm.trans hother

end Transfer

/-! ## The seek timer -/

section Seek

variable {s : HardDisk} {ch : Fin 4}

lemma drive_zero_setChannel (hch : ch ≠ 0) (c : AtaChannel) (s : HardDisk) :
    (s.setChannel ch c).drive 0 = s.drive 0 := by
  have hkept : (s.setChannel ch c).channel 0 = s.channel 0 := by
    unfold HardDisk.setChannel
    exact Function.update_of_ne (Ne.symm hch) c s.channel
  unfold HardDisk.drive
  rw [hkept]

/-- The drive of channel 0 is as it was, and calls were only added. -/
def HardDisk.Beside (s t : HardDisk) : Prop :=
  t.drive 0 = s.drive 0 ∧ ∃ calls, t.calls = s.calls ++ calls

lemma HardDisk.Beside.trans {t u : HardDisk} (h : s.Beside t) (h' : t.Beside u) : s.Beside u := by
  obtain ⟨hdrive, calls, hcalls⟩ := h
  obtain ⟨hdrive', calls', hcalls'⟩ := h'
  exact ⟨hdrive'.trans hdrive, calls ++ calls', by rw [hcalls', hcalls, List.append_assoc]⟩

lemma beside_raiseInterrupt (ch : Fin 4) (s : HardDisk) :
    s.Beside (hardDiskRaiseInterrupt ch s) := by
  unfold hardDiskRaiseInterrupt
  split
  · exact ⟨rfl, [.ideSetIrq ch, .picRaiseIrq (s.channel ch).irq], List.append_assoc _ _ _⟩
  · exact ⟨rfl, [], (List.append_nil _).symm⟩

lemma beside_modifyController (hch : ch ≠ 0) (f : AtaController → AtaController) (s : HardDisk) :
    s.Beside (s.modifyController ch f) :=
  ⟨drive_zero_setChannel hch _ s, [], (List.append_nil _).symm⟩

lemma beside_call (call : HardDiskCall) (s : HardDisk) : s.Beside (s.call call) :=
  ⟨rfl, [call], rfl⟩

/-- A seek of another channel ends. -/
lemma beside_seekTick (hch : ch ≠ 0) (s : HardDisk) : s.Beside (hardDiskSeekTick ch s) := by
  have hsame : s.Beside s := ⟨rfl, [], (List.append_nil _).symm⟩
  unfold hardDiskSeekTick
  simp only
  split
  · split_ifs
    · exact (beside_modifyController hch _ s).trans (beside_raiseInterrupt ch _)
    · exact (beside_modifyController hch _ s).trans (beside_call _ _)
    · exact hsame
  · split_ifs
    · unfold hardDiskReadySendAtapi
      simp only
      split_ifs
      · exact (beside_modifyController hch _ s).trans (beside_call _ _)
      · exact (beside_modifyController hch _ s).trans (beside_raiseInterrupt ch _)
    · exact hsame
  · exact hsame

/-- The seek of a DMA read ends. -/
lemma seekTimer_of_readsDma (h : s.ReadsDma) (htype : (s.drive 0).driveType = .disk) :
    ∃ calls, (hardDiskSeekTimer s).drive 0 =
        { s.drive 0 with controller := (s.controller 0).seekEnded } ∧
      (hardDiskSeekTimer s).calls = s.calls ++ .ideStartTransfer 0 :: calls := by
  have hother : ¬ (s.controller 0).currentCommand ∈ readCommandsExt ++ readCommands28 ++
      [ideCommandSeek] := by
    have hnone : ∀ x ∈ [ideCommandReadDma, ideCommandReadDmaExt],
        x ∉ readCommandsExt ++ readCommands28 ++ [ideCommandSeek] := by
      decide
    exact hnone _ h
  have hfirst : hardDiskSeekTick 0 s =
      (s.modifyController 0 AtaController.seekEnded).call (.ideStartTransfer 0) := by
    unfold HardDisk.ReadsDma at h
    unfold hardDiskSeekTick
    simp only [htype]
    rw [if_neg hother, if_pos (by simpa [or_comm] using h)]
  obtain ⟨hdrive, calls, hcalls⟩ := beside_seekTick (show (1 : Fin 4) ≠ 0 by decide)
    (hardDiskSeekTick 0 s)
  refine ⟨calls, ?_, ?_⟩
  · refine hdrive.trans ?_
    rw [hfirst, HardDisk.drive_call, HardDisk.drive_modifyController]
  · refine hcalls.trans ?_
    rw [hfirst]
    exact List.append_assoc _ _ _

end Seek

end Svmm
