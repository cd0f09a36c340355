import Svmm.Properties.HardDisk.Commands

/-!
# A block of sectors in the buffer

A sector read hands out its transfer in blocks.  `Block` relates a state of the drive to a position
in the stream of bytes of the transfer: so many sectors are behind it, the next ones are in the
buffer, and the guest has read so many bytes of these.  A data read moves the position on, and the
one that empties the buffer fetches the next block or ends the transfer; a status read leaves the
position alone.
-/

namespace Svmm

open TransitionRun Bytes

/-- The widths of a port access. -/
def portWidths : List (BitVec 32) := [1, 2, 4]

/-! ## A block in the buffer -/

/-- What a transfer is of. -/
structure PioTransfer where
  start : ℕ
  count : ℕ
  span : ℕ
  command : BitVec 8
  content : ℕ → BitVec 8

/-- Byte `p` of a transfer. -/
def PioTransfer.stream (t : PioTransfer) (p : ℕ) : BitVec 8 :=
  diskStream t.content t.start t.span p

namespace PioTransfer

variable (t : PioTransfer)

/-- What does not change in the course of a transfer. -/
structure Setup (s : HardDisk) : Prop where
  installed : s.Installed
  onDisk : t.start + t.count ≤ s.image.size.toNat / 512
  content : s.image.content = t.content
  known : t.command ∈ readCommands28 ++ readCommandsExt
  command : (s.controller 0).currentCommand = t.command
  span : (s.controller 0).addressSpan = t.span
  multiple : t.command ∈ readMultiples →
    1 ≤ (s.controller 0).multipleSectors.toNat ∧ (s.controller 0).multipleSectors.toNat ≤ 16

/-- The buffer is to hold, or holds, the `n` sectors after the first `base`. -/
structure Sized (n : ℕ) (s : HardDisk) : Prop where
  positive : 0 < n
  small : n ≤ 16
  single : t.command ∉ readMultiples → n = 1
  bufferSize : (s.controller 0).bufferSize.toNat = n * 512

/-- The `n` sectors after the first `base` are in the buffer, and the guest has read `index` bytes
of them. -/
structure Block (width base n index : ℕ) (s : HardDisk) : Prop extends
    t.Setup s, t.Sized n s where
  position : Positioned t.start t.count (base + n) (s.drive 0)
  bytes : ∀ j < n * 512, (s.controller 0).buffer.byte j = t.stream (base * 512 + j)
  requested : (s.controller 0).hasStatus ideStatusDevReq = true
  bufferIndex : (s.controller 0).bufferIndex.toNat = index
  unread : index < n * 512
  aligned : index % width = 0

/-- The transfer is over. -/
structure Done (s : HardDisk) : Prop where
  installed : s.Installed
  released : (s.controller 0).hasStatus ideStatusDevReq = false

end PioTransfer

/-! ## Filling the buffer -/

/-- `HardDiskReadSector`, at a position in a transfer whose next block fits. -/
lemma hardDiskReadSector_spec {start count base n : ℕ} {s : HardDisk}
    (hp : Positioned start count base (s.drive 0))
    (hfits : start + count ≤ s.image.size.toNat / 512)
    (hsize : (s.controller 0).bufferSize.toNat = n * 512) (hn : base + n ≤ count)
    (hroom : n * 512 ≤ (s.controller 0).buffer.size) :
    ∃ u, hardDiskReadSector 0 s = .ok (u, n * 512) ∧ s.SameWiring u ∧
      SectorsRead start count base n 0 (s.drive 0) s.image (u.drive 0) u.image := by
  obtain ⟨d', image', hrun, hread⟩ := readSectorLoop_spec hp hfits hn
    (show 0 + n * 512 ≤ (s.drive 0).controller.buffer.size by simpa [HardDisk.controller]
    using hroom)
  refine ⟨{ s.modifyDrive 0 fun _ => d' with image := image' }, ?_, ?_, ?_⟩
  · simp only [hardDiskReadSector, sectorPasses_eq hsize, hrun, ok_bind]
    rfl
  · exact HardDisk.SameWiring.modifyDrive s fun _ => d'
  · have hdrive : HardDisk.drive 0 { s.modifyDrive 0 fun _ => d' with image := image' } = d' :=
      s.drive_modifyDrive 0 fun _ => d'
    rw [hdrive]
    exact hread

namespace PioTransfer

variable {t : PioTransfer} {s : HardDisk}

/-- What is set up for a transfer stays, as long as the registers that it is in stay. -/
lemma Setup.congr {u : HardDisk} (h : t.Setup s) (hwiring : s.SameWiring u)
    (himage : u.image.content = s.image.content) (hsize : u.image.size = s.image.size)
    (htype : (u.drive 0).driveType = (s.drive 0).driveType)
    (hallocated : (u.controller 0).buffer.size = (s.controller 0).buffer.size)
    (hcommand : (u.controller 0).currentCommand = (s.controller 0).currentCommand)
    (hlba : (u.controller 0).lba48 = (s.controller 0).lba48)
    (hmultiple : (u.controller 0).multipleSectors = (s.controller 0).multipleSectors) :
    t.Setup u := by
  refine ⟨hwiring.installed h.installed htype hallocated, ?_, himage.trans h.content, h.known,
    hcommand.trans h.command, ?_, ?_⟩
  · rw [hsize]
    exact h.onDisk
  · rw [AtaController.addressSpan, hlba]
    exact h.span
  · rw [hmultiple]
    exact h.multiple

lemma Setup.modifyDrive (h : t.Setup s) {f : AtaDrive → AtaDrive}
    (hf : (s.drive 0).SameRegisters (f (s.drive 0))) : t.Setup (s.modifyDrive 0 f) := by
  refine h.congr (HardDisk.SameWiring.modifyDrive s f) rfl rfl ?_ ?_ ?_ ?_ ?_
  · rw [HardDisk.drive_modifyDrive, hf.driveType]
  · rw [HardDisk.controller_modifyDrive, hf.buffer, HardDisk.controller]
  · rw [HardDisk.controller_modifyDrive, hf.currentCommand, HardDisk.controller]
  · rw [HardDisk.controller_modifyDrive, hf.lba48, HardDisk.controller]
  · rw [HardDisk.controller_modifyDrive, hf.multipleSectors, HardDisk.controller]

lemma Setup.raiseInterrupt (h : t.Setup s) : t.Setup (hardDiskRaiseInterrupt 0 s) := by
  refine h.congr (HardDisk.SameWiring.raiseInterrupt s) ?_ ?_ ?_ ?_ ?_ ?_ ?_
  · rw [image_raiseInterrupt]
  · rw [image_raiseInterrupt]
  · rw [drive_raiseInterrupt]
  · rw [HardDisk.controller_eq_drive, drive_raiseInterrupt, HardDisk.controller_eq_drive]
  · rw [HardDisk.controller_eq_drive, drive_raiseInterrupt, HardDisk.controller_eq_drive]
  · rw [HardDisk.controller_eq_drive, drive_raiseInterrupt, HardDisk.controller_eq_drive]
  · rw [HardDisk.controller_eq_drive, drive_raiseInterrupt, HardDisk.controller_eq_drive]

/-- Filling the buffer with the next block: the state that is left holds it, and nothing else has
moved but the position. -/
lemma fill {base n : ℕ} (hs : t.Setup s) (hn : t.Sized n s)
    (hp : Positioned t.start t.count base (s.drive 0)) (hfit : base + n ≤ t.count) :
    ∃ u, hardDiskReadSector 0 s = .ok (u, n * 512) ∧ t.Setup u ∧
      (u.drive 0).frame = (s.drive 0).frame ∧
      Positioned t.start t.count (base + n) (u.drive 0) ∧
      ∀ j < n * 512, (u.controller 0).buffer.byte j = t.stream (base * 512 + j) := by
  have hroom : n * 512 ≤ (s.controller 0).buffer.size := by
    have hsmall := hn.small
    rw [hs.installed.allocated]
    unfold maxMultipleSectors hardDiskSectorSize
    omega
  obtain ⟨u, hrun, hwiring, hread⟩ := hardDiskReadSector_spec hp hs.onDisk hn.bufferSize hfit hroom
  refine ⟨u, hrun, ?_, hread.frame, hread.position, fun j hj => ?_⟩
  · exact hs.congr hwiring hread.content hread.size (congrArg TransferFrame.driveType hread.frame)
      (congrArg TransferFrame.allocated hread.frame)
      (congrArg TransferFrame.currentCommand hread.frame)
      (congrArg TransferFrame.lba48 hread.frame)
      (congrArg TransferFrame.multipleSectors hread.frame)
  · have hspan : (s.drive 0).controller.addressSpan = t.span := hs.span
    rw [HardDisk.controller, hread.bytes j, if_pos (by omega), hspan, hs.content]
    rfl

end PioTransfer

lemma accessLength_of_width {length : BitVec 32} (h : length ∈ portWidths) :
    AtaBuffer.accessLength length = length.toNat ∧ 0 < length.toNat ∧ length.toNat ≤ 4 ∧
      512 % length.toNat = 0 := by
  simp only [portWidths, List.mem_cons, List.not_mem_nil, or_false] at h
  rcases h with rfl | rfl | rfl
  · decide
  · decide
  · decide

/-- An aligned access that starts before the end of an aligned block is within it. -/
lemma aligned_add_le {p w n : ℕ} (haligned : p % w = 0) (hdvd : n % w = 0) (hlt : p < n) :
    p + w ≤ n := by
  obtain ⟨k, rfl⟩ := Nat.dvd_of_mod_eq_zero haligned
  obtain ⟨l, rfl⟩ := Nat.dvd_of_mod_eq_zero hdvd
  have hlt' : k < l := Nat.lt_of_mul_lt_mul_left hlt
  calc w * k + w = w * (k + 1) := (Nat.mul_succ w k).symm
    _ ≤ w * l := Nat.mul_le_mul_left w hlt'

/-! ## The registers at the end of a block -/

namespace AtaDrive

variable (d : AtaDrive)

lemma endOfBlockRead_registers : d.SameRegisters d.endOfBlockRead := by
  unfold endOfBlockRead
  by_cases h : d.controller.currentCommand ∈ readMultiples
  · simp only [if_pos h, AtaController.setStatus, AtaController.clearStatus,
      AtaController.updateStatus_updateStatus]
    exact ⟨rfl, rfl, rfl, rfl, rfl, rfl, rfl, rfl, rfl, rfl, rfl⟩
  · simp only [if_neg h, AtaController.setStatus, AtaController.clearStatus,
      AtaController.updateStatus_updateStatus]
    exact ⟨rfl, rfl, rfl, rfl, rfl, rfl, rfl, rfl, rfl, rfl, rfl⟩

lemma endOfBlockRead_bufferSize :
    d.endOfBlockRead.controller.bufferSize =
      if d.controller.currentCommand ∈ readMultiples then d.controller.multipleBlock
      else d.controller.bufferSize := by
  unfold endOfBlockRead
  by_cases h : d.controller.currentCommand ∈ readMultiples
  · simp only [if_pos h, AtaController.setStatus, AtaController.clearStatus,
      AtaController.updateStatus_updateStatus]
    rfl
  · simp only [if_neg h, AtaController.setStatus, AtaController.clearStatus,
      AtaController.updateStatus_updateStatus]
    rfl

end AtaDrive

lemma AtaController.requestBlock_requested (c : AtaController) :
    c.requestBlock.hasStatus ideStatusDevReq = true := by
  show Word.has (Word.set (Word.set _ ideStatusDevReq) ideStatusDevSeekComp) ideStatusDevReq = true
  rw [Word.has_set, Word.has_set]
  simp [ideStatusDevReq]

/-! ## The steps of a transfer -/

namespace PioTransfer

variable {t : PioTransfer} {s : HardDisk} {length : BitVec 32}

lemma Setup.read_data (h : t.Setup s)
    (hreq : (s.controller 0).hasStatus ideStatusDevReq = true) :
    hardDiskPortIoReadHandler 0x1f0 length s = hardDiskReadData 0 length s := by
  have hknown : (s.controller 0).currentCommand ∈ readCommands28 ++ readCommandsExt := by
    rw [h.command]
    exact h.known
  rw [h.installed.read_data, hardDiskReadDataPort]
  simp only [hreq, Bool.not_true, if_pos hknown]
  rfl

/-- The word that a data read takes from the buffer. -/
def word (length : BitVec 32) (s : HardDisk) : BitVec 32 :=
  littleEndian (fun j => (s.controller 0).buffer.byte ((s.controller 0).bufferIndex.toNat + j))
    length.toNat

variable {base n index : ℕ}

section Read

variable (h : t.Block length.toNat base n index s) (hw : length ∈ portWidths)

include h hw

/-- Aligned reads of one width never run past the end of a block. -/
lemma Block.read_fits : index + length.toNat ≤ n * 512 := by
  obtain ⟨-, -, -, hdvd⟩ := accessLength_of_width hw
  have hblock : n * 512 % length.toNat = 0 := by rw [Nat.mul_mod, hdvd, Nat.mul_zero, Nat.zero_mod]
  exact aligned_add_le h.aligned hblock h.unread

lemma Block.toNat_index_add :
    ((s.controller 0).bufferIndex + length).toNat = index + length.toNat := by
  have hfits := h.read_fits hw
  have hsmall := h.small
  rw [BitVec.toNat_add, h.bufferIndex]
  exact Nat.mod_eq_of_lt (by omega)

/-- The bytes of the word are the next of the stream. -/
lemma Block.bytesOf_word :
    bytesOf (word length s) length.toNat =
      (List.range length.toNat).map fun j => t.stream (base * 512 + index + j) := by
  obtain ⟨-, -, hle, -⟩ := accessLength_of_width hw
  have hfits := h.read_fits hw
  rw [word, bytesOf_littleEndian _ hle]
  refine List.map_congr_left fun j hj => ?_
  have hlt : j < length.toNat := List.mem_range.mp hj
  rw [h.bufferIndex, h.bytes (index + j) (by omega), Nat.add_assoc]

/-- A data read in a block takes the word; what is left is to see whether the block is empty. -/
lemma Block.readData_eq :
    hardDiskReadData 0 length s = do
      let s' ← hardDiskBytesTaken 0 (s.modifyController 0 (AtaController.advance length))
      return (s', word length s) := by
  obtain ⟨haccess, -, -, -⟩ := accessLength_of_width hw
  have hfits := h.read_fits hw
  have hsmall := h.small
  have hsize := h.bufferSize
  have hunread := h.unread
  have hfull : ¬ (s.controller 0).bufferSize ≤ (s.controller 0).bufferIndex := by
    rw [BitVec.le_def, hsize, h.bufferIndex]
    omega
  have hpast : ¬ (s.controller 0).bufferSize < (s.controller 0).bufferIndex + length := by
    rw [BitVec.lt_def, hsize, h.toNat_index_add hw]
    omega
  have hroom : (s.controller 0).bufferIndex.toNat + length.toNat ≤
      (s.controller 0).buffer.size := by
    have hallocated : (s.controller 0).buffer.size = 8198 := h.installed.allocated
    rw [h.bufferIndex, hallocated]
    omega
  simp only [hardDiskReadData, if_neg hfull, if_neg hpast, AtaBuffer.load, haccess, if_pos hroom,
    ok_bind]
  rfl

/-- A data read that leaves something in the block. -/
lemma Block.advance (hmore : index + length.toNat < n * 512) :
    ∃ u, hardDiskBytesTaken 0 (s.modifyController 0 (AtaController.advance length)) = .ok u ∧
      t.Block length.toNat base n (index + length.toNat) u := by
  refine ⟨_, if_pos ?_, ?_⟩
  · rw [HardDisk.controller_modifyController, BitVec.lt_def]
    show ((s.controller 0).bufferIndex + length).toNat < (s.controller 0).bufferSize.toNat
    rw [h.toNat_index_add hw, h.bufferSize]
    exact hmore
  · refine ⟨h.toSetup.modifyDrive ⟨rfl, rfl, rfl, rfl, rfl, rfl, rfl, rfl, rfl, rfl, rfl⟩,
      ⟨h.positive, h.small, h.single, ?_⟩, ?_, ?_, ?_, ?_, hmore, ?_⟩
    · rw [HardDisk.controller_modifyController]
      exact h.bufferSize
    · rw [HardDisk.drive_modifyController]
      exact h.position.of_registers ⟨rfl, rfl, rfl, rfl, rfl, rfl, rfl, rfl, rfl, rfl, rfl⟩
    · intro j hj
      rw [HardDisk.controller_modifyController]
      exact h.bytes j hj
    · rw [HardDisk.controller_modifyController]
      exact h.requested
    · rw [HardDisk.controller_modifyController]
      exact h.toNat_index_add hw
    · rw [Nat.add_mod_right]
      exact h.aligned

/-- A data read that empties the block goes on to the end of the block. -/
lemma Block.emptied (hend : index + length.toNat = n * 512) :
    hardDiskBytesTaken 0 (s.modifyController 0 (AtaController.advance length)) =
      hardDiskBlockEmptied 0
        ((s.modifyController 0 (AtaController.advance length)).modifyDrive 0
          AtaDrive.endOfBlockRead) := by
  refine if_neg ?_
  rw [HardDisk.controller_modifyController, BitVec.lt_def]
  show ¬ ((s.controller 0).bufferIndex + length).toNat < (s.controller 0).bufferSize.toNat
  rw [h.toNat_index_add hw, h.bufferSize, hend]
  exact lt_irrefl _

end Read

/-- The next block has the size that the registers announce for it. -/
lemma Setup.sized (hs : t.Setup s) (hp : Positioned t.start t.count base (s.drive 0))
    (hmore : base < t.count)
    (hsize : (s.controller 0).bufferSize =
      if (s.controller 0).currentCommand ∈ readMultiples then (s.controller 0).multipleBlock
      else 512) :
    ∃ m, base + m ≤ t.count ∧ t.Sized m s := by
  have hremaining : (s.controller 0).numberOfSectors.toNat + base = t.count := hp.remaining
  by_cases hmultiple : t.command ∈ readMultiples
  · obtain ⟨hlow, hhigh⟩ := hs.multiple hmultiple
    refine ⟨min (s.controller 0).multipleSectors.toNat (s.controller 0).numberOfSectors.toNat,
      by omega, by omega, by omega, fun hnot => absurd hmultiple hnot, ?_⟩
    rw [hsize, hs.command, if_pos hmultiple, toNat_multipleBlock]
  · refine ⟨1, by omega, by decide, by decide, fun _ => rfl, ?_⟩
    rw [hsize, hs.command, if_neg hmultiple]
    decide

/-- Filling an emptied buffer offers the next block. -/
lemma Setup.refill (hs : t.Setup s) (hp : Positioned t.start t.count base (s.drive 0))
    (hmore : base < t.count) (width : ℕ)
    (hsize : (s.controller 0).bufferSize =
      if (s.controller 0).currentCommand ∈ readMultiples then (s.controller 0).multipleBlock
      else 512) :
    ∃ u m, hardDiskBlockEmptied 0 s = .ok u ∧ base + m ≤ t.count ∧ t.Block width base m 0 u := by
  have hleft : (s.controller 0).numberOfSectors ≠ 0 := by
    have hremaining : (s.controller 0).numberOfSectors.toNat + base = t.count := hp.remaining
    intro hzero
    have hzeroNat : (0 : BitVec 32).toNat = 0 := rfl
    rw [hzero, hzeroNat] at hremaining
    omega
  have hs' : t.Setup (s.modifyController 0 AtaController.requestBlock) :=
    hs.modifyDrive ⟨rfl, rfl, rfl, rfl, rfl, rfl, rfl, rfl, rfl, rfl, rfl⟩
  have hp' : Positioned t.start t.count base
      ((s.modifyController 0 AtaController.requestBlock).drive 0) := by
    rw [HardDisk.drive_modifyController]
    exact hp.of_registers ⟨rfl, rfl, rfl, rfl, rfl, rfl, rfl, rfl, rfl, rfl, rfl⟩
  obtain ⟨m, hfit, hm⟩ := hs'.sized hp' hmore (by
    rw [HardDisk.controller_modifyController]
    exact hsize)
  obtain ⟨u, hrun, hu, hframe, hposition, hbytes⟩ := fill hs' hm hp' hfit
  have hdrive : (hardDiskRaiseInterrupt 0 (u.modifyController 0 AtaController.rewind)).drive 0 =
      { u.drive 0 with controller := (u.controller 0).rewind } := by
    rw [drive_raiseInterrupt, HardDisk.drive_modifyController]
  refine ⟨hardDiskRaiseInterrupt 0 (u.modifyController 0 AtaController.rewind), m, ?_, hfit, ?_⟩
  · simp only [hardDiskBlockEmptied, if_pos hleft, hrun, ok_bind]
    rfl
  · refine ⟨(hu.modifyDrive ⟨rfl, rfl, rfl, rfl, rfl, rfl, rfl, rfl, rfl, rfl, rfl⟩).raiseInterrupt,
      ⟨hm.positive, hm.small, hm.single, ?_⟩, ?_, ?_, ?_, ?_, by have := hm.positive; omega,
      Nat.zero_mod width⟩
    · rw [HardDisk.controller_eq_drive, hdrive, ← hm.bufferSize]
      exact congrArg (fun f => f.bufferSize.toNat) hframe
    · rw [hdrive]
      exact hposition.of_registers ⟨rfl, rfl, rfl, rfl, rfl, rfl, rfl, rfl, rfl, rfl, rfl⟩
    · intro j hj
      rw [HardDisk.controller_eq_drive, hdrive]
      exact hbytes j hj
    · rw [HardDisk.controller_eq_drive, hdrive]
      have hstatus : (u.controller 0).status =
          ((s.modifyController 0 AtaController.requestBlock).controller 0).status :=
        congrArg TransferFrame.status hframe
      show Word.has (u.controller 0).status ideStatusDevReq = true
      rw [hstatus, HardDisk.controller_modifyController]
      exact (s.controller 0).requestBlock_requested
    · rw [HardDisk.controller_eq_drive, hdrive]
      rfl

/-- An emptied buffer with no sectors left ends the transfer. -/
lemma Setup.finish (hs : t.Setup s) (hp : Positioned t.start t.count t.count (s.drive 0)) :
    ∃ u, hardDiskBlockEmptied 0 s = .ok u ∧ Done u := by
  have hnone : ¬ (s.controller 0).numberOfSectors ≠ 0 := by
    have hremaining : (s.controller 0).numberOfSectors.toNat + t.count = t.count := hp.remaining
    rw [not_not]
    apply BitVec.eq_of_toNat_eq
    show (s.controller 0).numberOfSectors.toNat = 0
    omega
  refine ⟨s.modifyDrive 0 AtaDrive.endOfRead, if_neg hnone, ?_, ?_⟩
  · exact (hs.modifyDrive ⟨rfl, rfl, rfl, rfl, rfl, rfl, rfl, rfl, rfl, rfl, rfl⟩).installed
  · rw [HardDisk.controller_modifyDrive]
    show Word.has (Word.clear _ ideStatusDevReq) ideStatusDevReq = false
    rw [Word.has_clear]
    simp

/-- The state in which a block has been read to its end is set up for the next. -/
lemma Block.atEnd (h : t.Block length.toNat base n index s) :
    let s' := (s.modifyController 0 (AtaController.advance length)).modifyDrive 0
      AtaDrive.endOfBlockRead
    t.Setup s' ∧ Positioned t.start t.count (base + n) (s'.drive 0) ∧
      (s'.controller 0).bufferSize =
        if (s'.controller 0).currentCommand ∈ readMultiples then (s'.controller 0).multipleBlock
        else 512 := by
  set d : AtaDrive := { s.drive 0 with controller := (s.controller 0).advance length } with hd
  have hdrive : ((s.modifyController 0 (AtaController.advance length)).modifyDrive 0
      AtaDrive.endOfBlockRead).drive 0 = d.endOfBlockRead := by
    rw [HardDisk.drive_modifyDrive, HardDisk.drive_modifyController]
  have hregisters : d.SameRegisters d.endOfBlockRead := d.endOfBlockRead_registers
  have hbefore : (s.modifyController 0 (AtaController.advance length)).drive 0 = d :=
    HardDisk.drive_modifyController 0 s _
  have hadvanced : t.Setup (s.modifyController 0 (AtaController.advance length)) :=
    h.toSetup.modifyDrive ⟨rfl, rfl, rfl, rfl, rfl, rfl, rfl, rfl, rfl, rfl, rfl⟩
  have hposition : Positioned t.start t.count (base + n) d :=
    h.position.of_registers ⟨rfl, rfl, rfl, rfl, rfl, rfl, rfl, rfl, rfl, rfl, rfl⟩
  refine ⟨hadvanced.modifyDrive ?_, ?_, ?_⟩
  · rw [hbefore]
    exact hregisters
  · rw [hdrive]
    exact hposition.of_registers hregisters
  · have hmultiple : d.endOfBlockRead.controller.multipleBlock = d.controller.multipleBlock := by
      simp only [AtaController.multipleBlock, hregisters.multipleSectors,
        hregisters.numberOfSectors]
    rw [HardDisk.controller_eq_drive, hdrive, d.endOfBlockRead_bufferSize,
      hregisters.currentCommand, hmultiple]
    by_cases hin : d.controller.currentCommand ∈ readMultiples
    · rw [if_pos hin, if_pos hin]
    · rw [if_neg hin, if_neg hin]
      have hnot : t.command ∉ readMultiples := by
        rw [← h.command]
        exact hin
      have hsize : (s.controller 0).bufferSize.toNat = 512 := by
        rw [h.bufferSize, h.single hnot]
      exact BitVec.eq_of_toNat_eq hsize

/-- A data read in a block gives the next bytes of the stream, and leaves a block with more of it
or, after its last byte, the end of the transfer. -/
lemma Block.read (h : t.Block length.toNat base n index s) (hw : length ∈ portWidths)
    (hfit : base + n ≤ t.count) :
    ∃ u, hardDiskPortIoReadHandler 0x1f0 length s = .ok (u, word length s) ∧
      ((∃ base' m index', base' + m ≤ t.count ∧
          base' * 512 + index' = base * 512 + index + length.toNat ∧
          t.Block length.toNat base' m index' u) ∨
        base * 512 + index + length.toNat = t.count * 512 ∧ Done u) := by
  have hfits := h.read_fits hw
  have hread : hardDiskPortIoReadHandler 0x1f0 length s = do
      let s' ← hardDiskBytesTaken 0 (s.modifyController 0 (AtaController.advance length))
      return (s', word length s) := by
    rw [h.toSetup.read_data h.requested, h.readData_eq hw]
  by_cases hmore : index + length.toNat < n * 512
  · obtain ⟨u, hu, hblock⟩ := h.advance hw hmore
    refine ⟨u, ?_, Or.inl ⟨base, n, _, hfit, by omega, hblock⟩⟩
    rw [hread, hu]
    rfl
  · have hend : index + length.toNat = n * 512 := by omega
    obtain ⟨hsetup, hposition, hsize⟩ := h.atEnd
    rw [h.emptied hw hend] at hread
    by_cases hlast : base + n < t.count
    · obtain ⟨u, m, hu, hm, hblock⟩ := hsetup.refill hposition hlast length.toNat hsize
      refine ⟨u, ?_, Or.inl ⟨base + n, m, 0, hm, by omega, hblock⟩⟩
      rw [hread, hu]
      rfl
    · have hcount : base + n = t.count := by omega
      rw [hcount] at hposition
      obtain ⟨u, hu, hdone⟩ := hsetup.finish hposition
      refine ⟨u, ?_, Or.inr ⟨by omega, hdone⟩⟩
      rw [hread, hu]
      rfl

/-- A status read leaves the block as it is. -/
lemma Block.statusRead {width : ℕ} (h : t.Block width base n index s) :
    t.Block width base n index (hardDiskLowerIrq 0 s) :=
  ⟨h.toSetup.congr (HardDisk.SameWiring.lowerIrq s) rfl rfl rfl rfl rfl rfl rfl,
    ⟨h.positive, h.small, h.single, h.bufferSize⟩, h.position, h.bytes, h.requested, h.bufferIndex,
    h.unread, h.aligned⟩

end PioTransfer

/-- The alternate status register changes the index pulse, and its status bit, only. -/
lemma alternateStatus_eq (c : AtaController) :
    ∃ f pulse, c.alternateStatus = { c with indexPulse := pulse }.updateStatus f ∧
      ∀ x : BitVec 8, Word.has (f x) ideStatusDevReq = Word.has x ideStatusDevReq := by
  by_cases h : 10 < c.indexPulse + 1
  · refine ⟨fun x => Word.set (Word.clear x ideStatusIndexPulse) ideStatusIndexPulse, 0, ?_, ?_⟩
    · simp only [AtaController.alternateStatus, if_pos h]
      rfl
    · intro x
      rw [Word.has_set, Word.has_clear]
      simp [ideStatusDevReq, ideStatusIndexPulse]
  · refine ⟨fun x => Word.clear x ideStatusIndexPulse, c.indexPulse + 1, ?_, ?_⟩
    · simp only [AtaController.alternateStatus, if_neg h]
      rfl
    · intro x
      rw [Word.has_clear]
      simp [ideStatusDevReq, ideStatusIndexPulse]

namespace PioTransfer

variable {t : PioTransfer} {s : HardDisk} {width base n index : ℕ}

lemma Block.alternateRead (h : t.Block width base n index s) :
    t.Block width base n index (s.modifyController 0 AtaController.alternateStatus) := by
  obtain ⟨f, pulse, heq, hf⟩ := alternateStatus_eq (s.controller 0)
  have hdrive : (s.modifyController 0 AtaController.alternateStatus).drive 0 =
      { s.drive 0 with
        controller := { s.controller 0 with indexPulse := pulse }.updateStatus f } := by
    rw [HardDisk.drive_modifyController, heq]
  have hregisters : (s.drive 0).SameRegisters
      ((s.modifyController 0 AtaController.alternateStatus).drive 0) := by
    rw [hdrive]
    exact ⟨rfl, rfl, rfl, rfl, rfl, rfl, rfl, rfl, rfl, rfl, rfl⟩
  refine ⟨?_, ⟨h.positive, h.small, h.single, ?_⟩, h.position.of_registers hregisters, ?_, ?_, ?_,
    h.unread, h.aligned⟩
  · exact h.toSetup.congr (HardDisk.SameWiring.modifyController s _) rfl rfl hregisters.driveType
      (congrArg AtaBuffer.size hregisters.buffer) hregisters.currentCommand hregisters.lba48
      hregisters.multipleSectors
  · rw [HardDisk.controller_eq_drive, hdrive]
    exact h.bufferSize
  · intro j hj
    rw [HardDisk.controller_eq_drive, hregisters.buffer]
    exact h.bytes j hj
  · rw [HardDisk.controller_eq_drive, hdrive]
    exact (hf _).trans h.requested
  · rw [HardDisk.controller_eq_drive, hdrive]
    exact h.bufferIndex

lemma Done.alternateRead (h : Done s) :
    Done (s.modifyController 0 AtaController.alternateStatus) := by
  obtain ⟨f, pulse, heq, hf⟩ := alternateStatus_eq (s.controller 0)
  have hdrive : (s.modifyController 0 AtaController.alternateStatus).drive 0 =
      { s.drive 0 with
        controller := { s.controller 0 with indexPulse := pulse }.updateStatus f } := by
    rw [HardDisk.drive_modifyController, heq]
  refine ⟨(HardDisk.SameWiring.modifyController s _).installed h.installed ?_ ?_, ?_⟩
  · rw [hdrive]
  · rw [HardDisk.controller_eq_drive, hdrive]
    rfl
  · rw [HardDisk.controller_eq_drive, hdrive]
    exact (hf _).trans h.released

end PioTransfer

end Svmm
