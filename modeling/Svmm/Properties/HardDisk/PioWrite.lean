import Svmm.Properties.HardDisk.Commands

/-!
# Writing sectors through the data port

`HardDiskWriteSector` is called by the command itself and again for every block of data.  So the
command writes what the buffer holds at its first sector and steps the address and the count, before
the guest has supplied anything, and every block of data goes one block further than it should.
The list of writes only grows, which keeps that first block in every run.
-/

namespace Svmm

open TransitionRun Bytes

/-! ## What a guest asks for -/

/-- A sector write that is accepted. -/
abbrev WriteAccepted : HardDisk → BitVec 8 → Prop :=
  TransferAccepted (writeCommands28 ++ writeCommandsExt) writeMultiples

/-- A write of the data port. -/
def pioWrite (width : BitVec 32) (s : HardDisk) (value : BitVec 32) : HardDiskOutcome HardDisk :=
  hardDiskPortIoWriteHandler 0x1f0 value width s

/-- The bytes that the guest writes. -/
def pioBytes (width : BitVec 32) (words : List (BitVec 32)) : List (BitVec 8) :=
  words.flatMap fun value => bytesOf value width.toNat

/-- The sectors of data from `start` on, each with the offset it belongs at. -/
def sectorWrites (start count : ℕ) (data : List (BitVec 8)) :
    List (BitVec 64 × List (BitVec 8)) :=
  (List.range count).map fun k =>
    (BitVec.ofNat 64 ((start + k) * 512), (data.drop (k * 512)).take 512)

/-- The sectors asked for are written with the guest's data, in order, and nothing else is; at no
time has more been written than was supplied, or the count gone below zero; the data request is
gone at the end; and nothing stops the program. -/
def PioWriteStores (s : HardDisk) (command : BitVec 8) (width : BitVec 32)
    (words : List (BitVec 32)) : Prop :=
  ∀ length, ∃ started t,
    hardDiskPortIoWriteHandler 0x1f7 (command.setWidth 32) length s = .ok started ∧
    run (pioWrite width) started words = .ok t ∧
    t.image.writes = s.image.writes ++
      sectorWrites (s.commandStart command) (s.commandCount command) (pioBytes width words) ∧
    (∀ before after u, words = before ++ after → run (pioWrite width) started before = .ok u →
      (u.image.writes.length - s.image.writes.length) * 512 ≤ (pioBytes width before).length ∧
      (u.controller 0).numberOfSectors.toNat ≤ s.commandCount command) ∧
    (t.controller 0).hasStatus ideStatusDevReq = false

/-! ## The write loop -/

/-- Whatever stops it, the write loop only adds to the writes. -/
lemma writeSectorLoop_writes {n i : ℕ} {d d' : AtaDrive} {image image' : DiskImage}
    {complete : Bool} (h : writeSectorLoop n i (d, image) = .ok (d', image', complete)) :
    image.writes <+: image'.writes := by
  induction n generalizing i d image with
  | zero =>
      obtain ⟨-, rfl, -⟩ := by simpa [writeSectorLoop] using h
      exact List.prefix_refl _
  | succ n ih =>
      rw [writeSectorLoop] at h
      by_cases hend : d.calculateLogicalAddress image.size = -1
      · simp only [if_pos hend] at h
        obtain ⟨-, rfl, -⟩ := by simpa using h
        exact List.prefix_refl _
      · simp only [if_neg hend] at h
        obtain ⟨block, -, h⟩ := bind_eq_ok.mp h
        have hadd (offset : BitVec 64) :
            image.writes <+: ((image.seek offset).write block).2.writes := List.prefix_append _ _
        split at h
        · obtain ⟨-, rfl, -⟩ := by simpa [pure, Except.pure] using h
          exact hadd _
        · exact (hadd _).trans (ih h)

/-- The first pass, at a sector that is on the disk, writes what the buffer holds there. -/
lemma writeSectorLoop_first {n : ℕ} {d d' : AtaDrive} {image image' : DiskImage} {complete : Bool}
    (hn : n ≠ 0) (hdisk : d.logicalAddress.toNat < image.size.toNat / 512)
    (h : writeSectorLoop n 0 (d, image) = .ok (d', image', complete)) :
    image.writes ++ [(d.logicalAddress * 512, (List.range 512).map d.controller.buffer.byte)] <+:
      image'.writes := by
  obtain ⟨n, rfl⟩ := Nat.exists_eq_succ_of_ne_zero hn
  rw [writeSectorLoop, calculateLogicalAddress_of_lt hdisk] at h
  simp only [if_neg (ne_neg_one_of_lt hdisk)] at h
  obtain ⟨block, hblock, h⟩ := bind_eq_ok.mp h
  have hbytes : (List.range 512).map d.controller.buffer.byte = block := by
    unfold AtaBuffer.slice at hblock
    split at hblock
    · rw [← Except.ok.inj hblock]
      exact List.map_congr_left fun j _ => by rw [Nat.zero_add]
    · cases hblock
  rw [hbytes]
  split at h
  · obtain ⟨-, rfl, -⟩ := by simpa [pure, Except.pure] using h
    exact List.prefix_refl _
  · exact writeSectorLoop_writes h

/-- The images after `HardDiskWriteSector` are those after its loop. -/
lemma hardDiskWriteSector_ok {ch : Fin 4} {s s' : HardDisk} {temp : ℕ}
    (h : hardDiskWriteSector ch s = .ok (s', temp)) :
    ∃ d complete, writeSectorLoop (sectorPasses (s.controller ch).bufferSize) 0
      (s.drive ch, s.image) = .ok (d, s'.image, complete) := by
  obtain ⟨⟨d, image, complete⟩, hloop, h⟩ := bind_eq_ok.mp h
  refine ⟨d, complete, ?_⟩
  cases complete with
  | true =>
      obtain ⟨rfl, -⟩ := Prod.mk.inj (Except.ok.inj h)
      exact hloop
  | false =>
      obtain ⟨rfl, -⟩ := Prod.mk.inj (Except.ok.inj h)
      rw [image_commandAborted]
      exact hloop

/-! ## The start of a write -/

/-- The switch of the command register, at a sector write. -/
lemma hardDiskCommand_write {command : BitVec 8} (h : command ∈ writeCommands28 ++ writeCommandsExt)
    (s : HardDisk) :
    hardDiskCommand 0 (command.setWidth 32) s =
      hardDiskWriteCommand 0 (extFlag command) (command.setWidth 32) s := by
  simp only [writeCommands28, writeCommandsExt, List.cons_append, List.nil_append, List.mem_cons,
    List.not_mem_nil, or_false] at h
  unfold hardDiskCommand
  rcases h with rfl | rfl | rfl | rfl
  · rw [if_neg (by decide), if_neg (by decide), if_neg (by decide), if_neg (by decide),
      if_neg (by decide), if_neg (by decide), if_pos (by decide)]
    rfl
  · rw [if_neg (by decide), if_neg (by decide), if_neg (by decide), if_neg (by decide),
      if_neg (by decide), if_neg (by decide), if_pos (by decide)]
    rfl
  · rw [if_neg (by decide), if_neg (by decide), if_neg (by decide), if_neg (by decide),
      if_neg (by decide), if_pos (by decide)]
    rfl
  · rw [if_neg (by decide), if_neg (by decide), if_neg (by decide), if_neg (by decide),
      if_neg (by decide), if_pos (by decide)]
    rfl

/-- The state in which a sector write has set its registers up. -/
def HardDisk.writeStarted (s : HardDisk) (command : BitVec 8) : HardDisk :=
  (s.ready writeMultiples command).modifyDrive 0
    (AtaDrive.startWrite (s.commandDrive command).logicalAddress (command.setWidth 32))

lemma AtaDrive.startWrite_logicalAddress (d : AtaDrive) (address : BitVec 64) (value : BitVec 32) :
    (d.startWrite address value).logicalAddress = d.logicalAddress := by
  simp only [AtaDrive.startWrite, AtaController.setStatus, AtaController.clearStatus,
    AtaController.updateStatus_updateStatus]
  rfl

lemma AtaDrive.startWrite_bufferSize (d : AtaDrive) (address : BitVec 64) (value : BitVec 32) :
    (d.startWrite address value).controller.bufferSize = d.controller.bufferSize := by
  simp only [AtaDrive.startWrite, AtaController.setStatus, AtaController.clearStatus,
    AtaController.updateStatus_updateStatus]
  rfl

lemma AtaDrive.startWrite_buffer (d : AtaDrive) (address : BitVec 64) (value : BitVec 32) :
    (d.startWrite address value).controller.buffer = d.controller.buffer := by
  simp only [AtaDrive.startWrite, AtaController.setStatus, AtaController.clearStatus,
    AtaController.updateStatus_updateStatus]
  rfl

section Start

variable {s : HardDisk} {command : BitVec 8}

lemma HardDisk.drive_writeStarted (s : HardDisk) (command : BitVec 8) :
    (s.writeStarted command).drive 0 = ((s.ready writeMultiples command).drive 0).startWrite
      (s.commandDrive command).logicalAddress (command.setWidth 32) :=
  HardDisk.drive_modifyDrive 0 _ _

/-- An accepted sector write sets its registers up and writes a block. -/
lemma WriteAccepted.command_eq (h : WriteAccepted s command) (length : BitVec 32) :
    hardDiskPortIoWriteHandler 0x1f7 (command.setWidth 32) length s = do
      let (s', temp) ← hardDiskWriteSector 0 (s.writeStarted command)
      if temp = 0 then return hardDiskCommandAborted 0 s' else return s' := by
  have hmultiple : decide (IsCommand (command.setWidth 32) writeMultiples) =
      decide (command ∈ writeMultiples) := decide_eq_decide.mpr isCommand_setWidth
  rw [writeCommandRegister_of_idle h.installed h.idle
      (not_recalibrate command (List.mem_append_right _ h.known)),
    hardDiskCommand_write h.known, hardDiskWriteCommand]
  simp only [if_neg h.isDisk, hmultiple, if_neg h.block_set]
  rw [show (((hardDiskLowerIrq 0 s).modifyController 0 fun c =>
    c.clearStatus ideStatusError).modifyController 0
      (AtaController.lba48Transform (extFlag command))).modifyController 0
        (AtaController.startBlock (decide (command ∈ writeMultiples))) =
      s.ready writeMultiples command from rfl]
  have himage : (s.ready writeMultiples command).image = s.image := rfl
  simp only [himage, h.calculateLogicalAddress_eq, if_neg h.address_ne]
  rfl

/-- The block of an accepted write has at least one sector. -/
lemma WriteAccepted.passes_ne (h : WriteAccepted s command) :
    sectorPasses ((s.writeStarted command).controller 0).bufferSize ≠ 0 := by
  have hcount : 0 < s.commandCount command := commandCount_pos s command
  rw [HardDisk.controller_eq_drive, s.drive_writeStarted, AtaDrive.startWrite_bufferSize,
    ← HardDisk.controller_eq_drive, s.ready_bufferSize]
  by_cases hin : command ∈ writeMultiples
  · have hsectors : (s.controller 0).multipleSectors.toNat ≠ 0 := fun hzero =>
      h.multiple hin (BitVec.eq_of_toNat_eq hzero)
    have hblock := toNat_multipleBlock (s.commandDrive command).controller
    rw [if_pos hin, sectorPasses_eq hblock]
    exact (Nat.lt_min.mpr ⟨Nat.pos_of_ne_zero hsectors, hcount⟩).ne'
  · rw [if_neg hin]
    decide

/-- What an accepted write command writes at once: the sector at its address, with what the buffer
holds. -/
lemma WriteAccepted.stale_block (h : WriteAccepted s command) {length : BitVec 32}
    {started : HardDisk}
    (hstart : hardDiskPortIoWriteHandler 0x1f7 (command.setWidth 32) length s = .ok started) :
    s.image.writes ++ [((s.commandDrive command).logicalAddress * 512,
      (List.range 512).map (s.controller 0).buffer.byte)] <+: started.image.writes := by
  rw [h.command_eq] at hstart
  obtain ⟨⟨s', temp⟩, hwritten, hstart⟩ := bind_eq_ok.mp hstart
  obtain ⟨d, complete, hloop⟩ := hardDiskWriteSector_ok hwritten
  have hregisters := s.ready_registers writeMultiples command
  have haddress : ((s.writeStarted command).drive 0).logicalAddress =
      (s.commandDrive command).logicalAddress := by
    rw [s.drive_writeStarted, AtaDrive.startWrite_logicalAddress, hregisters.logicalAddress]
  have hbuffer : ((s.writeStarted command).drive 0).controller.buffer =
      (s.controller 0).buffer := by
    rw [s.drive_writeStarted, AtaDrive.startWrite_buffer, hregisters.buffer]
    rfl
  have hdisk := h.on_disk
  rw [← haddress] at hdisk
  have hfirst := writeSectorLoop_first h.passes_ne hdisk hloop
  rw [haddress, hbuffer] at hfirst
  have himage : started.image = s'.image := by
    simp only at hstart
    split at hstart
    · rw [← Except.ok.inj hstart, image_commandAborted]
    · rw [← Except.ok.inj hstart]
  rw [himage]
  exact hfirst

/-- More has been written than was supplied as soon as the command is issued. -/
lemma WriteAccepted.writes_before_data (h : WriteAccepted s command) {length : BitVec 32}
    {started : HardDisk}
    (hstart : hardDiskPortIoWriteHandler 0x1f7 (command.setWidth 32) length s = .ok started)
    (width : BitVec 32) :
    ¬ (started.image.writes.length - s.image.writes.length) * 512 ≤ (pioBytes width []).length := by
  have hlength := (h.stale_block hstart).length_le
  rw [List.length_append, List.length_singleton] at hlength
  have hnone : (pioBytes width []).length = 0 := rfl
  omega

end Start

/-! ## Runs of writes -/

/-- No sector write stores the guest's data where it asked. -/
theorem pio_write_never_stores {s : HardDisk} {command : BitVec 8} (h : WriteAccepted s command)
    (width : BitVec 32) (words : List (BitVec 32)) : ¬ PioWriteStores s command width words := by
  intro hstores
  obtain ⟨started, -, hstart, -, -, hbefore, -⟩ := hstores 1
  obtain ⟨hearly, -⟩ := hbefore [] words started rfl rfl
  exact h.writes_before_data hstart width hearly

/-- A disk of 64 sectors of zeros. -/
def blankImage : DiskImage :=
  { size := 64 * 512
    content := fun _ => 0
    offset := 0
    seeks := []
    writes := []
    writeSucceeds := fun _ => true }

/-- The drive of that disk once the guest has asked for a number of sectors from sector 5 on. -/
def blankDisk (count : BitVec 32) : HardDiskOutcome HardDisk :=
  hardDiskWrites [(0x1f6, 0x40), (0x1f2, count), (0x1f3, 5)]
    (hardDiskInitialize blankImage ⟨0, fun _ => []⟩ 0)

theorem pio_write_never_stores_two :
    ∃ s, blankDisk 2 = .ok s ∧
      ¬ PioWriteStores s ideCommandWriteExt 2 (List.replicate 512 0xaa55) := by
  have hends : ends (fun s => WriteAccepted s ideCommandWriteExt) (blankDisk 2) = true := by
    decide +kernel
  obtain ⟨s, hs, haccepted⟩ := exists_of_ends _ hends
  exact ⟨s, hs, pio_write_never_stores haccepted 2 _⟩

/-- A write of one sector at sector 5 puts what the buffer held there, before any data. -/
theorem pio_write_stores_stale_block :
    ∃ s, blankDisk 1 = .ok s ∧ WriteAccepted s ideCommandWrite ∧
      (∀ n, s.image.writeSucceeds n = true) ∧
      ¬ PioWriteStores s ideCommandWrite 4 (List.replicate 128 0xffffffff) := by
  have hends : ends (fun s => WriteAccepted s ideCommandWrite) (blankDisk 1) = true := by
    decide +kernel
  obtain ⟨s, hs, haccepted⟩ := exists_of_ends _ hends
  refine ⟨s, hs, haccepted, ?_, fun hstores => ?_⟩
  · obtain rfl := Except.ok.inj hs
    exact fun _ => rfl
  · obtain ⟨started, -, hstart, -, -, hbefore, -⟩ := hstores 1
    obtain ⟨hearly, -⟩ := hbefore [] _ started rfl rfl
    exact haccepted.writes_before_data hstart 4 hearly

end Svmm
