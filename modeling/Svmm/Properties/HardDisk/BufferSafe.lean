import Svmm.Properties.HardDisk.BusyRequest
import Svmm.Properties.HardDisk.Block

/-!
# Inside the buffer

Every access to a drive's buffer has a bound to meet.  The block of data of a drive is at most as
large as its type allows, and the allocation is four bytes larger, so an access of a port
instruction that begins within the block stays within the allocation.  Two things break this: a
`MULTIPLE` block of more than sixteen sectors, and an identification that begins where an earlier
transfer left `BufferIndex`.
-/

namespace Svmm

open TransitionRun HardDisk

/-! ## Outcomes that are not an overrun -/

/-- The outcome is not an access outside the buffer. -/
def NoOverrun {α : Type} (x : HardDiskOutcome α) : Prop := x ≠ .error .bufferOverrun

namespace NoOverrun

variable {α β : Type} {x y : HardDiskOutcome α}

lemma ok (a : α) : NoOverrun (.ok a) := by
  intro h
  cases h

lemma ret (a : α) : NoOverrun (pure a : HardDiskOutcome α) := ok a

lemma exit : NoOverrun (.error .exit : HardDiskOutcome α) := by
  intro h
  exact HardDiskFault.noConfusion (Except.error.inj h)

lemma bind {f : α → HardDiskOutcome β} (hx : NoOverrun x)
    (hf : ∀ a, x = .ok a → NoOverrun (f a)) : NoOverrun (x >>= f) := by
  cases x with
  | ok a => exact hf a rfl
  | error e => exact fun h => hx (congrArg _ (Except.error.inj h))

lemma ite {p : Prop} [Decidable p] (hx : p → NoOverrun x) (hy : ¬ p → NoOverrun y) :
    NoOverrun (if p then x else y) := by
  split
  · exact hx ‹p›
  · exact hy ‹¬ p›

variable {b : AtaBuffer} {index count : ℕ}

lemma fill {data : ℕ → BitVec 8} (h : index + count ≤ b.size) :
    NoOverrun (b.fill index count data) := by
  rw [AtaBuffer.fill, if_pos h]
  exact ok _

lemma slice (h : index + count ≤ b.size) : NoOverrun (b.slice index count) := by
  rw [AtaBuffer.slice, if_pos h]
  exact ok _

/-- No access of a port instruction is longer than four bytes. -/
lemma accessLength_le (length : BitVec 32) : AtaBuffer.accessLength length ≤ 4 := by
  unfold AtaBuffer.accessLength
  split
  · exact le_refl 4
  split
  · decide
  split
  · decide
  · decide

lemma loadWithin {length : BitVec 32} (h : index + AtaBuffer.accessLength length ≤ b.size) :
    NoOverrun (b.load index length) := by
  rw [AtaBuffer.load, if_pos h]
  exact ok _

lemma load {length : BitVec 32} (h : index + 4 ≤ b.size) : NoOverrun (b.load index length) :=
  loadWithin (by have := accessLength_le length; omega)

lemma store {length value : BitVec 32} (h : index + 4 ≤ b.size) :
    NoOverrun (b.store index length value) :=
  fill (by have := accessLength_le length; omega)

lemma putBytes {c : AtaController} {bytes : List (BitVec 8)}
    (h : index + bytes.length ≤ c.buffer.size) : NoOverrun (c.putBytes index bytes) :=
  bind (fill h) fun _ _ => ok _

end NoOverrun

/-! ## Drives with their buffers -/

/-- What `HardDiskInitialize` allocates for a drive of a type. -/
def DriveType.allocation : DriveType → ℕ
  | .none => 0
  | .cdrom => 2356
  | .disk => maxMultipleSectors * hardDiskSectorSize + 6

/-- The drive is in a command for its type, its block of data is no larger than it may be, and it
has the buffer of its type. -/
structure AtaDrive.Sound (d : AtaDrive) : Prop where
  suited : d.Suited
  fits : d.Fits
  allocated : d.controller.buffer.size = d.driveType.allocation

lemma AtaDrive.Step.sound {d d' : AtaDrive} (h : d.Step True d') (hd : d.Sound) : d'.Sound :=
  ⟨h.suited hd.suited, h.fits trivial hd.fits,
    h.allocated.trans (hd.allocated.trans (congrArg DriveType.allocation h.driveType.symm))⟩

/-- The drives are sound, and `ReadFile` delivers no more of a frame than it is asked for. -/
structure HardDisk.Sound (s : HardDisk) : Prop where
  drives : s.EveryDrive AtaDrive.Sound
  frames : ∀ x, (s.cdRom.frame x).length ≤ cdRomFrameSize

namespace HardDisk.Sound

variable {s t : HardDisk} {ch : Fin 4}

lemma moves (h : Moves True s t) (hs : s.Sound) : t.Sound :=
  ⟨fun ch n => (h.drives ch n).sound (hs.drives ch n), fun x => by rw [h.cdRom]; exact hs.frames x⟩

/-- The buffer of a disk. -/
lemma disk (hs : s.Sound) (htype : (s.drive ch).driveType = .disk) :
    (s.controller ch).bufferSize.toNat ≤ 8192 ∧ (s.controller ch).buffer.size = 8198 := by
  have hsound := hs.drives.selected ch
  have hfits := hsound.fits
  have hallocated := hsound.allocated
  unfold AtaDrive.Fits at hfits
  rw [htype] at hfits hallocated
  exact ⟨hfits, hallocated⟩

/-- The buffer of a CD-ROM. -/
lemma cdrom (hs : s.Sound) (htype : (s.drive ch).driveType = .cdrom) :
    (s.controller ch).bufferSize.toNat ≤ 2352 ∧ (s.controller ch).buffer.size = 2356 := by
  have hsound := hs.drives.selected ch
  have hfits := hsound.fits
  have hallocated := hsound.allocated
  unfold AtaDrive.Fits at hfits
  rw [htype] at hfits hallocated
  exact ⟨hfits, hallocated⟩

end HardDisk.Sound

/-! ## Sector transfers -/

namespace NoOverrun

variable {s t : HardDisk} {ch : Fin 4}

lemma size_sectorPass (d : AtaDrive) (x : BitVec 64) :
    (d.incrementAddress x).1.controller.buffer.size = d.controller.buffer.size :=
  (HardDisk.Moves.incrementAddress (P := True) d x).allocated

lemma readSectorLoop {n i : ℕ} {d : AtaDrive} {image : DiskImage}
    (h : i + n * 512 ≤ d.controller.buffer.size) : NoOverrun (readSectorLoop n i (d, image)) := by
  induction n generalizing i d image with
  | zero => exact ok _
  | succ n ih =>
      rw [Svmm.readSectorLoop]
      refine bind (fill ?_) fun buffer hfill => ih ?_
      · rw [hardDiskSectorSize]
        omega
      · have hsize := HardDisk.Moves.size_of_fill hfill
        rw [hardDiskSectorSize]
        refine le_trans ?_ (size_sectorPass _ _).symm.le
        simp only [hsize]
        omega

lemma writeSectorLoop {n i : ℕ} {d : AtaDrive} {image : DiskImage}
    (h : i + n * 512 ≤ d.controller.buffer.size) : NoOverrun (writeSectorLoop n i (d, image)) := by
  induction n generalizing i d image with
  | zero => exact ok _
  | succ n ih =>
      rw [Svmm.writeSectorLoop]
      refine ite (fun _ => ok _) fun _ => bind (slice ?_) fun block _ => ?_
      · rw [hardDiskSectorSize]
        omega
      · refine ite (fun _ => ok _) fun _ => ih ?_
        rw [hardDiskSectorSize]
        refine le_trans ?_ (size_sectorPass _ _).symm.le
        omega

/-- The passes of a loop over a block that fits the buffer of a disk do. -/
lemma sectorPasses_le {bufferSize : BitVec 32} (h : bufferSize.toNat ≤ 8192) :
    sectorPasses bufferSize * 512 ≤ 8192 := by
  rw [sectorPasses, hardDiskSectorSize]
  omega

lemma readSector (hs : s.Sound) (htype : (s.drive ch).driveType = .disk) :
    NoOverrun (hardDiskReadSector ch s) := by
  obtain ⟨hfits, hallocated⟩ := hs.disk htype
  refine bind (readSectorLoop ?_) fun _ _ => ok _
  have hpasses := sectorPasses_le hfits
  show 0 + _ ≤ (s.controller ch).buffer.size
  omega

lemma writeSector (hs : s.Sound) (htype : (s.drive ch).driveType = .disk) :
    NoOverrun (hardDiskWriteSector ch s) := by
  obtain ⟨hfits, hallocated⟩ := hs.disk htype
  refine bind (writeSectorLoop ?_) fun r _ => ite (fun _ => ok _) fun _ => ok _
  have hpasses := sectorPasses_le hfits
  show 0 + _ ≤ (s.controller ch).buffer.size
  omega

/-! ## The command register -/

/-- A sector command that has sized its first block, one that fits. -/
lemma started {ext : BitVec 8} {multiple : Bool} (hs : s.Sound)
    (htype : (s.drive ch).driveType = .disk)
    (hfits : multiple = true → ((s.controller ch).lba48Transform ext).MultipleFits) :
    ((s.modifyController ch (AtaController.lba48Transform ext)).modifyController ch
        (AtaController.startBlock multiple)).Sound ∧
      (((s.modifyController ch (AtaController.lba48Transform ext)).modifyController ch
        (AtaController.startBlock multiple)).drive ch).driveType = .disk := by
  have hext : Moves True s (s.modifyController ch (AtaController.lba48Transform ext)) :=
    Moves.modifyController (AtaController.quiet_lba48Transform _ ext)
  have hdisk : ((s.modifyController ch (AtaController.lba48Transform ext)).drive ch).driveType =
      .disk := (Moves.driveType_lba48Transform ext).trans htype
  refine ⟨hs.moves (hext.trans (Moves.startBlock hdisk fun _ hmultiple => ?_)), ?_⟩
  · rw [HardDisk.controller_modifyController]
    exact hfits hmultiple
  · rw [HardDisk.drive_modifyController]
    exact hdisk

lemma driveType_startRead (d : AtaDrive) (address : BitVec 64) (value : BitVec 32) :
    (d.startRead address value).driveType = d.driveType := by
  simp [AtaDrive.startRead]

lemma driveType_startWrite (d : AtaDrive) (address : BitVec 64) (value : BitVec 32) :
    (d.startWrite address value).driveType = d.driveType := by
  simp [AtaDrive.startWrite]

lemma readCommand {ext : BitVec 8} {value : BitVec 32} (hs : s.Sound)
    (hvalue : DriveType.disk.Suits (value.setWidth 8))
    (hfits : (s.drive ch).driveType = .disk →
      ¬ ((s.controller ch).addressMode = 0 ∧ (s.controller ch).headNumber = 0 ∧
        (s.controller ch).cylinderNumber = 0 ∧ (s.controller ch).sectorNumber = 0) →
      IsCommand value readMultiples → ((s.controller ch).lba48Transform ext).MultipleFits) :
    NoOverrun (hardDiskReadCommand ch ext value s) := by
  simp only [hardDiskReadCommand]
  refine ite (fun _ => ok _) fun htype => ite (fun _ => ok _) fun haddress =>
    ite (fun _ => ok _) fun _ => ite (fun _ => ok _) fun _ => ?_
  obtain ⟨hstarted, hdisk⟩ := started hs (not_not.mp htype) fun hmultiple =>
    hfits (not_not.mp htype) haddress (of_decide_eq_true hmultiple)
  refine bind (readSector (hstarted.moves (Moves.startRead hdisk hvalue)) ?_) fun r _ => ?_
  · rw [HardDisk.drive_modifyDrive, driveType_startRead, hdisk]
  · obtain ⟨v, temp⟩ := r
    simp only
    split
    · exact ret _
    · exact ret _

lemma writeCommand {ext : BitVec 8} {value : BitVec 32} (hs : s.Sound)
    (hvalue : DriveType.disk.Suits (value.setWidth 8))
    (hfits : (s.drive ch).driveType = .disk → IsCommand value writeMultiples →
      ((s.controller ch).lba48Transform ext).MultipleFits) :
    NoOverrun (hardDiskWriteCommand ch ext value s) := by
  simp only [hardDiskWriteCommand]
  refine ite (fun _ => ok _) fun htype => ite (fun _ => ok _) fun _ =>
    ite (fun _ => ok _) fun _ => ?_
  obtain ⟨hstarted, hdisk⟩ := started hs (not_not.mp htype) fun hmultiple =>
    hfits (not_not.mp htype) (of_decide_eq_true hmultiple)
  refine bind (writeSector (hstarted.moves (Moves.startWrite hdisk hvalue)) ?_) fun r _ => ?_
  · rw [HardDisk.drive_modifyDrive, driveType_startWrite, hdisk]
  · obtain ⟨v, temp⟩ := r
    simp only
    split
    · exact ret _
    · exact ret _

lemma sendDriveId (h : 512 ≤ (s.controller ch).buffer.size) :
    NoOverrun (hardDiskSendDriveId ch s) :=
  bind (fill (by omega)) fun _ _ => ok _

lemma identify {value : BitVec 32} (hs : s.Sound) : NoOverrun (hardDiskIdentify ch value s) := by
  unfold hardDiskIdentify
  cases htype : (s.drive ch).driveType with
  | none => exact ok _
  | cdrom => exact ok _
  | disk =>
      refine sendDriveId ?_
      have hallocated := (hs.disk htype).2
      rw [HardDisk.controller_modifyDrive]
      have hsize (d : AtaDrive) (words : List (ℕ × BitVec 16)) :
          (d.identified words).controller.buffer.size = d.controller.buffer.size := by
        unfold AtaDrive.identified
        split <;> rfl
      rw [hsize, HardDisk.drive_modifyController]
      show 512 ≤ ((s.controller ch).identifying value).buffer.size
      simp only [AtaController.identifying, AtaController.buffer_setStatus,
        AtaController.buffer_clearStatus]
      omega

lemma atapiIdentify {value : BitVec 32} (hs : s.Sound) :
    NoOverrun (hardDiskAtapiIdentify ch value s) := by
  unfold hardDiskAtapiIdentify
  refine ite (fun _ => ok _) fun htype => sendDriveId ?_
  have hallocated := (hs.cdrom (not_not.mp htype)).2
  rw [HardDisk.controller_modifyDrive]
  have hsize (d : AtaDrive) (words : List (ℕ × BitVec 16)) :
      (d.identified words).controller.buffer.size = d.controller.buffer.size := by
    unfold AtaDrive.identified
    split <;> rfl
  rw [hsize, HardDisk.drive_modifyController]
  show 512 ≤ ((s.controller ch).identifying value).buffer.size
  simp only [AtaController.identifying, AtaController.buffer_setStatus,
    AtaController.buffer_clearStatus]
  omega

lemma setDriveParameters : NoOverrun (hardDiskSetDriveParameters ch s) := by
  simp only [hardDiskSetDriveParameters]
  exact ite (fun _ => ok _) fun _ => ite (fun _ => ok _) fun _ => ite (fun _ => exit) fun _ =>
    ite (fun _ => ok _) fun _ => ok _

/-- The switch of the command register. -/
lemma command {value : BitVec 32} (hs : s.Sound) (hfits : s.CommandFits ch value) :
    NoOverrun (hardDiskCommand ch value s) := by
  unfold hardDiskCommand
  refine ite (fun _ => ok _) fun _ => ite (fun hvalue => ?_) fun _ => ite (fun hvalue => ?_)
    fun _ => ite (fun _ => ok _) fun _ => ite (fun _ => ok _) fun _ => ite (fun hvalue => ?_)
    fun _ => ite (fun hvalue => ?_) fun _ => ite (fun _ => ok _) fun _ =>
    ite (fun _ => setDriveParameters) fun _ => ite (fun _ => identify hs) fun _ =>
    ite (fun _ => ok _) fun _ => ite (fun _ => ok _) fun _ => ite (fun _ => ok _) fun _ =>
    ite (fun _ => atapiIdentify hs) fun _ => ?_
  · refine readCommand hs (Moves.suits_of_isCommand (by decide) hvalue)
      fun htype haddress hmultiple => ?_
    have hext : Moves.multipleExt value = 1 := if_pos (Moves.isCommand_append_left _ hvalue)
    have h := hfits htype (Moves.isCommand_append_left _ hmultiple) fun hzero => haddress hzero.2
    rwa [hext] at h
  · refine readCommand hs (Moves.suits_of_isCommand (by decide) hvalue)
      fun htype haddress hmultiple => ?_
    have hext : Moves.multipleExt value = 0 :=
      Moves.multipleExt_of_28 (Moves.isCommand_append_left _ hvalue)
    have h := hfits htype (Moves.isCommand_append_left _ hmultiple) fun hzero => haddress hzero.2
    rwa [hext] at h
  · refine writeCommand hs (Moves.suits_of_isCommand (by decide) hvalue) fun htype hmultiple => ?_
    have hext : Moves.multipleExt value = 1 := if_pos (Moves.isCommand_append_right _ hvalue)
    have h := hfits htype (Moves.isCommand_append_right _ hmultiple) fun hread =>
      Moves.not_readMultiple_of_write (Moves.isCommand_append_right _ hvalue) hread.1
    rwa [hext] at h
  · refine writeCommand hs (Moves.suits_of_isCommand (by decide) hvalue) fun htype hmultiple => ?_
    have hext : Moves.multipleExt value = 0 :=
      Moves.multipleExt_of_28 (Moves.isCommand_append_right _ hvalue)
    have h := hfits htype (Moves.isCommand_append_right _ hmultiple) fun hread =>
      Moves.not_readMultiple_of_write (Moves.isCommand_append_left _ hvalue) hread.1
    rwa [hext] at h
  · exact ite (fun _ => ok _) fun _ => ite (fun _ => ok _) fun _ => ite (fun _ => ok _) fun _ =>
      ite (fun _ => ok _) fun _ => ite (fun _ => ok _) fun _ => ite (fun _ => ok _) fun _ =>
      ite (fun _ => ok _) fun _ => ite (fun _ => ok _) fun _ => ite (fun _ => ok _) fun _ =>
      ite (fun _ => ok _) fun _ => ok _

lemma writeCommandRegister {value : BitVec 32} (hs : s.Sound)
    (hfits : (s.channel ch).dnum = 0 → (s.controller ch).hasStatus ideStatusBusy = false →
      s.CommandFits ch value) : NoOverrun (hardDiskWriteCommandRegister ch value s) := by
  simp only [hardDiskWriteCommandRegister]
  refine ite (fun _ => ok _) fun hdnum => ite (fun _ => ok _) fun hbusy => ?_
  have hclear : Moves True s (Moves.switched ch s) :=
    Moves.lowerIrq.trans (Moves.modifyController (AtaController.Quiet.clearStatus _ _))
  refine command (hs.moves hclear) ?_
  split
  · intro htype hvalue
    exact absurd hvalue (by decide)
  · exact Moves.commandFits_switched (hfits (not_not.mp hdnum) (Bool.eq_false_iff.mpr hbusy))

/-! ## The data port, sectors and identifications -/

lemma readIdentity {length : BitVec 32}
    (h : (s.controller ch).bufferIndex.toNat + AtaBuffer.accessLength length ≤
      (s.controller ch).buffer.size) :
    NoOverrun (hardDiskReadIdentity ch length s) := by
  simp only [hardDiskReadIdentity]
  refine bind (loadWithin ?_) fun _ _ => ok _
  split
  · simpa using h
  · simpa using h

lemma blockEmptied (hs : s.Sound) (htype : (s.drive ch).driveType = .disk)
    (hidle : (s.controller ch).hasStatus ideStatusBusy = false) :
    NoOverrun (hardDiskBlockEmptied ch s) := by
  unfold hardDiskBlockEmptied
  refine ite (fun _ => bind (readSector (hs.moves (Moves.requestBlock hidle)) ?_) fun _ _ => ret _)
    fun _ => ret _
  rw [HardDisk.drive_modifyController]
  exact htype

lemma bytesTaken (hs : s.Sound) (htype : (s.drive ch).driveType = .disk)
    (hfits : ¬ (s.controller ch).bufferIndex < (s.controller ch).bufferSize →
      (s.controller ch).currentCommand ∈ readMultiples → (s.controller ch).MultipleFits) :
    NoOverrun (hardDiskBytesTaken ch s) := by
  unfold hardDiskBytesTaken
  refine ite (fun _ => ok _) fun hend => ?_
  refine blockEmptied (hs.moves (Moves.modifyDrive (Moves.endOfBlockRead (s.drive ch) htype
    fun _ => hfits hend))) ?_ ?_
  · rw [HardDisk.drive_modifyDrive]
    exact (s.drive ch).endOfBlockRead_registers.driveType.trans htype
  · rw [HardDisk.controller_modifyDrive]
    exact Moves.not_busy_endOfBlockRead _

lemma readData {length : BitVec 32} (hs : s.Sound) (htype : (s.drive ch).driveType = .disk)
    (hfits : (s.controller ch).bufferIndex < (s.controller ch).bufferSize →
      ¬ (s.controller ch).bufferSize < (s.controller ch).bufferIndex + length →
      ¬ (s.controller ch).bufferIndex + length < (s.controller ch).bufferSize →
      (s.controller ch).currentCommand ∈ readMultiples → (s.controller ch).MultipleFits) :
    NoOverrun (hardDiskReadData ch length s) := by
  simp only [hardDiskReadData]
  refine ite (fun _ => exit) fun hunread => ite (fun _ => ok _) fun hrest => ?_
  obtain ⟨hblock, hallocated⟩ := hs.disk htype
  rw [BitVec.le_def] at hunread
  refine bind (load (by omega)) fun _ _ => bind (bytesTaken (hs.moves (Moves.advance length)) ?_
    fun hend hmultiple => ?_) fun _ _ => ret _
  · rw [HardDisk.drive_modifyController]
    exact htype
  · rw [HardDisk.controller_modifyController] at hend hmultiple ⊢
    exact hfits (by rw [BitVec.lt_def]; omega) hrest hend hmultiple

lemma blockFilled (hs : s.Sound) (htype : (s.drive ch).driveType = .disk) :
    NoOverrun (hardDiskBlockFilled ch s) := by
  refine bind (writeSector hs htype) fun r _ => ?_
  obtain ⟨t, temp⟩ := r
  simp only
  split
  · exact ret _
  · exact ret _

lemma writeData {value length : BitVec 32} (hs : s.Sound) (htype : (s.drive ch).driveType = .disk) :
    NoOverrun (hardDiskWriteData ch value length s) := by
  simp only [hardDiskWriteData]
  refine ite (fun _ => exit) fun hunread => ?_
  obtain ⟨hblock, hallocated⟩ := hs.disk htype
  rw [BitVec.le_def] at hunread
  refine bind (store (by omega)) fun buffer hstore => ite (fun _ => ret _) fun _ =>
    blockFilled ?_ ?_
  · have hsize : buffer.size = (s.controller ch).buffer.size := Moves.size_of_fill hstore
    exact hs.moves (Moves.modifyController ⟨hsize, rfl, .inl rfl, id⟩)
  · rw [HardDisk.drive_modifyController]
    exact htype

/-! ## The data port, packets -/

/-- The buffer of a controller that only quiet steps have led to. -/
lemma putBytes_quiet {c c' : AtaController} {index : ℕ} {bytes : List (BitVec 8)} (h : c.Quiet c')
    (hsize : index + bytes.length ≤ c.buffer.size) : NoOverrun (c'.putBytes index bytes) :=
  putBytes (hsize.trans h.allocated.symm.le)

lemma reply {command : BitVec 8} {reqLength allocLength : BitVec 32} {index : ℕ}
    {bytes : List (BitVec 8)} (h : index + bytes.length ≤ (s.controller ch).buffer.size) :
    NoOverrun (hardDiskReply ch command reqLength allocLength index bytes s) :=
  bind (putBytes_quiet (AtaController.quiet_initAtapiCommand _ _ _ _) h) fun _ _ => ret _

lemma initModeSense {c : AtaController} {source : Bool} {size : ℕ}
    (h : size + 16 ≤ c.buffer.size) : NoOverrun (c.initModeSense source size) := by
  refine bind (putBytes ?_) fun c₁ h₁ => ?_
  · rw [List.length_replicate]
    omega
  have hquiet₁ := Moves.quiet_putBytes h₁
  refine bind (putBytes_quiet hquiet₁ ?_) fun c₂ h₂ => ?_
  · show 0 + 3 ≤ _
    omega
  have hquiet₂ := hquiet₁.trans (Moves.quiet_putBytes h₂)
  cases source with
  | false =>
      refine putBytes_quiet hquiet₂ ?_
      show 8 + 8 ≤ _
      omega
  | true =>
      refine bind (slice ?_) fun kept hkept => putBytes_quiet hquiet₂ ?_
      · rw [hquiet₂.allocated]
        omega
      · have hlength : kept.length = size := by
          unfold AtaBuffer.slice at hkept
          split at hkept
          · rw [← Except.ok.inj hkept, List.length_map, List.length_range]
          · cases hkept
        rw [hlength]
        omega

lemma modeSense {command : BitVec 8} (h : 44 ≤ (s.controller ch).buffer.size) :
    NoOverrun (hardDiskModeSense ch command s) := by
  have hinit (req alloc : BitVec 32) :=
    AtaController.quiet_initAtapiCommand (s.controller ch) command req alloc
  simp only [hardDiskModeSense]
  refine ite (fun _ => ?_) fun _ => ite (fun _ => ?_) fun _ => ite (fun _ => ok _) fun _ => ok _
  · refine bind (initModeSense ?_) fun c hc => bind (putBytes_quiet
      ((hinit _ _).trans (Moves.quiet_initModeSense hc)) ?_) fun _ _ => ret _
    · rw [(hinit _ _).allocated]
      omega
    · show 8 + 20 ≤ _
      omega
  · refine bind (initModeSense ?_) fun _ _ => ret _
    rw [(hinit _ _).allocated]
    omega

/-- No table of contents is longer than 48 bytes. -/
lemma length_cdRomToc {capacity : BitVec 64} {msf : Bool} {startTrack format : BitVec 8}
    {bytes : List (BitVec 8)} (h : cdRomToc capacity msf startTrack format = some bytes) :
    bytes.length ≤ 48 := by
  have hmsf (blocks : BitVec 32) :
      (if msf = true then msfAddress blocks else bigEndian32 blocks).length = 4 := by
    cases msf <;> rfl
  have hentry (blocks : BitVec 32) (i : ℕ) : (rawTocEntry blocks msf i).length = 11 := by
    have htail : (if i < 2 then [0, 1, 0, 0] else if i = 2 then
        if msf then msfAddress blocks else bigEndian32 blocks else [0, 0, 0, 0]).length = 4 := by
      split
      · rfl
      split
      · exact hmsf blocks
      · rfl
    rw [rawTocEntry, List.length_append, htail]
    rfl
  simp only [cdRomToc] at h
  split at h
  · split at h
    · cases h
    · obtain rfl := Option.some.inj h
      split
      · simp only [List.length_append, List.length_cons, List.length_nil, hmsf]
        cases msf <;> decide
      · simp only [List.length_append, List.length_cons, List.length_nil, hmsf]
        decide
  split at h
  · obtain rfl := Option.some.inj h
    decide
  split at h
  · obtain rfl := Option.some.inj h
    simp only [List.length_append, List.length_cons, List.length_nil, List.length_flatMap, hentry]
    decide
  · cases h

lemma readToc {command : BitVec 8} (h : 48 ≤ (s.controller ch).buffer.size) :
    NoOverrun (hardDiskReadToc ch command s) := by
  simp only [hardDiskReadToc]
  refine ite (fun _ => exit) fun _ => ?_
  cases htoc : cdRomToc s.cdRom.capacity
      (decide ((s.controller ch).packet 1 >>> 1 &&& 1 ≠ 0)) ((s.controller ch).packet 6)
      ((s.controller ch).packet 9 >>> 6) with
  | none => exact ok _
  | some bytes =>
      refine bind (putBytes ?_) fun _ _ => ite (fun _ => ret _) fun _ => ret _
      have hlength := length_cdRomToc htoc
      omega

lemma getEventStatus {command : BitVec 8} (h : 8 ≤ (s.controller ch).buffer.size) :
    NoOverrun (hardDiskGetEventStatus ch command s) := by
  simp only [hardDiskGetEventStatus]
  refine ite (fun _ => ok _) fun _ => bind (putBytes ?_) fun _ _ => ret _
  split
  · exact h
  · show 0 + 4 ≤ _
    omega

lemma requestSense {command : BitVec 8} (h : 18 ≤ (s.controller ch).buffer.size) :
    NoOverrun (hardDiskRequestSense ch command s) := by
  simp only [hardDiskRequestSense]
  exact bind (putBytes_quiet (AtaController.quiet_initAtapiCommand _ _ _ _) h) fun _ _ => ret _

/-- The switch on the command of a packet. -/
lemma packet (h : 48 ≤ (s.controller ch).buffer.size) : NoOverrun (hardDiskPacket ch s) := by
  simp only [hardDiskPacket]
  refine ite (fun _ => ok _) fun _ => ite (fun _ => ite (fun _ => ok _) fun _ => reply ?_) fun _ =>
    ite (fun _ => modeSense (by omega)) fun _ => ite (fun _ => reply ?_) fun _ =>
    ite (fun _ => requestSense (by omega)) fun _ => ite (fun _ => reply ?_) fun _ =>
    ite (fun _ => ok _) fun _ => ite (fun _ => ok _) fun _ => ite (fun _ => readToc h) fun _ =>
    ite (fun _ => ite (fun _ => ok _) fun _ => ok _) fun _ => ite (fun _ => ok _) fun _ =>
    ite (fun _ => bind (putBytes ?_) fun _ _ => ret _) fun _ => ite (fun _ => ok _) fun _ =>
    ite (fun _ => getEventStatus (by omega)) fun _ => ok _
  · exact le_trans (by decide) h
  · exact le_trans (by decide) h
  · show 0 + 8 ≤ _
    omega
  · exact le_trans (by decide) h

lemma writePacket {value length : BitVec 32} (hs : s.Sound)
    (htype : (s.drive ch).driveType = .cdrom) :
    NoOverrun (hardDiskWritePacket ch value length s) := by
  obtain ⟨-, hallocated⟩ := hs.cdrom htype
  simp only [hardDiskWritePacket]
  refine ite (fun _ => ok _) fun hunread => ?_
  have hindex : (s.controller ch).bufferIndex.toNat ≤ 12 := by
    rw [BitVec.lt_def] at hunread
    exact not_lt.mp hunread
  refine bind (store (by omega)) fun buffer hstore => ite (fun _ => ret _) fun _ => packet ?_
  have hsize : buffer.size = (s.controller ch).buffer.size := Moves.size_of_fill hstore
  rw [HardDisk.controller_modifyController]
  show 48 ≤ buffer.size
  omega

lemma cdRomReadBlock {cdRom : CdRom} {c : AtaController} (hsize : c.buffer.size = 2356)
    (hframe : (cdRom.frame c.lbAddress).length ≤ 2048) : NoOverrun (cdRomReadBlock cdRom c) := by
  simp only [Svmm.cdRomReadBlock]
  refine ite (fun _ => ?_) fun _ => bind (putBytes (by omega)) fun _ _ => ret _
  refine bind (putBytes ?_) fun c₁ h₁ => ?_
  · rw [List.length_replicate, hsize]
    decide
  have hquiet₁ := Moves.quiet_putBytes h₁
  refine bind (putBytes_quiet hquiet₁ ?_) fun c₂ h₂ => ?_
  · rw [List.length_replicate, hsize]
    decide
  have hquiet₂ := hquiet₁.trans (Moves.quiet_putBytes h₂)
  refine bind (putBytes_quiet hquiet₂ ?_) fun c₃ h₃ => ?_
  · show 12 + 4 ≤ _
    omega
  have hquiet₃ := hquiet₂.trans (Moves.quiet_putBytes h₃)
  refine bind (putBytes_quiet hquiet₃ ?_) fun _ _ => ret _
  omega

lemma nextBlock {cdRom : CdRom} {c : AtaController} (hsize : c.buffer.size = 2356)
    (hframe : (cdRom.frame c.lbAddress).length ≤ 2048) : NoOverrun (hardDiskNextBlock cdRom c) := by
  unfold hardDiskNextBlock
  refine ite (fun _ => bind (cdRomReadBlock hsize hframe) fun r _ => ?_) fun _ => ret _
  obtain ⟨count, c'⟩ := r
  exact ite (fun _ => exit) fun _ => ret _

lemma readReply {length : BitVec 32} (hs : s.Sound) (htype : (s.drive ch).driveType = .cdrom) :
    NoOverrun (hardDiskReadReply ch length s) := by
  obtain ⟨hblock, hallocated⟩ := hs.cdrom htype
  simp only [hardDiskReadReply]
  refine bind (nextBlock hallocated (hs.frames _)) fun c hnext =>
    ite (fun _ => ret _) fun hunread => ?_
  have hquiet := Moves.quiet_nextBlock hnext
  have hindex : c.bufferIndex.toNat ≤ 2352 := by
    rw [BitVec.lt_def, hquiet.bufferSize] at hunread
    omega
  refine bind (load ?_) fun _ _ => ite (fun _ => ret _) fun _ => ret _
  rw [hquiet.allocated]
  omega

end NoOverrun

/-! ## Port accesses -/

/-- A data read of an identification begins so far before the end of what is allocated for the
drive that its width fits. -/
def HardDisk.IdentityFits (ch : Fin 4) (length : BitVec 32) (s : HardDisk) : Prop :=
  (s.controller ch).hasStatus ideStatusDevReq = true →
    (s.controller ch).currentCommand ∈ [ideCommandIdentify, ideCommandAtapiIdentify] →
    (s.controller ch).bufferIndex.toNat + AtaBuffer.accessLength length ≤
      (s.drive ch).driveType.allocation

/-- The blocks of `MULTIPLE` transfers fit, and identifications are not read from further on. -/
def DiskEvent.InBuffer (s : HardDisk) (a : DiskEvent) : Prop :=
  a.Fits s ∧
    match a with
    | .portRead address length =>
        (s.decode address).2 = 0 → s.IdentityFits (s.decode address).1 length
    | _ => True

instance (ch : Fin 4) (length : BitVec 32) (s : HardDisk) : Decidable (s.IdentityFits ch length) :=
  inferInstanceAs (Decidable (_ → _ → _))

instance (s : HardDisk) (a : DiskEvent) : Decidable (a.InBuffer s) :=
  match a with
  | .portWrite _ _ _ => inferInstanceAs (Decidable (DiskEvent.Fits s _ ∧ True))
  | .portRead address length =>
      inferInstanceAs (Decidable (DiskEvent.Fits s _ ∧
        ((s.decode address).2 = 0 → s.IdentityFits (s.decode address).1 length)))
  | .seekTimer => inferInstanceAs (Decidable (DiskEvent.Fits s _ ∧ True))
  | .bdmaComplete _ => inferInstanceAs (Decidable (DiskEvent.Fits s _ ∧ True))
  | .bmdmaRead _ => inferInstanceAs (Decidable (DiskEvent.Fits s _ ∧ True))
  | .bmdmaWrite _ => inferInstanceAs (Decidable (DiskEvent.Fits s _ ∧ True))

/-- The event is an access of a port. -/
def DiskEvent.IsPortAccess : DiskEvent → Prop
  | .portWrite _ _ _ => True
  | .portRead _ _ => True
  | _ => False

/-- The block of data is within the drive's buffer. -/
def AtaDrive.InAllocation (d : AtaDrive) : Prop :=
  d.controller.bufferSize.toNat ≤ d.controller.buffer.size

lemma AtaDrive.Sound.inAllocation {d : AtaDrive} (h : d.Sound) : d.InAllocation := by
  have hlimit : d.driveType.blockLimit ≤ d.driveType.allocation := by
    cases d.driveType <;> decide
  rw [AtaDrive.InAllocation, h.allocated]
  exact h.fits.trans hlimit

namespace NoOverrun

variable {s t : HardDisk} {ch : Fin 4}

lemma readDataPort {length : BitVec 32} (hs : s.Sound) (hfits : s.ReadFits ch length)
    (hidentity : s.IdentityFits ch length) : NoOverrun (hardDiskReadDataPort ch length s) := by
  have hsound := hs.drives.selected ch
  simp only [hardDiskReadDataPort]
  refine ite (fun _ => ok _) fun hreq => ite (fun hread => ?_) fun _ => ite (fun hidentify => ?_)
    fun _ => ite (fun hpacket => ?_) fun _ => ok _
  · refine readData hs (Moves.disk_of_suited hsound.suited (List.mem_append_left _ hread)) ?_
    exact fun hunread hrest hend hmultiple =>
      hfits (by simpa using hreq) hmultiple hunread hrest hend
  · have hallocated : (s.controller ch).buffer.size = _ := hsound.allocated
    refine readIdentity ?_
    rw [hallocated]
    exact hidentity (by simpa using hreq) hidentify
  · exact readReply hs (Moves.cdrom_of_suited hsound.suited hpacket)

lemma writeDataPort {value length : BitVec 32} (hs : s.Sound) :
    NoOverrun (hardDiskWriteDataPort ch value length s) := by
  have hsound := hs.drives.selected ch
  simp only [hardDiskWriteDataPort]
  refine ite (fun hwrite => ?_) fun _ => ite (fun hpacket => ?_) fun _ => ok _
  · exact writeData hs (Moves.disk_of_suited hsound.suited (List.mem_append_right _ hwrite))
  · exact writePacket hs (Moves.cdrom_of_suited hsound.suited hpacket)

lemma portWrite {address value length : BitVec 32} (hs : s.Sound)
    (hfits : DiskEvent.Fits s (.portWrite address value length)) :
    NoOverrun (hardDiskPortIoWriteHandler address value length s) := by
  simp only [hardDiskPortIoWriteHandler]
  simp only [DiskEvent.Fits] at hfits
  refine ite (fun _ => writeDataPort hs) fun _ => ite (fun _ => ok _) fun _ =>
    ite (fun _ => ok _) fun _ => ite (fun _ => ok _) fun _ => ite (fun _ => ok _) fun _ =>
    ite (fun _ => ok _) fun _ => ite (fun _ => ok _) fun _ => ite (fun hseven => ?_) fun _ =>
    ite (fun _ => ok _) fun _ => ok _
  exact writeCommandRegister hs (hfits.2 hseven)

lemma portRead {address length : BitVec 32} (hs : s.Sound)
    (hfits : DiskEvent.InBuffer s (.portRead address length)) :
    NoOverrun (hardDiskPortIoReadHandler address length s) := by
  simp only [hardDiskPortIoReadHandler]
  simp only [DiskEvent.InBuffer, DiskEvent.Fits] at hfits
  refine ite (fun hzero => readDataPort hs (hfits.1 hzero) (hfits.2 hzero)) fun _ =>
    ite (fun _ => ok _) fun _ => ite (fun _ => ok _) fun _ => ite (fun _ => ok _) fun _ =>
    ite (fun _ => ok _) fun _ => ite (fun _ => ok _) fun _ => ite (fun _ => ok _) fun _ =>
    ite (fun _ => ite (fun _ => ok _) fun _ => ok _) fun _ =>
    ite (fun _ => ite (fun _ => ok _) fun _ => ok _) fun _ => ite (fun _ => ok _) fun _ => ok _

/-- No port access that meets the condition leaves the buffer. -/
lemma portAccess {a : DiskEvent} (hs : s.Sound) (hfits : a.InBuffer s) (ha : a.IsPortAccess) :
    NoOverrun (hardDiskStep s a) := by
  cases a with
  | portWrite address value length => exact portWrite hs hfits.1
  | portRead address length => exact bind (portRead hs hfits) fun _ _ => ret _
  | seekTimer => exact ha.elim
  | bdmaComplete ch => exact ha.elim
  | bmdmaRead ch => exact ha.elim
  | bmdmaWrite ch => exact ha.elim

end NoOverrun

/-! ## Runs -/

lemma HardDisk.Sound.step {s t : HardDisk} {a : DiskEvent} (hs : s.Sound) (hfits : a.InBuffer s)
    (h : hardDiskStep s a = .ok t) : t.Sound :=
  hs.moves (Moves.event (fun ch => (hs.drives.selected ch).suited) (fun _ => hfits.1) h)

lemma HardDisk.Sound.powerOn {image : DiskImage} {cdRom : CdRom} {bdmaPresent : BitVec 32}
    (hframes : ∀ x, (cdRom.frame x).length ≤ cdRomFrameSize) :
    (hardDiskInitialize image cdRom bdmaPresent).Sound := by
  refine ⟨everyDrive_powerOn ?_ ?_ ?_, hframes⟩
  · exact ⟨DriveType.suits_zero _, Nat.zero_le _, rfl⟩
  · exact ⟨DriveType.suits_zero _, Nat.zero_le _, rfl⟩
  · exact ⟨DriveType.suits_zero _, Nat.zero_le _, rfl⟩

/-- In every run whose steps meet the condition, no drive's block of data is larger than its buffer,
and no port access touches a byte outside it. -/
theorem buffer_access_in_allocation (image : DiskImage) (cdRom : CdRom) (bdmaPresent : BitVec 32)
    (hframes : ∀ x, (cdRom.frame x).length ≤ cdRomFrameSize) (events : List DiskEvent)
    (hfits : Meets hardDiskStep DiskEvent.InBuffer (hardDiskInitialize image cdRom bdmaPresent)
      events) :
    Meets hardDiskStep (fun s a => s.EveryDrive AtaDrive.InAllocation ∧
        (a.IsPortAccess → hardDiskStep s a ≠ .error .bufferOverrun))
      (hardDiskInitialize image cdRom bdmaPresent) events ∧
    ∀ t, run hardDiskStep (hardDiskInitialize image cdRom bdmaPresent) events = .ok t →
      t.EveryDrive AtaDrive.InAllocation := by
  have hstep (s : HardDisk) (a : DiskEvent) (t : HardDisk) (hs : s.Sound) (ha : a.InBuffer s)
      (h : hardDiskStep s a = .ok t) : t.Sound := hs.step ha h
  have hwithin {s : HardDisk} (hs : s.Sound) : s.EveryDrive AtaDrive.InAllocation := fun ch n =>
    (hs.drives ch n).inAllocation
  have hinitial : (hardDiskInitialize image cdRom bdmaPresent).Sound :=
    HardDisk.Sound.powerOn hframes
  refine ⟨Meets.of_invariant hstep (fun s a hs ha => ?_) hinitial hfits, fun t ht => ?_⟩
  · exact ⟨hwithin hs, NoOverrun.portAccess hs ha⟩
  · exact hwithin (run_invariant hstep hinitial hfits ht)

/-- Two sectors are read as one block, and the first of its bytes taken. -/
theorem buffer_access_in_allocation_read :
    Meets hardDiskStep (fun s a => s.EveryDrive AtaDrive.InAllocation ∧
        (a.IsPortAccess → hardDiskStep s a ≠ .error .bufferOverrun))
      (hardDiskInitialize numberedImage ⟨0, fun _ => []⟩ 0)
      [.portWrite 0x1f6 0x40 1, .portWrite 0x1f2 2 1, .portWrite 0x1f7 0xc6 1,
        .portWrite 0x1f7 0xc4 1, .portRead 0x1f0 4] ∧
    ∀ t, run hardDiskStep (hardDiskInitialize numberedImage ⟨0, fun _ => []⟩ 0)
      [.portWrite 0x1f6 0x40 1, .portWrite 0x1f2 2 1, .portWrite 0x1f7 0xc6 1,
        .portWrite 0x1f7 0xc4 1, .portRead 0x1f0 4] = .ok t →
        t.EveryDrive AtaDrive.InAllocation := by
  have hfits : Meets hardDiskStep DiskEvent.InBuffer
      (hardDiskInitialize numberedImage ⟨0, fun _ => []⟩ 0)
      [.portWrite 0x1f6 0x40 1, .portWrite 0x1f2 2 1, .portWrite 0x1f7 0xc6 1,
        .portWrite 0x1f7 0xc4 1, .portRead 0x1f0 4] := by
    decide +kernel
  exact buffer_access_in_allocation numberedImage _ 0 (fun _ => Nat.zero_le _) _ hfits

/-- `SET MULTIPLE` takes 63 sectors, and `READ MULTIPLE` beyond the disk leaves a block of as
many. -/
theorem block_larger_than_buffer :
    ∃ t, run hardDiskStep (hardDiskInitialize numberedImage ⟨0, fun _ => []⟩ 0)
        [.portWrite 0x1f6 0x40 1, .portWrite 0x1f2 63 1, .portWrite 0x1f7 0xc6 1,
          .portWrite 0x1f4 1 1, .portWrite 0x1f7 0xc4 1] = .ok t ∧
      ((t.controller 0).bufferSize = 63 * 512 ∧ (t.controller 0).buffer.size = 8198) ∧
      ¬ t.EveryDrive AtaDrive.InAllocation := by
  have hends : ends (fun t : HardDisk => ((t.controller 0).bufferSize = 63 * 512 ∧
      (t.controller 0).buffer.size = 8198)) (run hardDiskStep
        (hardDiskInitialize numberedImage ⟨0, fun _ => []⟩ 0)
        [.portWrite 0x1f6 0x40 1, .portWrite 0x1f2 63 1, .portWrite 0x1f7 0xc6 1,
          .portWrite 0x1f4 1 1, .portWrite 0x1f7 0xc4 1]) = true := by
    decide +kernel
  obtain ⟨t, ht, hsize, hallocated⟩ := exists_of_ends _ hends
  refine ⟨t, ht, ⟨hsize, hallocated⟩, fun hwithin => ?_⟩
  have hdrive := hwithin.selected 0
  rw [AtaDrive.InAllocation, ← HardDisk.controller_eq_drive, hsize, hallocated] at hdrive
  exact absurd hdrive (by decide)

end Svmm
