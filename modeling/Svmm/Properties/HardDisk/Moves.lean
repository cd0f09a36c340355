import Svmm.Properties.HardDisk.Drives
import Svmm.Properties.HardDisk.Commands

/-!
# What the commands do to the drives

One lemma for each command, in the order of the source: the commands without a transfer, those for
one type of drive, the sector transfers, and the command register.
-/

namespace Svmm

open TransitionRun

/-- The next block of a `MULTIPLE` command has no more sectors than the buffer. -/
def AtaController.MultipleFits (c : AtaController) : Prop :=
  min c.multipleSectors.toNat c.numberOfSectors.toNat ≤ maxMultipleSectors

instance (c : AtaController) : Decidable c.MultipleFits :=
  inferInstanceAs (Decidable (_ ≤ _))

lemma AtaController.MultipleFits.block {c : AtaController} (h : c.MultipleFits) :
    c.multipleBlock.toNat ≤ maxMultipleSectors * hardDiskSectorSize := by
  rw [toNat_multipleBlock]
  exact Nat.mul_le_mul_right _ h

namespace HardDisk.Moves

variable {P : Prop} {s t : HardDisk} {ch : Fin 4}

/-! ## Commands without a transfer -/

lemma recalibrate : Moves P s (hardDiskRecalibrate ch s) := by
  unfold hardDiskRecalibrate
  split
  · exact commandAborted
  · refine (modifyController ?_).trans raiseInterrupt
    exact AtaController.quiet_of_no_request _ (by simp) (by simp) (by simp)
      (by simp [AtaController.hasStatus, ideStatusDevReq])

lemma verify (ext : BitVec 8) : Moves P s (hardDiskVerify ch ext s) := by
  unfold hardDiskVerify
  split
  · exact commandAborted
  · refine (modifyController ?_).trans raiseInterrupt
    exact (AtaController.quiet_lba48Transform _ ext).trans (AtaController.quiet_ready _)

lemma diagnostic : Moves P s (hardDiskDiagnostic ch s) := by
  unfold hardDiskDiagnostic
  refine ((setSignature _).trans (modifyDriveAt ?_)).trans raiseInterrupt
  exact AtaDrive.Step.of_quiet rfl (AtaController.quiet_of_no_request _ (by simp) (by simp)
    (by simp) (by simp [AtaController.hasStatus, ideStatusDevReq]))

lemma setDriveParameters (h : hardDiskSetDriveParameters ch s = .ok t) : Moves P s t := by
  simp only [hardDiskSetDriveParameters] at h
  split at h
  · obtain rfl := Except.ok.inj h
    exact commandAborted
  split at h
  · obtain rfl := Except.ok.inj h
    exact commandAborted
  split at h
  · cases h
  split at h
  · obtain rfl := Except.ok.inj h
    exact commandAborted
  · obtain rfl := Except.ok.inj h
    exact (modifyController (AtaController.quiet_ready _)).trans raiseInterrupt

lemma setFeature : Moves P s (hardDiskSetFeature ch s) := by
  simp only [hardDiskSetFeature]
  split
  · refine Moves.trans ?_ (modifyDrive (AtaDrive.Step.of_quiet rfl (AtaController.Quiet.refl _)))
    cases (s.controller ch).transferMode with
    | none => exact commandAborted
    | some modes =>
        refine (modifyController ?_).trans raiseInterrupt
        refine AtaController.Quiet.trans ?_ (AtaController.quiet_readySeekComp _)
        exact ⟨rfl, rfl, .inl rfl, id⟩
  · split
    · exact (modifyController (AtaController.quiet_readySeekComp _)).trans raiseInterrupt
    · exact refl P s

lemma setMultiple : Moves P s (hardDiskSetMultiple ch s) := by
  simp only [hardDiskSetMultiple]
  split
  · exact commandAborted
  split
  · exact commandAborted
  · refine (modifyController ?_).trans raiseInterrupt
    exact AtaController.quiet_of_no_request _ (by simp) (by simp) (by simp)
      (by simp [AtaController.hasStatus, ideStatusDevReq, ideStatusDriveRdy])

lemma atapiReset : Moves P s (hardDiskAtapiReset ch s) := by
  simp only [hardDiskAtapiReset]
  split
  · exact commandAborted
  · refine (setSignature _).trans (modifyDriveAt (AtaDrive.Step.of_quiet rfl ?_))
    exact AtaController.quiet_of_no_request _ (by simp) (by simp) (by simp) (by simp)

lemma powerCommand : Moves P s (hardDiskPowerCommand ch s) := by
  unfold hardDiskPowerCommand
  refine (modifyController ?_).trans raiseInterrupt
  exact AtaController.quiet_of_no_request _ (by simp) (by simp) (by simp) (by simp)

lemma readNativeAddress (ext : BitVec 8) : Moves P s (hardDiskReadNativeAddress ch ext s) := by
  simp only [hardDiskReadNativeAddress]
  split
  · exact commandAborted
  · refine (modifyController ?_).trans raiseInterrupt
    refine ((AtaController.quiet_lba48Transform _ ext).trans
      (AtaController.quiet_setLba _ (s.image.size / 512 - 1))).trans ?_
    split
    · refine AtaController.Quiet.trans ?_ (AtaController.quiet_readySeekComp _)
      exact ⟨rfl, rfl, .inl rfl, id⟩
    · exact AtaController.quiet_readySeekComp _

/-! ## Commands for a type of drive -/

/-- A command that its type of drive may be in, without a data request. -/
lemma start {f : AtaDrive → AtaDrive} (htype : (f (s.drive ch)).driveType = (s.drive ch).driveType)
    (hallocated : (f (s.drive ch)).controller.buffer.size = (s.controller ch).buffer.size)
    (hsize : (f (s.drive ch)).controller.bufferSize = (s.controller ch).bufferSize)
    (hexclusive : (f (s.drive ch)).controller.Conflict → (s.controller ch).Conflict)
    (hsuits : (s.drive ch).driveType.Suits (f (s.drive ch)).controller.currentCommand) :
    Moves P s (s.modifyDrive ch f) := by
  refine modifyDrive ⟨htype, hallocated, fun hc hc' => hc (hexclusive hc'), fun _ => ?_,
    fun _ hf => ?_⟩
  · rwa [AtaDrive.Suited, htype]
  · rwa [AtaDrive.Fits, htype, hsize]

/-- The data request goes with the drive no longer being busy. -/
lemma not_conflict_of_not_busy {c c' : AtaController} (h : c'.hasStatus ideStatusBusy = false) :
    c'.Conflict → c.Conflict := fun hc => by simp [hc.1] at h

lemma not_conflict_of_no_request {c c' : AtaController}
    (h : c'.hasStatus ideStatusDevReq = false) : c'.Conflict → c.Conflict := fun hc => by
  simp [hc.2] at h

/-- The buffer is stored to. -/
lemma size_of_fill {b b' : AtaBuffer} {index count : ℕ} {data : ℕ → BitVec 8}
    (h : b.fill index count data = .ok b') : b'.size = b.size := by
  unfold AtaBuffer.fill at h
  split at h
  · rw [← Except.ok.inj h]
  · cases h

/-- `DriveId` is copied to the buffer. -/
lemma sendDriveId (h : hardDiskSendDriveId ch s = .ok t) : Moves P s t := by
  obtain ⟨buffer, hfill, h⟩ := bind_eq_ok.mp h
  obtain rfl := Except.ok.inj h
  have hsize : buffer.size = (s.controller ch).buffer.size := size_of_fill hfill
  exact (modifyController ⟨hsize, rfl, .inl rfl, id⟩).trans raiseInterrupt

lemma identified (d : AtaDrive) (words : List (ℕ × BitVec 16)) :
    AtaDrive.Step P d (d.identified words) := by
  unfold AtaDrive.identified
  split
  · exact AtaDrive.Step.of_quiet rfl (AtaController.Quiet.refl _)
  · exact AtaDrive.Step.refl P d

/-- An identification starts: the drive is not busy. -/
lemma identifying {value : BitVec 32} (hsuits : (s.drive ch).driveType.Suits (value.setWidth 8)) :
    Moves P s (s.modifyController ch (AtaController.identifying value)) ∧
      Moves P s (s.modifyController ch fun c => { c.identifying value with bufferIndex := 0 }) := by
  have hbuffer (c : AtaController) : (c.identifying value).buffer = c.buffer := by
    simp [AtaController.identifying]
  have hsize (c : AtaController) : (c.identifying value).bufferSize = c.bufferSize := by
    simp [AtaController.identifying]
  have hcommand (c : AtaController) : (c.identifying value).currentCommand = value.setWidth 8 := by
    simp [AtaController.identifying]
  have hbusy (c : AtaController) : (c.identifying value).hasStatus ideStatusBusy = false := by
    simp [AtaController.identifying, ideStatusBusy, ideStatusDriveRdy, ideStatusCorrectedData,
      ideStatusDevReq, ideStatusDevSeekComp, ideStatusWriteFault]
  constructor
  · refine start rfl (by rw [hbuffer]; rfl) (hsize _) (not_conflict_of_not_busy (hbusy _)) ?_
    rwa [hcommand]
  · refine start rfl ?_ (hsize _) (not_conflict_of_not_busy (hbusy _)) ?_
    · exact congrArg AtaBuffer.size (hbuffer _)
    · exact (hcommand (s.drive ch).controller).symm ▸ hsuits

lemma identify {value : BitVec 32} (hvalue : DriveType.disk.Suits (value.setWidth 8))
    (h : hardDiskIdentify ch value s = .ok t) : Moves P s t := by
  unfold hardDiskIdentify at h
  cases hdrive : (s.drive ch).driveType with
  | none =>
      rw [hdrive] at h
      obtain rfl := Except.ok.inj h
      exact commandAborted
  | cdrom =>
      rw [hdrive] at h
      obtain rfl := Except.ok.inj h
      exact commandAborted.trans (setSignature _)
  | disk =>
      rw [hdrive] at h
      have hsuits : (s.drive ch).driveType.Suits (value.setWidth 8) := by
        rw [hdrive]
        exact hvalue
      exact (identifying hsuits).1.trans ((modifyDrive (identified _ _)).trans (sendDriveId h))

lemma atapiIdentify {value : BitVec 32} (hvalue : value.setWidth 8 = ideCommandAtapiIdentify)
    (h : hardDiskAtapiIdentify ch value s = .ok t) : Moves P s t := by
  unfold hardDiskAtapiIdentify at h
  split at h
  · obtain rfl := Except.ok.inj h
    exact commandAborted
  · rename_i htype
    have hsuits : (s.drive ch).driveType.Suits (value.setWidth 8) := by
      rw [not_not.mp htype]
      exact .inr (.inr hvalue)
    exact (identifying hsuits).2.trans ((modifyDrive (identified _ _)).trans (sendDriveId h))

lemma packetCommand {value : BitVec 32} (hvalue : value.setWidth 8 = ideCommandAtapiPacket) :
    Moves P s (hardDiskPacketCommand ch value s) := by
  simp only [hardDiskPacketCommand]
  split
  · exact commandAborted
  · rename_i htype
    have hdma : Moves P s (s.modifyController ch fun c =>
        { c with packetDma := c.features &&& 0x01 }) :=
      modifyController ⟨rfl, rfl, .inl rfl, id⟩
    refine hdma.trans ?_
    split
    · exact commandAborted
    · refine start rfl (by simp) (by simp) (not_conflict_of_not_busy ?_) ?_
      · simp [AtaController.hasStatus, ideStatusBusy, ideStatusWriteFault, ideStatusDevReq]
      · rw [HardDisk.drive_modifyController]
        show (s.drive ch).driveType.Suits (value.setWidth 8)
        rw [not_not.mp htype]
        exact .inr (.inl hvalue)

lemma seek {value : BitVec 32} (hvalue : DriveType.disk.Suits (value.setWidth 8)) :
    Moves P s (hardDiskSeek ch value s) := by
  simp only [hardDiskSeek]
  split
  · exact commandAborted
  · rename_i htype
    split
    · exact commandAborted
    · refine start rfl (by simp [HardDisk.controller]) (by simp [HardDisk.controller])
        (not_conflict_of_no_request ?_) ?_
      · simp [AtaController.hasStatus, ideStatusDevReq, ideStatusDevSeekComp]
      · rw [not_not.mp htype]
        simpa using hvalue

/-- A DMA command, by what it does to the registers of an address on the disk. -/
lemma dmaCommand {ext : BitVec 8} {f : AtaController → AtaController}
    (hallocated : ∀ c, (f c).buffer = c.buffer) (hsize : ∀ c, (f c).bufferSize = c.bufferSize)
    (hexclusive : ∀ c, c.hasStatus ideStatusBusy = (s.controller ch).hasStatus ideStatusBusy →
      (f c).Conflict → c.Conflict)
    (hsuits : ∀ c, DriveType.disk.Suits (f c).currentCommand) :
    Moves P s (hardDiskDmaCommand ch ext f s) := by
  simp only [hardDiskDmaCommand]
  split
  · exact commandAborted
  · rename_i hguard
    have htype : (s.drive ch).driveType = .disk := not_not.mp fun h => hguard (.inl h)
    have hext : Moves P s (s.modifyController ch (AtaController.lba48Transform ext)) :=
      modifyController (AtaController.quiet_lba48Transform _ ext)
    refine hext.trans ?_
    split
    · exact commandAborted
    · refine start rfl (congrArg AtaBuffer.size (hallocated _)) (hsize _) (hexclusive _ ?_) ?_
      · rw [HardDisk.drive_modifyController]
        rfl
      · rw [HardDisk.drive_modifyController]
        show (s.drive ch).driveType.Suits _
        rw [htype]
        exact hsuits _

lemma readDma {ext : BitVec 8} {value : BitVec 32}
    (hvalue : DriveType.disk.Suits (value.setWidth 8)) :
    Moves P s (hardDiskReadDma ch ext value s) := by
  refine dmaCommand (fun c => by simp) (fun c => by simp) (fun c _ => ?_)
    fun c => by simpa using hvalue
  exact not_conflict_of_no_request (by simp [AtaController.hasStatus, ideStatusDevReq,
    ideStatusDevSeekComp])

/-- The data request of a DMA write: the drive that it is set on is not busy. -/
lemma writeDma {ext : BitVec 8} {value : BitVec 32}
    (hvalue : DriveType.disk.Suits (value.setWidth 8))
    (hidle : (s.controller ch).hasStatus ideStatusBusy = false) :
    Moves P s (hardDiskWriteDma ch ext value s) := by
  refine dmaCommand (fun c => by simp) (fun c => by simp) (fun c hc => ?_)
    fun c => by simpa using hvalue
  refine not_conflict_of_not_busy ?_
  have hbusy : Word.has c.status ideStatusBusy = false := hc.trans hidle
  simpa [AtaController.hasStatus, ideStatusBusy, ideStatusDriveRdy, ideStatusDevReq,
    ideStatusDevSeekComp] using hbusy

/-! ## Sector transfers -/

lemma incrementAddress (d : AtaDrive) (x : BitVec 64) :
    AtaDrive.Step P d (d.incrementAddress x).1 := by
  unfold AtaDrive.incrementAddress
  extract_lets c d₁
  have h₁ : d.controller.Quiet d₁.controller := ⟨rfl, rfl, .inl rfl, id⟩
  split
  · exact AtaDrive.Step.of_quiet rfl (h₁.trans (AtaController.quiet_setLba _ _))
  · refine AtaDrive.Step.of_quiet rfl (h₁.trans ?_)
    unfold AtaDrive.incrementChs
    simp only
    split
    · split
      · split
        · exact ⟨rfl, rfl, .inl rfl, id⟩
        · exact ⟨rfl, rfl, .inl rfl, id⟩
      · exact ⟨rfl, rfl, .inl rfl, id⟩
    · exact ⟨rfl, rfl, .inl rfl, id⟩

/-- A pass of a sector loop: the address is stepped, and remembered. -/
lemma sectorPass (d : AtaDrive) (x : BitVec 64) :
    AtaDrive.Step P d { (d.incrementAddress x).1 with nextLSector := (d.incrementAddress x).2 } :=
  (incrementAddress d x).trans (AtaDrive.Step.of_quiet rfl (AtaController.Quiet.refl _))

lemma readSectorLoop_step {n i : ℕ} {d d' : AtaDrive} {image image' : DiskImage}
    (h : readSectorLoop n i (d, image) = .ok (d', image')) : AtaDrive.Step P d d' := by
  induction n generalizing i d image with
  | zero =>
      obtain ⟨rfl, -⟩ := Prod.mk.inj (Except.ok.inj h)
      exact AtaDrive.Step.refl P _
  | succ n ih =>
      rw [readSectorLoop] at h
      obtain ⟨buffer, hfill, h⟩ := bind_eq_ok.mp h
      have hsize : buffer.size = d.controller.buffer.size := size_of_fill hfill
      have hloaded : AtaDrive.Step P d
          { d with controller := { d.controller with buffer := buffer } } :=
        AtaDrive.Step.of_quiet rfl ⟨hsize, rfl, .inl rfl, id⟩
      exact (hloaded.trans (sectorPass _ _)).trans (ih h)

lemma writeSectorLoop_step {n i : ℕ} {d d' : AtaDrive} {image image' : DiskImage}
    {complete : Bool} (h : writeSectorLoop n i (d, image) = .ok (d', image', complete)) :
    AtaDrive.Step P d d' := by
  induction n generalizing i d image with
  | zero =>
      obtain ⟨rfl, -⟩ := Prod.mk.inj (Except.ok.inj h)
      exact AtaDrive.Step.refl P _
  | succ n ih =>
      rw [writeSectorLoop] at h
      by_cases hend : d.calculateLogicalAddress image.size = -1
      · simp only [if_pos hend] at h
        obtain ⟨rfl, -⟩ := Prod.mk.inj (Except.ok.inj h)
        exact AtaDrive.Step.refl P _
      · simp only [if_neg hend] at h
        obtain ⟨block, -, h⟩ := bind_eq_ok.mp h
        split at h
        · obtain ⟨rfl, -⟩ := Prod.mk.inj (Except.ok.inj h)
          exact AtaDrive.Step.refl P _
        · exact (sectorPass _ _).trans (ih h)

lemma readSector {n : ℕ} (h : hardDiskReadSector ch s = .ok (t, n)) : Moves P s t := by
  obtain ⟨⟨d, image⟩, hloop, h⟩ := bind_eq_ok.mp h
  have hread : Moves P s (s.modifyDrive ch fun _ => d) := modifyDrive (readSectorLoop_step hloop)
  obtain ⟨rfl, -⟩ := Prod.mk.inj (Except.ok.inj h)
  exact ⟨rfl, hread.drives⟩

lemma writeSector {n : ℕ} (h : hardDiskWriteSector ch s = .ok (t, n)) : Moves P s t := by
  obtain ⟨⟨d, image, complete⟩, hloop, h⟩ := bind_eq_ok.mp h
  have hdrive : Moves P s (s.modifyDrive ch fun _ => d) :=
    modifyDrive (writeSectorLoop_step hloop)
  have hwritten : Moves P s { s.modifyDrive ch fun _ => d with image := image } :=
    ⟨rfl, hdrive.drives⟩
  cases complete with
  | true =>
      obtain ⟨rfl, -⟩ := Prod.mk.inj (Except.ok.inj h)
      exact hwritten
  | false =>
      obtain ⟨rfl, -⟩ := Prod.mk.inj (Except.ok.inj h)
      exact hwritten.trans commandAborted

lemma dnum_commandAborted (s : HardDisk) :
    ((hardDiskCommandAborted ch s).channel ch).dnum = (s.channel ch).dnum := by
  have haborted := s.modifyDrive_dnum ch fun d => { d with controller := d.controller.aborted }
  unfold hardDiskCommandAborted hardDiskRaiseInterrupt
  split
  · exact haborted
  · exact haborted

/-- A sector write leaves the same drive selected. -/
lemma dnum_writeSector {n : ℕ} (h : hardDiskWriteSector ch s = .ok (t, n)) :
    (t.channel ch).dnum = (s.channel ch).dnum := by
  obtain ⟨⟨d, image, complete⟩, -, h⟩ := bind_eq_ok.mp h
  have hdnum : ((s.modifyDrive ch fun _ => d).channel ch).dnum = (s.channel ch).dnum :=
    s.modifyDrive_dnum ch _
  cases complete with
  | true =>
      obtain ⟨rfl, -⟩ := Prod.mk.inj (Except.ok.inj h)
      exact hdnum
  | false =>
      obtain ⟨rfl, -⟩ := Prod.mk.inj (Except.ok.inj h)
      exact (dnum_commandAborted _).trans hdnum

/-! ## Sector commands -/

/-- The block size is set. -/
lemma startBlock {multiple : Bool} (htype : (s.drive ch).driveType = .disk)
    (hP : P → multiple = true → (s.controller ch).MultipleFits) :
    Moves P s (s.modifyController ch (AtaController.startBlock multiple)) := by
  refine modifyDrive ⟨rfl, rfl, id, id, fun hp _ => ?_⟩
  show ((s.controller ch).startBlock multiple).bufferSize.toNat ≤ (s.drive ch).driveType.blockLimit
  rw [htype]
  cases multiple with
  | true => exact (hP hp rfl).block
  | false => exact (by decide : (512 : BitVec 32).toNat ≤ DriveType.disk.blockLimit)

lemma startRead {address : BitVec 64} {value : BitVec 32}
    (htype : (s.drive ch).driveType = .disk) (hvalue : DriveType.disk.Suits (value.setWidth 8)) :
    Moves P s (s.modifyDrive ch (AtaDrive.startRead address value)) := by
  refine start (by simp [AtaDrive.startRead]) (by simp [AtaDrive.startRead, HardDisk.controller])
    (by simp [AtaDrive.startRead, HardDisk.controller]) (not_conflict_of_no_request ?_) ?_
  · simp [AtaDrive.startRead, AtaController.hasStatus, ideStatusDevReq, ideStatusCorrectedData]
  · rw [htype]
    simpa [AtaDrive.startRead] using hvalue

lemma startWrite {address : BitVec 64} {value : BitVec 32}
    (htype : (s.drive ch).driveType = .disk) (hvalue : DriveType.disk.Suits (value.setWidth 8)) :
    Moves P s (s.modifyDrive ch (AtaDrive.startWrite address value)) := by
  refine start (by simp [AtaDrive.startWrite]) (by simp [AtaDrive.startWrite, HardDisk.controller])
    (by simp [AtaDrive.startWrite, HardDisk.controller]) (not_conflict_of_not_busy ?_) ?_
  · simp [AtaDrive.startWrite, AtaController.hasStatus, ideStatusDevReq, ideStatusDevSeekComp,
      ideStatusBusy]
  · rw [htype]
    simpa [AtaDrive.startWrite] using hvalue

/-- The data request of a block that has been read. -/
lemma request : Moves P s (s.modifyController ch fun c =>
    (c.clearStatus ideStatusBusy).setStatus ideStatusDevReq) := by
  refine modifyController ⟨by simp, by simp, .inl (by simp), not_conflict_of_not_busy ?_⟩
  rw [AtaController.hasStatus_setStatus, AtaController.hasStatus_clearStatus]
  simp [ideStatusBusy, ideStatusDevReq]

/-- The drive type that a guard of a sector command has seen, after the transform of the address. -/
lemma driveType_lba48Transform (ext : BitVec 8) :
    ((s.modifyController ch (AtaController.lba48Transform ext)).drive ch).driveType =
      (s.drive ch).driveType := by
  rw [HardDisk.drive_modifyController]

lemma readCommand {ext : BitVec 8} {value : BitVec 32}
    (hvalue : DriveType.disk.Suits (value.setWidth 8))
    (hP : P → (s.drive ch).driveType = .disk →
      ¬ ((s.controller ch).addressMode = 0 ∧ (s.controller ch).headNumber = 0 ∧
        (s.controller ch).cylinderNumber = 0 ∧ (s.controller ch).sectorNumber = 0) →
      IsCommand value readMultiples → ((s.controller ch).lba48Transform ext).MultipleFits)
    (h : hardDiskReadCommand ch ext value s = .ok t) : Moves P s t := by
  simp only [hardDiskReadCommand] at h
  split at h
  · obtain rfl := Except.ok.inj h
    exact commandAborted
  rename_i htype
  split at h
  · obtain rfl := Except.ok.inj h
    exact commandAborted
  rename_i haddress
  have hext : Moves P s (s.modifyController ch (AtaController.lba48Transform ext)) :=
    modifyController (AtaController.quiet_lba48Transform _ ext)
  refine hext.trans ?_
  have hdisk : ((s.modifyController ch (AtaController.lba48Transform ext)).drive ch).driveType =
      .disk := (driveType_lba48Transform ext).trans (not_not.mp htype)
  set u := s.modifyController ch (AtaController.lba48Transform ext) with hu
  split at h
  · obtain rfl := Except.ok.inj h
    exact commandAborted
  have hblock : Moves P u (u.modifyController ch
      (AtaController.startBlock (decide (IsCommand value readMultiples)))) := by
    refine startBlock hdisk fun hp hmultiple => ?_
    rw [hu, HardDisk.controller_modifyController]
    exact hP hp (not_not.mp htype) haddress (of_decide_eq_true hmultiple)
  refine hblock.trans ?_
  split at h
  · obtain rfl := Except.ok.inj h
    exact commandAborted
  obtain ⟨⟨v, temp⟩, hread, h⟩ := bind_eq_ok.mp h
  refine (startRead ?_ hvalue).trans ((readSector hread).trans ?_)
  · rw [HardDisk.drive_modifyController]
    exact hdisk
  · simp only at h
    split at h
    · obtain rfl := Except.ok.inj h
      exact commandAborted
    · obtain rfl := Except.ok.inj h
      exact request

lemma writeCommand {ext : BitVec 8} {value : BitVec 32}
    (hvalue : DriveType.disk.Suits (value.setWidth 8))
    (hP : P → (s.drive ch).driveType = .disk → IsCommand value writeMultiples →
      ((s.controller ch).lba48Transform ext).MultipleFits)
    (h : hardDiskWriteCommand ch ext value s = .ok t) : Moves P s t := by
  simp only [hardDiskWriteCommand] at h
  split at h
  · obtain rfl := Except.ok.inj h
    exact commandAborted
  rename_i htype
  have hext : Moves P s (s.modifyController ch (AtaController.lba48Transform ext)) :=
    modifyController (AtaController.quiet_lba48Transform _ ext)
  refine hext.trans ?_
  have hdisk : ((s.modifyController ch (AtaController.lba48Transform ext)).drive ch).driveType =
      .disk := (driveType_lba48Transform ext).trans (not_not.mp htype)
  set u := s.modifyController ch (AtaController.lba48Transform ext) with hu
  split at h
  · obtain rfl := Except.ok.inj h
    exact commandAborted
  have hblock : Moves P u (u.modifyController ch
      (AtaController.startBlock (decide (IsCommand value writeMultiples)))) := by
    refine startBlock hdisk fun hp hmultiple => ?_
    rw [hu, HardDisk.controller_modifyController]
    exact hP hp (not_not.mp htype) (of_decide_eq_true hmultiple)
  refine hblock.trans ?_
  split at h
  · obtain rfl := Except.ok.inj h
    exact commandAborted
  obtain ⟨⟨v, temp⟩, hwrite, h⟩ := bind_eq_ok.mp h
  refine (startWrite ?_ hvalue).trans ((writeSector hwrite).trans ?_)
  · rw [HardDisk.drive_modifyController]
    exact hdisk
  · simp only at h
    split at h
    · obtain rfl := Except.ok.inj h
      exact commandAborted
    · obtain rfl := Except.ok.inj h
      exact refl P _

/-! ## The command register -/

/-- The address form that the switch selects for a `MULTIPLE` command. -/
def multipleExt (value : BitVec 32) : BitVec 8 :=
  if IsCommand value (readCommandsExt ++ writeCommandsExt) then 1 else 0

end HardDisk.Moves

/-- A command that sets the block size of a `MULTIPLE` transfer sets one that fits the buffer. -/
def HardDisk.CommandFits (ch : Fin 4) (value : BitVec 32) (s : HardDisk) : Prop :=
  (s.drive ch).driveType = .disk → IsCommand value (readMultiples ++ writeMultiples) →
    ¬ (IsCommand value readMultiples ∧ (s.controller ch).addressMode = 0 ∧
      (s.controller ch).headNumber = 0 ∧ (s.controller ch).cylinderNumber = 0 ∧
      (s.controller ch).sectorNumber = 0) →
    ((s.controller ch).lba48Transform (HardDisk.Moves.multipleExt value)).MultipleFits

instance (ch : Fin 4) (value : BitVec 32) (s : HardDisk) : Decidable (s.CommandFits ch value) :=
  inferInstanceAs (Decidable (_ → _ → _ → _))

namespace HardDisk.Moves

variable {P : Prop} {s t : HardDisk} {ch : Fin 4}

lemma isCommand_append_left {value : BitVec 32} {codes : List (BitVec 8)}
    (others : List (BitVec 8)) (h : IsCommand value codes) : IsCommand value (codes ++ others) := by
  obtain ⟨code, hcode, hvalue⟩ := h
  exact ⟨code, List.mem_append_left _ hcode, hvalue⟩

lemma isCommand_append_right {value : BitVec 32} {codes : List (BitVec 8)}
    (others : List (BitVec 8)) (h : IsCommand value codes) : IsCommand value (others ++ codes) := by
  obtain ⟨code, hcode, hvalue⟩ := h
  exact ⟨code, List.mem_append_right _ hcode, hvalue⟩

/-- The commands of a list that has no packet command are for a disk. -/
lemma suits_of_isCommand {value : BitVec 32} {codes : List (BitVec 8)}
    (hcodes : ∀ code ∈ codes, DriveType.disk.Suits code) (h : IsCommand value codes) :
    DriveType.disk.Suits (value.setWidth 8) := by
  obtain ⟨code, hcode, rfl⟩ := h
  rw [Word.setWidth_setWidth_eq (by decide)]
  exact hcodes code hcode

lemma suits_of_isCommand_one {value : BitVec 32} {code : BitVec 8} (h : IsCommand value [code]) :
    value.setWidth 8 = code := by
  obtain ⟨code', hcode, rfl⟩ := h
  rw [List.mem_singleton] at hcode
  rw [hcode, Word.setWidth_setWidth_eq (by decide)]

/-- One branch of a switch at a time. -/
lemma ite_eq_ok {α : Type} {p : Prop} [Decidable p] {x y : HardDiskOutcome α} {a : α}
    (h : (if p then x else y) = .ok a) : p ∧ x = .ok a ∨ ¬ p ∧ y = .ok a := by
  by_cases hp : p
  · rw [if_pos hp] at h
    exact .inl ⟨hp, h⟩
  · rw [if_neg hp] at h
    exact .inr ⟨hp, h⟩

/-- No 28-bit command is one of the EXT commands. -/
lemma multipleExt_of_28 {value : BitVec 32}
    (h : IsCommand value (readCommands28 ++ writeCommands28)) :
    multipleExt value = 0 := by
  obtain ⟨code, hcode, rfl⟩ := h
  have hall : ∀ code ∈ readCommands28 ++ writeCommands28,
      multipleExt (code.setWidth 32) = 0 := by decide
  exact hall code hcode

/-- No write is one of the multiple reads. -/
lemma not_readMultiple_of_write {value : BitVec 32}
    (h : IsCommand value (writeCommands28 ++ writeCommandsExt)) :
    ¬ IsCommand value readMultiples := by
  obtain ⟨code, hcode, rfl⟩ := h
  have hall : ∀ code ∈ writeCommands28 ++ writeCommandsExt,
      ¬ IsCommand (code.setWidth 32) readMultiples := by decide
  exact hall code hcode

/-- What the switch does, for a drive that is not busy. -/
lemma command {value : BitVec 32} (hidle : (s.controller ch).hasStatus ideStatusBusy = false)
    (hP : P → s.CommandFits ch value) (h : hardDiskCommand ch value s = .ok t) : Moves P s t := by
  unfold hardDiskCommand at h
  obtain ⟨-, h⟩ | ⟨-, h⟩ := ite_eq_ok h
  · obtain rfl := Except.ok.inj h
    exact recalibrate
  obtain ⟨hvalue, h⟩ | ⟨-, h⟩ := ite_eq_ok h
  · refine readCommand (suits_of_isCommand (by decide) hvalue)
      (fun hp htype haddress hmultiple => ?_) h
    have hext : multipleExt value = 1 := if_pos (isCommand_append_left _ hvalue)
    have hfits := hP hp htype (isCommand_append_left _ hmultiple) fun hzero => haddress hzero.2
    rwa [hext] at hfits
  obtain ⟨hvalue, h⟩ | ⟨-, h⟩ := ite_eq_ok h
  · refine readCommand (suits_of_isCommand (by decide) hvalue)
      (fun hp htype haddress hmultiple => ?_) h
    have hext : multipleExt value = 0 := multipleExt_of_28 (isCommand_append_left _ hvalue)
    have hfits := hP hp htype (isCommand_append_left _ hmultiple) fun hzero => haddress hzero.2
    rwa [hext] at hfits
  obtain ⟨-, h⟩ | ⟨-, h⟩ := ite_eq_ok h
  · obtain rfl := Except.ok.inj h
    exact verify 1
  obtain ⟨-, h⟩ | ⟨-, h⟩ := ite_eq_ok h
  · obtain rfl := Except.ok.inj h
    exact verify 0
  obtain ⟨hvalue, h⟩ | ⟨-, h⟩ := ite_eq_ok h
  · refine writeCommand (suits_of_isCommand (by decide) hvalue) (fun hp htype hmultiple => ?_) h
    have hext : multipleExt value = 1 := if_pos (isCommand_append_right _ hvalue)
    have hfits := hP hp htype (isCommand_append_right _ hmultiple) fun hread =>
      not_readMultiple_of_write (isCommand_append_right _ hvalue) hread.1
    rwa [hext] at hfits
  obtain ⟨hvalue, h⟩ | ⟨-, h⟩ := ite_eq_ok h
  · refine writeCommand (suits_of_isCommand (by decide) hvalue) (fun hp htype hmultiple => ?_) h
    have hext : multipleExt value = 0 := multipleExt_of_28 (isCommand_append_right _ hvalue)
    have hfits := hP hp htype (isCommand_append_right _ hmultiple) fun hread =>
      not_readMultiple_of_write (isCommand_append_left _ hvalue) hread.1
    rwa [hext] at hfits
  obtain ⟨-, h⟩ | ⟨-, h⟩ := ite_eq_ok h
  · obtain rfl := Except.ok.inj h
    exact diagnostic
  obtain ⟨-, h⟩ | ⟨-, h⟩ := ite_eq_ok h
  · exact setDriveParameters h
  obtain ⟨hvalue, h⟩ | ⟨-, h⟩ := ite_eq_ok h
  · exact identify (suits_of_isCommand (by decide) hvalue) h
  obtain ⟨-, h⟩ | ⟨-, h⟩ := ite_eq_ok h
  · obtain rfl := Except.ok.inj h
    exact setFeature
  obtain ⟨-, h⟩ | ⟨-, h⟩ := ite_eq_ok h
  · obtain rfl := Except.ok.inj h
    exact setMultiple
  obtain ⟨hvalue, h⟩ | ⟨-, h⟩ := ite_eq_ok h
  · obtain rfl := Except.ok.inj h
    exact packetCommand (suits_of_isCommand_one hvalue)
  obtain ⟨hvalue, h⟩ | ⟨-, h⟩ := ite_eq_ok h
  · exact atapiIdentify (suits_of_isCommand_one hvalue) h
  obtain ⟨-, h⟩ | ⟨-, h⟩ := ite_eq_ok h
  · obtain rfl := Except.ok.inj h
    exact atapiReset
  obtain ⟨-, h⟩ | ⟨-, h⟩ := ite_eq_ok h
  · obtain rfl := Except.ok.inj h
    have hcount : Moves P s (s.modifyController ch fun c => { c with sectorCount := 0xff }) :=
      modifyController ⟨rfl, rfl, .inl rfl, id⟩
    exact hcount.trans powerCommand
  obtain ⟨-, h⟩ | ⟨-, h⟩ := ite_eq_ok h
  · obtain rfl := Except.ok.inj h
    exact powerCommand
  obtain ⟨hvalue, h⟩ | ⟨-, h⟩ := ite_eq_ok h
  · obtain rfl := Except.ok.inj h
    exact seek (suits_of_isCommand (by decide) hvalue)
  obtain ⟨hvalue, h⟩ | ⟨-, h⟩ := ite_eq_ok h
  · obtain rfl := Except.ok.inj h
    exact readDma (suits_of_isCommand (by decide) hvalue)
  obtain ⟨hvalue, h⟩ | ⟨-, h⟩ := ite_eq_ok h
  · obtain rfl := Except.ok.inj h
    exact readDma (suits_of_isCommand (by decide) hvalue)
  obtain ⟨hvalue, h⟩ | ⟨-, h⟩ := ite_eq_ok h
  · obtain rfl := Except.ok.inj h
    exact writeDma (suits_of_isCommand (by decide) hvalue) hidle
  obtain ⟨hvalue, h⟩ | ⟨-, h⟩ := ite_eq_ok h
  · obtain rfl := Except.ok.inj h
    exact writeDma (suits_of_isCommand (by decide) hvalue) hidle
  obtain ⟨-, h⟩ | ⟨-, h⟩ := ite_eq_ok h
  · obtain rfl := Except.ok.inj h
    exact readNativeAddress 1
  obtain ⟨-, h⟩ | ⟨-, h⟩ := ite_eq_ok h
  · obtain rfl := Except.ok.inj h
    exact readNativeAddress 0
  · obtain rfl := Except.ok.inj h
    exact commandAborted

/-- The state in which the command register comes to its switch. -/
def switched (ch : Fin 4) (s : HardDisk) : HardDisk :=
  (hardDiskLowerIrq ch s).modifyController ch fun c => c.clearStatus ideStatusError

lemma commandFits_switched {value : BitVec 32} (h : s.CommandFits ch value) :
    (switched ch s).CommandFits ch value := by
  have hdrive : (switched ch s).drive ch =
      { s.drive ch with controller := (s.controller ch).clearStatus ideStatusError } := by
    rw [switched, HardDisk.drive_modifyController]
    rfl
  intro htype hvalue haddress
  rw [HardDisk.controller_eq_drive, hdrive] at haddress ⊢
  rw [hdrive] at htype
  exact h htype hvalue haddress

/-- A write of the command register. -/
lemma writeCommandRegister {value : BitVec 32}
    (hP : P → (s.channel ch).dnum = 0 → (s.controller ch).hasStatus ideStatusBusy = false →
      s.CommandFits ch value)
    (h : hardDiskWriteCommandRegister ch value s = .ok t) : Moves P s t := by
  simp only [hardDiskWriteCommandRegister] at h
  obtain ⟨-, h⟩ | ⟨hdnum, h⟩ := ite_eq_ok h
  · obtain rfl := Except.ok.inj h
    exact refl P s
  obtain ⟨-, h⟩ | ⟨hbusy, h⟩ := ite_eq_ok h
  · obtain rfl := Except.ok.inj h
    exact lowerIrq
  have hclear : Moves P s (switched ch s) :=
    Moves.trans lowerIrq (modifyController (AtaController.Quiet.clearStatus _ _))
  have hidle : (s.controller ch).hasStatus ideStatusBusy = false := Bool.eq_false_iff.mpr hbusy
  have hidle' : ((switched ch s).controller ch).hasStatus ideStatusBusy = false := by
    rw [switched, HardDisk.controller_modifyController, AtaController.hasStatus_clearStatus]
    exact (congrArg (· && _) hidle).trans (Bool.false_and _)
  refine hclear.trans (command hidle' (fun hp => ?_) h)
  split
  · intro htype hvalue
    exact absurd hvalue (by decide)
  · exact commandFits_switched (hP hp (not_not.mp hdnum) hidle)

end HardDisk.Moves

end Svmm
