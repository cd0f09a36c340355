import Svmm.Properties.HardDisk.Effects
import Svmm.Construction.HardDisk.Timer

/-!
# What an event does to every drive

An event changes the selected drive of one channel, or both drives of it.  `AtaDrive.Step` says what
no event does to a drive, whatever the event: it keeps its type and its buffer, it does not become
busy with a data request pending, and the command it remembers is one for its type.  The size of its
data block stays within its buffer under a condition, which is the parameter of `AtaDrive.Step`.
`Moves` says so for all drives; there is one lemma for each function of the device.
-/

namespace Svmm

open TransitionRun

/-! ## Status bits -/

namespace AtaController

variable (c : AtaController)

@[simp] lemma hasStatus_updateStatus (f : BitVec 8 → BitVec 8) (i : ℕ) :
    (c.updateStatus f).hasStatus i = Word.has (f c.status) i := rfl

@[simp] lemma hasStatus_setStatus (b i : ℕ) :
    (c.setStatus b).hasStatus i = (c.hasStatus i || (decide (b = i) && decide (i < 8))) :=
  Word.has_set _ _ _

@[simp] lemma hasStatus_clearStatus (b i : ℕ) :
    (c.clearStatus b).hasStatus i = (c.hasStatus i && !decide (b = i)) :=
  Word.has_clear _ _ _

@[simp] lemma buffer_setStatus (b : ℕ) : (c.setStatus b).buffer = c.buffer := rfl
@[simp] lemma buffer_clearStatus (b : ℕ) : (c.clearStatus b).buffer = c.buffer := rfl
@[simp] lemma bufferIndex_setStatus (b : ℕ) : (c.setStatus b).bufferIndex = c.bufferIndex := rfl
@[simp] lemma bufferIndex_clearStatus (b : ℕ) : (c.clearStatus b).bufferIndex = c.bufferIndex := rfl
@[simp] lemma bufferSize_setStatus (b : ℕ) : (c.setStatus b).bufferSize = c.bufferSize := rfl
@[simp] lemma bufferSize_clearStatus (b : ℕ) : (c.clearStatus b).bufferSize = c.bufferSize := rfl
@[simp] lemma status_setStatus (b : ℕ) : (c.setStatus b).status = Word.set c.status b := rfl
@[simp] lemma status_clearStatus (b : ℕ) : (c.clearStatus b).status = Word.clear c.status b := rfl

@[simp] lemma currentCommand_setStatus (b : ℕ) :
    (c.setStatus b).currentCommand = c.currentCommand := rfl

@[simp] lemma currentCommand_clearStatus (b : ℕ) :
    (c.clearStatus b).currentCommand = c.currentCommand := rfl

/-- The drive is busy and asks for data. -/
def Conflict : Prop := c.hasStatus ideStatusBusy = true ∧ c.hasStatus ideStatusDevReq = true

/-- A change of a controller that has no bearing on its buffer, and starts no command. -/
structure Quiet (c c' : AtaController) : Prop where
  allocated : c'.buffer.size = c.buffer.size
  bufferSize : c'.bufferSize = c.bufferSize
  command : c'.currentCommand = c.currentCommand ∨ c'.currentCommand = 0
  exclusive : c'.Conflict → c.Conflict

namespace Quiet

variable {c} {c' c'' : AtaController}

lemma refl (c : AtaController) : Quiet c c := ⟨rfl, rfl, .inl rfl, id⟩

lemma trans (h : Quiet c c') (h' : Quiet c' c'') : Quiet c c'' := by
  refine ⟨h'.allocated.trans h.allocated, h'.bufferSize.trans h.bufferSize, ?_,
    fun hc => h.exclusive (h'.exclusive hc)⟩
  rcases h'.command with hsame | hzero
  · rw [hsame]
    exact h.command
  · exact .inr hzero

lemma clearStatus (c : AtaController) (b : ℕ) : Quiet c (c.clearStatus b) := by
  refine ⟨rfl, rfl, .inl rfl, fun h => ?_⟩
  simp only [Conflict, hasStatus_clearStatus, Bool.and_eq_true] at h
  exact ⟨h.1.1, h.2.1⟩

/-- A status bit other than the two. -/
lemma setStatus (c : AtaController) {b : ℕ} (hbusy : b ≠ ideStatusBusy)
    (hreq : b ≠ ideStatusDevReq) :
    Quiet c (c.setStatus b) := by
  refine ⟨rfl, rfl, .inl rfl, fun h => ?_⟩
  simpa only [Conflict, hasStatus_setStatus, hbusy, hreq, decide_false, Bool.false_and,
    Bool.or_false] using h

end Quiet

/-! ## The registers of the functions without a transfer -/

lemma quiet_aborted : Quiet c c.aborted := by
  refine ⟨by simp [aborted], by simp [aborted], .inr (by simp [aborted]), fun h => ?_⟩
  have hbusy := h.1
  simp [aborted, hasStatus, ideStatusBusy, ideStatusDevReq, ideStatusError, ideStatusDriveRdy,
    ideStatusCorrectedData] at hbusy

lemma quiet_ready : Quiet c c.ready := by
  refine ⟨by simp [ready], by simp [ready], .inl (by simp [ready]), fun h => ?_⟩
  have hbusy := h.1
  simp [ready, ideStatusBusy, ideStatusDriveRdy, ideStatusDevReq] at hbusy

lemma quiet_readySeekComp : Quiet c c.readySeekComp :=
  (Quiet.setStatus c (by decide) (by decide)).trans
    (Quiet.setStatus _ (by decide) (by decide))

lemma quiet_lba48Transform (ext : BitVec 8) : Quiet c (c.lba48Transform ext) :=
  ⟨rfl, rfl, .inl rfl, id⟩

lemma quiet_setLba (x : BitVec 64) : Quiet c (c.setLba x) := by
  unfold setLba
  split
  · exact ⟨rfl, rfl, .inl rfl, id⟩
  · exact ⟨rfl, rfl, .inl rfl, id⟩

lemma quiet_commandNop : Quiet c c.commandNop := by
  refine ⟨by simp [commandNop, clearInterruptRel, setInterruptReason],
    by simp [commandNop, clearInterruptRel, setInterruptReason],
    .inl (by simp [commandNop, clearInterruptRel, setInterruptReason]), fun h => ?_⟩
  have hbusy := h.1
  simp [commandNop, ideStatusBusy, ideStatusDriveRdy, ideStatusDevReq, ideStatusError] at hbusy

lemma quiet_atapiError (senseKey asc : BitVec 8) : Quiet c (c.atapiError senseKey asc) := by
  refine ⟨by simp [atapiError, clearInterruptRel, setInterruptReason],
    by simp [atapiError, clearInterruptRel, setInterruptReason],
    .inl (by simp [atapiError, clearInterruptRel, setInterruptReason]), fun h => ?_⟩
  have hbusy := h.1
  simp [atapiError, hasStatus, ideStatusBusy, ideStatusDriveRdy, ideStatusDevReq, ideStatusError,
    ideStatusWriteFault] at hbusy

lemma quiet_cylinder (p : Prop) [Decidable p] (x : BitVec 16) :
    Quiet c (if p then { c with cylinderNumber := x } else c) := by
  split
  · exact ⟨rfl, rfl, .inl rfl, id⟩
  · exact Quiet.refl c

lemma quiet_atapiBusy :
    Quiet c { (((c.setStatus ideStatusBusy).setStatus ideStatusDriveRdy).clearStatus
      ideStatusDevReq).clearStatus ideStatusError with bufferIndex := 0, drqIndex := 0 } := by
  refine ⟨by simp, by simp, .inl (by simp), fun h => ?_⟩
  have hreq := h.2
  simp [hasStatus, ideStatusBusy, ideStatusDriveRdy, ideStatusDevReq, ideStatusError] at hreq

lemma quiet_initAtapiCommand (command : BitVec 8) (reqLength allocLength : BitVec 32) :
    Quiet c (c.initAtapiCommand command reqLength allocLength) := by
  unfold initAtapiCommand
  extract_lets c₁ a c₂ c₃ c₄ c₅
  have h₁ : Quiet c c₁ := quiet_cylinder c _ _
  have h₂ : Quiet c₁ c₃ := quiet_atapiBusy c₁
  have h₃ : Quiet c₃ c₄ := quiet_cylinder c₃ _ _
  have h₄ : Quiet c₄ c₅ := quiet_cylinder c₄ _ _
  have h₅ := h₁.trans (h₂.trans (h₃.trans h₄))
  split
  · exact h₁
  · exact ⟨h₅.allocated, h₅.bufferSize, h₅.command, h₅.exclusive⟩

lemma quiet_resetting : Quiet c c.resetting := by
  refine ⟨by simp [resetting], by simp [resetting], .inr (by simp [resetting]), fun h => ?_⟩
  have hreq := h.2
  simp [resetting, hasStatus, ideStatusBusy, ideStatusDriveRdy, ideStatusDevReq, ideStatusError,
    ideStatusWriteFault, ideStatusDevSeekComp, ideStatusCorrectedData] at hreq

lemma quiet_alternateStatus : Quiet c c.alternateStatus := by
  simp only [alternateStatus]
  split
  · exact ((Quiet.clearStatus c ideStatusIndexPulse).trans ⟨rfl, rfl, .inl rfl, id⟩).trans
      ((Quiet.setStatus _ (by decide) (by decide)).trans ⟨rfl, rfl, .inl rfl, id⟩)
  · exact (Quiet.clearStatus c ideStatusIndexPulse).trans ⟨rfl, rfl, .inl rfl, id⟩

lemma quiet_requestReply :
    Quiet c (((c.clearStatus ideStatusBusy).setStatus ideStatusDevReq).setInterruptReason false
      true) := by
  refine ⟨by simp [setInterruptReason], by simp [setInterruptReason],
    .inl (by simp [setInterruptReason]), fun h => ?_⟩
  have hbusy := h.1
  simp [setInterruptReason, hasStatus, ideStatusBusy, ideStatusDevReq] at hbusy

lemma quiet_endOfDrq : Quiet c c.endOfDrq := by
  unfold endOfDrq
  extract_lets c₁ c₂ a c₃ c₄ c₅ b c₆
  have h₁ : Quiet c c₁ := Quiet.clearStatus c ideStatusDevReq
  have h₃ : Quiet c c₃ := ⟨h₁.allocated, h₁.bufferSize, h₁.command, h₁.exclusive⟩
  have h₄ : Quiet c₃ c₄ := quiet_requestReply c₃
  have h₅ : Quiet c₄ c₅ := quiet_cylinder c₄ _ _
  have h₆ := h₃.trans (h₄.trans h₅)
  have h₇ : Quiet c c₆ := ⟨h₃.allocated, h₃.bufferSize, h₃.command, h₃.exclusive⟩
  split
  · exact ⟨h₆.allocated, h₆.bufferSize, h₆.command, h₆.exclusive⟩
  · have h₈ : Quiet c₆ (c₆.setStatus ideStatusDriveRdy) :=
      Quiet.setStatus c₆ (by decide) (by decide)
    refine h₇.trans (h₈.trans ?_)
    exact (Quiet.clearStatus _ _).trans ((Quiet.clearStatus _ _).trans (Quiet.clearStatus _ _))

lemma quiet_seekEnded : Quiet c c.seekEnded := by
  refine ⟨by simp [seekEnded], by simp [seekEnded], .inl (by simp [seekEnded]), fun h => ?_⟩
  have hbusy := h.1
  simp [seekEnded, hasStatus, ideStatusBusy, ideStatusDriveRdy, ideStatusDevReq,
    ideStatusDevSeekComp, ideStatusCorrectedData] at hbusy

/-- A command that leaves the drive without a data request. -/
lemma quiet_of_no_request {c' : AtaController} (hallocated : c'.buffer.size = c.buffer.size)
    (hsize : c'.bufferSize = c.bufferSize) (hcommand : c'.currentCommand = c.currentCommand)
    (hreq : c'.hasStatus ideStatusDevReq = false) : Quiet c c' :=
  ⟨hallocated, hsize, .inl hcommand, fun h => by simp [h.2] at hreq⟩

end AtaController

/-! ## What no event does to a drive -/

/-- The commands that a drive of a type can be in. -/
def DriveType.Suits : DriveType → BitVec 8 → Prop
  | .none, command => command = 0
  | .cdrom, command =>
      command = 0 ∨ command = ideCommandAtapiPacket ∨ command = ideCommandAtapiIdentify
  | .disk, command => command ≠ ideCommandAtapiPacket ∧ command ≠ ideCommandAtapiIdentify

instance (t : DriveType) (command : BitVec 8) : Decidable (t.Suits command) :=
  match t with
  | .none => inferInstanceAs (Decidable (command = 0))
  | .cdrom => inferInstanceAs (Decidable (_ ∨ _ ∨ _))
  | .disk => inferInstanceAs (Decidable (_ ∧ _))

/-- The largest block of data for a drive of a type. -/
def DriveType.blockLimit : DriveType → ℕ
  | .none => 0
  | .cdrom => 2352
  | .disk => maxMultipleSectors * hardDiskSectorSize

lemma DriveType.suits_zero (t : DriveType) : t.Suits 0 := by
  cases t with
  | none => rfl
  | cdrom => exact .inl rfl
  | disk => exact ⟨by decide, by decide⟩

namespace AtaDrive

/-- The drive is in a command for its type. -/
def Suited (d : AtaDrive) : Prop := d.driveType.Suits d.controller.currentCommand

/-- The block of data is not larger than it may be. -/
def Fits (d : AtaDrive) : Prop := d.controller.bufferSize.toNat ≤ d.driveType.blockLimit

/-- What happens to a drive in an event; its block of data stays small enough under a condition. -/
structure Step (P : Prop) (d d' : AtaDrive) : Prop where
  driveType : d'.driveType = d.driveType
  allocated : d'.controller.buffer.size = d.controller.buffer.size
  exclusive : ¬ d.controller.Conflict → ¬ d'.controller.Conflict
  suited : d.Suited → d'.Suited
  fits : P → d.Fits → d'.Fits

namespace Step

variable {P Q : Prop} {d d' d'' : AtaDrive}

lemma refl (P : Prop) (d : AtaDrive) : Step P d d := ⟨rfl, rfl, id, id, fun _ => id⟩

lemma trans (h : Step P d d') (h' : Step P d' d'') : Step P d d'' where
  driveType := h'.driveType.trans h.driveType
  allocated := h'.allocated.trans h.allocated
  exclusive hc := h'.exclusive (h.exclusive hc)
  suited hs := h'.suited (h.suited hs)
  fits hP hf := h'.fits hP (h.fits hP hf)

lemma mono (h : Step P d d') (hQ : Q → P) : Step Q d d' :=
  ⟨h.driveType, h.allocated, h.exclusive, h.suited, fun hq => h.fits (hQ hq)⟩

lemma of_quiet (htype : d'.driveType = d.driveType) (h : d.controller.Quiet d'.controller) :
    Step P d d' := by
  refine ⟨htype, h.allocated, fun hc hc' => hc (h.exclusive hc'), fun hs => ?_, fun _ hf => ?_⟩
  · unfold Suited at *
    rw [htype]
    rcases h.command with hsame | hzero
    · rwa [hsame]
    · rw [hzero]
      exact d.driveType.suits_zero
  · unfold Fits at *
    rwa [htype, h.bufferSize]

end Step

end AtaDrive

/-! ## What no event does to the drives -/

/-- What happens to every drive in an event; the CD-ROM image stays. -/
structure HardDisk.Moves (P : Prop) (s t : HardDisk) : Prop where
  cdRom : t.cdRom = s.cdRom
  drives : ∀ ch n, ((s.channel ch).drive n).Step P ((t.channel ch).drive n)

namespace HardDisk.Moves

variable {P Q : Prop} {s t u : HardDisk} {ch : Fin 4}

lemma refl (P : Prop) (s : HardDisk) : Moves P s s := ⟨rfl, fun _ _ => AtaDrive.Step.refl P _⟩

lemma trans (h : Moves P s t) (h' : Moves P t u) : Moves P s u :=
  ⟨h'.cdRom.trans h.cdRom, fun ch n => (h.drives ch n).trans (h'.drives ch n)⟩

lemma mono (h : Moves P s t) (hQ : Q → P) : Moves Q s t :=
  ⟨h.cdRom, fun ch n => (h.drives ch n).mono hQ⟩

/-- The drives of a channel are replaced. -/
lemma setChannel {c : AtaChannel} (h : ∀ n, ((s.channel ch).drive n).Step P (c.drive n)) :
    Moves P s (s.setChannel ch c) := by
  refine ⟨rfl, fun ch' n => ?_⟩
  by_cases hch : ch' = ch
  · subst hch
    rw [HardDisk.channel_setChannel]
    exact h n
  · simp only [HardDisk.setChannel, Function.update_of_ne hch]
    exact AtaDrive.Step.refl P _

lemma modifyDriveAt {n : Fin 2} {f : AtaDrive → AtaDrive}
    (h : ((s.channel ch).drive n).Step P (f ((s.channel ch).drive n))) :
    Moves P s (s.modifyDriveAt ch n f) := by
  refine setChannel fun m => ?_
  by_cases hm : m = n
  · subst hm
    simpa only [Function.update_self] using h
  · simpa only [Function.update_of_ne hm] using AtaDrive.Step.refl P _

lemma modifyDrive {f : AtaDrive → AtaDrive} (h : (s.drive ch).Step P (f (s.drive ch))) :
    Moves P s (s.modifyDrive ch f) := modifyDriveAt h

lemma modifyController {f : AtaController → AtaController}
    (h : (s.controller ch).Quiet (f (s.controller ch))) : Moves P s (s.modifyController ch f) :=
  modifyDrive (AtaDrive.Step.of_quiet rfl h)

lemma modifyControllers {f : AtaController → AtaController}
    (h : ∀ c : AtaController, c.Quiet (f c)) :
    Moves P s (s.modifyControllers ch f) :=
  setChannel fun _ => AtaDrive.Step.of_quiet rfl (h _)

lemma select (x : BitVec 8) :
    Moves P s (s.setChannel ch { s.channel ch with driveSelect := x }) :=
  setChannel fun _ => AtaDrive.Step.refl P _

lemma call (c : HardDiskCall) : Moves P s (s.call c) := ⟨rfl, (refl P s).drives⟩

lemma lowerIrq : Moves P s (hardDiskLowerIrq ch s) := call _

lemma raiseInterrupt : Moves P s (hardDiskRaiseInterrupt ch s) := by
  unfold hardDiskRaiseInterrupt
  split
  · exact (call _).trans (call _)
  · exact refl P s

lemma commandAborted : Moves P s (hardDiskCommandAborted ch s) :=
  (modifyController (AtaController.quiet_aborted _)).trans raiseInterrupt

lemma setSignature (n : Fin 2) : Moves P s (hardDiskSetSignature ch n s) := by
  have hregisters (cylinder : BitVec 16) :
      Moves P s (s.modifyDriveAt ch n fun d => { d with controller := { d.controller with
        headNumber := 0
        sectorCount := 1
        sectorNumber := 1
        cylinderNumber := cylinder } }) :=
    modifyDriveAt (AtaDrive.Step.of_quiet rfl ⟨rfl, rfl, .inl rfl, id⟩)
  unfold hardDiskSetSignature
  cases hdrive : ((s.channel ch).drive n).driveType with
  | none => exact hregisters 0xffff
  | cdrom => exact hregisters 0xeb14
  | disk => exact (hregisters 0).trans (select 0)

end HardDisk.Moves

end Svmm
