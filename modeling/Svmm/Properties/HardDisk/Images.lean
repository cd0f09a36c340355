import Svmm.Properties.HardDisk.Moves

/-!
# What leaves the disk image alone

Only the sector loops reach the disk image.  Every other function leaves it as it is: what it has
been asked to seek, and what has been written to it.
-/

namespace Svmm

open TransitionRun HardDisk.Moves

namespace HardDisk

variable (ch : Fin 4) (s : HardDisk)

@[simp] lemma image_modifyDriveAt (n : Fin 2) (f : AtaDrive → AtaDrive) :
    (s.modifyDriveAt ch n f).image = s.image := rfl

@[simp] lemma image_modifyControllers (f : AtaController → AtaController) :
    (s.modifyControllers ch f).image = s.image := rfl

@[simp] lemma image_setChannel (c : AtaChannel) : (s.setChannel ch c).image = s.image := rfl

end HardDisk

section Commands

variable {s t : HardDisk} {ch : Fin 4}

@[simp] lemma image_setSignature (n : Fin 2) : (hardDiskSetSignature ch n s).image = s.image := by
  simp only [hardDiskSetSignature]
  split <;> rfl

@[simp] lemma image_recalibrate : (hardDiskRecalibrate ch s).image = s.image := by
  simp only [hardDiskRecalibrate]
  split <;> simp

@[simp] lemma image_verify (ext : BitVec 8) : (hardDiskVerify ch ext s).image = s.image := by
  simp only [hardDiskVerify]
  split <;> simp

@[simp] lemma image_diagnostic : (hardDiskDiagnostic ch s).image = s.image := by
  simp [hardDiskDiagnostic]

lemma image_setDriveParameters (h : hardDiskSetDriveParameters ch s = .ok t) :
    t.image = s.image := by
  simp only [hardDiskSetDriveParameters] at h
  obtain ⟨-, h⟩ | ⟨-, h⟩ := ite_eq_ok h
  · simp [← Except.ok.inj h]
  obtain ⟨-, h⟩ | ⟨-, h⟩ := ite_eq_ok h
  · simp [← Except.ok.inj h]
  obtain ⟨-, h⟩ | ⟨-, h⟩ := ite_eq_ok h
  · cases h
  obtain ⟨-, h⟩ | ⟨-, h⟩ := ite_eq_ok h
  · simp [← Except.ok.inj h]
  · simp [← Except.ok.inj h]

@[simp] lemma image_setFeature : (hardDiskSetFeature ch s).image = s.image := by
  simp only [hardDiskSetFeature]
  split
  · cases (s.controller ch).transferMode <;> simp
  · split <;> simp

@[simp] lemma image_setMultiple : (hardDiskSetMultiple ch s).image = s.image := by
  simp only [hardDiskSetMultiple]
  split
  · simp
  · split <;> simp

@[simp] lemma image_packetCommand (value : BitVec 32) :
    (hardDiskPacketCommand ch value s).image = s.image := by
  simp only [hardDiskPacketCommand]
  split
  · simp
  · split <;> simp

@[simp] lemma image_atapiReset : (hardDiskAtapiReset ch s).image = s.image := by
  simp only [hardDiskAtapiReset]
  split <;> simp

@[simp] lemma image_powerCommand : (hardDiskPowerCommand ch s).image = s.image := by
  simp [hardDiskPowerCommand]

@[simp] lemma image_seekCommand (value : BitVec 32) : (hardDiskSeek ch value s).image =
    s.image := by
  simp only [hardDiskSeek]
  split
  · simp
  · split <;> simp

@[simp] lemma image_dmaCommand (ext : BitVec 8) (start : AtaController → AtaController) :
    (hardDiskDmaCommand ch ext start s).image = s.image := by
  simp only [hardDiskDmaCommand]
  split
  · simp
  · split <;> simp

@[simp] lemma image_readNativeAddress (ext : BitVec 8) :
    (hardDiskReadNativeAddress ch ext s).image = s.image := by
  simp only [hardDiskReadNativeAddress]
  split <;> simp

lemma image_sendDriveId (h : hardDiskSendDriveId ch s = .ok t) : t.image = s.image := by
  obtain ⟨buffer, -, h⟩ := bind_eq_ok.mp h
  simp [← Except.ok.inj h]

lemma image_identify {value : BitVec 32} (h : hardDiskIdentify ch value s = .ok t) :
    t.image = s.image := by
  unfold hardDiskIdentify at h
  cases hdrive : (s.drive ch).driveType with
  | none =>
      rw [hdrive] at h
      simp [← Except.ok.inj h]
  | cdrom =>
      rw [hdrive] at h
      simp [← Except.ok.inj h]
  | disk =>
      rw [hdrive] at h
      simp [image_sendDriveId h]

lemma image_atapiIdentify {value : BitVec 32} (h : hardDiskAtapiIdentify ch value s = .ok t) :
    t.image = s.image := by
  unfold hardDiskAtapiIdentify at h
  obtain ⟨-, h⟩ | ⟨-, h⟩ := ite_eq_ok h
  · simp [← Except.ok.inj h]
  · simp [image_sendDriveId h]

end Commands

section Data

variable {s t : HardDisk} {ch : Fin 4}

@[simp] lemma image_nop : (hardDiskNop ch s).image = s.image := by
  simp [hardDiskNop]

@[simp] lemma image_atapiError (asc : BitVec 8) : (hardDiskAtapiError ch asc s).image =
    s.image := by
  simp [hardDiskAtapiError]

@[simp] lemma image_readySendAtapi : (hardDiskReadySendAtapi ch s).image = s.image := by
  simp only [hardDiskReadySendAtapi]
  split <;> simp

lemma image_reply {command : BitVec 8} {reqLength allocLength : BitVec 32} {index : ℕ}
    {bytes : List (BitVec 8)}
    (h : hardDiskReply ch command reqLength allocLength index bytes s = .ok t) :
    t.image = s.image := by
  obtain ⟨c, -, h⟩ := bind_eq_ok.mp h
  simp [← Except.ok.inj h]

lemma image_modeSense {command : BitVec 8} (h : hardDiskModeSense ch command s = .ok t) :
    t.image = s.image := by
  simp only [hardDiskModeSense] at h
  obtain ⟨-, h⟩ | ⟨-, h⟩ := ite_eq_ok h
  · obtain ⟨c₁, -, h⟩ := bind_eq_ok.mp h
    obtain ⟨c₂, -, h⟩ := bind_eq_ok.mp h
    simp [← Except.ok.inj h]
  obtain ⟨-, h⟩ | ⟨-, h⟩ := ite_eq_ok h
  · obtain ⟨c₁, -, h⟩ := bind_eq_ok.mp h
    simp [← Except.ok.inj h]
  obtain ⟨-, h⟩ | ⟨-, h⟩ := ite_eq_ok h
  · simp [← Except.ok.inj h]
  · simp [← Except.ok.inj h]

@[simp] lemma image_startBlocks (command : BitVec 8) (length blocks lbAddress : BitVec 32) :
    (hardDiskStartBlocks ch command length blocks lbAddress s).image = s.image := by
  unfold hardDiskStartBlocks
  simp

@[simp] lemma image_readBlocks (command : BitVec 8) :
    (hardDiskReadBlocks ch command s).image = s.image := by
  unfold hardDiskReadBlocks
  extract_lets c short transferLength temp last s₁ transferLength' s₂
  have h₁ : s₁.image = s.image := by
    simp only [s₁]
    split <;> simp
  have h₂ : s₂.image = s₁.image := by
    simp only [s₂]
    split <;> simp
  rw [image_startBlocks, h₂, h₁]

@[simp] lemma image_readCd (command : BitVec 8) : (hardDiskReadCd ch command s).image =
    s.image := by
  simp only [hardDiskReadCd]
  split
  · simp
  split
  · simp
  split
  · simp
  split <;> simp

lemma image_readToc {command : BitVec 8} (h : hardDiskReadToc ch command s = .ok t) :
    t.image = s.image := by
  simp only [hardDiskReadToc] at h
  obtain ⟨-, h⟩ | ⟨-, h⟩ := ite_eq_ok h
  · cases h
  split at h
  · simp [← Except.ok.inj h]
  · obtain ⟨c, -, h⟩ := bind_eq_ok.mp h
    obtain ⟨-, h⟩ | ⟨-, h⟩ := ite_eq_ok h
    · simp [← Except.ok.inj h]
    · simp [← Except.ok.inj h]

lemma image_getEventStatus {command : BitVec 8} (h : hardDiskGetEventStatus ch command s = .ok t) :
    t.image = s.image := by
  simp only [hardDiskGetEventStatus] at h
  obtain ⟨-, h⟩ | ⟨-, h⟩ := ite_eq_ok h
  · simp [← Except.ok.inj h]
  · obtain ⟨c, -, h⟩ := bind_eq_ok.mp h
    simp [← Except.ok.inj h]

lemma image_requestSense {command : BitVec 8} (h : hardDiskRequestSense ch command s = .ok t) :
    t.image = s.image := by
  simp only [hardDiskRequestSense] at h
  obtain ⟨c, -, h⟩ := bind_eq_ok.mp h
  simp [← Except.ok.inj h]

lemma image_packet (h : hardDiskPacket ch s = .ok t) : t.image = s.image := by
  simp only [hardDiskPacket] at h
  obtain ⟨-, h⟩ | ⟨-, h⟩ := ite_eq_ok h
  · simp [← Except.ok.inj h]
  obtain ⟨-, h⟩ | ⟨-, h⟩ := ite_eq_ok h
  · obtain ⟨-, h⟩ | ⟨-, h⟩ := ite_eq_ok h
    · rw [← Except.ok.inj h]
    · exact image_reply h
  obtain ⟨-, h⟩ | ⟨-, h⟩ := ite_eq_ok h
  · exact image_modeSense h
  obtain ⟨-, h⟩ | ⟨-, h⟩ := ite_eq_ok h
  · exact image_reply h
  obtain ⟨-, h⟩ | ⟨-, h⟩ := ite_eq_ok h
  · exact image_requestSense h
  obtain ⟨-, h⟩ | ⟨-, h⟩ := ite_eq_ok h
  · exact image_reply h
  obtain ⟨-, h⟩ | ⟨-, h⟩ := ite_eq_ok h
  · simp [← Except.ok.inj h]
  obtain ⟨-, h⟩ | ⟨-, h⟩ := ite_eq_ok h
  · simp [← Except.ok.inj h]
  obtain ⟨-, h⟩ | ⟨-, h⟩ := ite_eq_ok h
  · exact image_readToc h
  obtain ⟨-, h⟩ | ⟨-, h⟩ := ite_eq_ok h
  · obtain ⟨-, h⟩ | ⟨-, h⟩ := ite_eq_ok h
    · simp [← Except.ok.inj h]
    · simp [← Except.ok.inj h]
  obtain ⟨-, h⟩ | ⟨-, h⟩ := ite_eq_ok h
  · simp [← Except.ok.inj h]
  obtain ⟨-, h⟩ | ⟨-, h⟩ := ite_eq_ok h
  · obtain ⟨c, -, h⟩ := bind_eq_ok.mp h
    simp [← Except.ok.inj h]
  obtain ⟨-, h⟩ | ⟨-, h⟩ := ite_eq_ok h
  · simp [← Except.ok.inj h]
  obtain ⟨-, h⟩ | ⟨-, h⟩ := ite_eq_ok h
  · exact image_getEventStatus h
  · simp [← Except.ok.inj h]

lemma image_writePacket {value length : BitVec 32}
    (h : hardDiskWritePacket ch value length s = .ok t) : t.image = s.image := by
  simp only [hardDiskWritePacket] at h
  obtain ⟨-, h⟩ | ⟨-, h⟩ := ite_eq_ok h
  · rw [← Except.ok.inj h]
  obtain ⟨buffer, -, h⟩ := bind_eq_ok.mp h
  obtain ⟨-, h⟩ | ⟨-, h⟩ := ite_eq_ok h
  · simp [← Except.ok.inj h]
  · simp [image_packet h]

lemma image_readIdentity {length value : BitVec 32}
    (h : hardDiskReadIdentity ch length s = .ok (t, value)) : t.image = s.image := by
  obtain ⟨temp, -, h⟩ := bind_eq_ok.mp h
  simp [← (Prod.mk.inj (Except.ok.inj h)).1]

lemma image_readReply {length value : BitVec 32}
    (h : hardDiskReadReply ch length s = .ok (t, value)) : t.image = s.image := by
  obtain ⟨c, -, h⟩ := bind_eq_ok.mp h
  obtain ⟨-, h⟩ | ⟨-, h⟩ := ite_eq_ok h
  · simp [← (Prod.mk.inj (Except.ok.inj h)).1]
  · obtain ⟨temp, -, h⟩ := bind_eq_ok.mp h
    obtain ⟨-, h⟩ | ⟨-, h⟩ := ite_eq_ok h
    · simp [← (Prod.mk.inj (Except.ok.inj h)).1]
    · simp [← (Prod.mk.inj (Except.ok.inj h)).1]

@[simp] lemma image_writeControl (value : BitVec 32) :
    (hardDiskWriteControl ch value s).image = s.image := by
  simp only [hardDiskWriteControl]
  split
  · simp
  split
  · simp
  · simp

@[simp] lemma image_seekTick : (hardDiskSeekTick ch s).image = s.image := by
  simp only [hardDiskSeekTick]
  cases (s.drive ch).driveType with
  | none => rfl
  | cdrom =>
      simp only
      split <;> simp
  | disk =>
      simp only
      split
      · simp
      · split <;> simp

end Data

end Svmm
