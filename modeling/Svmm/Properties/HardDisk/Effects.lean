import Mathlib.Tactic.Ring
import Svmm.Framework.Run
import Svmm.Construction.HardDisk.Ports

/-!
# What the disk functions change

Every function of the device is an update of the selected drive followed by calls on other
modules.  The lemmas here read the drive and the images back after such an update, so that a
proof about a transfer is about registers and never about the table of channels.  `Installed` is
what no function changes: the addresses and the disk drive of `HardDiskInitialize`.
-/

namespace Svmm

/-! ## Reading a state back -/

namespace HardDisk

variable (ch : Fin 4) (s : HardDisk)

@[simp] lemma channel_setChannel (c : AtaChannel) : (s.setChannel ch c).channel ch = c := by
  simp [setChannel]

@[simp] lemma modifyDrive_dnum (f : AtaDrive → AtaDrive) :
    ((s.modifyDrive ch f).channel ch).dnum = (s.channel ch).dnum := by
  simp [modifyDrive, modifyDriveAt, AtaChannel.dnum]

@[simp] lemma drive_modifyDrive (f : AtaDrive → AtaDrive) :
    (s.modifyDrive ch f).drive ch = f (s.drive ch) := by
  simp [drive, modifyDrive, modifyDriveAt, AtaChannel.dnum]

@[simp] lemma image_modifyDrive (f : AtaDrive → AtaDrive) :
    (s.modifyDrive ch f).image = s.image := rfl

@[simp] lemma drive_modifyController (f : AtaController → AtaController) :
    (s.modifyController ch f).drive ch =
      { s.drive ch with controller := f (s.controller ch) } := by
  simp [modifyController, controller]

@[simp] lemma controller_modifyDrive (f : AtaDrive → AtaDrive) :
    (s.modifyDrive ch f).controller ch = (f (s.drive ch)).controller := by
  simp [controller]

@[simp] lemma controller_modifyController (f : AtaController → AtaController) :
    (s.modifyController ch f).controller ch = f (s.controller ch) := by
  simp [controller]

@[simp] lemma image_modifyController (f : AtaController → AtaController) :
    (s.modifyController ch f).image = s.image := rfl

@[simp] lemma drive_call (c : HardDiskCall) : (s.call c).drive ch = s.drive ch := rfl
@[simp] lemma controller_call (c : HardDiskCall) : (s.call c).controller ch = s.controller ch := rfl
@[simp] lemma image_call (c : HardDiskCall) : (s.call c).image = s.image := rfl

end HardDisk

@[simp] lemma drive_lowerIrq (ch : Fin 4) (s : HardDisk) :
    (hardDiskLowerIrq ch s).drive ch = s.drive ch := rfl

@[simp] lemma image_lowerIrq (ch : Fin 4) (s : HardDisk) :
    (hardDiskLowerIrq ch s).image = s.image := rfl

@[simp] lemma drive_raiseInterrupt (ch : Fin 4) (s : HardDisk) :
    (hardDiskRaiseInterrupt ch s).drive ch = s.drive ch := by
  unfold hardDiskRaiseInterrupt
  split <;> rfl

@[simp] lemma image_raiseInterrupt (ch : Fin 4) (s : HardDisk) :
    (hardDiskRaiseInterrupt ch s).image = s.image := by
  unfold hardDiskRaiseInterrupt
  split <;> rfl

@[simp] lemma image_commandAborted (ch : Fin 4) (s : HardDisk) :
    (hardDiskCommandAborted ch s).image = s.image := by
  rw [hardDiskCommandAborted, image_raiseInterrupt, HardDisk.image_modifyController]

lemma HardDisk.controller_eq_drive (ch : Fin 4) (s : HardDisk) :
    s.controller ch = (s.drive ch).controller := rfl

/-! ## Status bits -/

namespace AtaController

variable (c : AtaController)

/-- A chain of assignments to the status register is one. -/
lemma updateStatus_updateStatus (f g : BitVec 8 → BitVec 8) :
    (c.updateStatus f).updateStatus g = c.updateStatus (g ∘ f) := rfl

end AtaController

/-! ## What is installed -/

/-- The part of the state that `HardDiskInitialize` fixes for the disk: the ports of every channel
and the first drive of channel 0, with its buffer; and that drive is the selected one. -/
structure HardDisk.Installed (s : HardDisk) : Prop where
  ports : ∀ ch, ((s.channel ch).ioAddr1, (s.channel ch).ioAddr2) =
    (if ch = 0 then (0x1f0, 0x3f0) else if ch = 1 then (0x170, 0x370)
      else if ch = 2 then (0x1e8, 0x3e0) else (0x168, 0x360))
  selected : (s.channel 0).dnum = 0
  isDisk : (s.drive 0).driveType = .disk
  allocated : (s.controller 0).buffer.size = maxMultipleSectors * hardDiskSectorSize + 6

instance (s : HardDisk) : Decidable s.Installed :=
  decidable_of_iff (_ ∧ _ ∧ _ ∧ _)
    ⟨fun h => ⟨h.1, h.2.1, h.2.2.1, h.2.2.2⟩, fun h => ⟨h.ports, h.selected, h.isDisk, h.allocated⟩⟩

/-- The two states have the same ports and the same drive selected on channel 0. -/
def HardDisk.SameWiring (s t : HardDisk) : Prop :=
  (∀ ch, (t.channel ch).ioAddr1 = (s.channel ch).ioAddr1 ∧
    (t.channel ch).ioAddr2 = (s.channel ch).ioAddr2) ∧
  (t.channel 0).dnum = (s.channel 0).dnum

namespace HardDisk.SameWiring

variable {s t u : HardDisk}

lemma refl (s : HardDisk) : s.SameWiring s := ⟨fun _ => ⟨rfl, rfl⟩, rfl⟩

lemma trans (h : s.SameWiring t) (h' : t.SameWiring u) : s.SameWiring u := by
  refine ⟨fun ch => ?_, h'.2.trans h.2⟩
  exact ⟨(h'.1 ch).1.trans (h.1 ch).1, (h'.1 ch).2.trans (h.1 ch).2⟩

lemma modifyDrive (s : HardDisk) (f : AtaDrive → AtaDrive) : s.SameWiring (s.modifyDrive 0 f) := by
  refine ⟨fun ch => ?_, s.modifyDrive_dnum 0 f⟩
  by_cases hch : ch = 0
  · subst hch
    simp [HardDisk.modifyDrive, HardDisk.modifyDriveAt]
  · simp [HardDisk.modifyDrive, HardDisk.modifyDriveAt, HardDisk.setChannel, hch]

lemma modifyController (s : HardDisk) (f : AtaController → AtaController) :
    s.SameWiring (s.modifyController 0 f) := modifyDrive s _

lemma lowerIrq (s : HardDisk) : s.SameWiring (hardDiskLowerIrq 0 s) := refl s

lemma raiseInterrupt (s : HardDisk) : s.SameWiring (hardDiskRaiseInterrupt 0 s) := by
  unfold hardDiskRaiseInterrupt
  split
  · exact refl s
  · exact refl s

/-- What is installed stays, as long as the drive keeps its type and its buffer. -/
lemma installed (h : s.SameWiring t) (hs : s.Installed)
    (htype : (t.drive 0).driveType = (s.drive 0).driveType)
    (hsize : (t.controller 0).buffer.size = (s.controller 0).buffer.size) : t.Installed := by
  refine ⟨fun ch => ?_, h.2.trans hs.selected, htype.trans hs.isDisk, hsize.trans hs.allocated⟩
  rw [(h.1 ch).1, (h.1 ch).2]
  exact hs.ports ch

end HardDisk.SameWiring

/-! ## The ports of the disk -/

namespace HardDisk.Installed

variable {s : HardDisk} (h : s.Installed)

include h

/-- The addresses of channel 0 are decoded to it. -/
lemma decode_eq {address port : BitVec 32}
    (haddress : (address, port) ∈ [(0x1f0, 0), (0x1f7, 7), (0x3f6, (0x16 : BitVec 32))]) :
    s.decode address = (0, port) := by
  have hports := h.ports 0
  simp only [if_true, Prod.mk.injEq] at hports
  obtain ⟨h1, h2⟩ := hports
  simp only [List.mem_cons, Prod.mk.injEq, List.not_mem_nil, or_false] at haddress
  rcases haddress with ⟨rfl, rfl⟩ | ⟨rfl, rfl⟩ | ⟨rfl, rfl⟩
  · simp [HardDisk.decode, h1]
  · simp [HardDisk.decode, h1]
  · simp [HardDisk.decode, h1, h2]

lemma write_command (value length : BitVec 32) :
    hardDiskPortIoWriteHandler 0x1f7 value length s = hardDiskWriteCommandRegister 0 value s := by
  unfold hardDiskPortIoWriteHandler
  rw [h.decode_eq (by decide : ((0x1f7 : BitVec 32), (7 : BitVec 32)) ∈ _)]
  rfl

lemma read_data (length : BitVec 32) :
    hardDiskPortIoReadHandler 0x1f0 length s = hardDiskReadDataPort 0 length s := by
  unfold hardDiskPortIoReadHandler
  rw [h.decode_eq (by decide : ((0x1f0 : BitVec 32), (0 : BitVec 32)) ∈ _)]
  rfl

lemma read_status (length : BitVec 32) :
    hardDiskPortIoReadHandler 0x1f7 length s =
      .ok (hardDiskLowerIrq 0 s, (s.controller 0).status.setWidth 32) := by
  have hpresent : (s.drive 0).driveType ≠ .none := by simp [h.isDisk]
  unfold hardDiskPortIoReadHandler
  rw [h.decode_eq (by decide : ((0x1f7 : BitVec 32), (7 : BitVec 32)) ∈ _)]
  simp [hpresent]

lemma read_alternate_status (length : BitVec 32) :
    hardDiskPortIoReadHandler 0x3f6 length s =
      .ok (s.modifyController 0 AtaController.alternateStatus,
        (s.controller 0).alternateStatus.status.setWidth 32) := by
  have hpresent : (s.drive 0).driveType ≠ .none := by simp [h.isDisk]
  unfold hardDiskPortIoReadHandler
  rw [h.decode_eq (by decide : ((0x3f6 : BitVec 32), (0x16 : BitVec 32)) ∈ _)]
  simp [hpresent]

end HardDisk.Installed

end Svmm
