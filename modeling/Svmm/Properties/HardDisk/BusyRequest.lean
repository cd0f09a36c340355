import Svmm.Properties.HardDisk.PioRead
import Svmm.Properties.HardDisk.PortMoves

/-!
# Busy or asking for data

No drive is busy while it asks for data.  About thirty places set or clear one of the two bits; the
step of a drive says for each of them that the bits exclude each other afterwards if they did so
before, so they do in every state of every run.
-/

namespace Svmm

open TransitionRun

namespace HardDisk

/-- Every drive of every channel has a property. -/
def EveryDrive (p : AtaDrive → Prop) (s : HardDisk) : Prop := ∀ ch n, p ((s.channel ch).drive n)

variable {s t : HardDisk}

lemma EveryDrive.selected {p : AtaDrive → Prop} (h : s.EveryDrive p) (ch : Fin 4) :
    p (s.drive ch) := h ch (s.channel ch).dnum

/-- What holds of the empty drives, the disk and the CD-ROM holds of every drive at power-on. -/
lemma everyDrive_powerOn {p : AtaDrive → Prop} {image : DiskImage} {cdRom : CdRom}
    {bdmaPresent : BitVec 32} (hempty : p emptyDrive) (hdisk : p (initialDisk image.size))
    (hcdrom : p initialCdRom) : (hardDiskInitialize image cdRom bdmaPresent).EveryDrive p := by
  intro ch n
  have hfirst (d : AtaDrive) (hd : p d) : p (if n = 0 then d else emptyDrive) := by
    split
    · exact hd
    · exact hempty
  simp only [hardDiskInitialize]
  split
  · exact hfirst _ hdisk
  split
  · exact hfirst _ hcdrom
  split
  · exact hfirst _ hempty
  · exact hfirst _ hempty

/-- The drives are in commands for their types, in every state of every run. -/
lemma suited_step {a : DiskEvent} (hs : s.EveryDrive AtaDrive.Suited)
    (h : hardDiskStep s a = .ok t) : t.EveryDrive AtaDrive.Suited := fun ch n =>
  ((Moves.event (P := False) hs.selected False.elim h).drives ch n).suited (hs ch n)

lemma suited_powerOn {image : DiskImage} {cdRom : CdRom} {bdmaPresent : BitVec 32} :
    (hardDiskInitialize image cdRom bdmaPresent).EveryDrive AtaDrive.Suited :=
  everyDrive_powerOn (DriveType.suits_zero _) (DriveType.suits_zero _) (DriveType.suits_zero _)

/-- The drives that are present are ready at power-on, and the others have no status. -/
lemma apart_powerOn {image : DiskImage} {cdRom : CdRom} {bdmaPresent : BitVec 32} :
    (hardDiskInitialize image cdRom bdmaPresent).EveryDrive fun d => ¬ d.controller.Conflict := by
  have hready : Word.has (Word.set (Word.set (0 : BitVec 8) ideStatusDriveRdy) ideStatusDevSeekComp)
      ideStatusBusy = false := by decide
  refine everyDrive_powerOn (fun hc => ?_) (fun hc => ?_) fun hc => ?_
  · exact absurd hc.1 (by decide)
  · exact Bool.false_ne_true (hready.symm.trans hc.1)
  · exact Bool.false_ne_true (hready.symm.trans hc.1)

/-- An event keeps the two bits apart. -/
lemma apart_step {a : DiskEvent} (hs : s.EveryDrive AtaDrive.Suited)
    (hapart : s.EveryDrive fun d => ¬ d.controller.Conflict) (h : hardDiskStep s a = .ok t) :
    t.EveryDrive fun d => ¬ d.controller.Conflict := fun ch n =>
  ((Moves.event (P := False) hs.selected False.elim h).drives ch n).exclusive (hapart ch n)

end HardDisk

/-- In every state that any sequence of port accesses, seek ticks and bus-master calls leads to, no
drive has `IDE_STATUS_BUSY` and `IDE_STATUS_DEV_REQ` set at the same time. -/
theorem busy_excludes_request (image : DiskImage) (cdRom : CdRom) (bdmaPresent : BitVec 32)
    (events : List DiskEvent) {t : HardDisk}
    (h : run hardDiskStep (hardDiskInitialize image cdRom bdmaPresent) events = .ok t) :
    ∀ ch n, ¬ (((t.channel ch).drive n).controller.hasStatus ideStatusBusy = true ∧
      ((t.channel ch).drive n).controller.hasStatus ideStatusDevReq = true) := by
  have hstep (s : HardDisk) (a : DiskEvent) (u : HardDisk)
      (hs : s.EveryDrive AtaDrive.Suited ∧ s.EveryDrive fun d => ¬ d.controller.Conflict)
      (_ : True) (hu : hardDiskStep s a = .ok u) :
      u.EveryDrive AtaDrive.Suited ∧ u.EveryDrive fun d => ¬ d.controller.Conflict :=
    ⟨HardDisk.suited_step hs.1 hu, HardDisk.apart_step hs.1 hs.2 hu⟩
  exact (run_invariant hstep ⟨HardDisk.suited_powerOn, HardDisk.apart_powerOn⟩
    (Meets.always _ _) h).2

/-- A seek that ends, and a reset. -/
theorem busy_excludes_request_reset :
    ∃ t, run hardDiskStep (hardDiskInitialize numberedImage ⟨0, fun _ => []⟩ 0)
        [.portWrite 0x1f6 0x40 1, .portWrite 0x1f7 0x70 1, .seekTimer,
          .portWrite 0x3f6 0x04 1] = .ok t ∧
      ∀ ch n, ¬ (((t.channel ch).drive n).controller.hasStatus ideStatusBusy = true ∧
        ((t.channel ch).drive n).controller.hasStatus ideStatusDevReq = true) := by
  have hends : ends (fun _ => True) (run hardDiskStep (hardDiskInitialize numberedImage
      ⟨0, fun _ => []⟩ 0) [.portWrite 0x1f6 0x40 1, .portWrite 0x1f7 0x70 1, .seekTimer,
        .portWrite 0x3f6 0x04 1]) = true := by
    decide +kernel
  exact exists_of_completes hends fun t => busy_excludes_request numberedImage _ 0 _

end Svmm
