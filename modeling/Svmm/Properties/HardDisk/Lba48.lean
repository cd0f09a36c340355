import Mathlib.Data.List.Nodup
import Svmm.Properties.HardDisk.Commands

/-!
# 48-bit addressing

An EXT command takes the high half of the address and of the sector count from the `Hob` registers.
A guest fills them by writing the ports 2 to 5 twice; but the handler of these ports only ever
assigns the ordinary registers, so the second round overwrites the first and `Hob` keeps what the
last EXT transfer stepped it to.
-/

namespace Svmm

open TransitionRun

/-! ## The two rounds -/

/-- A byte as the value of a port write. -/
def portValue (byte : BitVec 8) : BitVec 32 := byte.setWidth 32

/-- The first round: the high bytes of the count and of the address. -/
def lba48High (lba : BitVec 48) (count : BitVec 16) : List (BitVec 32 × BitVec 32) :=
  [(0x1f2, portValue ((count >>> 8).setWidth 8)), (0x1f3, portValue ((lba >>> 24).setWidth 8)),
    (0x1f4, portValue ((lba >>> 32).setWidth 8)), (0x1f5, portValue ((lba >>> 40).setWidth 8))]

/-- The second round: the low bytes. -/
def lba48Low (lba : BitVec 48) (count : BitVec 16) : List (BitVec 32 × BitVec 32) :=
  [(0x1f2, portValue (count.setWidth 8)), (0x1f3, portValue (lba.setWidth 8)),
    (0x1f4, portValue ((lba >>> 8).setWidth 8)), (0x1f5, portValue ((lba >>> 16).setWidth 8))]

/-! ## What an EXT command looks up -/

namespace HardDisk

variable (s : HardDisk)

/-- The state in which an EXT command that is let through looks its address up. -/
def extLookup : HardDisk :=
  ((hardDiskLowerIrq 0 s).modifyController 0 fun c => c.clearStatus ideStatusError).modifyController
    0 (AtaController.lba48Transform 1)

/-- The address that an EXT command uses; -1 where it is not on the disk. -/
def extAddress : BitVec 64 := (s.extLookup.drive 0).calculateLogicalAddress s.image.size

/-- The sector count that an EXT command uses. -/
def extCount : BitVec 32 := (s.extLookup.controller 0).numberOfSectors

end HardDisk

/-- The address that is to be used for a 48-bit LBA: itself, if it is on the disk. -/
def diskAddress (size : BitVec 64) (lba : BitVec 48) : BitVec 64 :=
  if size / 512 ≤ lba.setWidth 64 then -1 else lba.setWidth 64

/-- The number of sectors that a 16-bit count stands for. -/
def sectorsAsked (count : BitVec 16) : ℕ := if count = 0 then 65536 else count.toNat

/-- Whatever the order of the writes in each round, an EXT command then uses the address and the
count that were written. -/
def Lba48Honoured (s : HardDisk) (lba : BitVec 48) (count : BitVec 16) : Prop :=
  ∀ first second, first.Perm (lba48High lba count) → second.Perm (lba48Low lba count) →
    ∃ t, hardDiskWrites (first ++ second) s = .ok t ∧
      t.extAddress = diskAddress s.image.size lba ∧ t.extCount.toNat = sectorsAsked count

/-- The EXT commands use the address and the count that the lookup finds. -/
structure HardDisk.ExtUsesLookup (s : HardDisk) : Prop where
  sectors : ∀ (multiples : List (BitVec 8)), ∀ command ∈ readCommandsExt ++ writeCommandsExt,
    ((s.ready multiples command).drive 0).calculateLogicalAddress s.image.size = s.extAddress ∧
      ((s.ready multiples command).controller 0).numberOfSectors = s.extCount
  dma : (s.drive 0).driveType = .disk → s.bdmaPresent ≠ 0 →
    ∀ start : AtaController → AtaController,
      hardDiskDmaCommand 0 1 start
          ((hardDiskLowerIrq 0 s).modifyController 0 fun c => c.clearStatus ideStatusError) =
        if s.extAddress = -1 then hardDiskCommandAborted 0 s.extLookup
        else s.extLookup.modifyDrive 0 fun d =>
          { d with nextLSector := s.extAddress, controller := start d.controller }

section Commands

variable {s : HardDisk}

/-- A DMA command uses the address and the count that the lookup finds. -/
lemma hardDiskDmaCommand_ext (hdisk : (s.drive 0).driveType = .disk) (hbdma : s.bdmaPresent ≠ 0)
    (start : AtaController → AtaController) :
    hardDiskDmaCommand 0 1 start
        ((hardDiskLowerIrq 0 s).modifyController 0 fun c => c.clearStatus ideStatusError) =
      if s.extAddress = -1 then hardDiskCommandAborted 0 s.extLookup
      else s.extLookup.modifyDrive 0 fun d =>
        { d with nextLSector := s.extAddress, controller := start d.controller } := by
  unfold hardDiskDmaCommand
  rw [if_neg]
  · rfl
  · rw [HardDisk.drive_modifyController]
    rintro (hne | hnone)
    · exact hne hdisk
    · exact hbdma hnone

/-- A sector command uses the address and the count that the lookup finds. -/
lemma ready_ext (s : HardDisk) (multiples : List (BitVec 8)) {command : BitVec 8}
    (hext : command ∈ readCommandsExt ++ writeCommandsExt) :
    ((s.ready multiples command).drive 0).calculateLogicalAddress s.image.size = s.extAddress ∧
      ((s.ready multiples command).controller 0).numberOfSectors = s.extCount := by
  have hlookup : s.ready multiples command = s.extLookup.modifyController 0
      (AtaController.startBlock (decide (command ∈ multiples))) := by
    unfold HardDisk.ready extFlag
    rw [if_pos hext]
    rfl
  rw [hlookup, HardDisk.drive_modifyController, HardDisk.controller_modifyController]
  exact ⟨rfl, rfl⟩

end Commands

/-! ## The bytes of the cylinder register -/

section Bytes

variable (x : BitVec 16) (byte : BitVec 8)

lemma lowMask_getLsbD : ∀ i < 8, (0xff#16).getLsbD i = true := by decide

lemma highMask_getLsbD :
    ∀ i < 8, (0xff#16).getLsbD (8 + i) = false ∧ (0xff00#16).getLsbD (8 + i) = true := by
  decide

lemma low_storeLow : (x &&& 0xff00#16 ||| byte.setWidth 16).setWidth 8 = byte := by
  apply BitVec.eq_of_getLsbD_eq
  intro i hi
  simp [hi]

lemma high_storeLow :
    ((x &&& 0xff00#16 ||| byte.setWidth 16) >>> 8).setWidth 8 = (x >>> 8).setWidth 8 := by
  apply BitVec.eq_of_getLsbD_eq
  intro i hi
  have hmask := (highMask_getLsbD i hi).2
  simp [hi, hmask]

lemma low_storeHigh : (byte.setWidth 16 <<< 8 ||| x &&& 0xff#16).setWidth 8 = x.setWidth 8 := by
  apply BitVec.eq_of_getLsbD_eq
  intro i hi
  have hmask := lowMask_getLsbD i hi
  rw [BitVec.getLsbD_setWidth, BitVec.getLsbD_or, BitVec.getLsbD_and, hmask]
  simp [hi]

lemma high_storeHigh : ((byte.setWidth 16 <<< 8 ||| x &&& 0xff#16) >>> 8).setWidth 8 = byte := by
  apply BitVec.eq_of_getLsbD_eq
  intro i hi
  have hmask := (highMask_getLsbD i hi).1
  have hwide : 8 + i < 16 := by omega
  rw [BitVec.getLsbD_setWidth, BitVec.getLsbD_ushiftRight, BitVec.getLsbD_or, BitVec.getLsbD_and,
    hmask]
  simp [hi, hwide]

end Bytes

/-! ## Writes of the address ports -/

/-- The ports that the two rounds write. -/
def addressPorts : List (BitVec 32) := [0x1f2, 0x1f3, 0x1f4, 0x1f5]

namespace AtaController

/-- What a write of an address port does to a controller. -/
def storePort (port : BitVec 32) (byte : BitVec 8) (c : AtaController) : AtaController :=
  if port = 0x1f2 then { c with sectorCount := byte }
  else if port = 0x1f3 then { c with sectorNumber := byte }
  else if port = 0x1f4 then
    { c with cylinderNumber := c.cylinderNumber &&& 0xff00 ||| byte.setWidth 16 }
  else { c with cylinderNumber := byte.setWidth 16 <<< 8 ||| c.cylinderNumber &&& 0xff }

/-- The byte that an address port stands for. -/
def portByte (port : BitVec 32) (c : AtaController) : BitVec 8 :=
  if port = 0x1f2 then c.sectorCount
  else if port = 0x1f3 then c.sectorNumber
  else if port = 0x1f4 then c.cylinderNumber.setWidth 8
  else (c.cylinderNumber >>> 8).setWidth 8

/-- The writes of several address ports. -/
def storePorts (writes : List (BitVec 32 × BitVec 32)) (c : AtaController) : AtaController :=
  writes.foldl (fun c write => c.storePort write.1 (write.2.setWidth 8)) c

variable (c : AtaController)

lemma portByte_storePort {port port' : BitVec 32} (h : port ∈ addressPorts)
    (h' : port' ∈ addressPorts) (byte : BitVec 8) :
    (c.storePort port byte).portByte port' = if port' = port then byte else c.portByte port' := by
  simp only [addressPorts, List.mem_cons, List.not_mem_nil, or_false] at h h'
  rcases h with rfl | rfl | rfl | rfl
  · rcases h' with rfl | rfl | rfl | rfl <;> rfl
  · rcases h' with rfl | rfl | rfl | rfl <;> rfl
  · rcases h' with rfl | rfl | rfl | rfl
    · rfl
    · rfl
    · exact low_storeLow c.cylinderNumber byte
    · exact high_storeLow c.cylinderNumber byte
  · rcases h' with rfl | rfl | rfl | rfl
    · rfl
    · rfl
    · exact low_storeHigh c.cylinderNumber byte
    · exact high_storeHigh c.cylinderNumber byte

lemma hob_storePorts (writes : List (BitVec 32 × BitVec 32)) :
    (c.storePorts writes).hob = c.hob ∧ (c.storePorts writes).addressMode = c.addressMode := by
  induction writes generalizing c with
  | nil => exact ⟨rfl, rfl⟩
  | cons write writes ih =>
      obtain ⟨hhob, hmode⟩ := ih (c.storePort write.1 (write.2.setWidth 8))
      have hkept : (c.storePort write.1 (write.2.setWidth 8)).hob = c.hob ∧
          (c.storePort write.1 (write.2.setWidth 8)).addressMode = c.addressMode := by
        unfold storePort
        repeat' split
        all_goals exact ⟨rfl, rfl⟩
      exact ⟨hhob.trans hkept.1, hmode.trans hkept.2⟩

/-- After writes to different ports each of them stands for the byte written to it. -/
lemma portByte_storePorts {writes : List (BitVec 32 × BitVec 32)}
    (hports : ∀ write ∈ writes, write.1 ∈ addressPorts) (hnodup : (writes.map Prod.fst).Nodup) :
    (∀ write ∈ writes, (c.storePorts writes).portByte write.1 = write.2.setWidth 8) ∧
      ∀ port ∈ addressPorts, port ∉ writes.map Prod.fst →
        (c.storePorts writes).portByte port = c.portByte port := by
  induction writes generalizing c with
  | nil => exact ⟨fun _ h => absurd h List.not_mem_nil, fun _ _ _ => rfl⟩
  | cons write writes ih =>
      obtain ⟨hnew, hnodup⟩ := List.nodup_cons.mp hnodup
      have hport : write.1 ∈ addressPorts := hports write List.mem_cons_self
      have hrest : ∀ w ∈ writes, w.1 ∈ addressPorts := fun w hw =>
        hports w (List.mem_cons_of_mem _ hw)
      obtain ⟨hwritten, hkept⟩ := ih (c.storePort write.1 (write.2.setWidth 8)) hrest hnodup
      refine ⟨fun w hw => ?_, fun port haddress hother => ?_⟩
      · rcases List.mem_cons.mp hw with rfl | hw
        · have hlast := hkept w.1 hport hnew
          rw [c.portByte_storePort hport hport, if_pos rfl] at hlast
          exact hlast
        · exact hwritten w hw
      · rw [List.map_cons, List.mem_cons, not_or] at hother
        have hlast := hkept port haddress hother.2
        rw [c.portByte_storePort hport haddress, if_neg hother.1] at hlast
        exact hlast

end AtaController

lemma HardDisk.modifyControllers_modifyControllers (ch : Fin 4) (s : HardDisk)
    (f g : AtaController → AtaController) :
    (s.modifyControllers ch f).modifyControllers ch g = s.modifyControllers ch fun c =>
      g (f c) := by
  simp [HardDisk.modifyControllers, HardDisk.setChannel]

/-- A write of an address port reaches the registers of both drives. -/
lemma HardDisk.Installed.write_port {s : HardDisk} (hs : s.Installed) {port : BitVec 32}
    (hport : port ∈ addressPorts) (value length : BitVec 32) :
    hardDiskPortIoWriteHandler port value length s =
      .ok (s.modifyControllers 0 (AtaController.storePort port (value.setWidth 8))) := by
  have hdecode : s.decode port = (0, port - 0x1f0) := by
    have hports := hs.ports 0
    simp only [if_true, Prod.mk.injEq] at hports
    simp only [addressPorts, List.mem_cons, List.not_mem_nil, or_false] at hport
    rcases hport with rfl | rfl | rfl | rfl <;> simp [HardDisk.decode, hports.1]
  unfold hardDiskPortIoWriteHandler
  rw [hdecode]
  simp only [addressPorts, List.mem_cons, List.not_mem_nil, or_false] at hport
  rcases hport with rfl | rfl | rfl | rfl <;> rfl

lemma AtaController.buffer_storePort (c : AtaController) (port : BitVec 32) (byte : BitVec 8) :
    (c.storePort port byte).buffer = c.buffer := by
  unfold storePort
  repeat' split
  all_goals rfl

lemma HardDisk.Installed.storePort {s : HardDisk} (hs : s.Installed) (port : BitVec 32)
    (byte : BitVec 8) : (s.modifyControllers 0 (AtaController.storePort port byte)).Installed := by
  refine ⟨fun ch => ?_, ?_, ?_, ?_⟩
  · rw [← hs.ports ch]
    by_cases hch : ch = 0
    · subst hch
      simp [HardDisk.modifyControllers]
    · simp [HardDisk.modifyControllers, HardDisk.setChannel, hch]
  · rw [← hs.selected]
    simp [HardDisk.modifyControllers, AtaChannel.dnum]
  · rw [← hs.isDisk]
    simp [HardDisk.modifyControllers, HardDisk.drive, AtaChannel.dnum]
  · rw [← hs.allocated]
    simp [HardDisk.modifyControllers, HardDisk.controller, HardDisk.drive, AtaChannel.dnum,
      AtaController.buffer_storePort]

lemma hardDiskWrites_ports {writes : List (BitVec 32 × BitVec 32)} {s : HardDisk}
    (hs : s.Installed) (hports : ∀ write ∈ writes, write.1 ∈ addressPorts) :
    hardDiskWrites writes s = .ok (s.modifyControllers 0 (AtaController.storePorts writes)) := by
  induction writes generalizing s with
  | nil =>
      show Except.ok s = _
      simp [AtaController.storePorts, HardDisk.modifyControllers, HardDisk.setChannel]
  | cons write writes ih =>
      have hfirst := hs.write_port (hports write List.mem_cons_self) write.2 1
      have hrest := ih (hs.storePort write.1 (write.2.setWidth 8)) fun w hw =>
        hports w (List.mem_cons_of_mem _ hw)
      show (hardDiskPortIoWriteHandler write.1 write.2 1 s >>= fun t => hardDiskWrites writes t) = _
      rw [hfirst, ok_bind, hrest, HardDisk.modifyControllers_modifyControllers]
      rfl

/-! ## What is looked up then -/

namespace Hob

/-- The high half of the address, as the `Hob` registers hold it. -/
def address (h : Hob) : BitVec 24 := h.highCylinder ++ h.lowCylinder ++ h.sector

end Hob

/-- The address that the registers hold after the two rounds: its low half was written. -/
def staleAddress (h : Hob) (lba : BitVec 48) : BitVec 48 := h.address ++ lba.setWidth 24

lemma logicalAddress_ext {d : AtaDrive} {lba : BitVec 48} (hmode : d.controller.addressMode ≠ 0)
    (hlba : d.controller.lba48 ≠ 0) (hsector : d.controller.sectorNumber = lba.setWidth 8)
    (hlow : d.controller.cylinderNumber.setWidth 8 = (lba >>> 8).setWidth 8)
    (hhigh : (d.controller.cylinderNumber >>> 8).setWidth 8 = (lba >>> 16).setWidth 8) :
    d.logicalAddress = (staleAddress d.controller.hob lba).setWidth 64 := by
  have hcylinder : d.controller.cylinderNumber = (lba >>> 8).setWidth 16 := by
    apply BitVec.eq_of_getLsbD_eq
    intro i hi
    have hl := congrArg (fun x : BitVec 8 => x.getLsbD i) hlow
    have hh := congrArg (fun x : BitVec 8 => x.getLsbD (i - 8)) hhigh
    simp only [BitVec.getLsbD_setWidth, BitVec.getLsbD_ushiftRight] at hl hh ⊢
    by_cases hbyte : i < 8
    · simpa [hbyte, hi] using hl
    · have hback : 8 + (i - 8) = i := by omega
      have hback' : 16 + (i - 8) = 8 + i := by omega
      have hrange : i - 8 < 8 := by omega
      simpa [hback, hback', hrange, hi] using hh
  simp only [AtaDrive.logicalAddress, if_pos hmode, if_pos hlba, hsector, hcylinder, staleAddress,
    Hob.address]
  apply BitVec.eq_of_getLsbD_eq
  intro i hi
  simp only [BitVec.getLsbD_or, BitVec.getLsbD_shiftLeft, BitVec.getLsbD_setWidth,
    BitVec.getLsbD_ushiftRight, BitVec.getLsbD_append]
  grind

/-- The sector count that the registers hold after the two rounds. -/
def staleCount (h : Hob) (count : BitVec 16) : BitVec 16 := h.nsector ++ count.setWidth 8

/-- The count of an EXT command is that of the two count registers. -/
lemma toNat_numberOfSectors_ext (c : AtaController) :
    (c.lba48Transform 1).numberOfSectors.toNat = sectorsAsked (c.hob.nsector ++ c.sectorCount) := by
  have happend : (c.hob.nsector ++ c.sectorCount : BitVec 16).toNat =
      c.hob.nsector.toNat * 256 + c.sectorCount.toNat := by
    rw [BitVec.toNat_append, Nat.shiftLeft_eq,
      ← Nat.shiftLeft_eq, ← Nat.shiftLeft_add_eq_or_of_lt c.sectorCount.isLt, Nat.shiftLeft_eq]
  have hcount := c.sectorCount.isLt
  have hnsector := c.hob.nsector.isLt
  have hzero : (c.hob.nsector ++ c.sectorCount : BitVec 16) = 0 ↔
      c.sectorCount = 0 ∧ c.hob.nsector = 0 := by
    rw [← BitVec.toNat_inj, happend, ← BitVec.toNat_inj, ← BitVec.toNat_inj]
    simp only [BitVec.ofNat_eq_ofNat, BitVec.toNat_ofNat, Nat.zero_mod]
    omega
  have hext : ¬ (1 : BitVec 8) = 0 := by decide
  unfold sectorsAsked AtaController.lba48Transform
  simp only [if_neg hext]
  by_cases hboth : c.sectorCount = 0 ∧ c.hob.nsector = 0
  · rw [if_pos hboth, if_pos (hzero.mpr hboth)]
    rfl
  · rw [if_neg hboth, if_neg (hzero.not.mpr hboth), happend, BitVec.toNat_or,
      BitVec.toNat_shiftLeft, BitVec.toNat_setWidth, BitVec.toNat_setWidth, Nat.shiftLeft_eq,
      Nat.mod_eq_of_lt (by omega : c.hob.nsector.toNat < 2 ^ 32),
      Nat.mod_eq_of_lt (by omega : c.sectorCount.toNat < 2 ^ 32),
      Nat.mod_eq_of_lt (by omega : c.hob.nsector.toNat * 2 ^ 8 < 2 ^ 32), ← Nat.shiftLeft_eq,
      ← Nat.shiftLeft_add_eq_or_of_lt hcount, Nat.shiftLeft_eq]

/-- The writes of a round are to the four ports, each once. -/
lemma round_ports {writes round : List (BitVec 32 × BitVec 32)} (h : writes.Perm round)
    (hround : round.map Prod.fst = addressPorts) :
    (∀ write ∈ writes, write.1 ∈ addressPorts) ∧ (writes.map Prod.fst).Nodup := by
  have hmap := h.map Prod.fst
  rw [hround] at hmap
  refine ⟨fun write hwrite => ?_, ?_⟩
  · exact hmap.mem_iff.mp (List.mem_map_of_mem hwrite)
  · rw [hmap.nodup_iff]
    decide

@[simp] lemma HardDisk.drive_modifyControllers (ch : Fin 4) (s : HardDisk)
    (f : AtaController → AtaController) : (s.modifyControllers ch f).drive ch =
      { s.drive ch with controller := f (s.controller ch) } := by
  simp [HardDisk.modifyControllers, HardDisk.drive, HardDisk.controller, AtaChannel.dnum]

lemma HardDisk.drive_extLookup (s : HardDisk) :
    s.extLookup.drive 0 = { s.drive 0 with
      controller := ((s.controller 0).clearStatus ideStatusError).lba48Transform 1 } := by
  simp only [HardDisk.extLookup, HardDisk.drive_modifyController,
    HardDisk.controller_modifyController]
  rfl

/-- The two rounds leave the low halves in the registers, and `Hob` as it was. -/
lemma two_rounds {s : HardDisk} (hs : s.Installed) (hmode : (s.controller 0).addressMode ≠ 0)
    {lba : BitVec 48} {count : BitVec 16} {first second : List (BitVec 32 × BitVec 32)}
    (hfirst : first.Perm (lba48High lba count)) (hsecond : second.Perm (lba48Low lba count)) :
    ∃ t, hardDiskWrites (first ++ second) s = .ok t ∧
      t.extAddress = diskAddress s.image.size (staleAddress (s.controller 0).hob lba) ∧
      t.extCount.toNat = sectorsAsked (staleCount (s.controller 0).hob count) := by
  obtain ⟨hports, -⟩ := round_ports hfirst rfl
  obtain ⟨hports', hnodup⟩ := round_ports hsecond rfl
  refine ⟨_, hardDiskWrites_ports hs fun w hw =>
    (List.mem_append.mp hw).elim (hports w) (hports' w),
    ?_⟩
  set c := (s.controller 0).storePorts first with hc
  obtain ⟨hhob, hmode'⟩ := c.hob_storePorts second
  obtain ⟨hhob₀, hmode₀⟩ := (s.controller 0).hob_storePorts first
  have hbyte {port : BitVec 32} {byte : BitVec 8}
      (hmem : (port, portValue byte) ∈ lba48Low lba count) :
      (c.storePorts second).portByte port = byte := by
    have hlast := (c.portByte_storePorts hports' hnodup).1 _ (hsecond.mem_iff.mpr hmem)
    simpa [portValue] using hlast
  have hdrive : (s.modifyControllers 0 (AtaController.storePorts (first ++ second))).drive 0 =
      { s.drive 0 with controller := c.storePorts second } := by
    rw [HardDisk.drive_modifyControllers, AtaController.storePorts, List.foldl_append]
    rfl
  set t := s.modifyControllers 0 (AtaController.storePorts (first ++ second)) with ht
  have hcontroller : t.controller 0 = c.storePorts second := by
    rw [HardDisk.controller_eq_drive, hdrive]
  refine ⟨?_, ?_⟩
  · have haddress : (t.extLookup.drive 0).logicalAddress =
        (staleAddress (s.controller 0).hob lba).setWidth 64 := by
      rw [t.drive_extLookup, hcontroller, ← hhob₀, ← hhob]
      refine logicalAddress_ext ?_ ?_ ?_ ?_ ?_
      · exact (hmode'.trans hmode₀).symm ▸ hmode
      · exact (by decide : (1 : BitVec 8) ≠ 0)
      · exact @hbyte 0x1f3 _ (by simp [lba48Low])
      · exact @hbyte 0x1f4 _ (by simp [lba48Low])
      · exact @hbyte 0x1f5 _ (by simp [lba48Low])
    rw [HardDisk.extAddress, AtaDrive.calculateLogicalAddress, haddress]
    rfl
  · have hcount : (c.storePorts second).sectorCount = count.setWidth 8 :=
      @hbyte 0x1f2 _ (by simp [lba48Low])
    rw [HardDisk.extCount, HardDisk.controller_eq_drive, t.drive_extLookup, hcontroller, staleCount,
      ← hhob₀, ← hhob, ← hcount]
    exact toNat_numberOfSectors_ext _

/-! ## When the guest's address and count are used -/

lemma sectorsAsked_inj {x y : BitVec 16} : sectorsAsked x = sectorsAsked y ↔ x = y := by
  refine ⟨fun h => ?_, fun h => by rw [h]⟩
  have hx := x.isLt
  have hy := y.isLt
  unfold sectorsAsked at h
  split at h
  · rename_i hx0
    split at h
    · rename_i hy0
      rw [hx0, hy0]
    · omega
  · split at h
    · omega
    · exact BitVec.eq_of_toNat_eq h

lemma staleCount_eq {h : Hob} {count : BitVec 16} :
    staleCount h count = count ↔ h.nsector = (count >>> 8).setWidth 8 := by
  constructor
  · intro heq
    rw [← heq, staleCount]
    apply BitVec.eq_of_getLsbD_eq
    intro i hi
    rw [BitVec.getLsbD_setWidth, BitVec.getLsbD_ushiftRight, BitVec.getLsbD_append]
    simp [hi]
  · intro heq
    rw [staleCount, heq]
    apply BitVec.eq_of_getLsbD_eq
    intro i hi
    simp only [BitVec.getLsbD_append, BitVec.getLsbD_setWidth, BitVec.getLsbD_ushiftRight]
    grind

lemma staleAddress_eq {h : Hob} {lba : BitVec 48} :
    staleAddress h lba = lba ↔ h.address = (lba >>> 24).setWidth 24 := by
  constructor
  · intro heq
    rw [← heq, staleAddress]
    apply BitVec.eq_of_getLsbD_eq
    intro i hi
    rw [BitVec.getLsbD_setWidth, BitVec.getLsbD_ushiftRight, BitVec.getLsbD_append]
    simp [hi]
  · intro heq
    rw [staleAddress, heq]
    apply BitVec.eq_of_getLsbD_eq
    intro i hi
    simp only [BitVec.getLsbD_append, BitVec.getLsbD_setWidth, BitVec.getLsbD_ushiftRight]
    grind

/-- The address is not on a disk of the size. -/
def BeyondDisk (size : BitVec 64) (lba : BitVec 48) : Prop := size / 512 ≤ lba.setWidth 64

instance (size : BitVec 64) (lba : BitVec 48) : Decidable (BeyondDisk size lba) :=
  inferInstanceAs (Decidable (size / 512 ≤ lba.setWidth 64))

/-- Two addresses are used alike exactly when they are the same, or neither is on the disk. -/
lemma diskAddress_eq_iff {size : BitVec 64} {x y : BitVec 48} :
    diskAddress size x = diskAddress size y ↔ x = y ∨ BeyondDisk size x ∧ BeyondDisk size y := by
  have hwide (z : BitVec 48) : z.setWidth 64 ≠ -1 := by
    intro h
    have hbit := congrArg (fun w : BitVec 64 => w.getLsbD 63) h
    simp at hbit
  have hinj (h : x.setWidth 64 = y.setWidth 64) : x = y := by
    have hcut := congrArg (fun w : BitVec 64 => w.setWidth 48) h
    simpa using hcut
  unfold diskAddress BeyondDisk
  constructor
  · intro h
    split at h
    · rename_i hx
      split at h
      · rename_i hy
        exact .inr ⟨hx, hy⟩
      · exact absurd h.symm (hwide y)
    · split at h
      · exact absurd h (hwide x)
      · exact .inl (hinj h)
  · rintro (rfl | ⟨hx, hy⟩)
    · rfl
    · rw [if_pos hx, if_pos hy]

/-- The `Hob` registers already hold the high half of the count, and that of the address unless
both the address and the one with the stale high half are beyond the disk. -/
def HobHolds (s : HardDisk) (lba : BitVec 48) (count : BitVec 16) : Prop :=
  (s.controller 0).hob.nsector = (count >>> 8).setWidth 8 ∧
    ((s.controller 0).hob.address = (lba >>> 24).setWidth 24 ∨
      BeyondDisk s.image.size (staleAddress (s.controller 0).hob lba) ∧
        BeyondDisk s.image.size lba)

instance (s : HardDisk) (lba : BitVec 48) (count : BitVec 16) : Decidable (HobHolds s lba count) :=
  inferInstanceAs (Decidable (_ ∧ _))

/-- The two-write protocol works exactly when `Hob` happens to hold the high bytes already; what it
is to bring about, the EXT commands use. -/
theorem lba48_honoured_iff {s : HardDisk} (hs : s.Installed)
    (hmode : (s.controller 0).addressMode ≠ 0) (lba : BitVec 48) (count : BitVec 16) :
    (Lba48Honoured s lba count ↔ HobHolds s lba count) ∧ ∀ t : HardDisk, t.ExtUsesLookup := by
  refine ⟨?_, fun t => ⟨fun multiples command => ready_ext t multiples, hardDiskDmaCommand_ext⟩⟩
  have hequiv : diskAddress s.image.size (staleAddress (s.controller 0).hob lba) =
        diskAddress s.image.size lba ∧
      sectorsAsked (staleCount (s.controller 0).hob count) = sectorsAsked count ↔
      HobHolds s lba count := by
    rw [diskAddress_eq_iff, sectorsAsked_inj, staleCount_eq, staleAddress_eq, and_comm]
    rfl
  rw [← hequiv]
  constructor
  · intro h
    obtain ⟨t, ht, haddress, hcount⟩ := h _ _ (List.Perm.refl _) (List.Perm.refl _)
    obtain ⟨u, hu, haddress', hcount'⟩ :=
      two_rounds hs hmode (List.Perm.refl (lba48High lba count)) (List.Perm.refl _)
    obtain rfl : t = u := Except.ok.inj (ht.symm.trans hu)
    exact ⟨haddress'.symm.trans haddress, hcount'.symm.trans hcount⟩
  · rintro ⟨haddress, hcount⟩ first second hfirst hsecond
    obtain ⟨t, ht, haddress', hcount'⟩ := two_rounds hs hmode hfirst hsecond
    exact ⟨t, ht, haddress'.trans haddress, hcount'.trans hcount⟩

/-- A disk of 16 GiB of zeros. -/
def largeImage : DiskImage :=
  { size := 0x400000000
    content := fun _ => 0
    offset := 0
    seeks := []
    writes := []
    writeSucceeds := fun _ => true }

/-- The drive of that disk, in LBA mode. -/
def largeDisk : HardDiskOutcome HardDisk :=
  hardDiskWrites [(0x1f6, 0x40)] (hardDiskInitialize largeImage ⟨0, fun _ => []⟩ 0)

/-- Eight sectors from 0x123456 on, below the addresses that need the high half. -/
theorem lba48_honoured_iff_low :
    ∃ s, largeDisk = .ok s ∧ s.Installed ∧ Lba48Honoured s 0x123456 8 ∧ s.ExtUsesLookup := by
  have hends : ends (fun s => s.Installed ∧ (s.controller 0).addressMode ≠ 0 ∧
      HobHolds s 0x123456 8) largeDisk = true := by
    decide +kernel
  obtain ⟨s, hs, hinstalled, hmode, hholds⟩ := exists_of_ends _ hends
  obtain ⟨hiff, huses⟩ := lba48_honoured_iff hinstalled hmode 0x123456 8
  exact ⟨s, hs, hinstalled, hiff.mpr hholds, huses s⟩

/-- Sector 0x1000000 of that disk is asked for, and sector 0 is used. -/
theorem lba48_high_bytes_lost :
    ∃ s, largeDisk = .ok s ∧ ¬ BeyondDisk s.image.size 0x1000000 ∧
      ¬ Lba48Honoured s 0x1000000 1 := by
  have hends : ends (fun s => s.Installed ∧ (s.controller 0).addressMode ≠ 0 ∧
      s.image.size = 0x400000000 ∧ (s.controller 0).hob = ⟨0, 0, 0, 0⟩) largeDisk = true := by
    decide +kernel
  obtain ⟨s, hs, hinstalled, hmode, hsize, hhob⟩ := exists_of_ends _ hends
  refine ⟨s, hs, ?_, fun h => ?_⟩
  · rw [hsize]
    decide
  · obtain ⟨t, ht, haddress, -⟩ := h _ _ (List.Perm.refl _) (List.Perm.refl _)
    obtain ⟨u, hu, hstale, -⟩ :=
      two_rounds hinstalled hmode (List.Perm.refl (lba48High 0x1000000 1)) (List.Perm.refl _)
    obtain rfl : t = u := Except.ok.inj (ht.symm.trans hu)
    rw [haddress, hsize, hhob] at hstale
    exact absurd hstale (by decide)

end Svmm
