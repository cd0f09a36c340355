import Svmm.Properties.HardDisk.PacketData

/-!
# Sending a packet

`PACKET` in the command register, and the twelve bytes of the packet in the data port: in accesses
of whatever width, the last of them runs the command with all twelve bytes in the buffer.
-/

namespace Svmm

open TransitionRun Bytes

/-- The words in which a packet is written, in accesses of a width. -/
def packetWords (packet : ℕ → BitVec 8) (width : BitVec 32) : List (BitVec 32) :=
  (List.range (12 / width.toNat)).map fun i =>
    littleEndian (fun j => packet (i * width.toNat + j)) width.toNat

/-- A write of the data port of channel 1. -/
def packetWrite (width : BitVec 32) (s : HardDisk) (value : BitVec 32) : HardDiskOutcome HardDisk :=
  hardDiskPortIoWriteHandler 0x170 value width s

/-- The guest sends a packet. -/
def sendPacket (packet : ℕ → BitVec 8) (width : BitVec 32) (s : HardDisk) :
    HardDiskOutcome HardDisk := do
  let s ← hardDiskPortIoWriteHandler 0x177 0xa0 1 s
  TransitionRun.run (packetWrite width) s (packetWords packet width)

namespace AtaController

variable (c : AtaController)

/-- The first bytes of a packet are in the buffer. -/
def collecting (packet : ℕ → BitVec 8) (count : ℕ) : AtaController :=
  { c with
    buffer := { c.buffer with byte := fun j => if j < count then packet j else c.buffer.byte j }
    bufferIndex := BitVec.ofNat 32 count }

/-- The registers when a packet is expected. -/
def packetExpected : AtaController :=
  { c with
    packetDma := c.features &&& 0x01
    sectorCount := 1
    status := Word.set (Word.clear (Word.clear (Word.clear c.status ideStatusError) ideStatusBusy)
      ideStatusWriteFault) ideStatusDevReq
    currentCommand := ideCommandAtapiPacket
    bufferIndex := 0 }

/-- The registers when the packet is complete. -/
def packetComplete (packet : ℕ → BitVec 8) : AtaController :=
  { c.packetExpected.collecting packet 12 with bufferSize := 2048 }

end AtaController

section Send

variable {s : HardDisk} {packet : ℕ → BitVec 8} {width : BitVec 32}

lemma hardDiskCommand_packet (ch : Fin 4) (s : HardDisk) :
    hardDiskCommand ch 0xa0 s = .ok (hardDiskPacketCommand ch 0xa0 s) := rfl

/-- Two controllers one after the other. -/
lemma modifyController_modifyController (f g : AtaController → AtaController) :
    (s.modifyController 1 f).modifyController 1 g = s.modifyController 1 fun c => g (f c) := by
  simp [HardDisk.modifyController, HardDisk.modifyDrive, HardDisk.modifyDriveAt,
    HardDisk.setChannel, AtaChannel.dnum]

lemma modifyController_const (f : AtaController → AtaController) :
    s.modifyController 1 f = s.modifyController 1 fun _ => f (s.controller 1) := by
  simp [HardDisk.modifyController, HardDisk.modifyDrive, HardDisk.modifyDriveAt,
    HardDisk.controller, HardDisk.drive]

/-- `PACKET` is accepted by an idle CD-ROM drive. -/
lemma write_packet_command (h : s.CdInstalled)
    (hidle : (s.controller 1).hasStatus ideStatusBusy = false) :
    hardDiskPortIoWriteHandler 0x177 0xa0 1 s =
      .ok ((hardDiskLowerIrq 1 s).modifyController 1 fun c => c.packetExpected) := by
  have hdma (x : BitVec 8) : ¬ x &&& 0x01 &&& 0x02 ≠ 0 := by
    rw [BitVec.and_assoc]
    exact not_not.mpr BitVec.and_zero
  have htype (f : AtaController → AtaController) :
      ((hardDiskLowerIrq 1 s).modifyController 1 f |>.drive 1).driveType = .cdrom := by
    rw [HardDisk.drive_modifyController]
    exact h.isCdRom
  have hbusy : ¬ ((hardDiskLowerIrq 1 s).controller 1).hasStatus ideStatusBusy = true := by
    show ¬ (s.controller 1).hasStatus ideStatusBusy = true
    rw [hidle]
    exact Bool.false_ne_true
  rw [h.write_command, hardDiskWriteCommandRegister, if_neg (not_not.mpr h.selected)]
  simp only [if_neg hbusy]
  rw [if_neg (by decide), hardDiskCommand_packet, hardDiskPacketCommand,
    if_neg (not_not.mpr (htype _))]
  simp only [HardDisk.controller_modifyController, if_neg (hdma _),
    modifyController_modifyController]
  rfl

variable (packet) in
/-- The buffer after one more word of the packet. -/
lemma collecting_store (c : AtaController) (hw : width ∈ portWidths) {i : ℕ}
    (hroom : (i + 1) * width.toNat ≤ 12) (hsize : c.buffer.size = 2356) :
    (c.collecting packet (i * width.toNat)).buffer.store
        (c.collecting packet (i * width.toNat)).bufferIndex.toNat width
        (littleEndian (fun j => packet (i * width.toNat + j)) width.toNat) =
      .ok (c.collecting packet ((i + 1) * width.toNat)).buffer := by
  obtain ⟨haccess, -, hsmall, -⟩ := accessLength_of_width hw
  rw [Nat.add_mul, Nat.one_mul] at hroom ⊢
  have hindex : (c.collecting packet (i * width.toNat)).bufferIndex.toNat = i * width.toNat := by
    show (BitVec.ofNat 32 (i * width.toNat)).toNat = _
    rw [BitVec.toNat_ofNat]
    omega
  rw [AtaBuffer.store, haccess, hindex, AtaBuffer.fill, if_pos (by
    show i * width.toNat + width.toNat ≤ c.buffer.size
    omega)]
  refine congrArg Except.ok (congrArg (AtaBuffer.mk c.buffer.size) (funext fun j => ?_))
  show (if i * width.toNat ≤ j ∧ j < i * width.toNat + width.toNat then
      byteAt _ (j - i * width.toNat)
    else if j < i * width.toNat then packet j else c.buffer.byte j) =
      if j < i * width.toNat + width.toNat then packet j else c.buffer.byte j
  by_cases hnew : i * width.toNat ≤ j ∧ j < i * width.toNat + width.toNat
  · have hposition : i * width.toNat + (j - i * width.toNat) = j := by omega
    rw [if_pos hnew, if_pos hnew.2, byteAt_littleEndian _ hsmall (by omega), hposition]
  · rw [if_neg hnew]
    by_cases hold : j < i * width.toNat
    · rw [if_pos hold, if_pos (by omega)]
    · rw [if_neg hold, if_neg (by omega)]

/-- A word of the packet goes into the buffer, and the last of them runs the command. -/
lemma packetWrite_collecting {t : HardDisk} (ht : t.CdInstalled)
    (hcommand : (t.controller 1).currentCommand = ideCommandAtapiPacket)
    (hw : width ∈ portWidths) {i : ℕ} (hroom : (i + 1) * width.toNat ≤ 12) :
    packetWrite width (t.modifyController 1 (AtaController.collecting · packet (i * width.toNat)))
        (littleEndian (fun j => packet (i * width.toNat + j)) width.toNat) =
      if (i + 1) * width.toNat < 12 then
        .ok (t.modifyController 1 (AtaController.collecting · packet ((i + 1) * width.toNat)))
      else hardDiskPacket 1 (t.modifyController 1 fun c =>
        { c.collecting packet ((i + 1) * width.toNat) with bufferSize := 2048 }) := by
  have hcontroller := HardDisk.controller_modifyController 1 t
    (AtaController.collecting · packet (i * width.toNat))
  have hinstalled : (t.modifyController 1
      (AtaController.collecting · packet (i * width.toNat))).CdInstalled := ht.modifyController rfl
  have hstore := collecting_store packet (t.controller 1) hw hroom ht.allocated
  have hlow :
      ¬ packetSize < ((t.controller 1).collecting packet (i * width.toNat)).bufferIndex := by
    show ¬ (12 : BitVec 32) < BitVec.ofNat 32 (i * width.toNat)
    rw [BitVec.lt_def, BitVec.toNat_ofNat]
    rw [Nat.add_mul] at hroom
    show ¬ 12 < _
    omega
  have hadvance : ((t.controller 1).collecting packet (i * width.toNat)).bufferIndex + width =
      BitVec.ofNat 32 ((i + 1) * width.toNat) := by
    show BitVec.ofNat 32 (i * width.toNat) + width = _
    apply BitVec.eq_of_toNat_eq
    rw [BitVec.toNat_add, BitVec.toNat_ofNat, BitVec.toNat_ofNat, Nat.add_mul, Nat.one_mul]
    exact (Nat.mod_add_mod _ _ _)
  have hnext : { (t.controller 1).collecting packet (i * width.toNat) with
      buffer := ((t.controller 1).collecting packet ((i + 1) * width.toNat)).buffer
      bufferIndex := ((t.controller 1).collecting packet (i * width.toNat)).bufferIndex + width } =
        (t.controller 1).collecting packet ((i + 1) * width.toNat) := by
    rw [hadvance]
    rfl
  have hbelow : ((t.controller 1).collecting packet ((i + 1) * width.toNat)).bufferIndex <
      packetSize ↔ (i + 1) * width.toNat < 12 := by
    show (BitVec.ofNat 32 ((i + 1) * width.toNat)).toNat < 12 ↔ _
    rw [BitVec.toNat_ofNat, Nat.mod_eq_of_lt (by omega)]
  have hpacket : ((t.controller 1).collecting packet (i * width.toNat)).currentCommand =
      ideCommandAtapiPacket := hcommand
  rw [packetWrite, hinstalled.write_data, hardDiskWriteDataPort, hcontroller]
  simp only [hpacket]
  rw [if_neg (by decide), if_pos trivial, hardDiskWritePacket, hcontroller, if_neg hlow, hstore,
    ok_bind, hnext]
  simp only [hbelow, modifyController_modifyController]
  rw [modifyController_const (AtaController.collecting · packet _)]
  rfl

variable (packet) in
/-- All words but the last. -/
lemma run_packetWrite {t : HardDisk} (ht : t.CdInstalled)
    (hcommand : (t.controller 1).currentCommand = ideCommandAtapiPacket)
    (hw : width ∈ portWidths) {n : ℕ} (hn : n * width.toNat < 12) :
    TransitionRun.run (packetWrite width)
        (t.modifyController 1 (AtaController.collecting · packet (0 * width.toNat)))
        ((List.range n).map fun i =>
          littleEndian (fun j => packet (i * width.toNat + j)) width.toNat) =
      .ok (t.modifyController 1 (AtaController.collecting · packet (n * width.toNat))) := by
  induction n with
  | zero => rfl
  | succ n ih =>
      have hroom : (n + 1) * width.toNat ≤ 12 := Nat.le_of_lt hn
      have hbefore : n * width.toNat < 12 := by
        rw [Nat.add_mul] at hn
        omega
      rw [List.range_succ, List.map_append, run_append, ih hbefore, ok_bind]
      show TransitionRun.run (packetWrite width) _ [_] = _
      rw [TransitionRun.run, packetWrite_collecting ht hcommand hw hroom, if_pos hn]
      rfl

/-- A packet that is sent to an idle drive is run. -/
lemma sendPacket_eq (h : s.CdInstalled)
    (hidle : (s.controller 1).hasStatus ideStatusBusy = false) (hw : width ∈ portWidths) :
    sendPacket packet width s =
      hardDiskPacket 1 ((hardDiskLowerIrq 1 s).modifyController 1 (·.packetComplete packet)) := by
  set t := (hardDiskLowerIrq 1 s).modifyController 1 fun c => c.packetExpected with ht
  have hcontroller : t.controller 1 = (s.controller 1).packetExpected :=
    HardDisk.controller_modifyController ..
  have hinstalled : t.CdInstalled := h.lowerIrq.modifyController rfl
  have hcommand : (t.controller 1).currentCommand = ideCommandAtapiPacket := by
    rw [hcontroller]
    rfl
  have hempty (c : AtaController) : c.packetExpected.collecting packet (0 * width.toNat) =
      c.packetExpected := by
    rw [Nat.zero_mul]
    rfl
  have hstart : t.modifyController 1 (AtaController.collecting · packet (0 * width.toNat)) = t := by
    rw [ht, modifyController_modifyController]
    simp only [hempty]
  have hlast : ∃ n, 12 / width.toNat = n + 1 ∧ (n + 1) * width.toNat = 12 := by
    simp only [portWidths, List.mem_cons, List.not_mem_nil, or_false] at hw
    rcases hw with rfl | rfl | rfl
    · exact ⟨11, rfl, rfl⟩
    · exact ⟨5, rfl, rfl⟩
    · exact ⟨2, rfl, rfl⟩
  obtain ⟨n, hcount, hwhole⟩ := hlast
  obtain ⟨-, hpos, -, -⟩ := accessLength_of_width hw
  have hbefore : n * width.toNat < 12 := by
    rw [Nat.add_mul, Nat.one_mul] at hwhole
    omega
  have hrun := run_packetWrite packet hinstalled hcommand hw hbefore
  rw [hstart] at hrun
  rw [sendPacket, write_packet_command h hidle, ok_bind, ← ht, packetWords, hcount, List.range_succ,
    List.map_append, run_append, hrun, ok_bind]
  show TransitionRun.run (packetWrite width) _ [_] = _
  rw [TransitionRun.run, packetWrite_collecting hinstalled hcommand hw (Nat.le_of_eq hwhole),
    if_neg (by rw [hwhole]; exact Nat.lt_irrefl 12), hwhole, ht, modifyController_modifyController]
  show (do
    let t ← hardDiskPacket 1 ((hardDiskLowerIrq 1 s).modifyController 1 (·.packetComplete packet))
    TransitionRun.run (packetWrite width) t []) = _
  exact bind_pure _

end Send

end Svmm
