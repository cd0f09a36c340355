import Svmm.Framework.Delivery
import Svmm.Properties.HardDisk.Block

/-!
# Reading sectors through the data port

An accepted read command leaves its first block in the buffer, and from then on the drive follows
the stream of bytes of the transfer: every run of data and status reads delivers it.  The stream is
that of the sectors asked for as long as the address registers can hold their addresses.
-/

namespace Svmm

open TransitionRun StreamDelivery Bytes

/-- A sector read that is accepted, with blocks that the buffer can hold. -/
structure ReadAccepted (s : HardDisk) (command : BitVec 8) : Prop extends
    TransferAccepted (readCommands28 ++ readCommandsExt) readMultiples s command where
  fits : command ∈ readMultiples → (s.controller 0).multipleSectors.toNat ≤ 16

instance (s : HardDisk) (command : BitVec 8) : Decidable (ReadAccepted s command) :=
  decidable_of_iff (TransferAccepted _ _ s command ∧ _)
    ⟨fun h => ⟨h.1, h.2⟩, fun h => ⟨h.toTransferAccepted, h.fits⟩⟩

/-! ## The start of a transfer -/

/-- The switch of the command register, at a sector read. -/
lemma hardDiskCommand_read {command : BitVec 8} (h : command ∈ readCommands28 ++ readCommandsExt)
    (s : HardDisk) :
    hardDiskCommand 0 (command.setWidth 32) s =
      hardDiskReadCommand 0 (extFlag command) (command.setWidth 32) s := by
  simp only [readCommands28, readCommandsExt, List.cons_append, List.nil_append, List.mem_cons,
    List.not_mem_nil, or_false] at h
  unfold hardDiskCommand
  rcases h with rfl | rfl | rfl | rfl | rfl
  · rw [if_neg (by decide), if_neg (by decide), if_pos (by decide)]
    rfl
  · rw [if_neg (by decide), if_neg (by decide), if_pos (by decide)]
    rfl
  · rw [if_neg (by decide), if_neg (by decide), if_pos (by decide)]
    rfl
  · rw [if_neg (by decide), if_pos (by decide)]
    rfl
  · rw [if_neg (by decide), if_pos (by decide)]
    rfl

lemma AtaDrive.startRead_registers (d : AtaDrive) (address : BitVec 64) (value : BitVec 32) :
    AtaDrive.SameRegisters
      { d with controller := { d.controller with currentCommand := value.setWidth 8 } }
      (d.startRead address value) := by
  simp only [AtaDrive.startRead, AtaController.setStatus, AtaController.clearStatus,
    AtaController.updateStatus_updateStatus]
  exact ⟨rfl, rfl, rfl, rfl, rfl, rfl, rfl, rfl, rfl, rfl, rfl⟩

lemma AtaDrive.startRead_bufferSize (d : AtaDrive) (address : BitVec 64) (value : BitVec 32) :
    (d.startRead address value).controller.bufferSize = d.controller.bufferSize := by
  simp only [AtaDrive.startRead, AtaController.setStatus, AtaController.clearStatus,
    AtaController.updateStatus_updateStatus]
  rfl

lemma AtaDrive.startRead_bufferIndex (d : AtaDrive) (address : BitVec 64) (value : BitVec 32) :
    (d.startRead address value).controller.bufferIndex = 0 := rfl

/-- The transfer that a command asks for. -/
def HardDisk.transfer (s : HardDisk) (command : BitVec 8) : PioTransfer :=
  { start := s.commandStart command
    count := s.commandCount command
    span := commandSpan command
    command := command
    content := s.image.content }

/-- The state in which a sector read has set its registers up, before the first block is read. -/
def HardDisk.readStarted (s : HardDisk) (command : BitVec 8) : HardDisk :=
  (s.ready readMultiples command).modifyDrive 0
    (AtaDrive.startRead (s.commandDrive command).logicalAddress (command.setWidth 32))

section Start

variable {s : HardDisk} {command : BitVec 8}

/-- An accepted sector read sets its registers up and reads the first block. -/
lemma ReadAccepted.command_eq (h : ReadAccepted s command) (length : BitVec 32) :
    hardDiskPortIoWriteHandler 0x1f7 (command.setWidth 32) length s = do
      let (s', temp) ← hardDiskReadSector 0 (s.readStarted command)
      if temp = 0 then return hardDiskCommandAborted 0 s'
      else return s'.modifyController 0 fun c =>
        (c.clearStatus ideStatusBusy).setStatus ideStatusDevReq := by
  have hmultiple : decide (IsCommand (command.setWidth 32) readMultiples) =
      decide (command ∈ readMultiples) := decide_eq_decide.mpr isCommand_setWidth
  have hcontroller : HardDisk.controller 0 ((hardDiskLowerIrq 0 s).modifyController 0 fun c =>
      c.clearStatus ideStatusError) = (s.controller 0).clearStatus ideStatusError := by
    rw [HardDisk.controller_modifyController]
    rfl
  -- the test for a zero cylinder, head and sector is for CHS addresses only
  have hchs (c : AtaController) (hc : c = (s.controller 0).clearStatus ideStatusError) :
      ¬ (c.addressMode = 0 ∧ c.headNumber = 0 ∧ c.cylinderNumber = 0 ∧ c.sectorNumber = 0) := by
    rw [hc]
    exact fun hzero => h.lbaMode hzero.1
  rw [writeCommandRegister_of_idle h.installed h.idle
      (not_recalibrate command (List.mem_append_left _ h.known)),
    hardDiskCommand_read h.known, hardDiskReadCommand]
  simp only [if_neg h.isDisk, if_neg (hchs _ hcontroller), hmultiple, if_neg h.block_set]
  rw [show (((hardDiskLowerIrq 0 s).modifyController 0 fun c =>
    c.clearStatus ideStatusError).modifyController 0
      (AtaController.lba48Transform (extFlag command))).modifyController 0
        (AtaController.startBlock (decide (command ∈ readMultiples))) =
      s.ready readMultiples command from rfl]
  have himage : (s.ready readMultiples command).image = s.image := rfl
  simp only [himage, h.calculateLogicalAddress_eq, if_neg h.address_ne]
  rfl

lemma HardDisk.drive_readStarted (s : HardDisk) (command : BitVec 8) :
    (s.readStarted command).drive 0 = ((s.ready readMultiples command).drive 0).startRead
      (s.commandDrive command).logicalAddress (command.setWidth 32) :=
  HardDisk.drive_modifyDrive 0 _ _

/-- The registers of a sector read that has started are those of its command. -/
lemma readStarted_registers (s : HardDisk) (command : BitVec 8) :
    AtaDrive.SameRegisters
      { s.commandDrive command with
        controller := { (s.commandDrive command).controller with currentCommand := command } }
      ((s.readStarted command).drive 0) := by
  have hready := s.ready_registers readMultiples command
  have hstart := ((s.ready readMultiples command).drive 0).startRead_registers
    (s.commandDrive command).logicalAddress (command.setWidth 32)
  have hcommand : (command.setWidth 32).setWidth 8 = command :=
    Word.setWidth_setWidth_eq (by decide) command
  rw [s.drive_readStarted]
  exact ⟨hstart.driveType.trans hready.driveType, hstart.buffer.trans hready.buffer,
    hstart.numberOfSectors.trans hready.numberOfSectors, hstart.currentCommand.trans hcommand,
    hstart.multipleSectors.trans hready.multipleSectors,
    hstart.addressMode.trans hready.addressMode, hstart.lba48.trans hready.lba48,
    hstart.hob.trans hready.hob, hstart.headNumber.trans hready.headNumber,
    hstart.cylinderNumber.trans hready.cylinderNumber,
    hstart.sectorNumber.trans hready.sectorNumber⟩

/-- The transfer of an accepted read is set up. -/
lemma ReadAccepted.setup (h : ReadAccepted s command) :
    (s.transfer command).Setup (s.readStarted command) := by
  have hregisters := readStarted_registers s command
  have hwiring : s.SameWiring (s.readStarted command) :=
    (HardDisk.SameWiring.lowerIrq s).trans <|
      (HardDisk.SameWiring.modifyController _ _).trans <|
        (HardDisk.SameWiring.modifyController _ _).trans <|
          (HardDisk.SameWiring.modifyController _ _).trans (HardDisk.SameWiring.modifyDrive _ _)
  refine ⟨hwiring.installed h.installed hregisters.driveType
    (congrArg AtaBuffer.size hregisters.buffer), h.onDisk, rfl, h.known, hregisters.currentCommand,
    ?_, ?_⟩
  · show ((s.readStarted command).drive 0).controller.addressSpan = commandSpan command
    rw [← addressSpan_extFlag (s.controller 0) command]
    simp only [AtaController.addressSpan]
    rw [hregisters.lba48]
    rfl
  · intro hin
    have hnonzero : (s.controller 0).multipleSectors.toNat ≠ 0 := fun hzero =>
      h.multiple hin (BitVec.eq_of_toNat_eq hzero)
    rw [HardDisk.controller_eq_drive, hregisters.multipleSectors]
    exact ⟨Nat.one_le_iff_ne_zero.mpr hnonzero, h.fits hin⟩

/-- It starts at its first sector. -/
lemma ReadAccepted.positioned (h : ReadAccepted s command) :
    Positioned (s.transfer command).start (s.transfer command).count 0
      ((s.readStarted command).drive 0) := by
  have hmode : (s.commandDrive command).controller.addressMode ≠ 0 := h.lbaMode
  have hcommand : Positioned (s.transfer command).start (s.transfer command).count 0
      { s.commandDrive command with
        controller := { (s.commandDrive command).controller with currentCommand := command } } := by
    refine ⟨hmode, ?_, rfl⟩
    rw [Nat.add_zero]
    exact (Nat.mod_eq_of_lt (logicalAddress_lt_span _ hmode)).symm
  exact hcommand.of_registers (readStarted_registers s command)

/-- Its block size is that of its first block. -/
lemma readStarted_bufferSize (s : HardDisk) (command : BitVec 8) :
    ((s.readStarted command).controller 0).bufferSize =
      if ((s.readStarted command).controller 0).currentCommand ∈ readMultiples then
        ((s.readStarted command).controller 0).multipleBlock
      else 512 := by
  have hregisters := readStarted_registers s command
  have hmultiple : ((s.readStarted command).drive 0).controller.multipleBlock =
      (s.commandDrive command).controller.multipleBlock := by
    simp only [AtaController.multipleBlock, hregisters.multipleSectors, hregisters.numberOfSectors]
  rw [HardDisk.controller_eq_drive, hmultiple, hregisters.currentCommand, s.drive_readStarted,
    AtaDrive.startRead_bufferSize]
  exact s.ready_bufferSize readMultiples command

/-- An accepted read leaves its first block in the buffer. -/
lemma ReadAccepted.start (h : ReadAccepted s command) (length : BitVec 32) (width : ℕ) :
    ∃ u n, hardDiskPortIoWriteHandler 0x1f7 (command.setWidth 32) length s = .ok u ∧
      0 + n ≤ (s.transfer command).count ∧ (s.transfer command).Block width 0 n 0 u := by
  obtain ⟨n, hfit, hn⟩ := h.setup.sized h.positioned (commandCount_pos s command)
    (readStarted_bufferSize s command)
  obtain ⟨u, hrun, hu, hframe, hposition, hbytes⟩ := PioTransfer.fill h.setup hn h.positioned hfit
  have hsome : ¬ n * 512 = 0 := by
    have hpos := hn.positive
    omega
  set f : AtaController → AtaController := fun c =>
    (c.clearStatus ideStatusBusy).setStatus ideStatusDevReq with hf
  have hdrive : (u.modifyController 0 f).drive 0 =
      { u.drive 0 with controller := f (u.controller 0) } := HardDisk.drive_modifyController 0 u f
  refine ⟨u.modifyController 0 f, n, ?_, hfit, ?_⟩
  · rw [h.command_eq, hrun]
    simp only [ok_bind, if_neg hsome]
    rfl
  · refine ⟨hu.modifyDrive ⟨rfl, rfl, rfl, rfl, rfl, rfl, rfl, rfl, rfl, rfl, rfl⟩, ⟨hn.positive,
      hn.small, hn.single, ?_⟩, ?_, ?_, ?_, ?_, by have := hn.positive; omega, Nat.zero_mod width⟩
    · rw [HardDisk.controller_eq_drive, hdrive, ← hn.bufferSize]
      exact congrArg (fun f => f.bufferSize.toNat) hframe
    · rw [hdrive]
      exact hposition.of_registers ⟨rfl, rfl, rfl, rfl, rfl, rfl, rfl, rfl, rfl, rfl, rfl⟩
    · intro j hj
      rw [HardDisk.controller_eq_drive, hdrive]
      exact hbytes j hj
    · rw [HardDisk.controller_eq_drive, hdrive]
      show Word.has (Word.set _ ideStatusDevReq) ideStatusDevReq = true
      rw [Word.has_set]
      simp [ideStatusDevReq]
    · have hindex : (u.drive 0).controller.bufferIndex =
          ((s.readStarted command).drive 0).controller.bufferIndex :=
        congrArg TransferFrame.bufferIndex hframe
      rw [HardDisk.controller_eq_drive, hdrive]
      show (u.drive 0).controller.bufferIndex.toNat = 0
      rw [hindex, s.drive_readStarted, AtaDrive.startRead_bufferIndex]
      rfl

end Start

/-! ## Runs of reads -/

/-- The reads of a transfer: data of one width, and either status register. -/
inductive PioRead where
  | data
  | status (length : BitVec 32)
  | alternateStatus (length : BitVec 32)
  deriving DecidableEq

/-- A read of the drive, and the bytes of the data port that it gives. -/
def pioRead (width : BitVec 32) (s : HardDisk) :
    PioRead → HardDiskOutcome (HardDisk × List (BitVec 8))
  | .data => do
      let (s, value) ← hardDiskPortIoReadHandler 0x1f0 width s
      return (s, bytesOf value width.toNat)
  | .status length => do
      let (s, _) ← hardDiskPortIoReadHandler 0x1f7 length s
      return (s, [])
  | .alternateStatus length => do
      let (s, _) ← hardDiskPortIoReadHandler 0x3f6 length s
      return (s, [])

section Runs

variable {t : PioTransfer} {width : BitVec 32}

/-- The drive is at a position of the transfer. -/
def PioTransfer.At (t : PioTransfer) (width p : ℕ) (s : HardDisk) : Prop :=
  ∃ base n index, base + n ≤ t.count ∧ t.Block width base n index s ∧ p = base * 512 + index

/-- The drive is done: data reads give zeros and change nothing. -/
lemma PioTransfer.Done.read {s : HardDisk} (h : PioTransfer.Done s) (length : BitVec 32) :
    hardDiskPortIoReadHandler 0x1f0 length s = .ok (s, 0) := by
  rw [h.installed.read_data, hardDiskReadDataPort]
  simp only [h.released, Bool.not_false, if_true]

/-- It stays done. -/
lemma PioTransfer.Done.pioRead {s : HardDisk} (h : PioTransfer.Done s) (r : PioRead) :
    ∃ u piece, Svmm.pioRead width s r = .ok (u, piece) ∧ PioTransfer.Done u := by
  cases r with
  | data =>
      refine ⟨s, bytesOf 0 width.toNat, ?_, h⟩
      rw [Svmm.pioRead, h.read, ok_bind]
      rfl
  | status length =>
      refine ⟨hardDiskLowerIrq 0 s, [], ?_, ?_⟩
      · rw [Svmm.pioRead, h.installed.read_status, ok_bind]
        rfl
      · exact ⟨(HardDisk.SameWiring.lowerIrq s).installed h.installed rfl rfl, h.released⟩
  | alternateStatus length =>
      refine ⟨s.modifyController 0 AtaController.alternateStatus, [], ?_, h.alternateRead⟩
      rw [Svmm.pioRead, h.installed.read_alternate_status, ok_bind]
      rfl

/-- No read leaves the transfer or stops the program. -/
lemma PioTransfer.follows (t : PioTransfer) (hw : width ∈ portWidths) :
    Follows (pioRead width) t.stream (t.count * 512) (t.At width.toNat) PioTransfer.Done := by
  refine ⟨?_, ?_⟩
  · rintro p s r ⟨base, n, index, hfit, hblock, rfl⟩
    have hunread := hblock.unread
    cases r with
    | data =>
        obtain ⟨u, hu, hnext⟩ := hblock.read hw hfit
        refine ⟨u, width.toNat, ?_, ?_⟩
        · rw [pioRead, hu, ok_bind, ← hblock.bytesOf_word hw]
          rfl
        · rcases hnext with ⟨base', m, index', hfit', hposition, hblock'⟩ | ⟨hend, hdone⟩
          · have hunread' := hblock'.unread
            exact Or.inl ⟨by omega, base', m, index', hfit', hblock', hposition.symm⟩
          · exact Or.inr ⟨hend, hdone⟩
    | status length =>
        refine ⟨hardDiskLowerIrq 0 s, 0, ?_,
          Or.inl ⟨by omega, base, n, index, hfit, ?_, Nat.add_zero _⟩⟩
        · rw [pioRead, hblock.installed.read_status, ok_bind]
          rfl
        · exact hblock.statusRead
    | alternateStatus length =>
        refine ⟨s.modifyController 0 AtaController.alternateStatus, 0, ?_,
          Or.inl ⟨by omega, base, n, index, hfit, ?_, Nat.add_zero _⟩⟩
        · rw [pioRead, hblock.installed.read_alternate_status, ok_bind]
          rfl
        · exact hblock.alternateRead
  · exact fun s r hdone => hdone.pioRead r

/-- The bytes that a read gives. -/
def PioRead.size (width : ℕ) : PioRead → ℕ
  | .data => width
  | .status _ => 0
  | .alternateStatus _ => 0

lemma pioRead_length (s : HardDisk) (r : PioRead) (s' : HardDisk) (piece : List (BitVec 8))
    (h : pioRead width s r = .ok (s', piece)) : piece.length = r.size width.toNat := by
  cases r with
  | data =>
      obtain ⟨⟨u, value⟩, -, hpiece⟩ := bind_eq_ok.mp h
      obtain ⟨-, rfl⟩ := Prod.mk.inj (Except.ok.inj hpiece)
      exact bytesOf_length value width.toNat
  | status length =>
      obtain ⟨⟨u, value⟩, -, hpiece⟩ := bind_eq_ok.mp h
      obtain ⟨-, rfl⟩ := Prod.mk.inj (Except.ok.inj hpiece)
      rfl
  | alternateStatus length =>
      obtain ⟨⟨u, value⟩, -, hpiece⟩ := bind_eq_ok.mp h
      obtain ⟨-, rfl⟩ := Prod.mk.inj (Except.ok.inj hpiece)
      rfl

lemma sum_sizes (reads : List PioRead) (width : ℕ) :
    (reads.map (PioRead.size width)).sum = width * reads.count .data := by
  induction reads with
  | nil => rfl
  | cons r reads ih =>
      rw [List.map_cons, List.sum_cons, ih]
      cases r with
      | data =>
          rw [List.count_cons_self, PioRead.size]
          ring
      | status length => rw [List.count_cons_of_ne (by rintro ⟨⟩), PioRead.size, Nat.zero_add]
      | alternateStatus length =>
          rw [List.count_cons_of_ne (by rintro ⟨⟩), PioRead.size, Nat.zero_add]

end Runs

/-! ## The bytes of the sectors asked for -/

/-- A transfer that stays below the span of the registers is of the sectors asked for. -/
lemma prefixBytes_transfer {s : HardDisk} {command : BitVec 8}
    (hspan : s.commandStart command + s.commandCount command ≤ commandSpan command) :
    prefixOf (s.transfer command).stream (s.commandCount command * 512) =
      s.image.sectors (s.commandStart command) (s.commandCount command) := by
  rw [DiskImage.sectors_eq, prefixOf]
  refine List.map_congr_left fun p hp => ?_
  have hlt : p < s.commandCount command * 512 := List.mem_range.mp hp
  have hsector : s.commandStart command + p / 512 < commandSpan command := by omega
  show s.image.content
    ((s.commandStart command + p / 512) % commandSpan command * 512 + p % 512) = _
  have hoffset : (s.commandStart command + p / 512) * 512 + p % 512 =
      s.commandStart command * 512 + p := by omega
  rw [Nat.mod_eq_of_lt hsector, hoffset]

/-- The first bytes that the guest reads are those of the sectors asked for, in order; the data
request stays until the last of them and is gone after it; and nothing stops the program. -/
def PioReadDelivers (s : HardDisk) (command : BitVec 8) (width : BitVec 32)
    (reads : List PioRead) : Prop :=
  ∀ length, ∃ started σ,
    hardDiskPortIoWriteHandler 0x1f7 (command.setWidth 32) length s = .ok started ∧
    TransitionRun.run (sessionStep (pioRead width)) ⟨started, []⟩ reads = .ok σ ∧
    σ.received.length = width.toNat * reads.count .data ∧
    σ.received.take (s.commandCount command * 512) =
      (s.image.sectors (s.commandStart command) (s.commandCount command)).take σ.received.length ∧
    ((σ.device.controller 0).hasStatus ideStatusDevReq = true ↔
      σ.received.length < s.commandCount command * 512)

/-- Whatever the registers can address, the guest reads the sectors at the addresses that they
count: from the span of the registers on they start again at 0. -/
lemma pio_read_run {s : HardDisk} {command : BitVec 8} {width : BitVec 32}
    (h : ReadAccepted s command) (hw : width ∈ portWidths) (length : BitVec 32)
    (reads : List PioRead) :
    ∃ started σ,
      hardDiskPortIoWriteHandler 0x1f7 (command.setWidth 32) length s = .ok started ∧
      TransitionRun.run (sessionStep (pioRead width)) ⟨started, []⟩ reads = .ok σ ∧
      σ.received.length = width.toNat * reads.count .data ∧
      σ.received.take (s.commandCount command * 512) =
        (prefixOf (s.transfer command).stream (s.commandCount command * 512)).take
        σ.received.length ∧
      ((σ.device.controller 0).hasStatus ideStatusDevReq = true ↔
        σ.received.length < s.commandCount command * 512) := by
  obtain ⟨started, n, hstart, hfit, hblock⟩ := h.start length width.toNat
  have hpositive : 0 < (s.transfer command).count * 512 :=
    Nat.mul_pos (commandCount_pos s command) (by decide)
  have hdelivering : Delivering (s.transfer command).stream ((s.transfer command).count * 512)
      ((s.transfer command).At width.toNat) PioTransfer.Done ⟨started, []⟩ :=
    Or.inl ⟨0, hpositive, ⟨0, n, 0, hfit, hblock, rfl⟩, rfl⟩
  obtain ⟨σ, hrun, hσ⟩ := hdelivering.run ((s.transfer command).follows hw) reads
  refine ⟨started, σ, hstart, hrun, ?_, hσ.take_received, ?_⟩
  · rw [received_length pioRead_length hrun, sum_sizes]
    exact Nat.zero_add _
  · rcases hσ.device with ⟨hlt, base, m, index, -, hblock, -⟩ | ⟨hge, hdone⟩
    · exact iff_of_true hblock.requested hlt
    · exact iff_of_false (by rw [hdone.released]; decide) (Nat.not_lt.mpr hge)

/-- PIO reads deliver the sectors asked for, as long as the registers can address them all. -/
theorem pio_read_delivers {s : HardDisk} {command : BitVec 8} {width : BitVec 32}
    (h : ReadAccepted s command) (hw : width ∈ portWidths)
    (hspan : s.commandStart command + s.commandCount command ≤ commandSpan command)
    (reads : List PioRead) : PioReadDelivers s command width reads := by
  intro length
  obtain ⟨started, σ, hstart, hrun, hlength, hreceived, hrequest⟩ := pio_read_run h hw length reads
  rw [prefixBytes_transfer hspan] at hreceived
  exact ⟨started, σ, hstart, hrun, hlength, hreceived, hrequest⟩

/-- A disk of 64 sectors, each filled with the low byte of its number. -/
def numberedImage : DiskImage :=
  { size := 64 * 512
    content := fun offset => BitVec.ofNat 8 (offset / 512)
    offset := 0
    seeks := []
    writes := []
    writeSucceeds := fun _ => true }

/-- The drive of that disk once the guest has set blocks of four sectors and asked for six sectors
from sector 5 on. -/
def numberedDisk : HardDiskOutcome HardDisk :=
  hardDiskWrites [(0x1f2, 4), (0x1f7, 0xc6), (0x1f6, 0x40), (0x1f2, 6), (0x1f3, 5)]
    (hardDiskInitialize numberedImage ⟨0, fun _ => []⟩ 0)

/-- The last block of this transfer has two sectors. -/
theorem pio_read_delivers_numbered :
    ∃ s, numberedDisk = .ok s ∧
      PioReadDelivers s ideCommandReadMultiple 4 (.status 1 :: List.replicate 768 .data) := by
  have hends : ends (fun s => ReadAccepted s ideCommandReadMultiple ∧
      s.commandStart ideCommandReadMultiple + s.commandCount ideCommandReadMultiple ≤
        commandSpan ideCommandReadMultiple) numberedDisk = true := by
    decide +kernel
  obtain ⟨s, hs, haccepted, hspan⟩ := exists_of_ends _ hends
  exact ⟨s, hs, pio_read_delivers haccepted (by decide) hspan _⟩

/-- A disk of `2 ^ 49` sectors that is zero but for the first byte of sector `2 ^ 48`. -/
def wideImage : DiskImage :=
  { size := 0x400000000000000
    content := fun offset => if offset = 0x200000000000000 then 1 else 0
    offset := 0
    seeks := []
    writes := []
    writeSucceeds := fun _ => true }

/-- The drive of that disk after the guest has asked for the native maximum address in its EXT form
and set a count of two sectors: the address registers hold `2 ^ 48 - 1`. -/
def wideDisk : HardDiskOutcome HardDisk :=
  hardDiskWrites [(0x1f6, 0x40), (0x1f7, 0x27), (0x1f2, 2)]
    (hardDiskInitialize wideImage ⟨0, fun _ => []⟩ 0)

/-- The second sector of a read at the last address of the registers is sector 0. -/
theorem pio_read_wraps :
    ∃ s, wideDisk = .ok s ∧ ReadAccepted s ideCommandReadExt ∧
      ¬ PioReadDelivers s ideCommandReadExt 1 (List.replicate 1024 .data) := by
  have hends : ends (fun s => ReadAccepted s ideCommandReadExt ∧
      s.commandStart ideCommandReadExt = 0xffffffffffff ∧ s.commandCount ideCommandReadExt = 2 ∧
      s.image.content 0 = 0 ∧ s.image.content 0x200000000000000 = 1) wideDisk = true := by
    decide +kernel
  obtain ⟨s, hs, haccepted, hstart, hcount, hzero, hone⟩ := exists_of_ends _ hends
  refine ⟨s, hs, haccepted, fun hdelivers => ?_⟩
  have hw : (1 : BitVec 32) ∈ portWidths := by decide
  obtain ⟨u, σ, hu, hσ, hlength, hreceived, -⟩ :=
    pio_read_run haccepted hw 1 (List.replicate 1024 .data)
  obtain ⟨u', σ', hu', hσ', -, hreceived', -⟩ := hdelivers 1
  obtain rfl := Except.ok.inj (hu.symm.trans hu')
  obtain rfl := Except.ok.inj (hσ.symm.trans hσ')
  have hall : σ.received.length = 1024 := by
    rw [hlength, List.count_replicate_self]
    decide
  rw [hreceived', hall, hcount, hstart, DiskImage.sectors_eq] at hreceived
  have hat (f : ℕ → BitVec 8) : (((List.range (2 * 512)).map f).take 1024)[512]? =
      some (f 512) := by
    rw [List.getElem?_take_of_lt (by decide), List.getElem?_map, List.getElem?_range (by decide)]
    rfl
  have hbyte := congrArg (fun l => l[512]?) hreceived
  rw [prefixOf] at hbyte
  simp only [hat, Option.some_inj] at hbyte
  have hwrap : (0xffffffffffff + 512 / 512) % 2 ^ 48 * 512 + 512 % 512 = 0 := by decide
  have hsector : (s.transfer ideCommandReadExt).stream 512 = s.image.content 0 := by
    show s.image.content ((s.commandStart ideCommandReadExt + 512 / 512) % 2 ^ 48 * 512 + 512 % 512)
      = s.image.content 0
    rw [hstart, hwrap]
  rw [hsector, hzero, show 0xffffffffffff * 512 + 512 = 0x200000000000000 from by decide, hone]
    at hbyte
  exact absurd hbyte (by decide)

end Svmm
