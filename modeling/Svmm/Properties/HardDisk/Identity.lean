import Svmm.Properties.HardDisk.PortMoves
import Svmm.Properties.HardDisk.PioRead

/-!
# Reading the identification

An accepted IDENTIFY DEVICE copies the words of `DriveId` to the start of the buffer, but goes on
reading where `BufferIndex` was left.  From the start the drive follows the 512 bytes; from any
other position bytewise reads end before the last of them.
-/

namespace Svmm

open TransitionRun StreamDelivery Bytes

/-! ## What the guest is to read -/

/-- Byte `j` of the words of `DriveId`, each with its low byte first. -/
def AtaDrive.identity (d : AtaDrive) (j : ℕ) : BitVec 8 :=
  byteAt ((d.driveId (j / 2)).setWidth 32) (j % 2)

/-- After the command, written with an access of the length, the first 512 bytes read are those of
`DriveId`, and the data request is there until the last of them.  Status reads may be between. -/
def HardDisk.IdentifiesBy (width length : BitVec 32) (s : HardDisk) : Prop :=
  ∃ u, hardDiskPortIoWriteHandler 0x1f7 (ideCommandIdentify.setWidth 32) length s = .ok u ∧
    ∀ reads : List PioRead, ∃ σ,
      TransitionRun.run (sessionStep (pioRead width)) ⟨u, []⟩ reads = .ok σ ∧
      σ.received.length = width.toNat * reads.count .data ∧
      σ.received.take 512 = (prefixOf (u.drive 0).identity 512).take σ.received.length ∧
      ((σ.device.controller 0).hasStatus ideStatusDevReq = true ↔ σ.received.length < 512)

/-- An accepted identification is read as a whole, in accesses of any one width. -/
def HardDisk.Identifies (s : HardDisk) : Prop :=
  ∀ width ∈ portWidths, ∀ length, s.IdentifiesBy width length

/-! ## The command -/

/-- An identification is in the buffer, and the guest has got to a position of it. -/
structure Identifying (stream : ℕ → BitVec 8) (index : ℕ) (s : HardDisk) : Prop where
  installed : s.Installed
  command : (s.controller 0).currentCommand = ideCommandIdentify
  requested : (s.controller 0).hasStatus ideStatusDevReq = true
  bufferIndex : (s.controller 0).bufferIndex.toNat = index
  bytes : ∀ j < 512, (s.controller 0).buffer.byte j = stream j

lemma hardDiskCommand_identify (s : HardDisk) :
    hardDiskCommand 0 (ideCommandIdentify.setWidth 32) s =
      hardDiskIdentify 0 (ideCommandIdentify.setWidth 32) s := by
  unfold hardDiskCommand
  rw [if_neg (by decide), if_neg (by decide), if_neg (by decide), if_neg (by decide),
    if_neg (by decide), if_neg (by decide), if_neg (by decide), if_neg (by decide),
    if_neg (by decide), if_pos (by decide)]

lemma driveIdByte_eq_identity (d : AtaDrive) (j : ℕ) : d.driveIdByte j = d.identity j := by
  have hlow (x : BitVec 16) : x.setWidth 8 = ((x.setWidth 32) >>> (8 * 0)).setWidth 8 := by
    bv_omega
  have hhigh (x : BitVec 16) : (x >>> 8).setWidth 8 = ((x.setWidth 32) >>> (8 * 1)).setWidth 8 := by
    bv_omega
  unfold AtaDrive.driveIdByte AtaDrive.identity byteAt
  rcases Nat.mod_two_eq_zero_or_one j with h | h
  · rw [if_pos h, h]
    exact hlow _
  · rw [if_neg (by omega), h]
    exact hhigh _

lemma identified_registers (d : AtaDrive) (words : List (ℕ × BitVec 16)) :
    (d.identified words).controller = d.controller ∧
      (d.identified words).driveType = d.driveType := by
  unfold AtaDrive.identified
  split
  · exact ⟨rfl, rfl⟩
  · exact ⟨rfl, rfl⟩

/-- The registers of an identification: its command, a data request, and the buffer as it was. -/
lemma identifying_registers (c : AtaController) (value : BitVec 32) :
    (c.identifying value).currentCommand = value.setWidth 8 ∧
      (c.identifying value).hasStatus ideStatusDevReq = true ∧
      (c.identifying value).bufferIndex = c.bufferIndex ∧
      (c.identifying value).buffer = c.buffer := by
  refine ⟨?_, ?_, ?_, ?_⟩
  · simp [AtaController.identifying]
  · simp [AtaController.identifying, AtaController.hasStatus, ideStatusDevReq, ideStatusDevSeekComp,
      ideStatusWriteFault]
  · simp [AtaController.identifying]
  · simp [AtaController.identifying]

section Start

variable {s : HardDisk}

/-- The state in which the words are copied to the buffer. -/
def HardDisk.identifyStarted (s : HardDisk) : HardDisk :=
  let t := ((hardDiskLowerIrq 0 s).modifyController 0 fun c =>
    c.clearStatus ideStatusError).modifyController 0
      (AtaController.identifying (ideCommandIdentify.setWidth 32))
  t.modifyDrive 0 fun d => d.identified (d.identifyWords 0 (t.channel 0).driveSelect t.image.size)

lemma identify_eq (hs : s.Installed) (hidle : (s.controller 0).hasStatus ideStatusBusy = false)
    (length : BitVec 32) :
    hardDiskPortIoWriteHandler 0x1f7 (ideCommandIdentify.setWidth 32) length s =
      hardDiskSendDriveId 0 s.identifyStarted := by
  have htype : (HardDisk.drive 0 ((hardDiskLowerIrq 0 s).modifyController 0 fun c =>
      c.clearStatus ideStatusError)).driveType = .disk := by
    rw [HardDisk.drive_modifyController]
    exact hs.isDisk
  rw [writeCommandRegister_of_idle hs hidle (by decide), hardDiskCommand_identify,
    hardDiskIdentify, htype]
  rfl

/-- The registers in that state. -/
lemma identifyStarted_registers (s : HardDisk) :
    (s.identifyStarted.controller 0).currentCommand = ideCommandIdentify ∧
      (s.identifyStarted.controller 0).hasStatus ideStatusDevReq = true ∧
      (s.identifyStarted.controller 0).bufferIndex = (s.controller 0).bufferIndex ∧
      (s.identifyStarted.controller 0).buffer = (s.controller 0).buffer ∧
      (s.identifyStarted.drive 0).driveType = (s.drive 0).driveType := by
  unfold HardDisk.identifyStarted
  dsimp only
  rw [HardDisk.controller_modifyDrive, HardDisk.drive_modifyDrive, (identified_registers _ _).1,
    (identified_registers _ _).2, HardDisk.drive_modifyController]
  dsimp only
  obtain ⟨hcommand, hrequest, hindex, hbuffer⟩ := identifying_registers
    (HardDisk.controller 0 ((hardDiskLowerIrq 0 s).modifyController 0 fun c =>
      c.clearStatus ideStatusError)) (ideCommandIdentify.setWidth 32)
  refine ⟨hcommand, hrequest, ?_, ?_, ?_⟩
  · rw [hindex, HardDisk.controller_modifyController]
    rfl
  · rw [hbuffer, HardDisk.controller_modifyController]
    rfl
  · rw [HardDisk.drive_modifyController]
    rfl

/-- The command leaves the identification in the buffer, and the position as it was. -/
lemma identify_start (hs : s.Installed) (hidle : (s.controller 0).hasStatus ideStatusBusy = false)
    (length : BitVec 32) :
    ∃ u, hardDiskPortIoWriteHandler 0x1f7 (ideCommandIdentify.setWidth 32) length s = .ok u ∧
      Identifying (u.drive 0).identity (s.controller 0).bufferIndex.toNat u := by
  obtain ⟨hcommand, hrequest, hindex, hbuffer, htype⟩ := identifyStarted_registers s
  have hwiring : s.SameWiring s.identifyStarted :=
    (HardDisk.SameWiring.lowerIrq s).trans <|
      (HardDisk.SameWiring.modifyController _ _).trans <|
        (HardDisk.SameWiring.modifyController _ _).trans (HardDisk.SameWiring.modifyDrive _ _)
  have hroom : 0 + 512 ≤ (s.identifyStarted.controller 0).buffer.size := by
    rw [hbuffer, hs.allocated]
    decide
  have hsize := congrArg AtaBuffer.size hbuffer
  rw [identify_eq hs hidle, hardDiskSendDriveId, AtaBuffer.fill, if_pos hroom, ok_bind]
  refine ⟨_, rfl, ?_⟩
  refine ⟨?_, ?_, ?_, ?_, ?_⟩
  · refine ((hwiring.trans (HardDisk.SameWiring.modifyController _ _)).trans
      (HardDisk.SameWiring.raiseInterrupt _)).installed hs ?_ ?_
    · rw [drive_raiseInterrupt, HardDisk.drive_modifyController]
      exact htype
    · rw [HardDisk.controller_eq_drive, drive_raiseInterrupt, HardDisk.drive_modifyController]
      exact hsize
  · rw [HardDisk.controller_eq_drive, drive_raiseInterrupt, HardDisk.drive_modifyController]
    exact hcommand
  · rw [HardDisk.controller_eq_drive, drive_raiseInterrupt, HardDisk.drive_modifyController]
    exact hrequest
  · rw [HardDisk.controller_eq_drive, drive_raiseInterrupt, HardDisk.drive_modifyController]
    exact congrArg BitVec.toNat hindex
  · intro j hj
    rw [HardDisk.controller_eq_drive, drive_raiseInterrupt, HardDisk.drive_modifyController]
    dsimp only
    rw [if_pos (by omega)]
    exact driveIdByte_eq_identity _ j

end Start

/-! ## The reads -/

/-- The status during the reads of an identification. -/
def AtaController.identityStatus (c : AtaController) : AtaController :=
  let c := ((c.clearStatus ideStatusBusy).setStatus ideStatusDriveRdy).clearStatus
    ideStatusWriteFault
  ((c.setStatus ideStatusDevSeekComp).clearStatus ideStatusCorrectedData).clearStatus
    ideStatusError

/-- The registers after a read of the identification. -/
def AtaController.identityRead (length : BitVec 32) (c : AtaController) : AtaController :=
  let c := c.identityStatus
  let c := if 512 ≤ c.bufferIndex + length then c.clearStatus ideStatusDevReq else c
  { c with bufferIndex := c.bufferIndex + length }

lemma identityStatus_registers (c : AtaController) :
    c.identityStatus.currentCommand = c.currentCommand ∧ c.identityStatus.buffer = c.buffer ∧
      c.identityStatus.bufferIndex = c.bufferIndex ∧
      c.identityStatus.hasStatus ideStatusDevReq = c.hasStatus ideStatusDevReq := by
  simp [AtaController.identityStatus, AtaController.hasStatus, ideStatusBusy, ideStatusDriveRdy,
    ideStatusWriteFault, ideStatusDevSeekComp, ideStatusCorrectedData, ideStatusError,
    ideStatusDevReq]

lemma identityRead_registers (length : BitVec 32) (c : AtaController) :
    (c.identityRead length).currentCommand = c.currentCommand ∧
      (c.identityRead length).buffer = c.buffer ∧
      (c.identityRead length).bufferIndex = c.bufferIndex + length ∧
      ((c.identityRead length).hasStatus ideStatusDevReq = true ↔
        c.hasStatus ideStatusDevReq = true ∧ ¬ 512 ≤ c.bufferIndex + length) := by
  obtain ⟨hcommand, hbuffer, hindex, hrequest⟩ := identityStatus_registers c
  unfold AtaController.identityRead
  dsimp only
  rw [hindex]
  split
  · rename_i hend
    refine ⟨hcommand, hbuffer, congrArg (· + length) hindex, iff_of_false ?_ fun h => h.2 hend⟩
    simp [AtaController.hasStatus]
  · rename_i hend
    rw [← hrequest, and_iff_left hend]
    exact ⟨hcommand, hbuffer, congrArg (· + length) hindex, Iff.rfl⟩

section Reads

variable {s : HardDisk} {stream : ℕ → BitVec 8} {p : ℕ} {width : BitVec 32}

lemma readIdentity_eq (ch : Fin 4) (length : BitVec 32) (s : HardDisk) :
    hardDiskReadIdentity ch length s = do
      let temp ← (s.controller ch).buffer.load (s.controller ch).bufferIndex.toNat length
      return (s.modifyController ch (AtaController.identityRead length), temp) := by
  obtain ⟨-, hbuffer, hindex, -⟩ := identityStatus_registers (s.controller ch)
  set c := if 512 ≤ (s.controller ch).identityStatus.bufferIndex + length then
    (s.controller ch).identityStatus.clearStatus ideStatusDevReq
    else (s.controller ch).identityStatus with hc
  have hfields : c.buffer = (s.controller ch).buffer ∧
      c.bufferIndex = (s.controller ch).bufferIndex := by
    rw [hc]
    split
    · exact ⟨hbuffer, hindex⟩
    · exact ⟨hbuffer, hindex⟩
  rw [← hfields.1, ← hfields.2]
  rfl

lemma Identifying.read_eq (h : Identifying stream p s) (width : BitVec 32) :
    hardDiskPortIoReadHandler 0x1f0 width s = do
      let temp ← (s.controller 0).buffer.load p width
      return (s.modifyController 0 (AtaController.identityRead width), temp) := by
  have hread : ¬ (s.controller 0).currentCommand ∈ readCommands28 ++ readCommandsExt := by
    rw [h.command]
    decide
  have hidentify : (s.controller 0).currentCommand ∈
      [ideCommandIdentify, ideCommandAtapiIdentify] := by
    rw [h.command]
    decide
  rw [h.installed.read_data, hardDiskReadDataPort, h.requested, if_neg (by decide), if_neg hread,
    if_pos hidentify, readIdentity_eq, h.bufferIndex]

/-- A read within the buffer gives the bytes from the position on; the data request is gone once
the position has come to the end. -/
lemma Identifying.read (h : Identifying stream p s) (hw : width ∈ portWidths)
    (hroom : p + width.toNat ≤ 8198) :
    ∃ u, hardDiskPortIoReadHandler 0x1f0 width s =
        .ok (u, littleEndian (fun j => (s.controller 0).buffer.byte (p + j)) width.toNat) ∧
      (p + width.toNat < 512 ∧ Identifying stream (p + width.toNat) u ∨
        512 ≤ p + width.toNat ∧ PioTransfer.Done u) := by
  obtain ⟨haccess, -, -, -⟩ := accessLength_of_width hw
  have hsize : (s.controller 0).buffer.size = 8198 := h.installed.allocated
  have hnext : ((s.controller 0).bufferIndex + width).toNat = p + width.toNat := by
    rw [BitVec.toNat_add, h.bufferIndex]
    exact Nat.mod_eq_of_lt (by omega)
  obtain ⟨hcommand, hbuffer, hindex, hrequest⟩ := identityRead_registers width (s.controller 0)
  have hcontroller := HardDisk.controller_modifyController 0 s (AtaController.identityRead width)
  have hinstalled : (s.modifyController 0 (AtaController.identityRead width)).Installed := by
    refine (HardDisk.SameWiring.modifyController s _).installed h.installed ?_ ?_
    · rw [HardDisk.drive_modifyController]
    · rw [hcontroller, hbuffer]
  refine ⟨s.modifyController 0 (AtaController.identityRead width), ?_, ?_⟩
  · rw [h.read_eq, AtaBuffer.load, haccess, if_pos (by omega)]
    rfl
  · by_cases hend : p + width.toNat < 512
    · refine Or.inl ⟨hend, hinstalled, ?_, ?_, ?_, ?_⟩
      · rw [hcontroller, hcommand, h.command]
      · rw [hcontroller, hrequest]
        refine ⟨h.requested, ?_⟩
        rw [BitVec.le_def, hnext]
        exact Nat.not_le.mpr hend
      · rw [hcontroller, hindex, hnext]
      · rw [hcontroller, hbuffer]
        exact h.bytes
    · refine Or.inr ⟨Nat.not_lt.mp hend, hinstalled, ?_⟩
      rw [hcontroller, ← Bool.not_eq_true, hrequest]
      refine fun hboth => hboth.2 ?_
      rw [BitVec.le_def, hnext]
      exact Nat.not_lt.mp hend

/-- The status registers leave the identification as it is. -/
lemma Identifying.alternateRead (h : Identifying stream p s) :
    Identifying stream p (s.modifyController 0 AtaController.alternateStatus) := by
  obtain ⟨f, pulse, heq, hf⟩ := alternateStatus_eq (s.controller 0)
  have hcontroller : (s.modifyController 0 AtaController.alternateStatus).controller 0 =
      { s.controller 0 with indexPulse := pulse }.updateStatus f := by
    rw [HardDisk.controller_modifyController, heq]
  refine ⟨?_, ?_, ?_, ?_, ?_⟩
  · refine (HardDisk.SameWiring.modifyController s _).installed h.installed ?_ ?_
    · rw [HardDisk.drive_modifyController]
    · rw [hcontroller]
      rfl
  · rw [hcontroller]
    exact h.command
  · rw [hcontroller]
    exact (hf _).trans h.requested
  · rw [hcontroller]
    exact h.bufferIndex
  · rw [hcontroller]
    exact h.bytes

lemma Identifying.statusRead (h : Identifying stream p s) :
    Identifying stream p (hardDiskLowerIrq 0 s) :=
  ⟨(HardDisk.SameWiring.lowerIrq s).installed h.installed rfl rfl, h.command, h.requested,
    h.bufferIndex, h.bytes⟩

/-- From the start on, aligned reads of one width follow the bytes of the identification. -/
lemma identify_follows (stream : ℕ → BitVec 8) (hw : width ∈ portWidths) :
    Follows (pioRead width) stream 512
      (fun p s => Identifying stream p s ∧ p % width.toNat = 0 ∧ p < 512) PioTransfer.Done := by
  obtain ⟨-, hpos, hle, hdvd⟩ := accessLength_of_width hw
  refine ⟨?_, fun s r hdone => hdone.pioRead r⟩
  rintro p s r ⟨h, haligned, hlt⟩
  cases r with
  | data =>
      have hfits : p + width.toNat ≤ 512 := aligned_add_le haligned hdvd hlt
      obtain ⟨u, hu, hnext⟩ := h.read hw (by omega)
      refine ⟨u, width.toNat, ?_, ?_⟩
      · rw [pioRead, hu, ok_bind]
        dsimp only
        rw [bytesOf_littleEndian _ hle]
        refine congrArg (fun l => Except.ok (u, l)) (List.map_congr_left fun j hj => ?_)
        exact h.bytes (p + j) (by have := List.mem_range.mp hj; omega)
      · rcases hnext with ⟨hmore, hu'⟩ | ⟨hend, hdone⟩
        · refine Or.inl ⟨hmore, hu', ?_, hmore⟩
          rw [Nat.add_mod_right]
          exact haligned
        · exact Or.inr ⟨by omega, hdone⟩
  | status length =>
      refine ⟨hardDiskLowerIrq 0 s, 0, ?_, Or.inl ⟨hlt, h.statusRead, haligned, hlt⟩⟩
      rw [pioRead, h.installed.read_status, ok_bind]
      rfl
  | alternateStatus length =>
      refine ⟨s.modifyController 0 AtaController.alternateStatus, 0, ?_,
        Or.inl ⟨hlt, h.alternateRead, haligned, hlt⟩⟩
      rw [pioRead, h.installed.read_alternate_status, ok_bind]
      rfl

/-- From the start on, the identification is read as a whole. -/
lemma identifiesBy_of_start (hs : s.Installed)
    (hidle : (s.controller 0).hasStatus ideStatusBusy = false)
    (hstart : (s.controller 0).bufferIndex = 0) (hw : width ∈ portWidths) (length : BitVec 32) :
    s.IdentifiesBy width length := by
  obtain ⟨u, hu, hidentifying⟩ := identify_start hs hidle length
  rw [hstart] at hidentifying
  refine ⟨u, hu, fun reads => ?_⟩
  have hdelivering : Delivering (u.drive 0).identity 512
      (fun p s => Identifying (u.drive 0).identity p s ∧ p % width.toNat = 0 ∧ p < 512)
      PioTransfer.Done ⟨u, []⟩ :=
    Or.inl ⟨0, by decide, ⟨hidentifying, Nat.zero_mod _, by decide⟩, rfl⟩
  obtain ⟨σ, hrun, hσ⟩ := hdelivering.run (identify_follows _ hw) reads
  refine ⟨σ, hrun, ?_, hσ.take_received, ?_⟩
  · rw [received_length pioRead_length hrun, sum_sizes]
    exact Nat.zero_add _
  · rcases hσ.device with ⟨hlt, hat, -⟩ | ⟨hge, hdone⟩
    · exact iff_of_true hat.requested hlt
    · exact iff_of_false (by rw [hdone.released]; decide) (Nat.not_lt.mpr hge)

lemma le_of_load {b : AtaBuffer} {index : ℕ} {length value : BitVec 32}
    (h : b.load index length = .ok value) : index + AtaBuffer.accessLength length ≤ b.size := by
  unfold AtaBuffer.load at h
  by_contra hbeyond
  rw [if_neg hbeyond] at h
  cases h

/-- The reads have ended, or they have not got to the end of the buffer, counted from the position
where they began. -/
def ReadingFrom (stream : ℕ → BitVec 8) (k : ℕ) (σ : Session HardDisk (BitVec 8)) : Prop :=
  PioTransfer.Done σ.device ∨
    Identifying stream (k + σ.received.length) σ.device ∧
      (σ.received = [] ∨ k + σ.received.length < 512)

lemma ReadingFrom.step {k : ℕ} {σ τ : Session HardDisk (BitVec 8)} (hw : width ∈ portWidths)
    (h : ReadingFrom stream k σ) {r : PioRead} (hstep : sessionStep (pioRead width) σ r = .ok τ) :
    ReadingFrom stream k τ := by
  obtain ⟨⟨u, piece⟩, hread, hrest⟩ := bind_eq_ok.mp hstep
  obtain rfl := Except.ok.inj hrest
  rcases h with hdone | ⟨hat, hbefore⟩
  · obtain ⟨u', piece', hread', hdone'⟩ := @PioTransfer.Done.pioRead width σ.device hdone r
    obtain ⟨rfl, rfl⟩ := Prod.mk.inj (Except.ok.inj (hread.symm.trans hread'))
    exact Or.inl hdone'
  cases r with
  | data =>
      obtain ⟨⟨v, value⟩, hport, hpiece⟩ := bind_eq_ok.mp hread
      obtain ⟨rfl, rfl⟩ := Prod.mk.inj (Except.ok.inj hpiece)
      -- a read that does not stop the program is within the buffer
      have hroom : k + σ.received.length + width.toNat ≤ 8198 := by
        rw [hat.read_eq] at hport
        obtain ⟨temp, hload, -⟩ := bind_eq_ok.mp hport
        have hsize : (σ.device.controller 0).buffer.size = 8198 := hat.installed.allocated
        rw [← (accessLength_of_width hw).1, ← hsize]
        exact le_of_load hload
      obtain ⟨v', hport', hnext⟩ := hat.read hw hroom
      obtain ⟨rfl, -⟩ := Prod.mk.inj (Except.ok.inj (hport.symm.trans hport'))
      rcases hnext with ⟨hmore, hat'⟩ | ⟨-, hdone⟩
      · refine Or.inr ?_
        rw [List.length_append, bytesOf_length, ← Nat.add_assoc]
        exact ⟨hat', Or.inr hmore⟩
      · exact Or.inl hdone
  | status length =>
      rw [pioRead, hat.installed.read_status, ok_bind] at hread
      obtain ⟨rfl, rfl⟩ := Prod.mk.inj (Except.ok.inj hread)
      rw [ReadingFrom, List.append_nil]
      exact Or.inr ⟨hat.statusRead, hbefore⟩
  | alternateStatus length =>
      rw [pioRead, hat.installed.read_alternate_status, ok_bind] at hread
      obtain ⟨rfl, rfl⟩ := Prod.mk.inj (Except.ok.inj hread)
      rw [ReadingFrom, List.append_nil]
      exact Or.inr ⟨hat.alternateRead, hbefore⟩

/-- Where the reads are right, they began within the first access of the buffer: otherwise the data
request is gone before the last of them. -/
lemma bufferIndex_lt_of_identifiesBy (hs : s.Installed)
    (hidle : (s.controller 0).hasStatus ideStatusBusy = false) (hw : width ∈ portWidths)
    {length : BitVec 32} (h : s.IdentifiesBy width length) :
    (s.controller 0).bufferIndex.toNat < width.toNat := by
  obtain ⟨-, hpos, hle, hdvd⟩ := accessLength_of_width hw
  obtain ⟨u, hu, hat⟩ := identify_start hs hidle length
  obtain ⟨u', hu', hreads⟩ := h
  obtain rfl := Except.ok.inj (hu.symm.trans hu')
  obtain ⟨n, hn⟩ := Nat.dvd_of_mod_eq_zero hdvd
  obtain ⟨σ, hrun, hlength, -, hrequest⟩ := hreads (List.replicate (n - 1) .data)
  rw [List.count_replicate_self, Nat.mul_sub, ← hn, Nat.mul_one] at hlength
  have hstart : ReadingFrom (u.drive 0).identity (s.controller 0).bufferIndex.toNat ⟨u, []⟩ :=
    Or.inr ⟨hat, Or.inl rfl⟩
  have hreading : ReadingFrom (u.drive 0).identity (s.controller 0).bufferIndex.toNat σ :=
    run_invariant (fun σ r τ hσ _ hstep => hσ.step hw hstep) hstart (Meets.always _ _) hrun
  have hreq := hrequest.mpr (by omega)
  rcases hreading with hdone | ⟨-, hnone | hbefore⟩
  · rw [hdone.released] at hreq
    exact absurd hreq (by decide)
  · rw [hnone, List.length_nil] at hlength
    omega
  · omega

end Reads

/-! ## The identification as a whole -/

/-- In every state in which the command is accepted, the identification is read as a whole exactly
if the position in the buffer is its start. -/
theorem identify_complete_iff (s : HardDisk) (hs : s.Installed)
    (hidle : (s.controller 0).hasStatus ideStatusBusy = false) :
    s.Identifies ↔ (s.controller 0).bufferIndex = 0 := by
  constructor
  · intro h
    have hbyte : (1 : BitVec 32) ∈ portWidths := by decide
    have hlt := bufferIndex_lt_of_identifiesBy hs hidle hbyte (h 1 hbyte 1)
    apply BitVec.eq_of_toNat_eq
    exact Nat.lt_one_iff.mp hlt
  · exact fun hstart width hw length => identifiesBy_of_start hs hidle hstart hw length

/-- At power-on the position is the start. -/
theorem identify_complete_at_power_on :
    (hardDiskInitialize numberedImage ⟨0, fun _ => []⟩ 0).Identifies := by
  refine (identify_complete_iff _ ?_ (by decide)).mpr (by rfl)
  decide

/-- A second identification, where the first one has been given up after a word. -/
theorem identify_again_from_the_middle :
    ∃ s, run hardDiskStep (hardDiskInitialize numberedImage ⟨0, fun _ => []⟩ 0)
        [.portWrite 0x1f7 0xec 1, .portRead 0x1f0 2] = .ok s ∧
      s.Installed ∧ (s.controller 0).hasStatus ideStatusBusy = false ∧ ¬ s.Identifies := by
  have hends : ends (fun s : HardDisk => s.Installed ∧
      (s.controller 0).hasStatus ideStatusBusy = false ∧ (s.controller 0).bufferIndex = 2)
      (run hardDiskStep (hardDiskInitialize numberedImage ⟨0, fun _ => []⟩ 0)
        [.portWrite 0x1f7 0xec 1, .portRead 0x1f0 2]) = true := by
    decide +kernel
  obtain ⟨s, hrun, hs, hidle, hindex⟩ := exists_of_ends _ hends
  refine ⟨s, hrun, hs, hidle, fun h => ?_⟩
  have hbyte : (1 : BitVec 32) ∈ portWidths := by decide
  have hlt := bufferIndex_lt_of_identifiesBy hs hidle hbyte (h 1 hbyte 1)
  rw [hindex] at hlt
  exact absurd hlt (by decide)

end Svmm
