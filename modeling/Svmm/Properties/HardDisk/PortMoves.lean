import Svmm.Properties.HardDisk.Moves

/-!
# What the ports do to the drives

The data port, the packets that it collects, the other ports, the seek timer and the bus master;
and with them every event.
-/

namespace Svmm

open TransitionRun

namespace HardDisk.Moves

variable {P : Prop} {s t : HardDisk} {ch : Fin 4}

/-! ## The data port, sectors -/

lemma advance (length : BitVec 32) :
    Moves P s (s.modifyController ch (AtaController.advance length)) :=
  modifyController ⟨rfl, rfl, .inl rfl, id⟩

/-- The next block of a `MULTIPLE` transfer is sized, and the drive is no longer busy. -/
lemma endOfBlock {d d' : AtaDrive} {multiples : List (BitVec 8)} (htype : d.driveType = .disk)
    (htype' : d'.driveType = d.driveType)
    (hallocated : d'.controller.buffer.size = d.controller.buffer.size)
    (hcommand : d'.controller.currentCommand = d.controller.currentCommand)
    (hbusy : d'.controller.hasStatus ideStatusBusy = false)
    (hsize : d'.controller.bufferSize = if d.controller.currentCommand ∈ multiples then
      d.controller.multipleBlock else d.controller.bufferSize)
    (hP : P → d.controller.currentCommand ∈ multiples → d.controller.MultipleFits) :
    AtaDrive.Step P d d' := by
  refine ⟨htype', hallocated, fun _ hc => by simp [hc.1] at hbusy, fun hs => ?_, fun hp hf => ?_⟩
  · rwa [AtaDrive.Suited, htype', hcommand]
  · unfold AtaDrive.Fits at hf ⊢
    rw [htype', hsize]
    split
    · rename_i hmultiple
      rw [htype]
      exact (hP hp hmultiple).block
    · exact hf

lemma not_busy_endOfBlockRead (d : AtaDrive) :
    d.endOfBlockRead.controller.hasStatus ideStatusBusy = false := by
  simp [AtaDrive.endOfBlockRead, AtaController.hasStatus, ideStatusBusy, ideStatusWriteFault,
    ideStatusError, ideStatusCorrectedData]

lemma endOfBlockRead (d : AtaDrive) (htype : d.driveType = .disk)
    (hP : P → d.controller.currentCommand ∈ readMultiples → d.controller.MultipleFits) :
    AtaDrive.Step P d d.endOfBlockRead := by
  refine endOfBlock htype ?_ ?_ ?_ (not_busy_endOfBlockRead d) ?_ hP
  · simp [AtaDrive.endOfBlockRead]
  · simp only [AtaDrive.endOfBlockRead]
    split <;> simp
  · simp only [AtaDrive.endOfBlockRead]
    split <;> simp
  · simp only [AtaDrive.endOfBlockRead]
    split <;> simp

lemma requestBlock (hidle : (s.controller ch).hasStatus ideStatusBusy = false) :
    Moves P s (s.modifyController ch AtaController.requestBlock) := by
  refine modifyController ⟨rfl, rfl, .inl rfl, not_conflict_of_not_busy ?_⟩
  simpa [AtaController.requestBlock, ideStatusBusy, ideStatusDevReq, ideStatusDevSeekComp]
    using hidle

/-- An emptied buffer is filled, or the command is over; the drive is not busy. -/
lemma blockEmptied (hidle : (s.controller ch).hasStatus ideStatusBusy = false)
    (h : hardDiskBlockEmptied ch s = .ok t) : Moves P s t := by
  unfold hardDiskBlockEmptied at h
  obtain ⟨-, h⟩ | ⟨-, h⟩ := ite_eq_ok h
  · obtain ⟨⟨u, n⟩, hread, h⟩ := bind_eq_ok.mp h
    obtain rfl := Except.ok.inj h
    have hrewind : Moves P u (u.modifyController ch AtaController.rewind) :=
      modifyController ⟨rfl, rfl, .inl rfl, id⟩
    exact (requestBlock hidle).trans ((readSector hread).trans (hrewind.trans raiseInterrupt))
  · obtain rfl := Except.ok.inj h
    exact modifyDrive (AtaDrive.Step.of_quiet rfl (AtaController.Quiet.clearStatus _ _))

lemma bytesTaken (htype : (s.drive ch).driveType = .disk)
    (hP : P → ¬ (s.controller ch).bufferIndex < (s.controller ch).bufferSize →
      (s.controller ch).currentCommand ∈ readMultiples → (s.controller ch).MultipleFits)
    (h : hardDiskBytesTaken ch s = .ok t) : Moves P s t := by
  unfold hardDiskBytesTaken at h
  obtain ⟨-, h⟩ | ⟨hend, h⟩ := ite_eq_ok h
  · obtain rfl := Except.ok.inj h
    exact refl P s
  · refine (modifyDrive (endOfBlockRead (s.drive ch) htype fun hp => hP hp hend)).trans
      (blockEmptied ?_ h)
    rw [HardDisk.controller_modifyDrive]
    exact not_busy_endOfBlockRead _

/-- A data read that takes the last bytes of a `MULTIPLE` block finds the next one fit. -/
lemma readData {length value : BitVec 32} (htype : (s.drive ch).driveType = .disk)
    (hP : P → (s.controller ch).bufferIndex < (s.controller ch).bufferSize →
      ¬ (s.controller ch).bufferSize < (s.controller ch).bufferIndex + length →
      ¬ (s.controller ch).bufferIndex + length < (s.controller ch).bufferSize →
      (s.controller ch).currentCommand ∈ readMultiples → (s.controller ch).MultipleFits)
    (h : hardDiskReadData ch length s = .ok (t, value)) : Moves P s t := by
  simp only [hardDiskReadData] at h
  split at h
  · cases h
  rename_i hunread
  split at h
  · obtain ⟨rfl, -⟩ := Prod.mk.inj (Except.ok.inj h)
    exact refl P s
  rename_i hfits
  obtain ⟨temp, -, h⟩ := bind_eq_ok.mp h
  obtain ⟨u, htaken, h⟩ := bind_eq_ok.mp h
  obtain ⟨rfl, -⟩ := Prod.mk.inj (Except.ok.inj h)
  refine (advance length).trans (bytesTaken ?_ (fun hp hend hmultiple => ?_) htaken)
  · rw [HardDisk.drive_modifyController]
    exact htype
  · rw [HardDisk.controller_modifyController] at hend hmultiple ⊢
    exact hP hp (BitVec.not_le.mp hunread) hfits hend hmultiple

lemma not_busy_endOfBlockWritten (d : AtaDrive) :
    d.endOfBlockWritten.controller.hasStatus ideStatusBusy = false := by
  simp only [AtaDrive.endOfBlockWritten]
  split <;> split <;>
    simp [AtaController.hasStatus, ideStatusBusy, ideStatusDriveRdy, ideStatusDevReq,
      ideStatusError, ideStatusCorrectedData]

lemma endOfBlockWritten (d : AtaDrive) (htype : d.driveType = .disk)
    (hP : P → d.controller.currentCommand ∈ writeMultiples → d.controller.MultipleFits) :
    AtaDrive.Step P d d.endOfBlockWritten := by
  refine endOfBlock htype ?_ ?_ ?_ (not_busy_endOfBlockWritten d) ?_ hP
  · simp only [AtaDrive.endOfBlockWritten]
    split <;> split <;> simp
  · simp only [AtaDrive.endOfBlockWritten]
    split <;> split <;> simp
  · simp only [AtaDrive.endOfBlockWritten]
    split <;> split <;> simp
  · simp only [AtaDrive.endOfBlockWritten]
    split <;> split <;> simp

/-- A full buffer is stored; a `MULTIPLE` command then sizes the next block. -/
lemma blockFilled (htype : (s.drive ch).driveType = .disk)
    (hP : P → ∀ u n, hardDiskWriteSector ch s = .ok (u, n) → n ≠ 0 →
      (u.controller ch).currentCommand ∈ writeMultiples → (u.controller ch).MultipleFits)
    (h : hardDiskBlockFilled ch s = .ok t) : Moves P s t := by
  obtain ⟨⟨u, n⟩, hwrite, h⟩ := bind_eq_ok.mp h
  have hwritten : Moves P s u := writeSector hwrite
  simp only at h
  split at h
  · obtain rfl := Except.ok.inj h
    exact hwritten
  · rename_i hn
    obtain rfl := Except.ok.inj h
    refine hwritten.trans ((modifyDrive (endOfBlockWritten _ ?_ fun hp => ?_)).trans raiseInterrupt)
    · rw [HardDisk.drive, dnum_writeSector hwrite]
      exact (hwritten.drives ch (s.channel ch).dnum).driveType.trans htype
    · exact hP hp u n hwrite hn

/-- A data write that fills a block of a `MULTIPLE` command. -/
lemma writeData {value length : BitVec 32} (htype : (s.drive ch).driveType = .disk)
    (hP : P → (s.controller ch).bufferIndex < (s.controller ch).bufferSize →
      ∀ buffer, (s.controller ch).buffer.store (s.controller ch).bufferIndex.toNat length value =
        .ok buffer →
      ¬ (s.controller ch).bufferIndex + length < (s.controller ch).bufferSize →
      ∀ u n, hardDiskWriteSector ch (s.modifyController ch fun c =>
        { c with buffer := buffer }.advance length) = .ok (u, n) → n ≠ 0 →
      (u.controller ch).currentCommand ∈ writeMultiples → (u.controller ch).MultipleFits)
    (h : hardDiskWriteData ch value length s = .ok t) : Moves P s t := by
  simp only [hardDiskWriteData] at h
  split at h
  · cases h
  rename_i hunread
  obtain ⟨buffer, hstore, h⟩ := bind_eq_ok.mp h
  have hsize : buffer.size = (s.controller ch).buffer.size := size_of_fill hstore
  have hstored : Moves P s (s.modifyController ch fun c =>
      { c with buffer := buffer }.advance length) :=
    modifyController ⟨hsize, rfl, .inl rfl, id⟩
  refine hstored.trans ?_
  split at h
  · obtain rfl := Except.ok.inj h
    exact refl P _
  · rename_i hend
    refine blockFilled ?_ (fun hp => hP hp (BitVec.not_le.mp hunread) buffer hstore ?_) h
    · rw [HardDisk.drive_modifyController]
      exact htype
    · rw [HardDisk.controller_modifyController] at hend
      exact hend

lemma readIdentity {length value : BitVec 32}
    (h : hardDiskReadIdentity ch length s = .ok (t, value)) : Moves P s t := by
  obtain ⟨temp, -, h⟩ := bind_eq_ok.mp h
  obtain ⟨rfl, -⟩ := Prod.mk.inj (Except.ok.inj h)
  refine modifyController ⟨?_, ?_, .inl ?_, not_conflict_of_not_busy ?_⟩
  · split <;> simp
  · split <;> simp
  · split <;> simp
  · split <;>
      simp [AtaController.hasStatus, ideStatusBusy, ideStatusDriveRdy, ideStatusWriteFault,
        ideStatusDevSeekComp, ideStatusCorrectedData, ideStatusError, ideStatusDevReq]

/-! ## The data port, packets -/

lemma quiet_putBytes {c c' : AtaController} {index : ℕ} {bytes : List (BitVec 8)}
    (h : c.putBytes index bytes = .ok c') : c.Quiet c' := by
  obtain ⟨buffer, hfill, h⟩ := bind_eq_ok.mp h
  obtain rfl := Except.ok.inj h
  exact ⟨size_of_fill hfill, rfl, .inl rfl, id⟩

lemma quiet_cdRomReadBlock {cdRom : CdRom} {c c' : AtaController} {count : ℕ}
    (h : cdRomReadBlock cdRom c = .ok (count, c')) : c.Quiet c' := by
  simp only [cdRomReadBlock] at h
  split at h
  · obtain ⟨c₁, h₁, h⟩ := bind_eq_ok.mp h
    obtain ⟨c₂, h₂, h⟩ := bind_eq_ok.mp h
    obtain ⟨c₃, h₃, h⟩ := bind_eq_ok.mp h
    obtain ⟨c₄, h₄, h⟩ := bind_eq_ok.mp h
    obtain ⟨-, rfl⟩ := Prod.mk.inj (Except.ok.inj h)
    exact (quiet_putBytes h₁).trans ((quiet_putBytes h₂).trans
      ((quiet_putBytes h₃).trans (quiet_putBytes h₄)))
  · obtain ⟨c₁, h₁, h⟩ := bind_eq_ok.mp h
    obtain ⟨-, rfl⟩ := Prod.mk.inj (Except.ok.inj h)
    exact quiet_putBytes h₁

lemma quiet_nextBlock {cdRom : CdRom} {c c' : AtaController}
    (h : hardDiskNextBlock cdRom c = .ok c') : c.Quiet c' := by
  unfold hardDiskNextBlock at h
  split at h
  · obtain ⟨⟨count, c₁⟩, h₁, h⟩ := bind_eq_ok.mp h
    simp only at h
    split at h
    · cases h
    · obtain rfl := Except.ok.inj h
      exact (quiet_cdRomReadBlock h₁).trans ⟨rfl, rfl, .inl rfl, id⟩
  · obtain rfl := Except.ok.inj h
    exact AtaController.Quiet.refl c

lemma readReply {length value : BitVec 32} (h : hardDiskReadReply ch length s = .ok (t, value)) :
    Moves P s t := by
  obtain ⟨c, hnext, h⟩ := bind_eq_ok.mp h
  have hquiet : (s.controller ch).Quiet c := quiet_nextBlock hnext
  split at h
  · obtain ⟨rfl, -⟩ := Prod.mk.inj (Except.ok.inj h)
    exact modifyController hquiet
  · obtain ⟨temp, -, h⟩ := bind_eq_ok.mp h
    have htaken : (s.controller ch).Quiet
        { c with bufferIndex := c.bufferIndex + length, drqIndex := c.drqIndex + length } :=
      hquiet.trans ⟨rfl, rfl, .inl rfl, id⟩
    simp only at h
    split at h
    · obtain ⟨rfl, -⟩ := Prod.mk.inj (Except.ok.inj h)
      exact (modifyController (htaken.trans (AtaController.quiet_endOfDrq _))).trans raiseInterrupt
    · obtain ⟨rfl, -⟩ := Prod.mk.inj (Except.ok.inj h)
      exact modifyController htaken

lemma readySendAtapi : Moves P s (hardDiskReadySendAtapi ch s) := by
  have hready : Moves P s (s.modifyController ch fun c =>
      (((c.clearStatus ideStatusBusy).setStatus ideStatusDevReq).clearStatus
        ideStatusError).setInterruptReason false true) := by
    refine modifyController ⟨by simp [AtaController.setInterruptReason],
      by simp [AtaController.setInterruptReason], .inl (by simp [AtaController.setInterruptReason]),
      not_conflict_of_not_busy ?_⟩
    simp [AtaController.setInterruptReason, AtaController.hasStatus, ideStatusBusy, ideStatusDevReq,
      ideStatusError]
  unfold hardDiskReadySendAtapi
  simp only
  split
  · exact hready.trans (call _)
  · exact hready.trans raiseInterrupt

/-- A reply is offered once the controller has been prepared. -/
lemma replied {c : AtaController} (h : (s.controller ch).Quiet c) :
    Moves P s (hardDiskReadySendAtapi ch (s.modifyController ch fun _ => c)) :=
  (modifyController h).trans readySendAtapi

lemma nop : Moves P s (hardDiskNop ch s) :=
  (modifyController (AtaController.quiet_commandNop _)).trans raiseInterrupt

lemma atapiError (asc : BitVec 8) : Moves P s (hardDiskAtapiError ch asc s) :=
  (modifyController (AtaController.quiet_atapiError _ _ _)).trans raiseInterrupt

lemma reply {command : BitVec 8} {reqLength allocLength : BitVec 32} {index : ℕ}
    {bytes : List (BitVec 8)}
    (h : hardDiskReply ch command reqLength allocLength index bytes s = .ok t) : Moves P s t := by
  obtain ⟨c, hput, h⟩ := bind_eq_ok.mp h
  obtain rfl := Except.ok.inj h
  exact replied ((AtaController.quiet_initAtapiCommand _ _ _ _).trans (quiet_putBytes hput))

lemma quiet_initModeSense {source : Bool} {size : ℕ} {c c' : AtaController}
    (h : c.initModeSense source size = .ok c') : c.Quiet c' := by
  obtain ⟨c₁, h₁, h⟩ := bind_eq_ok.mp h
  obtain ⟨c₂, h₂, h⟩ := bind_eq_ok.mp h
  refine (quiet_putBytes h₁).trans ((quiet_putBytes h₂).trans ?_)
  cases source with
  | true =>
      obtain ⟨kept, -, h⟩ := bind_eq_ok.mp h
      exact quiet_putBytes h
  | false => exact quiet_putBytes h

lemma modeSense {command : BitVec 8} (h : hardDiskModeSense ch command s = .ok t) :
    Moves P s t := by
  simp only [hardDiskModeSense] at h
  obtain ⟨-, h⟩ | ⟨-, h⟩ := ite_eq_ok h
  · obtain ⟨c₁, h₁, h⟩ := bind_eq_ok.mp h
    obtain ⟨c₂, h₂, h⟩ := bind_eq_ok.mp h
    obtain rfl := Except.ok.inj h
    exact replied ((AtaController.quiet_initAtapiCommand _ _ _ _).trans
      ((quiet_initModeSense h₁).trans (quiet_putBytes h₂)))
  obtain ⟨-, h⟩ | ⟨-, h⟩ := ite_eq_ok h
  · obtain ⟨c₁, h₁, h⟩ := bind_eq_ok.mp h
    obtain rfl := Except.ok.inj h
    exact replied ((AtaController.quiet_initAtapiCommand _ _ _ _).trans (quiet_initModeSense h₁))
  obtain ⟨-, h⟩ | ⟨-, h⟩ := ite_eq_ok h
  · obtain rfl := Except.ok.inj h
    exact atapiError _
  · obtain rfl := Except.ok.inj h
    exact atapiError _

lemma startBlocks (command : BitVec 8) (length blocks lbAddress : BitVec 32) :
    Moves P s (hardDiskStartBlocks ch command length blocks lbAddress s) := by
  refine modifyController ?_
  exact (AtaController.quiet_initAtapiCommand _ command length length).trans
    ⟨rfl, rfl, .inl rfl, id⟩

lemma readBlocks (command : BitVec 8) : Moves P s (hardDiskReadBlocks ch command s) := by
  unfold hardDiskReadBlocks
  extract_lets c short transferLength temp last s₁ transferLength' s₂
  have h₁ : Moves P s s₁ := by
    simp only [s₁]
    split
    · exact atapiError _
    · exact refl P s
  have h₂ : Moves P s₁ s₂ := by
    simp only [s₂]
    split
    · exact nop
    · exact refl P s₁
  exact h₁.trans (h₂.trans (startBlocks _ _ _ _))

/-- A raw read sets the block size to that of a raw sector. -/
lemma readCd {command : BitVec 8} (htype : (s.drive ch).driveType = .cdrom) :
    Moves P s (hardDiskReadCd ch command s) := by
  have hraw : Moves P s (s.modifyController ch fun c => { c with bufferSize := 2352 }) := by
    refine modifyDrive ⟨rfl, rfl, id, id, fun _ _ => ?_⟩
    unfold AtaDrive.Fits
    rw [htype]
    exact (by decide : (2352 : BitVec 32).toNat ≤ DriveType.cdrom.blockLimit)
  simp only [hardDiskReadCd]
  split
  · exact nop
  split
  · exact nop
  split
  · exact hraw.trans (startBlocks _ _ _ _)
  split
  · exact startBlocks _ _ _ _
  · exact atapiError _

lemma readToc {command : BitVec 8} (h : hardDiskReadToc ch command s = .ok t) : Moves P s t := by
  simp only [hardDiskReadToc] at h
  split at h
  · cases h
  cases htoc : cdRomToc s.cdRom.capacity
      (decide ((s.controller ch).packet 1 >>> 1 &&& 1 ≠ 0)) ((s.controller ch).packet 6)
      ((s.controller ch).packet 9 >>> 6) with
  | none =>
      simp only [htoc] at h
      obtain rfl := Except.ok.inj h
      exact atapiError _
  | some bytes =>
      simp only [htoc] at h
      obtain ⟨c, hput, h⟩ := bind_eq_ok.mp h
      have hwritten : Moves P s (s.modifyController ch fun _ => c) :=
        modifyController (quiet_putBytes hput)
      refine hwritten.trans ?_
      split at h
      · obtain rfl := Except.ok.inj h
        exact atapiError _
      · obtain rfl := Except.ok.inj h
        exact (modifyController (AtaController.quiet_initAtapiCommand _ _ _ _)).trans readySendAtapi

lemma getEventStatus {command : BitVec 8} (h : hardDiskGetEventStatus ch command s = .ok t) :
    Moves P s t := by
  simp only [hardDiskGetEventStatus] at h
  obtain ⟨-, h⟩ | ⟨-, h⟩ := ite_eq_ok h
  · obtain rfl := Except.ok.inj h
    exact atapiError _
  · obtain ⟨c, hput, h⟩ := bind_eq_ok.mp h
    obtain rfl := Except.ok.inj h
    exact replied ((quiet_putBytes hput).trans (AtaController.quiet_initAtapiCommand _ _ _ _))

lemma requestSense {command : BitVec 8} (h : hardDiskRequestSense ch command s = .ok t) :
    Moves P s t := by
  simp only [hardDiskRequestSense] at h
  obtain ⟨c, hput, h⟩ := bind_eq_ok.mp h
  obtain rfl := Except.ok.inj h
  refine replied ((AtaController.quiet_initAtapiCommand _ _ _ _).trans
    ((quiet_putBytes hput).trans ?_))
  split
  · exact ⟨rfl, rfl, .inl rfl, id⟩
  · exact AtaController.Quiet.refl c

/-- What the command of a packet does, to a CD-ROM. -/
lemma packet (htype : (s.drive ch).driveType = .cdrom) (h : hardDiskPacket ch s = .ok t) :
    Moves P s t := by
  simp only [hardDiskPacket] at h
  obtain ⟨-, h⟩ | ⟨-, h⟩ := ite_eq_ok h
  · obtain rfl := Except.ok.inj h
    exact nop
  obtain ⟨-, h⟩ | ⟨-, h⟩ := ite_eq_ok h
  · obtain ⟨-, h⟩ | ⟨-, h⟩ := ite_eq_ok h
    · obtain rfl := Except.ok.inj h
      exact refl P s
    · exact reply h
  obtain ⟨-, h⟩ | ⟨-, h⟩ := ite_eq_ok h
  · exact modeSense h
  obtain ⟨-, h⟩ | ⟨-, h⟩ := ite_eq_ok h
  · exact reply h
  obtain ⟨-, h⟩ | ⟨-, h⟩ := ite_eq_ok h
  · exact requestSense h
  obtain ⟨-, h⟩ | ⟨-, h⟩ := ite_eq_ok h
  · exact reply h
  obtain ⟨-, h⟩ | ⟨-, h⟩ := ite_eq_ok h
  · obtain rfl := Except.ok.inj h
    exact readBlocks _
  obtain ⟨-, h⟩ | ⟨-, h⟩ := ite_eq_ok h
  · obtain rfl := Except.ok.inj h
    exact readCd htype
  obtain ⟨-, h⟩ | ⟨-, h⟩ := ite_eq_ok h
  · exact readToc h
  obtain ⟨-, h⟩ | ⟨-, h⟩ := ite_eq_ok h
  · obtain ⟨-, h⟩ | ⟨-, h⟩ := ite_eq_ok h
    · obtain rfl := Except.ok.inj h
      exact atapiError _
    · obtain rfl := Except.ok.inj h
      exact (modifyController ⟨rfl, rfl, .inl rfl, id⟩).trans nop
  obtain ⟨-, h⟩ | ⟨-, h⟩ := ite_eq_ok h
  · obtain rfl := Except.ok.inj h
    exact (modifyController ⟨rfl, rfl, .inl rfl, id⟩).trans nop
  obtain ⟨-, h⟩ | ⟨-, h⟩ := ite_eq_ok h
  · obtain ⟨c, hput, h⟩ := bind_eq_ok.mp h
    obtain rfl := Except.ok.inj h
    exact replied ((quiet_putBytes hput).trans (AtaController.quiet_initAtapiCommand _ _ _ _))
  obtain ⟨-, h⟩ | ⟨-, h⟩ := ite_eq_ok h
  · obtain rfl := Except.ok.inj h
    exact atapiError _
  obtain ⟨-, h⟩ | ⟨-, h⟩ := ite_eq_ok h
  · exact getEventStatus h
  · obtain rfl := Except.ok.inj h
    exact atapiError _

/-- A data write while a packet is collected, by a CD-ROM. -/
lemma writePacket {value length : BitVec 32} (htype : (s.drive ch).driveType = .cdrom)
    (h : hardDiskWritePacket ch value length s = .ok t) : Moves P s t := by
  simp only [hardDiskWritePacket] at h
  obtain ⟨-, h⟩ | ⟨-, h⟩ := ite_eq_ok h
  · obtain rfl := Except.ok.inj h
    exact refl P s
  obtain ⟨buffer, hstore, h⟩ := bind_eq_ok.mp h
  have hsize : buffer.size = (s.controller ch).buffer.size := size_of_fill hstore
  obtain ⟨-, h⟩ | ⟨-, h⟩ := ite_eq_ok h
  · obtain rfl := Except.ok.inj h
    exact modifyController ⟨hsize, rfl, .inl rfl, id⟩
  · have hfull : Moves P s (s.modifyController ch fun _ => { s.controller ch with
        buffer := buffer
        bufferIndex := (s.controller ch).bufferIndex + length
        bufferSize := 2048 }) := by
      refine modifyDrive ⟨rfl, hsize, fun hc => hc, fun hs => hs, fun _ _ => ?_⟩
      show (2048 : BitVec 32).toNat ≤ (s.drive ch).driveType.blockLimit
      rw [htype]
      decide
    refine hfull.trans (packet ?_ h)
    rw [HardDisk.drive_modifyController]
    exact htype

/-! ## The handlers -/

lemma disk_of_suited {d : AtaDrive} (h : d.Suited)
    (hcommand : d.controller.currentCommand ∈ readCommands28 ++ readCommandsExt ++
      (writeCommands28 ++ writeCommandsExt)) : d.driveType = .disk := by
  unfold AtaDrive.Suited at h
  have hnone : ∀ command ∈ readCommands28 ++ readCommandsExt ++
      (writeCommands28 ++ writeCommandsExt), ¬ DriveType.none.Suits command := by decide
  have hcdrom : ∀ command ∈ readCommands28 ++ readCommandsExt ++
      (writeCommands28 ++ writeCommandsExt), ¬ DriveType.cdrom.Suits command := by decide
  cases htype : d.driveType with
  | none =>
      rw [htype] at h
      exact absurd h (hnone _ hcommand)
  | cdrom =>
      rw [htype] at h
      exact absurd h (hcdrom _ hcommand)
  | disk => rfl

lemma cdrom_of_suited {d : AtaDrive} (h : d.Suited)
    (hcommand : d.controller.currentCommand = ideCommandAtapiPacket) : d.driveType = .cdrom := by
  unfold AtaDrive.Suited at h
  rw [hcommand] at h
  cases htype : d.driveType with
  | none =>
      rw [htype] at h
      exact absurd h (by decide)
  | cdrom => rfl
  | disk =>
      rw [htype] at h
      exact absurd h (by decide)

end HardDisk.Moves

/-- A data read that takes the last bytes of a `MULTIPLE` block leaves a next block that fits. -/
def HardDisk.ReadFits (ch : Fin 4) (length : BitVec 32) (s : HardDisk) : Prop :=
  (s.controller ch).hasStatus ideStatusDevReq = true →
    (s.controller ch).currentCommand ∈ readMultiples →
    (s.controller ch).bufferIndex < (s.controller ch).bufferSize →
    ¬ (s.controller ch).bufferSize < (s.controller ch).bufferIndex + length →
    ¬ (s.controller ch).bufferIndex + length < (s.controller ch).bufferSize →
    (s.controller ch).MultipleFits

/-- A data write that fills a `MULTIPLE` block leaves a next block that fits: the sectors of the
block are counted off. -/
def HardDisk.WriteFits (ch : Fin 4) (length : BitVec 32) (s : HardDisk) : Prop :=
  (s.controller ch).currentCommand ∈ writeMultiples →
    (s.controller ch).bufferIndex < (s.controller ch).bufferSize →
    ¬ (s.controller ch).bufferIndex + length < (s.controller ch).bufferSize →
    min (s.controller ch).multipleSectors.toNat ((s.controller ch).numberOfSectors -
      BitVec.ofNat 32 (sectorPasses (s.controller ch).bufferSize)).toNat ≤ maxMultipleSectors

instance (ch : Fin 4) (length : BitVec 32) (s : HardDisk) : Decidable (s.ReadFits ch length) :=
  inferInstanceAs (Decidable (_ → _ → _ → _ → _ → _))

instance (ch : Fin 4) (length : BitVec 32) (s : HardDisk) : Decidable (s.WriteFits ch length) :=
  inferInstanceAs (Decidable (_ → _ → _ → _))

namespace HardDisk.Moves

variable {P : Prop} {s t : HardDisk} {ch : Fin 4}

/-- Stepping the address counts a sector off, and has no bearing on the command. -/
lemma counts_incrementAddress (d : AtaDrive) (x : BitVec 64) :
    (d.incrementAddress x).1.controller.currentCommand = d.controller.currentCommand ∧
      (d.incrementAddress x).1.controller.multipleSectors = d.controller.multipleSectors ∧
      (d.incrementAddress x).1.controller.numberOfSectors = d.controller.numberOfSectors - 1 := by
  simp only [AtaDrive.incrementAddress]
  split
  · simp only [AtaController.setLba]
    split
    · exact ⟨rfl, rfl, rfl⟩
    · exact ⟨rfl, rfl, rfl⟩
  · simp only [AtaDrive.incrementChs]
    split
    · split
      · split
        · exact ⟨rfl, rfl, rfl⟩
        · exact ⟨rfl, rfl, rfl⟩
      · exact ⟨rfl, rfl, rfl⟩
    · exact ⟨rfl, rfl, rfl⟩

/-- A write loop that comes to its end has counted its sectors off. -/
lemma counts_writeSectorLoop {n i : ℕ} {d d' : AtaDrive} {image image' : DiskImage}
    (h : writeSectorLoop n i (d, image) = .ok (d', image', true)) :
    d'.controller.currentCommand = d.controller.currentCommand ∧
      d'.controller.multipleSectors = d.controller.multipleSectors ∧
      d'.controller.numberOfSectors = d.controller.numberOfSectors - BitVec.ofNat 32 n := by
  induction n generalizing i d image with
  | zero =>
      obtain ⟨rfl, -⟩ := Prod.mk.inj (Except.ok.inj h)
      exact ⟨rfl, rfl, by simp⟩
  | succ n ih =>
      rw [writeSectorLoop] at h
      by_cases hend : d.calculateLogicalAddress image.size = -1
      · rw [if_pos hend] at h
        exact absurd (Prod.mk.inj (Prod.mk.inj (Except.ok.inj h)).2).2 Bool.false_ne_true
      · simp only [if_neg hend] at h
        obtain ⟨block, -, h⟩ := bind_eq_ok.mp h
        split at h
        · exact absurd (Prod.mk.inj (Prod.mk.inj (Except.ok.inj h)).2).2 Bool.false_ne_true
        · obtain ⟨hcommand, hmultiple, hcount⟩ := ih h
          obtain ⟨hcommand', hmultiple', hcount'⟩ :=
            counts_incrementAddress d (d.calculateLogicalAddress image.size)
          refine ⟨hcommand.trans hcommand', hmultiple.trans hmultiple', hcount.trans ?_⟩
          rw [hcount', BitVec.ofNat_add, BitVec.sub_sub, BitVec.add_comm]
          rfl

/-- A sector write that is not given up keeps the command, and counts its block off. -/
lemma counts_writeSector {n : ℕ} (h : hardDiskWriteSector ch s = .ok (t, n)) (hn : n ≠ 0) :
    (t.controller ch).currentCommand = (s.controller ch).currentCommand ∧
      (t.controller ch).multipleSectors = (s.controller ch).multipleSectors ∧
      (t.controller ch).numberOfSectors = (s.controller ch).numberOfSectors -
        BitVec.ofNat 32 (sectorPasses (s.controller ch).bufferSize) := by
  obtain ⟨⟨d, image, complete⟩, hloop, h⟩ := bind_eq_ok.mp h
  have hdrive : (s.modifyDrive ch fun _ => d).drive ch = d := s.drive_modifyDrive ch _
  cases complete with
  | true =>
      obtain ⟨rfl, -⟩ := Prod.mk.inj (Except.ok.inj h)
      have hcontroller :
          HardDisk.controller ch { s.modifyDrive ch (fun _ => d) with image := image } =
          d.controller := congrArg AtaDrive.controller hdrive
      rw [hcontroller]
      exact counts_writeSectorLoop hloop
  | false =>
      obtain ⟨-, rfl⟩ := Prod.mk.inj (Except.ok.inj h)
      exact absurd rfl hn

lemma readDataPort {length value : BitVec 32} (hs : (s.drive ch).Suited)
    (hP : P → s.ReadFits ch length) (h : hardDiskReadDataPort ch length s = .ok (t, value)) :
    Moves P s t := by
  simp only [hardDiskReadDataPort] at h
  split at h
  · obtain ⟨rfl, -⟩ := Prod.mk.inj (Except.ok.inj h)
    exact refl P s
  rename_i hreq
  split at h
  · rename_i hcommand
    refine readData (disk_of_suited hs (List.mem_append_left _ hcommand)) (fun hp => ?_) h
    exact fun hunread hfits hend hmultiple =>
      hP hp (by simpa using hreq) hmultiple hunread hfits hend
  split at h
  · exact readIdentity h
  split at h
  · exact readReply h
  · obtain ⟨rfl, -⟩ := Prod.mk.inj (Except.ok.inj h)
    exact refl P s

lemma writeDataPort {value length : BitVec 32} (hs : (s.drive ch).Suited)
    (hP : P → s.WriteFits ch length) (h : hardDiskWriteDataPort ch value length s = .ok t) :
    Moves P s t := by
  simp only [hardDiskWriteDataPort] at h
  obtain ⟨hcommand, h⟩ | ⟨-, h⟩ := ite_eq_ok h
  · refine writeData (disk_of_suited hs (List.mem_append_right _ hcommand)) (fun hp => ?_) h
    intro hunread buffer hstore hend u n hwrite hn hmultiple
    obtain ⟨hcommand, hkept, hcount⟩ := counts_writeSector hwrite hn
    rw [hcommand, HardDisk.controller_modifyController] at hmultiple
    rw [AtaController.MultipleFits, hkept, hcount, HardDisk.controller_modifyController]
    exact hP hp hmultiple hunread hend
  obtain ⟨hcommand, h⟩ | ⟨-, h⟩ := ite_eq_ok h
  · exact writePacket (cdrom_of_suited hs hcommand) h
  · obtain rfl := Except.ok.inj h
    exact refl P s

/-- The device control register: a reset begins, or ends. -/
lemma writeControl (value : BitVec 32) : Moves P s (hardDiskWriteControl ch value s) := by
  unfold hardDiskWriteControl
  extract_lets prevReset dnum s₁ c release
  have h₁ : Moves P s s₁ := modifyControllers fun _ => ⟨rfl, rfl, .inl rfl, id⟩
  have hrelease (n : Fin 2) (u : HardDisk) : Moves P u (release n u) := by
    refine Moves.trans (modifyDriveAt (AtaDrive.Step.of_quiet rfl ?_)) (setSignature _)
    refine ⟨by simp, by simp, .inl (by simp), not_conflict_of_not_busy ?_⟩
    simp [AtaController.hasStatus, ideStatusBusy, ideStatusDriveRdy]
  refine h₁.trans ?_
  split
  · have hreset : Moves P s₁ (s₁.modifyControllers ch AtaController.resetting) :=
      modifyControllers AtaController.quiet_resetting
    exact hreset.trans (lowerIrq.trans lowerIrq)
  split
  · exact (hrelease 0 s₁).trans (hrelease 1 _)
  · exact refl P s₁

/-! ## The handlers -/

end HardDisk.Moves

/-- What a port access finds of a `MULTIPLE` transfer, or starts, fits the buffer. -/
def DiskEvent.Fits (s : HardDisk) : DiskEvent → Prop
  | .portWrite address value length =>
      let (ch, port) := s.decode address
      (port = 0 → s.WriteFits ch length) ∧
        (port = 7 → (s.channel ch).dnum = 0 → (s.controller ch).hasStatus ideStatusBusy = false →
          s.CommandFits ch value)
  | .portRead address length =>
      let (ch, port) := s.decode address
      port = 0 → s.ReadFits ch length
  | _ => True

instance (s : HardDisk) (a : DiskEvent) : Decidable (a.Fits s) :=
  match a with
  | .portWrite address value length =>
      inferInstanceAs (Decidable (((s.decode address).2 = 0 →
        s.WriteFits (s.decode address).1 length) ∧
        ((s.decode address).2 = 7 → (s.channel (s.decode address).1).dnum = 0 →
          (s.controller (s.decode address).1).hasStatus ideStatusBusy = false →
          s.CommandFits (s.decode address).1 value)))
  | .portRead address length =>
      inferInstanceAs (Decidable ((s.decode address).2 = 0 →
        s.ReadFits (s.decode address).1 length))
  | .seekTimer => inferInstanceAs (Decidable True)
  | .bdmaComplete _ => inferInstanceAs (Decidable True)
  | .bmdmaRead _ => inferInstanceAs (Decidable True)
  | .bmdmaWrite _ => inferInstanceAs (Decidable True)

namespace HardDisk.Moves

variable {P : Prop} {s t : HardDisk} {ch : Fin 4}

/-- The other registers, which a write changes for both drives. -/
lemma registers {f : AtaController → AtaController}
    (h : ∀ c : AtaController, (f c).buffer = c.buffer ∧ (f c).bufferSize = c.bufferSize ∧
      (f c).currentCommand = c.currentCommand ∧ (f c).status = c.status) :
    Moves P s (s.modifyControllers ch f) := by
  refine modifyControllers fun c => ?_
  obtain ⟨hbuffer, hsize, hcommand, hstatus⟩ := h c
  refine ⟨by rw [hbuffer], hsize, .inl hcommand, fun hc => ?_⟩
  simpa only [AtaController.Conflict, AtaController.hasStatus, hstatus] using hc

lemma portWrite {address value length : BitVec 32} (hs : ∀ ch, (s.drive ch).Suited)
    (hP : P → DiskEvent.Fits s (.portWrite address value length))
    (h : hardDiskPortIoWriteHandler address value length s = .ok t) : Moves P s t := by
  simp only [hardDiskPortIoWriteHandler] at h
  simp only [DiskEvent.Fits] at hP
  set ch := (s.decode address).1 with hch
  set port := (s.decode address).2 with hport
  obtain ⟨hzero, h⟩ | ⟨-, h⟩ := ite_eq_ok h
  · exact writeDataPort (hs ch) (fun hp => (hP hp).1 hzero) h
  obtain ⟨-, h⟩ | ⟨-, h⟩ := ite_eq_ok h
  · obtain rfl := Except.ok.inj h
    exact registers fun _ => ⟨rfl, rfl, rfl, rfl⟩
  obtain ⟨-, h⟩ | ⟨-, h⟩ := ite_eq_ok h
  · obtain rfl := Except.ok.inj h
    exact registers fun _ => ⟨rfl, rfl, rfl, rfl⟩
  obtain ⟨-, h⟩ | ⟨-, h⟩ := ite_eq_ok h
  · obtain rfl := Except.ok.inj h
    exact registers fun _ => ⟨rfl, rfl, rfl, rfl⟩
  obtain ⟨-, h⟩ | ⟨-, h⟩ := ite_eq_ok h
  · obtain rfl := Except.ok.inj h
    exact registers fun _ => ⟨rfl, rfl, rfl, rfl⟩
  obtain ⟨-, h⟩ | ⟨-, h⟩ := ite_eq_ok h
  · obtain rfl := Except.ok.inj h
    exact registers fun _ => ⟨rfl, rfl, rfl, rfl⟩
  obtain ⟨-, h⟩ | ⟨-, h⟩ := ite_eq_ok h
  · obtain rfl := Except.ok.inj h
    exact (select _).trans (registers fun _ => ⟨rfl, rfl, rfl, rfl⟩)
  obtain ⟨hseven, h⟩ | ⟨-, h⟩ := ite_eq_ok h
  · exact writeCommandRegister (fun hp => (hP hp).2 hseven) h
  obtain ⟨-, h⟩ | ⟨-, h⟩ := ite_eq_ok h
  · obtain rfl := Except.ok.inj h
    exact writeControl value
  · obtain rfl := Except.ok.inj h
    exact refl P s

lemma portRead {address length value : BitVec 32} (hs : ∀ ch, (s.drive ch).Suited)
    (hP : P → DiskEvent.Fits s (.portRead address length))
    (h : hardDiskPortIoReadHandler address length s = .ok (t, value)) : Moves P s t := by
  simp only [hardDiskPortIoReadHandler] at h
  simp only [DiskEvent.Fits] at hP
  set ch := (s.decode address).1 with hch
  set port := (s.decode address).2 with hport
  obtain ⟨hzero, h⟩ | ⟨-, h⟩ := ite_eq_ok h
  · exact readDataPort (hs ch) (fun hp => hP hp hzero) h
  have hpure {x : BitVec 32} (h : (.ok (s, x) : HardDiskOutcome _) = .ok (t, value)) :
      Moves P s t := by
    obtain ⟨rfl, -⟩ := Prod.mk.inj (Except.ok.inj h)
    exact refl P s
  obtain ⟨-, h⟩ | ⟨-, h⟩ := ite_eq_ok h
  · exact hpure h
  obtain ⟨-, h⟩ | ⟨-, h⟩ := ite_eq_ok h
  · exact hpure h
  obtain ⟨-, h⟩ | ⟨-, h⟩ := ite_eq_ok h
  · exact hpure h
  obtain ⟨-, h⟩ | ⟨-, h⟩ := ite_eq_ok h
  · exact hpure h
  obtain ⟨-, h⟩ | ⟨-, h⟩ := ite_eq_ok h
  · exact hpure h
  obtain ⟨-, h⟩ | ⟨-, h⟩ := ite_eq_ok h
  · exact hpure h
  obtain ⟨-, h⟩ | ⟨-, h⟩ := ite_eq_ok h
  · obtain ⟨-, h⟩ | ⟨-, h⟩ := ite_eq_ok h
    · obtain ⟨rfl, -⟩ := Prod.mk.inj (Except.ok.inj h)
      exact lowerIrq
    · exact hpure h
  obtain ⟨-, h⟩ | ⟨-, h⟩ := ite_eq_ok h
  · obtain ⟨-, h⟩ | ⟨-, h⟩ := ite_eq_ok h
    · obtain ⟨rfl, -⟩ := Prod.mk.inj (Except.ok.inj h)
      exact modifyController (AtaController.quiet_alternateStatus _)
    · exact hpure h
  obtain ⟨-, h⟩ | ⟨-, h⟩ := ite_eq_ok h
  · exact hpure h
  · exact hpure h

/-! ## The seek timer and the bus master -/

lemma seekTick (ch : Fin 4) : Moves P s (hardDiskSeekTick ch s) := by
  have hended (f : AtaController → AtaController)
      (hf : ∀ c : AtaController, c.seekEnded.Quiet (f c)) : Moves P s (s.modifyController ch f) :=
    modifyController ((AtaController.quiet_seekEnded _).trans (hf _))
  simp only [hardDiskSeekTick]
  cases (s.drive ch).driveType with
  | none => exact refl P s
  | cdrom =>
      simp only
      split
      · exact readySendAtapi
      · exact refl P s
  | disk =>
      simp only
      split
      · refine Moves.trans (hended _ fun c => ?_) raiseInterrupt
        exact ⟨rfl, rfl, .inl rfl, id⟩
      split
      · exact (hended _ fun c => AtaController.Quiet.refl _).trans (call _)
      · exact refl P s

lemma seekTimer : Moves P s (hardDiskSeekTimer s) := (seekTick 0).trans (seekTick 1)

lemma bdmaComplete : Moves P s (hardDiskBdmaComplete ch s) := by
  refine Moves.trans (modifyDrive (AtaDrive.Step.of_quiet ?_ ?_)) raiseInterrupt
  · simp only [AtaDrive.bdmaCompleted]
    split <;> rfl
  · simp only [AtaDrive.bdmaCompleted]
    split
    · refine ⟨by simp [AtaController.clearInterruptRel, AtaController.setInterruptReason],
        by simp [AtaController.clearInterruptRel, AtaController.setInterruptReason],
        .inl (by simp [AtaController.clearInterruptRel, AtaController.setInterruptReason]),
        not_conflict_of_not_busy ?_⟩
      simp [AtaController.clearInterruptRel, AtaController.setInterruptReason,
        AtaController.hasStatus, ideStatusBusy, ideStatusDriveRdy, ideStatusDevReq, ideStatusError]
    · refine ⟨by simp, by simp, .inl (by simp), not_conflict_of_not_busy ?_⟩
      simp [AtaController.hasStatus, ideStatusBusy, ideStatusDriveRdy, ideStatusDevReq,
        ideStatusError, ideStatusWriteFault, ideStatusDevSeekComp, ideStatusCorrectedData]

lemma bmdmaRead {n : ℕ} {bytes : List (BitVec 8)}
    (h : hardDiskBmdmaReadSector ch s = .ok (t, n, bytes)) : Moves P s t := by
  simp only [hardDiskBmdmaReadSector] at h
  obtain ⟨-, h⟩ | ⟨-, h⟩ := ite_eq_ok h
  · obtain ⟨-, h⟩ | ⟨-, h⟩ := ite_eq_ok h
    · obtain ⟨rfl, -⟩ := Prod.mk.inj (Except.ok.inj h)
      exact refl P s
    · obtain ⟨⟨u, ret⟩, hread, h⟩ := bind_eq_ok.mp h
      obtain ⟨rfl, -⟩ := Prod.mk.inj (Except.ok.inj h)
      exact readSector hread
  obtain ⟨-, h⟩ | ⟨-, h⟩ := ite_eq_ok h
  · obtain ⟨-, h⟩ | ⟨-, h⟩ := ite_eq_ok h
    · obtain ⟨-, h⟩ | ⟨-, h⟩ := ite_eq_ok h
      · obtain ⟨rfl, -⟩ := Prod.mk.inj (Except.ok.inj h)
        exact refl P s
      · obtain ⟨rfl, -⟩ := Prod.mk.inj (Except.ok.inj h)
        exact modifyController ⟨rfl, rfl, .inl rfl, id⟩
    · obtain ⟨copied, -, h⟩ := bind_eq_ok.mp h
      obtain ⟨rfl, -⟩ := Prod.mk.inj (Except.ok.inj h)
      exact refl P s
  · obtain ⟨rfl, -⟩ := Prod.mk.inj (Except.ok.inj h)
    exact commandAborted

lemma bmdmaWrite {n : ℕ} (h : hardDiskBmdmaWriteSector ch s = .ok (t, n)) : Moves P s t := by
  simp only [hardDiskBmdmaWriteSector] at h
  obtain ⟨-, h⟩ | ⟨-, h⟩ := ite_eq_ok h
  · obtain ⟨rfl, -⟩ := Prod.mk.inj (Except.ok.inj h)
    exact commandAborted
  obtain ⟨-, h⟩ | ⟨-, h⟩ := ite_eq_ok h
  · obtain ⟨rfl, -⟩ := Prod.mk.inj (Except.ok.inj h)
    exact refl P s
  · exact writeSector h

/-! ## Every event -/

/-- What an event does to the drives, once all are in commands for their types. -/
lemma event {a : DiskEvent} (hs : ∀ ch, (s.drive ch).Suited) (hP : P → a.Fits s)
    (h : hardDiskStep s a = .ok t) : Moves P s t := by
  cases a with
  | portWrite address value length => exact portWrite hs hP h
  | portRead address length =>
      obtain ⟨⟨u, value⟩, hread, h⟩ := bind_eq_ok.mp h
      obtain rfl := Except.ok.inj h
      exact portRead hs hP hread
  | seekTimer =>
      obtain rfl := Except.ok.inj h
      exact seekTimer
  | bdmaComplete ch =>
      obtain rfl := Except.ok.inj h
      exact bdmaComplete
  | bmdmaRead ch =>
      obtain ⟨⟨u, n, bytes⟩, hread, h⟩ := bind_eq_ok.mp h
      obtain rfl := Except.ok.inj h
      exact bmdmaRead hread
  | bmdmaWrite ch =>
      obtain ⟨⟨u, n⟩, hwrite, h⟩ := bind_eq_ok.mp h
      obtain rfl := Except.ok.inj h
      exact bmdmaWrite hwrite

end HardDisk.Moves

end Svmm
