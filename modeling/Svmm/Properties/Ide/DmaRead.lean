import Svmm.Properties.HardDisk.Commands
import Svmm.Properties.Ide.DmaStages

/-!
# What a DMA read brings into memory

The command and the start of the bus master bring the read to its first stage, and the ticks of the
two timers keep it at a stage.  So the regions end up with what the buffer of the channel held
before, and the sectors are there only if they were in that buffer.
-/

namespace Svmm

open TransitionRun

/-! ## The command -/

section Command

variable {s : HardDisk} {command : BitVec 8}

lemma hardDiskCommand_readDma (h : command = ideCommandReadDma ∨ command = ideCommandReadDmaExt)
    (s : HardDisk) : hardDiskCommand 0 (command.setWidth 32) s =
      .ok (hardDiskReadDma 0 (dmaExt command) (command.setWidth 32) s) := by
  unfold hardDiskCommand
  simp only [isCommand_setWidth]
  rcases h with rfl | rfl
  · simp +decide only [if_false, if_true]
    rfl
  · simp +decide only [if_false, if_true]
    rfl

/-- A count of zero stands for the most sectors that the form can count. -/
lemma dmaCount_ne_zero (command : BitVec 8) (s : HardDisk) : s.dmaCount command ≠ 0 := by
  have hcount : ∀ ext, ((s.controller 0).lba48Transform ext).numberOfSectors ≠ 0 := by
    intro ext
    unfold AtaController.lba48Transform
    simp only
    split_ifs with hext hzero hzero
    · decide
    · intro h
      refine hzero (BitVec.eq_of_toNat_eq ?_)
      rw [← BitVec.toNat_setWidth_of_le (show 8 ≤ 32 by decide), h]
      rfl
    · decide
    · intro h
      obtain ⟨hhigh, hlow⟩ := BitVec.or_eq_zero_iff.mp h
      exact hzero ⟨by bv_omega, by bv_omega⟩
  exact hcount _

lemma dmaCount_pos (command : BitVec 8) (s : HardDisk) : 0 < (s.dmaCount command).toNat :=
  Nat.pos_of_ne_zero fun hzero => dmaCount_ne_zero command s (BitVec.eq_of_toNat_eq hzero)

/-- The drive takes the command. -/
lemma write_readDma (hs : s.Installed) (hidle : (s.controller 0).hasStatus ideStatusBusy = false)
    (hpresent : s.bdmaPresent ≠ 0)
    (hknown : command = ideCommandReadDma ∨ command = ideCommandReadDmaExt)
    (hdisk : s.dmaAddress command < s.image.size.toNat / 512) :
    ∃ t, hardDiskPortIoWriteHandler 0x1f7 (command.setWidth 32) 1 s = .ok t ∧
      (t.controller 0).dmaFrame =
        (command, (s.controller 0).bufferSize, (s.controller 0).buffer.size) ∧
      (t.controller 0).numberOfSectors = s.dmaCount command ∧ (t.drive 0).driveType = .disk ∧
      t.bdmaPresent = s.bdmaPresent := by
  have hvalue : ¬ command.setWidth 32 &&& 0xf0 = (0x10 : BitVec 32) := by
    rcases hknown with rfl | rfl
    · decide
    · decide
  rw [writeCommandRegister_of_idle hs hidle hvalue, hardDiskCommand_readDma hknown]
  set u := (hardDiskLowerIrq 0 s).modifyController 0 fun c => c.clearStatus ideStatusError with hu
  have hdrive : u.drive 0 =
      { s.drive 0 with controller := (s.controller 0).clearStatus ideStatusError } := by
    rw [hu, HardDisk.drive_modifyController]
    rfl
  have hready : ¬ ((u.drive 0).driveType ≠ .disk ∨ u.bdmaPresent = 0) := by
    rw [hdrive]
    exact not_or.mpr ⟨not_not.mpr hs.isDisk, hpresent⟩
  have haddress : ((u.modifyController 0 (AtaController.lba48Transform (dmaExt command))).drive
      0).calculateLogicalAddress s.image.size = (s.dmaLookup command).logicalAddress := by
    rw [HardDisk.drive_modifyController, HardDisk.controller_eq_drive, hdrive]
    exact calculateLogicalAddress_of_lt hdisk
  set v := u.modifyController 0 (AtaController.lba48Transform (dmaExt command)) with hv
  have hlookup : v.controller 0 =
      ((s.controller 0).clearStatus ideStatusError).lba48Transform (dmaExt command) := by
    rw [hv, HardDisk.controller_modifyController, HardDisk.controller_eq_drive, hdrive]
  have hresult : hardDiskReadDma 0 (dmaExt command) (command.setWidth 32) u =
      v.modifyDrive 0 fun d => { d with
        nextLSector := (s.dmaLookup command).logicalAddress
        controller := (((({ d.controller with
          currentCommand := (command.setWidth 32).setWidth 8
          errorRegister := 0 }.setStatus ideStatusBusy).setStatus ideStatusDriveRdy).clearStatus
            ideStatusCorrectedData).clearStatus ideStatusDevReq).clearStatus
              ideStatusDevSeekComp } := by
    unfold hardDiskReadDma hardDiskDmaCommand
    rw [if_neg hready]
    have hsize : v.image.size = s.image.size := rfl
    simp only [← hv, hsize, haddress]
    rw [if_neg (ne_neg_one_of_lt hdisk)]
  have hcommand : ((command.setWidth 32).setWidth 8 : BitVec 8) = command :=
    Word.setWidth_setWidth_eq (by decide) command
  refine ⟨_, rfl, ?_⟩
  rw [hresult, hcommand]
  simp only [HardDisk.controller_eq_drive, HardDisk.drive_modifyDrive, dmaFrame_setStatus,
    dmaFrame_clearStatus]
  rw [← HardDisk.controller_eq_drive, hlookup]
  refine ⟨rfl, rfl, ?_, rfl⟩
  rw [hv, HardDisk.drive_modifyController, hdrive]
  exact hs.isDisk

end Command

/-! ## Ticks at a stage -/

section Ticks

variable {s t u : IdeSystem} {command : BitVec 8} {value : BitVec 32}
  {table done rest : List PrdEntry} {e : PrdEntry}

lemma activeChannel_of_other
    (hother : ¬ (Word.has (t.bmdma 1).status bmdmaStatusActive ∧ (t.bmdma 1).prdCurrent ≠ 0)) :
    t.activeChannel = if Word.has (t.bmdma 0).status bmdmaStatusActive ∧ (t.bmdma 0).prdCurrent ≠ 0
      then some 0 else none := by
  unfold IdeSystem.activeChannel
  rw [if_neg hother]

/-- A tick does nothing when no entry is left, at an entry at address 0, and before the drive is
ready. -/
lemma DmaStage.tick_waits (h : DmaStage s command t done rest)
    (hwaits : rest = [] ∨ (t.bmdma 0).prdCurrent = 0 ∨ (t.bmdma 0).dataReady = 0) :
    (ideTimerHandler t).result = .ok t := by
  unfold ideTimerHandler
  rw [activeChannel_of_other h.other]
  split_ifs with hactive
  · have hready : (t.bmdma 0).dataReady = 0 := by
      rcases hwaits with hrest | hcurrent | hready
      · exact absurd hactive.1 (h.ended hrest)
      · exact absurd hcurrent hactive.2
      · exact hready
    simp only
    rw [if_pos ⟨hready, h.reads⟩]
  · rfl

lemma DmaStage.tick_works (h : DmaStage s command t done (e :: rest))
    (hcurrent : (t.bmdma 0).prdCurrent ≠ 0) (hready : (t.bmdma 0).dataReady ≠ 0) :
    (ideTimerHandler t).result = (ideTransfer 0 t).result := by
  unfold ideTimerHandler
  rw [activeChannel_of_other h.other, if_pos ⟨(h.current (List.cons_ne_nil _ _)).1, hcurrent⟩]
  simp only
  rw [if_neg fun hwaits => hready hwaits.1]

/-- The parts of a table at a stage. -/
lemma PrdTable.split (htable : PrdTable s (s.bmdma 0).prdTable table)
    (hsplit : done ++ e :: rest = table) :
    (∀ e' ∈ done ++ e :: rest, s.machine.WhollyInRam e'.address e'.size) ∧
      (done ++ e :: rest).Pairwise (fun e e' => ∀ x, ¬ (e.Covers x ∧ e'.Covers x)) ∧
      (e.EndsTable ↔ rest = []) := by
  have hlength : done.length < table.length := by
    rw [← hsplit, List.length_append, List.length_cons]
    omega
  have hplace : table[done.length] = e := by
    simp only [← hsplit]
    rw [List.getElem_append_right (le_refl _)]
    simp
  have hlast := htable.last done.length hlength
  rw [hplace, ← hsplit, List.length_append, List.length_cons] at hlast
  refine ⟨hsplit ▸ htable.regionsInRam, hsplit ▸ htable.apart, hlast.trans ?_⟩
  rw [← List.length_eq_zero_iff]
  omega

/-- A tick before the drive has counted down. -/
lemma DmaStage.tick_handing (h : DmaStage s command t done (e :: rest)) (hb : s.machine.Booted)
    (hknown : command = ideCommandReadDma ∨ command = ideCommandReadDmaExt)
    (htable : PrdTable s (s.bmdma 0).prdTable table) (hsplit : done ++ e :: rest = table)
    (hands : t.disk.HandsOver 0) {disk : HardDisk} {ret : ℕ}
    (hread : hardDiskReadSector 0 t.disk = .ok (disk, ret)) :
    (ideTransfer 0 t).result = .ok (ideBdmaComplete 0 (t.rewound.withDisk disk)) ∧
      DmaStage s command (ideBdmaComplete 0 (t.rewound.withDisk disk)) done (e :: rest) := by
  have hdma := h.drive.readsDma hknown
  have hpasses : t.disk.dmaPasses ≠ 0 := by
    have hsize := ((handsOver_iff hdma).mp hands).2
    have hpos : 0 < (t.disk.controller 0).bufferSize.toNat := by
      rw [Nat.pos_iff_ne_zero]
      exact fun hzero => hsize (BitVec.eq_of_toNat_eq hzero)
    unfold HardDisk.dmaPasses sectorPasses hardDiskSectorSize
    omega
  have hdrive := h.drive.readSector hread hpasses
  have hstage := (h.rewound (h.entry hb htable hsplit).2).withDisk hdrive
  refine ⟨transfer_handing h.reads hdma hands hread, hstage.withDisk ?_⟩
  rw [t.rewound.disk_withDisk]
  exact hdrive.bdmaComplete

/-- A tick afterwards. -/
lemma DmaStage.tick_idle (h : DmaStage s command t done (e :: rest)) (hb : s.machine.Booted)
    (hknown : command = ideCommandReadDma ∨ command = ideCommandReadDmaExt)
    (htable : PrdTable s (s.bmdma 0).prdTable table) (hsplit : done ++ e :: rest = table)
    (hidle : ¬ t.disk.HandsOver 0) (hprogress : (s.bmdma 0).prdTable ≠ 0 ∧ CountsDown s command) :
    (ideTransfer 0 t).result = .ok t.entryDone ∧
      DmaStage s command t.entryDone (done ++ [e]) rest := by
  obtain ⟨hregions, hapart, hlast⟩ := htable.split hsplit
  obtain ⟨haddress, hcount⟩ := h.entry hb htable hsplit
  exact ⟨transfer_idle h.reads (h.drive.readsDma hknown) hidle,
    h.next hb hregions hapart hlast haddress hcount hprogress⟩

/-- The address of the table is not 0 when an entry is taken. -/
lemma DmaStage.prdTable_ne_zero (h : DmaStage s command t done (e :: rest))
    (hcurrent : (t.bmdma 0).prdCurrent ≠ 0) : (s.bmdma 0).prdTable ≠ 0 := by
  by_cases hdone : done = []
  · intro hzero
    refine hcurrent ?_
    rw [(h.current (List.cons_ne_nil _ _)).2, hzero, hdone]
    rfl
  · exact (h.progress hdone).1

/-- The read is at some stage of its table. -/
def DmaAt (s : IdeSystem) (command : BitVec 8) (table : List PrdEntry) (t : IdeSystem) : Prop :=
  ∃ done rest, done ++ rest = table ∧ DmaStage s command t done rest

/-- What a tick can do. -/
lemma DmaAt.tick (h : DmaReadAsked s command value table) (hat : DmaAt s command table t)
    (hstep : (ideTimerHandler t).result = .ok u) : DmaAt s command table u := by
  obtain ⟨done, rest, hsplit, hstage⟩ := hat
  by_cases hwaits : rest = [] ∨ (t.bmdma 0).prdCurrent = 0 ∨ (t.bmdma 0).dataReady = 0
  · obtain rfl := Except.ok.inj ((hstage.tick_waits hwaits).symm.trans hstep)
    exact ⟨done, rest, hsplit, hstage⟩
  · obtain ⟨hrest, hcurrent, hready⟩ := by simpa only [not_or] using hwaits
    obtain ⟨e, rest, rfl⟩ := List.exists_cons_of_ne_nil hrest
    rw [hstage.tick_works hcurrent hready] at hstep
    have hdma := hstage.drive.readsDma h.known
    by_cases hands : t.disk.HandsOver 0
    · cases hread : hardDiskReadSector 0 t.disk with
      | error fault =>
          rw [transfer_error hstage.reads hdma hands hread] at hstep
          cases hstep
      | ok r =>
          obtain ⟨hresult, hnext⟩ :=
            hstage.tick_handing h.booted h.known h.walkable hsplit hands hread
          obtain rfl := Except.ok.inj (hresult.symm.trans hstep)
          exact ⟨done, e :: rest, hsplit, hnext⟩
    · have hcounts := hstage.drive.countsDown (dmaCount_ne_zero command s.disk)
        (fun hhands => hands ((handsOver_iff hdma).mpr hhands))
      obtain ⟨hresult, hnext⟩ := hstage.tick_idle h.booted h.known h.walkable hsplit hands
        ⟨hstage.prdTable_ne_zero hcurrent, hcounts⟩
      obtain rfl := Except.ok.inj (hresult.symm.trans hstep)
      exact ⟨done ++ [e], rest, by rw [List.append_assoc]; exact hsplit, hnext⟩

lemma DmaAt.seekTimer (h : DmaReadAsked s command value table) (hat : DmaAt s command table t) :
    DmaAt s command table (t.withDisk (hardDiskSeekTimer t.disk)) := by
  obtain ⟨done, rest, hsplit, hstage⟩ := hat
  exact ⟨done, rest, hsplit, hstage.withDisk (hstage.drive.seekTimer h.known)⟩

/-- However the timers run, the read is at some stage. -/
lemma DmaAt.run (h : DmaReadAsked s command value table) (hat : DmaAt s command table t)
    {timers : List IdeEvent} (htimers : ∀ e ∈ timers, e = .seekTimer ∨ e = .tick)
    (hrun : run ideStep t timers = .ok u) : DmaAt s command table u := by
  induction timers generalizing t with
  | nil =>
      obtain rfl := Except.ok.inj hrun
      exact hat
  | cons timer timers ih =>
      obtain ⟨v, hv, hrun⟩ := run_cons_ok.mp hrun
      refine ih ?_ (fun e he => htimers e (List.mem_cons_of_mem _ he)) hrun
      rcases htimers timer List.mem_cons_self with rfl | rfl
      · obtain rfl := Except.ok.inj hv
        exact hat.seekTimer h
      · exact hat.tick h hv

end Ticks

/-! ## From the command to the end -/

section Ends

variable {s t u : IdeSystem} {command : BitVec 8} {value : BitVec 32}
  {table done rest : List PrdEntry} {e : PrdEntry}

lemma DmaReadAsked.table_ne_nil (h : DmaReadAsked s command value table) : table ≠ [] := by
  rintro rfl
  have htotal := h.total
  have hpos := dmaCount_pos command s.disk
  rw [List.map_nil, List.sum_nil] at htotal
  omega

lemma DmaReadAsked.address_lt (h : DmaReadAsked s command value table) :
    s.disk.dmaAddress command < s.disk.image.size.toNat / 512 := by
  have honDisk := h.onDisk
  have hpos := dmaCount_pos command s.disk
  omega

/-- The start of the bus master. -/
lemma portWrite_start (address : BitVec 32) (hpresent : t.disk.bdmaPresent = address) :
    ideStep t (.portWrite address value) = .ok (t.modify 0 (Bmdma.writeCommand value)) := by
  subst hpresent
  simp only [ideStep, idePortIoWriteHandler, BitVec.sub_self]
  rfl

/-- The command and the start bring the read to the stage at which nothing is done. -/
lemma DmaReadAsked.start (h : DmaReadAsked s command value table) :
    ∃ t, run ideStep s [.diskWrite 0x1f7 (command.setWidth 32) 1,
        .portWrite s.disk.bdmaPresent value] = .ok t ∧
      DmaStage s command t [] table ∧
      (t.disk.controller 0).numberOfSectors = s.disk.dmaCount command := by
  obtain ⟨disk, hwrite, hframe, hcount, htype, hpresent⟩ :=
    write_readDma h.installed h.idle h.present h.known h.address_lt
  have hfirst : ideStep s (.diskWrite 0x1f7 (command.setWidth 32) 1) = .ok (s.withDisk disk) := by
    simp only [ideStep, hwrite]
    rfl
  have hsecond : ideStep (s.withDisk disk) (.portWrite s.disk.bdmaPresent value) =
      .ok ((s.withDisk disk).modify 0 (Bmdma.writeCommand value)) := by
    refine portWrite_start s.disk.bdmaPresent ?_
    rw [s.disk_withDisk]
    exact hpresent
  have hwalk := s.sameWalk_withDisk 0 disk
  have hother := s.sameWalk_withDisk 1 disk
  have hstarted : ((s.withDisk disk).modify 0 (Bmdma.writeCommand value)).bmdma 0 =
      { (s.withDisk disk).bmdma 0 with
        command := value
        status := Word.set ((s.withDisk disk).bmdma 0).status bmdmaStatusActive
        prdCurrent := ((s.withDisk disk).bmdma 0).prdTable
        bufferOffset := 0 } := by
    have hstopped : ¬ Word.has ((s.withDisk disk).bmdma 0).command ideBdmaCommandStart := by
      rw [hwalk.command]
      exact h.stopped
    rw [IdeSystem.bmdma_modify, Bmdma.writeCommand, if_pos ⟨h.starts, hstopped⟩]
  have hdrive : DmaDrive s command disk :=
    ⟨hframe, htype, 0, by rw [hcount, Nat.zero_mul]; exact (BitVec.sub_zero _).symm,
      fun hr => absurd rfl hr⟩
  refine ⟨_, run_cons_ok.mpr ⟨_, hfirst, run_cons_ok.mpr ⟨_, hsecond, rfl⟩⟩, ?_, ?_⟩
  · refine ⟨fun a => ?_, fun p _ => ?_, ?_, ?_, ?_, ?_, ?_, fun hdone => absurd rfl hdone,
      fun _ => ?_, fun hnil => absurd hnil h.table_ne_nil⟩
    · exact congrArg (fun m => svmmGetHostPageFromGPA m a) (s.machine_withDisk disk)
    · exact congrArg (fun m : Machine => m.byte p) (s.machine_withDisk disk)
    · rw [hstarted]
      rfl
    · rw [hstarted]
      exact hwalk.buffer
    · rw [hstarted]
      exact h.reads
    · exact (s.disk_withDisk disk).symm ▸ hdrive
    · rw [IdeSystem.bmdma_modify_of_ne _ (by decide), hother.active, hother.prdCurrent]
      exact h.other
    · rw [hstarted]
      refine ⟨by simp [bmdmaStatusActive], ?_⟩
      rw [List.length_nil]
      exact hwalk.prdTable.trans (BitVec.add_zero _).symm
  · have hsame : ((s.withDisk disk).modify 0 (Bmdma.writeCommand value)).disk = disk :=
      s.disk_withDisk disk
    rw [hsame]
    exact hcount

/-- The end of the seek tells the bus master that the drive is ready. -/
lemma DmaStage.ready_seekTimer (h : DmaStage s command t done rest)
    (hknown : command = ideCommandReadDma ∨ command = ideCommandReadDmaExt) :
    ((t.withDisk (hardDiskSeekTimer t.disk)).bmdma 0).dataReady ≠ 0 ∧
      ((t.withDisk (hardDiskSeekTimer t.disk)).disk.controller 0).numberOfSectors =
        (t.disk.controller 0).numberOfSectors := by
  obtain ⟨calls, hdrive, hcalls⟩ := seekTimer_of_readsDma (h.drive.readsDma hknown) h.drive.isDisk
  refine ⟨?_, ?_⟩
  · unfold IdeSystem.withDisk
    rw [hcalls, List.drop_left, List.foldl_cons]
    refine (IdeSystem.sameWalk_foldl _ 0 calls).ready ?_
    show (1 : BitVec 8) ≠ 0
    decide
  · rw [t.disk_withDisk, HardDisk.controller_eq_drive, hdrive]
    exact (dmaFrame_seekEnded _).2

/-- The entries of a table that is not at address 0 are not at address 0 either. -/
lemma DmaStage.prdCurrent_ne_zero (h : DmaStage s command t done (e :: rest))
    (hb : s.machine.Booted) (htable : PrdTable s (s.bmdma 0).prdTable table)
    (hsplit : done ++ e :: rest = table)
    (hne : (s.bmdma 0).prdTable ≠ 0) : (t.bmdma 0).prdCurrent ≠ 0 := by
  rw [(h.current (List.cons_ne_nil _ _)).2]
  rcases Nat.eq_zero_or_pos done.length with hzero | hpos
  · rw [hzero]
    exact fun hnil => hne ((BitVec.add_zero _).symm.trans hnil)
  · intro hnil
    -- the entry before it would be at the end of the address space
    have hbefore : done.length - 1 < table.length := by
      rw [← hsplit, List.length_append]
      omega
    have hend := (host_of_whollyInRam hb (by decide) (by decide) (htable.inRam _ hbefore)).2
    obtain ⟨n, hn⟩ := Nat.exists_eq_succ_of_ne_zero hpos.ne'
    rw [hn, Nat.succ_eq_add_one, Nat.mul_succ, BitVec.ofNat_add, ← BitVec.add_assoc] at hnil
    rw [hn, Nat.succ_sub_one] at hend
    bv_omega

lemma numberOfSectors_bdmaComplete {disk : HardDisk} (htype : (disk.drive 0).driveType = .disk) :
    ((hardDiskBdmaComplete 0 disk).controller 0).numberOfSectors =
      (disk.controller 0).numberOfSectors := by
  rw [HardDisk.controller_eq_drive, drive_bdmaComplete]
  exact (bdmaCompleted_frame htype).2.1

/-- A tick at which the drive reads sectors. -/
lemma DmaStage.exists_handed (hasked : DmaReadAsked s command value table)
    (h : DmaStage s command t done (e :: rest)) (hsplit : done ++ e :: rest = table)
    (hne : (s.bmdma 0).prdTable ≠ 0) (hready : (t.bmdma 0).dataReady ≠ 0)
    (hands : t.disk.HandsOver 0)
    (hfits : s.disk.dmaPasses * 512 ≤ (s.disk.controller 0).buffer.size) :
    ∃ u, ideStep t .tick = .ok u ∧ DmaStage s command u done (e :: rest) ∧
      (u.bmdma 0).dataReady ≠ 0 ∧ (u.disk.controller 0).numberOfSectors =
        (t.disk.controller 0).numberOfSectors - BitVec.ofNat 32 s.disk.dmaPasses := by
  obtain ⟨⟨disk, ret⟩, hread⟩ := exists_hardDiskReadSector (s := t.disk)
    (by rw [h.drive.passes, h.drive.allocated]; exact hfits)
  obtain ⟨hresult, hnext⟩ := h.tick_handing hasked.booted hasked.known hasked.walkable hsplit
    hands hread
  obtain ⟨-, htype, hless, -⟩ := hardDiskReadSector_counts hread
  have hrewound : (t.rewound.bmdma 0).dataReady ≠ 0 := by
    rw [bmdma_rewound_zero]
    exact hready
  refine ⟨_, ?_, hnext, ?_, ?_⟩
  · refine Eq.trans ?_ hresult
    exact h.tick_works (h.prdCurrent_ne_zero hasked.booted hasked.walkable hsplit hne) hready
  · exact (IdeSystem.sameWalk_withDisk _ 0 _).ready
      ((t.rewound.sameWalk_withDisk 0 disk).ready hrewound)
  · unfold ideBdmaComplete
    rw [IdeSystem.disk_withDisk, t.rewound.disk_withDisk]
    refine (numberOfSectors_bdmaComplete (htype.trans h.drive.isDisk)).trans ?_
    rw [hless, h.drive.passes]

/-- Ticks until the drive has counted down. -/
lemma DmaStage.exists_drained (hasked : DmaReadAsked s command value table) {r : ℕ}
    (h : DmaStage s command t done (e :: rest)) (hsplit : done ++ e :: rest = table)
    (hne : (s.bmdma 0).prdTable ≠ 0) (hready : (t.bmdma 0).dataReady ≠ 0)
    (hroom : (s.disk.controller 0).bufferSize ≠ 0 →
      s.disk.dmaPasses * 512 ≤ (s.disk.controller 0).buffer.size ∧
        (t.disk.controller 0).numberOfSectors = BitVec.ofNat 32 (r * s.disk.dmaPasses)) :
    ∃ n u, run ideStep t (List.replicate n .tick) = .ok u ∧
      DmaStage s command u done (e :: rest) ∧ (u.bmdma 0).dataReady ≠ 0 ∧ ¬ u.disk.HandsOver 0 := by
  induction r generalizing t with
  | zero =>
      refine ⟨0, t, rfl, h, hready, fun hands => ?_⟩
      obtain ⟨hsectors, hsize⟩ := (handsOver_iff (h.drive.readsDma hasked.known)).mp hands
      rw [h.drive.bufferSize] at hsize
      exact hsectors ((hroom hsize).2.trans (by rw [Nat.zero_mul]; rfl))
  | succ r ih =>
      by_cases hands : t.disk.HandsOver 0
      · have hsize := ((handsOver_iff (h.drive.readsDma hasked.known)).mp hands).2
        rw [h.drive.bufferSize] at hsize
        obtain ⟨hfits, hcount⟩ := hroom hsize
        obtain ⟨u, hstep, hnext, hready, hless⟩ :=
          h.exists_handed hasked hsplit hne hready hands hfits
        obtain ⟨n, v, hrun, hv⟩ := ih hnext hready fun _ => by
          refine ⟨hfits, ?_⟩
          rw [hless, hcount, Nat.succ_mul, BitVec.ofNat_add]
          exact BitVec.add_sub_cancel _ _
        exact ⟨n + 1, v, run_cons_ok.mpr ⟨u, hstep, hrun⟩, hv⟩
      · exact ⟨0, t, rfl, h, hready, hands⟩

lemma disk_entryDone_of_ends (hends : Word.has (t.entryCount 0) 31 = true) :
    t.entryDone.disk = hardDiskBdmaComplete 0 t.disk := by
  unfold IdeSystem.entryDone ideNextEntry
  rw [if_pos hends]
  exact IdeSystem.disk_withDisk _ _

lemma entryDone_of_not_ends (hends : ¬ Word.has (t.entryCount 0) 31 = true) :
    t.entryDone.disk = t.disk ∧ (t.entryDone.bmdma 0).dataReady = (t.bmdma 0).dataReady := by
  have hself : t.entryWritten.bmdma 0 = { t.bmdma 0 with bufferOffset := t.entryOffset } :=
    bmdma_rewound_zero
  unfold IdeSystem.entryDone ideNextEntry
  rw [if_neg hends, IdeSystem.bmdma_modify, hself]
  exact ⟨rfl, rfl⟩

/-- A tick at which an entry is done. -/
lemma DmaStage.exists_next (hasked : DmaReadAsked s command value table)
    (h : DmaStage s command t done (e :: rest)) (hsplit : done ++ e :: rest = table)
    (hholds : (s.bmdma 0).prdTable ≠ 0 ∧ CountsDown s command) (hready : (t.bmdma 0).dataReady ≠ 0)
    (hidle : ¬ t.disk.HandsOver 0) :
    ideStep t .tick = .ok t.entryDone ∧ DmaStage s command t.entryDone (done ++ [e]) rest ∧
      (Word.has (t.entryCount 0) 31 = true ↔ rest = []) := by
  obtain ⟨hresult, hnext⟩ :=
    h.tick_idle hasked.booted hasked.known hasked.walkable hsplit hidle hholds
  have hcurrent := h.prdCurrent_ne_zero hasked.booted hasked.walkable hsplit hholds.1
  refine ⟨(h.tick_works hcurrent hready).trans hresult, hnext, ?_⟩
  rw [(h.entry hasked.booted hasked.walkable hsplit).2]
  exact (hasked.walkable.split hsplit).2.2

/-- Ticks until no entry is left. -/
lemma DmaStage.exists_finished (hasked : DmaReadAsked s command value table)
    (h : DmaStage s command t done (e :: rest)) (hsplit : done ++ e :: rest = table)
    (hholds : (s.bmdma 0).prdTable ≠ 0 ∧ CountsDown s command) (hready : (t.bmdma 0).dataReady ≠ 0)
    (hidle : ¬ t.disk.HandsOver 0) :
    ∃ n u, run ideStep t (List.replicate n .tick) = .ok u ∧ DmaStage s command u table [] ∧
      (u.disk.controller 0).hasStatus ideStatusBusy = false ∧
      (u.disk.controller 0).hasStatus ideStatusDevReq = false := by
  induction rest generalizing t done e with
  | nil =>
      obtain ⟨hstep, hnext, hends⟩ := h.exists_next hasked hsplit hholds hready hidle
      obtain ⟨-, -, -, hbusy, hrequest⟩ := bdmaCompleted_frame h.drive.isDisk
      refine ⟨1, t.entryDone, run_cons_ok.mpr ⟨_, hstep, rfl⟩, hsplit ▸ hnext, ?_⟩
      rw [disk_entryDone_of_ends (hends.mpr rfl), HardDisk.controller_eq_drive, drive_bdmaComplete]
      exact ⟨hbusy, hrequest⟩
  | cons e' rest ih =>
      obtain ⟨hstep, hnext, hends⟩ := h.exists_next hasked hsplit hholds hready hidle
      obtain ⟨hdisk, hkept⟩ := entryDone_of_not_ends (mt hends.mp (List.cons_ne_nil e' rest))
      obtain ⟨n, u, hrun, hu⟩ := ih hnext (by rw [List.append_assoc]; exact hsplit)
        (by rw [hkept]; exact hready) (by rw [hdisk]; exact hidle)
      exact ⟨n + 1, u, run_cons_ok.mpr ⟨_, hstep, hrun⟩, hu⟩

/-- A read that delivered its sectors found them in the buffer of the channel. -/
lemma DmaReadAsked.holds (h : DmaReadAsked s command value table)
    (hdelivers : DmaReadDelivers s command value table) : DmaReadHolds s command table := by
  obtain ⟨s₂, hstart, hstage, -⟩ := h.start
  obtain ⟨timers, htimers, t, hrun, hdone⟩ := hdelivers
  obtain ⟨u, hfirst, hrun⟩ := run_append_ok.mp hrun
  obtain rfl := Except.ok.inj (hstart.symm.trans hfirst)
  obtain ⟨done, rest, hsplit, hlast⟩ := DmaAt.run h ⟨[], table, rfl, hstage⟩ htimers hrun
  -- the bus master is inactive only when no entry is left
  have hrest : rest = [] := by
    by_contra hrest
    have hactive := (hlast.current hrest).1
    rw [hdone.inactive] at hactive
    cases hactive
  subst hrest
  rw [List.append_nil] at hsplit
  subst hsplit
  obtain ⟨hne, hcounts⟩ := hlast.progress h.table_ne_nil
  have hdata := hlast.data
  rw [bufferWalk, List.append_nil, List.append_nil, hdone.data] at hdata
  exact ⟨hne, hcounts, hdata.symm⟩

/-- The timers that bring such a read to its end. -/
lemma DmaReadAsked.delivers (h : DmaReadAsked s command value table)
    (hholds : DmaReadHolds s command table) : DmaReadDelivers s command value table := by
  obtain ⟨hne, hcounts, hbuffer⟩ := hholds
  obtain ⟨s₂, hstart, hstage, hcount⟩ := h.start
  obtain ⟨e, rest, rfl⟩ := List.exists_cons_of_ne_nil h.table_ne_nil
  obtain ⟨hready, hkept⟩ := hstage.ready_seekTimer h.known
  have hseek := hstage.withDisk (hstage.drive.seekTimer h.known)
  obtain ⟨r, hr⟩ : ∃ r, (s.disk.controller 0).bufferSize ≠ 0 →
      s.disk.dmaPasses * 512 ≤ (s.disk.controller 0).buffer.size ∧
        BitVec.ofNat 32 (r * s.disk.dmaPasses) = s.disk.dmaCount command := by
    rcases hcounts with hzero | ⟨hfits, r, hr⟩
    · exact ⟨0, fun hsize => absurd hzero hsize⟩
    · exact ⟨r, fun _ => ⟨hfits, hr⟩⟩
  obtain ⟨n, u, hdrain, hu, huready, huidle⟩ := hseek.exists_drained h rfl hne hready (r := r)
    fun hsize => ⟨(hr hsize).1, hkept.trans (hcount.trans (hr hsize).2.symm)⟩
  obtain ⟨n', v, hfinish, hv, hbusy, hrequest⟩ :=
    hu.exists_finished h rfl ⟨hne, hcounts⟩ huready huidle
  refine ⟨.seekTimer :: (List.replicate n .tick ++ List.replicate n' .tick), ?_, v, ?_, ?_⟩
  · intro timer htimer
    rcases List.mem_cons.mp htimer with rfl | htimer
    · exact .inl rfl
    · rcases List.mem_append.mp htimer with htimer | htimer
      · exact .inr (List.eq_of_mem_replicate htimer)
      · exact .inr (List.eq_of_mem_replicate htimer)
  · exact run_append_ok.mpr
      ⟨_, hstart, run_cons_ok.mpr ⟨_, rfl, run_append_ok.mpr ⟨_, hdrain, hfinish⟩⟩⟩
  · have hdata := hv.data
    rw [bufferWalk, List.append_nil, List.append_nil] at hdata
    refine ⟨hdata.trans hbuffer, fun p hp => hv.others p fun e' he' hat => ?_, hbusy, hrequest,
      eq_false_of_ne_true (hv.ended rfl)⟩
    obtain ⟨j, hj, heq⟩ := (PrdEntry.at_iff h.booted (h.walkable.regionsInRam e' he')).mp hat
    exact hp e' he' j hj heq

/-- A DMA read ends with its sectors in the regions exactly when the table is not at address 0, the
drive counts down to zero, and the buffer of the channel holds the sectors before the read. -/
theorem dma_read_delivers_iff (h : DmaReadAsked s command value table) :
    DmaReadDelivers s command value table ↔ DmaReadHolds s command table :=
  ⟨h.holds, h.delivers⟩

end Ends

/-! ## A sector -/

/-- After start-up, with an image of eight sectors of zeros, and a table at `0x1000` with one entry,
for a sector at `0x2000`. -/
def zeroSectors : IdeSystem :=
  (ideInitialize
    (hardDiskInitialize ⟨4096, fun _ => 0, 0, [], [], fun _ => true⟩ ⟨0, fun _ => []⟩ 0xc000)
    { bootMachine 0x10000 with
      byte := fun p =>
        if p = 0x11001 then 0x20 else if p = 0x11005 then 2
        else if p = 0x11007 then 0x80 else 0 }).modify 0 fun b => { b with prdTable := 0x1000 }

/-- The same with another image. -/
def sectorsOf (content : ℕ → BitVec 8) : IdeSystem :=
  { zeroSectors with disk := { zeroSectors.disk with
      image := { zeroSectors.disk.image with content := content } } }

lemma zeroSectors_table : PrdTable zeroSectors 0x1000 [⟨0x2000, 0x80000200⟩] where
  listed := by
    intro i hi
    obtain rfl : i = 0 := Nat.lt_one_iff.mp hi
    have haddress : (zeroSectors.entryAt 0x1000 0).address = 0x2000 := by decide +kernel
    have hcount : (zeroSectors.entryAt 0x1000 0).count = 0x80000200 := by decide +kernel
    exact congrArg₂ PrdEntry.mk haddress hcount
  last := by
    intro i hi
    obtain rfl : i = 0 := Nat.lt_one_iff.mp hi
    have hends : Word.has (0x80000200 : BitVec 32) 31 = true := by decide
    exact iff_of_true hends rfl
  inRam := by decide +kernel
  regionsInRam := by decide +kernel
  apart := List.pairwise_singleton _ _
  beside := by
    unfold PrdEntry.Covers
    decide +kernel

lemma sectorsOf_asked (content : ℕ → BitVec 8) :
    DmaReadAsked (sectorsOf content) ideCommandReadDma 9 [⟨0x2000, 0x80000200⟩] where
  booted := by
    have hsame : (bootMachine 0x10000).SameBlock (sectorsOf content).machine := ⟨rfl, rfl, rfl⟩
    exact hsame.booted bootMachine_booted
  installed := by
    have h : zeroSectors.disk.Installed := by decide +kernel
    exact ⟨h.ports, h.selected, h.isDisk, h.allocated⟩
  idle := (by decide +kernel : (zeroSectors.disk.controller 0).hasStatus ideStatusBusy = false)
  present := (by decide +kernel : zeroSectors.disk.bdmaPresent ≠ 0)
  known := .inl rfl
  onDisk := (by decide +kernel : zeroSectors.disk.dmaAddress ideCommandReadDma +
    (zeroSectors.disk.dmaCount ideCommandReadDma).toNat ≤ zeroSectors.disk.image.size.toNat / 512)
  stopped := (by decide +kernel : ¬ Word.has (zeroSectors.bmdma 0).command ideBdmaCommandStart)
  other := (by decide +kernel : ¬ (Word.has (zeroSectors.bmdma 1).status bmdmaStatusActive ∧
    (zeroSectors.bmdma 1).prdCurrent ≠ 0))
  starts := by decide
  reads := by decide
  walkable := by
    have h := zeroSectors_table
    exact ⟨h.listed, h.last, h.inRam, h.regionsInRam, h.apart, h.beside⟩
  total := (by decide +kernel : _ = (zeroSectors.disk.dmaCount ideCommandReadDma).toNat * 512)

/-- A sector of zeros comes to the region, since the buffer has zeros. -/
theorem dma_read_zeros :
    DmaReadDelivers (sectorsOf fun _ => 0) ideCommandReadDma 9 [⟨0x2000, 0x80000200⟩] := by
  refine (dma_read_delivers_iff (sectorsOf_asked _)).mpr ⟨by decide +kernel, .inl ?_, ?_⟩
  · decide +kernel
  · decide +kernel

/-- A sector of ones does not. -/
theorem dma_read_misses_sector :
    DmaReadAsked (sectorsOf fun _ => 1) ideCommandReadDma 9 [⟨0x2000, 0x80000200⟩] ∧
      ¬ DmaReadDelivers (sectorsOf fun _ => 1) ideCommandReadDma 9 [⟨0x2000, 0x80000200⟩] := by
  refine ⟨sectorsOf_asked _, fun hdelivers => ?_⟩
  have hbuffer := ((sectorsOf_asked _).holds hdelivers).2.2
  revert hbuffer
  decide +kernel

end Svmm
