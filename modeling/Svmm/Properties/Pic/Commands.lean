import Svmm.Properties.Frames

/-!
# The two PICs as one machine

The inputs of the PIC pair, and what each of them comes to: a store into one controller's
registers, followed by a service, by clearing the event, or by nothing.  `PicWrite` lists the
stores a port write can make, one constructor for each command; the properties of the pair are
case analyses over it.
-/

namespace Svmm

open TransitionRun

/-! ## Inputs -/

/-- An input to the PIC pair. -/
inductive PicOp where
  | picRaiseIrq (irqNumber : BitVec 8)
  | picLowerIrq (irqNumber : BitVec 8)
  | picPortIoWrite (address : BitVec 64) (value : BitVec 32)
  | picIAC
  deriving DecidableEq

/-- The effect of one input. -/
def picStep (s : State) : PicOp → Outcome State
  | .picRaiseIrq irqNumber => picRaiseIrq irqNumber s
  | .picLowerIrq irqNumber => .ok (picLowerIrq irqNumber s)
  | .picPortIoWrite address value => picPortIoWriteHandler address value s
  | .picIAC => (picIAC s).map Prod.snd

/-- The command port of a controller. -/
def commandPort (i : Fin 2) : BitVec 64 := if i = 0 then 0x20 else 0xA0

/-- The data port of a controller. -/
def dataPort (i : Fin 2) : BitVec 64 := if i = 0 then 0x21 else 0xA1

/-- ICW1 to ICW4 of one controller, for a cascaded pair in fully nested mode.  Of the slave's
ICW3 the code keeps nothing. -/
structure IcwWords (i : Fin 2) where
  icw1 : BitVec 32
  icw2 : BitVec 32
  icw3 : BitVec 32
  icw4 : BitVec 32
  init : Word.has icw1 icw1Init = true
  reqIcw4 : Word.has icw1 icw1ReqIcw4 = true
  cascade : i = 0 → Word.has icw3 icw3CascadeEnable = true
  nested : Word.has icw4 modeFullyNested = true

/-- The port writes of the four words. -/
def icws {i : Fin 2} (w : IcwWords i) : List PicOp :=
  [.picPortIoWrite (commandPort i) w.icw1, .picPortIoWrite (dataPort i) w.icw2,
    .picPortIoWrite (dataPort i) w.icw3, .picPortIoWrite (dataPort i) w.icw4]

/-- The words a PC's master is set up with: offset 8, the slave on line 2. -/
def masterWords : IcwWords 0 :=
  ⟨0x11, 0x08, 0x04, 0x01, by decide, by decide, fun _ => by decide, by decide⟩

/-- The words a PC's slave is set up with: offset 0x70. -/
def slaveWords : IcwWords 1 :=
  ⟨0x11, 0x70, 0x02, 0x01, by decide, by decide, by decide, by decide⟩

/-- The set-up of the pair. -/
def picPairSetup : List PicOp := icws masterWords ++ icws slaveWords

/-! ## Irq numbers -/

lemma irqBit_eq {irq : ℕ} (h : irq < 8) : irqBit irq = irq := Nat.mod_eq_of_lt (by omega)

section Bits

variable {p : Pic} {irq k : ℕ}

lemma lt_of_requested (h : p.requested irq = true) : irqBit irq < 8 := Word.lt_of_has h

/-- The scan stops at an irq of the controller: a number past 7 that tests positive has an
alias below 8, which the scan meets first. -/
lemma nextIrq_spec (h : p.nextIrq = some irq) :
    irq < 8 ∧ irq ≤ p.currentPriority.toNat ∧ p.requested irq = true ∧ p.masked irq = false ∧
      p.inService irq = false := by
  obtain ⟨hle, hp, hleast⟩ := Scan.firstUpTo_eq_some_iff.mp h
  have hbits : p.masked irq = false ∧ p.inService irq = false ∧ p.requested irq = true := by
    simpa [and_assoc] using hp
  have hlt : irq < 8 := by
    have hbit := lt_of_requested hbits.2.2
    have hidem : irqBit (irqBit irq) = irqBit irq := irqBit_eq hbit
    by_contra hge
    have hbelow : irqBit irq < irq := by omega
    have hfalse := hleast (irqBit irq) hbelow
    unfold Pic.masked Pic.inService Pic.requested at hfalse hp
    rw [hidem] at hfalse
    rw [hp] at hfalse
    cases hfalse
  exact ⟨hlt, hle, hbits.2.2, hbits.1, hbits.2.1⟩

/-- The scan finds something up to `CurrentPriority` when there is something. -/
lemma exists_nextIrq (hle : k ≤ p.currentPriority.toNat) (hreq : p.requested k = true)
    (hmask : p.masked k = false) (hserv : p.inService k = false) : ∃ irq, p.nextIrq = some irq :=
  Scan.exists_firstUpTo hle (by simp [hreq, hmask, hserv])

/-- A latched irq is read back as it was latched. -/
lemma latchedIrq_latch (h : irq < 8) : (p.latch irq).latchedIrq = irq := by
  show (BitVec.ofNat 8 irq + p.currentOffset - p.currentOffset).toNat = irq
  rw [BitVec.add_sub_cancel, BitVec.toNat_ofNat]
  exact Nat.mod_eq_of_lt (by omega)

namespace Pic

lemma requested_raiseLine {line k : ℕ} (hline : line < 8) (hk : k < 8) :
    (p.raiseLine line).requested k = (p.requested k || decide (line = k)) := by
  show Word.has (Word.set p.interruptRequest (irqBit line)) (irqBit k) = _
  rw [Word.has_set, irqBit_eq hline, irqBit_eq hk]
  simp [hk, requested, irqBit_eq hk]

lemma requested_lowerLine {line k : ℕ} (hline : line < 8) (hk : k < 8) :
    (p.lowerLine line).requested k = (p.requested k && !decide (line = k)) := by
  show Word.has (Word.clear p.interruptRequest (irqBit line)) (irqBit k) = _
  rw [Word.has_clear, irqBit_eq hline, irqBit_eq hk]
  simp [requested, irqBit_eq hk]

lemma pin_raiseLine {line k : ℕ} (hline : line < 8) (hk : k < 8) :
    (p.raiseLine line).pin k = (p.pin k || decide (line = k)) := by
  show Word.has (Word.set p.interruptPin (irqBit line)) (irqBit k) = _
  rw [Word.has_set, irqBit_eq hline, irqBit_eq hk]
  simp [hk, pin, irqBit_eq hk]

lemma pin_lowerLine {line k : ℕ} (hline : line < 8) (hk : k < 8) :
    (p.lowerLine line).pin k = (p.pin k && !decide (line = k)) := by
  show Word.has (Word.clear p.interruptPin (irqBit line)) (irqBit k) = _
  rw [Word.has_clear, irqBit_eq hline, irqBit_eq hk]
  simp [pin, irqBit_eq hk]

/-- An acknowledge keeps the requests of the other irqs. -/
lemma requested_consume_of_ne {k : ℕ} (hirq : irq < 8) (hk : k < 8) (hne : irq ≠ k) :
    (p.consume irq).requested k = p.requested k := by
  unfold consume requested
  dsimp only
  split_ifs
  · rfl
  · rw [Word.has_clear, irqBit_eq hirq, irqBit_eq hk]
    simp [hne]

/-- An acknowledge takes requests away and adds none. -/
lemma requested_of_consume {k : ℕ} (h : (p.consume irq).requested k = true) :
    p.requested k = true := by
  unfold consume requested at h
  dsimp only at h
  split_ifs at h
  · exact h
  · rw [Word.has_clear, Bool.and_eq_true] at h
    exact h.1

end Pic

end Bits

/-! ## Port writes -/

/-- The stores of a port write to controller `i`, with their effects. -/
inductive PicWrite (i : Fin 2) (p : Pic) : Pic × PicEffect → Prop where
  | icw1 (value : BitVec 32) : PicWrite i p (p.writeIcw1 value)
  /-- OCW3 that selects a register to read, or no mode. -/
  | select (cmd : BitVec 8) : PicWrite i p ({ p with operationCmd2 := cmd }, .none)
  | enterSpecialMask (cmd : BitVec 8) :
      PicWrite i p ({ p with operationCmd2 := cmd, mode := Word.bit modeSpecialMask }, .service)
  /-- OCW3 that enters the special fully nested or the poll mode. -/
  | enterMode (cmd mode : BitVec 8) (hnested : Word.has mode modeFullyNested = false)
      (hmask : Word.has mode modeSpecialMask = false) :
      PicWrite i p ({ p with operationCmd2 := cmd, mode := mode }, .none)
  /-- OCW2 0x00 and 0x80. -/
  | eoiMode (mode : BitVec 8) (hnested : Word.has mode modeFullyNested = false)
      (hmask : Word.has mode modeSpecialMask = false) :
      PicWrite i p ({ p with mode := mode }, .none)
  /-- The non-specific EOI of the last irq in service up to `CurrentPriority`. -/
  | endOfInterrupt (irq : ℕ)
      (hirq : Scan.lastUpTo p.inService p.currentPriority.toNat = irq)
      (hserv : p.inService irq = true) :
      PicWrite i p
        ({ p with
            interruptInService := Word.clear p.interruptInService (irqBit irq)
            currentPriority := 7 }, .service)
  /-- The non-specific EOI with nothing in service up to `CurrentPriority`. -/
  | endOfNothing : PicWrite i p (p, .service)
  | specificEndOfInterrupt (irq : ℕ) (hirq : irq < 8) :
      PicWrite i p (p.specificEndOfInterrupt irq, .service)
  | setPriority (irq : ℕ) (hirq : irq < 8) :
      PicWrite i p ({ p with currentPriority := BitVec.ofNat 8 irq }, .none)
  | rotate (irq : ℕ) (hirq : irq < 8) :
      PicWrite i p
        ({ p.specificEndOfInterrupt irq with currentPriority := BitVec.ofNat 8 irq }, .service)
  | ignored : PicWrite i p (p, .none)
  | icw2 (offset : BitVec 8) (hstate : p.state = stateInitializedIcw1) :
      PicWrite i p ({ p with state := stateOffsetSetIcw2, currentOffset := offset }, .none)
  | icw3 (cmd pins : BitVec 8) (hstate : p.state = stateOffsetSetIcw2)
      (hslave : i = 1 → cmd = icw3SlaveId) :
      PicWrite i p
        ({ p with
            initCmd2 := cmd
            state := stateSlaveSetIcw3
            interruptPin := p.interruptPin &&& ~~~pins }, .none)
  | icw4 (value : BitVec 32) (hicw1 : p.state ≠ stateInitializedIcw1)
      (hicw2 : p.state ≠ stateOffsetSetIcw2) (hstate : p.state ≠ stateArchSetIcw4) :
      PicWrite i p (p.writeIcw4 value, .none)
  | interruptMask (mask : BitVec 8) (hstate : p.state = stateArchSetIcw4) :
      PicWrite i p ({ p with interruptMask := mask }, .service)

section Write

variable {i : Fin 2} {p : Pic}

lemma picWrite_writeOcw3 (value : BitVec 32) : PicWrite i p (p.writeOcw3 value) := by
  unfold Pic.writeOcw3
  dsimp only
  split_ifs
  · exact .select _
  · exact .enterSpecialMask _
  · exact .enterMode _ _ (by decide) (by decide)
  · exact .enterMode _ _ (by decide) (by decide)
  · exact .select _

lemma picWrite_endOfInterrupt : PicWrite i p (p.endOfInterrupt, .service) := by
  unfold Pic.endOfInterrupt
  dsimp only
  split_ifs with hpriority hserv
  · exact .endOfNothing
  · exact .endOfInterrupt _ rfl hserv
  · exact .endOfNothing

lemma picWrite_writeOcw2 (value : BitVec 32) : PicWrite i p (p.writeOcw2 value) := by
  unfold Pic.writeOcw2
  dsimp only
  split_ifs
  · exact .eoiMode _ (by decide) (by decide)
  · exact .eoiMode _ (by decide) (by decide)
  · exact picWrite_endOfInterrupt
  · exact .specificEndOfInterrupt _ (by omega)
  · exact .setPriority _ (by omega)
  · exact .rotate _ (by omega)
  · exact .ignored

lemma picWrite_writeCommand (value : BitVec 32) : PicWrite i p (p.writeCommand value) := by
  unfold Pic.writeCommand
  split_ifs
  · exact .icw1 value
  · exact picWrite_writeOcw3 value
  · exact picWrite_writeOcw2 value

lemma picWrite_writeData (value : BitVec 32) : PicWrite i p (p.writeData i value) := by
  unfold Pic.writeData
  split_ifs with h1 h2 hmaster h4 h5
  · exact .icw2 _ h1
  · refine .icw3 _ _ h2 fun hi => ?_
    rw [hmaster] at hi
    cases hi
  · exact .icw3 _ _ h2 fun _ => rfl
  · refine .icw4 value h1 h2 fun heq => ?_
    rw [heq] at h4
    exact absurd h4.1 (lt_irrefl _)
  · exact .interruptMask _ h5
  · exact .ignored

/-- Every port write that is not ignored makes one of these stores. -/
lemma picWrite_of_picWritten {address : BitVec 64} {value : BitVec 32} {s : State}
    {w : Pic × PicEffect} (h : picWritten address value s = some (i, w)) :
    PicWrite i (s.pic i) w := by
  unfold picWritten at h
  dsimp only at h
  split_ifs at h
  all_goals
    simp only [Option.some.injEq, Prod.mk.injEq] at h
    obtain ⟨rfl, rfl⟩ := h
  · exact picWrite_writeCommand value
  · exact picWrite_writeCommand value
  · exact picWrite_writeData value
  · exact picWrite_writeData value

end Write

section Ports

variable (i : Fin 2) (value : BitVec 32) (s : State)

lemma picPortIoWriteHandler_command :
    picPortIoWriteHandler (commandPort i) value s =
      picApply i ((s.pic i).writeCommand value) s := by
  have hof : i = 0 ∨ i = 1 := by omega
  rcases hof with rfl | rfl <;> simp [picPortIoWriteHandler, commandPort]

lemma picPortIoWriteHandler_data :
    picPortIoWriteHandler (dataPort i) value s = picApply i ((s.pic i).writeData i value) s := by
  have hof : i = 0 ∨ i = 1 := by omega
  rcases hof with rfl | rfl <;> simp [picPortIoWriteHandler, dataPort]

end Ports

/-! ## Service with the slave behind the master's line 2 -/

section Service

variable {s t : State}

/-- A service of the master in fully nested mode finds nothing, or latches the irq and opens
the window. -/
lemma picService_zero_cases (h : picService 0 s = .ok t)
    (hmode : (s.pic 0).specialMask = false) (hnested : (s.pic 0).fullyNested = true)
    (hcascade : (s.pic 0).cascade = true) :
    ((s.pic 0).nextIrq = none ∧ t = s) ∨
      ∃ irq, (s.pic 0).nextIrq = some irq ∧
        t = ((s.setPic 0 ((s.pic 0).latch irq)).setWindow 1).setEvent eventPendingIntr := by
  cases picServed_of_picService h with
  | specialMask hmode' => rw [hmode] at hmode'; cases hmode'
  | unmoded _ hnested' => rw [hnested] at hnested'; cases hnested'
  | idle _ _ hnext => exact Or.inl ⟨hnext, rfl⟩
  | opened _ _ hnext _ => exact Or.inr ⟨_, hnext, rfl⟩
  | forwarded _ _ _ hcascade' _ => rw [hcascade] at hcascade'; cases hcascade'

/-- A service of the slave in fully nested mode finds nothing, or latches the irq and raises
line 2 of the master, which is serviced unless the pin was set. -/
lemma picService_one_cases (h : picService 1 s = .ok t)
    (hmode : (s.pic 1).specialMask = false) (hnested : (s.pic 1).fullyNested = true)
    (hcascade : (s.pic 1).cascade = false) :
    ((s.pic 1).nextIrq = none ∧ t = s) ∨
      ∃ irq, (s.pic 1).nextIrq = some irq ∧
        (((s.pic 0).pin 2 = true ∧ t = s.setPic 1 ((s.pic 1).latch irq)) ∨
          ((s.pic 0).pin 2 = false ∧
            picService 0 ((s.setPic 1 ((s.pic 1).latch irq)).setPic 0 ((s.pic 0).raiseLine 2)) =
              .ok t)) := by
  cases picServed_of_picService h with
  | specialMask hmode' => rw [hmode] at hmode'; cases hmode'
  | unmoded _ hnested' => rw [hnested] at hnested'; cases hnested'
  | idle _ _ hnext => exact Or.inl ⟨hnext, rfl⟩
  | opened _ _ _ hcascade' => rw [hcascade] at hcascade'; cases hcascade'
  | forwarded _ _ hnext _ hcall =>
      refine Or.inr ⟨_, hnext, ?_⟩
      rw [picRaiseCascade_eq, State.pic_setPic_one_zero] at hcall
      split_ifs at hcall with hpin
      · simp only [Except.ok.injEq] at hcall
        exact Or.inl ⟨hpin, hcall.symm⟩
      · exact Or.inr ⟨by simpa using hpin, hcall⟩

end Service

/-! ## Acknowledge -/

section Acknowledge

variable (s : State)

lemma masterAcknowledged_zero :
    s.masterAcknowledged.pic 0 =
      ((s.pic 0).consume (s.pic 0).latchedIrq).serve (s.pic 0).latchedIrq := by
  simp [State.masterAcknowledged]

lemma masterAcknowledged_one : s.masterAcknowledged.pic 1 = s.pic 1 := by
  simp [State.masterAcknowledged]

lemma pendingIntr_masterAcknowledged : s.masterAcknowledged.pendingIntr = false := by
  simp [State.masterAcknowledged]

lemma slaveAcknowledged_zero :
    s.slaveAcknowledged.pic 0 =
      { (s.pic 0).consume 2 with
        interruptPin := Word.clear (s.pic 0).interruptPin (irqBit 2) } := by
  simp [State.slaveAcknowledged]

lemma slaveAcknowledged_one :
    s.slaveAcknowledged.pic 1 =
      ((s.pic 1).consume (s.pic 1).latchedIrq).serve (s.pic 1).latchedIrq := by
  simp [State.slaveAcknowledged]

lemma pendingIntr_slaveAcknowledged : s.slaveAcknowledged.pendingIntr = false := by
  simp [State.slaveAcknowledged]

variable {s}

/-- Line 2 is an edge line of the master, so an acknowledge of the slave consumes its
request. -/
lemma requested_slaveAcknowledged (h : Word.has (s.pic 0).edgeLevel (irqBit 2) = false) :
    (s.slaveAcknowledged.pic 0).requested 2 = false := by
  rw [slaveAcknowledged_zero]
  show Word.has ((s.pic 0).consume 2).interruptRequest (irqBit 2) = false
  unfold Pic.consume
  dsimp only
  rw [h]
  simp

end Acknowledge

/-- The acknowledge of a step. -/
lemma exists_of_picStep_iac {s t : State} (h : picStep s .picIAC = .ok t) :
    ∃ v, picIAC s = .ok (v, t) := by
  simp only [picStep] at h
  cases hiac : picIAC s with
  | error e =>
      rw [hiac] at h
      cases h
  | ok r =>
      rw [hiac] at h
      simp only [Except.map, Except.ok.injEq] at h
      exact ⟨r.1, by rw [← h]⟩

end Svmm
