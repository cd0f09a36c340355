import Svmm.Properties.Pic.Commands

/-!
# Both PICs in fully nested mode

What ICW1 to ICW4 set up for good, and what raises, lowers, mask writes and EOIs come to while
it lasts: a store into one controller, followed by `PicService` of that controller.
-/

namespace Svmm

open TransitionRun

/-! ## The mode -/

/-- The registers that ICW1 to ICW4 write and that the operation of the pair leaves alone. -/
structure Pic.SameSetup (p q : Pic) : Prop where
  initCmd2 : q.initCmd2 = p.initCmd2
  edgeLevel : q.edgeLevel = p.edgeLevel
  state : q.state = p.state
  mode : q.mode = p.mode

lemma Pic.SameSetup.refl (p : Pic) : p.SameSetup p := ⟨rfl, rfl, rfl, rfl⟩

/-- Both controllers are set up in fully nested mode, the slave behind line 2 of the master. -/
@[mk_iff]
structure NestedMode (s : State) : Prop where
  state : ∀ i, (s.pic i).state = stateArchSetIcw4
  fullyNested : ∀ i, (s.pic i).fullyNested = true
  specialMask : ∀ i, (s.pic i).specialMask = false
  master : (s.pic 0).cascade = true
  slave : (s.pic 1).cascade = false
  edge : Word.has (s.pic 0).edgeLevel (irqBit 2) = false

instance (s : State) : Decidable (NestedMode s) := decidable_of_iff _ (nestedMode_iff s).symm

/-- What holds of both controllers holds of each. -/
lemma forall_controller {Q : Fin 2 → Prop} (hzero : Q 0) (hone : Q 1) (i : Fin 2) : Q i := by
  have hof : i = 0 ∨ i = 1 := by omega
  rcases hof with rfl | rfl
  · exact hzero
  · exact hone

lemma State.forall_pic {s : State} {Q : Pic → Prop} (hzero : Q (s.pic 0)) (hone : Q (s.pic 1))
    (i : Fin 2) : Q (s.pic i) :=
  forall_controller (Q := fun i => Q (s.pic i)) hzero hone i

section Mode

variable {s t : State}

lemma NestedMode.of_setup (h : NestedMode s) (hsetup : ∀ i, (s.pic i).SameSetup (t.pic i)) :
    NestedMode t where
  state i := by rw [(hsetup i).state, h.state i]
  fullyNested i := by
    have hnested := h.fullyNested i
    unfold Pic.fullyNested at hnested ⊢
    rwa [(hsetup i).mode]
  specialMask i := by
    have hmask := h.specialMask i
    unfold Pic.specialMask at hmask ⊢
    rwa [(hsetup i).mode]
  master := by
    have hmaster := h.master
    unfold Pic.cascade at hmaster ⊢
    rwa [(hsetup 0).initCmd2]
  slave := by
    have hslave := h.slave
    unfold Pic.cascade at hslave ⊢
    rwa [(hsetup 1).initCmd2]
  edge := by rw [(hsetup 0).edgeLevel, h.edge]

lemma NestedMode.setPic (h : NestedMode s) {i : Fin 2} {p : Pic} (hp : (s.pic i).SameSetup p) :
    NestedMode (s.setPic i p) := by
  refine h.of_setup fun j => ?_
  rw [State.pic_setPic]
  split_ifs with hj
  · rw [hj]
    exact hp
  · exact .refl _

lemma NestedMode.of_pic_eq (h : NestedMode s) (hpic : t.pic = s.pic) : NestedMode t := by
  refine h.of_setup fun i => ?_
  rw [hpic]
  exact .refl _

/-- A service of the master finds nothing, or latches an irq and opens the window. -/
lemma NestedMode.service_zero (h : NestedMode s) (hservice : picService 0 s = .ok t) :
    ((s.pic 0).nextIrq = none ∧ t = s) ∨
      ∃ irq, (s.pic 0).nextIrq = some irq ∧
        t = ((s.setPic 0 ((s.pic 0).latch irq)).setWindow 1).setEvent eventPendingIntr :=
  picService_zero_cases hservice (h.specialMask 0) (h.fullyNested 0) h.master

/-- A service of the slave finds nothing, or latches an irq and raises line 2 of the master. -/
lemma NestedMode.service_one (h : NestedMode s) (hservice : picService 1 s = .ok t) :
    ((s.pic 1).nextIrq = none ∧ t = s) ∨
      ∃ irq, (s.pic 1).nextIrq = some irq ∧
        (((s.pic 0).pin 2 = true ∧ t = s.setPic 1 ((s.pic 1).latch irq)) ∨
          ((s.pic 0).pin 2 = false ∧
            picService 0 ((s.setPic 1 ((s.pic 1).latch irq)).setPic 0 ((s.pic 0).raiseLine 2)) =
              .ok t)) :=
  picService_one_cases hservice (h.specialMask 1) (h.fullyNested 1) h.slave

end Mode

/-! ## Set-up -/

/-- What a complete set-up in fully nested mode leaves: the mode, no request, nothing pending,
the priority at its lowest level and the cascade line low. -/
@[mk_iff]
structure Initialised (s : State) : Prop extends NestedMode s where
  priority : ∀ i, (s.pic i).currentPriority = 7
  requests : ∀ i, (s.pic i).interruptRequest = 0
  line : (s.pic 0).pin 2 = false
  idle : s.pendingIntr = false

instance (s : State) : Decidable (Initialised s) := decidable_of_iff _ (initialised_iff s).symm

/-- A controller after its four words. -/
def Pic.afterIcws (p : Pic) {i : Fin 2} (w : IcwWords i) : Pic :=
  { p with
    initCmd0 := (w.icw1 &&& Word.bit icw1ReqIcw4).setWidth 8
    initCmd2 :=
      if i = 0 then (w.icw3 &&& Word.bit icw3CascadeEnable).setWidth 8 else icw3SlaveId
    interruptRequest := 0
    interruptMask := 0
    interruptPin := p.interruptPin &&& ~~~(w.icw3.setWidth 8)
    state := stateArchSetIcw4
    currentPriority := 7
    currentOffset := w.icw2.setWidth 8
    raised := 0
    mode :=
      if Word.has (w.icw4.setWidth 8 &&& icw4Mask) icw4AutoEoi then
        Word.set (Word.set 0 modeFullyNested) modeAutoEoi
      else Word.set (Word.set 0 modeFullyNested) modeNormalEoi }

namespace Pic

variable (p : Pic) {i : Fin 2}

lemma fullyNested_afterIcws (w : IcwWords i) : (p.afterIcws w).fullyNested = true := by
  unfold afterIcws fullyNested
  dsimp only
  split_ifs <;> decide

lemma specialMask_afterIcws (w : IcwWords i) : (p.afterIcws w).specialMask = false := by
  unfold afterIcws specialMask
  dsimp only
  split_ifs <;> decide

lemma cascade_afterIcws (w : IcwWords 0) : (p.afterIcws w).cascade = true := by
  show Word.has ((w.icw3 &&& Word.bit icw3CascadeEnable).setWidth 8) icw3CascadeEnable = true
  rw [Word.has_setWidth, Word.has_and, Word.has_bit, w.cascade rfl]
  decide

/-- ICW3 of the master takes the cascade line down. -/
lemma pin_afterIcws (w : IcwWords 0) : (p.afterIcws w).pin 2 = false := by
  show Word.has (p.interruptPin &&& ~~~(w.icw3.setWidth 8)) (irqBit 2) = false
  have hbit : Word.has w.icw3 (irqBit 2) = true := w.cascade rfl
  rw [Word.has_and, Word.has_not, Word.has_setWidth, hbit]
  simp [irqBit]

end Pic

section Setup

variable {s t : State} {i : Fin 2}

lemma run_icws (w : IcwWords i) (h : run picStep s (icws w) = .ok t) :
    t = (s.clearEvent eventPendingIntr).setPic i ((s.pic i).afterIcws w) := by
  obtain ⟨u1, h1, h⟩ := run_cons_ok.mp h
  obtain ⟨u2, h2, h⟩ := run_cons_ok.mp h
  obtain ⟨u3, h3, h⟩ := run_cons_ok.mp h
  obtain ⟨u4, h4, h⟩ := run_cons_ok.mp h
  simp only [run_nil, Except.ok.injEq] at h
  simp only [picStep, picPortIoWriteHandler_command, picPortIoWriteHandler_data] at h1 h2 h3 h4
  have hicw1 : (s.pic i).writeCommand w.icw1 = (s.pic i).writeIcw1 w.icw1 := if_pos w.init
  rw [hicw1] at h1
  obtain rfl := Except.ok.inj h1
  have hstate2 : (((s.setPic i ((s.pic i).writeIcw1 w.icw1).1).clearEvent
      eventPendingIntr).pic i).state = stateInitializedIcw1 := by
    rw [State.pic_clearEvent, State.pic_setPic_self]
    rfl
  rw [Pic.writeData, if_pos hstate2] at h2
  obtain rfl := Except.ok.inj h2
  rw [Pic.writeData, State.pic_setPic_self, if_neg (by dsimp only; decide), if_pos rfl] at h3
  obtain rfl := Except.ok.inj h3
  have hreq : Word.has ((w.icw1 &&& Word.bit icw1ReqIcw4).setWidth 8) icw1ReqIcw4 = true := by
    rw [Word.has_setWidth, Word.has_and, Word.has_bit, w.reqIcw4]
    decide
  rw [Pic.writeData, State.pic_setPic_self, if_neg (by dsimp only; decide),
    if_neg (by dsimp only; decide), if_pos (by
      rw [State.pic_clearEvent, State.pic_setPic_self]
      exact ⟨by dsimp only; decide, hreq⟩)] at h4
  obtain rfl := Except.ok.inj h4
  have hnested : Word.has (w.icw4.setWidth 8 &&& icw4Mask) modeFullyNested = true := by
    have hbit : Word.has icw4Mask modeFullyNested = true := by decide
    rw [Word.has_and, Word.has_setWidth, w.nested, hbit]
    decide
  have hspecial : Word.has (w.icw4.setWidth 8 &&& icw4Mask) icw4SpecialFullyNested = false := by
    have hbit : Word.has icw4Mask icw4SpecialFullyNested = false := by decide
    rw [Word.has_and, hbit, Bool.and_false]
  have hcomm : ∀ q, (s.setPic i q).clearEvent eventPendingIntr =
      (s.clearEvent eventPendingIntr).setPic i q := fun _ => rfl
  rw [← h]
  simp only [hcomm, State.pic_setPic_self, State.setPic_setPic_self, Pic.writeIcw4, hnested,
    hspecial, if_true, Bool.false_eq_true, if_false]
  rfl

/-- ICW1 to ICW4 to both controllers initialise the pair, from any state in which line 2 of
the master is edge-triggered, as it is from power-on. -/
theorem initialised_of_icws (master : IcwWords 0) (slave : IcwWords 1)
    (hedge : Word.has (s.pic 0).edgeLevel (irqBit 2) = false)
    (h : run picStep s (icws master ++ icws slave) = .ok t) : Initialised t := by
  obtain ⟨u, hu, ht⟩ := run_append_ok.mp h
  have hmaster := run_icws master hu
  have hslave := run_icws slave ht
  have hzero : t.pic 0 = (s.pic 0).afterIcws master := by simp [hslave, hmaster]
  have hone : t.pic 1 = (s.pic 1).afterIcws slave := by simp [hslave, hmaster]
  refine ⟨⟨?_, ?_, ?_, ?_, ?_, ?_⟩, ?_, ?_, ?_, ?_⟩
  · exact State.forall_pic (Q := fun p => p.state = stateArchSetIcw4) (by rw [hzero]; rfl)
      (by rw [hone]; rfl)
  · refine State.forall_pic (Q := fun p => p.fullyNested = true) ?_ ?_
    · rw [hzero]
      exact Pic.fullyNested_afterIcws _ _
    · rw [hone]
      exact Pic.fullyNested_afterIcws _ _
  · refine State.forall_pic (Q := fun p => p.specialMask = false) ?_ ?_
    · rw [hzero]
      exact Pic.specialMask_afterIcws _ _
    · rw [hone]
      exact Pic.specialMask_afterIcws _ _
  · rw [hzero]
    exact Pic.cascade_afterIcws _ _
  · rw [hone]
    show Word.has icw3SlaveId icw3CascadeEnable = false
    decide
  · rw [hzero]
    exact hedge
  · exact State.forall_pic (Q := fun p => p.currentPriority = 7) (by rw [hzero]; rfl)
      (by rw [hone]; rfl)
  · exact State.forall_pic (Q := fun p => p.interruptRequest = 0) (by rw [hzero]; rfl)
      (by rw [hone]; rfl)
  · rw [hzero]
    exact Pic.pin_afterIcws _ _
  · rw [hslave, State.pendingIntr_setPic, State.pendingIntr_clearEvent]
    simp

end Setup

/-! ## Commands while the mode lasts -/

section Command

variable {s : State} {i : Fin 2}

/-- A mask write stores the mask and services the controller. -/
lemma NestedMode.interruptMask_eq (h : NestedMode s) (value : BitVec 32) :
    picPortIoWriteHandler (dataPort i) value s =
      picService i (s.setPic i { s.pic i with interruptMask := value.setWidth 8 }) := by
  have hstate := h.state i
  have hicw1 : ¬ (s.pic i).state = stateInitializedIcw1 := by
    rw [hstate]
    decide
  have hicw2 : ¬ (s.pic i).state = stateOffsetSetIcw2 := by
    rw [hstate]
    decide
  have hicw3 : ¬ (s.pic i).state.toNat < stateArchSetIcw4.toNat := by
    rw [hstate]
    decide
  rw [picPortIoWriteHandler_data, Pic.writeData, if_neg hicw1, if_neg hicw2,
    if_neg fun hlt => hicw3 hlt.1, if_pos hstate]
  rfl

/-- The non-specific EOI. -/
lemma endOfInterrupt_eq (s : State) :
    picPortIoWriteHandler (commandPort i) 0x20 s =
      picService i (s.setPic i (s.pic i).endOfInterrupt) := by
  rw [picPortIoWriteHandler_command]
  rfl

/-- The registers an EOI leaves alone. -/
lemma endOfInterrupt_frame (p : Pic) :
    p.SameSetup p.endOfInterrupt ∧ p.endOfInterrupt.interruptRequest = p.interruptRequest ∧
      p.endOfInterrupt.interruptPin = p.interruptPin ∧
      p.endOfInterrupt.interruptMask = p.interruptMask ∧
      p.endOfInterrupt.latchedIrq = p.latchedIrq := by
  unfold Pic.endOfInterrupt
  dsimp only
  split_ifs <;> exact ⟨⟨rfl, rfl, rfl, rfl⟩, rfl, rfl, rfl, rfl⟩

/-- The specific EOI. -/
lemma specificEndOfInterrupt_eq {irq : ℕ} (hirq : irq < 8) :
    picPortIoWriteHandler (commandPort i) (BitVec.ofNat 32 (0x60 + irq)) s =
      picService i (s.setPic i ((s.pic i).specificEndOfInterrupt irq)) := by
  rw [picPortIoWriteHandler_command]
  -- the eight commands are neither ICW1 nor OCW3, and their low byte selects the irq
  have hbits : ∀ n < 8, Word.has (BitVec.ofNat 32 (0x60 + n)) icw1Init = false ∧
      BitVec.ofNat 32 (0x60 + n) &&& 0x18 ≠ ocw3SelectDefault ∧
      (BitVec.ofNat 32 (0x60 + n)).toNat % 256 = 0x60 + n := by decide
  obtain ⟨hinit, hselect, hbyte⟩ := hbits irq hirq
  have hwrite : (s.pic i).writeCommand (BitVec.ofNat 32 (0x60 + irq)) =
      ((s.pic i).specificEndOfInterrupt irq, .service) := by
    unfold Pic.writeCommand Pic.writeOcw2
    rw [hinit, if_neg (by decide), if_neg hselect]
    dsimp only
    rw [hbyte, if_neg (by omega), if_neg (by omega), if_pos (by omega), Nat.add_sub_cancel_left]
  rw [hwrite]
  rfl

end Command

end Svmm
