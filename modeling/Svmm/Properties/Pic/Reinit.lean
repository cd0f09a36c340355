import Svmm.Properties.Pic.Lines

/-!
# Re-initialising a PIC

A guest that reboots writes ICW1 to ICW3 again, and ICW4 when its ICW1 asks for one.  What a
controller is afterwards should not depend on what it was.  Two things of the past survive:
ICW1 leaves the in-service register, and without ICW4 the state machine stops at the state
after ICW3, from where no write reaches the interrupt mask.
-/

namespace Svmm

open TransitionRun

/-! ## The sequence -/

/-- The words of an initialisation sequence; the last is written only when the first asks for
it. -/
structure InitWords where
  icw1 : BitVec 32
  icw2 : BitVec 32
  icw3 : BitVec 32
  icw4 : BitVec 32
  init : Word.has icw1 icw1Init = true

/-- Bit 0 of ICW1: an ICW4 follows. -/
def InitWords.asksIcw4 (w : InitWords) : Bool := Word.has w.icw1 icw1ReqIcw4

/-- The port writes of the sequence to controller `i`. -/
def initWrites (i : Fin 2) (w : InitWords) : List Op :=
  [.picPortIoWrite (commandPort i) w.icw1, .picPortIoWrite (dataPort i) w.icw2,
    .picPortIoWrite (dataPort i) w.icw3] ++
  if w.asksIcw4 then [.picPortIoWrite (dataPort i) w.icw4] else []

/-! ## What should be forgotten -/

/-- The registers that decide which interrupts a controller passes on, and as what. -/
structure Pic.SameControl (p q : Pic) : Prop where
  interruptMask : p.interruptMask = q.interruptMask
  interruptRequest : p.interruptRequest = q.interruptRequest
  interruptInService : p.interruptInService = q.interruptInService
  currentPriority : p.currentPriority = q.currentPriority
  mode : p.mode = q.mode
  currentOffset : p.currentOffset = q.currentOffset

/-- The next write to the data port of controller `i` returns and sets the interrupt mask. -/
def SetsMaskNext (i : Fin 2) (s : State) : Prop :=
  ∀ value, ∃ t, picPortIoWriteHandler (dataPort i) value s = .ok t ∧
    (t.pic i).interruptMask = value.setWidth 8

/-- Re-initialising controller `i` in `s` and in `t` leaves the same controller, with nothing
in service and its data port back at the mask. -/
def ReinitForgets (i : Fin 2) (w : InitWords) (s t : State) : Prop :=
  ∃ s' t', run step s (initWrites i w) = .ok s' ∧ run step t (initWrites i w) = .ok t' ∧
    (s'.pic i).SameControl (t'.pic i) ∧
    (s'.pic i).interruptInService = 0 ∧ (t'.pic i).interruptInService = 0 ∧
    SetsMaskNext i s' ∧ SetsMaskNext i t'

/-! ## The controller afterwards -/

/-- The mode ICW4 enters from the mode ICW1 leaves. -/
def icw4Mode (value : BitVec 32) : BitVec 8 :=
  ({ Pic.initial 0 with mode := 0 }.writeIcw4 value).mode

/-- A controller after the sequence. -/
def Pic.reinit (p : Pic) (i : Fin 2) (w : InitWords) : Pic :=
  { p with
    initCmd0 := (w.icw1 &&& Word.bit icw1ReqIcw4).setWidth 8
    initCmd2 :=
      if i = 0 then (w.icw3 &&& Word.bit icw3CascadeEnable).setWidth 8 else icw3SlaveId
    interruptRequest := 0
    interruptMask := 0
    interruptPin := p.interruptPin &&& ~~~(w.icw3.setWidth 8)
    state := if w.asksIcw4 then stateArchSetIcw4 else stateSlaveSetIcw3
    currentPriority := 7
    currentOffset := w.icw2.setWidth 8
    raised := 0
    mode := if w.asksIcw4 then icw4Mode w.icw4 else 0 }

section Reinit

variable {s t : State} {i : Fin 2}

lemma writeIcw4_of_mode_zero {p : Pic} (h : p.mode = 0) (value : BitVec 32) :
    p.writeIcw4 value = { p with state := stateArchSetIcw4, mode := icw4Mode value } := by
  simp only [Pic.writeIcw4, icw4Mode, h]

lemma has_initCmd0 (w : InitWords) :
    Word.has ((w.icw1 &&& Word.bit icw1ReqIcw4).setWidth 8 : BitVec 8) icw1ReqIcw4 =
      w.asksIcw4 := by
  rw [Word.has_setWidth, Word.has_and, Word.has_bit, InitWords.asksIcw4]
  simp [icw1ReqIcw4]

lemma step_initCommand (w : InitWords) :
    step s (.picPortIoWrite (commandPort i) w.icw1) =
      .ok ((s.clearEvent eventPendingIntr).setPic i ((s.pic i).writeIcw1 w.icw1).1) := by
  show picPortIoWriteHandler (commandPort i) w.icw1 s = _
  have hicw1 : (s.pic i).writeCommand w.icw1 = (s.pic i).writeIcw1 w.icw1 := if_pos w.init
  rw [picPortIoWriteHandler_command, hicw1]
  rfl

lemma step_initData {value : BitVec 32} {p q : Pic}
    (hwrite : p.writeData i value = (q, .none)) :
    step (s.setPic i p) (.picPortIoWrite (dataPort i) value) = .ok (s.setPic i q) := by
  show picPortIoWriteHandler (dataPort i) value (s.setPic i p) = _
  rw [picPortIoWriteHandler_data, State.pic_setPic_self, hwrite]
  simp [picApply]

/-- The sequence always completes. -/
lemma run_initWrites (w : InitWords) (s : State) (i : Fin 2) :
    run step s (initWrites i w) =
      .ok ((s.clearEvent eventPendingIntr).setPic i ((s.pic i).reinit i w)) := by
  set p1 := ((s.pic i).writeIcw1 w.icw1).1 with hp1
  set p2 : Pic := { p1 with
    state := stateOffsetSetIcw2, currentOffset := w.icw2.setWidth 8 } with hp2
  set p3 : Pic := { p2 with
    initCmd2 :=
      if i = 0 then (w.icw3 &&& Word.bit icw3CascadeEnable).setWidth 8 else icw3SlaveId
    state := stateSlaveSetIcw3
    interruptPin := p2.interruptPin &&& ~~~(w.icw3.setWidth 8) } with hp3
  have h2 : p1.writeData i w.icw2 = (p2, .none) := if_pos rfl
  have h3 : p2.writeData i w.icw3 = (p3, .none) :=
    (if_neg (by show ¬ stateOffsetSetIcw2 = stateInitializedIcw1; decide)).trans (if_pos rfl)
  have hasks : Word.has p3.initCmd0 icw1ReqIcw4 = w.asksIcw4 := has_initCmd0 w
  have h4 (h : w.asksIcw4 = true) : p3.writeData i w.icw4 = (p3.writeIcw4 w.icw4, .none) :=
    (if_neg (by show ¬ stateSlaveSetIcw3 = stateInitializedIcw1; decide)).trans
      ((if_neg (by show ¬ stateSlaveSetIcw3 = stateOffsetSetIcw2; decide)).trans
        (if_pos ⟨by show stateSlaveSetIcw3.toNat < stateArchSetIcw4.toNat; decide,
          hasks.trans h⟩))
  have hthree : run step s (initWrites i w) =
      run step ((s.clearEvent eventPendingIntr).setPic i p3)
        (if w.asksIcw4 then [.picPortIoWrite (dataPort i) w.icw4] else []) := by
    simp only [initWrites, List.cons_append, List.nil_append, run, step_initCommand, ok_bind,
      ← hp1, step_initData h2, step_initData h3]
  rw [hthree]
  cases h : w.asksIcw4 with
  | false =>
      simp only [Bool.false_eq_true, if_false, run_nil, Pic.reinit, h]
      rfl
  | true =>
      have hmode : p3.mode = 0 := rfl
      simp only [if_true, run, step_initData (h4 h), ok_bind, writeIcw4_of_mode_zero hmode,
        Pic.reinit, h]
      rfl

end Reinit

/-! ## The data port afterwards -/

/-- `PicService` leaves the interrupt masks alone. -/
lemma picServiceClosed_keepsMask :
    PicServiceClosed fun s t => ∀ j, (t.pic j).interruptMask = (s.pic j).interruptMask where
  trans h h' j := (h' j).trans (h j)
  latch i irq s j := by
    by_cases hj : j = i
    · subst hj
      simp [State.setPic, Pic.latch]
    · simp [State.setPic, hj]
  raiseTwo s j := by
    by_cases hj : j = 0
    · subst hj
      simp [State.setPic, Pic.raiseLine]
    · simp [State.setPic, hj]
  of_pic h j := by rw [h]

section DataPort

variable {s : State} {i : Fin 2}

/-- A controller without requests is serviced in one pass over them. -/
lemma picService_returns (hreq : (s.pic i).interruptRequest = 0)
    (hprio : (s.pic i).currentPriority = 7) : ∃ t, picService i s = .ok t := by
  have hnext : (s.pic i).nextIrq = none := by
    cases h : (s.pic i).nextIrq with
    | none => rfl
    | some irq =>
        have hrequested := (nextIrq_spec h).2.2.1
        rw [Pic.requested, hreq] at hrequested
        exact absurd (hrequested.symm.trans (Word.has_zero (irqBit irq))) (by decide)
  have hbound : ¬ (7 : BitVec 8) = 255 := by decide
  unfold picService picServiceWith
  simp only [hnext, hprio, if_neg hbound]
  split_ifs
  · exact ⟨_, rfl⟩
  · exact ⟨s, rfl⟩
  · exact ⟨s, rfl⟩

/-- After the sequence the data port is back at the mask exactly when ICW4 was written. -/
lemma setsMaskNext_iff (w : InitWords) (s : State) (i : Fin 2) :
    SetsMaskNext i (s.setPic i ((s.pic i).reinit i w)) ↔ w.asksIcw4 = true := by
  have hwrite (value : BitVec 32) := picPortIoWriteHandler_data i value
    (s.setPic i ((s.pic i).reinit i w))
  rw [SetsMaskNext]
  cases h : w.asksIcw4 with
  | false =>
      refine iff_of_false (fun hsets => ?_) Bool.false_ne_true
      obtain ⟨t, ht, hmask⟩ := hsets 0xff
      have hignored : ((s.pic i).reinit i w).writeData i 0xff =
          ((s.pic i).reinit i w, .none) := by
        have hstate : ((s.pic i).reinit i w).state = stateSlaveSetIcw3 := by simp [Pic.reinit, h]
        have hasks : Word.has ((s.pic i).reinit i w).initCmd0 icw1ReqIcw4 = false :=
          (has_initCmd0 w).trans h
        simp [Pic.writeData, hstate, hasks, stateSlaveSetIcw3, stateInitializedIcw1,
          stateOffsetSetIcw2, stateArchSetIcw4]
      rw [hwrite, State.pic_setPic_self, hignored] at ht
      obtain rfl := Except.ok.inj ht
      rw [State.pic_setPic_self] at hmask
      exact absurd (show (0 : BitVec 8) = _ from hmask) (by decide)
  | true =>
      refine iff_of_true (fun value => ?_) rfl
      have hmask : ((s.pic i).reinit i w).writeData i value =
          ({ (s.pic i).reinit i w with interruptMask := value.setWidth 8 }, .service) := by
        have hstate : ((s.pic i).reinit i w).state = stateArchSetIcw4 := by simp [Pic.reinit, h]
        simp [Pic.writeData, hstate, stateInitializedIcw1, stateOffsetSetIcw2, stateArchSetIcw4]
      rw [hwrite, State.pic_setPic_self, hmask]
      set u := (s.setPic i ((s.pic i).reinit i w)).setPic i
        { (s.pic i).reinit i w with interruptMask := value.setWidth 8 } with hu
      obtain ⟨t, ht⟩ := picService_returns (s := u) (i := i)
        (by rw [hu, State.pic_setPic_self]; rfl) (by rw [hu, State.pic_setPic_self]; rfl)
      refine ⟨t, ht, ?_⟩
      rw [picServiceClosed_keepsMask.service ht i, hu, State.pic_setPic_self]

end DataPort

/-- What the sequence leaves of two controllers differs at most in what is in service. -/
lemma sameControl_reinit {p q : Pic} (i : Fin 2) (w : InitWords)
    (h : p.interruptInService = q.interruptInService) :
    (p.reinit i w).SameControl (q.reinit i w) :=
  ⟨rfl, rfl, h, rfl, rfl, rfl⟩

/-- **PIC re-initialisation forgets the past** exactly when its ICW1 asks for an ICW4 and the
controller had nothing in service in either state. -/
theorem pic_reinit_forgets_iff (i : Fin 2) (w : InitWords) (s t : State) :
    ReinitForgets i w s t ↔
      w.asksIcw4 = true ∧ (s.pic i).interruptInService = 0 ∧
        (t.pic i).interruptInService = 0 := by
  have hs := run_initWrites w s i
  have ht := run_initWrites w t i
  constructor
  · rintro ⟨s', t', hs', ht', -, hservice, hservice', hnext, -⟩
    obtain rfl := Except.ok.inj (hs.symm.trans hs')
    obtain rfl := Except.ok.inj (ht.symm.trans ht')
    rw [State.pic_setPic_self] at hservice hservice'
    exact ⟨(setsMaskNext_iff w (s.clearEvent eventPendingIntr) i).mp hnext, hservice, hservice'⟩
  · rintro ⟨hasks, hservice, hservice'⟩
    refine ⟨_, _, hs, ht, ?_, ?_, ?_, ?_, ?_⟩
    · rw [State.pic_setPic_self, State.pic_setPic_self]
      exact sameControl_reinit i w (hservice.trans hservice'.symm)
    · rw [State.pic_setPic_self]
      exact hservice
    · rw [State.pic_setPic_self]
      exact hservice'
    · exact (setsMaskNext_iff w (s.clearEvent eventPendingIntr) i).mpr hasks
    · exact (setsMaskNext_iff w (t.clearEvent eventPendingIntr) i).mpr hasks

/-- The words a PC's master is initialised with. -/
def masterInitWords : InitWords := ⟨0x11, 0x08, 0x04, 0x01, rfl⟩

/-- Irq 3 is in service when the guest reboots; after the sequence it still is. -/
theorem pic_in_service_survives_reinit :
    ∃ s, run step (State.initial fun _ _ => true)
        (picsSetup ++ [.picRaiseIrq 3, .irqWindowOpen]) = .ok s ∧
      ¬ ReinitForgets 0 masterInitWords s (State.initial fun _ _ => true) := by
  obtain ⟨s, hrun, hserving⟩ := exists_of_ends
    (fun s => ends (fun t => (t.pic 0).interruptInService ≠ 0)
      (run step s (initWrites 0 masterInitWords)) = true)
    (r := run step (State.initial fun _ _ => true)
      (picsSetup ++ [.picRaiseIrq 3, .irqWindowOpen])) (by decide +kernel)
  refine ⟨s, hrun, ?_⟩
  rintro ⟨s', t', hs', -, -, hservice, -⟩
  obtain ⟨t, ht, hne⟩ := exists_of_ends _ hserving
  obtain rfl := Except.ok.inj (ht.symm.trans hs')
  exact hne hservice

end Svmm
