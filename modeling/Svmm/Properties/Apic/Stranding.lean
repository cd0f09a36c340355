import Svmm.Properties.Frames

/-!
# Whether the local APIC strands a deliverable request

Every operation that can make a request deliverable ends in `ApicService`, and an acknowledge
leaves nothing deliverable behind.  What `ApicService` does then depends on the window flag it
shares with the PICs: while the flag is taken and its own event is not set, it returns without
setting the event.  A run on which nothing becomes deliverable in that situation strands no
request.
-/

namespace Svmm

open TransitionRun

/-- The larger of the task priority and the highest class in service. -/
def State.processPriority (s : State) : ℕ :=
  max s.lapic.taskPriority.toNat (apicHighestPriority s.lapic.interruptServiceRegister)

/-- A class above the process priority is waiting only while the event is set. -/
def NotStranded (s : State) : Prop :=
  s.processPriority < apicHighestPriority s.lapic.interruptRequestRegister →
    s.pendingLapicIntr = true

instance (s : State) : Decidable (NotStranded s) := inferInstanceAs (Decidable (_ → _))

/-- The window flag is set, and not for the local APIC: `ApicService` will not act. -/
def State.windowTaken (s : State) : Prop :=
  s.requestInterruptWindow ≠ 0 ∧ s.pendingLapicIntr = false

instance (s : State) : Decidable s.windowTaken := inferInstanceAs (Decidable (_ ∧ _))

/-- The invariant: the task priority has four bits and nothing is stranded. -/
structure ServiceInvariant (s : State) : Prop where
  taskPriority_le : s.lapic.taskPriority.toNat ≤ 15
  notStranded : NotStranded s

section Service

variable {s t : State}

lemma deliverable_iff (h : s.lapic.taskPriority.toNat ≤ 15) :
    s.lapic.deliverable ↔
      s.processPriority < apicHighestPriority s.lapic.interruptRequestRegister := by
  rw [Lapic.deliverable, apicGetProcessPriority_eq h, State.processPriority, max_comm]

/-- With the flag free or its own event set, `ApicService` strands nothing. -/
lemma notStranded_apicService (htpr : s.lapic.taskPriority.toNat ≤ 15) (h : ¬ s.windowTaken) :
    NotStranded (apicService s) := by
  intro hd
  rw [State.processPriority, lapic_apicService] at hd
  rw [pendingLapicIntr_apicService_iff]
  by_cases hp : s.pendingLapicIntr = true
  · exact Or.inl hp
  · have hwindow : s.requestInterruptWindow = 0 := by
      by_contra hne
      exact h ⟨hne, by simpa using hp⟩
    exact Or.inr ⟨(deliverable_iff htpr).mpr hd, hwindow⟩

/-- A state with nothing deliverable strands nothing, whatever `ApicService` does. -/
lemma notStranded_apicService_of_le
    (h : apicHighestPriority s.lapic.interruptRequestRegister ≤ s.processPriority) :
    NotStranded (apicService s) := by
  intro hd
  rw [State.processPriority, lapic_apicService] at hd
  exact absurd h (not_le.mpr hd)

lemma ServiceInvariant.of_lapic_eq (h : ServiceInvariant s) (hlapic : t.lapic = s.lapic)
    (hp : t.pendingLapicIntr = s.pendingLapicIntr) : ServiceInvariant t := by
  refine ⟨by rw [hlapic]; exact h.taskPriority_le, fun hd => ?_⟩
  rw [hp]
  refine h.notStranded ?_
  rwa [State.processPriority, hlapic] at hd

lemma ServiceInvariant.of_keepsApics (h : ServiceInvariant s) (hk : KeepsApics s t) :
    ServiceInvariant t := h.of_lapic_eq hk.lapic hk.pendingLapicIntr

end Service

/-! ## The operations of the local APIC -/

section Operations

variable {s t : State}

/-- A vector at or below the process priority makes nothing deliverable. -/
lemma ServiceInvariant.of_apicSetIrq (h : ServiceInvariant s) {vector : BitVec 8}
    {level : BitVec 32} (hv : s.windowTaken → (vectorClass vector : ℕ) ≤ s.processPriority) :
    ServiceInvariant (apicSetIrq vector level s) := by
  obtain ⟨htpr, hisr, -⟩ := lapic_apicSetIrq_frame vector level s
  refine ⟨by rw [htpr]; exact h.taskPriority_le, ?_⟩
  by_cases hacc : s.lapic.accepts vector
  · rw [apicSetIrq_of_accepts _ _ _ hacc]
    by_cases htaken : s.windowTaken
    · refine notStranded_apicService_of_le ?_
      have hold : apicHighestPriority s.lapic.interruptRequestRegister ≤ s.processPriority := by
        by_contra hlt
        have := h.notStranded (not_le.mp hlt)
        rw [htaken.2] at this
        cases this
      show apicHighestPriority (setVector s.lapic.interruptRequestRegister vector) ≤
        s.processPriority
      rw [apicHighestPriority_setVector]
      exact max_le hold (hv htaken)
    · exact notStranded_apicService h.taskPriority_le htaken
  · obtain ⟨e, he⟩ := apicSetIrq_of_refused vector level s hacc
    rw [he]
    exact h.notStranded

/-- A task priority write that leaves nothing deliverable behind a taken window. -/
lemma ServiceInvariant.of_writeTaskPriority (h : ServiceInvariant s) {value : BitVec 32}
    (hv : s.windowTaken → value.toNat ≤ 15 →
      apicHighestPriority s.lapic.interruptRequestRegister ≤
        max value.toNat (apicHighestPriority s.lapic.interruptServiceRegister)) :
    ServiceInvariant (apicWriteTaskPriority value s) := by
  rcases apicWriteTaskPriority_cases s value with ⟨-, he⟩ | ⟨hval, hge, he⟩ | ⟨hval, -, he⟩
  · rw [he]
    exact h
  · rw [he]
    refine ⟨hval, fun hd => h.notStranded (lt_of_le_of_lt ?_ hd)⟩
    exact max_le_max_right _ hge
  · rw [he]
    refine ⟨by rw [lapic_apicService]; exact hval, ?_⟩
    by_cases htaken : s.windowTaken
    · exact notStranded_apicService_of_le (hv htaken hval)
    · exact notStranded_apicService hval htaken

/-- An EOI that leaves nothing deliverable behind a taken window. -/
lemma ServiceInvariant.of_receiveEOI (h : ServiceInvariant s)
    (hv : s.windowTaken → s.eoiVector ≠ s.lapic.spuriousVector →
      apicHighestPriority s.lapic.interruptRequestRegister ≤
        max s.lapic.taskPriority.toNat (apicHighestPriority
          (clearVector s.lapic.interruptServiceRegister s.eoiVector))) :
    ServiceInvariant (apicReceiveEOI s) := by
  by_cases hspur : s.eoiVector = s.lapic.spuriousVector
  · rw [apicReceiveEOI_of_spurious s hspur]
    exact h
  · obtain ⟨t, ht, hl, -, -, -, hevents, hwindow, -⟩ := exists_apicReceiveEOI s hspur
    have htpr : t.lapic.taskPriority.toNat ≤ 15 := by rw [hl]; exact h.taskPriority_le
    have htaken : t.windowTaken ↔ s.windowTaken := by
      simp only [State.windowTaken, State.pendingLapicIntr, hevents, hwindow]
    rw [ht]
    refine ⟨by rw [lapic_apicService]; exact htpr, ?_⟩
    by_cases hw : s.windowTaken
    · refine notStranded_apicService_of_le ?_
      rw [State.processPriority, hl]
      exact hv hw hspur
    · exact notStranded_apicService htpr (mt htaken.mp hw)

/-- An acknowledge leaves nothing deliverable: it is spurious because the request fell below
the process priority, or the class it takes into service is the highest of both registers. -/
lemma ServiceInvariant.of_acknowledge (h : ServiceInvariant s) {v : BitVec 8}
    (hack : apicAcknowledgeInterrupt s = .ok (v, t)) : ServiceInvariant t := by
  rcases (apicAcknowledgeInterrupt_cases s hack).2 with ⟨hlt, -, rfl⟩ | ⟨-, -, rfl⟩
  · refine ⟨h.taskPriority_le, fun hd => ?_⟩
    rw [apicGetProcessPriority_eq h.taskPriority_le, max_comm] at hlt
    exact absurd hd (not_lt.mpr hlt.le)
  · refine ⟨by rw [lapic_apicService]; exact h.taskPriority_le, notStranded_apicService_of_le ?_⟩
    set v := highestVector s.lapic.interruptRequestRegister with hv
    have hserved : (vectorClass v : ℕ) ≤
        apicHighestPriority (setVector s.lapic.interruptServiceRegister v) :=
      vectorClass_le_apicHighestPriority (by simp)
    have hleft : apicHighestPriority (clearVector s.lapic.interruptRequestRegister v) ≤
        apicHighestPriority s.lapic.interruptRequestRegister :=
      apicHighestPriority_mono fun w hw => by
        rw [hasVector_clearVector, Bool.and_eq_true] at hw
        exact hw.1
    rw [← vectorClass_highestVector s.lapic.interruptRequestRegister, ← hv] at hleft
    exact le_max_of_le_right (hleft.trans hserved)

end Operations

/-! ## Deliveries of the I/O APIC -/

/-- The scan of `IoApicService` sends the local APIC a vector above the process priority. -/
def State.scanSends (s : State) (pins : List (Fin 24)) : Prop :=
  ∃ pin ∈ pins, s.asserted pin = true ∧ (s.entry pin).held = false ∧
    (s.entry pin).heardBy s.lapic ∧ s.processPriority < vectorClass (s.entry pin).vector

instance (s : State) (pins : List (Fin 24)) : Decidable (s.scanSends pins) :=
  inferInstanceAs (Decidable (∃ pin ∈ pins, _))

/-- A raise of the line sends the local APIC a vector above the process priority. -/
def State.raiseSends (s : State) (irqNumber : BitVec 8) : Prop :=
  ∃ pin ∈ ioApicPin irqNumber,
    ((s.entry pin).levelSensitive = true ∨ s.asserted pin = false) ∧
      (s.assertLine pin).scanSends (List.finRange 24)

instance (s : State) (irqNumber : BitVec 8) : Decidable (s.raiseSends irqNumber) :=
  inferInstanceAs (Decidable (∃ pin ∈ ioApicPin irqNumber, _))

section Scan

variable {s t : State}

lemma KeepsPriority.processPriority (h : KeepsPriority s t) :
    t.processPriority = s.processPriority := by
  simp only [State.processPriority, h.taskPriority, h.interruptServiceRegister]

/-- A window once free for the local APIC is not taken again by its deliveries. -/
lemma windowTaken_of_apicSetIrq {vector : BitVec 8} {level : BitVec 32}
    (h : (apicSetIrq vector level s).windowTaken) : s.windowTaken := by
  rcases window_apicSetIrq vector level s with ⟨hw, hp⟩ | ⟨-, hp⟩
  · exact ⟨hw ▸ h.1, hp ▸ h.2⟩
  · exact absurd h.2 (by simp [hp])

lemma ioApicClosed_windowTaken : IoApicClosed fun s t => t.windowTaken → s.windowTaken where
  refl _ := id
  trans h h' := fun ht => h (h' ht)
  setIrq _ _ _ := windowTaken_of_apicSetIrq
  deviceIoControl _ _ := id
  setIoApic _ _ := id
  busCall _ _ := id

lemma ServiceInvariant.of_sent (h : ServiceInvariant s) {pin : Fin 24} (hsent : IoApicSent pin s t)
    (hv : s.windowTaken → (s.entry pin).held = false → (s.entry pin).heardBy s.lapic →
      (vectorClass (s.entry pin).vector : ℕ) ≤ s.processPriority) : ServiceInvariant t := by
  cases hsent with
  | held hheld => exact h
  | heard hheld hhears =>
      refine (ServiceInvariant.of_apicSetIrq (s := s.logCall pin) (h.of_lapic_eq rfl rfl)
        fun htaken => ?_).of_lapic_eq rfl rfl
      exact hv htaken hheld hhears
  | dropped hheld hdeaf hfixed => exact h.of_lapic_eq rfl rfl
  | refused hheld hdeaf hfixed hcall =>
      rcases hcall with rfl | ⟨call, rfl⟩
      · exact h.of_lapic_eq rfl rfl
      · exact h.of_lapic_eq rfl rfl

/-- A scan that sends nothing above the process priority behind a taken window strands
nothing.  Each pin is judged by the entry it had before the scan, which no earlier pin
touches. -/
lemma ServiceInvariant.of_servicePins {pins : List (Fin 24)} (h : ServiceInvariant s)
    (hnodup : pins.Nodup) (hsends : s.windowTaken → ¬ s.scanSends pins)
    (hrun : ioApicServicePins pins s = .ok t) : ServiceInvariant t := by
  rw [ioApicServicePins_eq_run] at hrun
  induction pins generalizing s with
  | nil =>
      obtain rfl : s = t := by simpa using hrun
      exact h
  | cons pin pins ih =>
      obtain ⟨u, hu, hrest⟩ := run_cons_ok.mp hrun
      obtain ⟨hfresh, hnodup⟩ := List.nodup_cons.mp hnodup
      rcases ioApicServicePin_cases hu with ⟨-, rfl⟩ | ⟨hirr, hsent⟩
      · refine ih h hnodup (fun htaken => ?_) hrest
        rintro ⟨p, hp, hsend⟩
        exact hsends htaken ⟨p, List.mem_cons_of_mem pin hp, hsend⟩
      · have hkeeps := ioApicClosed_keepsPriority.sent hsent
        refine ih (h.of_sent hsent fun htaken hheld hhears => ?_) hnodup (fun htaken => ?_) hrest
        · by_contra hlt
          exact hsends htaken ⟨pin, List.mem_cons_self, hirr, hheld, hhears, not_le.mp hlt⟩
        · rintro ⟨p, hp, hirr', hheld, hhears, hlt⟩
          have hne : p ≠ pin := fun heq => hfresh (heq ▸ hp)
          rw [hsent.asserted_of_ne hne] at hirr'
          rw [hsent.entry_of_ne hne] at hheld hhears hlt
          rw [hkeeps.heardBy_iff] at hhears
          rw [hkeeps.processPriority] at hlt
          exact hsends (ioApicClosed_windowTaken.sent hsent htaken)
            ⟨p, List.mem_cons_of_mem pin hp, hirr', hheld, hhears, hlt⟩

end Scan

/-! ## One step -/

/-- A step that makes nothing deliverable while the window flag is taken: no vector above the
process priority is sent, and no lowering of the priority uncovers one. -/
def StrandingStep (s : State) (op : Op) : Prop :=
  s.windowTaken →
    match op with
    | .apicSetIrq vector _ => (vectorClass vector : ℕ) ≤ s.processPriority
    | .apicWriteTaskPriority value =>
        value.toNat ≤ 15 →
          apicHighestPriority s.lapic.interruptRequestRegister ≤
            max value.toNat (apicHighestPriority s.lapic.interruptServiceRegister)
    | .apicReceiveEOI =>
        s.eoiVector ≠ s.lapic.spuriousVector →
          apicHighestPriority s.lapic.interruptRequestRegister ≤
            max s.lapic.taskPriority.toNat (apicHighestPriority
              (clearVector s.lapic.interruptServiceRegister s.eoiVector))
    | .picRaiseIrq irqNumber => irqNumber ≠ 2 → ¬ s.raiseSends irqNumber
    | .ioApicRaiseIrq irqNumber => ¬ s.raiseSends irqNumber
    | .ioApicMMIOWrite address value =>
        ∀ pin, s.writesEntry address pin →
          ¬ (s.setIoApic (s.ioApic.writeEntry pin value)).scanSends (List.finRange 24)
    | _ => True

instance (s : State) : ∀ op, Decidable (StrandingStep s op)
  | .apicSetIrq _ _ => inferInstanceAs (Decidable (_ → _ ≤ _))
  | .apicWriteTaskPriority _ => inferInstanceAs (Decidable (_ → _ → _ ≤ _))
  | .apicReceiveEOI => inferInstanceAs (Decidable (_ → _ → _ ≤ _))
  | .picRaiseIrq _ => inferInstanceAs (Decidable (_ → _ → ¬ _))
  | .ioApicRaiseIrq _ => inferInstanceAs (Decidable (_ → ¬ _))
  | .ioApicMMIOWrite address value => inferInstanceAs (Decidable (_ → ∀ pin,
      s.writesEntry address pin →
        ¬ (s.setIoApic (s.ioApic.writeEntry pin value)).scanSends (List.finRange 24)))
  | .picLowerIrq _ | .picPortIoWrite _ _ | .ioApicLowerIrq _ | .apicWriteSpuriousInterrupt _
  | .apicAcknowledgeInterrupt | .irqWindowOpen => inferInstanceAs (Decidable (_ → True))

section Step

variable {s t : State}

lemma ServiceInvariant.of_raiseIrq (h : ServiceInvariant s) {irqNumber : BitVec 8}
    (hsends : s.windowTaken → ¬ s.raiseSends irqNumber)
    (hraise : ioApicRaiseIrq irqNumber s = .ok t) : ServiceInvariant t := by
  rcases ioApicRaiseIrq_cases hraise with
    ⟨-, rfl⟩ | ⟨pin, -, -, -, rfl⟩ | ⟨pin, hpin, hserves, hservice⟩
  · exact h
  · exact h
  · refine ServiceInvariant.of_servicePins (s := s.assertLine pin) (h.of_lapic_eq rfl rfl)
      (List.nodup_finRange 24) (fun htaken hscan => ?_) hservice
    exact hsends htaken ⟨pin, hpin, hserves, hscan⟩

lemma ServiceInvariant.of_lowerIrq (h : ServiceInvariant s) (irqNumber : BitVec 8) :
    ServiceInvariant (ioApicLowerIrq irqNumber s) := by
  rcases ioApicLowerIrq_cases irqNumber s with heq | ⟨pin, -, -, heq⟩
  · rw [heq]
    exact h
  · rw [heq]
    exact h.of_lapic_eq rfl rfl

lemma serviceInvariant_step {op : Op} (h : ServiceInvariant s) (hop : StrandingStep s op)
    (hstep : step s op = .ok t) : ServiceInvariant t := by
  cases op with
  | picRaiseIrq irqNumber =>
      obtain ⟨u, hu, hline⟩ := exists_of_picRaiseIrq hstep
      refine ServiceInvariant.of_keepsApics (s := u) ?_ (picClosed_keepsApics.raiseLine hline)
      rcases hu with ⟨hnum, hraise⟩ | ⟨-, rfl⟩
      · exact h.of_raiseIrq (fun htaken => hop htaken hnum) hraise
      · exact h
  | picLowerIrq irqNumber =>
      simp only [step, Except.ok.injEq] at hstep
      obtain ⟨u, hu, hline⟩ := exists_picLowerIrq irqNumber s
      rw [← hstep, hline]
      refine ServiceInvariant.of_keepsApics (s := u) ?_ (picClosed_keepsApics.lowerLine irqNumber)
      rcases hu with ⟨-, rfl⟩ | ⟨-, rfl⟩
      · exact h.of_lowerIrq irqNumber
      · exact h
  | picPortIoWrite address value => exact h.of_keepsApics (picClosed_keepsApics.portIoWrite hstep)
  | ioApicRaiseIrq irqNumber => exact h.of_raiseIrq hop hstep
  | ioApicLowerIrq irqNumber =>
      simp only [step, Except.ok.injEq] at hstep
      exact hstep ▸ h.of_lowerIrq irqNumber
  | ioApicMMIOWrite address value =>
      rcases ioApicMMIOWriteHandler_cases hstep with ⟨a, rfl, -⟩ | ⟨pin, hwrites, hservice⟩
      · exact h.of_lapic_eq rfl rfl
      · exact ServiceInvariant.of_servicePins
          (s := s.setIoApic (s.ioApic.writeEntry pin value)) (h.of_lapic_eq rfl rfl)
          (List.nodup_finRange 24) (fun htaken => hop htaken pin hwrites) hservice
  | apicSetIrq vector level =>
      simp only [step, Except.ok.injEq] at hstep
      exact hstep ▸ h.of_apicSetIrq hop
  | apicWriteTaskPriority value =>
      simp only [step, Except.ok.injEq] at hstep
      exact hstep ▸ h.of_writeTaskPriority hop
  | apicWriteSpuriousInterrupt value =>
      simp only [step, Except.ok.injEq] at hstep
      exact hstep ▸ ⟨h.taskPriority_le, h.notStranded⟩
  | apicReceiveEOI =>
      simp only [step, Except.ok.injEq] at hstep
      exact hstep ▸ h.of_receiveEOI hop
  | apicAcknowledgeInterrupt =>
      obtain ⟨v, hack⟩ := exists_of_step_acknowledge hstep
      exact h.of_acknowledge hack
  | irqWindowOpen =>
      have hclosed : ServiceInvariant (s.setWindow 0) := h.of_lapic_eq rfl rfl
      rcases irqWindowOpen_cases hstep with
        ⟨-, v, u, hiac, rfl⟩ | ⟨-, -, v, u, hack, rfl⟩ | ⟨-, -, rfl⟩
      · exact (hclosed.of_keepsApics (picClosed_keepsApics.iac hiac)).of_lapic_eq rfl rfl
      · exact (hclosed.of_acknowledge hack).of_lapic_eq rfl rfl
      · exact hclosed

end Step

/-- **The local APIC strands no request** on runs that make nothing deliverable while the
window flag is taken: in every state such a run reaches from power-on, a class above the
process priority waits only while the event is set. -/
theorem lapic_never_strands (gvm : List Ioctl → Ioctl → Bool) (ops : List Op)
    (hops : Meets step StrandingStep (State.initial gvm) ops) :
    ∀ t, run step (State.initial gvm) ops = .ok t → NotStranded t := by
  intro t hrun
  have hinit : ServiceInvariant (State.initial gvm) :=
    ⟨by simp [State.initial, Lapic.initial], by
      have hzero : apicHighestPriority (fun _ => 0#16) = 0 := by decide
      simp [NotStranded, State.processPriority, State.initial, Lapic.initial, hzero]⟩
  have hinv : ServiceInvariant t :=
    run_invariant (P := StrandingStep) (fun s op t => serviceInvariant_step) hinit hops hrun
  exact hinv.notStranded

/-- The local APIC's request comes before the PIC's, and both are taken. -/
theorem lapic_never_strands_in_order :
    ∃ t, run step (State.initial fun _ _ => true)
        (picsSetup ++ [.apicSetIrq 0x31 0, .irqWindowOpen, .picRaiseIrq 3, .apicReceiveEOI]) =
          .ok t ∧
      NotStranded t :=
  exists_of_completes (by decide) (lapic_never_strands _ _ (by decide))

/-- A PIC interrupt takes the window first; a request of class 3 that arrives behind it is
deliverable with no event set. -/
theorem lapic_request_stranded :
    ∃ t, run step (State.initial fun _ _ => true)
        (picsSetup ++ [.picRaiseIrq 3, .apicSetIrq 0x31 0]) = .ok t ∧ ¬ NotStranded t :=
  exists_of_ends (fun t => ¬ NotStranded t) (by decide)

end Svmm
