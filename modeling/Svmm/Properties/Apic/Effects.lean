import Svmm.Construction.Apic.Registers

/-!
# What each local APIC operation changes

One description of every function of `Construction/Apic/`, in terms of the vectors its
registers hold.  Later files cite these and do not unfold the functions.
-/

namespace Svmm

/-- A class above the process priority is waiting: `ApicService` would ask for a window. -/
def Lapic.deliverable (l : Lapic) : Prop :=
  apicGetProcessPriority l < apicHighestPriority l.interruptRequestRegister

instance (l : Lapic) : Decidable l.deliverable := inferInstanceAs (Decidable (_ < _))

/-- `ApicSetIrq` accepts the vector: it is legal and not already waiting. -/
def Lapic.accepts (l : Lapic) (vector : BitVec 8) : Prop :=
  15 < vector.toNat ∧ hasVector l.interruptRequestRegister vector = false

instance (l : Lapic) (vector : BitVec 8) : Decidable (l.accepts vector) :=
  inferInstanceAs (Decidable (_ ∧ _))

def State.requesting (s : State) (v : BitVec 8) : Bool :=
  hasVector s.lapic.interruptRequestRegister v

def State.serving (s : State) (v : BitVec 8) : Bool :=
  hasVector s.lapic.interruptServiceRegister v

/-! ## Process priority -/

/-- With the task priority within its four bits, the process priority is a maximum. -/
lemma apicGetProcessPriority_eq {l : Lapic} (h : l.taskPriority.toNat ≤ 15) :
    apicGetProcessPriority l =
      max (apicHighestPriority l.interruptServiceRegister) l.taskPriority.toNat := by
  unfold apicGetProcessPriority
  have htpr : (l.taskPriority.setWidth 8).toNat = l.taskPriority.toNat := by
    rw [BitVec.toNat_setWidth]
    omega
  simp only [htpr]
  split <;> omega

/-! ## `ApicService` -/

section Service

variable (s : State)

lemma apicService_eq :
    apicService s =
      if s.lapic.deliverable ∧ s.pendingLapicIntr = false ∧ s.requestInterruptWindow = 0 then
        (s.setWindow 1).setEvent eventPendingLapicIntr
      else s := by
  unfold apicService Lapic.deliverable
  by_cases hd : apicGetProcessPriority s.lapic <
      apicHighestPriority s.lapic.interruptRequestRegister
  · by_cases hp : s.pendingLapicIntr = true
    · simp [hd, hp]
    · simp [hd, hp]
  · simp [hd]

@[simp] lemma lapic_apicService : (apicService s).lapic = s.lapic := by
  rw [apicService_eq]; split <;> rfl
@[simp] lemma ioApic_apicService : (apicService s).ioApic = s.ioApic := by
  rw [apicService_eq]; split <;> rfl
@[simp] lemma pic_apicService : (apicService s).pic = s.pic := by
  rw [apicService_eq]; split <;> rfl
@[simp] lemma busCalls_apicService : (apicService s).busCalls = s.busCalls := by
  rw [apicService_eq]; split <;> rfl
@[simp] lemma pendingIntr_apicService : (apicService s).pendingIntr = s.pendingIntr := by
  rw [apicService_eq]
  split
  · simp [eventPendingIntr, eventPendingLapicIntr]
  · rfl

/-- The event is set only for a deliverable request, and only through a free window flag. -/
lemma pendingLapicIntr_apicService_iff :
    (apicService s).pendingLapicIntr = true ↔
      s.pendingLapicIntr = true ∨ s.lapic.deliverable ∧ s.requestInterruptWindow = 0 := by
  rw [apicService_eq]
  by_cases hp : s.pendingLapicIntr = true
  · simp [hp]
  · split
    · rename_i h
      simp [h.1, h.2.2]
    · rename_i h
      constructor
      · exact fun hold => absurd hold hp
      · rintro (hold | ⟨hd, hw⟩)
        · exact hold
        · exact absurd ⟨hd, by simpa using hp, hw⟩ h

/-- `ApicService` sets the window flag together with the event or not at all. -/
lemma window_apicService :
    (apicService s).requestInterruptWindow = s.requestInterruptWindow ∧
        (apicService s).pendingLapicIntr = s.pendingLapicIntr ∨
      (apicService s).requestInterruptWindow = 1 ∧
        (apicService s).pendingLapicIntr = true := by
  rw [apicService_eq]
  split
  · right; simp
  · left; exact ⟨rfl, rfl⟩

end Service

/-! ## `ApicSetIrq` -/

section SetIrq

variable (vector : BitVec 8) (level : BitVec 32) (s : State)

lemma apicSetIrq_of_accepts (h : s.lapic.accepts vector) :
    apicSetIrq vector level s = apicService (s.setLapic (s.lapic.accept vector level)) := by
  unfold apicSetIrq
  rw [if_neg (by have := h.1; omega), if_neg (by simp [h.2])]

/-- A refused vector changes the error status at most. -/
lemma apicSetIrq_of_refused (h : ¬ s.lapic.accepts vector) :
    ∃ e, apicSetIrq vector level s = s.setLapic { s.lapic with shadowErrorStatus := e } := by
  unfold apicSetIrq
  by_cases hv : vector.toNat ≤ 15
  · rw [if_pos hv]
    exact ⟨_, rfl⟩
  · rw [if_neg hv]
    by_cases hr : hasVector s.lapic.interruptRequestRegister vector = true
    · rw [if_pos hr]
      exact ⟨s.lapic.shadowErrorStatus, rfl⟩
    · exact absurd ⟨by omega, by simpa using hr⟩ h

@[simp] lemma ioApic_apicSetIrq : (apicSetIrq vector level s).ioApic = s.ioApic := by
  by_cases h : s.lapic.accepts vector
  · simp [apicSetIrq_of_accepts _ _ _ h]
  · obtain ⟨e, he⟩ := apicSetIrq_of_refused vector level s h
    simp [he]

@[simp] lemma pic_apicSetIrq : (apicSetIrq vector level s).pic = s.pic := by
  by_cases h : s.lapic.accepts vector
  · simp [apicSetIrq_of_accepts _ _ _ h]
  · obtain ⟨e, he⟩ := apicSetIrq_of_refused vector level s h
    simp [he]

@[simp] lemma busCalls_apicSetIrq : (apicSetIrq vector level s).busCalls = s.busCalls := by
  by_cases h : s.lapic.accepts vector
  · simp [apicSetIrq_of_accepts _ _ _ h]
  · obtain ⟨e, he⟩ := apicSetIrq_of_refused vector level s h
    simp [he]

@[simp] lemma pendingIntr_apicSetIrq :
    (apicSetIrq vector level s).pendingIntr = s.pendingIntr := by
  by_cases h : s.lapic.accepts vector
  · simp [apicSetIrq_of_accepts _ _ _ h]
  · obtain ⟨e, he⟩ := apicSetIrq_of_refused vector level s h
    simp [he]

/-- The fields `ApicSetIrq` never touches. -/
lemma lapic_apicSetIrq_frame :
    (apicSetIrq vector level s).lapic.taskPriority = s.lapic.taskPriority ∧
    (apicSetIrq vector level s).lapic.interruptServiceRegister =
      s.lapic.interruptServiceRegister ∧
    (apicSetIrq vector level s).lapic.spuriousVector = s.lapic.spuriousVector ∧
    (apicSetIrq vector level s).lapic.destinationLogical = s.lapic.destinationLogical ∧
    (apicSetIrq vector level s).lapic.destinationFormat = s.lapic.destinationFormat ∧
    (apicSetIrq vector level s).lapic.focusDisable = s.lapic.focusDisable ∧
    (apicSetIrq vector level s).lapic.msrEnable = s.lapic.msrEnable := by
  by_cases h : s.lapic.accepts vector
  · simp [apicSetIrq_of_accepts _ _ _ h, Lapic.accept]
  · obtain ⟨e, he⟩ := apicSetIrq_of_refused vector level s h
    simp [he]

/-- The request register gains the vector if it was accepted. -/
lemma irr_apicSetIrq (w : BitVec 8) :
    hasVector (apicSetIrq vector level s).lapic.interruptRequestRegister w =
      (hasVector s.lapic.interruptRequestRegister w ||
        decide (s.lapic.accepts vector ∧ vector = w)) := by
  by_cases h : s.lapic.accepts vector
  · simp [apicSetIrq_of_accepts _ _ _ h, Lapic.accept, h]
  · obtain ⟨e, he⟩ := apicSetIrq_of_refused vector level s h
    simp [he, h]

/-- The trigger mode bit of an accepted vector records its level; no other bit moves. -/
lemma tmr_apicSetIrq (w : BitVec 8) :
    hasVector (apicSetIrq vector level s).lapic.triggerModeRegister w =
      if s.lapic.accepts vector ∧ vector = w then decide (level ≠ 0)
      else hasVector s.lapic.triggerModeRegister w := by
  by_cases h : s.lapic.accepts vector
  · simp only [apicSetIrq_of_accepts _ _ _ h, lapic_apicService, State.lapic_setLapic,
      Lapic.accept, h, true_and]
    by_cases hl : level = 0#32 <;> by_cases hw : vector = w <;> simp [hl, hw]
  · obtain ⟨e, he⟩ := apicSetIrq_of_refused vector level s h
    simp [he, h]

/-- `ApicSetIrq` sets the window flag together with the event or not at all. -/
lemma window_apicSetIrq :
    (apicSetIrq vector level s).requestInterruptWindow = s.requestInterruptWindow ∧
        (apicSetIrq vector level s).pendingLapicIntr = s.pendingLapicIntr ∨
      (apicSetIrq vector level s).requestInterruptWindow = 1 ∧
        (apicSetIrq vector level s).pendingLapicIntr = true := by
  by_cases h : s.lapic.accepts vector
  · rw [apicSetIrq_of_accepts _ _ _ h]
    exact window_apicService (s.setLapic (s.lapic.accept vector level))
  · obtain ⟨e, he⟩ := apicSetIrq_of_refused vector level s h
    left
    simp [he]

end SetIrq

/-! ## EOI -/

section Eoi

variable (s : State)

/-- The vector an EOI retires. -/
def State.eoiVector (s : State) : BitVec 8 := highestVector s.lapic.interruptServiceRegister

/-- An EOI that meets the spurious vector at the top of the service register does nothing. -/
lemma apicReceiveEOI_of_spurious (h : s.eoiVector = s.lapic.spuriousVector) :
    apicReceiveEOI s = s := by
  unfold State.eoiVector at h
  simp [apicReceiveEOI, h]

/-- Any other EOI re-evaluates a state that differs from the old one as the following
lemmas say. -/
lemma exists_apicReceiveEOI (h : s.eoiVector ≠ s.lapic.spuriousVector) :
    ∃ t, apicReceiveEOI s = apicService t ∧
      t.lapic = { s.lapic with
        interruptServiceRegister := clearVector s.lapic.interruptServiceRegister s.eoiVector
        triggerModeRegister := t.lapic.triggerModeRegister } ∧
      (∀ w, hasVector t.lapic.triggerModeRegister w =
        (hasVector s.lapic.triggerModeRegister w && !decide (s.eoiVector = w))) ∧
      t.ioApic = (if hasVector s.lapic.triggerModeRegister s.eoiVector then
          ioApicReceiveEndOfInterrupt s.eoiVector s else s).ioApic ∧
      t.pic = s.pic ∧ t.svmmEvents = s.svmmEvents ∧
      t.requestInterruptWindow = s.requestInterruptWindow ∧ t.busCalls = s.busCalls ∧
      t.gvm = s.gvm := by
  unfold State.eoiVector at h ⊢
  unfold apicReceiveEOI
  simp only [ne_eq, h, not_false_eq_true, if_true]
  refine ⟨_, rfl, ?_⟩
  by_cases ht : hasVector s.lapic.triggerModeRegister
      (highestVector s.lapic.interruptServiceRegister) = true
  · simp only [State.lapic_setLapic, ht, if_true]
    refine ⟨rfl, fun w => ?_, rfl, rfl, rfl, rfl, rfl, rfl⟩
    exact hasVector_clearVector _ _ _
  · simp only [State.lapic_setLapic, ht]
    refine ⟨rfl, fun w => ?_, rfl, rfl, rfl, rfl, rfl, rfl⟩
    by_cases hw : highestVector s.lapic.interruptServiceRegister = w
    · simp only [Bool.not_eq_true] at ht
      simp [← hw, ht]
    · simp [hw]

/-- An EOI that is not skipped takes its vector out of the service register and nothing
else. -/
lemma isr_apicReceiveEOI (h : s.eoiVector ≠ s.lapic.spuriousVector) (w : BitVec 8) :
    hasVector (apicReceiveEOI s).lapic.interruptServiceRegister w =
      (hasVector s.lapic.interruptServiceRegister w && !decide (s.eoiVector = w)) := by
  obtain ⟨t, ht, hl, -⟩ := exists_apicReceiveEOI s h
  rw [ht, lapic_apicService, hl]
  exact hasVector_clearVector _ _ _

/-- Its trigger mode bit goes with it. -/
lemma tmr_apicReceiveEOI (h : s.eoiVector ≠ s.lapic.spuriousVector) (w : BitVec 8) :
    hasVector (apicReceiveEOI s).lapic.triggerModeRegister w =
      (hasVector s.lapic.triggerModeRegister w && !decide (s.eoiVector = w)) := by
  obtain ⟨t, ht, -, htmr, -⟩ := exists_apicReceiveEOI s h
  rw [ht, lapic_apicService]
  exact htmr w

/-- The I/O APIC hears of the EOI when the trigger mode bit was set. -/
lemma ioApic_apicReceiveEOI (h : s.eoiVector ≠ s.lapic.spuriousVector) :
    (apicReceiveEOI s).ioApic = (if hasVector s.lapic.triggerModeRegister s.eoiVector then
      ioApicReceiveEndOfInterrupt s.eoiVector s else s).ioApic := by
  obtain ⟨t, ht, -, -, hio, -⟩ := exists_apicReceiveEOI s h
  rw [ht, ioApic_apicService, hio]

lemma isr_apicReceiveEOI_le (w : BitVec 8)
    (hw : hasVector (apicReceiveEOI s).lapic.interruptServiceRegister w = true) :
    hasVector s.lapic.interruptServiceRegister w = true := by
  by_cases h : s.eoiVector = s.lapic.spuriousVector
  · rwa [apicReceiveEOI_of_spurious s h] at hw
  · rw [isr_apicReceiveEOI s h, Bool.and_eq_true] at hw
    exact hw.1

/-- The fields an EOI never touches. -/
lemma lapic_apicReceiveEOI_frame :
    (apicReceiveEOI s).lapic.taskPriority = s.lapic.taskPriority ∧
    (apicReceiveEOI s).lapic.interruptRequestRegister = s.lapic.interruptRequestRegister ∧
    (apicReceiveEOI s).lapic.spuriousVector = s.lapic.spuriousVector := by
  by_cases h : s.eoiVector = s.lapic.spuriousVector
  · simp [apicReceiveEOI_of_spurious s h]
  · obtain ⟨t, ht, hl, -⟩ := exists_apicReceiveEOI s h
    rw [ht, lapic_apicService, hl]
    exact ⟨rfl, rfl, rfl⟩

@[simp] lemma pendingIntr_apicReceiveEOI : (apicReceiveEOI s).pendingIntr = s.pendingIntr := by
  by_cases h : s.eoiVector = s.lapic.spuriousVector
  · rw [apicReceiveEOI_of_spurious s h]
  · obtain ⟨t, ht, -, -, -, -, he, -⟩ := exists_apicReceiveEOI s h
    rw [ht, pendingIntr_apicService, State.pendingIntr, he, ← State.pendingIntr]

/-- An EOI sets the window flag together with the event or not at all. -/
lemma window_apicReceiveEOI :
    (apicReceiveEOI s).requestInterruptWindow = s.requestInterruptWindow ∧
        (apicReceiveEOI s).pendingLapicIntr = s.pendingLapicIntr ∨
      (apicReceiveEOI s).requestInterruptWindow = 1 ∧
        (apicReceiveEOI s).pendingLapicIntr = true := by
  by_cases h : s.eoiVector = s.lapic.spuriousVector
  · rw [apicReceiveEOI_of_spurious s h]
    exact Or.inl ⟨rfl, rfl⟩
  · obtain ⟨t, ht, -, -, -, -, he, hw, -⟩ := exists_apicReceiveEOI s h
    have hp : t.pendingLapicIntr = s.pendingLapicIntr := by
      simp only [State.pendingLapicIntr, he]
    rw [ht, ← hw, ← hp]
    exact window_apicService t

end Eoi

/-! ## Task priority and acknowledge -/

section Acknowledge

variable (s : State)

/-- A task priority write stores a value of at most 15 and re-evaluates when it lowers the
priority; a larger value is ignored. -/
lemma apicWriteTaskPriority_cases (value : BitVec 32) :
    (15 < value.toNat ∧ apicWriteTaskPriority value s = s) ∨
    (value.toNat ≤ 15 ∧ s.lapic.taskPriority.toNat ≤ value.toNat ∧
      apicWriteTaskPriority value s = s.setLapic { s.lapic with taskPriority := value }) ∨
    (value.toNat ≤ 15 ∧ value.toNat < s.lapic.taskPriority.toNat ∧
      apicWriteTaskPriority value s =
        apicService (s.setLapic { s.lapic with taskPriority := value })) := by
  unfold apicWriteTaskPriority
  by_cases hv : 15 < value.toNat
  · exact Or.inl ⟨hv, by rw [if_pos hv]⟩
  · have hmask : value &&& 0xff = value := by
      apply BitVec.eq_of_toNat_eq
      rw [BitVec.toNat_and]
      exact Nat.and_two_pow_sub_one_of_lt_two_pow (n := 8) (by omega)
    rw [if_neg hv, hmask]
    by_cases hlt : value.toNat < s.lapic.taskPriority.toNat
    · exact Or.inr (Or.inr ⟨by omega, hlt, by rw [if_pos hlt]⟩)
    · exact Or.inr (Or.inl ⟨by omega, by omega, by rw [if_neg hlt]⟩)

/-- The registers of a non-spurious acknowledge, before `ApicService` runs again. -/
def State.acknowledged (s : State) : State :=
  (s.setLapic { s.lapic with
    interruptRequestRegister := clearVector s.lapic.interruptRequestRegister
      (highestVector s.lapic.interruptRequestRegister)
    interruptServiceRegister := setVector s.lapic.interruptServiceRegister
      (highestVector s.lapic.interruptRequestRegister) }).clearEvent eventPendingLapicIntr

variable {s} in
lemma requesting_acknowledged (w : BitVec 8) :
    s.acknowledged.requesting w =
      (s.requesting w && !decide (highestVector s.lapic.interruptRequestRegister = w)) :=
  hasVector_clearVector _ _ _

variable {s} in
lemma serving_acknowledged (w : BitVec 8) :
    s.acknowledged.serving w =
      (s.serving w || decide (highestVector s.lapic.interruptRequestRegister = w)) :=
  hasVector_setVector _ _ _

/-- An acknowledge needs the event, and is spurious or takes the highest request. -/
lemma apicAcknowledgeInterrupt_cases {v : BitVec 8} {t : State}
    (h : apicAcknowledgeInterrupt s = .ok (v, t)) :
    s.pendingLapicIntr = true ∧
      ((apicHighestPriority s.lapic.interruptRequestRegister < apicGetProcessPriority s.lapic ∧
          v = s.lapic.spuriousVector ∧ t = s.clearEvent eventPendingLapicIntr) ∨
        (apicGetProcessPriority s.lapic ≤
            apicHighestPriority s.lapic.interruptRequestRegister ∧
          v = highestVector s.lapic.interruptRequestRegister ∧
          t = apicService s.acknowledged)) := by
  unfold apicAcknowledgeInterrupt at h
  by_cases hp : s.pendingLapicIntr = true
  · refine ⟨hp, ?_⟩
    rw [if_neg (by simp [hp])] at h
    by_cases hlt : apicHighestPriority s.lapic.interruptRequestRegister <
        apicGetProcessPriority s.lapic
    · rw [if_pos hlt] at h
      simp only [Except.ok.injEq, Prod.mk.injEq] at h
      exact Or.inl ⟨hlt, h.1.symm, h.2.symm⟩
    · rw [if_neg hlt] at h
      simp only [Except.ok.injEq, Prod.mk.injEq] at h
      exact Or.inr ⟨by omega, h.1.symm, h.2.symm⟩
  · rw [if_pos (by simpa using hp)] at h
    cases h

end Acknowledge

end Svmm
