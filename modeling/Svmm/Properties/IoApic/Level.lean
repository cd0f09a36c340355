import Svmm.Properties.IoApic.Entry
import Svmm.Properties.Frames

/-!
# Level-triggered interrupts across the I/O APIC and the local APIC

A level pin whose interrupt was delivered waits, with its remote IRR bit set, for the EOI of
its vector.  The wait ends only if the vector is in flight in the local APIC with its trigger
mode bit set, because only then does the EOI reach the I/O APIC.  `LevelAgreement` is that
fact for every pin.  The I/O APIC starts a wait on the bus's success status, which says less.
-/

namespace Svmm

open TransitionRun

/-! ## Agreement -/

/-- The local APIC has the vector pending or in service, and its EOI will be broadcast. -/
def State.inFlight (s : State) (v : BitVec 8) : Prop :=
  (s.requesting v = true ∨ s.serving v = true) ∧ hasVector s.lapic.triggerModeRegister v = true

instance (s : State) (v : BitVec 8) : Decidable (s.inFlight v) :=
  inferInstanceAs (Decidable (_ ∧ _))

/-- Every level pin that waits has its vector in flight. -/
def LevelAgreement (s : State) : Prop :=
  ∀ pin, (s.entry pin).waits = true → s.inFlight (s.entry pin).vector

instance (s : State) : Decidable (LevelAgreement s) :=
  inferInstanceAs (Decidable (∀ pin, (s.entry pin).waits = true → s.inFlight (s.entry pin).vector))

section Agreement

variable {s t : State}

/-- Nothing in flight is lost while its registers only grow. -/
lemma LevelAgreement.of_inFlight (h : LevelAgreement s)
    (htable : t.ioApic.ioRedirectTable = s.ioApic.ioRedirectTable)
    (hflight : ∀ v, s.inFlight v → t.inFlight v) : LevelAgreement t := by
  intro pin hwaits
  simp only [State.entry, htable] at hwaits ⊢
  exact hflight _ (h pin hwaits)

lemma LevelAgreement.of_eq (h : LevelAgreement s) (hlapic : t.lapic = s.lapic)
    (htable : t.ioApic.ioRedirectTable = s.ioApic.ioRedirectTable) : LevelAgreement t := by
  refine h.of_inFlight htable fun v hv => ?_
  simpa only [State.inFlight, State.requesting, State.serving, hlapic] using hv

/-- What an accepted or refused vector does to what is in flight. -/
lemma inFlight_apicSetIrq_iff (vector : BitVec 8) (level : BitVec 32) (v : BitVec 8) :
    (apicSetIrq vector level s).inFlight v ↔
      if s.lapic.accepts vector ∧ vector = v then level ≠ 0 else s.inFlight v := by
  have hirr := irr_apicSetIrq vector level s v
  have htmr := tmr_apicSetIrq vector level s v
  obtain ⟨-, hisr, -⟩ := lapic_apicSetIrq_frame vector level s
  simp only [State.inFlight, State.requesting, State.serving, hirr, htmr, hisr]
  by_cases hacc : s.lapic.accepts vector ∧ vector = v
  · obtain ⟨hacc, rfl⟩ := hacc
    simp [hacc]
  · simp [hacc]

lemma inFlight_of_level {vector : BitVec 8} {level : BitVec 32} (hlevel : level ≠ 0)
    {v : BitVec 8} (h : s.inFlight v) : (apicSetIrq vector level s).inFlight v := by
  rw [inFlight_apicSetIrq_iff]
  split_ifs
  · exact hlevel
  · exact h

/-- An edge vector is accepted only when no level pin waits on the same vector: accepting it
clears the trigger mode bit they need. -/
def State.edgeClear (s : State) (vector : BitVec 8) : Prop :=
  s.lapic.accepts vector → ∀ pin, (s.entry pin).waits = true → (s.entry pin).vector ≠ vector

instance (s : State) (vector : BitVec 8) : Decidable (s.edgeClear vector) :=
  inferInstanceAs (Decidable (_ → ∀ pin, (s.entry pin).waits = true →
    (s.entry pin).vector ≠ vector))

lemma LevelAgreement.of_apicSetIrq (h : LevelAgreement s) {vector : BitVec 8}
    {level : BitVec 32} (hedge : level = 0 → s.edgeClear vector) :
    LevelAgreement (apicSetIrq vector level s) := by
  intro pin hwaits
  have hentry : (apicSetIrq vector level s).entry pin = s.entry pin := by
    simp only [State.entry, ioApic_apicSetIrq]
  rw [hentry] at hwaits ⊢
  have hold := h pin hwaits
  by_cases hlevel : level = 0
  · rw [inFlight_apicSetIrq_iff, if_neg]
    · exact hold
    · rintro ⟨hacc, heq⟩
      exact hedge hlevel hacc pin hwaits heq.symm
  · exact inFlight_of_level hlevel hold

/-! ## One call of `IoApicSetIntr` -/

/-- A call of `IoApicSetIntr` that keeps the two APICs in agreement: when the status is to be
success, a level vector is accepted or in flight already, and an edge vector takes no trigger
mode bit from a waiting pin. -/
def SendAgrees (s : State) (pin : Fin 24) : Prop :=
  s.asserted pin = true → (s.entry pin).held = false →
    if (s.entry pin).levelSensitive then
      (s.entry pin).heardBy s.lapic ∨ (s.entry pin).fixed →
        (s.entry pin).heardBy s.lapic ∧ s.lapic.accepts (s.entry pin).vector ∨
          s.inFlight (s.entry pin).vector
    else (s.entry pin).heardBy s.lapic → s.edgeClear (s.entry pin).vector

instance (s : State) (pin : Fin 24) : Decidable (SendAgrees s pin) :=
  inferInstanceAs (Decidable (_ → _ → ite _ _ _))

/-- The store after the bus call: agreement for every pin but the one just sent is inherited,
and for that one it is asked for. -/
lemma LevelAgreement.of_afterBus (h : LevelAgreement s) (pin : Fin 24) (status : ℕ)
    (hsent : status = 0 → (s.entry pin).levelSensitive = true →
      s.inFlight (s.entry pin).vector) :
    LevelAgreement (s.setIoApic (s.ioApic.afterBus pin status)) := by
  intro other hwaits
  have hflight : ∀ v, s.inFlight v →
      (s.setIoApic (s.ioApic.afterBus pin status)).inFlight v := fun v hv => hv
  by_cases hne : other = pin
  · subst hne
    have hvector : ((s.setIoApic (s.ioApic.afterBus other status)).entry other).vector =
        (s.entry other).vector := vector_afterBus s.ioApic other status
    have hwaits' : ((s.entry other).waits ||
        (s.entry other).levelSensitive && decide (status = 0)) = true := by
      rw [← hwaits]
      exact (waits_afterBus s.ioApic other status).symm
    rw [hvector]
    apply hflight
    rw [Bool.or_eq_true, Bool.and_eq_true, decide_eq_true_eq] at hwaits'
    rcases hwaits' with hold | ⟨hlevel, hstatus⟩
    · exact h other hold
    · exact hsent hstatus hlevel
  · have hentry : (s.setIoApic (s.ioApic.afterBus pin status)).entry other = s.entry other :=
      ioRedirectTable_afterBus_of_ne s.ioApic status hne
    rw [hentry] at hwaits ⊢
    exact hflight _ (h other hwaits)

lemma LevelAgreement.of_sent (h : LevelAgreement s) {pin : Fin 24}
    (hagrees : (s.entry pin).held = false →
      if (s.entry pin).levelSensitive then
        (s.entry pin).heardBy s.lapic ∨ (s.entry pin).fixed →
          (s.entry pin).heardBy s.lapic ∧ s.lapic.accepts (s.entry pin).vector ∨
            s.inFlight (s.entry pin).vector
      else (s.entry pin).heardBy s.lapic → s.edgeClear (s.entry pin).vector)
    (hsent : IoApicSent pin s t) : LevelAgreement t := by
  have hlog : LevelAgreement (s.logCall pin) := h.of_eq rfl rfl
  cases hsent with
  | held hheld => exact h
  | heard hheld hhears =>
      have hcase := hagrees hheld
      set e := s.entry pin with he
      have hio : s.ioApic = (apicSetIrq e.vector e.triggerMode (s.logCall pin)).ioApic := by simp
      have hentry : (apicSetIrq e.vector e.triggerMode (s.logCall pin)).entry pin = e :=
        congrArg (fun a => a.ioRedirectTable pin) hio.symm
      rw [hio]
      cases hlevel : e.levelSensitive with
      | true =>
          rw [hlevel, if_pos rfl] at hcase
          have htrigger : e.triggerMode ≠ 0 := (e.triggerMode_ne_zero_iff).mpr hlevel
          refine LevelAgreement.of_afterBus
            (hlog.of_apicSetIrq fun h0 => absurd h0 htrigger) pin 0 fun _ _ => ?_
          rw [hentry]
          rcases hcase (Or.inl hhears) with ⟨-, hacc⟩ | hold
          · rw [inFlight_apicSetIrq_iff, if_pos ⟨hacc, rfl⟩]
            exact htrigger
          · exact inFlight_of_level htrigger hold
      | false =>
          rw [hlevel, if_neg Bool.false_ne_true] at hcase
          refine LevelAgreement.of_afterBus (hlog.of_apicSetIrq fun _ => hcase hhears) pin 0
            fun _ hlevel' => ?_
          rw [hentry, hlevel] at hlevel'
          cases hlevel'
  | dropped hheld hdeaf hfixed =>
      refine LevelAgreement.of_afterBus (s := s.logCall pin) hlog pin 0 fun _ hlevel => ?_
      have hcase := hagrees hheld
      have hlevel' : (s.entry pin).levelSensitive = true := hlevel
      rw [if_pos hlevel'] at hcase
      rcases hcase (Or.inr hfixed) with ⟨hhears, -⟩ | hold
      · exact absurd hhears hdeaf
      · exact hold
  | refused hheld hdeaf hfixed hcall =>
      have hnot : ¬ (1 : ℕ) = 0 := by decide
      rcases hcall with rfl | ⟨call, rfl⟩
      · exact LevelAgreement.of_afterBus (s := s.logCall pin) hlog pin 1
          fun h0 => absurd h0 hnot
      · exact LevelAgreement.of_afterBus (s := ((s.logCall pin).deviceIoControl call).2)
          (hlog.of_eq rfl rfl) pin 1 fun h0 => absurd h0 hnot

/-- A scan whose calls all agree keeps the agreement. -/
lemma LevelAgreement.of_service (h : LevelAgreement s)
    (hagrees : Meets ioApicServicePin SendAgrees s (List.finRange 24))
    (hservice : ioApicService s = .ok t) : LevelAgreement t := by
  have hrun : run ioApicServicePin s (List.finRange 24) = .ok t := by
    rw [← ioApicServicePins_eq_run]
    exact hservice
  refine run_invariant (I := LevelAgreement) (fun s pin t h hagrees hstep => ?_) h hagrees hrun
  rcases ioApicServicePin_cases hstep with ⟨-, rfl⟩ | ⟨hirr, hsent⟩
  · exact h
  · exact h.of_sent (hagrees hirr) hsent

end Agreement

/-! ## The other operations -/

section Operations

variable {s t : State}

/-- An acknowledge moves a vector from pending to in service. -/
lemma LevelAgreement.of_acknowledge (h : LevelAgreement s) {v : BitVec 8}
    (hack : apicAcknowledgeInterrupt s = .ok (v, t)) : LevelAgreement t := by
  rcases (apicAcknowledgeInterrupt_cases s hack).2 with ⟨-, -, rfl⟩ | ⟨-, -, rfl⟩
  · exact h.of_eq rfl rfl
  · refine LevelAgreement.of_eq (s := s.acknowledged) ?_ (by simp) (by simp)
    refine h.of_inFlight rfl fun w hw => ?_
    have hreq := requesting_acknowledged (s := s) w
    have hserv := serving_acknowledged (s := s) w
    have htmr : hasVector s.acknowledged.lapic.triggerModeRegister w = true := hw.2
    refine ⟨?_, htmr⟩
    rw [hreq, hserv]
    by_cases htop : highestVector s.lapic.interruptRequestRegister = w
    · right
      simp [htop]
    · rcases hw.1 with hold | hold
      · left
        simp [htop, hold]
      · right
        simp [hold]

lemma entry_apicReceiveEOI (h : s.eoiVector ≠ s.lapic.spuriousVector) (pin : Fin 24) :
    (apicReceiveEOI s).entry pin =
      if hasVector s.lapic.triggerModeRegister s.eoiVector then
        (s.entry pin).receiveEndOfInterrupt s.eoiVector
      else s.entry pin := by
  rw [State.entry, ioApic_apicReceiveEOI s h]
  split_ifs <;> rfl

/-- An EOI retires a vector together with the waits that depend on it. -/
lemma LevelAgreement.of_receiveEOI (h : LevelAgreement s) : LevelAgreement (apicReceiveEOI s) := by
  by_cases hspur : s.eoiVector = s.lapic.spuriousVector
  · rw [apicReceiveEOI_of_spurious s hspur]
    exact h
  intro pin hwaits
  have hentry := entry_apicReceiveEOI hspur pin
  have hold : (s.entry pin).waits = true ∧ (s.entry pin).vector ≠ s.eoiVector ∧
      ((apicReceiveEOI s).entry pin).vector = (s.entry pin).vector := by
    cases htmr : hasVector s.lapic.triggerModeRegister s.eoiVector with
    | true =>
        rw [hentry, htmr, if_pos rfl, IoRedirectEntry.waits_receiveEndOfInterrupt,
          Bool.and_eq_true, Bool.not_eq_true', decide_eq_false_iff_not] at hwaits
        refine ⟨hwaits.1, hwaits.2, ?_⟩
        rw [hentry, htmr, if_pos rfl, IoRedirectEntry.vector_receiveEndOfInterrupt]
    | false =>
        rw [hentry, htmr, if_neg Bool.false_ne_true] at hwaits
        refine ⟨hwaits, fun heq => ?_, ?_⟩
        · -- a waiting pin of this vector would have the trigger mode bit set
          have hset := (h pin hwaits).2
          rw [heq, htmr] at hset
          cases hset
        · rw [hentry, htmr, if_neg Bool.false_ne_true]
  obtain ⟨hwaits', hne, hvector⟩ := hold
  obtain ⟨hin, htmr⟩ := h pin hwaits'
  rw [hvector]
  refine ⟨?_, ?_⟩
  · rcases hin with hreq | hserv
    · left
      rw [State.requesting, (lapic_apicReceiveEOI_frame s).2.1]
      exact hreq
    · right
      rw [State.serving, isr_apicReceiveEOI s hspur, Bool.and_eq_true]
      exact ⟨hserv, by simpa using hne.symm⟩
  · rw [tmr_apicReceiveEOI s hspur, Bool.and_eq_true]
    exact ⟨htmr, by simpa using hne.symm⟩

lemma LevelAgreement.of_keepsApics (h : LevelAgreement s) (hk : KeepsApics s t) :
    LevelAgreement t := h.of_eq hk.lapic (by rw [hk.ioApic])

lemma LevelAgreement.of_writeTaskPriority (h : LevelAgreement s) (value : BitVec 32) :
    LevelAgreement (apicWriteTaskPriority value s) := by
  rcases apicWriteTaskPriority_cases s value with ⟨-, he⟩ | ⟨-, -, he⟩ | ⟨-, -, he⟩
  · rw [he]
    exact h
  · rw [he]
    exact h.of_inFlight rfl fun v hv => hv
  · rw [he]
    refine h.of_inFlight (by simp) fun v hv => ?_
    simpa [State.inFlight, State.requesting, State.serving] using hv

/-- Every call of `IoApicSetIntr` that a raise of the line makes agrees. -/
def State.raiseAgrees (s : State) (irqNumber : BitVec 8) : Prop :=
  ∀ pin ∈ ioApicPin irqNumber,
    (s.entry pin).levelSensitive = true ∨ s.asserted pin = false →
      Meets ioApicServicePin SendAgrees (s.assertLine pin) (List.finRange 24)

instance (s : State) (irqNumber : BitVec 8) : Decidable (s.raiseAgrees irqNumber) :=
  inferInstanceAs (Decidable (∀ pin ∈ ioApicPin irqNumber, _ → _))

lemma LevelAgreement.of_raiseIrq (h : LevelAgreement s) {irqNumber : BitVec 8}
    (hagrees : s.raiseAgrees irqNumber) (hraise : ioApicRaiseIrq irqNumber s = .ok t) :
    LevelAgreement t := by
  rcases ioApicRaiseIrq_cases hraise with
    ⟨-, rfl⟩ | ⟨pin, -, -, -, rfl⟩ | ⟨pin, hpin, hserves, hservice⟩
  · exact h
  · exact h
  · exact LevelAgreement.of_service (s := s.assertLine pin) (h.of_eq rfl rfl)
      (hagrees pin hpin hserves) hservice

lemma LevelAgreement.of_lowerIrq (h : LevelAgreement s) (irqNumber : BitVec 8) :
    LevelAgreement (ioApicLowerIrq irqNumber s) := by
  rcases ioApicLowerIrq_cases irqNumber s with heq | ⟨pin, -, -, heq⟩
  · rw [heq]
    exact h
  · rw [heq]
    exact h.of_eq rfl rfl

/-- What a redirection-table write stores is a wait for a vector in flight, if it is a wait. -/
def State.writeAgrees (s : State) (pin : Fin 24) (value : BitVec 32) : Prop :=
  ((s.setIoApic (s.ioApic.writeEntry pin value)).entry pin).waits = true →
    s.inFlight ((s.setIoApic (s.ioApic.writeEntry pin value)).entry pin).vector

instance (s : State) (pin : Fin 24) (value : BitVec 32) : Decidable (s.writeAgrees pin value) :=
  inferInstanceAs (Decidable (_ → _))

lemma LevelAgreement.of_writeEntry (h : LevelAgreement s) {pin : Fin 24} {value : BitVec 32}
    (hagrees : s.writeAgrees pin value) :
    LevelAgreement (s.setIoApic (s.ioApic.writeEntry pin value)) := by
  intro other hwaits
  by_cases hne : other = pin
  · subst hne
    exact hagrees hwaits
  · have hentry : (s.setIoApic (s.ioApic.writeEntry pin value)).entry other = s.entry other :=
      ioRedirectTable_writeEntry_of_ne s.ioApic value hne
    rw [hentry] at hwaits ⊢
    exact h other hwaits

end Operations

/-! ## One step -/

/-- A step on which the two APICs stay in agreement and an EOI is not swallowed: every call of
`IoApicSetIntr` agrees, a write stores no wait of its own making, an edge vector given to
`ApicSetIrq` directly takes no trigger mode bit away, and the spurious vector is not at the
top of the service register while a pin waits for it. -/
def LevelStep (s : State) : Op → Prop
  | .picRaiseIrq irqNumber => irqNumber ≠ 2 → s.raiseAgrees irqNumber
  | .ioApicRaiseIrq irqNumber => s.raiseAgrees irqNumber
  | .ioApicMMIOWrite address value =>
      ∀ pin, s.writesEntry address pin →
        s.writeAgrees pin value ∧
          Meets ioApicServicePin SendAgrees (s.setIoApic (s.ioApic.writeEntry pin value))
            (List.finRange 24)
  | .apicSetIrq vector level => level = 0 → s.edgeClear vector
  | .apicReceiveEOI =>
      (∃ pin, (s.entry pin).waits = true ∧ (s.entry pin).vector = s.eoiVector) →
        s.serving s.eoiVector = true → s.eoiVector ≠ s.lapic.spuriousVector
  | _ => True

instance (s : State) : ∀ op, Decidable (LevelStep s op)
  | .picRaiseIrq irqNumber => inferInstanceAs (Decidable (_ → s.raiseAgrees irqNumber))
  | .ioApicRaiseIrq irqNumber => inferInstanceAs (Decidable (s.raiseAgrees irqNumber))
  | .ioApicMMIOWrite address value => inferInstanceAs (Decidable (∀ pin,
      s.writesEntry address pin → s.writeAgrees pin value ∧
        Meets ioApicServicePin SendAgrees (s.setIoApic (s.ioApic.writeEntry pin value))
          (List.finRange 24)))
  | .apicSetIrq vector _ => inferInstanceAs (Decidable (_ → s.edgeClear vector))
  | .apicReceiveEOI => inferInstanceAs (Decidable ((∃ pin, (s.entry pin).waits = true ∧
      (s.entry pin).vector = s.eoiVector) → _ → _ ≠ _))
  | .picLowerIrq _ | .picPortIoWrite _ _ | .ioApicLowerIrq _ | .apicWriteTaskPriority _
  | .apicWriteSpuriousInterrupt _ | .apicAcknowledgeInterrupt | .irqWindowOpen => isTrue trivial

/-- An EOI with its vector in service ends the wait of every level pin of that vector. -/
def EoiEndsWaits (s : State) (op : Op) : Prop :=
  op = .apicReceiveEOI → ∀ pin, (s.entry pin).waits = true →
    (s.entry pin).vector = s.eoiVector → s.serving s.eoiVector = true →
      ((apicReceiveEOI s).entry pin).remoteIrr = false

section Step

variable {s t : State}

lemma levelAgreement_step {op : Op} (h : LevelAgreement s) (hop : LevelStep s op)
    (hstep : step s op = .ok t) : LevelAgreement t := by
  cases op with
  | picRaiseIrq irqNumber =>
      obtain ⟨u, hu, hline⟩ := exists_of_picRaiseIrq hstep
      refine LevelAgreement.of_keepsApics (s := u) ?_ (picClosed_keepsApics.raiseLine hline)
      rcases hu with ⟨hnum, hraise⟩ | ⟨-, rfl⟩
      · exact h.of_raiseIrq (hop hnum) hraise
      · exact h
  | picLowerIrq irqNumber =>
      simp only [step, Except.ok.injEq] at hstep
      obtain ⟨u, hu, hline⟩ := exists_picLowerIrq irqNumber s
      rw [← hstep, hline]
      refine LevelAgreement.of_keepsApics (s := u) ?_ (picClosed_keepsApics.lowerLine irqNumber)
      rcases hu with ⟨-, rfl⟩ | ⟨-, rfl⟩
      · exact h.of_lowerIrq irqNumber
      · exact h
  | picPortIoWrite address value => exact h.of_keepsApics (picClosed_keepsApics.portIoWrite hstep)
  | ioApicRaiseIrq irqNumber => exact h.of_raiseIrq hop hstep
  | ioApicLowerIrq irqNumber =>
      simp only [step, Except.ok.injEq] at hstep
      exact hstep ▸ h.of_lowerIrq irqNumber
  | ioApicMMIOWrite address value =>
      rcases ioApicMMIOWriteHandler_cases hstep with ⟨a, rfl, htable, -⟩ | ⟨pin, hwrites, hservice⟩
      · exact h.of_eq rfl htable
      · obtain ⟨hagrees, hscan⟩ := hop pin hwrites
        exact (h.of_writeEntry hagrees).of_service hscan hservice
  | apicSetIrq vector level =>
      simp only [step, Except.ok.injEq] at hstep
      exact hstep ▸ h.of_apicSetIrq hop
  | apicWriteTaskPriority value =>
      simp only [step, Except.ok.injEq] at hstep
      exact hstep ▸ h.of_writeTaskPriority value
  | apicWriteSpuriousInterrupt value =>
      simp only [step, Except.ok.injEq] at hstep
      exact hstep ▸ h.of_inFlight rfl fun v hv => hv
  | apicReceiveEOI =>
      simp only [step, Except.ok.injEq] at hstep
      exact hstep ▸ h.of_receiveEOI
  | apicAcknowledgeInterrupt =>
      obtain ⟨v, hack⟩ := exists_of_step_acknowledge hstep
      exact h.of_acknowledge hack
  | irqWindowOpen =>
      have hclosed : LevelAgreement (s.setWindow 0) := h.of_eq rfl rfl
      rcases irqWindowOpen_cases hstep with
        ⟨-, v, u, hiac, rfl⟩ | ⟨-, -, v, u, hack, rfl⟩ | ⟨-, -, rfl⟩
      · exact (hclosed.of_keepsApics (picClosed_keepsApics.iac hiac)).of_eq rfl rfl
      · exact (hclosed.of_acknowledge hack).of_eq rfl rfl
      · exact hclosed

/-- A vector in flight gets its EOI broadcast. -/
lemma LevelAgreement.eoiEndsWaits (h : LevelAgreement s) {op : Op} (hop : LevelStep s op) :
    EoiEndsWaits s op := by
  rintro rfl pin hwaits hvector hserving
  have hspur := hop ⟨pin, hwaits, hvector⟩ hserving
  have htmr := (h pin hwaits).2
  have hlevel : (s.entry pin).levelSensitive = true := by
    rw [IoRedirectEntry.waits, Bool.and_eq_true] at hwaits
    exact hwaits.1
  rw [hvector] at htmr
  rw [entry_apicReceiveEOI hspur, if_pos htmr, IoRedirectEntry.remoteIrr_receiveEndOfInterrupt]
  simp [hlevel, hvector]

end Step

/-- **The two APICs agree on level interrupts in flight**, on runs whose deliveries reach the
local APIC.  In every state such a run reaches from power-on, a level pin with remote IRR set
has its vector pending or in service with the trigger mode bit set, and every EOI of the run
ends the waits of its vector. -/
theorem ioApic_level_agreement (gvm : List Ioctl → Ioctl → Bool) (ops : List Op)
    (hops : Meets step LevelStep (State.initial gvm) ops) :
    (∀ t, run step (State.initial gvm) ops = .ok t → LevelAgreement t) ∧
      Meets step EoiEndsWaits (State.initial gvm) ops := by
  have hinit : LevelAgreement (State.initial gvm) := by
    intro pin hwaits
    have hentry : ((State.initial gvm).entry pin).waits = false := by
      show ({ high := 0, low := Word.bit ioApicMasked } : IoRedirectEntry).waits = false
      decide
    rw [hentry] at hwaits
    cases hwaits
  have hstep : ∀ s op t, LevelAgreement s → LevelStep s op → step s op = .ok t →
      LevelAgreement t := fun s op t => levelAgreement_step
  exact ⟨fun t hrun => run_invariant hstep hinit hops hrun,
    Meets.of_invariant hstep (fun s op h hop => h.eoiEndsWaits hop) hinit hops⟩

/-- Pin 16 programmed level-triggered with vector 0x31 for APIC 0, raised, taken and retired. -/
theorem ioApic_level_agreement_pin :
    ∃ t, run step (State.initial fun _ _ => true)
        [.ioApicMMIOWrite 0 0x30, .ioApicMMIOWrite 0x10 0x8031, .ioApicRaiseIrq 16,
          .irqWindowOpen, .ioApicLowerIrq 16, .apicReceiveEOI] = .ok t ∧ LevelAgreement t :=
  exists_of_completes (by decide) (ioApic_level_agreement _ _ (by decide)).1

/-- The same pin aimed at APIC 1, which does not exist: the bus reports success, and the pin
waits for an EOI of a vector nobody has. -/
theorem ioApic_level_pin_wedged :
    ∃ t, run step (State.initial fun _ _ => true)
        [.ioApicMMIOWrite 0 0x31, .ioApicMMIOWrite 0x10 0x01000000, .ioApicMMIOWrite 0 0x30,
          .ioApicMMIOWrite 0x10 0x8031, .ioApicRaiseIrq 16] = .ok t ∧ ¬ LevelAgreement t :=
  exists_of_ends (fun t => ¬ LevelAgreement t) (by decide)

end Svmm
