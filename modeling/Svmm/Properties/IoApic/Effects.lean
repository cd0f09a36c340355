import Svmm.Properties.Apic.Bus

/-!
# What the I/O APIC functions do

One inversion for each function of `Construction/IoApic.lean`, in the terms of
`Properties/Apic/Bus.lean`: whether a pin is held back, heard by the local APIC, dropped with a
success status, or refused.
-/

namespace Svmm

open TransitionRun

/-- The local APIC gets the vector when the bus is called for this entry. -/
def IoRedirectEntry.heardBy (e : IoRedirectEntry) (l : Lapic) : Prop :=
  l.hears e.destination e.destinationMode e.deliveryMode

/-- The bus treats the entry as fixed, and reports success for it in any case. -/
def IoRedirectEntry.fixed (e : IoRedirectEntry) : Prop :=
  busFixed e.destinationMode e.deliveryMode

instance (e : IoRedirectEntry) (l : Lapic) : Decidable (e.heardBy l) :=
  inferInstanceAs (Decidable (l.hears _ _ _))

instance (e : IoRedirectEntry) : Decidable e.fixed :=
  inferInstanceAs (Decidable (busFixed _ _))

/-- The entry of a pin. -/
def State.entry (s : State) (pin : Fin 24) : IoRedirectEntry := s.ioApic.ioRedirectTable pin

/-- The line of a pin is asserted. -/
def State.asserted (s : State) (pin : Fin 24) : Bool := Word.has s.ioApic.irr pin

/-- The state with a bus call recorded. -/
def State.logCall (pin : Fin 24) (s : State) : State := { s with busCalls := pin :: s.busCalls }

section LogCall

variable (pin : Fin 24) (s : State)

@[simp] lemma lapic_logCall : (s.logCall pin).lapic = s.lapic := rfl
@[simp] lemma ioApic_logCall : (s.logCall pin).ioApic = s.ioApic := rfl
@[simp] lemma busCalls_logCall : (s.logCall pin).busCalls = pin :: s.busCalls := rfl
@[simp] lemma pendingIntr_logCall : (s.logCall pin).pendingIntr = s.pendingIntr := rfl
@[simp] lemma pendingLapicIntr_logCall :
    (s.logCall pin).pendingLapicIntr = s.pendingLapicIntr := rfl
@[simp] lemma requestInterruptWindow_logCall :
    (s.logCall pin).requestInterruptWindow = s.requestInterruptWindow := rfl

end LogCall

/-! ## `IoApicSetIntr` -/

/-- The ways `IoApicSetIntr` returns. -/
inductive IoApicSent (pin : Fin 24) (s : State) : State → Prop where
  /-- Masked, or waiting for an EOI. -/
  | held (hheld : (s.entry pin).held = true) : IoApicSent pin s s
  /-- The local APIC got the vector. -/
  | heard (hheld : (s.entry pin).held = false) (hhears : (s.entry pin).heardBy s.lapic) :
      IoApicSent pin s
        ((apicSetIrq (s.entry pin).vector (s.entry pin).triggerMode (s.logCall pin)).setIoApic
          (s.ioApic.afterBus pin 0))
  /-- No local APIC got it, and the bus reported success. -/
  | dropped (hheld : (s.entry pin).held = false) (hdeaf : ¬ (s.entry pin).heardBy s.lapic)
      (hfixed : (s.entry pin).fixed) :
      IoApicSent pin s ((s.logCall pin).setIoApic (s.ioApic.afterBus pin 0))
  /-- The bus reported failure. -/
  | refused {t : State} (hheld : (s.entry pin).held = false)
      (hdeaf : ¬ (s.entry pin).heardBy s.lapic) (hfixed : ¬ (s.entry pin).fixed)
      (hcall : t = s.logCall pin ∨ ∃ call, t = ((s.logCall pin).deviceIoControl call).2) :
      IoApicSent pin s (t.setIoApic (s.ioApic.afterBus pin 1))

lemma ioApicSent_of_ioApicSetIntr {pin : Fin 24} {s t : State}
    (h : ioApicSetIntr pin s = .ok t) : IoApicSent pin s t := by
  unfold ioApicSetIntr at h
  cases hheld : (s.entry pin).held with
  | true =>
      have hheld' : (s.ioApic.ioRedirectTable pin).held = true := hheld
      simp only [hheld', if_true, Except.ok.injEq] at h
      exact h ▸ .held hheld
  | false =>
      have hheld' : (s.ioApic.ioRedirectTable pin).held = false := hheld
      simp only [hheld', Bool.false_eq_true, if_false] at h
      obtain ⟨⟨status, u⟩, hbus, hu⟩ := bind_eq_ok.mp h
      simp only [Except.ok.injEq] at hu
      rw [← hu]
      rcases apicBusDeliverInterrupt_cases hbus with
        ⟨hhears, hstatus, hstate⟩ | ⟨hdeaf, hfixed, hstatus, hstate⟩ |
          ⟨hdeaf, hfixed, hstatus, hstate⟩
      · subst hstatus
        have hio : u.ioApic = s.ioApic := by
          rw [hstate, ioApic_apicSetIrq]
        rw [hio, hstate]
        exact .heard hheld hhears
      · subst hstatus
        rw [hstate]
        exact .dropped hheld hdeaf hfixed
      · subst hstatus
        have hio : u.ioApic = s.ioApic := by
          rcases hstate with rfl | ⟨call, rfl⟩ <;> rfl
        rw [hio]
        exact .refused hheld hdeaf hfixed hstate

section SetEntry

variable (a : IoApic) {pin other : Fin 24} (e : IoRedirectEntry) (value : BitVec 32)

@[simp] lemma ioRedirectTable_setEntry_self :
    (a.setEntry pin e).ioRedirectTable pin = e := Function.update_self _ _ _

lemma ioRedirectTable_setEntry_of_ne (h : other ≠ pin) :
    (a.setEntry pin e).ioRedirectTable other = a.ioRedirectTable other :=
  Function.update_of_ne h _ _

/-- A write of the register pair of a pin stores one half of its entry. -/
lemma ioRedirectTable_writeEntry_self :
    (a.writeEntry pin value).ioRedirectTable pin =
      if Word.has a.ioRegisterSelect 0 then { a.ioRedirectTable pin with high := value }
      else { a.ioRedirectTable pin with low := ioApicLowWritten value } := by
  unfold IoApic.writeEntry
  dsimp only
  split_ifs <;> exact ioRedirectTable_setEntry_self a _

lemma ioRedirectTable_writeEntry_of_ne (h : other ≠ pin) :
    (a.writeEntry pin value).ioRedirectTable other = a.ioRedirectTable other := by
  unfold IoApic.writeEntry
  dsimp only
  split_ifs <;> exact ioRedirectTable_setEntry_of_ne a _ h

@[simp] lemma irr_writeEntry : (a.writeEntry pin value).irr = a.irr := by
  unfold IoApic.writeEntry
  dsimp only
  split_ifs <;> rfl

end SetEntry

section AfterBus

variable (a : IoApic) {pin other : Fin 24} (status : ℕ)

/-- The store after a bus call touches the entry of its own pin only. -/
lemma ioRedirectTable_afterBus_of_ne (h : other ≠ pin) :
    (a.afterBus pin status).ioRedirectTable other = a.ioRedirectTable other := by
  unfold IoApic.afterBus
  dsimp only
  split_ifs <;> exact ioRedirectTable_setEntry_of_ne _ _ h

/-- Only an edge-triggered pin has its line cleared, and only on a success status. -/
lemma irr_afterBus (n : ℕ) :
    Word.has (a.afterBus pin status).irr n =
      (Word.has a.irr n &&
        !decide (status = 0 ∧ (a.ioRedirectTable pin).levelSensitive = false ∧ (pin : ℕ) = n)) := by
  unfold IoApic.afterBus IoApic.setEntry
  dsimp only
  by_cases hstatus : status = 0
  · cases hlevel : (a.ioRedirectTable pin).levelSensitive with
    | true => simp [hstatus]
    | false => simp [hstatus]
  · simp [hstatus]

end AfterBus

section Sent

variable {pin other : Fin 24} {s t : State}

/-- The I/O APIC after `IoApicSetIntr`: as it was, or as the bus status says. -/
lemma IoApicSent.ioApic_eq (h : IoApicSent pin s t) :
    t.ioApic = s.ioApic ∨ ∃ status, t.ioApic = s.ioApic.afterBus pin status := by
  cases h with
  | held hheld => exact Or.inl rfl
  | heard hheld hhears => exact Or.inr ⟨0, rfl⟩
  | dropped hheld hdeaf hfixed => exact Or.inr ⟨0, rfl⟩
  | refused hheld hdeaf hfixed hcall => exact Or.inr ⟨1, rfl⟩

/-- The bus is called once, unless the entry is held back. -/
lemma IoApicSent.busCalls_eq (h : IoApicSent pin s t) :
    t.busCalls = if (s.entry pin).held then s.busCalls else pin :: s.busCalls := by
  cases h with
  | held hheld => rw [if_pos hheld]
  | heard hheld hhears => simp [hheld]
  | dropped hheld hdeaf hfixed => simp [hheld]
  | refused hheld hdeaf hfixed hcall =>
      rcases hcall with rfl | ⟨call, rfl⟩ <;> simp [hheld]

lemma IoApicSent.entry_of_ne (h : IoApicSent pin s t) (hne : other ≠ pin) :
    t.entry other = s.entry other := by
  rcases h.ioApic_eq with heq | ⟨status, heq⟩
  · simp only [State.entry, heq]
  · simp only [State.entry, heq, ioRedirectTable_afterBus_of_ne _ status hne]

lemma IoApicSent.asserted_of_ne (h : IoApicSent pin s t) (hne : other ≠ pin) :
    t.asserted other = s.asserted other := by
  rcases h.ioApic_eq with heq | ⟨status, heq⟩
  · simp only [State.asserted, heq]
  · have hval : (pin : ℕ) ≠ other := fun hval => hne (Fin.ext hval.symm)
    simp [State.asserted, heq, irr_afterBus, hval]

end Sent

/-! ## Lines and writes -/

/-- The state with a line asserted. -/
def State.assertLine (pin : Fin 24) (s : State) : State :=
  s.setIoApic { s.ioApic with irr := Word.set s.ioApic.irr pin }

/-- `IoApicRaiseIrq` asserts a line and services, unless there is no such pin or the line is
edge-triggered and still asserted. -/
lemma ioApicRaiseIrq_cases {irqNumber : BitVec 8} {s t : State}
    (h : ioApicRaiseIrq irqNumber s = .ok t) :
    (ioApicPin irqNumber = none ∧ t = s) ∨
    (∃ pin, ioApicPin irqNumber = some pin ∧ (s.entry pin).levelSensitive = false ∧
      s.asserted pin = true ∧ t = s) ∨
    ∃ pin, ioApicPin irqNumber = some pin ∧
      ((s.entry pin).levelSensitive = true ∨ s.asserted pin = false) ∧
      ioApicService (s.assertLine pin) = .ok t := by
  unfold ioApicRaiseIrq at h
  cases hpin : ioApicPin irqNumber with
  | none =>
      simp only [hpin, Except.ok.injEq] at h
      exact Or.inl ⟨rfl, h.symm⟩
  | some pin =>
      simp only [hpin] at h
      refine Or.inr ?_
      split_ifs at h with hlevel hirr
      · exact Or.inr ⟨pin, rfl, Or.inl hlevel, h⟩
      · simp only [Except.ok.injEq] at h
        exact Or.inl ⟨pin, rfl, by simpa [State.entry] using hlevel, hirr, h.symm⟩
      · exact Or.inr ⟨pin, rfl, Or.inr (by simpa [State.asserted] using hirr), h⟩

/-- `IoApicLowerIrq` clears the line of a level-sensitive pin. -/
lemma ioApicLowerIrq_cases (irqNumber : BitVec 8) (s : State) :
    ioApicLowerIrq irqNumber s = s ∨
      ∃ pin, ioApicPin irqNumber = some pin ∧ (s.entry pin).levelSensitive = true ∧
        ioApicLowerIrq irqNumber s =
          s.setIoApic { s.ioApic with irr := Word.clear s.ioApic.irr pin } := by
  unfold ioApicLowerIrq
  cases hpin : ioApicPin irqNumber with
  | none => exact Or.inl rfl
  | some pin =>
      dsimp only
      split_ifs with hlevel
      · exact Or.inr ⟨pin, rfl, hlevel, rfl⟩
      · exact Or.inl rfl

/-- A write of redirection entry `pin`. -/
def State.writesEntry (s : State) (address : BitVec 32) (pin : Fin 24) : Prop :=
  address = ioApicSetData ∧ s.ioApic.ioRegisterSelect ≠ 0 ∧ s.ioApic.ioRegisterSelect ≠ 1 ∧
    s.ioApic.ioRegisterSelect ≠ 2 ∧ ioApicEntryIndex s.ioApic.ioRegisterSelect = pin

instance (s : State) (address : BitVec 32) (pin : Fin 24) :
    Decidable (s.writesEntry address pin) :=
  inferInstanceAs (Decidable (_ ∧ _))

/-- An MMIO write selects a register, sets the identifier, does nothing, or writes a
redirection entry and services. -/
lemma ioApicMMIOWriteHandler_cases {address value : BitVec 32} {s t : State}
    (h : ioApicMMIOWriteHandler address value s = .ok t) :
    (∃ a, t = s.setIoApic a ∧ a.ioRedirectTable = s.ioApic.ioRedirectTable ∧
      a.irr = s.ioApic.irr ∧ ∀ pin, ¬ s.writesEntry address pin) ∨
    ∃ pin, s.writesEntry address pin ∧
      ioApicService (s.setIoApic (s.ioApic.writeEntry pin value)) = .ok t := by
  unfold ioApicMMIOWriteHandler at h
  have hdistinct : ioApicSetIndex ≠ ioApicSetData := by decide
  split_ifs at h with hindex hdata hid hrest hpin
  · simp only [Except.ok.injEq] at h
    refine Or.inl ⟨_, h.symm, rfl, rfl, fun pin hw => ?_⟩
    exact hdistinct (hindex.symm.trans hw.1)
  · simp only [Except.ok.injEq] at h
    exact Or.inl ⟨_, h.symm, rfl, rfl, fun pin hw => hw.2.1 hid⟩
  · simp only [Except.ok.injEq] at h
    refine Or.inl ⟨s.ioApic, h.symm, rfl, rfl, fun pin hw => ?_⟩
    exact hrest.elim hw.2.2.1 hw.2.2.2.1
  · rw [not_or] at hrest
    exact Or.inr ⟨_, ⟨hdata, hid, hrest.1, hrest.2, rfl⟩, h⟩
  · simp only [Except.ok.injEq] at h
    refine Or.inl ⟨s.ioApic, h.symm, rfl, rfl, fun pin hw => ?_⟩
    exact hpin (hw.2.2.2.2 ▸ pin.isLt)
  · simp only [Except.ok.injEq] at h
    exact Or.inl ⟨s.ioApic, h.symm, rfl, rfl, fun pin hw => hdata hw.1⟩

/-! ## The scan -/

/-- One iteration of the loop of `IoApicService`. -/
def ioApicServicePin (s : State) (pin : Fin 24) : Outcome State :=
  if s.asserted pin then ioApicSetIntr pin s else .ok s

/-- The loop is a run of its iterations. -/
lemma ioApicServicePins_eq_run (pins : List (Fin 24)) (s : State) :
    ioApicServicePins pins s = run ioApicServicePin s pins := by
  induction pins generalizing s with
  | nil => rfl
  | cons pin pins ih =>
      unfold ioApicServicePins run ioApicServicePin State.asserted
      split_ifs
      · exact congrArg _ (funext ih)
      · exact ih s

/-- An iteration does nothing to a line that is not asserted. -/
lemma ioApicServicePin_cases {s t : State} {pin : Fin 24} (h : ioApicServicePin s pin = .ok t) :
    (s.asserted pin = false ∧ t = s) ∨ (s.asserted pin = true ∧ IoApicSent pin s t) := by
  unfold ioApicServicePin at h
  cases hirr : s.asserted pin with
  | false =>
      simp only [hirr, Bool.false_eq_true, if_false, Except.ok.injEq] at h
      exact Or.inl ⟨rfl, h.symm⟩
  | true =>
      simp only [hirr, if_true] at h
      exact Or.inr ⟨rfl, ioApicSent_of_ioApicSetIntr h⟩

end Svmm
