import Svmm.Properties.Apic.Effects

/-!
# What the APIC bus does with a delivery

A bus call either reaches the local APIC, is dropped with a success status, or reports
failure.  Which of the three depends on fields of the local APIC that no delivery changes,
so it can be read off before a scan of the I/O APIC starts.
-/

namespace Svmm

/-- The delivery modes that end in the `DELIVERY_MODE_FIXED` case: fixed, and lowest priority
with a physical destination. -/
def busFixed (destinationMode deliveryMode : BitVec 32) : Prop :=
  deliveryMode = deliveryModeFixed ∨
    destinationMode = destinationModePhysical ∧ deliveryMode = deliveryModeLowPri

/-- The bus hands the vector of such a delivery to `ApicSetIrq`. -/
def Lapic.hears (l : Lapic) (destination destinationMode deliveryMode : BitVec 32) : Prop :=
  l.msrEnable ≠ 0 ∧
    (busFixed destinationMode deliveryMode ∧
        (destinationMode = destinationModePhysical ∧ destination.toNat < numLocalApics ∨
          destinationMode ≠ destinationModePhysical ∧
            apicMatchLogicalAddress l destination ≠ 0) ∨
      ¬ busFixed destinationMode deliveryMode ∧ deliveryMode = deliveryModeLowPri ∧
        (l.focusDisable = 0 ∨
          apicMatchLogicalAddress l destination ≠ 0 ∧ l.taskPriority.toNat < 0x10))

instance (destinationMode deliveryMode : BitVec 32) :
    Decidable (busFixed destinationMode deliveryMode) :=
  inferInstanceAs (Decidable (_ ∨ _))

instance (l : Lapic) (destination destinationMode deliveryMode : BitVec 32) :
    Decidable (l.hears destination destinationMode deliveryMode) :=
  inferInstanceAs (Decidable (_ ∧ _))

/-- Two local APICs that agree on the addressing fields hear the same deliveries. -/
lemma Lapic.hears_congr {l m : Lapic} (hmsr : m.msrEnable = l.msrEnable)
    (hfocus : m.focusDisable = l.focusDisable) (htpr : m.taskPriority = l.taskPriority)
    (hlogical : m.destinationLogical = l.destinationLogical)
    (hformat : m.destinationFormat = l.destinationFormat)
    (destination destinationMode deliveryMode : BitVec 32) :
    m.hears destination destinationMode deliveryMode ↔
      l.hears destination destinationMode deliveryMode := by
  have hmatch : apicMatchLogicalAddress m destination = apicMatchLogicalAddress l destination := by
    simp only [apicMatchLogicalAddress, hlogical, hformat]
  simp only [Lapic.hears, hmsr, hfocus, htpr, hmatch]

lemma Lapic.hears_iff_of_busFixed {l : Lapic} {destination destinationMode deliveryMode : BitVec 32}
    (h : busFixed destinationMode deliveryMode) :
    l.hears destination destinationMode deliveryMode ↔
      l.msrEnable ≠ 0 ∧
        (destinationMode = destinationModePhysical ∧ destination.toNat < numLocalApics ∨
          destinationMode ≠ destinationModePhysical ∧
            apicMatchLogicalAddress l destination ≠ 0) := by
  unfold Lapic.hears
  refine and_congr_right fun _ => ⟨fun hh => ?_, fun hh => Or.inl ⟨h, hh⟩⟩
  rcases hh with ⟨-, hh⟩ | ⟨hnot, -⟩
  · exact hh
  · exact absurd h hnot

lemma Lapic.hears_iff_of_not_busFixed {l : Lapic}
    {destination destinationMode deliveryMode : BitVec 32}
    (h : ¬ busFixed destinationMode deliveryMode) :
    l.hears destination destinationMode deliveryMode ↔
      deliveryMode = deliveryModeLowPri ∧ l.msrEnable ≠ 0 ∧
        (l.focusDisable = 0 ∨
          apicMatchLogicalAddress l destination ≠ 0 ∧ l.taskPriority.toNat < 0x10) := by
  unfold Lapic.hears
  constructor
  · rintro ⟨hmsr, ⟨hfix, -⟩ | ⟨-, hlow, hh⟩⟩
    · exact absurd hfix h
    · exact ⟨hlow, hmsr, hh⟩
  · rintro ⟨hlow, hmsr, hh⟩
    exact ⟨hmsr, Or.inr ⟨h, hlow, hh⟩⟩

/-- The mode that the bus serves a fixed delivery in. -/
lemma busMode_of_busFixed {destinationMode deliveryMode : BitVec 32}
    (h : busFixed destinationMode deliveryMode) :
    (if destinationMode = destinationModePhysical ∧ deliveryMode = deliveryModeLowPri then
      deliveryModeFixed else deliveryMode) = deliveryModeFixed := by
  rcases h with h0 | h1
  · rw [h0, ite_self]
  · rw [if_pos h1]

lemma busMode_of_not_busFixed {destinationMode deliveryMode : BitVec 32}
    (h : ¬ busFixed destinationMode deliveryMode) :
    (if destinationMode = destinationModePhysical ∧ deliveryMode = deliveryModeLowPri then
      deliveryModeFixed else deliveryMode) = deliveryMode :=
  if_neg fun h1 => h (Or.inr h1)

section Deliver

variable {vector : BitVec 8} {destination destinationMode deliveryMode triggerMode : BitVec 32}
  {s t : State} {status : ℕ}

lemma apicBusDeliverFixed_eq (h : busFixed destinationMode deliveryMode) :
    apicBusDeliverFixed vector destination destinationMode triggerMode s =
      (0, if s.lapic.hears destination destinationMode deliveryMode then
        apicSetIrq vector triggerMode s else s) := by
  unfold apicBusDeliverFixed
  by_cases hh : s.lapic.hears destination destinationMode deliveryMode
  · obtain ⟨hmsr, ⟨hm, hd⟩ | ⟨hm, hd⟩⟩ := (Lapic.hears_iff_of_busFixed h).mp hh
    · rw [if_pos hm, if_pos ⟨hd, hmsr⟩, if_pos hh]
    · rw [if_neg hm, if_pos ⟨hmsr, hd⟩, if_pos hh]
  · have hnot := mt (Lapic.hears_iff_of_busFixed h).mpr hh
    by_cases hm : destinationMode = destinationModePhysical
    · rw [if_pos hm, if_neg fun hd => hnot ⟨hd.2, Or.inl ⟨hm, hd.1⟩⟩, if_neg hh]
    · rw [if_neg hm, if_neg fun hd => hnot ⟨hd.1, Or.inr ⟨hm, hd.2⟩⟩, if_neg hh]

lemma apicBusDeliverLowPriorityInterrupt_eq (h : ¬ busFixed destinationMode deliveryMode)
    (hlow : deliveryMode = deliveryModeLowPri) :
    apicBusDeliverLowPriorityInterrupt vector destination triggerMode s =
      if s.lapic.hears destination destinationMode deliveryMode then
        (0, apicSetIrq vector triggerMode s)
      else (1, s) := by
  unfold apicBusDeliverLowPriorityInterrupt
  have hiff : s.lapic.hears destination destinationMode deliveryMode ↔ _ :=
    Lapic.hears_iff_of_not_busFixed h
  by_cases hh : s.lapic.hears destination destinationMode deliveryMode
  · obtain ⟨-, hmsr, hcase⟩ := hiff.mp hh
    rw [if_pos hh]
    by_cases hfocus : s.lapic.focusDisable = 0
    · rw [if_pos ⟨hfocus, hmsr⟩]
    · rw [if_neg fun hf => hfocus hf.1, if_pos ⟨hmsr, hcase.resolve_left hfocus⟩]
  · have hnot := mt hiff.mpr hh
    rw [if_neg fun hf => hnot ⟨hlow, hf.2, Or.inl hf.1⟩,
      if_neg fun hl => hnot ⟨hlow, hl.1, Or.inr hl.2⟩, if_neg hh]

/-- The three outcomes of a bus call: the local APIC gets the vector, the call is dropped and
still reports success, or it reports failure. -/
lemma apicBusDeliverInterrupt_cases
    (h : apicBusDeliverInterrupt vector destination destinationMode deliveryMode triggerMode s =
      .ok (status, t)) :
    (s.lapic.hears destination destinationMode deliveryMode ∧ status = 0 ∧
        t = apicSetIrq vector triggerMode s) ∨
      (¬ s.lapic.hears destination destinationMode deliveryMode ∧
        busFixed destinationMode deliveryMode ∧ status = 0 ∧ t = s) ∨
      (¬ s.lapic.hears destination destinationMode deliveryMode ∧
        ¬ busFixed destinationMode deliveryMode ∧ status = 1 ∧
        (t = s ∨ ∃ call, t = (s.deviceIoControl call).2)) := by
  unfold apicBusDeliverInterrupt at h
  by_cases hfix : busFixed destinationMode deliveryMode
  · simp only [busMode_of_busFixed hfix, if_true, Except.ok.injEq, apicBusDeliverFixed_eq hfix,
      Prod.mk.injEq] at h
    by_cases hh : s.lapic.hears destination destinationMode deliveryMode
    · rw [if_pos hh] at h
      exact Or.inl ⟨hh, h.1.symm, h.2.symm⟩
    · rw [if_neg hh] at h
      exact Or.inr (Or.inl ⟨hh, hfix, h.1.symm, h.2.symm⟩)
  · simp only [busMode_of_not_busFixed hfix, if_neg fun h0 => hfix (Or.inl h0)] at h
    by_cases hlow : deliveryMode = deliveryModeLowPri
    · rw [if_pos hlow, apicBusDeliverLowPriorityInterrupt_eq hfix hlow] at h
      by_cases hh : s.lapic.hears destination destinationMode deliveryMode
      · simp only [if_pos hh, Except.ok.injEq, Prod.mk.injEq] at h
        exact Or.inl ⟨hh, h.1.symm, h.2.symm⟩
      · simp only [if_neg hh, Except.ok.injEq, Prod.mk.injEq] at h
        exact Or.inr (Or.inr ⟨hh, hfix, h.1.symm, Or.inl h.2.symm⟩)
    · have hdeaf : ¬ s.lapic.hears destination destinationMode deliveryMode := fun hh =>
        hlow ((Lapic.hears_iff_of_not_busFixed hfix).mp hh).1
      refine Or.inr (Or.inr ⟨hdeaf, hfix, ?_⟩)
      rw [if_neg hlow] at h
      split_ifs at h
      · simp only [Except.ok.injEq, apicBusDeliverIoctl, Prod.mk.injEq] at h
        exact ⟨h.1.symm, Or.inr ⟨_, h.2.symm⟩⟩
      · simp only [Except.ok.injEq, apicBusDeliverIoctl, Prod.mk.injEq] at h
        exact ⟨h.1.symm, Or.inr ⟨_, h.2.symm⟩⟩
      · simp only [Except.ok.injEq, Prod.mk.injEq] at h
        exact ⟨h.1.symm, Or.inl h.2.symm⟩

end Deliver

/-! ## The local vector table -/

/-- Whether the APIC is enabled by software, and the table that the disabling masks. -/
def Lapic.lvt (l : Lapic) : BitVec 8 × (Fin 7 → BitVec 32) :=
  (l.softwareEnable, l.localVectorTable)

lemma lvt_apicSetIrq {vector : BitVec 8} {level : BitVec 32} {s : State} :
    (apicSetIrq vector level s).lapic.lvt = s.lapic.lvt := by
  unfold apicSetIrq
  split_ifs
  · rfl
  · rfl
  · rw [lapic_apicService]
    rfl

lemma lvt_apicBusDeliverInterrupt {vector : BitVec 8}
    {destination destinationMode deliveryMode triggerMode : BitVec 32} {s t : State} {status : ℕ}
    (h : apicBusDeliverInterrupt vector destination destinationMode deliveryMode triggerMode s =
      .ok (status, t)) : t.lapic.lvt = s.lapic.lvt := by
  rcases apicBusDeliverInterrupt_cases h with ⟨-, -, rfl⟩ | ⟨-, -, -, rfl⟩ | ⟨-, -, -, hlast⟩
  · exact lvt_apicSetIrq
  · rfl
  · rcases hlast with rfl | ⟨call, rfl⟩
    · rfl
    · rfl

end Svmm
