import Svmm.Properties.IoApic.Effects
import Svmm.Properties.Pic.Effects
import Svmm.Construction.RunLoop

/-!
# What one component leaves alone in the others

The functions of the I/O APIC and of the two PICs call each other and the local APIC, but each
store they make is one of a few.  `IoApicClosed` and `PicClosed` list those stores; a relation
between states that is reflexive, transitive and respected by each of them holds between the
states before and after every entry point.  The frame facts of the fabric are instances.
-/

namespace Svmm

open TransitionRun

/-! ## The I/O APIC -/

/-- A relation that every store made by the I/O APIC respects. -/
structure IoApicClosed (R : State → State → Prop) : Prop where
  refl : ∀ s, R s s
  trans : ∀ {s t u}, R s t → R t u → R s u
  setIrq : ∀ vector level s, R s (apicSetIrq vector level s)
  deviceIoControl : ∀ call s, R s (s.deviceIoControl call).2
  setIoApic : ∀ a s, R s (s.setIoApic a)
  busCall : ∀ pin s, R s { s with busCalls := pin :: s.busCalls }

namespace IoApicClosed

variable {R : State → State → Prop} (hR : IoApicClosed R) {s t : State}

include hR

lemma sent {pin : Fin 24} (h : IoApicSent pin s t) : R s t := by
  cases h with
  | held hheld => exact hR.refl s
  | heard hheld hhears =>
      exact hR.trans (hR.busCall pin s) (hR.trans (hR.setIrq _ _ _) (hR.setIoApic _ _))
  | dropped hheld hdeaf hfixed =>
      exact hR.trans (hR.busCall pin s) (hR.setIoApic _ _)
  | refused hheld hdeaf hfixed hcall =>
      rcases hcall with rfl | ⟨call, rfl⟩
      · exact hR.trans (hR.busCall pin s) (hR.setIoApic _ _)
      · exact hR.trans (hR.busCall pin s) (hR.trans (hR.deviceIoControl call _) (hR.setIoApic _ _))

lemma servicePins {pins : List (Fin 24)} (h : ioApicServicePins pins s = .ok t) : R s t := by
  rw [ioApicServicePins_eq_run] at h
  induction pins generalizing s with
  | nil =>
      obtain rfl : s = t := by simpa using h
      exact hR.refl s
  | cons pin pins ih =>
      obtain ⟨u, hu, hrest⟩ := run_cons_ok.mp h
      refine hR.trans ?_ (ih hrest)
      rcases ioApicServicePin_cases hu with ⟨-, rfl⟩ | ⟨-, hsent⟩
      · exact hR.refl _
      · exact hR.sent hsent

lemma service (h : ioApicService s = .ok t) : R s t := hR.servicePins h

lemma raiseIrq {irqNumber : BitVec 8} (h : ioApicRaiseIrq irqNumber s = .ok t) : R s t := by
  rcases ioApicRaiseIrq_cases h with ⟨-, rfl⟩ | ⟨pin, -, -, -, rfl⟩ | ⟨pin, -, -, hservice⟩
  · exact hR.refl _
  · exact hR.refl _
  · exact hR.trans (hR.setIoApic _ s) (hR.service hservice)

lemma lowerIrq (irqNumber : BitVec 8) : R s (ioApicLowerIrq irqNumber s) := by
  rcases ioApicLowerIrq_cases irqNumber s with h | ⟨pin, -, -, h⟩
  · rw [h]
    exact hR.refl s
  · rw [h]
    exact hR.setIoApic _ s

lemma mmioWrite {address value : BitVec 32} (h : ioApicMMIOWriteHandler address value s = .ok t) :
    R s t := by
  rcases ioApicMMIOWriteHandler_cases h with ⟨a, rfl, -⟩ | ⟨pin, -, hservice⟩
  · exact hR.setIoApic a s
  · exact hR.trans (hR.setIoApic _ s) (hR.service hservice)

end IoApicClosed

/-! ## The PICs -/

/-- A relation that every store made by the PICs respects. -/
structure PicClosed (R : State → State → Prop) : Prop where
  refl : ∀ s, R s s
  trans : ∀ {s t u}, R s t → R t u → R s u
  setPic : ∀ i p s, R s (s.setPic i p)
  deviceIoControl : ∀ call s, R s (s.deviceIoControl call).2
  setEvent : ∀ s : State, R s (s.setEvent eventPendingIntr)
  clearEvent : ∀ s : State, R s (s.clearEvent eventPendingIntr)
  openWindow : ∀ s : State, R s (s.setWindow 1)

namespace PicClosed

variable {R : State → State → Prop} (hR : PicClosed R) {s t : State}

include hR

lemma serviceSpecialMask (i : Fin 2) (irqs : List ℕ) : R s (picServiceSpecialMask i irqs s) := by
  induction irqs generalizing s with
  | nil => exact hR.refl s
  | cons irq irqs ih =>
      unfold picServiceSpecialMask
      dsimp only
      split_ifs
      · exact ih
      · exact hR.trans (hR.setPic _ _ s) (hR.trans (hR.deviceIoControl _ _)
          (hR.trans (hR.setEvent _) ih))
      · exact hR.trans (hR.setPic _ _ s) (hR.deviceIoControl _ _)
      · exact ih

lemma served {raiseIrq2 : State → Outcome State} {i : Fin 2}
    (hraise : ∀ {u v}, raiseIrq2 u = .ok v → R u v) (h : PicServed raiseIrq2 i s t) : R s t := by
  cases h with
  | specialMask hmode => exact hR.serviceSpecialMask i _
  | unmoded hmode hnested => exact hR.refl s
  | idle hmode hnested hnext => exact hR.refl s
  | opened hmode hnested hnext hcascade =>
      exact hR.trans (hR.setPic _ _ s) (hR.trans (hR.openWindow _) (hR.setEvent _))
  | forwarded hmode hnested hnext hcascade hcall =>
      exact hR.trans (hR.setPic _ _ s) (hraise hcall)

lemma raiseCascade (h : picRaiseCascade s = .ok t) : R s t := by
  unfold picRaiseCascade at h
  split_ifs at h
  · obtain rfl : s = t := by simpa using h
    exact hR.refl s
  · refine hR.trans (hR.setPic _ _ s)
      (hR.served (fun {u v} huv => ?_) (picServed_of_picServiceWith h))
    obtain rfl : u = v := by simpa using huv
    exact hR.refl u

lemma service {i : Fin 2} (h : picService i s = .ok t) : R s t :=
  hR.served (fun huv => hR.raiseCascade huv) (picServed_of_picService h)

lemma raiseLine {irqNumber : BitVec 8} (h : picRaiseLine irqNumber s = .ok t) : R s t := by
  rw [picRaiseLine_eq] at h
  split_ifs at h
  · exact hR.trans (hR.setPic _ _ s) (hR.service h)
  · obtain rfl : s = t := by simpa using h
    exact hR.refl s

lemma lowerLine (irqNumber : BitVec 8) : R s (picLowerLine irqNumber s) := by
  rcases picLowerLine_cases irqNumber s with h | ⟨-, -, h⟩
  · rw [h]
    exact hR.refl s
  · rw [h]
    exact hR.setPic _ _ s

lemma iac {v : BitVec 8} (h : picIAC s = .ok (v, t)) : R s t := by
  rcases picIAC_cases h with ⟨-, -, hservice⟩ | ⟨-, -, u, hslave, hmaster⟩
  · exact hR.trans (hR.clearEvent s) (hR.trans (hR.setPic _ _ _) (hR.service hservice))
  · exact hR.trans (hR.clearEvent s) (hR.trans (hR.setPic _ _ _) (hR.trans (hR.setPic _ _ _)
      (hR.trans (hR.service hslave) (hR.service hmaster))))

lemma portIoWrite {address : BitVec 64} {value : BitVec 32}
    (h : picPortIoWriteHandler address value s = .ok t) : R s t := by
  rcases picPortIoWriteHandler_cases h with
    ⟨-, rfl⟩ | ⟨i, w, -, ⟨-, rfl⟩ | ⟨-, rfl⟩ | ⟨-, hservice⟩⟩
  · exact hR.refl _
  · exact hR.setPic _ _ s
  · exact hR.trans (hR.setPic _ _ s) (hR.clearEvent _)
  · exact hR.trans (hR.setPic _ _ s) (hR.service hservice)

end PicClosed

/-! ## The frames -/

/-- What the I/O APIC and the local APIC leave alone: the PICs and their event. -/
structure KeepsPic (s t : State) : Prop where
  pic : t.pic = s.pic
  pendingIntr : t.pendingIntr = s.pendingIntr

lemma ioApicClosed_keepsPic : IoApicClosed KeepsPic where
  refl _ := ⟨rfl, rfl⟩
  trans h h' := ⟨h'.pic.trans h.pic, h'.pendingIntr.trans h.pendingIntr⟩
  setIrq _ _ _ := ⟨pic_apicSetIrq _ _ _, pendingIntr_apicSetIrq _ _ _⟩
  deviceIoControl _ _ := ⟨rfl, rfl⟩
  setIoApic _ _ := ⟨rfl, rfl⟩
  busCall _ _ := ⟨rfl, rfl⟩

/-- What a delivery leaves alone in the local APIC: what decides who hears it and whether it
is above the process priority. -/
structure KeepsPriority (s t : State) : Prop where
  taskPriority : t.lapic.taskPriority = s.lapic.taskPriority
  interruptServiceRegister :
    t.lapic.interruptServiceRegister = s.lapic.interruptServiceRegister
  spuriousVector : t.lapic.spuriousVector = s.lapic.spuriousVector
  destinationLogical : t.lapic.destinationLogical = s.lapic.destinationLogical
  destinationFormat : t.lapic.destinationFormat = s.lapic.destinationFormat
  focusDisable : t.lapic.focusDisable = s.lapic.focusDisable
  msrEnable : t.lapic.msrEnable = s.lapic.msrEnable

lemma ioApicClosed_keepsPriority : IoApicClosed KeepsPriority where
  refl _ := ⟨rfl, rfl, rfl, rfl, rfl, rfl, rfl⟩
  trans h h' := ⟨h'.1.trans h.1, h'.2.trans h.2, h'.3.trans h.3, h'.4.trans h.4, h'.5.trans h.5,
    h'.6.trans h.6, h'.7.trans h.7⟩
  setIrq vector level s := by
    obtain ⟨h1, h2, h3, h4, h5, h6, h7⟩ := lapic_apicSetIrq_frame vector level s
    exact ⟨h1, h2, h3, h4, h5, h6, h7⟩
  deviceIoControl _ _ := ⟨rfl, rfl, rfl, rfl, rfl, rfl, rfl⟩
  setIoApic _ _ := ⟨rfl, rfl, rfl, rfl, rfl, rfl, rfl⟩
  busCall _ _ := ⟨rfl, rfl, rfl, rfl, rfl, rfl, rfl⟩

lemma KeepsPriority.heardBy_iff {s t : State} (h : KeepsPriority s t) (e : IoRedirectEntry) :
    e.heardBy t.lapic ↔ e.heardBy s.lapic :=
  Lapic.hears_congr h.msrEnable h.focusDisable h.taskPriority h.destinationLogical
    h.destinationFormat _ _ _

/-- What the PICs leave alone: both APICs, their event and the record of bus calls. -/
structure KeepsApics (s t : State) : Prop where
  lapic : t.lapic = s.lapic
  ioApic : t.ioApic = s.ioApic
  pendingLapicIntr : t.pendingLapicIntr = s.pendingLapicIntr
  busCalls : t.busCalls = s.busCalls

lemma picClosed_keepsApics : PicClosed KeepsApics where
  refl _ := ⟨rfl, rfl, rfl, rfl⟩
  trans h h' := ⟨h'.lapic.trans h.lapic, h'.ioApic.trans h.ioApic,
    h'.pendingLapicIntr.trans h.pendingLapicIntr, h'.busCalls.trans h.busCalls⟩
  setPic _ _ _ := ⟨rfl, rfl, rfl, rfl⟩
  deviceIoControl _ _ := ⟨rfl, rfl, rfl, rfl⟩
  setEvent _ := ⟨rfl, rfl, by simp [eventPendingIntr, eventPendingLapicIntr], rfl⟩
  clearEvent _ := ⟨rfl, rfl, by simp [eventPendingIntr, eventPendingLapicIntr], rfl⟩
  openWindow _ := ⟨rfl, rfl, rfl, rfl⟩

/-! ## The lines of both fabrics -/

section Lines

variable {irqNumber : BitVec 8} {s t : State}

/-- `PicRaiseIrq` raises the line in the I/O APIC, except line 2, and then in the PICs. -/
lemma exists_of_picRaiseIrq (h : picRaiseIrq irqNumber s = .ok t) :
    ∃ u, (irqNumber ≠ 2 ∧ ioApicRaiseIrq irqNumber s = .ok u ∨ irqNumber = 2 ∧ u = s) ∧
      picRaiseLine irqNumber u = .ok t := by
  unfold picRaiseIrq at h
  dsimp only at h
  split_ifs at h with hnum
  · obtain ⟨u, hu, hline⟩ := bind_eq_ok.mp h
    exact ⟨u, Or.inl ⟨hnum, hu⟩, hline⟩
  · obtain ⟨u, hu, hline⟩ := bind_eq_ok.mp h
    exact ⟨u, Or.inr ⟨by simpa using hnum, by simpa using hu.symm⟩, hline⟩

lemma IoApicClosed.forward {R : State → State → Prop} (hR : IoApicClosed R)
    (h : irqNumber ≠ 2 ∧ ioApicRaiseIrq irqNumber s = .ok t ∨ irqNumber = 2 ∧ t = s) : R s t := by
  rcases h with ⟨-, h⟩ | ⟨-, rfl⟩
  · exact hR.raiseIrq h
  · exact hR.refl _

/-- `PicLowerIrq` lowers the line in the I/O APIC, except line 2, and then in the PICs. -/
lemma exists_picLowerIrq (irqNumber : BitVec 8) (s : State) :
    ∃ u, (irqNumber ≠ 2 ∧ u = ioApicLowerIrq irqNumber s ∨ irqNumber = 2 ∧ u = s) ∧
      picLowerIrq irqNumber s = picLowerLine irqNumber u := by
  refine ⟨_, ?_, rfl⟩
  split_ifs with hnum
  · exact Or.inl ⟨hnum, rfl⟩
  · exact Or.inr ⟨by simpa using hnum, rfl⟩

lemma IoApicClosed.lowerForward {R : State → State → Prop} (hR : IoApicClosed R)
    (h : irqNumber ≠ 2 ∧ t = ioApicLowerIrq irqNumber s ∨ irqNumber = 2 ∧ t = s) : R s t := by
  rcases h with ⟨-, rfl⟩ | ⟨-, rfl⟩
  · exact hR.lowerIrq irqNumber
  · exact hR.refl _

end Lines

/-- The acknowledge the run loop and a direct call make. -/
lemma exists_of_step_acknowledge {s t : State}
    (h : step s .apicAcknowledgeInterrupt = .ok t) :
    ∃ v, apicAcknowledgeInterrupt s = .ok (v, t) := by
  simp only [step] at h
  cases hack : apicAcknowledgeInterrupt s with
  | error e =>
      rw [hack] at h
      cases h
  | ok r =>
      rw [hack] at h
      simp only [Except.map, Except.ok.injEq] at h
      exact ⟨r.1, by rw [← h]⟩

/-- A window exit acknowledges on the PICs, else on the local APIC, else does nothing. -/
lemma irqWindowOpen_cases {s t : State} (h : irqWindowOpen s = .ok t) :
    (s.pendingIntr = true ∧ ∃ v u, picIAC (s.setWindow 0) = .ok (v, u) ∧ t = svmmInterrupt v u) ∨
      (s.pendingIntr = false ∧ s.pendingLapicIntr = true ∧
        ∃ v u, apicAcknowledgeInterrupt (s.setWindow 0) = .ok (v, u) ∧ t = svmmInterrupt v u) ∨
      (s.pendingIntr = false ∧ s.pendingLapicIntr = false ∧ t = s.setWindow 0) := by
  unfold irqWindowOpen at h
  dsimp only at h
  split_ifs at h with hintr hlapic
  · obtain ⟨⟨v, u⟩, hiac, hu⟩ := bind_eq_ok.mp h
    simp only [Except.ok.injEq] at hu
    exact Or.inl ⟨hintr, v, u, hiac, hu.symm⟩
  · obtain ⟨⟨v, u⟩, hack, hu⟩ := bind_eq_ok.mp h
    simp only [Except.ok.injEq] at hu
    exact Or.inr (Or.inl ⟨by simpa using hintr, hlapic, v, u, hack, hu.symm⟩)
  · simp only [Except.ok.injEq] at h
    exact Or.inr (Or.inr ⟨by simpa using hintr, by simpa using hlapic, h.symm⟩)

/-! ## Set-up -/

/-- The writes ICW1 to ICW4 of one controller. -/
def picSetup (command data : BitVec 64) (offset icw3 icw4 : BitVec 32) : List Op :=
  [.picPortIoWrite command 0x11, .picPortIoWrite data offset, .picPortIoWrite data icw3,
    .picPortIoWrite data icw4]

/-- Both controllers cascaded on line 2, in fully nested mode. -/
def picsSetup : List Op :=
  picSetup 0x20 0x21 0x08 0x04 0x01 ++ picSetup 0xA0 0xA1 0x70 0x02 0x01

end Svmm
