import Svmm.Properties.Frames

/-!
# Whether a pending interrupt is offered to the virtual CPU

Each controller sets its event in `svmm_events` together with the window flag, and the run
loop clears the flag when the window opens.  `Offers` is the effect an operation may have on
these three signals without losing the flag of a pending event; every operation has it except
two.  The window exit serves one controller and forgets the other, and the special-mask branch
of `PicService` sets its event without the flag.
-/

namespace Svmm

open TransitionRun

/-- The flag is set while either event is. -/
def WindowRequested (s : State) : Prop :=
  s.pendingIntr = true ∨ s.pendingLapicIntr = true → s.requestInterruptWindow = 1

/-- From `s` to `t` the flag was set, or was left alone with no new event. -/
def Offers (s t : State) : Prop :=
  t.requestInterruptWindow = 1 ∨
    (t.requestInterruptWindow = s.requestInterruptWindow ∧
      (t.pendingIntr = true → s.pendingIntr = true) ∧
      (t.pendingLapicIntr = true → s.pendingLapicIntr = true))

namespace Offers

variable {s t u : State}

lemma refl (s : State) : Offers s s := Or.inr ⟨rfl, id, id⟩

lemma trans (h : Offers s t) (h' : Offers t u) : Offers s u := by
  rcases h' with hset | ⟨hwindow, hintr, hlapic⟩
  · exact Or.inl hset
  · rcases h with hset | ⟨hwindow', hintr', hlapic'⟩
    · exact Or.inl (hwindow.trans hset)
    · exact Or.inr ⟨hwindow.trans hwindow', fun h => hintr' (hintr h),
        fun h => hlapic' (hlapic h)⟩

lemma windowRequested (h : Offers s t) (hs : WindowRequested s) : WindowRequested t := by
  intro hpending
  rcases h with hset | ⟨hwindow, hintr, hlapic⟩
  · exact hset
  · rw [hwindow]
    exact hs (hpending.imp hintr hlapic)

end Offers

lemma offers_of_pendingIntr_eq {s t : State} (hintr : t.pendingIntr = s.pendingIntr)
    (h : t.requestInterruptWindow = s.requestInterruptWindow ∧
        t.pendingLapicIntr = s.pendingLapicIntr ∨
      t.requestInterruptWindow = 1 ∧ t.pendingLapicIntr = true) : Offers s t := by
  rcases h with ⟨hwindow, hlapic⟩ | ⟨hwindow, -⟩
  · exact Or.inr ⟨hwindow, fun h => hintr ▸ h, fun h => hlapic ▸ h⟩
  · exact Or.inl hwindow

/-! ## The local APIC and the I/O APIC -/

lemma offers_apicService (s : State) : Offers s (apicService s) :=
  offers_of_pendingIntr_eq (pendingIntr_apicService s) (window_apicService s)

lemma offers_apicSetIrq (vector : BitVec 8) (level : BitVec 32) (s : State) :
    Offers s (apicSetIrq vector level s) :=
  offers_of_pendingIntr_eq (pendingIntr_apicSetIrq vector level s)
    (window_apicSetIrq vector level s)

lemma offers_apicReceiveEOI (s : State) : Offers s (apicReceiveEOI s) :=
  offers_of_pendingIntr_eq (pendingIntr_apicReceiveEOI s) (window_apicReceiveEOI s)

lemma offers_apicWriteTaskPriority (value : BitVec 32) (s : State) :
    Offers s (apicWriteTaskPriority value s) := by
  rcases apicWriteTaskPriority_cases s value with ⟨-, h⟩ | ⟨-, -, h⟩ | ⟨-, -, h⟩
  · rw [h]
    exact Offers.refl s
  · rw [h]
    exact Or.inr ⟨rfl, id, id⟩
  · rw [h]
    exact Offers.trans (Or.inr ⟨rfl, id, id⟩) (offers_apicService _)

/-- An acknowledge takes the local APIC's event back, and sets it again only with the flag. -/
lemma offers_apicAcknowledgeInterrupt {s t : State} {v : BitVec 8}
    (h : apicAcknowledgeInterrupt s = .ok (v, t)) :
    Offers (s.clearEvent eventPendingLapicIntr) t := by
  rcases (apicAcknowledgeInterrupt_cases s h).2 with ⟨-, -, rfl⟩ | ⟨-, -, rfl⟩
  · exact Offers.refl _
  · exact Offers.trans (Or.inr ⟨rfl, id, id⟩) (offers_apicService s.acknowledged)

lemma ioApicClosed_offers : IoApicClosed Offers where
  refl := Offers.refl
  trans := Offers.trans
  setIrq := offers_apicSetIrq
  deviceIoControl _ _ := Or.inr ⟨rfl, id, id⟩
  setIoApic _ _ := Or.inr ⟨rfl, id, id⟩
  busCall _ _ := Or.inr ⟨rfl, id, id⟩

/-! ## The PICs -/

/-- The special-mask branch of `PicService` finds an irq to inject. -/
def Pic.injects (p : Pic) : Prop :=
  p.specialMask = true ∧
    ∃ irq < 8, p.masked irq = true ∧ p.inService irq = false ∧ p.requested irq = true

/-- The fully nested branch of `PicService` finds an irq and the controller is not the
master. -/
def Pic.forwards (p : Pic) : Prop :=
  p.specialMask = false ∧ p.fullyNested = true ∧ p.nextIrq.isSome = true ∧ p.cascade = false

/-- `PicService(&Pic[i])` injects an irq, or makes the master do so. -/
def State.injectsOn (s : State) (i : Fin 2) : Prop :=
  (s.pic i).injects ∨
    (s.pic i).forwards ∧ (s.pic 0).pin 2 = false ∧ ((s.pic 0).raiseLine 2).injects

instance (p : Pic) : Decidable p.injects := inferInstanceAs (Decidable (_ ∧ _))
instance (p : Pic) : Decidable p.forwards := inferInstanceAs (Decidable (_ ∧ _))
instance (s : State) (i : Fin 2) : Decidable (s.injectsOn i) :=
  inferInstanceAs (Decidable (_ ∨ _))

@[simp] lemma injects_latch (p : Pic) (irq : ℕ) : (p.latch irq).injects ↔ p.injects := Iff.rfl

lemma picServiceSpecialMask_of_quiet {i : Fin 2} {irqs : List ℕ} {s : State}
    (h : ∀ irq ∈ irqs, ¬ ((s.pic i).masked irq = true ∧ (s.pic i).inService irq = false ∧
      (s.pic i).requested irq = true)) :
    picServiceSpecialMask i irqs s = s := by
  induction irqs with
  | nil => rfl
  | cons irq irqs ih =>
      have hrest := ih fun irq' hmem => h irq' (List.mem_cons_of_mem irq hmem)
      have hhead := h irq List.mem_cons_self
      unfold picServiceSpecialMask
      dsimp only
      split_ifs with hmask hask
      · exact hrest
      · exact absurd ⟨by simpa using hmask, hask⟩ hhead
      · exact absurd ⟨by simpa using hmask, hask⟩ hhead
      · exact hrest

section Served

variable {raiseIrq2 : State → Outcome State} {i : Fin 2} {s t : State}

lemma picServiceSpecialMask_of_not_injects (hmode : (s.pic i).specialMask = true)
    (h : ¬ (s.pic i).injects) : picServiceSpecialMask i (List.range 8) s = s := by
  refine picServiceSpecialMask_of_quiet fun irq hirq hask => h ⟨hmode, irq, ?_, hask⟩
  exact List.mem_range.mp hirq

/-- Opening the window sets the flag, so only the raised line is left to argue about. -/
lemma offers_of_picServed (h : PicServed raiseIrq2 i s t) (hquiet : ¬ (s.pic i).injects)
    (hraise : ∀ irq, (s.pic i).forwards →
      raiseIrq2 (s.setPic i ((s.pic i).latch irq)) = .ok t → Offers s t) : Offers s t := by
  cases h with
  | specialMask hmode =>
      rw [picServiceSpecialMask_of_not_injects hmode hquiet]
      exact Offers.refl s
  | unmoded hmode hnested => exact Offers.refl s
  | idle hmode hnested hnext => exact Offers.refl s
  | opened hmode hnested hnext hcascade => exact Or.inl rfl
  | forwarded hmode hnested hnext hcascade hcall =>
      exact hraise _ ⟨hmode, hnested, by rw [hnext]; rfl, hcascade⟩ hcall

lemma offers_picService (h : picService i s = .ok t) (hquiet : ¬ s.injectsOn i) :
    Offers s t := by
  refine offers_of_picServed (picServed_of_picService h) (fun h => hquiet (Or.inl h))
    fun irq hforwards hcall => ?_
  set u := s.setPic i ((s.pic i).latch irq) with hu
  have hpic : u.pic 0 = s.pic 0 ∨ u.pic 0 = (s.pic 0).latch irq := by
    rw [hu, State.pic_setPic]
    split_ifs with hi
    · exact Or.inr (by rw [hi])
    · exact Or.inl rfl
  have hpin : (u.pic 0).pin 2 = (s.pic 0).pin 2 := by
    rcases hpic with h0 | h0
    · rw [h0]
    · rw [h0]
      rfl
  have hinjects : ((u.pic 0).raiseLine 2).injects ↔ ((s.pic 0).raiseLine 2).injects := by
    rcases hpic with h0 | h0
    · rw [h0]
    · rw [h0]
      rfl
  refine Offers.trans (t := u) (Or.inr ⟨rfl, id, id⟩) ?_
  unfold picRaiseCascade at hcall
  split_ifs at hcall with hset
  · obtain rfl : u = t := by simpa using hcall
    exact Offers.refl u
  · have hquiet' : ¬ ((u.pic 0).raiseLine 2).injects := fun hinj =>
      hquiet (Or.inr ⟨hforwards, by rw [← hpin]; simpa using hset, hinjects.mp hinj⟩)
    refine Offers.trans (t := u.setPic 0 ((u.pic 0).raiseLine 2)) (Or.inr ⟨rfl, id, id⟩) ?_
    refine offers_of_picServed (picServed_of_picServiceWith hcall)
      (by rwa [State.pic_setPic_self]) fun irq' _ hok => ?_
    simp only [Except.ok.injEq] at hok
    rw [← hok]
    exact Or.inr ⟨rfl, id, id⟩

/-- A service of the slave leaves a quiet master quiet. -/
lemma not_injectsOn_zero_of_picService (h : picService 1 s = .ok t) (hslave : ¬ s.injectsOn 1)
    (hmaster : ¬ (s.pic 0).injects) : ¬ t.injectsOn 0 := by
  have hzero : ∀ u : State, u.injectsOn 0 → (u.pic 0).injects := by
    rintro u (hinj | ⟨hforwards, -, hinj⟩)
    · exact hinj
    · have hmode : (u.pic 0).specialMask = true := hinj.1
      rw [hforwards.1] at hmode
      cases hmode
  refine fun hinj => ?_
  have hinj' := hzero t hinj
  cases picServed_of_picService h with
  | specialMask hmode =>
      rw [picServiceSpecialMask_of_not_injects hmode fun h => hslave (Or.inl h)] at hinj'
      exact hmaster hinj'
  | unmoded hmode hnested => exact hmaster hinj'
  | idle hmode hnested hnext => exact hmaster hinj'
  | opened hmode hnested hnext hcascade =>
      refine hmaster ?_
      simpa using hinj'
  | forwarded hmode hnested hnext hcascade hcall =>
      rename_i irq
      unfold picRaiseCascade at hcall
      rw [State.pic_setPic_one_zero] at hcall
      split_ifs at hcall with hset
      · simp only [Except.ok.injEq] at hcall
        rw [← hcall, State.pic_setPic_one_zero] at hinj'
        exact hmaster hinj'
      · have hraised : ¬ ((s.pic 0).raiseLine 2).injects := fun hinj =>
          hslave (Or.inr ⟨⟨hmode, hnested, by rw [hnext]; rfl, hcascade⟩, by simpa using
            hset, hinj⟩)
        refine hraised ?_
        cases picServed_of_picServiceWith hcall with
        | specialMask hmode' =>
            rwa [picServiceSpecialMask_of_not_injects hmode' (by rwa [State.pic_setPic_self]),
              State.pic_setPic_self] at hinj'
        | unmoded hmode' hnested' => rwa [State.pic_setPic_self] at hinj'
        | idle hmode' hnested' hnext' => rwa [State.pic_setPic_self] at hinj'
        | opened hmode' hnested' hnext' hcascade' =>
            simpa using hinj'
        | forwarded hmode' hnested' hnext' hcascade' hok =>
            simp only [Except.ok.injEq] at hok
            rw [← hok] at hinj'
            simpa using hinj'

end Served

/-! ## One step -/

section Step

variable {s t : State}

/-- `PicIAC` runs `PicService` on a controller that injects. -/
def State.iacInjects (s : State) : Prop :=
  if (s.pic 0).latchedIrq = 2 then
    s.slaveAcknowledged.injectsOn 1 ∨ (s.slaveAcknowledged.pic 0).injects
  else s.masterAcknowledged.injectsOn 0

instance (s : State) : Decidable s.iacInjects := inferInstanceAs (Decidable (ite _ _ _))

lemma offers_picIAC {v : BitVec 8} (h : picIAC s = .ok (v, t)) (hquiet : ¬ s.iacInjects) :
    Offers (s.clearEvent eventPendingIntr) t := by
  unfold State.iacInjects at hquiet
  rcases picIAC_cases h with ⟨hirq, -, hservice⟩ | ⟨hirq, -, u, hslave, hmaster⟩
  · rw [if_neg hirq] at hquiet
    exact Offers.trans (t := s.masterAcknowledged) (Or.inr ⟨rfl, id, id⟩)
      (offers_picService hservice hquiet)
  · rw [if_pos hirq, not_or] at hquiet
    refine Offers.trans (t := s.slaveAcknowledged) (Or.inr ⟨rfl, id, id⟩) ?_
    exact (offers_picService hslave hquiet.1).trans
      (offers_picService hmaster (not_injectsOn_zero_of_picService hslave hquiet.1 hquiet.2))

/-- The window exit keeps the flag when one event at most is set. -/
lemma windowRequested_irqWindowOpen (h : irqWindowOpen s = .ok t)
    (hone : ¬ (s.pendingIntr = true ∧ s.pendingLapicIntr = true))
    (hquiet : s.pendingIntr = true → ¬ (s.setWindow 0).iacInjects) : WindowRequested t := by
  rcases irqWindowOpen_cases h with
    ⟨hintr, v, u, hiac, rfl⟩ | ⟨hintr, hlapic, v, u, hack, rfl⟩ | ⟨hintr, hlapic, rfl⟩
  · have hlapic : s.pendingLapicIntr = false := by
      simpa using fun hl => hone ⟨hintr, hl⟩
    have hnone : WindowRequested ((s.setWindow 0).clearEvent eventPendingIntr) := by
      simp [WindowRequested, eventPendingIntr, eventPendingLapicIntr, hlapic]
    exact (offers_picIAC hiac (hquiet hintr)).windowRequested hnone
  · have hnone : WindowRequested ((s.setWindow 0).clearEvent eventPendingLapicIntr) := by
      simp [WindowRequested, eventPendingIntr, eventPendingLapicIntr, hintr]
    exact (offers_apicAcknowledgeInterrupt hack).windowRequested hnone
  · simp [WindowRequested, hintr, hlapic]

/-- A step on which nothing is lost.  A window exit finds one controller pending at most, and
no `PicService` of the step runs in special-mask mode with an irq to inject. -/
def WindowStep (s : State) : Op → Prop
  | .picRaiseIrq irqNumber =>
      s.raises irqNumber → ¬ (s.raised irqNumber).injectsOn (picOf irqNumber)
  | .picPortIoWrite address value =>
      ∀ w ∈ picWritten address value s, w.2.2 = .service → ¬ (s.setPic w.1 w.2.1).injectsOn w.1
  | .irqWindowOpen =>
      ¬ (s.pendingIntr = true ∧ s.pendingLapicIntr = true) ∧
        (s.pendingIntr = true → ¬ (s.setWindow 0).iacInjects)
  | _ => True

instance (s : State) : ∀ op, Decidable (WindowStep s op)
  | .picRaiseIrq _ => inferInstanceAs (Decidable (_ → _))
  | .picPortIoWrite address value =>
      inferInstanceAs (Decidable (∀ w ∈ picWritten address value s,
        w.2.2 = .service → ¬ (s.setPic w.1 w.2.1).injectsOn w.1))
  | .irqWindowOpen => inferInstanceAs (Decidable (_ ∧ _))
  | .picLowerIrq _ | .ioApicRaiseIrq _ | .ioApicLowerIrq _ | .ioApicMMIOWrite _ _
  | .apicSetIrq _ _ | .apicWriteTaskPriority _ | .apicWriteSpuriousInterrupt _
  | .apicReceiveEOI | .apicAcknowledgeInterrupt => isTrue trivial

lemma injectsOn_congr {i : Fin 2} (h : t.pic = s.pic) : t.injectsOn i ↔ s.injectsOn i := by
  simp only [State.injectsOn, h]

lemma windowRequested_step {op : Op} (hs : WindowRequested s) (hop : WindowStep s op)
    (h : step s op = .ok t) : WindowRequested t := by
  cases op with
  | picRaiseIrq irqNumber =>
      obtain ⟨u, hu, hline⟩ := exists_of_picRaiseIrq h
      have hpic : u.pic = s.pic := (ioApicClosed_keepsPic.forward hu).pic
      have hu' := (ioApicClosed_offers.forward hu).windowRequested hs
      rw [picRaiseLine_eq] at hline
      split_ifs at hline with hraises
      · have hquiet : ¬ (u.raised irqNumber).injectsOn (picOf irqNumber) := by
          rw [injectsOn_congr (s := s.raised irqNumber)]
          · exact hop (by simpa only [State.raises, hpic] using hraises)
          · simp only [State.raised, State.setPic, hpic]
        refine ((?_ : Offers u (u.raised irqNumber)).trans
          (offers_picService hline hquiet)).windowRequested hu'
        exact Or.inr ⟨rfl, id, id⟩
      · simp only [Except.ok.injEq] at hline
        rwa [← hline]
  | picLowerIrq irqNumber =>
      simp only [step, Except.ok.injEq] at h
      obtain ⟨u, hu, hline⟩ := exists_picLowerIrq irqNumber s
      rw [← h, hline]
      refine ((ioApicClosed_offers.lowerForward hu).trans ?_).windowRequested hs
      rcases picLowerLine_cases irqNumber u with hline | ⟨-, -, hline⟩
      · rw [hline]
        exact Offers.refl _
      · rw [hline]
        exact Or.inr ⟨rfl, id, id⟩
  | picPortIoWrite address value =>
      rcases picPortIoWriteHandler_cases h with
        ⟨-, rfl⟩ | ⟨i, w, hw, ⟨-, rfl⟩ | ⟨-, rfl⟩ | ⟨heffect, hservice⟩⟩
      · exact hs
      · exact hs
      · refine Offers.windowRequested (s := s) (Or.inr ⟨rfl, fun hp => ?_, fun hp => ?_⟩) hs
        · simp at hp
        · simpa [eventPendingIntr, eventPendingLapicIntr] using hp
      · refine ((?_ : Offers s (s.setPic i w.1)).trans
          (offers_picService hservice (hop (i, w) hw heffect))).windowRequested hs
        exact Or.inr ⟨rfl, id, id⟩
  | ioApicRaiseIrq irqNumber => exact (ioApicClosed_offers.raiseIrq h).windowRequested hs
  | ioApicLowerIrq irqNumber =>
      simp only [step, Except.ok.injEq] at h
      exact h ▸ (ioApicClosed_offers.lowerIrq irqNumber).windowRequested hs
  | ioApicMMIOWrite address value => exact (ioApicClosed_offers.mmioWrite h).windowRequested hs
  | apicSetIrq vector level =>
      simp only [step, Except.ok.injEq] at h
      exact h ▸ (offers_apicSetIrq vector level s).windowRequested hs
  | apicWriteTaskPriority value =>
      simp only [step, Except.ok.injEq] at h
      exact h ▸ (offers_apicWriteTaskPriority value s).windowRequested hs
  | apicWriteSpuriousInterrupt value =>
      simp only [step, Except.ok.injEq] at h
      exact h ▸ hs
  | apicReceiveEOI =>
      simp only [step, Except.ok.injEq] at h
      exact h ▸ (offers_apicReceiveEOI s).windowRequested hs
  | apicAcknowledgeInterrupt =>
      obtain ⟨v, hack⟩ := exists_of_step_acknowledge h
      refine (offers_apicAcknowledgeInterrupt hack).windowRequested ?_
      refine Offers.windowRequested (s := s) (Or.inr ⟨rfl, fun hp => ?_, fun hp => ?_⟩) hs
      · simpa [eventPendingIntr, eventPendingLapicIntr] using hp
      · simp at hp
  | irqWindowOpen => exact windowRequested_irqWindowOpen h hop.1 hop.2

end Step

/-- **No lost interrupt window**, on runs that keep off the two paths that lose it.  In every
state such a run reaches from power-on, the flag is set while an event is. -/
theorem interrupt_window_requested (gvm : List Ioctl → Ioctl → Bool) (ops : List Op)
    (hops : Meets step WindowStep (State.initial gvm) ops) :
    ∀ t, run step (State.initial gvm) ops = .ok t → WindowRequested t := by
  intro t hrun
  refine run_invariant (P := WindowStep) (fun s op t => windowRequested_step) ?_ hops hrun
  rintro (hp | hp) <;> simp [State.initial, State.pendingIntr, State.pendingLapicIntr] at hp

/-- A PIC interrupt and a local APIC interrupt, each offered and taken before the next. -/
theorem interrupt_window_requested_alternating :
    ∃ t, run step (State.initial fun _ _ => true)
        (picsSetup ++ [.picRaiseIrq 3, .irqWindowOpen, .apicSetIrq 0x31 0]) = .ok t ∧
      WindowRequested t :=
  exists_of_completes (by decide) (interrupt_window_requested _ _ (by decide))

instance (s : State) : Decidable (WindowRequested s) := inferInstanceAs (Decidable (_ → _))

/-- With both controllers pending, the window exit serves the PIC and leaves the local APIC's
event behind a cleared flag. -/
theorem interrupt_window_lost :
    ∃ t, run step (State.initial fun _ _ => true)
        (picsSetup ++ [.apicSetIrq 0x31 0, .picRaiseIrq 3, .irqWindowOpen]) = .ok t ∧
      ¬ WindowRequested t :=
  exists_of_ends (fun t => ¬ WindowRequested t) (by decide)

end Svmm
