import Svmm.Construction.PciConfig
import Svmm.Construction.PciIrq
import Svmm.Properties.Frames
import Svmm.Properties.Pic.Lines

/-!
# Shared interrupt lines

A line that several functions share is to be asserted as long as one of them asserts it.
`PciSetIrq` keeps no account of who does: it takes the line from the configuration space of the
function, where only the ISA bridge has the route, and a lower clears the line for everybody, or,
for a line of the slave, for nobody.  A run keeps the lines right exactly when each step avoids
these differences.
-/

namespace Svmm

open TransitionRun

/-! ## Statements -/

/-- A call of `PciSetIrq`. -/
structure PciIrqCall where
  fn : PciFunction
  irqNumber : BitVec 8
  raise : BitVec 8

/-- The interrupt controllers, and the pins of functions with a raise that has not been taken
back. -/
structure PciIrqSystem where
  fabric : State
  outstanding : List (PciFunction × BitVec 8)

/-- A call, and what is outstanding after it. -/
def pciIrqStep (bus : PciBus) (s : PciIrqSystem) (c : PciIrqCall) : Outcome PciIrqSystem :=
  (pciSetIrq bus c.fn c.irqNumber c.raise s.fabric).map fun t =>
    { fabric := t
      outstanding := if c.raise ≠ 0 then (c.fn, c.irqNumber) :: s.outstanding
        else s.outstanding.filter fun p => p ≠ (c.fn, c.irqNumber) }

/-- The line of the PICs is asserted. -/
def State.lineAsserted (s : State) (irq : BitVec 8) : Prop :=
  (s.pic (picOf irq)).pin (irq.toNat % 8) = true

instance (s : State) (irq : BitVec 8) : Decidable (s.lineAsserted irq) :=
  inferInstanceAs (Decidable (_ = _))

section

variable (bus : PciBus)

/-- The route that the ISA bridge has for a pin. -/
def bridgeRoute (p : PciFunction × BitVec 8) : BitVec 8 :=
  pirqRoute bus piix3Function (pirqInput p.1 p.2)

/-- A line that the bridge routes an input to. -/
def RoutedLine (irq : BitVec 8) : Prop :=
  pciIrqLine irq ∧ ∃ k < 4, (bus.device piix3Function).conf (0x60 + k) = irq

/-- A pin that is routed to the line has an outstanding raise. -/
def Held (outstanding : List (PciFunction × BitVec 8)) (irq : BitVec 8) : Prop :=
  ∃ p ∈ outstanding, bridgeRoute bus p = irq

instance (irq : BitVec 8) : Decidable (RoutedLine bus irq) := inferInstanceAs (Decidable (_ ∧ _))

instance (outstanding : List (PciFunction × BitVec 8)) (irq : BitVec 8) :
    Decidable (Held bus outstanding irq) := inferInstanceAs (Decidable (∃ p ∈ outstanding, _))

/-- Every line that an input is routed to is asserted exactly while a raise on it is outstanding. -/
def WiredOr (s : PciIrqSystem) : Prop :=
  ∀ irq, RoutedLine bus irq → (s.fabric.lineAsserted irq ↔ Held bus s.outstanding irq)

/-- The byte of the function's own configuration space. -/
def PciIrqCall.ownRoute (c : PciIrqCall) : BitVec 8 :=
  pirqRoute bus c.fn (pirqInput c.fn c.irqNumber)

/-- A raise goes to the line that the bridge has for the pin, or makes no difference: what is raised
instead, and what is not raised, is held by another pin. -/
def RaisesItsLine (s : PciIrqSystem) (c : PciIrqCall) : Prop :=
  let own := c.ownRoute bus
  let line := bridgeRoute bus (c.fn, c.irqNumber)
  (RoutedLine bus own → own = line ∨ Held bus s.outstanding own) ∧
    (pciIrqLine line → own = line ∨ Held bus s.outstanding line)

/-- A lower does not take the line that it clears from another pin, and if it is the last one of its
line, the line is the one that it clears, and one of the master. -/
def LowersItsLine (s : PciIrqSystem) (c : PciIrqCall) : Prop :=
  let own := c.ownRoute bus
  let line := bridgeRoute bus (c.fn, c.irqNumber)
  let others := s.outstanding.filter fun p => p ≠ (c.fn, c.irqNumber)
  (RoutedLine bus own → own.toNat ≤ 7 → ¬ Held bus others own) ∧
    (pciIrqLine line → Held bus s.outstanding line → ¬ Held bus others line →
      own = line ∧ line.toNat ≤ 7)

/-- What a call has to meet. -/
def SharesLine (s : PciIrqSystem) (c : PciIrqCall) : Prop :=
  if c.raise ≠ 0 then RaisesItsLine bus s c else LowersItsLine bus s c

instance (s : PciIrqSystem) (c : PciIrqCall) : Decidable (RaisesItsLine bus s c) :=
  inferInstanceAs (Decidable (_ ∧ _))

instance (s : PciIrqSystem) (c : PciIrqCall) : Decidable (LowersItsLine bus s c) :=
  inferInstanceAs (Decidable (_ ∧ _))

instance (s : PciIrqSystem) (c : PciIrqCall) : Decidable (SharesLine bus s c) :=
  inferInstanceAs
    (Decidable (if c.raise ≠ 0 then RaisesItsLine bus s c else LowersItsLine bus s c))

end

/-! ## What happens to the lines -/

/-- Every line but the one between the two controllers is as it was. -/
def KeepsLines (s t : State) : Prop :=
  ∀ (j : Fin 2) (k : ℕ), k < 8 → ¬ (j = 0 ∧ k = 2) → (t.pic j).pin k = (s.pic j).pin k

section Lines

variable {s t u : State} {irqNumber irq : BitVec 8}

lemma KeepsLines.trans (h : KeepsLines s t) (h' : KeepsLines t u) : KeepsLines s u :=
  fun j k hk hline => (h' j k hk hline).trans (h j k hk hline)

lemma KeepsLines.of_pic (h : t.pic = s.pic) : KeepsLines s t := by
  intro j k _ _
  rw [h]

lemma keepsLines_latch (i : Fin 2) (irq : ℕ) :
    KeepsLines s (s.setPic i ((s.pic i).latch irq)) := by
  intro j k _ _
  by_cases hj : j = i
  · subst hj
    simp [State.setPic, Pic.latch, Pic.pin]
  · simp [State.setPic, hj]

lemma picServiceClosed_keepsLines : PicServiceClosed KeepsLines where
  trans := KeepsLines.trans
  latch i irq _ := keepsLines_latch i irq
  raiseTwo s j k hk hline := by
    by_cases hj : j = 0
    · subst hj
      have hne : ¬ 2 = k := fun heq => hline ⟨rfl, heq.symm⟩
      rw [State.pic_setPic_self, Pic.pin_raiseLine (by omega) hk, decide_eq_false hne,
        Bool.or_false]
    · simp [State.setPic, hj]
  of_pic := KeepsLines.of_pic

/-- The line between the controllers is none of those that inputs go to. -/
lemma pciIrqLine.ne_two (h : pciIrqLine irq) : ¬ (picOf irq = 0 ∧ irq.toNat % 8 = 2) := by
  rintro ⟨hpic, hmod⟩
  have hle : irq.toNat ≤ 7 := by
    by_contra hlt
    rw [picOf, if_pos (by omega)] at hpic
    cases hpic
  have htwo : irq.toNat = 2 := by omega
  have hbit := h.2
  rw [htwo] at hbit
  exact absurd hbit (by decide)

lemma picOf_eq_iff (h : irq.toNat < 16) (h' : irqNumber.toNat < 16) :
    picOf irq = picOf irqNumber ∧ irqNumber.toNat % 8 = irq.toNat % 8 ↔ irq = irqNumber := by
  constructor
  · rintro ⟨hpic, hmod⟩
    apply BitVec.eq_of_toNat_eq
    unfold picOf at hpic
    split_ifs at hpic with h1 h2 h2
    · omega
    · cases hpic
    · cases hpic
    · omega
  · rintro rfl
    exact ⟨rfl, rfl⟩

/-- A raise asserts its line, and no other one that inputs go to. -/
lemma lineAsserted_raise (h : picRaiseIrq irqNumber s = .ok t) (hnumber : pciIrqLine irqNumber)
    (hirq : pciIrqLine irq) : t.lineAsserted irq ↔ irq = irqNumber ∨ s.lineAsserted irq := by
  obtain ⟨u, hforward, hraise⟩ := exists_of_picRaiseIrq h
  have hpic : u.pic = s.pic := (ioApicClosed_keepsPic.forward hforward).pic
  rw [picRaiseLine_eq] at hraise
  unfold State.lineAsserted
  rw [← hpic]
  by_cases hraises : u.raises irqNumber
  · rw [if_pos hraises] at hraise
    rw [picServiceClosed_keepsLines.service hraise _ _ (Nat.mod_lt _ (by decide)) hirq.ne_two,
      State.raised, State.pic_setPic, ← picOf_eq_iff hirq.1 hnumber.1]
    by_cases hsame : picOf irq = picOf irqNumber
    · rw [if_pos hsame, Pic.pin_raiseLine (Nat.mod_lt _ (by decide)) (Nat.mod_lt _ (by decide)),
        Bool.or_eq_true, decide_eq_true_iff, or_comm, hsame]
      simp only [true_and]
    · rw [if_neg hsame]
      simp only [hsame, false_and, false_or]
  · rw [if_neg hraises] at hraise
    obtain rfl := Except.ok.inj hraise
    constructor
    · exact Or.inr
    · rintro (rfl | hpin)
      · by_contra hpin
        exact hraises ⟨Nat.le_of_lt_succ hirq.1, Bool.eq_false_iff.mpr hpin⟩
      · exact hpin

/-- A lower clears its line when the line is one of the master, and does nothing else. -/
lemma lineAsserted_lower (hirq : pciIrqLine irq) : (picLowerIrq irqNumber s).lineAsserted irq ↔
    s.lineAsserted irq ∧ ¬ (irq = irqNumber ∧ irqNumber.toNat ≤ 7) := by
  obtain ⟨u, hforward, hlower⟩ := exists_picLowerIrq irqNumber s
  have hpic : u.pic = s.pic := (ioApicClosed_keepsPic.lowerForward hforward).pic
  unfold State.lineAsserted
  rw [hlower, ← hpic]
  unfold picLowerLine
  by_cases hkept : 7 < irqNumber.toNat ∨ (u.pic (picOf irqNumber)).pin (irqNumber.toNat % 8) = false
  · rw [if_pos hkept]
    refine (and_iff_left_of_imp fun hpin => ?_).symm
    rintro ⟨rfl, hle⟩
    rcases hkept with hlt | hfalse
    · omega
    · rw [hfalse] at hpin
      cases hpin
  · rw [if_neg hkept, State.pic_setPic]
    have hle : irqNumber.toNat ≤ 7 := Nat.le_of_not_lt fun hlt => hkept (Or.inl hlt)
    have hiff : picOf irq = picOf irqNumber ∧ irqNumber.toNat % 8 = irq.toNat % 8 ↔
        irq = irqNumber := picOf_eq_iff hirq.1 (by omega)
    rw [← hiff]
    by_cases hsame : picOf irq = picOf irqNumber
    · rw [if_pos hsame, Pic.pin_lowerLine (Nat.mod_lt _ (by decide)) (Nat.mod_lt _ (by decide)),
        hsame]
      simp [hle]
    · rw [if_neg hsame]
      simp [hsame]

end Lines

/-! ## One call -/

section Call

variable {bus : PciBus} {s t : PciIrqSystem} {c : PciIrqCall} {irq : BitVec 8}

/-- What a call does to the lines that inputs go to. -/
lemma pciIrqStep_asserted (h : pciIrqStep bus s c = .ok t) (hirq : pciIrqLine irq) :
    (t.fabric.lineAsserted irq ↔
      if c.raise ≠ 0 then irq = c.ownRoute bus ∨ s.fabric.lineAsserted irq
      else s.fabric.lineAsserted irq ∧ ¬ (irq = c.ownRoute bus ∧ (c.ownRoute bus).toNat ≤ 7)) ∧
    t.outstanding = if c.raise ≠ 0 then (c.fn, c.irqNumber) :: s.outstanding
      else s.outstanding.filter fun p => p ≠ (c.fn, c.irqNumber) := by
  rw [pciIrqStep] at h
  cases hset : pciSetIrq bus c.fn c.irqNumber c.raise s.fabric with
  | error e =>
      rw [hset] at h
      cases h
  | ok u =>
      rw [hset] at h
      obtain rfl : _ = t := Except.ok.inj h
      refine ⟨?_, rfl⟩
      unfold pciSetIrq at hset
      obtain ⟨v, hv, hset⟩ := bind_eq_ok.mp hset
      have hpic : v.pic = s.fabric.pic := by
        split_ifs at hv
        · exact (ioApicClosed_keepsPic.raiseIrq hv).pic
        · obtain rfl := Except.ok.inj hv
          exact (ioApicClosed_keepsPic.lowerIrq _).pic
      have hv : v.lineAsserted irq ↔ s.fabric.lineAsserted irq := by
        unfold State.lineAsserted
        rw [hpic]
      have hown : pirqRoute bus c.fn (pirqInput c.fn c.irqNumber) = c.ownRoute bus := rfl
      simp only [hown] at hset
      by_cases hline : pciIrqLine (c.ownRoute bus)
      · rw [if_pos hline] at hset
        by_cases hraise : c.raise ≠ 0
        · rw [if_pos hraise] at hset
          refine Iff.trans ?_ (iff_of_eq (if_pos hraise).symm)
          rw [← hv]
          exact lineAsserted_raise hset hline hirq
        · rw [if_neg hraise] at hset
          obtain rfl := Except.ok.inj hset
          refine Iff.trans ?_ (iff_of_eq (if_neg hraise).symm)
          rw [← hv]
          exact lineAsserted_lower hirq
      · rw [if_neg hline] at hset
        obtain rfl := Except.ok.inj hset
        have hne : irq ≠ c.ownRoute bus := fun heq => hline (heq ▸ hirq)
        simp [hne, hv]

lemma held_cons (p : PciFunction × BitVec 8) (outstanding : List (PciFunction × BitVec 8)) :
    Held bus (p :: outstanding) irq ↔ bridgeRoute bus p = irq ∨ Held bus outstanding irq := by
  simp [Held]

/-- Without one pin, only the line of that pin may be held no longer. -/
lemma held_filter (p : PciFunction × BitVec 8) (outstanding : List (PciFunction × BitVec 8)) :
    Held bus outstanding irq ↔ Held bus (outstanding.filter fun q => q ≠ p) irq ∨
      (p ∈ outstanding ∧ bridgeRoute bus p = irq) := by
  unfold Held
  constructor
  · rintro ⟨q, hq, hroute⟩
    by_cases hqp : q = p
    · subst hqp
      exact Or.inr ⟨hq, hroute⟩
    · exact Or.inl ⟨q, List.mem_filter.mpr ⟨hq, by simpa using hqp⟩, hroute⟩
  · rintro (⟨q, hq, hroute⟩ | ⟨hp, hroute⟩)
    · exact ⟨q, (List.mem_filter.mp hq).1, hroute⟩
    · exact ⟨p, hp, hroute⟩

lemma routedLine_bridgeRoute (p : PciFunction × BitVec 8) (h : pciIrqLine (bridgeRoute bus p)) :
    RoutedLine bus (bridgeRoute bus p) := by
  refine ⟨h, (pirqInput p.1 p.2).toNat, ?_, rfl⟩
  rw [pirqInput, BitVec.toNat_setWidth, BitVec.toNat_and]
  have hle : ((p.1.2.setWidth 32 >>> 3) + p.2.setWidth 32 - 2 : BitVec 32).toNat &&& 3 ≤ 3 :=
    Nat.and_le_right
  have hthree : (3 : BitVec 32).toNat = 3 := rfl
  rw [hthree]
  omega

/-- A call keeps the lines right exactly when it shares its line. -/
lemma wiredOr_step_iff (hs : WiredOr bus s) (h : pciIrqStep bus s c = .ok t) :
    WiredOr bus t ↔ SharesLine bus s c := by
  have hasserted : ∀ irq, RoutedLine bus irq → (t.fabric.lineAsserted irq ↔
      if c.raise ≠ 0 then irq = c.ownRoute bus ∨ Held bus s.outstanding irq
      else Held bus s.outstanding irq ∧ ¬ (irq = c.ownRoute bus ∧ (c.ownRoute bus).toNat ≤ 7)) := by
    intro irq hirq
    rw [(pciIrqStep_asserted h hirq.1).1, hs irq hirq]
  have hline : pciIrqLine (bridgeRoute bus (c.fn, c.irqNumber)) →
      RoutedLine bus (bridgeRoute bus (c.fn, c.irqNumber)) := routedLine_bridgeRoute _
  unfold WiredOr SharesLine
  rw [(pciIrqStep_asserted h (show pciIrqLine 3 by decide)).2]
  by_cases hraise : c.raise ≠ 0
  · simp only [if_pos hraise] at hasserted ⊢
    constructor
    · intro hwired
      refine ⟨fun hown => ?_, fun hbridge => ?_⟩
      · have hiff := (hasserted _ hown).symm.trans (hwired _ hown)
        rw [held_cons] at hiff
        exact (hiff.mp (Or.inl rfl)).imp_left Eq.symm
      · have hiff := (hasserted _ (hline hbridge)).symm.trans (hwired _ (hline hbridge))
        rw [held_cons] at hiff
        exact (hiff.mpr (Or.inl rfl)).imp_left Eq.symm
    · rintro ⟨hown, hbridge⟩ irq hirq
      rw [hasserted irq hirq, held_cons]
      constructor
      · rintro (rfl | hheld)
        · exact (hown hirq).imp_left Eq.symm
        · exact Or.inr hheld
      · rintro (rfl | hheld)
        · exact (hbridge hirq.1).imp_left Eq.symm
        · exact Or.inr hheld
  · simp only [if_neg hraise] at hasserted ⊢
    have hfilter : ∀ irq, Held bus s.outstanding irq ↔ _ :=
      fun irq => held_filter (c.fn, c.irqNumber) s.outstanding
    constructor
    · intro hwired
      refine ⟨fun hown hle hheld => ?_, fun hbridge hheld hothers => ?_⟩
      · have hiff := (hasserted _ hown).symm.trans (hwired _ hown)
        exact (hiff.mpr hheld).2 ⟨rfl, hle⟩
      · have hiff := (hasserted _ (hline hbridge)).symm.trans (hwired _ (hline hbridge))
        by_contra hne
        refine hothers (hiff.mp ⟨hheld, ?_⟩)
        rintro ⟨heq, hle⟩
        exact hne ⟨heq.symm, heq ▸ hle⟩
    · rintro ⟨hown, hbridge⟩ irq hirq
      rw [hasserted irq hirq]
      constructor
      · rintro ⟨hheld, hnot⟩
        by_contra hothers
        rcases (hfilter irq).mp hheld with hother | ⟨-, rfl⟩
        · exact hothers hother
        · obtain ⟨heq, hle⟩ := hbridge hirq.1 hheld hothers
          exact hnot ⟨heq.symm, heq ▸ hle⟩
      · intro hothers
        refine ⟨(hfilter irq).mpr (Or.inl hothers), ?_⟩
        rintro ⟨rfl, hle⟩
        exact hown hirq hle hothers

end Call

/-! ## Every run -/

/-- After every call of a run that went through, the lines are right, exactly when every call shares
its line. -/
theorem pci_lines_wired_or_iff {bus : PciBus} {s t : PciIrqSystem} {calls : List PciIrqCall}
    (hs : WiredOr bus s) (hrun : run (pciIrqStep bus) s calls = .ok t) :
    Meets (pciIrqStep bus) (fun s c => ∀ t, pciIrqStep bus s c = .ok t → WiredOr bus t) s calls ↔
      Meets (pciIrqStep bus) (SharesLine bus) s calls :=
  Meets.iff_of_exact (fun _ _ _ hs hstep => wiredOr_step_iff hs hstep) hs hrun

/-- Nothing is asserted, and nothing outstanding, to begin with. -/
lemma wiredOr_initial (bus : PciBus) (gvm : List Ioctl → Ioctl → Bool) :
    WiredOr bus ⟨State.initial gvm, []⟩ := by
  intro irq _
  have hpin : ∀ i : Fin 2, ((State.initial gvm).pic i).interruptPin = 0#8 := by
    intro i
    match i with
    | 0 => rfl
    | 1 => rfl
  refine iff_of_false (fun h => ?_) fun h => ?_
  · rw [State.lineAsserted, Pic.pin, hpin, Word.has_zero] at h
    cases h
  · obtain ⟨p, hp, -⟩ := h
    cases hp

/-- Power management beside the ISA bridge, with the first input routed. -/
def pciRouted (writes : List (PciFunction × BitVec 32)) : PciConfigOutcome PciSystem := do
  let s ← piix3Initialize pciSystemInitialState
  let s ← pciAddFunction acpiFunction 0x8086 0x7113 0x03 0x0680 0x00 0x00 1 s
  writes.foldlM (fun s w => pciSystemWrite s
    { fn := w.1, offset := 0x60, value := w.2, length := 1 }) s

/-- The IDE function beside them. -/
def pciShared : PciConfigOutcome PciSystem := do
  let s ← pciRouted [(piix3Function, 0x05), (acpiFunction, 0x05)]
  pciAddFunction ideFunction 0x8086 0x7010 0x00 0x0101 0x80 0x00 0 s

/-- Two functions share line 5: the IDE function, which has no route of its own, raises and lowers
while power management holds the line. -/
def sharedCalls : List PciIrqCall :=
  [⟨acpiFunction, 1, 1⟩, ⟨ideFunction, 1, 1⟩, ⟨ideFunction, 1, 0⟩, ⟨acpiFunction, 1, 0⟩,
    ⟨acpiFunction, 1, 1⟩]

theorem pci_lines_wired_or_shared : ∃ s t, pciShared = .ok s ∧
    run (pciIrqStep s.bus) ⟨State.initial fun _ _ => true, []⟩ sharedCalls = .ok t ∧
    Meets (pciIrqStep s.bus) (fun u c => ∀ v, pciIrqStep s.bus u c = .ok v → WiredOr s.bus v)
      ⟨State.initial fun _ _ => true, []⟩ sharedCalls := by
  obtain ⟨s, hs, hends, hmeets⟩ := exists_of_ends
    (fun s : PciSystem => ends (fun _ => True) (run (pciIrqStep s.bus)
        ⟨State.initial fun _ _ => true, []⟩ sharedCalls) = true ∧
      Meets (pciIrqStep s.bus) (SharesLine s.bus) ⟨State.initial fun _ _ => true, []⟩ sharedCalls)
    (show ends _ pciShared = true by decide +kernel)
  obtain ⟨t, ht, -⟩ := exists_of_ends _ hends
  exact ⟨s, t, hs, ht, (pci_lines_wired_or_iff (wiredOr_initial _ _) ht).mpr hmeets⟩

/-- A raise of power management, whose input the bridge routes to line 5, asserts no line 5. -/
theorem pci_line_not_raised : ∃ s t, pciRouted [(piix3Function, 0x05)] = .ok s ∧
    s.conf piix3Function 0x60 = 0x05 ∧
    run (pciIrqStep s.bus) ⟨State.initial fun _ _ => true, []⟩ [⟨acpiFunction, 1, 1⟩] = .ok t ∧
    Held s.bus t.outstanding 5 ∧ ¬ t.fabric.lineAsserted 5 ∧ ¬ WiredOr s.bus t := by
  obtain ⟨s, hs, hroute, hline, hends⟩ := exists_of_ends
    (fun s : PciSystem => s.conf piix3Function 0x60 = 0x05 ∧ RoutedLine s.bus 5 ∧
      ends (fun t : PciIrqSystem => Held s.bus t.outstanding 5 ∧ ¬ t.fabric.lineAsserted 5)
        (run (pciIrqStep s.bus) ⟨State.initial fun _ _ => true, []⟩ [⟨acpiFunction, 1, 1⟩]) = true)
    (show ends _ (pciRouted [(piix3Function, 0x05)]) = true by decide +kernel)
  obtain ⟨t, ht, hheld, hnot⟩ := exists_of_ends _ hends
  exact ⟨s, t, hs, hroute, ht, hheld, hnot, fun hwired => hnot ((hwired 5 hline).mpr hheld)⟩

end Svmm
