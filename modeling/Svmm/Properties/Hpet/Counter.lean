import Svmm.Properties.Hpet.Effects

/-!
# The main counter of the HPET

While the HPET runs, its counter is the clock since a reference time on top of a reference value;
while it is halted the counter is stored.  Starting and halting pass from one form to the other.
The reference time is never ahead of the clock, so no operation moves the counter that the guest
sees, but for a write to it, and the clock moves it forwards.
-/

namespace Svmm

open TransitionRun

/-- An access to one of the two halves of the counter. -/
def hpetCounterAddress (address : BitVec 32) : Prop :=
  address &&& 0x3ff = 0x0f0 ∨ address &&& 0x3ff = 0x0f4

instance (address : BitVec 32) : Decidable (hpetCounterAddress address) :=
  inferInstanceAs (Decidable (_ ∨ _))

/-- The operation writes the counter register. -/
def HpetOp.WritesCounter : HpetOp → Prop
  | .write address _ length =>
      length = 4 ∧ hpetCounterAddress address ∨
        length = 8 ∧ (hpetCounterAddress address ∨ hpetCounterAddress (address + 4))
  | .read _ _ => False
  | .expire _ => False

instance : (op : HpetOp) → Decidable op.WritesCounter
  | .write _ _ _ => inferInstanceAs (Decidable (_ ∨ _))
  | .read _ _ => inferInstanceAs (Decidable False)
  | .expire _ => inferInstanceAs (Decidable False)

/-- A step of the HPET, beside the clock of the last step. -/
def hpetTimedStep (s : Hpet × BitVec 64) (a : BitVec 64 × HpetOp) :
    HpetOutcome (Hpet × BitVec 64) := do
  return (← hpetStep s.1 a, a.1)

lemma hpetTimedStep_eq_ok {s t : Hpet × BitVec 64} {a : BitVec 64 × HpetOp} :
    hpetTimedStep s a = .ok t ↔ hpetStep s.1 a = .ok t.1 ∧ t.2 = a.1 := by
  unfold hpetTimedStep
  rw [bind_eq_ok]
  constructor
  · rintro ⟨h, hstep, hrest⟩
    obtain rfl := Except.ok.inj hrest
    exact ⟨hstep, rfl⟩
  · rintro ⟨hstep, hclock⟩
    exact ⟨t.1, hstep, congrArg Except.ok (Prod.ext rfl hclock.symm)⟩

/-- The clock does not go back. -/
def hpetClockOrdered (s : Hpet × BitVec 64) (a : BitVec 64 × HpetOp) : Prop := s.2 ≤ a.1

instance (s : Hpet × BitVec 64) (a : BitVec 64 × HpetOp) : Decidable (hpetClockOrdered s a) :=
  inferInstanceAs (Decidable (_ ≤ _))

/-- The counter has not reached `2 ^ 64`. -/
def Hpet.InRange (clock : BitVec 64) (h : Hpet) : Prop :=
  h.enabled →
    (clock.toNat - h.referenceTime.toNat) / 10 + h.referenceValue.toNat < 2 ^ 64

instance (clock : BitVec 64) (h : Hpet) : Decidable (h.InRange clock) :=
  inferInstanceAs (Decidable (_ → _))

/-- What a step does to the counter: the clock moves it forwards if it runs and not at all if it is
halted, and the operation itself does not move it. -/
def hpetCounterSteady (s : Hpet × BitVec 64) (a : BitVec 64 × HpetOp) : Prop :=
  s.1.visibleCounter s.2 ≤ s.1.visibleCounter a.1 ∧
    (s.1.enabled = false → s.1.visibleCounter a.1 = s.1.visibleCounter s.2) ∧
    ∀ t, hpetTimedStep s a = .ok t → t.1.visibleCounter t.2 = s.1.visibleCounter a.1

/-- The reference time is not ahead of the clock. -/
def hpetReferenced (s : Hpet × BitVec 64) : Prop := s.1.enabled → s.1.referenceTime ≤ s.2

/-! ## The clock -/

lemma visibleCounter_of_halted {h : Hpet} (hhalted : h.enabled = false) (clock : BitVec 64) :
    h.visibleCounter clock = h.counter := by
  unfold Hpet.visibleCounter
  rw [hhalted]
  rfl

lemma visibleCounter_of_enabled {h : Hpet} (henabled : h.enabled = true) (clock : BitVec 64) :
    h.visibleCounter clock = hpetGetTicks clock h.toHpetReference := by
  unfold Hpet.visibleCounter
  rw [if_pos henabled]

/-- Short of an overflow, `HpetGetTicks` is what it says. -/
lemma toNat_hpetGetTicks {clock : BitVec 64} {r : HpetReference} (htime : r.referenceTime ≤ clock)
    (hrange : (clock.toNat - r.referenceTime.toNat) / 10 + r.referenceValue.toNat < 2 ^ 64) :
    (hpetGetTicks clock r).toNat =
      (clock.toNat - r.referenceTime.toNat) / 10 + r.referenceValue.toNat := by
  have hsub : (clock - r.referenceTime).toNat = clock.toNat - r.referenceTime.toNat :=
    BitVec.toNat_sub_of_le htime
  unfold hpetGetTicks
  rw [BitVec.toNat_add, BitVec.toNat_udiv, hsub]
  exact Nat.mod_eq_of_lt hrange

/-- The clock moves the counter forwards. -/
lemma visibleCounter_mono {h : Hpet} {last clock : BitVec 64} (hle : last ≤ clock)
    (hreferenced : h.enabled → h.referenceTime ≤ last) (hrange : h.InRange clock) :
    h.visibleCounter last ≤ h.visibleCounter clock := by
  by_cases henabled : h.enabled = true
  · rw [visibleCounter_of_enabled henabled, visibleCounter_of_enabled henabled, BitVec.le_def]
    have htime := hreferenced henabled
    have hrange := hrange henabled
    have hle' : last.toNat ≤ clock.toNat := hle
    have hticks : (last.toNat - h.referenceTime.toNat) / 10 ≤
        (clock.toNat - h.referenceTime.toNat) / 10 :=
      Nat.div_le_div_right (Nat.sub_le_sub_right hle' _)
    rw [toNat_hpetGetTicks htime (by omega),
      toNat_hpetGetTicks (BitVec.le_trans htime hle) hrange]
    omega
  · rw [Bool.not_eq_true] at henabled
    rw [visibleCounter_of_halted henabled, visibleCounter_of_halted henabled]
    exact BitVec.le_refl _

/-! ## The operations -/

/-- The operation leaves the counter where it is, and the reference time not ahead of the clock. -/
def hpetKeeps (clock : BitVec 64) (h g : Hpet) : Prop :=
  g.visibleCounter clock = h.visibleCounter clock ∧
    ((h.enabled → h.referenceTime ≤ clock) → g.enabled → g.referenceTime ≤ clock)

lemma hpetKeeps.trans {clock : BitVec 64} {h g k : Hpet} (hfirst : hpetKeeps clock h g)
    (hsecond : hpetKeeps clock g k) : hpetKeeps clock h k :=
  ⟨hsecond.1.trans hfirst.1, fun href => hsecond.2 (hfirst.2 href)⟩

lemma hpetKeeps_of_core {clock : BitVec 64} {h g : Hpet} (hcore : g.core = h.core) :
    hpetKeeps clock h g := by
  refine ⟨visibleCounter_of_core hcore clock, fun href henabled => ?_⟩
  rw [referenceTime_of_core hcore]
  exact href ((enabled_of_core hcore).symm.trans henabled)

lemma core_hpetEnable (clock : BitVec 64) (h : Hpet) :
    (hpetEnable clock h).1.core =
      ({ referenceTime := clock, referenceValue := h.counter }, h.counter,
        h.globalConfiguration) := by
  unfold hpetEnable
  rw [hpetForTimers_keep Hpet.core]
  · rfl
  · intro i h
    dsimp only
    split_ifs
    · exact core_hpetUpdateIrq i true h
    · rfl

lemma core_hpetDisable (clock : BitVec 64) (h : Hpet) :
    (hpetDisable clock h).1.core =
      (h.toHpetReference, hpetGetTicks clock h.toHpetReference, h.globalConfiguration) := by
  unfold hpetDisable
  rw [hpetForTimers_keep Hpet.core core_hpetDisableTimer]
  rfl

/-- Starting and halting pass from one form of the counter to the other. -/
lemma hpetKeeps_hpetWriteConfigure (clock : BitVec 64) (value : BitVec 32) (h : Hpet) :
    hpetKeeps clock h (hpetWriteConfigure clock value h).1 := by
  have henabled := enabled_hpetWriteConfigure clock value h
  by_cases hstart : (Word.has value hpetConfigEnabled && !h.enabled) = true
  · obtain ⟨hvalue, hhalted⟩ : Word.has value hpetConfigEnabled = true ∧ h.enabled = false := by
      simpa using hstart
    have hreference : (hpetWriteConfigure clock value h).1.toHpetReference =
        { referenceTime := clock, referenceValue := h.counter } := by
      unfold hpetWriteConfigure
      rw [if_pos hstart]
      exact congrArg Prod.fst (core_hpetEnable clock h)
    constructor
    · rw [visibleCounter_of_enabled (henabled.trans hvalue), visibleCounter_of_halted hhalted,
        hreference]
      unfold hpetGetTicks
      simp
    · intro _ _
      rw [hreference]
      exact BitVec.le_refl _
  · by_cases hhalt : (h.enabled && !Word.has value hpetConfigEnabled) = true
    · obtain ⟨hruns, hvalue⟩ : h.enabled = true ∧ Word.has value hpetConfigEnabled = false := by
        simpa using hhalt
      constructor
      · rw [visibleCounter_of_halted (henabled.trans hvalue), visibleCounter_of_enabled hruns]
        unfold hpetWriteConfigure
        rw [if_neg hstart, if_pos hhalt]
        exact congrArg (fun c : HpetReference × BitVec 64 × BitVec 64 => c.2.1)
          (core_hpetDisable clock h)
      · intro _ hstill
        rw [henabled, hvalue] at hstill
        exact absurd hstill Bool.false_ne_true
    · -- the configuration is written, and what is tested of it stays
      have hsame : Word.has value hpetConfigEnabled = h.enabled := by
        cases hvalue : Word.has value hpetConfigEnabled <;> cases hruns : h.enabled <;>
          simp_all
      have hreference : (hpetWriteConfigure clock value h).1.toHpetReference =
          h.toHpetReference := by
        unfold hpetWriteConfigure
        rw [if_neg hstart, if_neg hhalt]
      have hcounter : (hpetWriteConfigure clock value h).1.counter = h.counter := by
        unfold hpetWriteConfigure
        rw [if_neg hstart, if_neg hhalt]
      constructor
      · unfold Hpet.visibleCounter
        rw [henabled, hsame, hreference, hcounter]
      · intro href hstill
        rw [hreference]
        exact href ((henabled.trans hsame).symm.trans hstill)

/-- Only the counter register moves the counter. -/
lemma hpetKeeps_hpetWrite (clock : BitVec 64) {address : BitVec 32} (value : BitVec 32) (h : Hpet)
    (hnot : ¬hpetCounterAddress address) :
    hpetKeeps clock h (hpetWrite clock address value h).1 := by
  obtain ⟨hlow, hhigh⟩ := not_or.mp hnot
  unfold hpetWrite
  dsimp only
  rw [if_neg hlow, if_neg hhigh]
  split_ifs
  · exact hpetKeeps_hpetWriteConfigure clock value h
  · exact hpetKeeps_of_core (core_hpetWriteStatus value h)
  · exact hpetKeeps_of_core rfl
  · cases hpetTimerIndex (address &&& 0x3ff) with
    | none => exact hpetKeeps_of_core rfl
    | some i => exact hpetKeeps_of_core (core_hpetWriteTimer clock i _ value h)

lemma hpetKeeps_hpetStep {clock : BitVec 64} {op : HpetOp} {h g : Hpet}
    (hnot : ¬op.WritesCounter) (hstep : hpetStep h (clock, op) = .ok g) : hpetKeeps clock h g := by
  cases op with
  | write address value length =>
      obtain rfl := Except.ok.inj hstep
      obtain ⟨hfour, height⟩ := not_or.mp hnot
      unfold hpetWriteMmioHandler
      dsimp only
      split_ifs with hlen hlen
      · exact hpetKeeps_hpetWrite clock _ h fun haddress => hfour ⟨hlen, haddress⟩
      · have hfirst := hpetKeeps_hpetWrite clock (value.setWidth 32) h
          fun haddress => height ⟨hlen, .inl haddress⟩
        exact hfirst.trans (hpetKeeps_hpetWrite clock _ _
          fun haddress => height ⟨hlen, .inr haddress⟩)
      · exact hpetKeeps_of_core rfl
  | read address length =>
      obtain rfl := Except.ok.inj hstep
      exact hpetKeeps_of_core rfl
  | expire i =>
      obtain ⟨⟨r, calls⟩, hhandler, hrest⟩ := bind_eq_ok.mp hstep
      obtain rfl := Except.ok.inj hrest
      exact hpetKeeps_of_core (core_hpetTimerHandler hhandler)

/-! ## Runs -/

lemma enabled_hpetWriteCounter (value : BitVec 32) (h : Hpet) :
    (hpetWriteCounterHigh value h).enabled = h.enabled ∧
      (hpetWriteCounterHigh value h).referenceTime = h.referenceTime := by
  unfold hpetWriteCounterHigh
  split_ifs
  · exact ⟨rfl, rfl⟩
  · exact ⟨rfl, rfl⟩

/-- A write keeps the reference time behind the clock, also one of the counter. -/
lemma referenced_hpetWrite {clock : BitVec 64} {h : Hpet} (address value : BitVec 32)
    (href : h.enabled → h.referenceTime ≤ clock) :
    (hpetWrite clock address value h).1.enabled →
      (hpetWrite clock address value h).1.referenceTime ≤ clock := by
  by_cases hcounter : hpetCounterAddress address
  · have hlow : (hpetWriteCounterLow value h).enabled = h.enabled ∧
        (hpetWriteCounterLow value h).referenceTime = h.referenceTime := by
      unfold hpetWriteCounterLow
      rw [(enabled_hpetWriteCounter value _).1, (enabled_hpetWriteCounter value _).2]
      split_ifs
      · exact ⟨rfl, rfl⟩
      · exact ⟨rfl, rfl⟩
    unfold hpetWrite
    dsimp only
    obtain haddress | haddress := hcounter
    · rw [haddress]
      intro henabled
      exact hlow.2.symm ▸ href (hlow.1.symm.trans henabled)
    · rw [haddress]
      intro henabled
      have hhigh := enabled_hpetWriteCounter value h
      exact hhigh.2.symm ▸ href (hhigh.1.symm.trans henabled)
  · exact (hpetKeeps_hpetWrite clock value h hcounter).2 href

lemma referenced_hpetStep {clock : BitVec 64} {op : HpetOp} {h g : Hpet}
    (hstep : hpetStep h (clock, op) = .ok g) (href : h.enabled → h.referenceTime ≤ clock) :
    g.enabled → g.referenceTime ≤ clock := by
  cases op with
  | write address value length =>
      obtain rfl := Except.ok.inj hstep
      unfold hpetWriteMmioHandler
      dsimp only
      split_ifs
      · exact referenced_hpetWrite _ _ href
      · exact referenced_hpetWrite _ _ (referenced_hpetWrite _ _ href)
      · exact href
  | read address length =>
      have hnot : ¬HpetOp.WritesCounter (.read address length) := not_false
      exact (hpetKeeps_hpetStep hnot hstep).2 href
  | expire i =>
      have hnot : ¬HpetOp.WritesCounter (.expire i) := not_false
      exact (hpetKeeps_hpetStep hnot hstep).2 href

/-- The step lemma of the invariant. -/
lemma hpetReferenced_hpetTimedStep {s t : Hpet × BitVec 64} {a : BitVec 64 × HpetOp}
    (href : hpetReferenced s) (hclock : hpetClockOrdered s a) (hstep : hpetTimedStep s a = .ok t) :
    hpetReferenced t := by
  obtain ⟨hstep, hlast⟩ := hpetTimedStep_eq_ok.mp hstep
  unfold hpetReferenced
  rw [hlast]
  exact referenced_hpetStep hstep fun henabled => BitVec.le_trans (href henabled) hclock

/-- What an allowed step does to the counter. -/
lemma hpetCounterSteady_of_step {s : Hpet × BitVec 64} {a : BitVec 64 × HpetOp}
    (href : hpetReferenced s) (hclock : hpetClockOrdered s a) (hnot : ¬a.2.WritesCounter)
    (hrange : s.1.InRange a.1) : hpetCounterSteady s a := by
  refine ⟨visibleCounter_mono hclock href hrange, fun hhalted => ?_, fun t ht => ?_⟩
  · rw [visibleCounter_of_halted hhalted, visibleCounter_of_halted hhalted]
  · obtain ⟨hstep, hlast⟩ := hpetTimedStep_eq_ok.mp ht
    rw [hlast]
    exact (hpetKeeps_hpetStep hnot hstep).1

/-- The run lemma: steps that each do not move the counter back do not move it back together. -/
lemma visibleCounter_le_of_run {s t : Hpet × BitVec 64} {ops : List (BitVec 64 × HpetOp)}
    (hsteady : Meets hpetTimedStep hpetCounterSteady s ops)
    (hrun : run hpetTimedStep s ops = .ok t) : s.1.visibleCounter s.2 ≤ t.1.visibleCounter t.2 := by
  induction ops generalizing s with
  | nil =>
      obtain rfl : s = t := by simpa using hrun
      exact BitVec.le_refl _
  | cons a as ih =>
      obtain ⟨u, hu, hrun⟩ := run_cons_ok.mp hrun
      obtain ⟨⟨hclock, -, hop⟩, hrest⟩ := hsteady
      have hstep : s.1.visibleCounter s.2 ≤ u.1.visibleCounter u.2 := by
        rw [hop u hu]
        exact hclock
      exact BitVec.le_trans hstep (ih (hrest u hu) hrun)

/-- From any state of the HPET on, and whatever it is asked but to write the counter, the counter
that the guest sees stands still while the HPET is halted, goes on from where it was when the HPET
is started and halted, and never runs backwards. -/
theorem hpet_counter_steady (timerId : Fin 3 → BitVec 32) {s : Hpet × BitVec 64}
    {before ops : List (BitVec 64 × HpetOp)}
    (hclockBefore : Meets hpetTimedStep hpetClockOrdered (Hpet.initial timerId, 0) before)
    (hbefore : run hpetTimedStep (Hpet.initial timerId, 0) before = .ok s)
    (hclock : Meets hpetTimedStep hpetClockOrdered s ops)
    (hnot : Meets hpetTimedStep (fun _ a => ¬a.2.WritesCounter) s ops)
    (hrange : Meets hpetTimedStep (fun s a => s.1.InRange a.1) s ops) :
    Meets hpetTimedStep hpetCounterSteady s ops ∧
      ∀ t, run hpetTimedStep s ops = .ok t → s.1.visibleCounter s.2 ≤ t.1.visibleCounter t.2 := by
  have hstep : ∀ s a t, hpetReferenced s → hpetClockOrdered s a → hpetTimedStep s a = .ok t →
      hpetReferenced t := fun _ _ _ => hpetReferenced_hpetTimedStep
  have hstart : hpetReferenced (Hpet.initial timerId, 0) := by
    intro henabled
    have hzero : (Hpet.initial timerId).enabled = false := Word.has_zero hpetConfigEnabled
    exact absurd (hzero.symm.trans henabled) Bool.false_ne_true
  have href : hpetReferenced s := run_invariant hstep hstart hclockBefore hbefore
  have hsteady : Meets hpetTimedStep hpetCounterSteady s ops := by
    refine Meets.of_invariant (fun s a t href hP => hstep s a t href hP.1)
      (fun s a href hP => ?_) href (hclock.and (hnot.and hrange))
    exact hpetCounterSteady_of_step href hP.1 hP.2.1 hP.2.2
  exact ⟨hsteady, fun t hrun => visibleCounter_le_of_run hsteady hrun⟩

/-- A counter that is set, started, started again in legacy mode, halted and started once more. -/
theorem hpet_counter_steady_over_halt :
    Meets hpetTimedStep hpetCounterSteady (Hpet.initial (fun _ => 0), 0)
        [(100, .write 0x10 1 4), (2000, .write 0x10 3 4), (5000, .write 0x10 2 4),
          (7000, .read 0xf0 4), (9000, .write 0x10 1 8)] ∧
      ∀ t, run hpetTimedStep (Hpet.initial (fun _ => 0), 0)
          [(100, .write 0x10 1 4), (2000, .write 0x10 3 4), (5000, .write 0x10 2 4),
            (7000, .read 0xf0 4), (9000, .write 0x10 1 8)] = .ok t →
        (Hpet.initial (fun _ => 0)).visibleCounter 0 ≤ t.1.visibleCounter t.2 :=
  @hpet_counter_steady (fun _ => 0) _ [] _ trivial rfl (by decide) (by decide) (by decide)

end Svmm
