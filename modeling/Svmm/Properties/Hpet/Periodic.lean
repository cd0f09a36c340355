import Svmm.Properties.Hpet.Effects

/-!
# The comparator of a periodic timer

`HpetTimerHandler` fires when the comparator has passed, and moves it on by periods until it is
ahead of the counter.  The test that it fires on is a disjunction that is true of any comparator
not behind the last check, and the test of its loop is a conjunction that is false of any
comparator that is.  So a timer that is not due yet fires as a rule, and one that the last check
has overtaken gets one period only.
-/

namespace Svmm

open TransitionRun

/-! ## The loop -/

/-- A comparator that the last check is not ahead of, after one period, is moved on past the
counter, by whole periods and by no more of them than that takes. -/
lemma hpetCatchUp_passes {last tick period : BitVec 64} (hwrap : tick.toNat + period.toNat < 2 ^ 64)
    {turns : ℕ} {comparator : BitVec 64} (hle : comparator ≤ tick)
    (hturns : tick.toNat - comparator.toNat < turns * period.toNat)
    (hlast : tick.toNat < comparator.toNat + period.toNat ∨
      last.toNat ≤ comparator.toNat + period.toNat) :
    ∃ c, hpetCatchUp last tick period turns comparator = .ok c ∧
      c.toNat % period.toNat = comparator.toNat % period.toNat ∧
      tick.toNat < c.toNat ∧ c.toNat ≤ tick.toNat + period.toNat := by
  induction turns generalizing comparator with
  | zero => omega
  | succ turns ih =>
      have hle' : comparator.toNat ≤ tick.toNat := hle
      have hnext : (comparator + period).toNat = comparator.toNat + period.toNat :=
        BitVec.toNat_add_of_lt (by omega)
      unfold hpetCatchUp
      dsimp only
      by_cases hpassed : comparator.toNat + period.toNat ≤ tick.toNat
      · have hlast' : last.toNat ≤ comparator.toNat + period.toNat := by omega
        have htest : hpetPassed last (comparator + period) tick = true := by
          simp only [hpetPassed, BitVec.le_def, hnext, decide_eq_true_eq]
          omega
        have hfewer : tick.toNat - (comparator.toNat + period.toNat) < turns * period.toNat := by
          rw [Nat.succ_mul] at hturns
          omega
        have hcatch := @ih (comparator + period) (by rw [BitVec.le_def, hnext]; exact hpassed)
          (by rw [hnext]; exact hfewer) (by rw [hnext]; omega)
        rw [if_pos htest]
        obtain ⟨c, hc, hmod, hbounds⟩ := hcatch
        exact ⟨c, hc, by rw [hmod, hnext, Nat.add_mod_right], hbounds⟩
      · have htest : hpetPassed last (comparator + period) tick = false := by
          simp only [hpetPassed, BitVec.le_def, hnext, decide_eq_false_iff_not]
          omega
        rw [htest]
        refine ⟨comparator + period, rfl, ?_⟩
        rw [hnext, Nat.add_mod_right]
        exact ⟨rfl, by omega, by omega⟩

/-- A comparator that does not pass the test of the loop after one period gets no other. -/
lemma hpetCatchUp_stops {last tick period comparator : BitVec 64} {turns : ℕ} (hturns : turns ≠ 0)
    (htest : hpetPassed last (comparator + period) tick = false) :
    hpetCatchUp last tick period turns comparator = .ok (comparator + period) := by
  obtain ⟨n, rfl⟩ := Nat.exists_eq_succ_of_ne_zero hturns
  unfold hpetCatchUp
  dsimp only
  rw [htest]
  rfl

/-! ## The handler -/

/-- The timer is periodic, and has a period. -/
def HpetTimer.HasPeriod (b : HpetTimer) : Prop := b.periodic = true ∧ b.timerPeriod ≠ 0

lemma hpetFire_eq_ok {currentTick : BitVec 64} {i : Fin 3} {h r : Hpet} {fired : List HpetCall}
    (hperiod : (h.timer i).HasPeriod) :
    hpetFire currentTick i h = .ok (r, fired) ↔
      ∃ c, hpetCatchUp (h.timer i).lastTimeChecked currentTick (h.timer i).timerPeriod (2 ^ 64)
          (h.timer i).comparator = .ok c ∧
        r = (hpetUpdateIrq i true h).1.setTimer i { h.timer i with comparator := c } ∧
        fired = (hpetUpdateIrq i true h).2 := by
  have htest : ((h.timer i).periodic && decide ((h.timer i).timerPeriod ≠ 0)) = true := by
    rw [hperiod.1, decide_eq_true hperiod.2, Bool.and_self]
  unfold hpetFire
  dsimp only
  rw [if_pos htest, bind_eq_ok]
  refine exists_congr fun c => and_congr_right fun _ => ?_
  constructor
  · intro hrest
    obtain ⟨rfl, rfl⟩ := Prod.mk.inj (Except.ok.inj hrest)
    exact ⟨rfl, rfl⟩
  · rintro ⟨rfl, rfl⟩
    rfl

lemma toHpetReference_hpetUpdateIrq (i : Fin 3) (raiseIrq : Bool) (h : Hpet) :
    (hpetUpdateIrq i raiseIrq h).1.toHpetReference = h.toHpetReference :=
  congrArg Prod.fst (core_hpetUpdateIrq i raiseIrq h)

lemma setTimer_setTimer (i : Fin 3) (b b' : HpetTimer) (h : Hpet) :
    (h.setTimer i b).setTimer i b' = h.setTimer i b' := by
  unfold Hpet.setTimer
  rw [Function.update_idem]

/-- What the handler does when it fires for such a timer. -/
lemma hpetTimerHandler_of_fires {clock : BitVec 64} {i : Fin 3} {h g : Hpet}
    {calls : List HpetCall} (hperiod : (h.timer i).HasPeriod)
    (hfires : (h.timer i).Fires (hpetGetTicks clock h.toHpetReference)) :
    hpetTimerHandler clock i h = .ok (g, calls) ↔
      ∃ c, hpetCatchUp (h.timer i).lastTimeChecked (hpetGetTicks clock h.toHpetReference)
          (h.timer i).timerPeriod (2 ^ 64) (h.timer i).comparator = .ok c ∧
        g = (hpetUpdateIrq i true h).1.setTimer i
          { h.timer i with
            comparator := c
            lastTimeChecked := hpetGetTicks clock h.toHpetReference } ∧
        calls = (hpetUpdateIrq i true h).2 ++
          [.timer (.activate (h.timer i).timerId
            (hpetTicksToNs (c - hpetGetTicks clock h.toHpetReference))
            (((h.timer i).configCapabilities &&&
              Word.bit hpetTimerConfPeriodicEnabled).setWidth 8))] := by
  rw [hpetTimerHandler_eq_ok]
  simp only [if_pos hfires, hpetFire_eq_ok hperiod]
  constructor
  · rintro ⟨r, fired, ⟨c, hc, rfl, rfl⟩, rfl, rfl⟩
    refine ⟨c, hc, ?_, ?_⟩
    · rw [Hpet.timer_setTimer_self, setTimer_setTimer]
    · unfold hpetTimerCall hpetUpdateTimer
      rw [Hpet.timer_setTimer_self]
      dsimp only [Hpet.setTimer]
      rw [toHpetReference_hpetUpdateIrq]
  · rintro ⟨c, hc, rfl, rfl⟩
    refine ⟨_, _, ⟨c, hc, rfl, rfl⟩, ?_, ?_⟩
    · rw [Hpet.timer_setTimer_self, setTimer_setTimer]
    · unfold hpetTimerCall hpetUpdateTimer
      rw [Hpet.timer_setTimer_self]
      dsimp only [Hpet.setTimer]
      rw [toHpetReference_hpetUpdateIrq]

/-- What the handler does when it does not fire. -/
lemma hpetTimerHandler_of_not_fires {clock : BitVec 64} {i : Fin 3} {h : Hpet}
    (hnot : ¬(h.timer i).Fires (hpetGetTicks clock h.toHpetReference)) :
    hpetTimerHandler clock i h =
      .ok (h.setTimer i
        { h.timer i with lastTimeChecked := hpetGetTicks clock h.toHpetReference },
        [hpetTimerCall clock i h]) := by
  rw [hpetTimerHandler_eq_ok]
  rw [if_neg hnot]
  exact ⟨h, [], rfl, rfl, rfl⟩

/-! ## Runs of the handler -/

/-- The call raises an interrupt. -/
def HpetCall.Raises : HpetCall → Prop
  | .raiseIrq _ _ => True
  | .store _ _ => True
  | _ => False

/-- What an invocation of the handler of a periodic timer is to do: a comparator that the counter
has reached moves on by whole periods to the first place after it, and the timer is armed again;
with a comparator that is ahead of the counter, nothing happens. -/
def hpetCatchesUp (i : Fin 3) (h : Hpet) (clock : BitVec 64) : Prop :=
  let b := h.timer i
  let currentTick := hpetGetTicks clock h.toHpetReference
  ∃ g calls, hpetTimerHandler clock i h = .ok (g, calls) ∧
    (b.comparator ≤ currentTick →
      (g.timer i).comparator.toNat % b.timerPeriod.toNat =
          b.comparator.toNat % b.timerPeriod.toNat ∧
        currentTick < (g.timer i).comparator ∧
        (g.timer i).comparator.toNat ≤ currentTick.toNat + b.timerPeriod.toNat ∧
        ∃ delay oneShot, .timer (.activate b.timerId delay oneShot) ∈ calls ∧ 0 < delay) ∧
    (currentTick < b.comparator →
      (g.timer i).comparator = b.comparator ∧ g.interruptStatus = h.interruptStatus ∧
        ∀ call ∈ calls, ¬call.Raises)

/-- The state of the last check that the handler goes by: a comparator that the counter has reached
is within a period of the counter, or the last check is not ahead of the place a period on; one
that is ahead of the counter is behind the last check. -/
def hpetInTime (i : Fin 3) (h : Hpet) (clock : BitVec 64) : Prop :=
  let b := h.timer i
  let currentTick := hpetGetTicks clock h.toHpetReference
  if b.comparator ≤ currentTick then
    currentTick.toNat < b.comparator.toNat + b.timerPeriod.toNat ∨
      b.lastTimeChecked.toNat ≤ b.comparator.toNat + b.timerPeriod.toNat
  else b.comparator < b.lastTimeChecked

/-- No sum with the period is cut to 64 bits, and no delay of a period is. -/
def hpetNoWrap (i : Fin 3) (h : Hpet) (clock : BitVec 64) : Prop :=
  (hpetGetTicks clock h.toHpetReference).toNat + (h.timer i).timerPeriod.toNat < 2 ^ 64 ∧
    (h.timer i).comparator.toNat + (h.timer i).timerPeriod.toNat < 2 ^ 64 ∧
    10 * (h.timer i).timerPeriod.toNat < 2 ^ 64

/-- An invocation of the handler at a clock. -/
def hpetExpire (i : Fin 3) (h : Hpet) (clock : BitVec 64) : HpetOutcome Hpet :=
  hpetStep h (clock, .expire i)

variable {i : Fin 3} {h : Hpet} {clock : BitVec 64}

lemma one_le_timerPeriod {b : HpetTimer} (hperiod : b.HasPeriod) : 1 ≤ b.timerPeriod.toNat := by
  have hne : b.timerPeriod.toNat ≠ 0 := fun hzero => hperiod.2 (BitVec.eq_of_toNat_eq hzero)
  omega

/-- The delay of a comparator that is ahead of the counter by a period at most. -/
lemma hpetTicksToNs_pos {c tick : BitVec 64} {period : ℕ} (hlt : tick < c)
    (hle : c.toNat ≤ tick.toNat + period) (hwrap : 10 * period < 2 ^ 64) :
    0 < hpetTicksToNs (c - tick) := by
  have hlt' : tick.toNat < c.toNat := hlt
  have hsub : (c - tick).toNat = c.toNat - tick.toNat :=
    BitVec.toNat_sub_of_le (by rw [BitVec.le_def]; omega)
  have hmul : (hpetTicksToNs (c - tick)).toNat = (c.toNat - tick.toNat) * 10 := by
    unfold hpetTicksToNs
    rw [BitVec.toNat_mul, hsub]
    change (c.toNat - tick.toNat) * 10 % 2 ^ 64 = _
    exact Nat.mod_eq_of_lt (by omega)
  rw [BitVec.lt_def, hmul]
  change 0 < (c.toNat - tick.toNat) * 10
  omega

/-- A comparator that the counter has reached is moved on rightly exactly in time. -/
lemma hpetCatchesUp_of_reached (hperiod : (h.timer i).HasPeriod) (hwrap : hpetNoWrap i h clock)
    (hle : (h.timer i).comparator ≤ hpetGetTicks clock h.toHpetReference) :
    hpetCatchesUp i h clock ↔ hpetInTime i h clock := by
  have hpos := one_le_timerPeriod hperiod
  obtain ⟨hwrapTick, -, hwrapDelay⟩ := hwrap
  have hfires : (h.timer i).Fires (hpetGetTicks clock h.toHpetReference) := .inr hle
  have hle' : (h.timer i).comparator.toNat ≤ (hpetGetTicks clock h.toHpetReference).toNat := hle
  unfold hpetInTime
  dsimp only
  rw [if_pos hle]
  constructor
  · rintro ⟨g, calls, hhandler, hup, -⟩
    obtain ⟨c, hc, rfl, -⟩ := (hpetTimerHandler_of_fires hperiod hfires).mp hhandler
    obtain ⟨-, hlt, -⟩ := hup hle
    rw [Hpet.timer_setTimer_self] at hlt
    by_contra hlate
    obtain ⟨hnext, hlast⟩ := not_or.mp hlate
    have hsum : ((h.timer i).comparator + (h.timer i).timerPeriod).toNat =
        (h.timer i).comparator.toNat + (h.timer i).timerPeriod.toNat :=
      BitVec.toNat_add_of_lt (by omega)
    -- the last check is ahead of the comparator, and the loop takes that for an end
    have htest : hpetPassed (h.timer i).lastTimeChecked
        ((h.timer i).comparator + (h.timer i).timerPeriod)
        (hpetGetTicks clock h.toHpetReference) = false := by
      simp only [hpetPassed, BitVec.le_def, hsum, decide_eq_false_iff_not]
      omega
    rw [hpetCatchUp_stops (by decide) htest] at hc
    obtain rfl := Except.ok.inj hc
    rw [BitVec.lt_def, hsum] at hlt
    omega
  · intro hlast
    have hturns : (hpetGetTicks clock h.toHpetReference).toNat - (h.timer i).comparator.toNat <
        2 ^ 64 * (h.timer i).timerPeriod.toNat := by
      have hfew : 2 ^ 64 * 1 ≤ 2 ^ 64 * (h.timer i).timerPeriod.toNat := Nat.mul_le_mul_left _ hpos
      have hbound := (hpetGetTicks clock h.toHpetReference).isLt
      omega
    obtain ⟨c, hc, hmod, hlt, hbound⟩ := hpetCatchUp_passes hwrapTick hle hturns hlast
    refine ⟨_, _, (hpetTimerHandler_of_fires hperiod hfires).mpr ⟨c, hc, rfl, rfl⟩, fun _ => ?_,
      fun hahead => ?_⟩
    · rw [Hpet.timer_setTimer_self]
      refine ⟨hmod, hlt, hbound, _, _, List.mem_append_right _ (List.mem_singleton_self _), ?_⟩
      exact hpetTicksToNs_pos hlt hbound hwrapDelay
    · have hahead' : (hpetGetTicks clock h.toHpetReference).toNat <
          (h.timer i).comparator.toNat := hahead
      omega

/-- A comparator that is ahead of the counter is left alone exactly behind the last check. -/
lemma hpetCatchesUp_of_ahead (hperiod : (h.timer i).HasPeriod) (hwrap : hpetNoWrap i h clock)
    (hlt : ¬(h.timer i).comparator ≤ hpetGetTicks clock h.toHpetReference) :
    hpetCatchesUp i h clock ↔ hpetInTime i h clock := by
  have hpos := one_le_timerPeriod hperiod
  have hlt' : (hpetGetTicks clock h.toHpetReference).toNat < (h.timer i).comparator.toNat :=
    Nat.not_le.mp hlt
  unfold hpetInTime
  dsimp only
  rw [if_neg hlt]
  constructor
  · rintro ⟨g, calls, hhandler, -, hstill⟩
    by_contra hcheck
    have hfires : (h.timer i).Fires (hpetGetTicks clock h.toHpetReference) :=
      .inl (BitVec.not_lt.mp hcheck)
    obtain ⟨c, hc, rfl, -⟩ := (hpetTimerHandler_of_fires hperiod hfires).mp hhandler
    obtain ⟨hsame, -⟩ := hstill hlt'
    rw [Hpet.timer_setTimer_self] at hsame
    have hsum : ((h.timer i).comparator + (h.timer i).timerPeriod).toNat =
        (h.timer i).comparator.toNat + (h.timer i).timerPeriod.toNat :=
      BitVec.toNat_add_of_lt hwrap.2.1
    have htest : hpetPassed (h.timer i).lastTimeChecked
        ((h.timer i).comparator + (h.timer i).timerPeriod)
        (hpetGetTicks clock h.toHpetReference) = false := by
      simp only [hpetPassed, BitVec.le_def, hsum, decide_eq_false_iff_not]
      omega
    rw [hpetCatchUp_stops (by decide) htest] at hc
    obtain rfl := Except.ok.inj hc
    have hnat := congrArg BitVec.toNat hsame
    rw [hsum] at hnat
    omega
  · intro hcheck
    have hcheck' : (h.timer i).comparator.toNat < (h.timer i).lastTimeChecked.toNat := hcheck
    have hnot : ¬(h.timer i).Fires (hpetGetTicks clock h.toHpetReference) := by
      rintro (hlast | hreached)
      · have hlast' : (h.timer i).lastTimeChecked.toNat ≤ (h.timer i).comparator.toNat := hlast
        omega
      · exact hlt hreached
    refine ⟨_, _, hpetTimerHandler_of_not_fires hnot, fun hreached => absurd hreached hlt,
      fun _ => ⟨?_, rfl, ?_⟩⟩
    · rw [Hpet.timer_setTimer_self]
    · intro call hcall
      rw [List.mem_singleton.mp hcall]
      exact not_false

lemma hpetCatchesUp_iff (hperiod : (h.timer i).HasPeriod) (hwrap : hpetNoWrap i h clock) :
    hpetCatchesUp i h clock ↔ hpetInTime i h clock := by
  by_cases hle : (h.timer i).comparator ≤ hpetGetTicks clock h.toHpetReference
  · exact hpetCatchesUp_of_reached hperiod hwrap hle
  · exact hpetCatchesUp_of_ahead hperiod hwrap hle

/-- The handler keeps the mode and the period. -/
lemma hasPeriod_hpetExpire {g : Hpet} (hperiod : (h.timer i).HasPeriod)
    (hstep : hpetExpire i h clock = .ok g) : (g.timer i).HasPeriod := by
  obtain ⟨⟨r, calls⟩, hhandler, hrest⟩ := bind_eq_ok.mp hstep
  obtain rfl := Except.ok.inj hrest
  by_cases hfires : (h.timer i).Fires (hpetGetTicks clock h.toHpetReference)
  · obtain ⟨c, -, rfl, -⟩ := (hpetTimerHandler_of_fires hperiod hfires).mp hhandler
    rw [Hpet.timer_setTimer_self]
    exact hperiod
  · rw [hpetTimerHandler_of_not_fires hfires] at hhandler
    obtain ⟨rfl, -⟩ := Prod.mk.inj (Except.ok.inj hhandler)
    rw [Hpet.timer_setTimer_self]
    exact hperiod

/-- In a run of the handler of a periodic timer, every invocation does what it is to do exactly
when each finds the last check in time. -/
theorem hpet_catches_up_iff {clocks : List (BitVec 64)} (hperiod : (h.timer i).HasPeriod)
    (hwrap : Meets (hpetExpire i) (hpetNoWrap i) h clocks) :
    Meets (hpetExpire i) (hpetCatchesUp i) h clocks ↔
      Meets (hpetExpire i) (hpetInTime i) h clocks := by
  have hkeep : ∀ h clock g, (h.timer i).HasPeriod → hpetExpire i h clock = .ok g →
      (g.timer i).HasPeriod := fun _ _ _ => hasPeriod_hpetExpire
  constructor
  · intro hmeets
    refine Meets.of_invariant (fun h clock g hI _ => hkeep h clock g hI)
      (fun h clock hI hP => ?_) hperiod (hwrap.and hmeets)
    exact (hpetCatchesUp_iff hI hP.1).mp hP.2
  · intro hmeets
    refine Meets.of_invariant (fun h clock g hI _ => hkeep h clock g hI)
      (fun h clock hI hP => ?_) hperiod (hwrap.and hmeets)
    exact (hpetCatchesUp_iff hI hP.1).mpr hP.2

instance (b : HpetTimer) : Decidable b.HasPeriod := inferInstanceAs (Decidable (_ ∧ _))

instance (i : Fin 3) (h : Hpet) (clock : BitVec 64) : Decidable (hpetNoWrap i h clock) :=
  inferInstanceAs (Decidable (_ ∧ _))

instance (i : Fin 3) (h : Hpet) (clock : BitVec 64) : Decidable (hpetInTime i h clock) :=
  inferInstanceAs (Decidable (ite _ _ _))

/-- A timer of 100 ticks whose first expiry is late by two periods and a half. -/
def hpetLate : Hpet :=
  { (Hpet.initial fun _ => 0).setTimer 0
      { (Hpet.initial fun _ => 0).timer 0 with
        configCapabilities := 0x0c, comparator := 100, timerPeriod := 100 } with
    globalConfiguration := 1 }

theorem hpet_late_catches_up :
    Meets (hpetExpire 0) (hpetCatchesUp 0) hpetLate [3500, 4200] ↔
      Meets (hpetExpire 0) (hpetInTime 0) hpetLate [3500, 4200] :=
  hpet_catches_up_iff (by decide) (by decide)

/-- A timer that the guest gives a period of 100 ticks, and whose handler runs half a period
later, raises its interrupt then and is moved on. -/
theorem hpet_fires_early :
    ∃ h, run hpetStep (Hpet.initial fun _ => 0)
        [(0, .write 0x100 0x4c 4), (0, .write 0x108 100 4), (0, .write 0x10 1 4)] = .ok h ∧
      ((h.timer 0).HasPeriod ∧ hpetNoWrap 0 h 500) ∧
      ¬Meets (hpetExpire 0) (hpetCatchesUp 0) h [500] := by
  obtain ⟨h, hrun, hperiod, hwrap, hlate⟩ := exists_of_ends
    (fun h => (h.timer 0).HasPeriod ∧ hpetNoWrap 0 h 500 ∧ ¬hpetInTime 0 h 500)
    (show ends _ (run hpetStep (Hpet.initial fun _ => 0)
      [(0, .write 0x100 0x4c 4), (0, .write 0x108 100 4), (0, .write 0x10 1 4)]) = true by decide)
  refine ⟨h, hrun, ⟨hperiod, hwrap⟩, fun hmeets => hlate ?_⟩
  exact (hpetCatchesUp_iff hperiod hwrap).mp hmeets.1

end Svmm
