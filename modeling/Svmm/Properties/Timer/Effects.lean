import Svmm.Construction.Timer

/-!
# What the timer functions write

Each function is inverted once, and each of its parts has one lemma for every field that the
clock and the history rest on.
-/

namespace Svmm

open TransitionRun

lemma timerGetClockNs_congr {s t : TimerState} (h : t.ticksTotal = s.ticksTotal) :
    timerGetClockNs t = timerGetClockNs s := by
  unfold timerGetClockNs
  rw [h]

namespace TimerState

lemma timers_setTimer_self {i : Fin maxTimers} {s : TimerState} {t : Timer} :
    (s.setTimer i t).timers i = t := Function.update_self ..

lemma timers_setTimer_of_ne {i j : Fin maxTimers} {s : TimerState} {t : Timer} (h : j ≠ i) :
    (s.setTimer i t).timers j = s.timers j := Function.update_of_ne h ..

variable (i : Fin maxTimers) (s : TimerState) (t : Timer) (n : BitVec 64)

@[simp] lemma ticksTotal_setTimer : (s.setTimer i t).ticksTotal = s.ticksTotal := rfl
@[simp] lemma firings_setTimer : (s.setTimer i t).firings = s.firings := rfl
@[simp] lemma reactivations_setTimer : (s.setTimer i t).reactivations = s.reactivations := rfl

@[simp] lemma ticksTotal_setSince : (s.setSince i).ticksTotal = s.ticksTotal := rfl
@[simp] lemma firings_setSince : (s.setSince i).firings = s.firings := rfl
@[simp] lemma reactivations_setSince : (s.setSince i).reactivations = s.reactivations := rfl

@[simp] lemma ticksTotal_endLife : (s.endLife i).ticksTotal = s.ticksTotal := by
  unfold endLife
  split <;> rfl
@[simp] lemma firings_endLife : (s.endLife i).firings = s.firings := by
  unfold endLife
  split <;> rfl
@[simp] lemma timersIdx_endLife : (s.endLife i).timersIdx = s.timersIdx := by
  unfold endLife
  split <;> rfl
@[simp] lemma timers_endLife : (s.endLife i).timers = s.timers := by
  unfold endLife
  split <;> rfl
@[simp] lemma reactivations_endLife : (s.endLife i).reactivations = s.reactivations := by
  unfold endLife
  split <;> rfl

@[simp] lemma ticksTotal_logReactivation :
    (s.logReactivation i n).ticksTotal = s.ticksTotal := by
  unfold logReactivation
  split <;> rfl
@[simp] lemma timersIdx_logReactivation :
    (s.logReactivation i n).timersIdx = s.timersIdx := by
  unfold logReactivation
  split <;> rfl
@[simp] lemma timers_logReactivation : (s.logReactivation i n).timers = s.timers := by
  unfold logReactivation
  split <;> rfl
@[simp] lemma firings_logReactivation : (s.logReactivation i n).firings = s.firings := by
  unfold logReactivation
  split <;> rfl

@[simp] lemma ticksTotal_countDown : (s.countDown i).ticksTotal = s.ticksTotal := by
  unfold countDown
  split <;> rfl
@[simp] lemma firings_countDown : (s.countDown i).firings = s.firings := by
  unfold countDown
  split <;> rfl
@[simp] lemma timersIdx_countDown : (s.countDown i).timersIdx = s.timersIdx := by
  unfold countDown
  split <;> rfl
@[simp] lemma reactivations_countDown : (s.countDown i).reactivations = s.reactivations := by
  unfold countDown
  split <;> rfl

@[simp] lemma ticksTotal_fire : (s.fire i).ticksTotal = s.ticksTotal := rfl
@[simp] lemma reactivations_fire : (s.fire i).reactivations = s.reactivations := rfl

@[simp] lemma ticksTotal_reload : (s.reload i).ticksTotal = s.ticksTotal := by
  unfold reload
  split <;> simp
@[simp] lemma firings_reload : (s.reload i).firings = s.firings := by
  unfold reload
  split <;> simp
@[simp] lemma timersIdx_reload : (s.reload i).timersIdx = s.timersIdx := by
  unfold reload
  split
  · exact timersIdx_endLife i s
  · rfl
@[simp] lemma reactivations_reload : (s.reload i).reactivations = s.reactivations := by
  unfold reload
  split <;> simp

@[simp] lemma ticksTotal_advance : (s.advance n).ticksTotal = s.ticksTotal + n := rfl
@[simp] lemma firings_advance : (s.advance n).firings = s.firings := rfl
@[simp] lemma reactivations_advance : (s.advance n).reactivations = s.reactivations := rfl
@[simp] lemma timers_advance : (s.advance n).timers = s.timers := rfl

/-- The clock is read at the tick, after its ticks are counted. -/
lemma nsecondsTotal_advance :
    (s.advance n).nsecondsTotal = s.nsecondsTotal + timerGetClockNs (s.advance n) := by
  have hclock : timerGetClockNs { s with ticksTotal := s.ticksTotal + n } =
      timerGetClockNs (s.advance n) := timerGetClockNs_congr rfl
  rw [← hclock]
  rfl

end TimerState

section Inversions

variable {s t : TimerState} {index : BitVec 32} {nseconds : BitVec 64} {oneShot : BitVec 8}

lemma timerActivate_eq_ok (h : timerActivate index nseconds oneShot s = .ok t) :
    ∃ i, timerIndex index = .ok i ∧
      t.ticksTotal = s.ticksTotal ∧ t.firings = s.firings ∧
      t.reactivations = (s.logReactivation i nseconds).reactivations := by
  obtain ⟨i, hi, hrest⟩ := bind_eq_ok.mp h
  refine ⟨i, hi, ?_⟩
  rw [← Except.ok.inj hrest]
  simp

lemma timerDeactivate_eq_ok (h : timerDeactivate index s = .ok t) :
    t.ticksTotal = s.ticksTotal ∧ t.firings = s.firings ∧ t.reactivations = s.reactivations := by
  obtain ⟨i, -, hrest⟩ := bind_eq_ok.mp h
  obtain ⟨free, -, hrest⟩ := bind_eq_ok.mp hrest
  rw [← Except.ok.inj hrest]
  simp

lemma timerCreate_eq_ok (h : timerCreate s = .ok t) :
    t.ticksTotal = s.ticksTotal ∧ t.firings = s.firings ∧ t.reactivations = s.reactivations := by
  obtain ⟨free, -, hrest⟩ := bind_eq_ok.mp h
  rw [← Except.ok.inj hrest]
  simp

lemma timerRegister_eq_ok {duration : BitVec 32} (h : timerRegister duration s = .ok t) :
    t.ticksTotal = s.ticksTotal ∧ t.firings = s.firings ∧ t.reactivations = s.reactivations := by
  obtain ⟨free, -, hrest⟩ := bind_eq_ok.mp h
  rw [← Except.ok.inj hrest]
  simp

/-- A turn of the loop: either the timer is not due after the countdown, or it fires, its handler
makes its calls, and it is reloaded. -/
lemma timerVisit_eq_ok {calls : List TimerCall} (h : timerVisit s (index, calls) = .ok t) :
    ∃ i, timerIndex index = .ok i ∧
      (¬ (s.countDown i).Due i ∧ t = s.countDown i ∨
        (s.countDown i).Due i ∧
          ∃ u, run timerCall ((s.countDown i).fire i) calls = .ok u ∧ t = u.reload i) := by
  obtain ⟨i, hi, hrest⟩ := bind_eq_ok.mp h
  refine ⟨i, hi, ?_⟩
  by_cases hdue : (s.countDown i).Due i
  · rw [if_pos hdue] at hrest
    obtain ⟨u, hu, hreload⟩ := bind_eq_ok.mp hrest
    exact Or.inr ⟨hdue, u, hu, (Except.ok.inj hreload).symm⟩
  · rw [if_neg hdue] at hrest
    exact Or.inl ⟨hdue, (Except.ok.inj hrest).symm⟩

end Inversions

/-! ## The total of ticks -/

section Total

variable {s t : TimerState}

lemma ticksTotal_timerCall {c : TimerCall} (h : timerCall s c = .ok t) :
    t.ticksTotal = s.ticksTotal := by
  cases c with
  | activate index nseconds oneShot =>
      obtain ⟨i, -, htotal, -⟩ := timerActivate_eq_ok h
      exact htotal
  | deactivate index => exact (timerDeactivate_eq_ok h).1

lemma ticksTotal_run_timerCall {calls : List TimerCall} (h : run timerCall s calls = .ok t) :
    t.ticksTotal = s.ticksTotal :=
  run_invariant (I := fun u => u.ticksTotal = s.ticksTotal) (P := fun _ _ => True)
    (fun _ _ _ hu _ hv => (ticksTotal_timerCall hv).trans hu) rfl (Meets.always _ _) h

lemma ticksTotal_timerVisit {turn : BitVec 32 × List TimerCall} (h : timerVisit s turn = .ok t) :
    t.ticksTotal = s.ticksTotal := by
  obtain ⟨i, -, ⟨-, rfl⟩ | ⟨-, u, hu, rfl⟩⟩ := timerVisit_eq_ok h
  · exact s.ticksTotal_countDown i
  · rw [TimerState.ticksTotal_reload, ticksTotal_run_timerCall hu, TimerState.ticksTotal_fire,
      TimerState.ticksTotal_countDown]

/-- A tick adds to the total what it is given. -/
lemma ticksTotal_timerTick {ticks : BitVec 64} {calls : ℕ → List TimerCall}
    (h : timerTick ticks calls s = .ok t) : t.ticksTotal = s.ticksTotal + ticks :=
  run_invariant (I := fun u => u.ticksTotal = s.ticksTotal + ticks) (P := fun _ _ => True)
    (fun _ _ _ hu _ hv => (ticksTotal_timerVisit hv).trans hu) (s.ticksTotal_advance ticks)
    (Meets.always _ _) h

end Total

end Svmm
