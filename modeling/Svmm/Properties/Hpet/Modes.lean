import Svmm.Properties.Hpet.Effects
import Svmm.Properties.Timer.Effects

/-!
# The mode of an HPET timer

`HpetUpdateTimer` passes the periodic bit of the timer as the argument `OneShot` of
`TimerActivate`, and `TimerTick` ends the life of a timer that is one-shot after its handler.  So
a periodic timer stops at its first expiry, and nothing but another activation makes its slot fire
again, and a timer that is not periodic goes on.
-/

namespace Svmm

open TransitionRun

/-- The calls of the handler that `timer.c` sees. -/
def hpetTimerCalls (calls : List HpetCall) : List TimerCall :=
  calls.filterMap fun
    | .timer c => some c
    | _ => none

/-! ## The calls of the handler -/

lemma hpetTimerCalls_hpetUpdateIrq (i : Fin 3) (raiseIrq : Bool) (h : Hpet) :
    hpetTimerCalls (hpetUpdateIrq i raiseIrq h).2 = [] := by
  unfold hpetUpdateIrq
  dsimp only
  split_ifs <;> rfl

/-- Fired or not, the handler activates its slot once, as one-shot exactly if it is periodic. -/
lemma hpetTimerHandler_calls {clock : BitVec 64} {i : Fin 3} {h g : Hpet} {calls : List HpetCall}
    (hhandler : hpetTimerHandler clock i h = .ok (g, calls)) :
    ∃ nseconds, hpetTimerCalls calls = [.activate (h.timer i).timerId nseconds
      (((h.timer i).configCapabilities &&& Word.bit hpetTimerConfPeriodicEnabled).setWidth 8)] := by
  obtain ⟨r, fired, hfire, -, rfl⟩ := hpetTimerHandler_eq_ok.mp hhandler
  have hfired : hpetTimerCalls fired = [] ∧ (r.timer i).timerId = (h.timer i).timerId ∧
      (r.timer i).configCapabilities = (h.timer i).configCapabilities := by
    split_ifs at hfire
    · obtain ⟨rfl, -, hkeep⟩ := hpetFire_effect hfire
      exact ⟨hpetTimerCalls_hpetUpdateIrq i true h, hkeep i⟩
    · obtain ⟨rfl, rfl⟩ := Prod.mk.inj (Except.ok.inj hfire)
      exact ⟨rfl, rfl, rfl⟩
  obtain ⟨hnone, hid, hconfig⟩ := hfired
  refine ⟨hpetTicksToNs ((r.timer i).comparator - hpetGetTicks clock r.toHpetReference), ?_⟩
  unfold hpetTimerCalls at hnone ⊢
  rw [List.filterMap_append, hnone, ← hid, ← hconfig]
  rfl

/-- The mask of the periodic bit, in a byte. -/
lemma periodic_argument (b : HpetTimer) :
    (b.configCapabilities &&& Word.bit hpetTimerConfPeriodicEnabled).setWidth 8 ≠ 0 ↔
      b.periodic = true := by
  unfold HpetTimer.periodic
  rw [Word.and_bit]
  cases Word.has b.configCapabilities hpetTimerConfPeriodicEnabled with
  | true => exact iff_of_true (by decide) rfl
  | false => exact iff_of_false (by decide) Bool.false_ne_true

/-! ## The slot -/

section Slot

variable {s t : TimerState} {j : Fin maxTimers}

/-- The one-shot rule. -/
lemma active_reload (i : Fin maxTimers) (s : TimerState) :
    ((s.reload i).timers i).active =
      if (s.timers i).oneShot ≠ 0 then 0 else (s.timers i).active := by
  unfold TimerState.reload
  split_ifs
  · rw [TimerState.timers_setTimer_self, TimerState.timers_setTimer_self]
  · rw [TimerState.timers_setTimer_self]

lemma timerActivate_timer {index : BitVec 32} {nseconds : BitVec 64} {oneShot : BitVec 8}
    (hindex : timerIndex index = .ok j) (hcall : timerActivate index nseconds oneShot s = .ok t) :
    (t.timers j).active = 1 ∧ (t.timers j).oneShot = oneShot := by
  obtain ⟨k, hk, hrest⟩ := bind_eq_ok.mp hcall
  obtain rfl : j = k := Except.ok.inj (hindex.symm.trans hk)
  obtain rfl := Except.ok.inj hrest
  rw [TimerState.timers_setTimer_self]
  exact ⟨rfl, rfl⟩

/-- A slot that its handler activates keeps the life that the activation gives it exactly if that
is not a one-shot one. -/
lemma active_timerVisit {index : BitVec 32} {nseconds : BitVec 64} {oneShot : BitVec 8}
    (hindex : timerIndex index = .ok j) (hdue : (s.countDown j).Due j)
    (hvisit : timerVisit s (index, [.activate index nseconds oneShot]) = .ok t) :
    (t.timers j).active ≠ 0 ↔ oneShot = 0 := by
  obtain ⟨k, hk, hcase⟩ := timerVisit_eq_ok hvisit
  obtain rfl : j = k := Except.ok.inj (hindex.symm.trans hk)
  obtain ⟨hnot, -⟩ | ⟨-, u, hu, rfl⟩ := hcase
  · exact absurd hdue hnot
  · obtain ⟨v, hv, hnil⟩ := run_cons_ok.mp hu
    obtain rfl : v = u := by simpa using hnil
    obtain ⟨hactive, honeShot⟩ := timerActivate_timer hindex hv
    rw [active_reload, honeShot, hactive]
    by_cases hzero : oneShot = 0
    · rw [if_neg (not_not.mpr hzero)]
      exact iff_of_true (by decide) hzero
    · rw [if_pos hzero]
      exact iff_of_false (not_not.mpr rfl) hzero

/-- Such a turn goes through. -/
lemma exists_timerVisit {index : BitVec 32} {nseconds : BitVec 64} {oneShot : BitVec 8}
    (hindex : timerIndex index = .ok j) (hdue : (s.countDown j).Due j) :
    ∃ t, timerVisit s (index, [.activate index nseconds oneShot]) = .ok t := by
  have hcall : ∃ u, run timerCall ((s.countDown j).fire j) [.activate index nseconds oneShot] =
      .ok u := by
    rw [run, timerCall, timerActivate, hindex]
    exact ⟨_, rfl⟩
  obtain ⟨u, hu⟩ := hcall
  refine ⟨u.reload j, ?_⟩
  rw [timerVisit, hindex, ok_bind, if_pos hdue, hu]
  rfl

/-! ## A slot that has stopped -/

/-- The call activates the slot. -/
def TimerCall.Activates (j : Fin maxTimers) : TimerCall → Prop
  | .activate index _ _ => timerIndex index = .ok j
  | .deactivate _ => False

/-- Some call of the operation activates the slot, in a tick one of another slot's handler. -/
def TimerOp.Activates (j : Fin maxTimers) : TimerOp → Prop
  | .tick _ calls => ∃ k, k ≠ j.val ∧ ∃ c ∈ calls k, c.Activates j
  | .call c => c.Activates j
  | .create => False
  | .register _ => False

/-- The slot has been handed out and has stopped, and these are its firings so far. -/
def TimerState.Quiet (j : Fin maxTimers) (fired : List Firing) (s : TimerState) : Prop :=
  (s.timers j).active = 0 ∧ j.val < s.timersIdx.toNat ∧
    s.firings.filter (fun f => f.timer = j) = fired

variable {fired : List Firing}

lemma TimerState.Quiet.congr (hquiet : s.Quiet j fired) (htimers : t.timers = s.timers)
    (hidx : t.timersIdx = s.timersIdx) (hfirings : t.firings = s.firings) : t.Quiet j fired := by
  unfold TimerState.Quiet
  rw [htimers, hidx, hfirings]
  exact hquiet

lemma TimerState.Quiet.setTimer (hquiet : s.Quiet j fired) {i : Fin maxTimers} {b : Timer}
    (hb : i = j → b.active = 0) : (s.setTimer i b).Quiet j fired := by
  obtain ⟨hactive, hidx, hfirings⟩ := hquiet
  refine ⟨?_, hidx, hfirings⟩
  by_cases hi : i = j
  · subst hi
    rw [TimerState.timers_setTimer_self]
    exact hb rfl
  · have hne : (s.setTimer i b).timers j = s.timers j := Function.update_of_ne (Ne.symm hi) ..
    rw [hne]
    exact hactive

lemma TimerState.Quiet.endLife (hquiet : s.Quiet j fired) (i : Fin maxTimers) :
    (s.endLife i).Quiet j fired :=
  hquiet.congr (s.timers_endLife i) (s.timersIdx_endLife i) (s.firings_endLife i)

lemma TimerState.Quiet.logReactivation (hquiet : s.Quiet j fired) (i : Fin maxTimers)
    (nseconds : BitVec 64) : (s.logReactivation i nseconds).Quiet j fired :=
  hquiet.congr (s.timers_logReactivation i nseconds) (s.timersIdx_logReactivation i nseconds)
    (s.firings_logReactivation i nseconds)

lemma timerIndex_ofNat (j : Fin maxTimers) : timerIndex (BitVec.ofNat 32 j.val) = .ok j := by
  have hlt := j.isLt
  have hval : (BitVec.ofNat 32 j.val).toNat = j.val := by
    rw [BitVec.toNat_ofNat]
    unfold maxTimers at hlt
    omega
  unfold timerIndex
  simp only [hval]
  rw [dif_pos hlt]

/-- The slot after those that have been handed out is another one. -/
lemma free_ne {free : Fin maxTimers} (hquiet : s.Quiet j fired)
    (hfree : timerIndex s.timersIdx = .ok free) :
    free ≠ j ∧ j.val < (s.timersIdx + 1).toNat := by
  have hlt := hquiet.2.1
  unfold timerIndex at hfree
  split_ifs at hfree with hbound
  have hval : free.val = s.timersIdx.toNat := congrArg Fin.val (Except.ok.inj hfree).symm
  have hone : (s.timersIdx + 1).toNat = s.timersIdx.toNat + 1 := by
    rw [BitVec.toNat_add]
    unfold maxTimers at hbound
    exact Nat.mod_eq_of_lt (by simp; omega)
  refine ⟨fun heq => ?_, by omega⟩
  rw [heq] at hval
  omega

lemma quiet_timerCall (hquiet : s.Quiet j fired) {c : TimerCall}
    (hnot : ¬c.Activates j) (hcall : timerCall s c = .ok t) : t.Quiet j fired := by
  cases c with
  | activate index nseconds oneShot =>
      obtain ⟨i, hi, hrest⟩ := bind_eq_ok.mp hcall
      obtain rfl := Except.ok.inj hrest
      refine TimerState.Quiet.setTimer ?_ fun heq => absurd (heq ▸ hi) hnot
      exact (hquiet.logReactivation i nseconds).congr rfl rfl rfl
  | deactivate index =>
      obtain ⟨i, -, hrest⟩ := bind_eq_ok.mp hcall
      obtain ⟨free, -, hrest⟩ := bind_eq_ok.mp hrest
      obtain rfl := Except.ok.inj hrest
      have hstopped := (hquiet.endLife i).setTimer (i := i)
        (b := { (s.endLife i).timers i with active := 0 }) fun _ => rfl
      exact hstopped.setTimer fun heq => heq ▸ hstopped.1

lemma TimerState.Quiet.countDown (hquiet : s.Quiet j fired) (i : Fin maxTimers) :
    (s.countDown i).Quiet j fired := by
  unfold TimerState.countDown
  split_ifs
  · exact hquiet.setTimer fun heq => heq ▸ hquiet.1
  · exact hquiet

/-- Another slot fires. -/
lemma TimerState.Quiet.fire (hquiet : s.Quiet j fired) {i : Fin maxTimers} (hne : i ≠ j) :
    (s.fire i).Quiet j fired := by
  have hcleared := hquiet.setTimer (i := i) (b := { s.timers i with timeToFire := 0 })
    fun heq => absurd heq hne
  refine ⟨hcleared.1, hcleared.2.1, ?_⟩
  have hfirings : (s.fire i).firings =
      ⟨i, (s.timers i).nseconds, s.since i, timerGetClockNs s⟩ :: s.firings := by
    unfold TimerState.fire TimerState.logFiring
    simp only [TimerState.firings_setSince, TimerState.firings_setTimer,
      TimerState.timers_setTimer_self]
    rfl
  rw [hfirings, List.filter_cons_of_neg (by simpa using hne)]
  exact hquiet.2.2

lemma TimerState.Quiet.reload (hquiet : s.Quiet j fired) {i : Fin maxTimers} (hne : i ≠ j) :
    (s.reload i).Quiet j fired := by
  unfold TimerState.reload
  refine TimerState.Quiet.setTimer ?_ fun heq => absurd heq hne
  split_ifs
  · exact (hquiet.endLife i).setTimer fun _ => rfl
  · exact hquiet

/-- A turn of the loop: the slot itself is not due, and another one does not activate it. -/
lemma quiet_timerVisit (hquiet : s.Quiet j fired) {index : BitVec 32}
    {calls : List TimerCall} (hnot : timerIndex index ≠ .ok j → ∀ c ∈ calls, ¬c.Activates j)
    (hvisit : timerVisit s (index, calls) = .ok t) : t.Quiet j fired := by
  obtain ⟨i, hi, ⟨-, rfl⟩ | ⟨hdue, u, hu, rfl⟩⟩ := timerVisit_eq_ok hvisit
  · exact hquiet.countDown i
  · have hne : i ≠ j := by
      rintro rfl
      exact hdue.1 (hquiet.countDown i).1
    have hother : timerIndex index ≠ .ok j := fun hj => hne (Except.ok.inj (hi.symm.trans hj))
    refine TimerState.Quiet.reload ?_ hne
    refine run_invariant (I := TimerState.Quiet j fired) (P := fun _ c => ¬c.Activates j)
      (fun s c t hI hc hcall => quiet_timerCall hI hc hcall) ((hquiet.countDown i).fire hne) ?_ hu
    exact Meets.of_forall (hnot hother)

lemma quiet_timerStep (hquiet : s.Quiet j fired) {op : TimerOp} (hnot : ¬op.Activates j)
    (hstep : timerStep s op = .ok t) : t.Quiet j fired := by
  cases op with
  | tick ticks calls =>
      have hvisits : ∀ s turn t, s.Quiet j fired →
          (timerIndex turn.1 ≠ .ok j → ∀ c ∈ turn.2, ¬c.Activates j) →
          timerVisit s turn = .ok t → t.Quiet j fired :=
        fun _ _ _ hI hturn hvisit => quiet_timerVisit hI hturn hvisit
      have hstart : (s.advance ticks).Quiet j fired := hquiet.congr rfl rfl rfl
      refine run_invariant hvisits hstart ?_ hstep
      refine Meets.of_forall fun turn hturn hother c hc hactivates => ?_
      obtain ⟨k, hk, rfl⟩ := List.mem_map.mp hturn
      refine hnot ⟨k, ?_, c, hc, hactivates⟩
      rintro rfl
      exact hother (timerIndex_ofNat j)
  | call c => exact quiet_timerCall hquiet hnot hstep
  | create =>
      obtain ⟨free, hfree, hrest⟩ := bind_eq_ok.mp hstep
      obtain rfl := Except.ok.inj hrest
      obtain ⟨hne, hidx⟩ := free_ne hquiet hfree
      have hset := hquiet.setTimer (i := free)
        (b := { nseconds := 0, timeToFire := 0, active := 0, oneShot := 0 }) fun _ => rfl
      exact ⟨hset.1, hidx, hset.2.2⟩
  | register nseconds =>
      obtain ⟨free, hfree, hrest⟩ := bind_eq_ok.mp hstep
      obtain rfl := Except.ok.inj hrest
      obtain ⟨hne, hidx⟩ := free_ne hquiet hfree
      have hset := (hquiet.congr (t := s.setSince free) rfl rfl rfl).setTimer (i := free)
        (b := { nseconds := nseconds.setWidth 64, timeToFire := nseconds.setWidth 64, active := 1
                oneShot := 0 }) fun heq => absurd heq hne
      exact ⟨hset.1, hidx, hset.2.2⟩

lemma quiet_run {ops : List TimerOp} (hquiet : s.Quiet j fired)
    (hops : ∀ op ∈ ops, ¬op.Activates j) (hrun : run timerStep s ops = .ok t) :
    t.Quiet j fired := by
  have hsteps : ∀ s op t, s.Quiet j fired → ¬op.Activates j → timerStep s op = .ok t →
      t.Quiet j fired := fun _ _ _ hI hnot hstep => quiet_timerStep hI hnot hstep
  exact run_invariant hsteps hquiet (Meets.of_forall hops) hrun

lemma timersIdx_timerActivate {index : BitVec 32} {nseconds : BitVec 64} {oneShot : BitVec 8}
    (hcall : timerActivate index nseconds oneShot s = .ok t) : t.timersIdx = s.timersIdx := by
  obtain ⟨i, -, hrest⟩ := bind_eq_ok.mp hcall
  obtain rfl := Except.ok.inj hrest
  exact s.timersIdx_logReactivation i nseconds

/-- A turn of the loop hands out no slot. -/
lemma timersIdx_timerVisit {index : BitVec 32} {nseconds : BitVec 64} {oneShot : BitVec 8}
    (hvisit : timerVisit s (index, [.activate index nseconds oneShot]) = .ok t) :
    t.timersIdx = s.timersIdx := by
  obtain ⟨i, -, ⟨-, rfl⟩ | ⟨-, u, hu, rfl⟩⟩ := timerVisit_eq_ok hvisit
  · exact s.timersIdx_countDown i
  · obtain ⟨v, hv, hnil⟩ := run_cons_ok.mp hu
    obtain rfl : v = u := by simpa using hnil
    have hfire : ((s.countDown i).fire i).timersIdx = (s.countDown i).timersIdx := rfl
    rw [TimerState.timersIdx_reload, timersIdx_timerActivate hv, hfire,
      TimerState.timersIdx_countDown]

end Slot

/-- After a turn of `TimerTick` in which the handler of an HPET timer runs, the slot of the timer
is active exactly when the timer is not periodic.  The slot of a periodic timer does not fire again
for as long as nothing activates it. -/
theorem hpet_mode_inverted {clock : BitVec 64} {i : Fin 3} {h g : Hpet} {calls : List HpetCall}
    {s t : TimerState} {j : Fin maxTimers} (hhandler : hpetTimerHandler clock i h = .ok (g, calls))
    (hslot : timerIndex (h.timer i).timerId = .ok j) (hout : j.val < s.timersIdx.toNat)
    (hdue : (s.countDown j).Due j)
    (hvisit : timerVisit s ((h.timer i).timerId, hpetTimerCalls calls) = .ok t) :
    ¬((t.timers j).active ≠ 0 ↔ (h.timer i).periodic = true) ∧
      ((h.timer i).periodic = true → ∀ ops u, (∀ op ∈ ops, ¬op.Activates j) →
        run timerStep t ops = .ok u →
        u.firings.filter (fun f => f.timer = j) = t.firings.filter (fun f => f.timer = j)) := by
  obtain ⟨nseconds, hcalls⟩ := hpetTimerHandler_calls hhandler
  rw [hcalls] at hvisit
  have hactive := active_timerVisit hslot hdue hvisit
  have hmode := periodic_argument (h.timer i)
  constructor
  · rw [hactive, ← hmode]
    exact iff_not_self
  · intro hperiodic ops u hops hrun
    have hstopped : (t.timers j).active = 0 := by
      by_contra hne
      exact hmode.mpr hperiodic (hactive.mp hne)
    have hquiet : t.Quiet j (t.firings.filter fun f => f.timer = j) := by
      refine ⟨hstopped, ?_, rfl⟩
      rw [timersIdx_timerVisit hvisit]
      exact hout
    exact (quiet_run hquiet hops hrun).2.2

/-- A guest that starts a periodic timer. -/
lemma hpet_periodic_started :
    ∃ h, run hpetStep (Hpet.initial fun i => BitVec.ofNat 32 i)
        [(0, .write 0x100 0x4c 4), (0, .write 0x108 100 4), (0, .write 0x10 1 4)] = .ok h ∧
      (h.timer 0).timerId = 0 ∧ (h.timer 0).periodic = true ∧
      ends (fun _ => True) (hpetTimerHandler 1 0 h) = true :=
  exists_of_ends (fun h => (h.timer 0).timerId = 0 ∧ (h.timer 0).periodic = true ∧
    ends (fun _ => True) (hpetTimerHandler 1 0 h) = true) (by decide)

/-- The slots of the three timers then, in the first tick. -/
lemma hpet_slots_started :
    ends (fun s => timerGetClockNs (s.advance 4) = 1 ∧ 0 < (s.advance 4).timersIdx.toNat ∧
        ((s.advance 4).countDown ⟨0, by decide⟩).Due ⟨0, by decide⟩)
      (run timerStep timerInitialize
        [.create, .create, .create, .call (.activate 0 1000 8), .call (.activate 1 0 0),
          .call (.activate 2 0 0)]) = true := by
  decide +kernel

/-- The turn of the first of them. -/
lemma hpet_periodic_turn :
    ∃ h g calls s t, run hpetStep (Hpet.initial fun i => BitVec.ofNat 32 i)
        [(0, .write 0x100 0x4c 4), (0, .write 0x108 100 4), (0, .write 0x10 1 4)] = .ok h ∧
      run timerStep timerInitialize
        [.create, .create, .create, .call (.activate 0 1000 8), .call (.activate 1 0 0),
          .call (.activate 2 0 0)] = .ok s ∧
      hpetTimerHandler (timerGetClockNs (s.advance 4)) 0 h = .ok (g, calls) ∧
      timerVisit (s.advance 4) ((h.timer 0).timerId, hpetTimerCalls calls) = .ok t ∧
      timerIndex (h.timer 0).timerId = .ok ⟨0, by decide⟩ ∧ (h.timer 0).periodic = true ∧
      0 < (s.advance 4).timersIdx.toNat ∧
      ((s.advance 4).countDown ⟨0, by decide⟩).Due ⟨0, by decide⟩ := by
  obtain ⟨h, hh, hid, hperiodic, hends⟩ := hpet_periodic_started
  obtain ⟨s, hs, hclock, hout, hdue⟩ := exists_of_ends _ hpet_slots_started
  obtain ⟨⟨g, calls⟩, hg, -⟩ := exists_of_ends _ hends
  have hslot : timerIndex (h.timer 0).timerId = .ok ⟨0, by decide⟩ := by
    rw [hid]
    rfl
  obtain ⟨nseconds, hcalls⟩ := hpetTimerHandler_calls hg
  obtain ⟨t, ht⟩ : ∃ t,
      timerVisit (s.advance 4) ((h.timer 0).timerId, hpetTimerCalls calls) = .ok t := by
    rw [hcalls]
    exact exists_timerVisit hslot hdue
  have hg' : hpetTimerHandler (timerGetClockNs (s.advance 4)) 0 h = .ok (g, calls) := by
    rw [hclock]
    exact hg
  exact ⟨h, g, calls, s, t, hh, hs, hg', ht, hslot, hperiodic, hout, hdue⟩

theorem hpet_periodic_mode_inverted :
    ∃ h g calls s t, hpetTimerHandler (timerGetClockNs s) 0 h = .ok (g, calls) ∧
      timerVisit s ((h.timer 0).timerId, hpetTimerCalls calls) = .ok t ∧
      ¬((t.timers ⟨0, by decide⟩).active ≠ 0 ↔ (h.timer 0).periodic = true) ∧
      ((h.timer 0).periodic = true → ∀ ops u,
        (∀ op ∈ ops, ¬op.Activates ⟨0, by decide⟩) → run timerStep t ops = .ok u →
        u.firings.filter (fun f => f.timer = ⟨0, by decide⟩) =
          t.firings.filter (fun f => f.timer = ⟨0, by decide⟩)) := by
  obtain ⟨h, g, calls, s, t, -, -, hg, ht, hslot, -, hout, hdue⟩ := hpet_periodic_turn
  exact ⟨h, g, calls, s.advance 4, t, hg, ht, hpet_mode_inverted hg hslot hout hdue ht⟩

/-- The periodic timer of this guest is stopped by its first expiry. -/
theorem hpet_periodic_timer_stops :
    ∃ h g calls s t, run hpetStep (Hpet.initial fun i => BitVec.ofNat 32 i)
        [(0, .write 0x100 0x4c 4), (0, .write 0x108 100 4), (0, .write 0x10 1 4)] = .ok h ∧
      run timerStep timerInitialize
        [.create, .create, .create, .call (.activate 0 1000 8), .call (.activate 1 0 0),
          .call (.activate 2 0 0)] = .ok s ∧
      hpetTimerHandler (timerGetClockNs (s.advance 4)) 0 h = .ok (g, calls) ∧
      timerVisit (s.advance 4) ((h.timer 0).timerId, hpetTimerCalls calls) = .ok t ∧
      (h.timer 0).periodic = true ∧
      ¬((t.timers ⟨0, by decide⟩).active ≠ 0 ↔ (h.timer 0).periodic = true) := by
  obtain ⟨h, g, calls, s, t, hh, hs, hg, ht, hslot, hperiodic, -, hdue⟩ := hpet_periodic_turn
  obtain ⟨nseconds, hcalls⟩ := hpetTimerHandler_calls hg
  have hvisit := ht
  rw [hcalls] at hvisit
  have hactive := active_timerVisit hslot hdue hvisit
  refine ⟨h, g, calls, s, t, hh, hs, hg, ht, hperiodic, ?_⟩
  rw [hactive, ← periodic_argument]
  exact iff_not_self

end Svmm
