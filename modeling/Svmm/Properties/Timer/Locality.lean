import Svmm.Properties.Timer.Effects

/-!
# What a deactivation touches

`TimerDeactivate` marks the timer it is given inactive, and clears the interval and the countdown
of `Timers[TimersIdx]` instead of its own: the first slot that no timer has, or with a full table
what lies after it.  As no created timer has that slot, the calls on two timers still commute.
-/

namespace Svmm

open TransitionRun

/-- The globals of `timer.c`, without the history. -/
def TimerState.globals (s : TimerState) :
    BitVec 32 × BitVec 64 × BitVec 64 × (Fin maxTimers → Timer) :=
  (s.timersIdx, s.ticksTotal, s.nsecondsTotal, s.timers)

/-- The slot that a deactivation of it leaves. -/
def Timer.deactivated (t : Timer) : Timer := { t with active := 0, nseconds := 0, timeToFire := 0 }

/-- The interval and the countdown are zero. -/
def Timer.Clear (t : Timer) : Prop := t.nseconds = 0 ∧ t.timeToFire = 0

instance (t : Timer) : Decidable t.Clear := inferInstanceAs (Decidable (_ ∧ _))

/-- The timer that a call is about. -/
def TimerCall.index : TimerCall → BitVec 32
  | .activate index _ _ => index
  | .deactivate index => index

/-- What the calls do to the globals does not depend on their order. -/
def TimerCall.CommuteAt (c d : TimerCall) (s : TimerState) : Prop :=
  (run timerCall s [c, d]).map TimerState.globals = (run timerCall s [d, c]).map TimerState.globals

/-- A deactivation of the timer changes its own slot only, and so the calls on it commute with
those on any other timer. -/
def DeactivatesAlone (index : BitVec 32) (s : TimerState) : Prop :=
  (∃ i, timerIndex index = .ok i ∧
    (timerDeactivate index s).map TimerState.globals =
      .ok (s.timersIdx, s.ticksTotal, s.nsecondsTotal,
        Function.update s.timers i (s.timers i).deactivated)) ∧
    ∀ c d : TimerCall, c.index = index → d.index ≠ index → d.index.toNat < s.timersIdx.toNat →
      c.CommuteAt d s

/-! ## The calls -/

/-- What a call does to the slot of its timer. -/
def TimerCall.onTimer (t : Timer) : TimerCall → Timer
  | .activate _ nseconds oneShot => { t with active := 1, nseconds := nseconds, oneShot := oneShot }
  | .deactivate _ => { t with active := 0 }

/-- What a call does to the first free slot. -/
def TimerCall.onFree (t : Timer) : TimerCall → Timer
  | .activate _ _ _ => t
  | .deactivate _ => { t with nseconds := 0, timeToFire := 0 }

/-- What a call does to the table. -/
def TimerCall.effect (i free : Fin maxTimers) (timers : Fin maxTimers → Timer) (c : TimerCall) :
    Fin maxTimers → Timer :=
  Function.update (Function.update timers i (c.onTimer (timers i))) free (c.onFree (timers free))

section Calls

variable {s : TimerState} {c d : TimerCall} {i j free : Fin maxTimers}

lemma timerIndex_of_lt {index : BitVec 32} (h : index.toNat < maxTimers) :
    timerIndex index = .ok ⟨index.toNat, h⟩ := by
  unfold timerIndex
  rw [dif_pos h]

lemma val_of_timerIndex {index : BitVec 32} (h : timerIndex index = .ok i) :
    i.val = index.toNat := by
  unfold timerIndex at h
  split at h
  · obtain rfl := Except.ok.inj h
    rfl
  · cases h

lemma globals_timerActivate {index : BitVec 32} (hi : timerIndex index = .ok i)
    (nseconds : BitVec 64) (oneShot : BitVec 8) :
    (timerActivate index nseconds oneShot s).map TimerState.globals =
      .ok (s.timersIdx, s.ticksTotal, s.nsecondsTotal, Function.update s.timers i
        { s.timers i with active := 1, nseconds := nseconds, oneShot := oneShot }) := by
  unfold timerActivate
  rw [hi, ok_bind]
  refine congrArg Except.ok ?_
  unfold TimerState.globals TimerState.setTimer TimerState.setSince TimerState.logReactivation
  split <;> rfl

lemma globals_timerDeactivate {index : BitVec 32} (hi : timerIndex index = .ok i)
    (hfree : timerIndex s.timersIdx = .ok free) (hne : i ≠ free) :
    (timerDeactivate index s).map TimerState.globals =
      .ok (s.timersIdx, s.ticksTotal, s.nsecondsTotal,
        (TimerCall.deactivate index).effect i free s.timers) := by
  have hidx : ((s.endLife i).setTimer i { (s.endLife i).timers i with active := 0 }).timersIdx =
      s.timersIdx := s.timersIdx_endLife i
  unfold timerDeactivate
  rw [hi, ok_bind]
  dsimp only
  rw [hidx, hfree, ok_bind]
  have hfreeSlot (t : Timer) : Function.update s.timers i t free = s.timers free :=
    Function.update_of_ne hne.symm _ _
  refine congrArg Except.ok ?_
  simp only [TimerState.globals, TimerState.setTimer, TimerState.endLife, TimerCall.effect,
    TimerCall.onTimer, TimerCall.onFree]
  split <;> simp only [hfreeSlot]

/-- With a full table a deactivation writes past its end. -/
lemma timerDeactivate_full {index : BitVec 32} (hi : timerIndex index = .ok i)
    (hfull : timerIndex s.timersIdx = .error .outOfBounds) :
    timerDeactivate index s = .error .outOfBounds := by
  have htimers : ((s.endLife i).setTimer i { (s.endLife i).timers i with active := 0 }).timersIdx =
      s.timersIdx := s.timersIdx_endLife i
  unfold timerDeactivate
  rw [hi, ok_bind]
  dsimp only
  rw [htimers, hfull]
  rfl

/-- A call with room in the table. -/
lemma globals_timerCall (hi : timerIndex c.index = .ok i)
    (hfree : timerIndex s.timersIdx = .ok free) (hne : i ≠ free) :
    (timerCall s c).map TimerState.globals =
      .ok (s.timersIdx, s.ticksTotal, s.nsecondsTotal, c.effect i free s.timers) := by
  cases c with
  | activate index nseconds oneShot =>
      have hsame : (TimerCall.activate index nseconds oneShot).effect i free s.timers =
          Function.update s.timers i
            { s.timers i with active := 1, nseconds := nseconds, oneShot := oneShot } := by
        refine Function.update_eq_iff.mpr ⟨?_, fun _ _ => rfl⟩
        exact (Function.update_of_ne hne.symm _ _).symm
      rw [hsame]
      exact globals_timerActivate hi nseconds oneShot
  | deactivate index => exact globals_timerDeactivate hi hfree hne

lemma onFree_comm (t : Timer) : d.onFree (c.onFree t) = c.onFree (d.onFree t) := by
  cases c <;> cases d <;> rfl

/-- The calls on two timers, neither of which has the slot that deactivations clear. -/
lemma effect_comm (hij : i ≠ j) (hi : i ≠ free) (hj : j ≠ free) (timers : Fin maxTimers → Timer) :
    d.effect j free (c.effect i free timers) = c.effect i free (d.effect j free timers) := by
  funext k
  unfold TimerCall.effect
  by_cases hkfree : k = free
  · subst hkfree
    simp only [Function.update_self, onFree_comm]
  · by_cases hki : k = i
    · subst hki
      simp [hi, hij]
    · simp [Function.update_apply, hkfree, hki, hi, hj, hij, hij.symm]

/-- With room in the table, two calls have both their effects. -/
lemma globals_run_pair (hi : timerIndex c.index = .ok i) (hj : timerIndex d.index = .ok j)
    (hfree : timerIndex s.timersIdx = .ok free) (hni : i ≠ free) (hnj : j ≠ free) :
    (run timerCall s [c, d]).map TimerState.globals =
      .ok (s.timersIdx, s.ticksTotal, s.nsecondsTotal,
        d.effect j free (c.effect i free s.timers)) := by
  have hc := globals_timerCall hi hfree hni
  cases ht : timerCall s c with
  | error e => rw [ht] at hc; cases hc
  | ok t =>
      rw [ht] at hc
      obtain ⟨hidx, hticks, hns, htimers⟩ :
          t.timersIdx = s.timersIdx ∧ t.ticksTotal = s.ticksTotal ∧
            t.nsecondsTotal = s.nsecondsTotal ∧ t.timers = c.effect i free s.timers := by
        have hglobals := Except.ok.inj hc
        simpa [TimerState.globals] using hglobals
      have hd := @globals_timerCall t d j free hj (by rw [hidx]; exact hfree) hnj
      rw [hidx, hticks, hns, htimers] at hd
      simp only [run, ht, ok_bind]
      cases hu : timerCall t d with
      | ok u => rwa [hu] at hd
      | error e => rw [hu] at hd; cases hd

end Calls

/-! ## The exact condition -/

/-- There is room in the table, and the interval and the countdown of the timer and of the first
free slot are zero already. -/
def DeactivatesClear (index : BitVec 32) (s : TimerState) : Prop :=
  ∃ i free, timerIndex index = .ok i ∧ timerIndex s.timersIdx = .ok free ∧
    (s.timers i).Clear ∧ (s.timers free).Clear

section Exact

variable {s : TimerState} {index : BitVec 32}

/-- No created timer has the first free slot. -/
lemma created_ne_free {i free : Fin maxTimers} (hcreated : index.toNat < s.timersIdx.toNat)
    (hi : timerIndex index = .ok i) (hfree : timerIndex s.timersIdx = .ok free) : i ≠ free := by
  have hival := val_of_timerIndex hi
  have hfreeval := val_of_timerIndex hfree
  intro hsame
  rw [hsame, hfreeval] at hival
  omega

/-- The slot of a timer is cleared exactly if it was clear before. -/
lemma onTimer_deactivate_iff (t : Timer) :
    (TimerCall.deactivate index).onTimer t = t.deactivated ↔ t.Clear := by
  simp only [TimerCall.onTimer, Timer.deactivated, Timer.Clear, Timer.mk.injEq, and_true]

lemma onFree_deactivate_iff (t : Timer) :
    (TimerCall.deactivate index).onFree t = t ↔ t.Clear := by
  obtain ⟨nseconds, timeToFire, active, oneShot⟩ := t
  simp only [TimerCall.onFree, Timer.Clear, Timer.mk.injEq, and_true]
  exact and_congr eq_comm eq_comm

/-- The effect of a deactivation is the one that is right exactly if both slots were clear. -/
lemma effect_deactivate_iff {i free : Fin maxTimers} (hne : i ≠ free)
    (timers : Fin maxTimers → Timer) :
    (TimerCall.deactivate index).effect i free timers =
        Function.update timers i (timers i).deactivated ↔
      (timers i).Clear ∧ (timers free).Clear := by
  rw [← @onTimer_deactivate_iff index (timers i), ← @onFree_deactivate_iff index (timers free)]
  unfold TimerCall.effect
  constructor
  · intro heq
    have hown := congrFun heq i
    have hfree := congrFun heq free
    rw [Function.update_of_ne hne, Function.update_self, Function.update_self] at hown
    rw [Function.update_self, Function.update_of_ne hne.symm] at hfree
    exact ⟨hown, hfree⟩
  · rintro ⟨hown, hfree⟩
    rw [hown, hfree, Function.update_eq_self_iff]
    exact (Function.update_of_ne hne.symm _ _).symm

/-- A deactivation touches its own slot only, exactly where that slot and the first free one are
clear already and the table is not full. -/
theorem timer_deactivate_local_iff (hcreated : index.toNat < s.timersIdx.toNat)
    (htable : s.timersIdx.toNat ≤ maxTimers) :
    DeactivatesAlone index s ↔ DeactivatesClear index s := by
  have hi : timerIndex index = .ok ⟨index.toNat, by omega⟩ := timerIndex_of_lt (by omega)
  constructor
  · rintro ⟨⟨i, hi, hresult⟩, -⟩
    cases hfree : timerIndex s.timersIdx with
    | error e =>
        cases e
        rw [timerDeactivate_full hi hfree] at hresult
        cases hresult
    | ok free =>
        have hne := created_ne_free hcreated hi hfree
        rw [globals_timerDeactivate hi hfree hne] at hresult
        have htimers := congrArg (fun r => r.2.2.2) (Except.ok.inj hresult)
        exact ⟨i, free, hi, hfree, (effect_deactivate_iff hne _).mp htimers⟩
  · rintro ⟨i, free, hi, hfree, hclear⟩
    have hne := created_ne_free hcreated hi hfree
    refine ⟨⟨i, hi, ?_⟩, fun c d hc hd hdcreated => ?_⟩
    · rw [globals_timerDeactivate hi hfree hne, (effect_deactivate_iff hne _).mpr hclear]
    · have hj : timerIndex d.index = .ok ⟨d.index.toNat, by omega⟩ := timerIndex_of_lt (by omega)
      have hci : timerIndex c.index = .ok i := by rw [hc]; exact hi
      have hnj := created_ne_free hdcreated hj hfree
      have hij : i ≠ ⟨d.index.toNat, by omega⟩ := by
        intro hsame
        have hval := val_of_timerIndex hi
        rw [hsame] at hval
        exact hd (BitVec.eq_of_toNat_eq hval)
      unfold TimerCall.CommuteAt
      rw [globals_run_pair hci hj hfree hne hnj, globals_run_pair hj hci hfree hnj hne,
        effect_comm hij hne hnj]

/-- A timer that has been created and never activated is deactivated alone. -/
theorem timer_deactivate_local_of_created :
    ∃ s, run timerStep timerInitialize [.register 5, .create] = .ok s ∧ DeactivatesAlone 1 s := by
  have hends : ends (fun s => (1 : BitVec 32).toNat < s.timersIdx.toNat ∧
      s.timersIdx.toNat ≤ maxTimers ∧ timerIndex s.timersIdx = .ok ⟨2, by decide⟩ ∧
      (s.timers ⟨1, by decide⟩).Clear ∧ (s.timers ⟨2, by decide⟩).Clear)
      (run timerStep timerInitialize [.register 5, .create]) = true := by
    decide +kernel
  obtain ⟨s, hs, hcreated, htable, hfree, hclear⟩ := exists_of_ends _ hends
  exact ⟨s, hs, (timer_deactivate_local_iff hcreated htable).mpr ⟨_, _, rfl, hfree, hclear⟩⟩

/-- A timer that has been registered for 5 ns keeps its interval when it is deactivated. -/
theorem timer_deactivate_leaves_interval :
    ∃ s, run timerStep timerInitialize [.register 5] = .ok s ∧ s.timersIdx = 1 ∧
      ¬ DeactivatesAlone 0 s := by
  have hends : ends (fun s => s.timersIdx = 1 ∧
      ends (fun t => ∀ i : Fin maxTimers, i.val = 0 → (t.timers i).nseconds = 5)
      (timerDeactivate 0 s) = true) (run timerStep timerInitialize [.register 5]) = true := by
    decide +kernel
  obtain ⟨s, hs, hidx, hdeactivate⟩ := exists_of_ends _ hends
  obtain ⟨t, ht, hkept⟩ := exists_of_ends _ hdeactivate
  refine ⟨s, hs, hidx, ?_⟩
  rintro ⟨⟨i, hi, hresult⟩, -⟩
  rw [ht] at hresult
  have hcleared : (t.timers i).nseconds = 0 := by
    have htimers := congrArg (fun r => (r.2.2.2 i).nseconds) (Except.ok.inj hresult)
    simpa [TimerState.globals, Timer.deactivated] using htimers
  rw [hkept i (val_of_timerIndex hi)] at hcleared
  exact absurd hcleared (by decide)

end Exact

end Svmm
