import Svmm.Framework.Account
import Svmm.Properties.Timer.Effects

/-!
# When timers fire

A countdown is the time that is left, so it should lose at each tick what the clock has gained
since the last.  `TimerTick` takes off `NsecondsTotal` instead, the sum of all clock readings so
far, and neither does an activation set the countdown nor does a deactivation clear it.

The law is a judgement on the history, to which a step adds what the countdowns say.  What the
countdowns are is a matter of how the timers were set and of the sizes of the ticks: `TimerLedger`
keeps that account, without a countdown and without `NsecondsTotal`, and the history of a run is
lawful exactly when at every tick the account of an active timer allows it.
-/

namespace Svmm

open TransitionRun

/-- The handler was called when the programmed time had passed. -/
def Firing.OnTime (f : Firing) : Prop := f.since.toNat + f.nseconds.toNat ≤ f.clock.toNat

/-- The countdown starts from the duration asked for. -/
def Reactivation.Fresh (r : Reactivation) : Prop := r.timeToFire = r.nseconds

instance (f : Firing) : Decidable f.OnTime := inferInstanceAs (Decidable (_ ≤ _))
instance (r : Reactivation) : Decidable r.Fresh := inferInstanceAs (Decidable (_ = _))

namespace TimerState

variable (s : TimerState) (i : Fin maxTimers)

/-- The firing law, of everything that has happened. -/
def Lawful : Prop := (∀ f ∈ s.firings, f.OnTime) ∧ ∀ r ∈ s.reactivations, r.Fresh

/-- The programmed time has passed since the timer's activation or last firing. -/
def Elapsed : Prop :=
  (s.since i).toNat + (s.timers i).nseconds.toNat ≤ (timerGetClockNs s).toNat

/-- The countdown outlasts what the tick takes off it. -/
def OutlastsTick : Prop := 0 < ((s.timers i).timeToFire - s.nsecondsTotal).toInt

instance : Decidable s.Lawful := inferInstanceAs (Decidable (_ ∧ _))
instance : Decidable (s.Elapsed i) := inferInstanceAs (Decidable (_ ≤ _))
instance : Decidable (s.OutlastsTick i) := inferInstanceAs (Decidable (_ < _))

end TimerState

/-! ## What the countdowns have to meet -/

/-- A timer of which an earlier life has ended is activated for just the countdown that is left
of it. -/
def CallKeepsLaw (s : TimerState) : TimerCall → Prop
  | .activate index nseconds _ =>
      ∀ i, timerIndex index = .ok i → (s.timers i).active = 0 → s.ended i = true →
        (s.timers i).timeToFire = nseconds
  | .deactivate _ => True

/-- An active timer whose time has not passed has a countdown that outlasts the tick; and if the
timer fires, its handler's calls keep the law. -/
def VisitKeepsLaw (s : TimerState) (turn : BitVec 32 × List TimerCall) : Prop :=
  ∀ i, timerIndex turn.1 = .ok i →
    ((s.timers i).active ≠ 0 → ¬ s.Elapsed i → s.OutlastsTick i) ∧
      ((s.countDown i).Due i → Meets timerCall CallKeepsLaw ((s.countDown i).fire i) turn.2)

/-- Every turn of a tick, and every other call, keeps the law. -/
def StepKeepsLaw (s : TimerState) : TimerOp → Prop
  | .tick ticks calls =>
      Meets timerVisit VisitKeepsLaw (s.advance ticks) ((s.advance ticks).turns calls)
  | .call c => CallKeepsLaw s c
  | _ => True

/-! ## What a step adds to the history -/

section Step

variable {s t : TimerState} {i : Fin maxTimers}

lemma lawful_congr (hf : t.firings = s.firings) (hr : t.reactivations = s.reactivations) :
    t.Lawful ↔ s.Lawful := by
  unfold TimerState.Lawful
  rw [hf, hr]

lemma lawful_timerCall {c : TimerCall} (h : timerCall s c = .ok t) :
    t.Lawful ↔ s.Lawful ∧ CallKeepsLaw s c := by
  cases c with
  | activate index nseconds oneShot =>
      obtain ⟨i, hi, -, hf, hr⟩ := timerActivate_eq_ok h
      have hkeeps : CallKeepsLaw s (.activate index nseconds oneShot) ↔
          ((s.timers i).active = 0 ∧ s.ended i = true → (s.timers i).timeToFire = nseconds) := by
        refine ⟨fun hall hboth => hall i hi hboth.1 hboth.2, fun hone j hj hactive hended => ?_⟩
        obtain rfl : i = j := Except.ok.inj (hi.symm.trans hj)
        exact hone ⟨hactive, hended⟩
      rw [hkeeps]
      unfold TimerState.logReactivation at hr
      by_cases hboth : (s.timers i).active = 0 ∧ s.ended i = true
      · rw [if_pos hboth] at hr
        unfold TimerState.Lawful
        rw [hf, hr, List.forall_mem_cons]
        simp only [hboth, and_self, true_implies, Reactivation.Fresh]
        rw [and_assoc, and_comm (a := (s.timers i).timeToFire = nseconds)]
      · rw [if_neg hboth] at hr
        rw [lawful_congr hf hr]
        simp only [hboth, false_implies, and_true]
  | deactivate index =>
      obtain ⟨-, hf, hr⟩ := timerDeactivate_eq_ok h
      rw [lawful_congr hf hr]
      simp only [CallKeepsLaw, and_true]

lemma due_countDown_iff :
    (s.countDown i).Due i ↔ (s.timers i).active ≠ 0 ∧ ¬ s.OutlastsTick i := by
  unfold TimerState.Due TimerState.countDown TimerState.OutlastsTick
  by_cases hactive : (s.timers i).active = 0
  · have hnot : ¬ (s.timers i).active ≠ 0 := not_not.mpr hactive
    rw [if_neg hnot]
    simp only [hnot, false_and]
  · rw [if_pos hactive]
    simp only [TimerState.timers_setTimer_self, Int.not_lt]

/-- What a call of the handler adds: one firing, on time exactly when the time has passed. -/
lemma lawful_fire : ((s.countDown i).fire i).Lawful ↔ s.Lawful ∧ s.Elapsed i := by
  have hf : ((s.countDown i).fire i).firings =
      ⟨i, (s.timers i).nseconds, s.since i, timerGetClockNs s⟩ :: s.firings := by
    unfold TimerState.fire TimerState.countDown TimerState.logFiring
    split <;> simp [TimerState.setTimer, TimerState.setSince] <;> rfl
  unfold TimerState.Lawful
  rw [hf, TimerState.reactivations_fire, TimerState.reactivations_countDown,
    List.forall_mem_cons]
  unfold TimerState.Elapsed Firing.OnTime
  rw [and_assoc, and_comm]

lemma lawful_timerVisit {turn : BitVec 32 × List TimerCall} (h : timerVisit s turn = .ok t) :
    t.Lawful ↔ s.Lawful ∧ VisitKeepsLaw s turn := by
  obtain ⟨i, hi, hcase⟩ := timerVisit_eq_ok h
  have hkeeps : VisitKeepsLaw s turn ↔
      ((s.timers i).active ≠ 0 → ¬ s.Elapsed i → s.OutlastsTick i) ∧
        ((s.countDown i).Due i →
          Meets timerCall CallKeepsLaw ((s.countDown i).fire i) turn.2) := by
    refine ⟨fun hall => hall i hi, fun hone j hj => ?_⟩
    obtain rfl : i = j := Except.ok.inj (hi.symm.trans hj)
    exact hone
  rw [hkeeps]
  rcases hcase with ⟨hnot, rfl⟩ | ⟨hdue, u, hu, rfl⟩
  · rw [lawful_congr (s.firings_countDown i) (s.reactivations_countDown i)]
    have hoccurs : (s.timers i).active ≠ 0 → ¬ s.Elapsed i → s.OutlastsTick i := by
      intro hactive _
      by_contra hout
      exact hnot (due_countDown_iff.mpr ⟨hactive, hout⟩)
    exact ⟨fun hl => ⟨hl, hoccurs, fun hdue => absurd hdue hnot⟩, fun hl => hl.1⟩
  · rw [lawful_congr (u.firings_reload i) (u.reactivations_reload i),
      Meets.iff_of_step (fun _ _ _ => lawful_timerCall) hu, lawful_fire]
    obtain ⟨hactive, hout⟩ := due_countDown_iff.mp hdue
    constructor
    · rintro ⟨⟨hl, helapsed⟩, hcalls⟩
      exact ⟨hl, fun _ hnot => absurd helapsed hnot, fun _ => hcalls⟩
    · rintro ⟨hl, htime, hcalls⟩
      refine ⟨⟨hl, ?_⟩, hcalls hdue⟩
      by_contra hnot
      exact hout (htime hactive hnot)

lemma lawful_timerStep {op : TimerOp} (h : timerStep s op = .ok t) :
    t.Lawful ↔ s.Lawful ∧ StepKeepsLaw s op := by
  cases op with
  | tick ticks calls =>
      have hrun := Meets.iff_of_step (L := TimerState.Lawful) (fun _ _ _ => lawful_timerVisit) h
      rw [hrun, lawful_congr (s.firings_advance ticks) (s.reactivations_advance ticks)]
      exact Iff.rfl
  | call c => exact lawful_timerCall h
  | create =>
      obtain ⟨-, hf, hr⟩ := timerCreate_eq_ok h
      rw [lawful_congr hf hr]
      simp only [StepKeepsLaw, and_true]
  | register nseconds =>
      obtain ⟨-, hf, hr⟩ := timerRegister_eq_ok h
      rw [lawful_congr hf hr]
      simp only [StepKeepsLaw, and_true]

end Step

/-! ## How the timers were set -/

/-- For each timer, the duration that its countdown was last set to and the sum of the charges of
the ticks since then at which it was active.  A tick charges the sum of the clock's readings at all
ticks up to it. -/
structure TimerLedger where
  readings : BitVec 64
  setTo : Fin maxTimers → BitVec 64
  charges : Fin maxTimers → BitVec 64

namespace TimerLedger

variable (l : TimerLedger) (i : Fin maxTimers)

/-- Nothing is set and the clock has not been read. -/
def empty : TimerLedger where
  readings := 0
  setTo _ := 0
  charges _ := 0

/-- The clock is read at a tick. -/
def read (clock : BitVec 64) : TimerLedger := { l with readings := l.readings + clock }

/-- The timer is set to a duration. -/
def set (nseconds : BitVec 64) : TimerLedger :=
  { l with
    setTo := Function.update l.setTo i nseconds
    charges := Function.update l.charges i 0 }

/-- A tick charges the timer. -/
def charge : TimerLedger :=
  { l with charges := Function.update l.charges i (l.charges i + l.readings) }

/-- What the charges have left of the duration. -/
def left : BitVec 64 := l.setTo i - l.charges i

/-- The next charge leaves something of the duration. -/
def Outlasts : Prop := 0 < ((l.charge i).left i).toInt

instance : Decidable (l.Outlasts i) := inferInstanceAs (Decidable (_ < _))

/-- The first free timer is set to a duration. -/
def setFree (s : TimerState) (nseconds : BitVec 64) : TimerLedger :=
  match timerIndex s.timersIdx with
  | .ok free => l.set free nseconds
  | .error _ => l

end TimerLedger

/-! ## The timers beside their account -/

/-- `TimerActivate` sets no countdown; `TimerDeactivate` sets that of the first free timer to 0. -/
def ledgerCall (p : TimerState × TimerLedger) (c : TimerCall) :
    Except TimerFault (TimerState × TimerLedger) := do
  let t ← timerCall p.1 c
  match c with
  | .activate _ _ _ => return (t, p.2)
  | .deactivate _ => return (t, p.2.setFree p.1 0)

/-- A turn of the loop: an active timer is charged, and one that fires is set to 0 for the time of
its handler, and then to its period. -/
def ledgerVisit (p : TimerState × TimerLedger) :
    BitVec 32 × List TimerCall → Except TimerFault (TimerState × TimerLedger)
  | (index, calls) => do
    let i ← timerIndex index
    let s := p.1.countDown i
    let l := if (p.1.timers i).active ≠ 0 then p.2.charge i else p.2
    if s.Due i then
      let (t, l) ← run ledgerCall (s.fire i, l.set i 0) calls
      return (t.reload i, l.set i (t.timers i).nseconds)
    else return (s, l)

/-- `TimerCreate` sets the timer to 0, `TimerRegister` to its duration. -/
def ledgerStep (p : TimerState × TimerLedger) :
    TimerOp → Except TimerFault (TimerState × TimerLedger)
  | .tick ticks calls =>
      let s := p.1.advance ticks
      run ledgerVisit (s, p.2.read (timerGetClockNs s)) (s.turns calls)
  | .call c => ledgerCall p c
  | .create => do
      let t ← timerCreate p.1
      return (t, p.2.setFree p.1 0)
  | .register nseconds => do
      let t ← timerRegister nseconds p.1
      return (t, p.2.setFree p.1 (nseconds.setWidth 64))

/-- A timer of which an earlier life has ended is activated for just what the charges have left of
the duration that it was last set to. -/
def CallIsFresh (p : TimerState × TimerLedger) : TimerCall → Prop
  | .activate index nseconds _ =>
      ∀ i, timerIndex index = .ok i → (p.1.timers i).active = 0 → p.1.ended i = true →
        p.2.left i = nseconds
  | .deactivate _ => True

instance (p : TimerState × TimerLedger) (c : TimerCall) : Decidable (CallIsFresh p c) :=
  match c with
  | .activate index _ _ => inferInstanceAs (Decidable (∀ i, timerIndex index = .ok i → _))
  | .deactivate _ => inferInstanceAs (Decidable True)

/-- The time of an active timer has passed, or the charge leaves something of the duration that it
was last set to; and where nothing is left, the calls of its handler are fresh. -/
def TurnInTime (p : TimerState × TimerLedger) (turn : BitVec 32 × List TimerCall) : Prop :=
  ∀ i, timerIndex turn.1 = .ok i → (p.1.timers i).active ≠ 0 →
    (p.1.Elapsed i ∨ p.2.Outlasts i) ∧
      (¬ p.2.Outlasts i →
        Meets ledgerCall CallIsFresh ((p.1.countDown i).fire i, (p.2.charge i).set i 0) turn.2)

instance (p : TimerState × TimerLedger) (turn : BitVec 32 × List TimerCall) :
    Decidable (TurnInTime p turn) :=
  inferInstanceAs (Decidable (∀ i, timerIndex turn.1 = .ok i → _))

/-- Every turn of a tick is in time, and every other activation is fresh. -/
def StepInTime (p : TimerState × TimerLedger) : TimerOp → Prop
  | .tick ticks calls =>
      let s := p.1.advance ticks
      Meets ledgerVisit TurnInTime (s, p.2.read (timerGetClockNs s)) (s.turns calls)
  | .call c => CallIsFresh p c
  | _ => True

instance (p : TimerState × TimerLedger) (op : TimerOp) : Decidable (StepInTime p op) :=
  match op with
  | .tick ticks _ =>
      inferInstanceAs (Decidable (Meets ledgerVisit TurnInTime (p.1.advance ticks, _) _))
  | .call c => inferInstanceAs (Decidable (CallIsFresh p c))
  | .create | .register _ => inferInstanceAs (Decidable True)

/-! ## The account is that of the countdowns -/

namespace TimerLedger

variable {l : TimerLedger} {s t : TimerState} {i j : Fin maxTimers} {nseconds : BitVec 64}

/-- The countdowns are what the charges have left, and a tick takes off the sum of the readings. -/
structure Agrees (s : TimerState) (l : TimerLedger) : Prop where
  readings : s.nsecondsTotal = l.readings
  left : ∀ i, (s.timers i).timeToFire = l.left i

lemma readings_read {clock : BitVec 64} : (l.read clock).readings = l.readings + clock := rfl

lemma left_read {clock : BitVec 64} : (l.read clock).left i = l.left i := rfl

lemma left_set_self : (l.set i nseconds).left i = nseconds := by
  simp only [left, set, Function.update_self]
  exact BitVec.sub_zero nseconds

lemma left_set_of_ne (h : j ≠ i) : (l.set i nseconds).left j = l.left j := by
  simp only [left, set, Function.update_of_ne h]

lemma left_charge_self : (l.charge i).left i = l.left i - l.readings := by
  simp only [left, charge, Function.update_self]
  exact BitVec.sub_sub _ _ _ |>.symm

lemma left_charge_of_ne (h : j ≠ i) : (l.charge i).left j = l.left j := by
  simp only [left, charge, Function.update_of_ne h]

lemma outlasts_iff (h : Agrees s l) : l.Outlasts i ↔ s.OutlastsTick i := by
  unfold Outlasts TimerState.OutlastsTick
  rw [left_charge_self, h.left, h.readings]

/-- What leaves the countdowns leaves the account in order. -/
lemma Agrees.of_eq (h : Agrees s l) (htotal : t.nsecondsTotal = s.nsecondsTotal)
    (htimers : ∀ i, (t.timers i).timeToFire = (s.timers i).timeToFire) : Agrees t l :=
  ⟨htotal.trans h.readings, fun i => (htimers i).trans (h.left i)⟩

lemma Agrees.setTimer (h : Agrees s l) {x : Timer} (hx : x.timeToFire = nseconds) :
    Agrees (s.setTimer i x) (l.set i nseconds) := by
  refine ⟨h.readings, fun j => ?_⟩
  by_cases hj : j = i
  · subst hj
    rw [left_set_self, TimerState.timers_setTimer_self, hx]
  · rw [left_set_of_ne hj, TimerState.timers_setTimer_of_ne hj]
    exact h.left j

/-- A timer changed in other fields than its countdown. -/
lemma Agrees.setTimer_same (h : Agrees s l) {x : Timer}
    (hx : x.timeToFire = (s.timers i).timeToFire) : Agrees (s.setTimer i x) l := by
  refine h.of_eq rfl fun j => ?_
  by_cases hj : j = i
  · subst hj
    rw [TimerState.timers_setTimer_self, hx]
  · rw [TimerState.timers_setTimer_of_ne hj]

lemma Agrees.countDown (h : Agrees s l) :
    Agrees (s.countDown i) (if (s.timers i).active ≠ 0 then l.charge i else l) := by
  unfold TimerState.countDown
  split
  · refine ⟨h.readings, fun j => ?_⟩
    by_cases hj : j = i
    · subst hj
      rw [left_charge_self, TimerState.timers_setTimer_self, ← h.left, ← h.readings]
    · rw [left_charge_of_ne hj, TimerState.timers_setTimer_of_ne hj]
      exact h.left j
  · exact h

lemma Agrees.fire (h : Agrees s l) : Agrees (s.fire i) (l.set i 0) := by
  have hset : Agrees (s.setTimer i { s.timers i with timeToFire := 0 }) (l.set i 0) :=
    h.setTimer rfl
  exact hset.of_eq rfl fun _ => rfl

lemma Agrees.endLife (h : Agrees s l) : Agrees (s.endLife i) l := by
  refine h.of_eq ?_ fun j => by rw [TimerState.timers_endLife]
  unfold TimerState.endLife
  split <;> rfl

lemma Agrees.reload (h : Agrees s l) :
    Agrees (s.reload i) (l.set i (s.timers i).nseconds) := by
  have hset (x : TimerState) (hx : Agrees x l)
      (hn : (x.timers i).nseconds = (s.timers i).nseconds) :
      Agrees (x.setTimer i { x.timers i with timeToFire := (x.timers i).nseconds })
        (l.set i (s.timers i).nseconds) := hx.setTimer hn
  unfold TimerState.reload
  dsimp only
  split
  · have hended : Agrees ((s.endLife i).setTimer i { s.timers i with active := 0 }) l :=
      h.endLife.setTimer_same (by rw [TimerState.timers_endLife])
    exact hset _ hended (by rw [TimerState.timers_setTimer_self])
  · exact hset s h rfl

lemma Agrees.advance (h : Agrees s l) (ticks : BitVec 64) :
    Agrees (s.advance ticks) (l.read (timerGetClockNs (s.advance ticks))) := by
  refine ⟨?_, fun i => ?_⟩
  · rw [TimerState.nsecondsTotal_advance, readings_read, h.readings]
  · rw [TimerState.timers_advance, left_read]
    exact h.left i

lemma agrees_empty : Agrees timerInitialize empty := ⟨rfl, fun _ => (BitVec.sub_zero 0).symm⟩

lemma Agrees.setFree (h : Agrees s l) {free : Fin maxTimers}
    (hs : timerIndex s.timersIdx = .ok free) {x : Timer} (hx : x.timeToFire = nseconds) :
    Agrees (s.setTimer free x) (l.setFree s nseconds) := by
  unfold TimerLedger.setFree
  rw [hs]
  exact h.setTimer hx

end TimerLedger

open TimerLedger

/-! ## One step of the account -/

section Account

variable {s t : TimerState} {l m : TimerLedger}

lemma carries_ledgerCall : Carries timerCall ledgerCall where
  state h := by
    obtain ⟨u, hu, hrest⟩ := bind_eq_ok.mp h
    split at hrest <;> exact hu.trans (congrArg _ (Prod.mk.inj (Except.ok.inj hrest)).1)
  account {s g c t} h := by
    cases c with
    | activate index nseconds oneShot => exact ⟨g, bind_eq_ok.mpr ⟨t, h, rfl⟩⟩
    | deactivate index => exact ⟨g.setFree s 0, bind_eq_ok.mpr ⟨t, h, rfl⟩⟩

lemma agrees_ledgerCall {c : TimerCall} (h : Agrees s l) (hc : ledgerCall (s, l) c = .ok (t, m)) :
    Agrees t m := by
  obtain ⟨u, hu, hrest⟩ := bind_eq_ok.mp hc
  cases c with
  | activate index nseconds oneShot =>
      obtain ⟨rfl, rfl⟩ := Prod.mk.inj (Except.ok.inj hrest)
      obtain ⟨i, -, hset⟩ := bind_eq_ok.mp hu
      rw [← Except.ok.inj hset]
      have hlogged : Agrees ((s.logReactivation i nseconds).setSince i) l :=
        h.of_eq (by unfold TimerState.logReactivation; split <;> rfl)
          fun j => congrArg Timer.timeToFire
            (congrFun (s.timers_logReactivation i nseconds) j)
      exact hlogged.setTimer_same rfl
  | deactivate index =>
      obtain ⟨rfl, rfl⟩ := Prod.mk.inj (Except.ok.inj hrest)
      obtain ⟨i, -, hset⟩ := bind_eq_ok.mp hu
      obtain ⟨free, hfree, hset⟩ := bind_eq_ok.mp hset
      have hindex : timerIndex s.timersIdx = .ok free := by
        rw [← hfree]
        exact congrArg timerIndex (s.timersIdx_endLife i).symm
      have hended :
          Agrees ((s.endLife i).setTimer i { (s.endLife i).timers i with active := 0 }) l :=
        h.endLife.setTimer_same rfl
      rw [← Except.ok.inj hset]
      unfold TimerLedger.setFree
      rw [hindex]
      exact hended.setTimer rfl

lemma callIsFresh_iff {c : TimerCall} (h : Agrees s l) :
    CallKeepsLaw s c ↔ CallIsFresh (s, l) c := by
  cases c with
  | activate index nseconds oneShot =>
      refine forall_congr' fun i => imp_congr_right fun _ => imp_congr_right fun _ =>
        imp_congr_right fun _ => ?_
      rw [h.left i]
  | deactivate index => exact Iff.rfl

/-- A turn of the machine with the account. -/
lemma ledgerVisit_eq_ok {index : BitVec 32} {calls : List TimerCall}
    (h : ledgerVisit (s, l) (index, calls) = .ok (t, m)) :
    ∃ i, timerIndex index = .ok i ∧
      ∃ k, k = (if (s.timers i).active ≠ 0 then l.charge i else l) ∧
      (¬ (s.countDown i).Due i ∧ t = s.countDown i ∧ m = k ∨
        (s.countDown i).Due i ∧
          ∃ u n, run ledgerCall ((s.countDown i).fire i, k.set i 0) calls = .ok (u, n) ∧
            t = u.reload i ∧ m = n.set i (u.timers i).nseconds) := by
  obtain ⟨i, hi, hrest⟩ := bind_eq_ok.mp h
  refine ⟨i, hi, _, rfl, ?_⟩
  by_cases hdue : (s.countDown i).Due i
  · rw [if_pos hdue] at hrest
    obtain ⟨⟨u, n⟩, hu, hreload⟩ := bind_eq_ok.mp hrest
    obtain ⟨rfl, rfl⟩ := Prod.mk.inj (Except.ok.inj hreload)
    exact Or.inr ⟨hdue, u, n, hu, rfl, rfl⟩
  · rw [if_neg hdue] at hrest
    obtain ⟨rfl, rfl⟩ := Prod.mk.inj (Except.ok.inj hrest)
    exact Or.inl ⟨hdue, rfl, rfl⟩

lemma carries_ledgerVisit : Carries timerVisit ledgerVisit where
  state {s l turn t m} h := by
    obtain ⟨index, calls⟩ := turn
    obtain ⟨i, hi, k, -, hcase⟩ := ledgerVisit_eq_ok h
    refine bind_eq_ok.mpr ⟨i, hi, ?_⟩
    rcases hcase with ⟨hnot, rfl, -⟩ | ⟨hdue, u, n, hu, rfl, -⟩
    · exact if_neg hnot
    · rw [if_pos hdue]
      exact bind_eq_ok.mpr ⟨u, carries_ledgerCall.run_state hu, rfl⟩
  account {s l turn t} h := by
    obtain ⟨index, calls⟩ := turn
    obtain ⟨i, hi, hcase⟩ := timerVisit_eq_ok h
    rcases hcase with ⟨hnot, rfl⟩ | ⟨hdue, u, hu, rfl⟩
    · exact ⟨_, bind_eq_ok.mpr ⟨i, hi, if_neg hnot⟩⟩
    · obtain ⟨n, hn⟩ := carries_ledgerCall.run_account
        ((if (s.timers i).active ≠ 0 then l.charge i else l).set i 0) hu
      refine ⟨n.set i (u.timers i).nseconds, bind_eq_ok.mpr ⟨i, hi, ?_⟩⟩
      rw [if_pos hdue]
      exact bind_eq_ok.mpr ⟨(u, n), hn, rfl⟩

lemma agrees_ledgerVisit {turn : BitVec 32 × List TimerCall} (h : Agrees s l)
    (hv : ledgerVisit (s, l) turn = .ok (t, m)) : Agrees t m := by
  obtain ⟨index, calls⟩ := turn
  obtain ⟨i, -, k, rfl, hcase⟩ := ledgerVisit_eq_ok hv
  rcases hcase with ⟨-, rfl, rfl⟩ | ⟨-, u, n, hu, rfl, rfl⟩
  · exact h.countDown
  · exact (Carries.run_keeps agrees_ledgerCall h.countDown.fire hu).reload

lemma turnInTime_iff {turn : BitVec 32 × List TimerCall} (h : Agrees s l) :
    VisitKeepsLaw s turn ↔ TurnInTime (s, l) turn := by
  refine forall_congr' fun i => imp_congr_right fun _ => ?_
  rw [due_countDown_iff, ← outlasts_iff h]
  have hcalls (hactive : (s.timers i).active ≠ 0) :
      Meets timerCall CallKeepsLaw ((s.countDown i).fire i) turn.2 ↔
        Meets ledgerCall CallIsFresh ((s.countDown i).fire i, (l.charge i).set i 0) turn.2 := by
    have hcharged : Agrees (s.countDown i) (l.charge i) := by
      have hcount := h.countDown (i := i)
      rwa [if_pos hactive] at hcount
    exact carries_ledgerCall.meets_iff agrees_ledgerCall callIsFresh_iff hcharged.fire
  constructor
  · rintro ⟨htime, hfire⟩ hactive
    refine ⟨?_, fun hout => (hcalls hactive).mp (hfire ⟨hactive, hout⟩)⟩
    exact or_iff_not_imp_left.mpr (htime hactive)
  · intro hboth
    refine ⟨fun hactive hnot => (hboth hactive).1.resolve_left hnot, fun hdue => ?_⟩
    exact (hcalls hdue.1).mpr ((hboth hdue.1).2 hdue.2)

lemma carries_ledgerStep : Carries timerStep ledgerStep where
  state {s l op t m} h := by
    cases op with
    | tick ticks calls => exact carries_ledgerVisit.run_state h
    | call c => exact carries_ledgerCall.state h
    | create | register nseconds =>
        obtain ⟨u, hu, hrest⟩ := bind_eq_ok.mp h
        exact hu.trans (congrArg _ (Prod.mk.inj (Except.ok.inj hrest)).1)
  account {s l op t} h := by
    cases op with
    | tick ticks calls => exact carries_ledgerVisit.run_account _ h
    | call c => exact carries_ledgerCall.account h
    | create | register nseconds => exact ⟨_, bind_eq_ok.mpr ⟨t, h, rfl⟩⟩

lemma agrees_ledgerStep {op : TimerOp} (h : Agrees s l)
    (hop : ledgerStep (s, l) op = .ok (t, m)) : Agrees t m := by
  cases op with
  | tick ticks calls => exact Carries.run_keeps agrees_ledgerVisit (h.advance ticks) hop
  | call c => exact agrees_ledgerCall h hop
  | create =>
      obtain ⟨u, hu, hrest⟩ := bind_eq_ok.mp hop
      obtain ⟨rfl, rfl⟩ := Prod.mk.inj (Except.ok.inj hrest)
      obtain ⟨free, hfree, hset⟩ := bind_eq_ok.mp hu
      have hset' := h.setFree hfree
        (x := ⟨0, 0, 0, 0⟩) rfl
      rw [← Except.ok.inj hset]
      exact hset'.of_eq rfl fun _ => rfl
  | register nseconds =>
      obtain ⟨u, hu, hrest⟩ := bind_eq_ok.mp hop
      obtain ⟨rfl, rfl⟩ := Prod.mk.inj (Except.ok.inj hrest)
      obtain ⟨free, hfree, hset⟩ := bind_eq_ok.mp hu
      have hset' := h.setFree hfree
        (x := ⟨nseconds.setWidth 64, nseconds.setWidth 64, 1, 0⟩) rfl
      rw [← Except.ok.inj hset]
      exact hset'.of_eq rfl fun _ => rfl

lemma stepInTime_iff {op : TimerOp} (h : Agrees s l) :
    StepKeepsLaw s op ↔ StepInTime (s, l) op := by
  cases op with
  | tick ticks calls =>
      exact carries_ledgerVisit.meets_iff agrees_ledgerVisit turnInTime_iff (h.advance ticks)
  | call c => exact callIsFresh_iff h
  | create | register nseconds => exact Iff.rfl

end Account

/-- In every run of the timer functions from `TimerInitialize`, every timer fires on time and no
activation inherits a countdown exactly when at every turn of a tick the time of an active timer
has passed or the charges of the ticks leave something of the duration it was last set to, and every
activation after the end of a life asks for just what they have left. -/
theorem timers_fire_lawfully_iff {ops : List TimerOp} {t : TimerState}
    (h : run timerStep timerInitialize ops = .ok t) :
    t.Lawful ↔ Meets ledgerStep StepInTime (timerInitialize, TimerLedger.empty) ops := by
  have hstart : timerInitialize.Lawful := ⟨by simp [timerInitialize], by simp [timerInitialize]⟩
  rw [Meets.iff_of_step (fun _ _ _ => lawful_timerStep) h,
    carries_ledgerStep.meets_iff agrees_ledgerStep stepInTime_iff agrees_empty]
  simp only [hstart, true_and]

/-- A timer created and activated for a second fires at the next tick, a nanosecond later; one
registered, deactivated and activated again keeps its old countdown. -/
theorem timers_fire_early :
    (∃ t, run timerStep timerInitialize
        [.create, .call (.activate 0 1000000000 0), .tick 4 fun _ => []] = .ok t ∧
      t.firings = [⟨⟨0, by decide⟩, 1000000000, 0, 1⟩] ∧ ¬ t.Lawful) ∧
    ∃ t, run timerStep timerInitialize
        [.register 100, .call (.deactivate 0), .call (.activate 0 500 0)] = .ok t ∧
      t.reactivations = [⟨⟨0, by decide⟩, 500, 100⟩] ∧ ¬ t.Lawful :=
  ⟨⟨_, rfl, by decide, by decide⟩, _, rfl, by decide, by decide⟩

/-- A timer is registered for a microsecond and fires at a tick of that length, when its handler
deactivates it; it is activated for the same time, and fires again at the next tick, which is twice
as long. -/
theorem timers_fire_lawfully_twice :
    ∃ t, run timerStep timerInitialize
        [.register 1000, .tick 4000 (fun _ => [.deactivate 0]), .call (.activate 0 1000 0),
          .tick 8000 fun _ => []] = .ok t ∧
      t.firings = [⟨⟨0, by decide⟩, 1000, 1000, 3000⟩, ⟨⟨0, by decide⟩, 1000, 0, 1000⟩] ∧
      t.reactivations = [⟨⟨0, by decide⟩, 1000, 1000⟩] ∧ t.Lawful := by
  have hmeets : Meets ledgerStep StepInTime (timerInitialize, TimerLedger.empty)
      [.register 1000, .tick 4000 (fun _ => [.deactivate 0]), .call (.activate 0 1000 0),
        .tick 8000 fun _ => []] := by
    decide +kernel
  exact ⟨_, rfl, by decide, by decide, (timers_fire_lawfully_iff rfl).mpr hmeets⟩

end Svmm
