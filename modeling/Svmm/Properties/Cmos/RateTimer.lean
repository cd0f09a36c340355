import Svmm.Properties.Cmos.Clock
import Svmm.Properties.Timer.Locality

/-!
# The timer of the periodic interrupt

Registers A and B say whether the periodic interrupt comes, and how often.  `CmosInitialize` does
not register a timer for it: `PeriodicTimerIndex` stays 0, which is the timer that `CmosInitialize`
registers first, the one that ends an update.  So what the registers start is that timer.
-/

namespace Svmm

open TransitionRun

/-! ## The clock among the timers -/

/-- The calls that are made on timers. -/
def timerCalls (calls : List DeviceCall) : List TimerCall :=
  calls.filterMap fun
    | .timer c => some c
    | _ => none

/-- A guest's write of register A or B. -/
inductive StatusWrite where
  | statA (value : BitVec 32)
  | statB (value : BitVec 32)

def StatusWrite.register : StatusWrite → BitVec 8
  | .statA _ => regStatA
  | .statB _ => regStatB

def StatusWrite.value : StatusWrite → BitVec 32
  | .statA value => value
  | .statB value => value

/-- The clock, and the timers of the machine. -/
structure CmosTimers where
  cmos : Cmos
  timers : TimerState

/-- The guest selects the register and writes it. -/
def statusWriteStep (lib : TimeLibrary) (h : CmosTimers) (w : StatusWrite) :
    Except TimerFault CmosTimers := do
  let (s, _) := cmosPortIoWriteHandler lib 0x70 (w.register.setWidth 32) h.cmos
  let (s, calls) := cmosPortIoWriteHandler lib 0x71 w.value s
  let timers ← run timerCall h.timers (timerCalls calls)
  return { cmos := s, timers := timers }

/-- What `CmosInitialize` leaves once the other devices have their timers: the timer it registered
first is not active, and there is room in the table. -/
structure TimerState.ClockReady (s : TimerState) : Prop where
  inactive : ∀ i : Fin maxTimers, i.val = 0 → (s.timers i).active = 0
  created : 0 < s.timersIdx.toNat
  room : s.timersIdx.toNat < maxTimers

/-! ## What the registers ask for -/

/-- The periodic interrupt is enabled, it has a rate, and the divider chain runs. -/
def Cmos.RateRuns (s : Cmos) : Prop :=
  s.registers regStatB &&& 0x40 ≠ 0 ∧ s.registers regStatA &&& 0x0f ≠ 0 ∧
    s.registers regStatA >>> 4 &&& 0x07 &&& 0x06 ≠ 0

instance (s : Cmos) : Decidable s.RateRuns := inferInstanceAs (Decidable (_ ∧ _))

/-- The interval that the rate stands for, in the units of the timers. -/
def Cmos.rateInterval (s : Cmos) : ℕ :=
  let nibble := s.registers regStatA &&& 0x0f
  (periodicUsec (if nibble ≤ 2 then nibble + 7 else nibble)).toNat * tickPeriod.toNat

/-- Of the timers that there are, the registers have moved the one of the periodic interrupt alone:
it is active exactly if the rate runs, with the interval of the rate. -/
structure RateControlled (start : TimerState) (h : CmosTimers) : Prop where
  others : ∀ i : Fin maxTimers, i.val < start.timersIdx.toNat →
    i.val ≠ h.cmos.periodicTimerIndex.toNat → h.timers.timers i = start.timers i
  update : ∀ i : Fin maxTimers, i.val = h.cmos.uipTimerIndex.toNat →
    h.timers.timers i = start.timers i
  active : ∀ i : Fin maxTimers, i.val = h.cmos.periodicTimerIndex.toNat →
    ((h.timers.timers i).active ≠ 0 ↔ h.cmos.RateRuns)
  interval : ∀ i : Fin maxTimers, i.val = h.cmos.periodicTimerIndex.toNat →
    (h.timers.timers i).active ≠ 0 → (h.timers.timers i).nseconds.toNat = h.cmos.rateInterval

/-- The write does not start the timer: with the interrupt enabled, register A gets no rate or a
divider chain that is held; the interrupt is not enabled anew while there is a rate. -/
def StatusWrite.Idle (h : CmosTimers) : StatusWrite → Prop
  | .statA value => h.cmos.registers regStatB &&& 0x40 ≠ 0 →
      value.setWidth 8 &&& 0x0f = 0 ∨ value.setWidth 8 &&& 0x60 = 0
  | .statB value => value.setWidth 8 &&& 0x40 ≠ 0 →
      h.cmos.registers regStatB &&& 0x40 ≠ 0 ∨ h.cmos.registers regStatA &&& 0x0f = 0

instance (h : CmosTimers) (w : StatusWrite) : Decidable (w.Idle h) := by
  unfold StatusWrite.Idle
  split <;> infer_instance

/-! ## One write -/

section Write

variable {lib : TimeLibrary} {s : Cmos} {h : CmosTimers} {w : StatusWrite} {value : BitVec 32}

/-- What the write of the selected register does to the clock, and its calls. -/
def StatusWrite.written (lib : TimeLibrary) (s : Cmos) (w : StatusWrite) :
    Cmos × List DeviceCall :=
  cmosPortIoWriteHandler lib 0x71 w.value { s with cmosAddress := w.register }

lemma cmosWrite_select : cmosPortIoWriteHandler lib 0x70 (w.register.setWidth 32) s =
    ({ s with cmosAddress := w.register }, []) := by
  have hregister : (w.register.setWidth 32).setWidth 8 &&& 0x7f = w.register := by
    cases w with
    | statA value =>
        show (regStatA.setWidth 32).setWidth 8 &&& 0x7f = regStatA
        rfl
    | statB value =>
        show (regStatB.setWidth 32).setWidth 8 &&& 0x7f = regStatB
        rfl
  unfold cmosPortIoWriteHandler
  rw [if_pos rfl, hregister]

lemma statusWriteStep_eq : statusWriteStep lib h w =
    run timerCall h.timers (timerCalls (w.written lib h.cmos).2) >>= fun timers =>
      .ok { cmos := (w.written lib h.cmos).1, timers := timers } := by
  unfold statusWriteStep
  rw [cmosWrite_select]
  rfl

/-! ### Register A -/

/-- The clock before `CraChange`. -/
def Cmos.withStatA (s : Cmos) (value : BitVec 32) : Cmos :=
  { s with cmosAddress := regStatA }.setRegister regStatA
    (s.registers regStatA &&& 0x80 ||| value.setWidth 8 &&& 0x7f)

lemma written_statA :
    (StatusWrite.statA value).written lib s = craChange (s.withStatA value) := rfl

/-- `CraChange` starts the timer or stops it. -/
lemma timerCalls_craChange :
    (s.RateRuns → ∃ n, timerCalls (craChange s).2 = [.activate s.periodicTimerIndex n 0]) ∧
      (¬ s.RateRuns → timerCalls (craChange s).2 = [.deactivate s.periodicTimerIndex]) := by
  unfold craChange Cmos.RateRuns
  dsimp only
  split_ifs with hstop hslow hperiodic hperiodic
  · refine ⟨fun hruns => ?_, fun _ => rfl⟩
    exact absurd hstop (not_or.mpr hruns.2)
  · exact ⟨fun _ => ⟨_, rfl⟩, fun hidle => absurd ⟨hperiodic, not_or.mp hstop⟩ hidle⟩
  · exact ⟨fun hruns => absurd hruns.1 hperiodic, fun _ => rfl⟩
  · exact ⟨fun _ => ⟨_, rfl⟩, fun hidle => absurd ⟨hperiodic, not_or.mp hstop⟩ hidle⟩
  · exact ⟨fun hruns => absurd hruns.1 hperiodic, fun _ => rfl⟩

lemma divider_iff : ∀ a : BitVec 8, a >>> 4 &&& 0x07 &&& 0x06 = 0 ↔ a &&& 0x60 = 0 := by
  decide +kernel

/-- The low bits of register A are those of the value. -/
lemma statA_and (a v : BitVec 8) {m : BitVec 8} (hhigh : 0x80 &&& m = 0) (hlow : 0x7f &&& m = m) :
    (a &&& 0x80 ||| v &&& 0x7f) &&& m = v &&& m := by
  rw [BitVec.and_or_distrib_right, BitVec.and_assoc, BitVec.and_assoc, hhigh, hlow]
  exact (congrArg (· ||| (v &&& m)) BitVec.and_zero).trans BitVec.zero_or

lemma statA_withStatA : (s.withStatA value).registers regStatA =
    s.registers regStatA &&& 0x80 ||| value.setWidth 8 &&& 0x7f := by
  unfold Cmos.withStatA Cmos.setRegister
  dsimp only
  rw [Function.update_self]

lemma registers_written_statA : ((StatusWrite.statA value).written lib s).1.registers =
    (s.withStatA value).registers :=
  craChange_keeps Cmos.registers fun _ => rfl

/-- The rate runs after a write of register A exactly if the write starts it. -/
lemma rateRuns_withStatA :
    (h.cmos.withStatA value).RateRuns ↔ ¬ (StatusWrite.statA value).Idle h := by
  have hstatB : (h.cmos.withStatA value).registers regStatB = h.cmos.registers regStatB := by
    unfold Cmos.withStatA Cmos.setRegister
    dsimp only
    rw [Function.update_of_ne (by decide)]
  unfold Cmos.RateRuns StatusWrite.Idle
  rw [statA_withStatA, hstatB, statA_and _ _ rfl rfl, ne_eq, ne_eq, ne_eq, divider_iff,
    statA_and _ _ rfl rfl]
  tauto

/-! ### Register B -/

lemma written_statB : (StatusWrite.statB value).written lib s =
    cmosWriteStatB lib value { s with cmosAddress := regStatB } := rfl

lemma statB_enable : ∀ b : BitVec 8,
    (if b &&& 0xf7 &&& 0x80 ≠ 0 then b &&& 0xf7 &&& 0xef else b &&& 0xf7) &&& 0x40 =
      b &&& 0x40 := by
  decide +kernel

lemma storedStatB_enable : storedStatB value &&& 0x40 = value.setWidth 8 &&& 0x40 :=
  statB_enable _

lemma statA_setStatB (byte : BitVec 8) :
    (s.setRegister regStatB byte).registers regStatA = s.registers regStatA := by
  unfold Cmos.setRegister
  dsimp only
  rw [Function.update_of_ne (by decide)]

/-- A write of register B makes a call where it changes the enable bit. -/
lemma timerCalls_cmosWriteStatB : ∃ n, timerCalls (cmosWriteStatB lib value s).2 =
    if s.registers regStatB &&& 0x40 ≠ value.setWidth 8 &&& 0x40 then
      if s.registers regStatB &&& 0x40 ≠ 0 then [.deactivate s.periodicTimerIndex]
      else if s.registers regStatA &&& 0x0f ≠ 0 then [.activate s.periodicTimerIndex n 0]
      else []
    else [] := by
  set f : Cmos → BitVec 32 × BitVec 8 := fun u => (u.periodicTimerIndex, u.registers regStatA)
    with hf
  have hkept : ∀ (p : Prop) [Decidable p] {u v : Cmos}, f u = f s → f v = f s →
      f (if p then u else v) = f s := by
    intro p _ u v hu hv
    split
    · exact hu
    · exact hv
  have hstored : f (s.setRegister regStatB (storedStatB value)) = f s :=
    congrArg (Prod.mk _) (statA_setStatB _)
  unfold cmosWriteStatB
  dsimp only
  have hbyte : (if value.setWidth 8 &&& 0xf7 &&& 0x80 ≠ 0 then value.setWidth 8 &&& 0xf7 &&& 0xef
    else value.setWidth 8 &&& 0xf7) = storedStatB value := rfl
  rw [hbyte]
  set u := (if s.registers regStatB &&& 0x02 ≠ storedStatB value &&& 0x02 then
    cmosUpdateClock lib { s.setRegister regStatB (storedStatB value) with
      rtcMode12hour := if storedStatB value &&& 0x02 = 0 then 1 else 0 }
    else s.setRegister regStatB (storedStatB value)) with hu
  have hfirst : f u = f s := hkept _ hstored hstored
  set v := (if s.registers regStatB &&& 0x04 ≠ storedStatB value &&& 0x04 then
    cmosUpdateClock lib { u with rtcModeBinary := if storedStatB value &&& 0x04 ≠ 0 then 1 else 0 }
    else u) with hv
  have hsecond : f v = f s := hkept _ hfirst hfirst
  obtain ⟨hindex, hstatA⟩ := Prod.mk.inj hsecond
  refine ⟨v.periodicIntervalUsec.setWidth 64, ?_⟩
  rw [apply_ite Prod.snd, ite_self, hindex, hstatA, storedStatB_enable]
  split_ifs <;> rfl

lemma statA_written_statB :
    ((StatusWrite.statB value).written lib s).1.registers regStatA = s.registers regStatA := by
  rw [written_statB]
  exact cmosWriteStatB_keeps (fun u => u.registers regStatA) (fun byte => statA_setStatB byte)
    (fun _ _ => rfl) (fun _ _ => rfl) (fun _ => rfl) fun _ _ => rfl

lemma statB_written_statB :
    ((StatusWrite.statB value).written lib s).1.registers regStatB = storedStatB value := by
  rw [written_statB]
  refine cmosWriteStatB_gives (fun u => u.registers regStatB) ?_ (fun _ _ => rfl) (fun _ _ => rfl)
    (fun _ => rfl) fun _ _ => rfl
  unfold Cmos.setRegister
  dsimp only
  rw [Function.update_self]

/-! ### Both -/

lemma indices_written : (w.written lib s).1.periodicTimerIndex = s.periodicTimerIndex ∧
    (w.written lib s).1.uipTimerIndex = s.uipTimerIndex := by
  cases w with
  | statA value =>
      rw [written_statA]
      exact ⟨craChange_keeps Cmos.periodicTimerIndex fun _ => rfl,
        craChange_keeps Cmos.uipTimerIndex fun _ => rfl⟩
  | statB value =>
      rw [written_statB]
      exact ⟨cmosWriteStatB_keeps Cmos.periodicTimerIndex (fun _ => rfl) (fun _ _ => rfl)
          (fun _ _ => rfl) (fun _ => rfl) fun _ _ => rfl,
        cmosWriteStatB_keeps Cmos.uipTimerIndex (fun _ => rfl) (fun _ _ => rfl)
          (fun _ _ => rfl) (fun _ => rfl) fun _ _ => rfl⟩

/-- A write that is not idle starts the timer. -/
lemma timerCalls_of_not_idle (hw : ¬ w.Idle h) :
    ∃ n, timerCalls (w.written lib h.cmos).2 = [.activate h.cmos.periodicTimerIndex n 0] := by
  cases w with
  | statA value =>
      rw [written_statA]
      exact timerCalls_craChange.1 (rateRuns_withStatA.mpr hw)
  | statB value =>
      obtain ⟨n, hcalls⟩ :=
        @timerCalls_cmosWriteStatB lib { h.cmos with cmosAddress := regStatB } value
      obtain ⟨hvalue, hnot⟩ := Classical.not_imp.mp hw
      obtain ⟨hoff, hrate⟩ := not_or.mp hnot
      have hoff := not_not.mp hoff
      refine ⟨n, ?_⟩
      rw [written_statB, hcalls, if_pos, if_neg (not_not.mpr hoff), if_pos hrate]
      show h.cmos.registers regStatB &&& 0x40 ≠ _
      rw [hoff]
      exact hvalue.symm

/-- An idle write stops the timer, or makes no call on it. -/
lemma timerCalls_of_idle (hw : w.Idle h) : timerCalls (w.written lib h.cmos).2 = [] ∨
    timerCalls (w.written lib h.cmos).2 = [.deactivate h.cmos.periodicTimerIndex] := by
  cases w with
  | statA value =>
      rw [written_statA]
      exact Or.inr (timerCalls_craChange.2 fun hruns => rateRuns_withStatA.mp hruns hw)
  | statB value =>
      obtain ⟨n, hcalls⟩ :=
        @timerCalls_cmosWriteStatB lib { h.cmos with cmosAddress := regStatB } value
      rw [written_statB, hcalls]
      dsimp only
      split_ifs with hchanged hon hrate
      · exact Or.inr rfl
      · have hoff := not_not.mp hon
        rw [hoff] at hchanged
        rcases hw hchanged.symm with hset | hzero
        · exact absurd hoff hset
        · exact absurd hzero hrate
      · exact Or.inl rfl
      · exact Or.inl rfl

/-- After an idle write the rate does not run, if it did not before. -/
lemma not_rateRuns_of_idle (hw : w.Idle h) (hrest : ¬ h.cmos.RateRuns) :
    ¬ (w.written lib h.cmos).1.RateRuns := by
  cases w with
  | statA value =>
      intro hruns
      rw [Cmos.RateRuns, registers_written_statA] at hruns
      exact rateRuns_withStatA.mp hruns hw
  | statB value =>
      rintro ⟨hon, hrate, hdivider⟩
      rw [statB_written_statB, storedStatB_enable] at hon
      rw [statA_written_statB] at hrate hdivider
      rcases hw hon with hset | hzero
      · exact hrest ⟨hset, hrate, hdivider⟩
      · exact hrate hzero

end Write

/-! ## Runs -/

section Runs

variable {lib : TimeLibrary} {start : TimerState} {h t : CmosTimers} {w : StatusWrite}

/-- The clock has the indices that `CmosInitialize` gives it, and no timer has been created. -/
structure CmosTimers.AtStart (start : TimerState) (h : CmosTimers) : Prop where
  periodic : h.cmos.periodicTimerIndex = 0
  update : h.cmos.uipTimerIndex = 0
  created : h.timers.timersIdx = start.timersIdx

/-- As the timer of the periodic interrupt is the one that ends an update, it may not move at
all. -/
lemma rateControlled_iff (hstart : start.ClockReady) (hh : h.AtStart start) :
    RateControlled start h ↔
      (∀ i : Fin maxTimers, i.val < start.timersIdx.toNat →
        h.timers.timers i = start.timers i) ∧ ¬ h.cmos.RateRuns := by
  have hzero : (0 : BitVec 32).toNat = 0 := rfl
  constructor
  · intro hc
    have hkept : ∀ i : Fin maxTimers, i.val < start.timersIdx.toNat →
        h.timers.timers i = start.timers i := by
      intro i hi
      by_cases hi0 : i.val = 0
      · exact hc.update i (by rw [hh.update, hzero, hi0])
      · exact hc.others i hi (by rw [hh.periodic, hzero]; exact hi0)
    refine ⟨hkept, fun hruns => ?_⟩
    have hactive := (hc.active ⟨0, by decide⟩ (by rw [hh.periodic, hzero])).mpr hruns
    rw [hkept _ hstart.created] at hactive
    exact hactive (hstart.inactive _ rfl)
  · rintro ⟨hkept, hrest⟩
    have hinactive : ∀ i : Fin maxTimers, i.val = h.cmos.periodicTimerIndex.toNat →
        (h.timers.timers i).active = 0 := by
      intro i hi
      rw [hh.periodic, hzero] at hi
      rw [hkept i (hi ▸ hstart.created)]
      exact hstart.inactive i hi
    refine ⟨fun i hi _ => hkept i hi, fun i hi => ?_, fun i hi => ?_, fun i hi hactive => ?_⟩
    · rw [hh.update, hzero] at hi
      exact hkept i (hi ▸ hstart.created)
    · exact iff_of_false (fun hactive => hactive (hinactive i hi)) hrest
    · exact absurd (hinactive i hi) hactive

/-- A call on timer 0 goes through, and moves no other timer that has been created. -/
lemma exists_timerCall {s : TimerState} {c : TimerCall} (hc : c.index = 0)
    (hcreated : 0 < s.timersIdx.toNat) (hroom : s.timersIdx.toNat < maxTimers) :
    ∃ u, timerCall s c = .ok u ∧ u.timersIdx = s.timersIdx ∧
      ∀ i : Fin maxTimers, i.val < s.timersIdx.toNat →
        u.timers i = if i.val = 0 then c.onTimer (s.timers i) else s.timers i := by
  have hi : timerIndex c.index = .ok ⟨0, by decide⟩ := by rw [hc]; rfl
  have hfree := timerIndex_of_lt hroom
  have hne : (⟨0, by decide⟩ : Fin maxTimers) ≠ ⟨s.timersIdx.toNat, hroom⟩ := by
    rw [Ne, Fin.mk.injEq]
    omega
  have hresult := globals_timerCall hi hfree hne
  cases hu : timerCall s c with
  | error e => rw [hu] at hresult; cases hresult
  | ok u =>
      rw [hu] at hresult
      have hglobals := Except.ok.inj hresult
      refine ⟨u, rfl, congrArg Prod.fst hglobals, fun i hi => ?_⟩
      have htimers : u.timers = c.effect ⟨0, by decide⟩ ⟨s.timersIdx.toNat, hroom⟩ s.timers :=
        congrArg (fun r => r.2.2.2) hglobals
      have hnotfree : i ≠ ⟨s.timersIdx.toNat, hroom⟩ := by
        rw [Ne, Fin.ext_iff]
        exact Nat.ne_of_lt hi
      rw [htimers, TimerCall.effect, Function.update_of_ne hnotfree]
      by_cases hzero : i.val = 0
      · obtain rfl : i = ⟨0, by decide⟩ := Fin.ext hzero
        rw [Function.update_self, if_pos rfl]
      · rw [Function.update_of_ne fun h => hzero (Fin.ext_iff.mp h), if_neg hzero]

/-- Every write goes through.  An idle one moves no timer that has been created, if timer 0 is not
active; any other one starts timer 0. -/
lemma exists_statusWriteStep (hstart : start.ClockReady) (hh : h.AtStart start) :
    ∃ t, statusWriteStep lib h w = .ok t ∧ t.AtStart start ∧
      t.cmos = (w.written lib h.cmos).1 ∧
      (w.Idle h → (h.timers.timers ⟨0, by decide⟩).active = 0 →
        ∀ i : Fin maxTimers, i.val < start.timersIdx.toNat →
          t.timers.timers i = h.timers.timers i) ∧
      (¬ w.Idle h → (t.timers.timers ⟨0, by decide⟩).active = 1) := by
  have hcreated : 0 < h.timers.timersIdx.toNat := by rw [hh.created]; exact hstart.created
  have hroom : h.timers.timersIdx.toNat < maxTimers := by rw [hh.created]; exact hstart.room
  have hindices : (w.written lib h.cmos).1.periodicTimerIndex = 0 ∧
      (w.written lib h.cmos).1.uipTimerIndex = 0 := by
    rw [indices_written.1, indices_written.2]
    exact ⟨hh.periodic, hh.update⟩
  rw [statusWriteStep_eq]
  by_cases hw : w.Idle h
  · rcases timerCalls_of_idle hw with hcalls | hcalls
    · rw [hcalls]
      exact ⟨_, rfl, ⟨hindices.1, hindices.2, hh.created⟩, rfl, fun _ _ _ _ => rfl,
        fun hnot => absurd hw hnot⟩
    · obtain ⟨u, hu, hidx, htimers⟩ :=
        @exists_timerCall h.timers (.deactivate h.cmos.periodicTimerIndex) hh.periodic
          hcreated hroom
      rw [hcalls]
      simp only [run, hu, ok_bind]
      refine ⟨_, rfl, ⟨hindices.1, hindices.2, hidx.trans hh.created⟩, rfl,
        fun _ hinactive i hi => ?_, fun hnot => absurd hw hnot⟩
      rw [← hh.created] at hi
      rw [htimers i hi]
      split_ifs with hzero
      · obtain rfl : i = ⟨0, by decide⟩ := Fin.ext hzero
        show { h.timers.timers _ with active := 0 } = _
        rw [← hinactive]
      · rfl
  · obtain ⟨n, hcalls⟩ := @timerCalls_of_not_idle lib h w hw
    obtain ⟨u, hu, hidx, htimers⟩ := @exists_timerCall h.timers
      (.activate h.cmos.periodicTimerIndex n 0) hh.periodic hcreated hroom
    rw [hcalls]
    simp only [run, hu, ok_bind]
    refine ⟨_, rfl, ⟨hindices.1, hindices.2, hidx.trans hh.created⟩, rfl,
      fun hidle => absurd hidle hw, fun _ => ?_⟩
    rw [htimers _ hcreated, if_pos rfl]
    rfl

/-- After a write the timers are as the registers ask exactly if it was idle. -/
lemma rateControlled_step_iff (hstart : start.ClockReady) (hh : h.AtStart start)
    (hc : RateControlled start h) (hstep : statusWriteStep lib h w = .ok t) :
    RateControlled start t ↔ w.Idle h := by
  obtain ⟨hkept, hrest⟩ := (rateControlled_iff hstart hh).mp hc
  have hinactive : (h.timers.timers ⟨0, by decide⟩).active = 0 := by
    rw [hkept _ hstart.created]
    exact hstart.inactive _ rfl
  obtain ⟨u, hok, hu, hcmos, hidle, hbusy⟩ := exists_statusWriteStep (w := w) hstart hh
  obtain rfl : u = t := Except.ok.inj (hok.symm.trans hstep)
  rw [rateControlled_iff hstart hu, hcmos]
  constructor
  · rintro ⟨hsame, -⟩
    by_contra hw
    have hactive := hbusy hw
    rw [hsame _ hstart.created, hstart.inactive _ rfl] at hactive
    exact absurd hactive (by decide)
  · intro hw
    exact ⟨fun i hi => (hidle hw hinactive i hi).trans (hkept i hi), not_rateRuns_of_idle hw hrest⟩

/-- The clock as `CmosInitialize` leaves it, with `UipTimerIndex` 0, among the timers. -/
def clockAtStart (lib : TimeLibrary) (time : BitVec 64) (start : TimerState) : CmosTimers where
  cmos := cmosInitialize lib time 0
  timers := start

lemma atStart_clockAtStart {time : BitVec 64} :
    (clockAtStart lib time start).AtStart start :=
  ⟨rfl, rfl, rfl⟩

lemma rateControlled_clockAtStart {time : BitVec 64} (hstart : start.ClockReady) :
    RateControlled start (clockAtStart lib time start) := by
  refine (rateControlled_iff hstart atStart_clockAtStart).mpr ⟨fun _ _ => rfl, fun hruns => ?_⟩
  have hstatB : (clockAtStart lib time start).cmos.registers regStatB = 0x02 := rfl
  rw [Cmos.RateRuns, hstatB] at hruns
  exact hruns.1 (by decide)

/-- Timer 0 has been created, and it is not active. -/
def TimerState.FirstInactive (s : TimerState) : Prop :=
  0 < s.timersIdx.toNat ∧ ∀ i : Fin maxTimers, i.val = 0 → (s.timers i).active = 0

instance (s : TimerState) : Decidable s.FirstInactive := inferInstanceAs (Decidable (_ ∧ _))

/-- A further timer is put in a slot of its own. -/
lemma firstInactive_add {s : TimerState} {free : Fin maxTimers} (hs : s.FirstInactive)
    (hfree : timerIndex s.timersIdx = .ok free) (x : Timer) :
    ({ s.setTimer free x with timersIdx := s.timersIdx + 1 }).FirstInactive := by
  have hval := val_of_timerIndex hfree
  have hlt := free.isLt
  have hadd : (s.timersIdx + 1).toNat = s.timersIdx.toNat + 1 := by
    have hone : (1 : BitVec 32).toNat = 1 := rfl
    unfold maxTimers at hlt
    rw [BitVec.toNat_add_of_lt (by omega), hone]
  refine ⟨by rw [hadd]; omega, fun i hi => ?_⟩
  have hne : i ≠ free := by
    intro hsame
    rw [hsame, hval] at hi
    exact absurd hi (Nat.ne_of_gt hs.1)
  show (Function.update s.timers free x i).active = 0
  rw [Function.update_of_ne hne]
  exact hs.2 i hi

/-- `CmosInitialize` registers the timer that ends an update and stops it; whatever timers the other
devices then have, the clock is ready if they fit. -/
lemma clockReady_of_registrations {s : TimerState} {others : List TimerOp}
    (hothers : ∀ a ∈ others, a = .create ∨ ∃ nseconds, a = .register nseconds)
    (hrun : run timerStep timerInitialize
      (.register tickPeriod :: .call (.deactivate 0) :: others) = .ok s)
    (hroom : s.timersIdx.toNat < maxTimers) : s.ClockReady := by
  have hfirst : ends TimerState.FirstInactive
      (run timerStep timerInitialize [.register tickPeriod, .call (.deactivate 0)]) = true := by
    decide +kernel
  obtain ⟨u, hu, hrest⟩ := (@run_append_ok _ _ _ timerStep _ _
    [.register tickPeriod, .call (.deactivate 0)] others).mp hrun
  obtain ⟨v, hv, hinactive⟩ := exists_of_ends _ hfirst
  obtain rfl : v = u := Except.ok.inj (hv.symm.trans hu)
  have hs : s.FirstInactive := by
    refine run_invariant (fun s a t hs ha hstep => ?_) hinactive (Meets.of_forall hothers) hrest
    rcases ha with rfl | ⟨nseconds, rfl⟩
    · obtain ⟨free, hfree, hstep⟩ := bind_eq_ok.mp hstep
      exact Except.ok.inj hstep ▸ firstInactive_add hs hfree _
    · obtain ⟨free, hfree, hstep⟩ := bind_eq_ok.mp hstep
      exact Except.ok.inj hstep ▸ firstInactive_add (s := s.setSince free) hs hfree _
  exact ⟨hs.2, hs.1, hroom⟩

/-- Over any sequence of writes of registers A and B, the registers move the timer of the periodic
interrupt alone exactly if no write starts it. -/
theorem rate_timer_alone_iff (lib : TimeLibrary) (time : BitVec 64) (hstart : start.ClockReady)
    (writes : List StatusWrite) :
    Meets (statusWriteStep lib)
        (fun h w => ∀ t, statusWriteStep lib h w = .ok t → RateControlled start t)
        (clockAtStart lib time start) writes ↔
      Meets (statusWriteStep lib) (fun h w => w.Idle h) (clockAtStart lib time start) writes := by
  refine Meets.iff_of_exact_within (J := fun h => h.AtStart start) ?_ ?_ ?_ atStart_clockAtStart
    (rateControlled_clockAtStart hstart)
  · intro h w t hh hstep
    obtain ⟨u, hok, hu, -⟩ := @exists_statusWriteStep lib start h w hstart hh
    exact Except.ok.inj (hok.symm.trans hstep) ▸ hu
  · exact fun h w t hh hc hstep => rateControlled_step_iff hstart hh hc hstep
  · intro h w hh hstop
    obtain ⟨t, hok, -⟩ := @exists_statusWriteStep lib start h w hstart hh
    exact absurd hok (hstop t)

/-- The timers of the machine that come first, in the order of `main`: those of the clock, of the
keyboard and of the interval timer. -/
def firstTimers : List TimerOp :=
  [.register tickPeriod, .call (.deactivate 0), .register (tickPeriod * 10), .create]

lemma exists_firstTimers : ∃ s, run timerStep timerInitialize firstTimers = .ok s ∧
    s.ClockReady ∧ s.timersIdx = 3 := by
  have hends : ends (fun s => s.timersIdx = 3)
      (run timerStep timerInitialize firstTimers) = true := by
    decide +kernel
  obtain ⟨s, hs, hidx⟩ := exists_of_ends _ hends
  refine ⟨s, hs, clockReady_of_registrations ?_ hs ?_, hidx⟩
  · intro a ha
    rcases List.mem_cons.mp ha with rfl | ha
    · exact Or.inr ⟨_, rfl⟩
    · exact Or.inl (List.mem_singleton.mp ha)
  · rw [hidx]
    decide

/-- The interrupt is enabled while there is no rate. -/
theorem rate_timer_alone_without_rate :
    ∃ s, run timerStep timerInitialize firstTimers = .ok s ∧
      Meets (statusWriteStep utc)
        (fun h w => ∀ t, statusWriteStep utc h w = .ok t → RateControlled s t)
        (clockAtStart utc 0 s) [.statA 0x20, .statB 0x42] := by
  obtain ⟨s, hs, hready, -⟩ := exists_firstTimers
  refine ⟨s, hs, (rate_timer_alone_iff utc 0 hready _).mpr ⟨?_, fun t ht => ⟨?_, ?_⟩⟩⟩
  · intro _
    exact Or.inl rfl
  · obtain ⟨u, hu, -, hcmos, -⟩ := @exists_statusWriteStep utc s (clockAtStart utc 0 s)
      (.statA 0x20) hready atStart_clockAtStart
    obtain rfl : u = t := Except.ok.inj (hu.symm.trans ht)
    intro _
    have hrate : u.cmos.registers regStatA &&& 0x0f = 0 := by
      rw [hcmos, registers_written_statA, statA_withStatA, statA_and _ _ rfl rfl]
      rfl
    exact Or.inr hrate
  · exact fun _ _ => trivial

/-- The guest enables the periodic interrupt, and the timer that ends an update runs. -/
theorem rate_starts_update_timer :
    ∃ s, run timerStep timerInitialize firstTimers = .ok s ∧
      ∃ t, statusWriteStep utc (clockAtStart utc 0 s) (.statB 0x42) = .ok t ∧
        t.cmos.uipTimerIndex = 0 ∧ (t.timers.timers ⟨0, by decide⟩).active = 1 ∧
        ¬ RateControlled s t := by
  obtain ⟨s, hs, hready, -⟩ := exists_firstTimers
  obtain ⟨t, ht, hatStart, -, -, hbusy⟩ := @exists_statusWriteStep utc s (clockAtStart utc 0 s)
    (.statB 0x42) hready atStart_clockAtStart
  have hnot : ¬ (StatusWrite.statB 0x42).Idle (clockAtStart utc 0 s) := by
    intro hidle
    have hstatB : (clockAtStart utc 0 s).cmos.registers regStatB = 0x02 := rfl
    have hstatA : (clockAtStart utc 0 s).cmos.registers regStatA = 0x26 := rfl
    rw [StatusWrite.Idle, hstatB, hstatA] at hidle
    exact absurd (hidle (by decide)) (by decide)
  refine ⟨s, hs, t, ht, hatStart.update, hbusy hnot, fun hc => hnot ?_⟩
  exact (rateControlled_step_iff hready atStart_clockAtStart
    (rateControlled_clockAtStart hready) ht).mp hc

end Runs

end Svmm
