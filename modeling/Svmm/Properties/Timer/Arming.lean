import Svmm.Construction.Pit
import Svmm.Construction.Hpet
import Svmm.Construction.Acpi
import Svmm.Construction.Apic.Timer
import Mathlib.Data.BitVec
import Mathlib.Tactic.Ring

/-!
# What devices arm timers with

`TimerTick` counts the argument of `TimerActivate` down, so it should be the time from now to the
device's next event.  Each device computes that event as a point in time.  The HPET subtracts
what its counter shows of the present, which drops a fraction of a tick; the others pass the point
itself.
-/

namespace Svmm

open TransitionRun

/-- The devices that arm timers, and on what occasion. -/
inductive TimerUser where
  | pit
  | lapicInitialCount
  | lapicExpiry
  | hpet (h : HpetReference)
  | acpiPm

/-- The time at which the main counter reaches the comparator. -/
def HpetTimerBlock.eventTime (b : HpetTimerBlock) (h : HpetReference) : BitVec 64 :=
  h.referenceTime + hpetTicksToNs (b.comparator - h.referenceValue)

/-- With the clock at `clock`, the user calls `TimerActivate` for an event at `event`, with the
argument `nseconds`. -/
inductive Arms (clock : BitVec 64) : TimerUser → BitVec 64 → BitVec 64 → Prop where
  | pit {p q : Pit} {channel : Fin 3} {currentTime nseconds : BitVec 64} {timer : Bool}
      {calls : List DeviceCall} {index : BitVec 32} {oneShot : BitVec 8}
      (run : pitIrqTimerUpdate channel currentTime timer p = .ok (q, calls))
      (arms : .timer (.activate index nseconds oneShot) ∈ calls) :
      Arms clock .pit (q.counter channel).nextTransitionTime nseconds
  | lapicInitialCount {t u : ApicTimer} {active : BitVec 8} {lvt value : BitVec 32}
      {nseconds : BitVec 64} {calls : List TimerCall} {index : BitVec 32} {oneShot : BitVec 8}
      (run : apicWriteInitialCount clock active lvt value t = (u, calls))
      (arms : .activate index nseconds oneShot ∈ calls) :
      Arms clock .lapicInitialCount u.countEnd nseconds
  | lapicExpiry {s r : State} {t u : ApicTimer} {nseconds : BitVec 64} {calls : List TimerCall}
      {index : BitVec 32} {oneShot : BitVec 8}
      (run : apicTimerHandler s t = .ok (r, u, calls))
      (arms : .activate index nseconds oneShot ∈ calls) :
      Arms clock .lapicExpiry u.timerNextExpire nseconds
  | hpet {h : HpetReference} {b : HpetTimerBlock} {nseconds : BitVec 64} {index : BitVec 32}
      {oneShot : BitVec 8}
      (arms : hpetUpdateTimer clock h b = .activate index nseconds oneShot) :
      Arms clock (.hpet h) (b.eventTime h) nseconds
  | acpiPm {a b : AcpiPm} {ticksTotal nseconds : BitVec 64} {pin : BitVec 8}
      {calls : List DeviceCall} {index : BitVec 32} {oneShot : BitVec 8}
      (run : acpiPmUpdateSci ticksTotal pin a = (b, calls))
      (arms : .timer (.activate index nseconds oneShot) ∈ calls) :
      Arms clock .acpiPm a.expireTime nseconds

/-- The HPET sees no fraction of a tick, or the clock is at zero. -/
def TimerUser.SeesNow (clock : BitVec 64) : TimerUser → Prop
  | .hpet h => (clock - h.referenceTime).toNat % 10 = 0
  | _ => clock = 0

/-! ## Points in time -/

lemma timer_notMem_pitIrqCalls {enabled mode : BitVec 8} {level timer : Bool} {c : TimerCall} :
    .timer c ∉ pitIrqCalls enabled mode level timer := by
  unfold pitIrqCalls
  split_ifs <;> simp

/-- The argument of the PIT is the transition time that it stores. -/
lemma pit_arms {p q : Pit} {channel : Fin 3} {currentTime nseconds : BitVec 64} {timer : Bool}
    {calls : List DeviceCall} {index : BitVec 32} {oneShot : BitVec 8}
    (hrun : pitIrqTimerUpdate channel currentTime timer p = .ok (q, calls))
    (harms : .timer (.activate index nseconds oneShot) ∈ calls) :
    nseconds = (q.counter channel).nextTransitionTime := by
  obtain ⟨expire, -, hrest⟩ := bind_eq_ok.mp hrun
  obtain ⟨level, -, hrest⟩ := bind_eq_ok.mp hrest
  obtain ⟨rfl, rfl⟩ := Prod.mk.inj (Except.ok.inj hrest)
  have hcall : TimerCall.activate index nseconds oneShot =
      pitTimerCall (p.counter channel).timerId expire := by
    rcases List.mem_append.mp harms with hirq | hlast
    · exact absurd hirq timer_notMem_pitIrqCalls
    · exact DeviceCall.timer.inj (List.mem_singleton.mp hlast)
  unfold pitTimerCall at hcall
  split_ifs at hcall
  rw [(TimerCall.activate.inj hcall).2.1]
  simp [Pit.setCounter]

/-- Reading the status does not move the overflow. -/
lemma expireTime_acpiGetPmStatus {ticksTotal : BitVec 64} {a : AcpiPm} :
    (acpiGetPmStatus ticksTotal a).2.expireTime = a.expireTime := by
  unfold acpiGetPmStatus AcpiPm.expireTime
  dsimp only
  split <;> rfl

lemma acpi_arms {a b : AcpiPm} {ticksTotal nseconds : BitVec 64} {pin : BitVec 8}
    {calls : List DeviceCall} {index : BitVec 32} {oneShot : BitVec 8}
    (hrun : acpiPmUpdateSci ticksTotal pin a = (b, calls))
    (harms : .timer (.activate index nseconds oneShot) ∈ calls) : nseconds = a.expireTime := by
  unfold acpiPmUpdateSci at hrun
  rcases hstatus : acpiGetPmStatus ticksTotal a with ⟨status, after⟩
  have hexpire : after.expireTime = a.expireTime := by
    rw [← expireTime_acpiGetPmStatus (a := a), hstatus]
  rw [hstatus] at hrun
  obtain ⟨-, rfl⟩ := Prod.mk.inj hrun
  simp only [List.mem_cons, List.not_mem_nil, or_false, reduceCtorEq, false_or] at harms
  have hcall := DeviceCall.timer.inj harms
  split_ifs at hcall
  rw [← hexpire, (TimerCall.activate.inj hcall).2.1]

/-- All users but the HPET pass the time of the event. -/
lemma Arms.eq_event {clock event nseconds : BitVec 64} {user : TimerUser}
    (h : Arms clock user event nseconds) (hother : ∀ r, user ≠ .hpet r) : nseconds = event := by
  cases h with
  | pit run arms => exact pit_arms run arms
  | lapicInitialCount run arms =>
      unfold apicWriteInitialCount at run
      split_ifs at run <;> obtain ⟨rfl, rfl⟩ := Prod.mk.inj run <;> simp at arms
      · exact arms.2.1
      · exact arms.2.1
  | lapicExpiry run arms =>
      unfold apicTimerHandler at run
      dsimp only at run
      split_ifs at run with hmasked
      · obtain ⟨-, hrest⟩ := Prod.mk.inj (Except.ok.inj run)
        obtain ⟨-, rfl⟩ := Prod.mk.inj hrest
        cases arms
      · obtain ⟨⟨status, r⟩, -, hrest⟩ := bind_eq_ok.mp run
        obtain ⟨-, hrest⟩ := Prod.mk.inj (Except.ok.inj hrest)
        obtain ⟨rfl, rfl⟩ := Prod.mk.inj hrest
        exact (TimerCall.activate.inj (List.mem_singleton.mp arms)).2.1
  | hpet arms => exact absurd rfl (hother _)
  | acpiPm run arms =>
      exact acpi_arms run arms

lemma sub_eq_self_iff {x y : BitVec 64} : x = x - y ↔ y = 0 := by
  constructor
  · intro h
    have : x + y = x := by
      calc x + y = x - y + y := by rw [← h]
        _ = x := BitVec.sub_add_cancel x y
    simpa using this
  · rintro rfl
    simp

/-- The HPET's argument is what is left to the event, less the fraction of a tick that its counter
does not show. -/
lemma hpet_duration_iff {clock : BitVec 64} {h : HpetReference} {b : HpetTimerBlock} :
    hpetTicksToNs (b.comparator - hpetGetTicks clock h) = b.eventTime h - clock ↔
      (clock - h.referenceTime).toNat % 10 = 0 := by
  unfold HpetTimerBlock.eventTime hpetGetTicks hpetTicksToNs
  generalize hx : clock - h.referenceTime = x
  have hleft : (b.comparator - (x / 10 + h.referenceValue)) * 10 =
      (b.comparator - h.referenceValue) * 10 - x / 10 * 10 := by ring
  have hright : h.referenceTime + (b.comparator - h.referenceValue) * 10 - clock =
      (b.comparator - h.referenceValue) * 10 - x := by
    rw [← hx]
    ring
  have hwhole : (x / 10 * 10).toNat = x.toNat / 10 * 10 := by
    have hten : (10 : BitVec 64).toNat = 10 := by decide
    have hlt := x.isLt
    rw [BitVec.toNat_mul, BitVec.toNat_udiv, hten]
    exact Nat.mod_eq_of_lt (by omega)
  rw [hleft, hright, sub_right_inj, ← BitVec.toNat_inj, hwhole]
  omega

/-- The argument of a call to `TimerActivate` is the time from now to the device's next event
exactly when the clock is at zero; for the HPET, exactly when the clock is a whole number of ticks
after the reference time. -/
theorem arms_duration_iff {clock event nseconds : BitVec 64} {user : TimerUser}
    (h : Arms clock user event nseconds) :
    nseconds = event - clock ↔ user.SeesNow clock := by
  cases hu : user with
  | hpet r =>
      rw [hu] at h
      cases h with
      | hpet arms =>
          cases arms
          exact hpet_duration_iff
  | _ =>
      rw [h.eq_event (by rw [hu]; exact fun r h => by cases h)]
      exact sub_eq_self_iff

/-- Counter 0 in mode 4, loaded with 1000 at the time 1000: the transition is at 839096, and that is
what the timer is armed with. -/
theorem pit_arms_absolute_time :
    ∃ q, pitLoadCount 1000 0 1000 (Pit.initial 5) =
        .ok (q, [.timer (.activate 5 839096 0)]) ∧
      Arms 1000 .pit (q.counter 0).nextTransitionTime 839096 ∧
      (839096 : BitVec 64) ≠ (q.counter 0).nextTransitionTime - 1000 := by
  have hload : ∃ q, pitLoadCount 1000 0 1000 (Pit.initial 5) =
      .ok (q, [.timer (.activate 5 839096 0)]) := ⟨_, rfl⟩
  obtain ⟨q, hq⟩ := hload
  have harms : Arms 1000 .pit (q.counter 0).nextTransitionTime 839096 :=
    .pit hq (List.mem_singleton_self _)
  refine ⟨q, hq, harms, ?_⟩
  rw [← pit_arms hq (List.mem_singleton_self _)]
  decide

/-- At the time 30 an HPET that was started at the time 10 shows exactly two ticks. -/
theorem hpet_arms_duration_on_tick :
    hpetTicksToNs (10 - hpetGetTicks 30 ⟨10, 0⟩) =
      HpetTimerBlock.eventTime ⟨0, 10, 2⟩ ⟨10, 0⟩ - 30 :=
  (arms_duration_iff (.hpet (b := ⟨0, 10, 2⟩) rfl)).mpr (by
    unfold TimerUser.SeesNow
    decide)

end Svmm
