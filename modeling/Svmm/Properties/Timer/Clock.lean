import Svmm.Properties.Timer.Effects
import Mathlib.Tactic.Ring

/-!
# Whether the clock is exact

`muldiv64` multiplies the low half of its first argument only, so it is the floor of the
quotient just below `2 ^ 32`.  The clock is a quarter of the low half of `TicksTotal`, and goes
back to zero each time that half overflows.
-/

namespace Svmm

open TransitionRun

/-! ## The quotient -/

lemma toNat_muldiv64 (a : BitVec 64) (b c : BitVec 32) :
    (muldiv64 a b c).toNat = a.toNat % 2 ^ 32 * b.toNat / c.toNat := by
  have hprod : a.toNat % 2 ^ 32 * b.toNat < 2 ^ 64 := by
    have ha : a.toNat % 2 ^ 32 < 2 ^ 32 := Nat.mod_lt _ (by decide)
    calc a.toNat % 2 ^ 32 * b.toNat < 2 ^ 32 * 2 ^ 32 := Nat.mul_lt_mul'' ha b.isLt
      _ = 2 ^ 64 := (Nat.pow_add 2 32 32).symm
  have hvalue : muldiv64 a b c =
      (a.setWidth 32).setWidth 64 * b.setWidth 64 / c.setWidth 64 := by
    unfold muldiv64
    simp only [Sse.shift_extractEpi32_or]
    rw [Sse.cvtsi128Si64_mulEpu32]
  have hb := b.isLt
  have hc := c.isLt
  have ha : a.toNat % 2 ^ 32 < 2 ^ 64 := by omega
  rw [hvalue, BitVec.toNat_udiv, BitVec.toNat_mul]
  simp only [BitVec.toNat_setWidth]
  rw [Nat.mod_eq_of_lt ha, Nat.mod_eq_of_lt (show b.toNat < 2 ^ 64 by omega),
    Nat.mod_eq_of_lt (show c.toNat < 2 ^ 64 by omega), Nat.mod_eq_of_lt hprod]

/-- Dropping a multiple of `2 ^ 32` from a factor changes the quotient by a smaller divisor. -/
lemma floor_low_half_iff {a b c : ℕ} (hc : 0 < c) (hlt : c < 2 ^ 32) :
    a % 2 ^ 32 * b / c = a * b / c ↔ a < 2 ^ 32 ∨ b = 0 := by
  constructor
  · intro heq
    by_contra hnot
    push Not at hnot
    obtain ⟨ha, hb⟩ := hnot
    have hbig : a % 2 ^ 32 * b + c ≤ a * b := by
      have hsplit : a * b = a % 2 ^ 32 * b + 2 ^ 32 * (a / 2 ^ 32) * b := by
        rw [← Nat.add_mul, Nat.mod_add_div]
      have hquot : 1 ≤ a / 2 ^ 32 := Nat.div_pos ha (by decide)
      have hone : 1 ≤ b := Nat.one_le_iff_ne_zero.mpr hb
      have : 2 ^ 32 * 1 * 1 ≤ 2 ^ 32 * (a / 2 ^ 32) * b :=
        Nat.mul_le_mul (Nat.mul_le_mul le_rfl hquot) hone
      omega
    have hstep : a % 2 ^ 32 * b / c + 1 ≤ a * b / c := by
      rw [← Nat.add_div_right _ hc]
      exact Nat.div_le_div_right hbig
    omega
  · rintro (ha | rfl)
    · rw [Nat.mod_eq_of_lt ha]
    · simp

/-! ## The clock -/

lemma toNat_timerGetClockNs (s : TimerState) :
    (timerGetClockNs s).toNat = s.ticksTotal.toNat % 2 ^ 32 / 4 := by
  unfold timerGetClockNs
  rw [toNat_muldiv64]
  have hb : msecondToNanoseconds.toNat = 1000000 := by decide
  have hc : cpuFreq.toNat = 1000000 * 4 := by decide
  rw [hb, hc, Nat.mul_comm, Nat.mul_div_mul_left _ _ (by decide)]

/-- The step does not set the clock back. -/
def ClockKept (s : TimerState) (op : TimerOp) : Prop :=
  ∀ t, timerStep s op = .ok t → (timerGetClockNs s).toNat ≤ (timerGetClockNs t).toNat

/-- A tick does not take the low half of `TicksTotal` below the group of four it is in. -/
def LowHalfKept (s : TimerState) : TimerOp → Prop
  | .tick ticks _ =>
      s.ticksTotal.toNat % 2 ^ 32 / 4 ≤ (s.ticksTotal.toNat + ticks.toNat) % 2 ^ 32 / 4
  | _ => True

lemma clock_of_tick {s t : TimerState} {ticks : BitVec 64} {calls : ℕ → List TimerCall}
    (h : timerTick ticks calls s = .ok t) :
    (timerGetClockNs t).toNat = (s.ticksTotal.toNat + ticks.toNat) % 2 ^ 32 / 4 := by
  rw [toNat_timerGetClockNs, ticksTotal_timerTick h, BitVec.toNat_add]
  omega

/-- A step that succeeds keeps the clock exactly when it keeps the low half. -/
lemma clockKept_iff {s t : TimerState} {op : TimerOp} (h : timerStep s op = .ok t) :
    ClockKept s op ↔ LowHalfKept s op := by
  have hend : ClockKept s op ↔ (timerGetClockNs s).toNat ≤ (timerGetClockNs t).toNat := by
    refine ⟨fun hall => hall t h, fun hle u hu => ?_⟩
    obtain rfl : t = u := Except.ok.inj (h.symm.trans hu)
    exact hle
  rw [hend]
  have hsame : t.ticksTotal = s.ticksTotal →
      ((timerGetClockNs s).toNat ≤ (timerGetClockNs t).toNat ↔ True) := by
    intro htotal
    rw [timerGetClockNs_congr htotal]
    simp
  cases op with
  | tick ticks calls =>
      rw [clock_of_tick h, toNat_timerGetClockNs]
      exact Iff.rfl
  | call c => exact hsame (ticksTotal_timerCall h)
  | create => exact hsame (timerCreate_eq_ok h).1
  | register nseconds => exact hsame (timerRegister_eq_ok h).1

/-- `muldiv64` is the floor of the quotient exactly when its first argument is below `2 ^ 32` or
its second is zero.  Along a run the clock never goes back exactly when no tick takes the low half
of `TicksTotal` below the group of four it is in. -/
theorem virtual_clock_iff {a : BitVec 64} {b c : BitVec 32} (hc : 0 < c.toNat)
    {s t : TimerState} {ops : List TimerOp} (hrun : run timerStep s ops = .ok t) :
    (a.toNat * b.toNat / c.toNat < 2 ^ 64 →
      ((muldiv64 a b c).toNat = a.toNat * b.toNat / c.toNat ↔ a.toNat < 2 ^ 32 ∨ b = 0)) ∧
    (Meets timerStep ClockKept s ops ↔ Meets timerStep LowHalfKept s ops) := by
  constructor
  · intro _
    have hb : b = 0 ↔ b.toNat = 0 := by
      rw [← BitVec.toNat_inj]
      rfl
    rw [toNat_muldiv64, hb]
    exact floor_low_half_iff hc c.isLt
  · exact Meets.congr_of_run (fun _ _ _ h => clockKept_iff h) hrun

/-- A quarter of `2 ^ 32` comes out as 0, and the tick that takes the total to `2 ^ 32` takes the
clock from `2 ^ 30 - 1` to 0. -/
theorem virtual_clock_goes_back :
    (muldiv64 0x100000000 1000000 4000000).toNat ≠ 0x100000000 * 1000000 / 4000000 ∧
      ∃ s t, run timerStep timerInitialize [.tick 0xFFFFFFFF fun _ => []] = .ok s ∧
        timerStep s (.tick 1 fun _ => []) = .ok t ∧
        (timerGetClockNs s).toNat = 2 ^ 30 - 1 ∧ (timerGetClockNs t).toNat = 0 :=
  ⟨by decide, _, _, rfl, rfl, by decide, by decide⟩

theorem virtual_clock_three_ticks :
    (muldiv64 5 1000000 4000000).toNat = 5 * 1000000 / 4000000 ∧
      (Meets timerStep ClockKept timerInitialize
          [.tick 4 fun _ => [], .create, .tick 4 fun _ => []] ↔
        Meets timerStep LowHalfKept timerInitialize
          [.tick 4 fun _ => [], .create, .tick 4 fun _ => []]) := by
  have hrun : ∃ t, run timerStep timerInitialize
      [.tick 4 fun _ => [], .create, .tick 4 fun _ => []] = .ok t := ⟨_, rfl⟩
  obtain ⟨t, ht⟩ := hrun
  have hboth := virtual_clock_iff (a := 5) (b := 1000000) (c := 4000000) (by decide) ht
  exact ⟨(hboth.1 (by decide)).mpr (Or.inl (by decide)), hboth.2⟩

end Svmm
