import Mathlib.Tactic.Common
import Mathlib.Algebra.Order.Ring.Nat

/-!
# Times between two clocks

A slow clock makes `a` ticks while a fast one makes `b`, with `a < b`.  A time of the fast clock
shows as `x * a / b` on the slow one, and a tick of the slow clock is converted back as
`n * b / a`; both are rounded down.  The converted time is the last one at which the tick has not
certainly come: before it the slow clock shows less, and one later it shows exactly the tick.
-/

namespace Rates

variable {a b : ℕ}

/-- The slow clock at a time of the fast one. -/
def ticks (a b x : ℕ) : ℕ := x * a / b

/-- The time of a tick, rounded down. -/
def time (a b n : ℕ) : ℕ := n * b / a

lemma ticks_mono {x y : ℕ} (h : x ≤ y) : ticks a b x ≤ ticks a b y :=
  Nat.div_le_div_right (Nat.mul_le_mul_right a h)

lemma ticks_lt_iff (hb : 0 < b) {x n : ℕ} : ticks a b x < n ↔ x * a < n * b :=
  Nat.div_lt_iff_lt_mul hb

/-- A time at which the tick has not come is not after the converted time. -/
lemma le_time_of_ticks_lt (ha : 0 < a) (hb : 0 < b) {x n : ℕ} (h : ticks a b x < n) :
    x ≤ time a b n :=
  (Nat.le_div_iff_mul_le ha).mpr (Nat.le_of_lt ((ticks_lt_iff hb).mp h))

/-- Before the converted time the tick has not come. -/
lemma ticks_lt_of_lt_time (ha : 0 < a) (hb : 0 < b) {x n : ℕ} (h : x < time a b n) :
    ticks a b x < n := by
  rw [ticks_lt_iff hb]
  have hnext : (x + 1) * a ≤ n * b := (Nat.le_div_iff_mul_le ha).mp h
  calc x * a < (x + 1) * a := Nat.mul_lt_mul_of_pos_right (Nat.lt_succ_self x) ha
    _ ≤ n * b := hnext

/-- One after the converted time the slow clock shows exactly the tick. -/
lemma ticks_time_succ (ha : 0 < a) (hab : a < b) {n : ℕ} : ticks a b (time a b n + 1) = n := by
  have hb : 0 < b := Nat.lt_trans ha hab
  have hlow : n * b < (time a b n + 1) * a := by
    have := Nat.lt_mul_div_succ (n * b) ha
    calc n * b < a * (n * b / a + 1) := this
      _ = (time a b n + 1) * a := Nat.mul_comm _ _
  have hhigh : time a b n * a ≤ n * b := Nat.div_mul_le_self _ _
  refine Nat.le_antisymm (Nat.lt_succ_iff.mp ?_) ?_
  · rw [ticks_lt_iff hb]
    calc (time a b n + 1) * a = time a b n * a + a := Nat.succ_mul _ _
      _ < n * b + b := Nat.add_lt_add_of_le_of_lt hhigh hab
      _ = n.succ * b := (Nat.succ_mul _ _).symm
  · exact (Nat.le_div_iff_mul_le hb).mpr (Nat.le_of_lt hlow)

end Rates
