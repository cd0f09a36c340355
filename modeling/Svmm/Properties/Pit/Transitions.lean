import Svmm.Construction.Pit
import Svmm.Framework.Rates
import Svmm.Framework.Run
import Svmm.Properties.Timer.Clock

/-!
# Whether transitions are predicted exactly

A counter of mode 0, 1 or 3 changes its output at a tick that its count and mode fix.
`PitGetNextTransitionTime` converts that tick to a time, rounds down and adds one, which is the
first time that shows the tick; but the counter shows its ticks through `muldiv64`, so a transition
that lies `2 ^ 32` ns or more after the load time is not there when its time comes.
-/

namespace Svmm

open TransitionRun

/-- The tick at which the output changes next, for a counter that shows `r` ticks: the count in
modes 0 and 1, and in mode 3 the next boundary of a half-period or a period. -/
def PitCounter.targetTick (c : PitCounter) (r : ℕ) : ℕ :=
  let count := c.count.toNat
  if c.mode = 3 then
    if r % count < (count + 1) / 2 then r / count * count + (count + 1) / 2
    else (r / count + 1) * count
  else count

/-- In modes 0 and 1 the output changes once. -/
def PitCounter.Changes (c : PitCounter) (r : ℕ) : Prop := c.mode = 3 ∨ r < c.count.toNat

instance (c : PitCounter) (r : ℕ) : Decidable (c.Changes r) := inferInstanceAs (Decidable (_ ∨ _))

/-- The output of a counter of mode 0, 1 or 3 that shows `r` ticks. -/
def PitCounter.output (c : PitCounter) (r : ℕ) : Bool :=
  let count := c.count.toNat
  if c.mode = 1 then decide (r < count)
  else if c.mode = 3 then decide (r % count < (count + 1) / 2)
  else decide (count ≤ r)

/-- A counter of mode 0, 1 or 3 with a count that can be loaded. -/
structure PitCounter.Counts (c : PitCounter) : Prop where
  mode : c.mode = 0 ∨ c.mode = 1 ∨ c.mode = 3
  pos : 0 < c.count.toNat
  le : c.count.toNat ≤ 65536

variable {c : PitCounter}

/-! ## The target -/

lemma PitCounter.targetTick_of_first {r : ℕ} (hmode : c.mode = 3)
    (hhalf : r % c.count.toNat < (c.count.toNat + 1) / 2) :
    c.targetTick r = r / c.count.toNat * c.count.toNat + (c.count.toNat + 1) / 2 := by
  unfold PitCounter.targetTick
  dsimp only
  rw [if_pos hmode, if_pos hhalf]

lemma PitCounter.targetTick_of_second {r : ℕ} (hmode : c.mode = 3)
    (hhalf : ¬ r % c.count.toNat < (c.count.toNat + 1) / 2) :
    c.targetTick r = r / c.count.toNat * c.count.toNat + c.count.toNat := by
  unfold PitCounter.targetTick
  dsimp only
  rw [if_pos hmode, if_neg hhalf, Nat.succ_mul]

lemma PitCounter.targetTick_of_ne {r : ℕ} (hmode : c.mode ≠ 3) :
    c.targetTick r = c.count.toNat := by
  unfold PitCounter.targetTick
  dsimp only
  rw [if_neg hmode]

/-- The target is ahead, by a period at most. -/
lemma PitCounter.Counts.target_bounds (h : c.Counts) {r : ℕ} (hr : c.Changes r) :
    r < c.targetTick r ∧ c.targetTick r ≤ r + c.count.toNat := by
  have hsplit := Nat.div_add_mod' r c.count.toNat
  have hlt := Nat.mod_lt r h.pos
  by_cases hmode : c.mode = 3
  · by_cases hhalf : r % c.count.toNat < (c.count.toNat + 1) / 2
    · rw [PitCounter.targetTick_of_first hmode hhalf]
      have := h.pos
      omega
    · rw [PitCounter.targetTick_of_second hmode hhalf]
      omega
  · have hcount := hr.resolve_left hmode
    rw [PitCounter.targetTick_of_ne hmode]
    omega

/-- Ticks of the same period have remainders as far apart as they are. -/
lemma mod_of_same_period {r s count : ℕ} (hle : r / count * count ≤ s)
    (hlt : s < r / count * count + count) : s % count = s - r / count * count := by
  have hquot : s / count = r / count :=
    Nat.div_eq_of_lt_le hle (by rw [Nat.succ_mul]; exact hlt)
  have hsplit := Nat.div_add_mod' s count
  rw [hquot] at hsplit
  omega

/-- Up to the target the output stays. -/
lemma PitCounter.Counts.output_eq (h : c.Counts) {r s : ℕ} (hle : r ≤ s)
    (hlt : c.Changes r → s < c.targetTick r) : c.output s = c.output r := by
  unfold PitCounter.output
  dsimp only
  by_cases hmode : c.mode = 3
  · have hone : c.mode ≠ 1 := by rw [hmode]; decide
    have hnear := hlt (Or.inl hmode)
    have hsplit := Nat.div_add_mod' r c.count.toNat
    have hmod := Nat.mod_lt r h.pos
    rw [if_neg hone, if_pos hmode, if_neg hone, if_pos hmode]
    by_cases hhalf : r % c.count.toNat < (c.count.toNat + 1) / 2
    · rw [PitCounter.targetTick_of_first hmode hhalf] at hnear
      have hs : s % c.count.toNat = s - r / c.count.toNat * c.count.toNat :=
        mod_of_same_period (by omega) (by omega)
      rw [hs]
      exact decide_eq_decide.mpr (iff_of_true (by omega) hhalf)
    · rw [PitCounter.targetTick_of_second hmode hhalf] at hnear
      have hs : s % c.count.toNat = s - r / c.count.toNat * c.count.toNat :=
        mod_of_same_period (by omega) (by omega)
      rw [hs]
      exact decide_eq_decide.mpr (iff_of_false (by omega) hhalf)
  · rw [if_neg hmode, if_neg hmode]
    have hiff : s < c.count.toNat ↔ r < c.count.toNat := by
      refine ⟨fun hs => by omega, fun hr => ?_⟩
      have := hlt (Or.inr hr)
      rwa [PitCounter.targetTick_of_ne hmode] at this
    split_ifs
    · exact decide_eq_decide.mpr hiff
    · exact decide_eq_decide.mpr (by omega)

/-- At the target the output is another, but for the square wave of one tick, which is always
high. -/
lemma PitCounter.Counts.output_target (h : c.Counts) {r : ℕ} (hr : c.Changes r) :
    c.output (c.targetTick r) = c.output r ↔ c.mode = 3 ∧ c.count.toNat = 1 := by
  unfold PitCounter.output
  dsimp only
  by_cases hmode : c.mode = 3
  · have hone : c.mode ≠ 1 := by rw [hmode]; decide
    have hpos := h.pos
    rw [if_neg hone, if_pos hmode, if_neg hone, if_pos hmode, decide_eq_decide]
    rcases Nat.lt_or_ge 1 c.count.toNat with hbig | hsmall
    · refine iff_of_false ?_ (by omega)
      by_cases hhalf : r % c.count.toNat < (c.count.toNat + 1) / 2
      · rw [PitCounter.targetTick_of_first hmode hhalf, Nat.mul_add_mod_self_right,
          Nat.mod_eq_of_lt (show (c.count.toNat + 1) / 2 < c.count.toNat by omega)]
        omega
      · rw [PitCounter.targetTick_of_second hmode hhalf, Nat.add_mod_right,
          Nat.mul_mod_left]
        omega
    · obtain hcount : c.count.toNat = 1 := by omega
      rw [hcount]
      simp [hmode, Nat.mod_one]
  · have hcount := hr.resolve_left hmode
    rw [PitCounter.targetTick_of_ne hmode, if_neg hmode, if_neg hmode]
    refine iff_of_false ?_ (fun hboth => hmode hboth.1)
    split_ifs
    · simp [hcount]
    · simp [hcount]

/-! ## The counter's functions -/

lemma toNat_pitFreq : pitFreq.toNat = 1193182 := rfl

lemma toNat_nanosecondsPerSecond : nanosecondsPerSecond.toNat = 1000000000 := rfl

/-- The ticks that a counter shows a number of nanoseconds after its load time. -/
def pitTicks (elapsed : ℕ) : ℕ := Rates.ticks pitFreq.toNat nanosecondsPerSecond.toNat elapsed

/-- The nanoseconds after the load time that a tick is converted to. -/
def pitTime (tick : ℕ) : ℕ := Rates.time pitFreq.toNat nanosecondsPerSecond.toNat tick

lemma toNat_ticks {u : BitVec 64} :
    (c.ticks u).toNat = pitTicks ((u - c.countLoadTime).toNat % 2 ^ 32) :=
  toNat_muldiv64 _ _ _

/-- What the low half of a time shows fits in 23 bits. -/
lemma toNat_ticks_lt {u : BitVec 64} : (c.ticks u).toNat < 2 ^ 23 := by
  have hlow : (u - c.countLoadTime).toNat % 2 ^ 32 < 2 ^ 32 := Nat.mod_lt _ (by decide)
  rw [toNat_ticks, pitTicks, Rates.ticks, toNat_pitFreq, toNat_nanosecondsPerSecond]
  omega

lemma toNat_count64 : (c.count.setWidth 64).toNat = c.count.toNat := by
  rw [BitVec.toNat_setWidth]
  have := c.count.isLt
  omega

lemma toNat_halfPeriod (h : c.Counts) :
    (((c.count + 1) >>> 1).setWidth 64).toNat = (c.count.toNat + 1) / 2 := by
  have hle := h.le
  rw [BitVec.toNat_setWidth, BitVec.toNat_ushiftRight, BitVec.toNat_add, Nat.shiftRight_eq_div_pow]
  have hone : (1 : BitVec 32).toNat = 1 := rfl
  rw [hone]
  omega

lemma PitCounter.Counts.count_ne_zero (h : c.Counts) : c.count.setWidth 64 ≠ (0 : BitVec 64) := by
  intro hzero
  have hcount := congrArg BitVec.toNat hzero
  rw [toNat_count64] at hcount
  exact absurd hcount (Nat.ne_of_gt h.pos)

lemma divide_count (h : c.Counts) {r : BitVec 64} :
    divide r (c.count.setWidth 64) = .ok (r / c.count.setWidth 64) := if_neg h.count_ne_zero

lemma remainder_count (h : c.Counts) {r : BitVec 64} :
    remainder r (c.count.setWidth 64) = .ok (r % c.count.setWidth 64) := if_neg h.count_ne_zero

lemma PitCounter.Counts.mode_ne_two (h : c.Counts) : c.mode ≠ 2 := by
  rcases h.mode with hmode | hmode | hmode <;> rw [hmode] <;> decide

/-- `PitGetOut` is the output at the ticks that the counter shows. -/
lemma PitCounter.Counts.pitGetOut_eq (h : c.Counts) {u : BitVec 64} :
    pitGetOut c u = .ok (c.output (c.ticks u).toNat) := by
  unfold pitGetOut PitCounter.output
  dsimp only
  rcases h.mode with hmode | hmode | hmode
  · have hother : c.mode ≠ 1 ∧ c.mode ≠ 2 ∧ c.mode ≠ 3 ∧ ¬ (c.mode = 4 ∨ c.mode = 5) := by
      rw [hmode]
      decide
    obtain ⟨h1, h2, h3, h45⟩ := hother
    rw [if_neg h1, if_neg h2, if_neg h3, if_neg h45, if_neg h1, if_neg h3]
    refine congrArg Except.ok (decide_eq_decide.mpr ?_)
    rw [BitVec.le_def, toNat_count64]
  · rw [if_pos hmode, if_pos hmode]
    refine congrArg Except.ok (decide_eq_decide.mpr ?_)
    rw [BitVec.lt_def, toNat_count64]
  · have h1 : c.mode ≠ 1 := by
      rw [hmode]
      decide
    rw [if_neg h1, if_neg h.mode_ne_two, if_pos hmode, remainder_count h, ok_bind, if_neg h1,
      if_pos hmode]
    refine congrArg Except.ok (decide_eq_decide.mpr ?_)
    rw [BitVec.lt_def, BitVec.toNat_umod, toNat_count64, toNat_halfPeriod h]

/-- The base of the period that a tick is in. -/
lemma toNat_base {r : BitVec 64} :
    (r / c.count.setWidth 64 * c.count.setWidth 64).toNat =
      r.toNat / c.count.toNat * c.count.toNat := by
  have hle := Nat.div_mul_le_self r.toNat c.count.toNat
  have hlt := r.isLt
  rw [BitVec.toNat_mul, BitVec.toNat_udiv, toNat_count64]
  exact Nat.mod_eq_of_lt (by omega)

/-- `PitGetNextTransitionTime` finds the target, or none. -/
lemma PitCounter.Counts.nextTick_eq (h : c.Counts) {r : BitVec 64} :
    c.nextTick r =
      .ok (if c.Changes r.toNat then some (BitVec.ofNat 64 (c.targetTick r.toNat)) else none) := by
  have hle := h.le
  have hbase := toNat_base (c := c) (r := r)
  have hperiod := Nat.div_mul_le_self r.toNat c.count.toNat
  have hrest : (r - r / c.count.setWidth 64 * c.count.setWidth 64).toNat =
      r.toNat % c.count.toNat := by
    have hsplit := Nat.div_add_mod' r.toNat c.count.toNat
    rw [BitVec.toNat_sub_of_le (by rw [BitVec.le_def, hbase]; exact hperiod), hbase]
    omega
  unfold PitCounter.nextTick
  dsimp only
  rw [if_neg h.mode_ne_two]
  by_cases hmode : c.mode = 3
  · have hchanges : c.Changes r.toNat := Or.inl hmode
    rw [if_pos hmode, divide_count h, ok_bind, if_pos hchanges]
    simp only [BitVec.lt_def, hrest, toNat_halfPeriod h]
    by_cases hhalf : r.toNat % c.count.toNat < (c.count.toNat + 1) / 2
    · rw [if_pos hhalf, PitCounter.targetTick_of_first hmode hhalf]
      refine congrArg (fun n => Except.ok (some n)) (BitVec.eq_of_toNat_eq ?_)
      rw [BitVec.toNat_add, hbase, toNat_halfPeriod h, BitVec.toNat_ofNat]
    · rw [if_neg hhalf, PitCounter.targetTick_of_second hmode hhalf]
      refine congrArg (fun n => Except.ok (some n)) (BitVec.eq_of_toNat_eq ?_)
      rw [BitVec.toNat_add, hbase, toNat_count64, BitVec.toNat_ofNat]
  · have hchanges : c.Changes r.toNat ↔ r < c.count.setWidth 64 := by
      rw [BitVec.lt_def, toNat_count64]
      exact or_iff_right hmode
    rw [if_neg hmode]
    by_cases hlt : r < c.count.setWidth 64
    · rw [if_pos hlt, if_pos (hchanges.mpr hlt), PitCounter.targetTick_of_ne hmode]
      refine congrArg (fun n => Except.ok (some n)) (BitVec.eq_of_toNat_eq ?_)
      rw [toNat_count64, BitVec.toNat_ofNat]
      exact (Nat.mod_eq_of_lt (by omega)).symm
    · rw [if_neg hlt, if_neg (fun hc => hlt (hchanges.mp hc))]

/-! ## The prediction -/

/-- The time `n` is right at the time `t`: it is ahead, the output stays until one before it, and
then the target has just come; or, where it is -1, the output stays for the `2 ^ 32` ns after the
load. -/
structure PitCounter.Foretells (c : PitCounter) (t n : BitVec 64) : Prop where
  changes : n ≠ -1 → t < n ∧
    (∀ u, t ≤ u → u.toNat + 1 < n.toNat → pitGetOut c u = pitGetOut c t) ∧
    (c.ticks n).toNat = c.targetTick (c.ticks t).toNat
  stays : n = -1 → ∀ u, t ≤ u → u.toNat - c.countLoadTime.toNat < 2 ^ 32 →
    pitGetOut c u = pitGetOut c t

/-- What `PitGetNextTransitionTime` returns at a time is right. -/
def PitCounter.PredictsExactly (c : PitCounter) (t : BitVec 64) : Prop :=
  ∃ n, pitGetNextTransitionTime c t = .ok n ∧ c.Foretells t n

/-- The time of the next change, from the load time on, for a counter loaded `elapsed` ago. -/
def PitCounter.targetTime (c : PitCounter) (elapsed : ℕ) : ℕ :=
  pitTime (c.targetTick (pitTicks elapsed))

/-- A change that is still to come lies within `2 ^ 32` ns of the load time and below the largest
time; or its time is taken for -1, and is out of reach or no change; or it lies past the largest
time, and so does the next but one. -/
def PitCounter.InReach (c : PitCounter) (t : BitVec 64) : Prop :=
  let load := c.countLoadTime.toNat
  let target := c.targetTime (t.toNat - load)
  c.Changes (pitTicks (t.toNat - load)) →
    target + 1 < 2 ^ 32 ∧ load + target + 2 < 2 ^ 64 ∨
    load + target + 2 = 2 ^ 64 ∧ (2 ^ 32 ≤ target + 1 ∨ c.mode = 3 ∧ c.count.toNat = 1) ∨
    2 ^ 64 ≤ load + target ∧ t.toNat + 2 = 2 ^ 64

/-- A time that is less than `2 ^ 32` ns after the load time. -/
structure PitCounter.Near (c : PitCounter) (t : BitVec 64) : Prop where
  le : c.countLoadTime ≤ t
  lt : t.toNat - c.countLoadTime.toNat < 2 ^ 32

lemma toNat_elapsed {u : BitVec 64} (hle : c.countLoadTime ≤ u) :
    (u - c.countLoadTime).toNat = u.toNat - c.countLoadTime.toNat :=
  BitVec.toNat_sub_of_le hle

lemma PitCounter.Near.ticks_eq {t : BitVec 64} (h : c.Near t) :
    (c.ticks t).toNat = pitTicks (t.toNat - c.countLoadTime.toNat) := by
  rw [toNat_ticks, toNat_elapsed h.le, Nat.mod_eq_of_lt h.lt]

lemma PitCounter.Near.out_eq {t : BitVec 64} (h : c.Counts) (ht : c.Near t) :
    pitGetOut c t = .ok (c.output (pitTicks (t.toNat - c.countLoadTime.toNat))) := by
  rw [h.pitGetOut_eq, ht.ticks_eq]

lemma PitCounter.Near.later {t u : BitVec 64} (ht : c.Near t) (hle : t ≤ u)
    (hlt : u.toNat - c.countLoadTime.toNat < 2 ^ 32) : c.Near u :=
  ⟨BitVec.le_trans ht.le hle, hlt⟩

/-- What is known of the change ahead of a time. -/
structure PitCounter.Ahead (c : PitCounter) (t : BitVec 64) (target : ℕ) : Prop where
  /-- It has not come. -/
  le : t.toNat - c.countLoadTime.toNat ≤ target
  /-- It does not show before its time. -/
  before : ∀ x < target, pitTicks x < c.targetTick (pitTicks (t.toNat - c.countLoadTime.toNat))
  /-- It shows right after its time. -/
  shows : pitTicks (target + 1) = c.targetTick (pitTicks (t.toNat - c.countLoadTime.toNat))
  /-- Its time is the conversion of a tick. -/
  bound : target < 2 ^ 34 ∧ target ≠ 2 ^ 32 - 1

lemma PitCounter.Counts.ahead (h : c.Counts) {t : BitVec 64} (ht : c.Near t)
    (hc : c.Changes (pitTicks (t.toNat - c.countLoadTime.toNat))) :
    c.Ahead t (c.targetTime (t.toNat - c.countLoadTime.toNat)) := by
  obtain ⟨hlt, hnear⟩ := h.target_bounds hc
  have ha : 0 < pitFreq.toNat := by decide
  have hb : 0 < nanosecondsPerSecond.toNat := by decide
  refine ⟨Rates.le_time_of_ticks_lt ha hb hlt, fun x => Rates.ticks_lt_of_lt_time ha hb,
    Rates.ticks_time_succ ha (by decide), ?_⟩
  have hr := toNat_ticks_lt (c := c) (u := t)
  have hle := h.le
  rw [ht.ticks_eq] at hr
  unfold PitCounter.targetTime pitTime Rates.time
  rw [toNat_pitFreq, toNat_nanosecondsPerSecond]
  omega

lemma PitCounter.Counts.transition_none (h : c.Counts) {t : BitVec 64} (ht : c.Near t)
    (hc : ¬ c.Changes (pitTicks (t.toNat - c.countLoadTime.toNat))) :
    pitGetNextTransitionTime c t = .ok (-1) := by
  unfold pitGetNextTransitionTime
  rw [h.nextTick_eq, ok_bind, ht.ticks_eq, if_neg hc]
  rfl

lemma PitCounter.Counts.toNat_muldiv64_target (h : c.Counts) {t : BitVec 64} (ht : c.Near t)
    (hc : c.Changes (pitTicks (t.toNat - c.countLoadTime.toNat))) :
    (muldiv64 (BitVec.ofNat 64 (c.targetTick (pitTicks (t.toNat - c.countLoadTime.toNat))))
      nanosecondsPerSecond pitFreq).toNat = c.targetTime (t.toNat - c.countLoadTime.toNat) := by
  have hr := toNat_ticks_lt (c := c) (u := t)
  rw [ht.ticks_eq] at hr
  have hnear := (h.target_bounds hc).2
  have hle := h.le
  rw [toNat_muldiv64, BitVec.toNat_ofNat, Nat.mod_eq_of_lt (show c.targetTick _ < 2 ^ 64 by omega),
    Nat.mod_eq_of_lt (show c.targetTick _ < 2 ^ 32 by omega)]
  rfl

/-- The time that is returned for a change to come. -/
lemma PitCounter.Counts.transition_some (h : c.Counts) {t : BitVec 64} (ht : c.Near t)
    (hc : c.Changes (pitTicks (t.toNat - c.countLoadTime.toNat))) :
    ∃ n, pitGetNextTransitionTime c t = .ok n ∧
      (c.countLoadTime.toNat + c.targetTime (t.toNat - c.countLoadTime.toNat) < 2 ^ 64 →
        n = BitVec.ofNat 64
          (c.countLoadTime.toNat + c.targetTime (t.toNat - c.countLoadTime.toNat) + 1)) ∧
      (2 ^ 64 ≤ c.countLoadTime.toNat + c.targetTime (t.toNat - c.countLoadTime.toNat) →
        n = t + 1) := by
  have htime := h.toNat_muldiv64_target ht hc
  have hahead := h.ahead ht hc
  have hle := hahead.le
  have hbound := hahead.bound.1
  have hload := BitVec.le_def.mp ht.le
  have ht64 := t.isLt
  unfold pitGetNextTransitionTime
  rw [h.nextTick_eq, ok_bind, ht.ticks_eq, if_pos hc]
  refine ⟨_, rfl, fun hlow => ?_, fun hhigh => ?_⟩
  · generalize muldiv64 _ _ _ = m at htime ⊢
    have hsum : (c.countLoadTime + m).toNat =
        c.countLoadTime.toNat + c.targetTime (t.toNat - c.countLoadTime.toNat) := by
      rw [BitVec.toNat_add, htime, Nat.mod_eq_of_lt hlow]
    have hmax : (if c.countLoadTime + m ≤ t then t else c.countLoadTime + m).toNat =
        c.countLoadTime.toNat + c.targetTime (t.toNat - c.countLoadTime.toNat) := by
      split_ifs with hcut
      · rw [BitVec.le_def, hsum] at hcut
        omega
      · exact hsum
    refine BitVec.eq_of_toNat_eq ?_
    rw [BitVec.toNat_add, hmax, BitVec.toNat_ofNat]
    rfl
  · generalize muldiv64 _ _ _ = m at htime ⊢
    have hsum : (c.countLoadTime + m).toNat =
        c.countLoadTime.toNat + c.targetTime (t.toNat - c.countLoadTime.toNat) - 2 ^ 64 := by
      have hload64 := c.countLoadTime.isLt
      rw [BitVec.toNat_add, htime]
      omega
    have hcut : c.countLoadTime + m ≤ t := by
      rw [BitVec.le_def, hsum]
      omega
    rw [if_pos hcut]

/-- The returned time decides what is claimed. -/
lemma predictsExactly_iff {t n : BitVec 64} (hn : pitGetNextTransitionTime c t = .ok n) :
    c.PredictsExactly t ↔ c.Foretells t n := by
  constructor
  · rintro ⟨m, hm, hright⟩
    obtain rfl : n = m := Except.ok.inj (hn.symm.trans hm)
    exact hright
  · exact fun hright => ⟨n, hn, hright⟩

/-- Before the change the output is the one now. -/
lemma PitCounter.Counts.out_before (h : c.Counts) {t u : BitVec 64} (ht : c.Near t) {target : ℕ}
    (ha : c.Ahead t target) (hle : t ≤ u) (hlt : u.toNat - c.countLoadTime.toNat < 2 ^ 32)
    (hu : u.toNat - c.countLoadTime.toNat < target) : pitGetOut c u = pitGetOut c t := by
  have hnat := BitVec.le_def.mp hle
  rw [(ht.later hle hlt).out_eq h, ht.out_eq h]
  exact congrArg Except.ok
    (h.output_eq (Rates.ticks_mono (by omega)) fun _ => ha.before _ hu)

/-- Where no change is to come the output stays. -/
lemma PitCounter.Counts.out_stays (h : c.Counts) {t u : BitVec 64} (ht : c.Near t)
    (hc : ¬ c.Changes (pitTicks (t.toNat - c.countLoadTime.toNat))) (hle : t ≤ u)
    (hlt : u.toNat - c.countLoadTime.toNat < 2 ^ 32) : pitGetOut c u = pitGetOut c t := by
  have hnat := BitVec.le_def.mp hle
  rw [(ht.later hle hlt).out_eq h, ht.out_eq h]
  exact congrArg Except.ok
    (h.output_eq (Rates.ticks_mono (by omega)) fun hchanges => absurd hchanges hc)

/-- The time right after the change shows it when it is within the range; an earlier one does
not. -/
lemma PitCounter.Ahead.shows_iff {t n : BitVec 64} {target : ℕ} (ha : c.Ahead t target)
    (ht : c.Near t) (hn : (n - c.countLoadTime).toNat = target + 1 ∨
      (n - c.countLoadTime).toNat < target) :
    (c.ticks n).toNat = c.targetTick (c.ticks t).toNat ↔
      (n - c.countLoadTime).toNat = target + 1 ∧ target + 1 < 2 ^ 32 := by
  rw [toNat_ticks, ht.ticks_eq]
  by_cases hboth : (n - c.countLoadTime).toNat = target + 1 ∧ target + 1 < 2 ^ 32
  · refine iff_of_true ?_ hboth
    rw [hboth.1, Nat.mod_eq_of_lt hboth.2]
    exact ha.shows
  · refine iff_of_false (Nat.ne_of_lt (ha.before _ ?_)) hboth
    omega

/-- The change is due below the largest time. -/
lemma PitCounter.Ahead.exact_iff {t n : BitVec 64} {target : ℕ} (h : c.Counts) (ht : c.Near t)
    (ha : c.Ahead t target) (hn : n = BitVec.ofNat 64 (c.countLoadTime.toNat + target + 1))
    (hlow : c.countLoadTime.toNat + target + 2 < 2 ^ 64) :
    c.Foretells t n ↔ target + 1 < 2 ^ 32 := by
  have hnat : n.toNat = c.countLoadTime.toNat + target + 1 := by
    rw [hn, BitVec.toNat_ofNat]
    exact Nat.mod_eq_of_lt (by omega)
  have hne : n ≠ -1 := by
    intro h1
    rw [h1] at hnat
    have hlast : (-1 : BitVec 64).toNat = 2 ^ 64 - 1 := rfl
    omega
  have hload := BitVec.le_def.mp ht.le
  have hle := ha.le
  have helapsed : (n - c.countLoadTime).toNat = target + 1 := by
    rw [toNat_elapsed (BitVec.le_def.mpr (by omega)), hnat]
    omega
  have hshows := ha.shows_iff ht (Or.inl helapsed)
  constructor
  · rintro ⟨hcase, -⟩
    exact (hshows.mp (hcase hne).2.2).2
  · intro hnear
    refine ⟨fun _ => ⟨?_, fun u hu hlt => ?_, hshows.mpr ⟨helapsed, hnear⟩⟩,
      fun h1 => absurd h1 hne⟩
    · rw [BitVec.lt_def, hnat]
      omega
    · have := BitVec.le_def.mp hu
      exact h.out_before ht ha hu (by omega) (by omega)

/-- The time of the change is taken for -1. -/
lemma PitCounter.Ahead.minusOne_iff {t n : BitVec 64} {target : ℕ} (h : c.Counts) (ht : c.Near t)
    (hc : c.Changes (pitTicks (t.toNat - c.countLoadTime.toNat)))
    (ha : c.Ahead t target) (hn : n = BitVec.ofNat 64 (c.countLoadTime.toNat + target + 1))
    (hlast : c.countLoadTime.toNat + target + 2 = 2 ^ 64) :
    c.Foretells t n ↔ 2 ^ 32 ≤ target + 1 ∨ c.mode = 3 ∧ c.count.toNat = 1 := by
  have hone : n = -1 := by
    rw [hn]
    refine BitVec.eq_of_toNat_eq ?_
    rw [BitVec.toNat_ofNat, Nat.mod_eq_of_lt (by omega)]
    exact (by omega : c.countLoadTime.toNat + target + 1 = 2 ^ 64 - 1)
  have hload := BitVec.le_def.mp ht.le
  have hle := ha.le
  constructor
  · rintro ⟨-, hall⟩
    rcases Nat.lt_or_ge (target + 1) (2 ^ 32) with hnear | hfar
    · refine Or.inr ?_
      have hnat : n.toNat = c.countLoadTime.toNat + (target + 1) := by
        rw [hn, BitVec.toNat_ofNat]
        exact Nat.mod_eq_of_lt (by omega)
      have hu : t ≤ n := BitVec.le_def.mpr (by omega)
      have hlt : n.toNat - c.countLoadTime.toNat < 2 ^ 32 := by omega
      have hout := hall hone n hu hlt
      rw [(ht.later hu hlt).out_eq h, ht.out_eq h, hnat, Nat.add_sub_cancel_left, ha.shows] at hout
      exact (h.output_target hc).mp (Except.ok.inj hout)
    · exact Or.inl hfar
  · rintro hcase
    refine ⟨fun hne => absurd hone hne, fun _ u hu hlt => ?_⟩
    have hnat := BitVec.le_def.mp hu
    have hu64 := u.isLt
    rcases hcase with hfar | ⟨hmode, hcount⟩
    · have := ha.bound.2
      exact h.out_before ht ha hu hlt (by omega)
    · rw [(ht.later hu hlt).out_eq h, ht.out_eq h]
      have hone : c.mode ≠ 1 := by rw [hmode]; decide
      unfold PitCounter.output
      dsimp only
      rw [if_neg hone, if_neg hone, if_pos hmode, if_pos hmode, hcount, Nat.mod_one, Nat.mod_one]

/-- The change is due past the largest time. -/
lemma PitCounter.Ahead.past_iff {t : BitVec 64} {target : ℕ} (h : c.Counts) (ht : c.Near t)
    (ha : c.Ahead t target) (hhigh : 2 ^ 64 ≤ c.countLoadTime.toNat + target) :
    c.Foretells t (t + 1) ↔ t.toNat + 2 = 2 ^ 64 := by
  have hload := BitVec.le_def.mp ht.le
  have ht64 := t.isLt
  have hlast : (-1 : BitVec 64).toNat = 2 ^ 64 - 1 := rfl
  constructor
  · rintro ⟨hcase, -⟩
    by_contra hnot
    have hne : t + 1 ≠ -1 := by
      intro heq
      have := congrArg BitVec.toNat heq
      rw [BitVec.toNat_add, hlast] at this
      have h1 : (1 : BitVec 64).toNat = 1 := rfl
      omega
    obtain ⟨hlt, -, hshows⟩ := hcase hne
    have hnext : (t + 1).toNat = t.toNat + 1 := by
      have := BitVec.lt_def.mp hlt
      rw [BitVec.toNat_add] at this ⊢
      have h1 : (1 : BitVec 64).toNat = 1 := rfl
      omega
    have helapsed : (t + 1 - c.countLoadTime).toNat < target := by
      rw [toNat_elapsed (BitVec.le_def.mpr (by omega)), hnext]
      omega
    have := ((ha.shows_iff ht (Or.inr helapsed)).mp hshows).1
    omega
  · intro heq
    have hone : t + 1 = -1 := by
      refine BitVec.eq_of_toNat_eq ?_
      have h1 : (1 : BitVec 64).toNat = 1 := rfl
      rw [BitVec.toNat_add, hlast]
      omega
    refine ⟨fun hne => absurd hone hne, fun _ u hu hlt => ?_⟩
    have hu64 := u.isLt
    exact h.out_before ht ha hu hlt (by omega)

/-- A counter of mode 0, 1 or 3 predicts its next change exactly when the change is within reach. -/
theorem pit_prediction_iff {t : BitVec 64} (h : c.Counts) (ht : c.Near t) :
    c.PredictsExactly t ↔ c.InReach t := by
  unfold PitCounter.InReach
  dsimp only
  by_cases hc : c.Changes (pitTicks (t.toNat - c.countLoadTime.toNat))
  · have ha := h.ahead ht hc
    obtain ⟨n, hn, hlow, hhigh⟩ := h.transition_some ht hc
    rw [predictsExactly_iff hn]
    generalize c.targetTime (t.toNat - c.countLoadTime.toNat) = target at *
    have hload := BitVec.le_def.mp ht.le
    have hle := ha.le
    have ht64 := t.isLt
    simp only [hc, forall_const]
    rcases Nat.lt_or_ge (c.countLoadTime.toNat + target) (2 ^ 64) with hsum | hsum
    · rcases Nat.lt_trichotomy (c.countLoadTime.toNat + target + 2) (2 ^ 64) with hlt | heq | hgt
      · rw [ha.exact_iff h ht (hlow hsum) hlt]
        omega
      · rw [ha.minusOne_iff h ht hc (hlow hsum) heq]
        constructor
        · exact fun hcase => Or.inr (Or.inl ⟨heq, hcase⟩)
        · rintro (⟨-, hlt⟩ | ⟨-, hcase⟩ | ⟨hpast, -⟩)
          · omega
          · exact hcase
          · omega
      · have hzero : n = 0 := by
          rw [hlow hsum, show c.countLoadTime.toNat + target + 1 = 2 ^ 64 by omega]
          rfl
        refine iff_of_false ?_ (by omega)
        rintro ⟨hcase, -⟩
        rw [hzero] at hcase
        exact absurd (hcase (by decide)).1 (by simp)
    · obtain rfl := hhigh hsum
      rw [ha.past_iff h ht hsum]
      omega
  · refine iff_of_true ⟨-1, h.transition_none ht hc, fun hne => absurd rfl hne,
      fun _ u hu hlt => ?_⟩ fun hchanges => absurd hchanges hc
    exact h.out_stays ht hc hu hlt

/-- A square wave of 65536 ticks, loaded at time 0. -/
def squareWave : PitCounter := { PitCounter.initial 0 with count := 65536, mode := 3 }

/-- At the start of its half-period 156 the square wave of 65536 ticks is told of a change at
4311643991, at which it shows tick 19898 and not the target 5144576. -/
theorem pit_prediction_out_of_reach :
    pitGetNextTransitionTime squareWave 4284181291 = .ok 4311643991 ∧
      (squareWave.ticks 4311643991).toNat = 19898 ∧
      squareWave.targetTick (squareWave.ticks 4284181291).toNat = 5144576 ∧
      ¬ squareWave.PredictsExactly 4284181291 := by
  have htime : pitGetNextTransitionTime squareWave 4284181291 = .ok 4311643991 := by
    decide +kernel
  have hshown : (squareWave.ticks 4311643991).toNat = 19898 := by decide +kernel
  have htarget : squareWave.targetTick (squareWave.ticks 4284181291).toNat = 5144576 := by
    decide +kernel
  refine ⟨htime, hshown, htarget, fun hexact => ?_⟩
  have hreached := (((predictsExactly_iff htime).mp hexact).changes (by decide)).2.2
  rw [hshown, htarget] at hreached
  exact absurd hreached (by decide)

/-- A count of 1000 that is loaded at time 5 is met at 838100. -/
theorem pit_prediction_of_thousand :
    PitCounter.PredictsExactly
      { PitCounter.initial 0 with count := 1000, mode := 0, countLoadTime := 5 } 500 := by
  refine (pit_prediction_iff ⟨Or.inl rfl, by decide, by decide⟩ ⟨by decide, by decide⟩).mpr ?_
  exact fun _ => Or.inl ⟨by decide, by decide⟩

end Svmm
