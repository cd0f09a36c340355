import Svmm.Properties.Apic.Bus
import Svmm.Properties.Apic.ReadBack

/-!
# The count of the local APIC timer

A read of the current count takes the ticks that have passed off the initial count itself, and
divides by a register that starts at zero.  The deadlines of the periodic mode are computed from
the load time each time, and with another reading of the divider than the first one.
-/

namespace Svmm

open TransitionRun

/-! ## The current count -/

/-- The nanoseconds since the initial count was written. -/
def ApicTimer.elapsed (clock : BitVec 64) (t : ApicTimer) : ℕ :=
  (clock - t.timerInitialLoadTime).toNat

/-- A read of the current count does not stop and changes nothing, and with the timer running it
returns the initial count less the ticks that have passed, down to zero. -/
def LocalApic.CountReadPure (a : LocalApic) : BitVec 64 × LocalApicOp → Prop
  | (clock, .read active address length) =>
      length = 4 → address &&& 0xf = 0 → apicRegister address = some .timerCurrentCount →
        ∃ value, apicMmioReadHandler clock active address length a = .ok (some value, a) ∧
          (active ≠ 0 → value.toNat = a.timer.timerInitialCountRegister.toNat -
            a.timer.elapsed clock / a.timer.timerDivideConfigurationRegister.toNat)
  | _ => True

/-- The timer is stopped, or the divider was written and the first tick has not passed.  Where
there is nothing left to count, the low half of the time is enough. -/
def LocalApic.FirstTick (a : LocalApic) : BitVec 64 × LocalApicOp → Prop
  | (clock, .read active address length) =>
      length = 4 → address &&& 0xf = 0 → apicRegister address = some .timerCurrentCount →
        active = 0 ∨ a.timer.timerDivideConfigurationRegister ≠ 0 ∧
          (a.timer.elapsed clock < a.timer.timerDivideConfigurationRegister.toNat ∨
            a.timer.timerInitialCountRegister = 0 ∧
              a.timer.elapsed clock % 2 ^ 32 < a.timer.timerDivideConfigurationRegister.toNat)
  | _ => True

/-- What a read of the current count returns, and the timer after it. -/
lemma apicMmioReadHandler_currentCount {clock : BitVec 64} {active : BitVec 8}
    {address : BitVec 32} {a : LocalApic} (haligned : address &&& 0xf = 0)
    (hregister : apicRegister address = some .timerCurrentCount) :
    apicMmioReadHandler clock active address 4 a =
      match apicReadCurrentCount clock active a.timer with
      | .ok t => .ok (some t.timerInitialCountRegister, a.setTimer t)
      | .error f => .error (.division f) := by
  have hcond : ¬ ((4 : BitVec 32) ≠ 4 ∨ address &&& 0xf ≠ 0) :=
    fun hor => hor.elim (fun h => h rfl) fun h => h haligned
  unfold apicMmioReadHandler
  rw [if_neg hcond, hregister]
  unfold apicReadRegister
  cases apicReadCurrentCount clock active a.timer <;> rfl

lemma sub_eq_self_iff_zero {x q : BitVec 32} : x - q = x ↔ q = 0 := by
  constructor
  · intro h
    bv_omega
  · rintro rfl
    exact BitVec.sub_zero x

/-- What a read takes off the initial count. -/
lemma counted_eq_zero_iff {clock : BitVec 64} {t : ApicTimer}
    (hdivider : t.timerDivideConfigurationRegister ≠ 0) :
    (clock - t.timerInitialLoadTime).setWidth 32 / t.timerDivideConfigurationRegister = 0 ↔
      t.elapsed clock % 2 ^ 32 < t.timerDivideConfigurationRegister.toNat := by
  have hpos : 0 < t.timerDivideConfigurationRegister.toNat :=
    Nat.pos_of_ne_zero fun h => hdivider (BitVec.eq_of_toNat_eq h)
  rw [← BitVec.toNat_inj, BitVec.toNat_udiv, BitVec.toNat_setWidth]
  exact (Nat.div_eq_zero_iff.trans (or_iff_right (Nat.ne_of_gt hpos)))

lemma apicReadCurrentCount_of_running {clock : BitVec 64} {active : BitVec 8} {t : ApicTimer}
    (hactive : active ≠ 0) (hdivider : t.timerDivideConfigurationRegister ≠ 0) :
    apicReadCurrentCount clock active t =
      .ok { t with
        timerInitialCountRegister := t.timerInitialCountRegister -
          (clock - t.timerInitialLoadTime).setWidth 32 / t.timerDivideConfigurationRegister } := by
  unfold apicReadCurrentCount
  rw [if_pos hactive, if_neg hdivider]

/-- The two conditions on one step. -/
lemma countReadPure_iff {a : LocalApic} {op : BitVec 64 × LocalApicOp} :
    a.CountReadPure op ↔ a.FirstTick op := by
  obtain ⟨clock, op⟩ := op
  cases op with
  | read active address length =>
      refine forall_congr' fun hlength => forall_congr' fun haligned => forall_congr' fun hreg => ?_
      rw [hlength, apicMmioReadHandler_currentCount haligned hreg]
      by_cases hactive : active = 0
      · refine iff_of_true ⟨a.timer.timerInitialCountRegister, ?_, fun h => absurd hactive h⟩
          (Or.inl hactive)
        unfold apicReadCurrentCount
        rw [if_neg (not_not_intro hactive)]
        rfl
      by_cases hdivider : a.timer.timerDivideConfigurationRegister = 0
      · refine iff_of_false ?_ fun h => (h.resolve_left hactive).1 hdivider
        rintro ⟨value, hvalue, -⟩
        unfold apicReadCurrentCount at hvalue
        rw [if_pos hactive, if_pos hdivider] at hvalue
        cases hvalue
      rw [apicReadCurrentCount_of_running hactive hdivider]
      have hcounted := @counted_eq_zero_iff clock a.timer hdivider
      have hpos : 0 < a.timer.timerDivideConfigurationRegister.toNat :=
        Nat.pos_of_ne_zero fun h => hdivider (BitVec.eq_of_toNat_eq h)
      have hinit : a.timer.timerInitialCountRegister = 0 ↔
          a.timer.timerInitialCountRegister.toNat = 0 :=
        ⟨fun h => by rw [h]; rfl, fun h => BitVec.eq_of_toNat_eq h⟩
      have hpassed := Nat.div_eq_zero_iff_lt (x := a.timer.elapsed clock) hpos
      have hlow := Nat.mod_le (a.timer.elapsed clock) (2 ^ 32)
      constructor
      · rintro ⟨value, hvalue, hcount⟩
        obtain ⟨hsome, hsame⟩ := Prod.mk.inj (Except.ok.inj hvalue)
        obtain rfl := Option.some.inj hsome
        have hkept := congrArg (fun a => a.timer.timerInitialCountRegister) hsame
        have hzero := sub_eq_self_iff_zero.mp hkept
        have hfirst := hcounted.mp hzero
        have hnat : a.timer.timerInitialCountRegister.toNat =
            a.timer.timerInitialCountRegister.toNat -
              a.timer.elapsed clock / a.timer.timerDivideConfigurationRegister.toNat :=
          (congrArg BitVec.toNat hkept).symm.trans (hcount hactive)
        generalize a.timer.elapsed clock / _ = passed at hnat hpassed
        refine Or.inr ⟨hdivider, ?_⟩
        rw [hinit, ← hpassed]
        omega
      · intro hcond
        obtain ⟨-, hfirst⟩ := hcond.resolve_left hactive
        have hkept : a.timer.timerInitialCountRegister -
            (clock - a.timer.timerInitialLoadTime).setWidth 32 /
              a.timer.timerDivideConfigurationRegister = a.timer.timerInitialCountRegister :=
          sub_eq_self_iff_zero.mpr (hcounted.mpr (by omega))
        rw [hkept]
        refine ⟨a.timer.timerInitialCountRegister, rfl, fun _ => ?_⟩
        rw [hinit, ← hpassed] at hfirst
        generalize a.timer.elapsed clock / _ = passed at hfirst ⊢
        omega
  | write active address value length => exact Iff.rfl
  | expire => exact Iff.rfl
  | deliver vector destination destinationMode deliveryMode triggerMode => exact Iff.rfl
  | acknowledge => exact Iff.rfl

/-- Along a run of the local APIC every read of the current count is pure exactly when every one
finds the timer stopped, or the divider written and its first tick not over. -/
theorem apic_count_read_iff (a : LocalApic) (ops : List (BitVec 64 × LocalApicOp)) :
    Meets localApicStep LocalApic.CountReadPure a ops ↔
      Meets localApicStep LocalApic.FirstTick a ops :=
  Meets.congr fun _ _ => countReadPure_iff

/-- The count is started before the divider is ever written, and read. -/
theorem apic_count_read_divides_by_zero :
    run localApicStep (LocalApic.initial (State.initial fun _ _ => true) 0)
        [(0, .write 0 ApicRegister.timerInitialCount.address 1000 4),
          (5, .read 1 ApicRegister.timerCurrentCount.address 4)] =
      .error (.division .divByZero) := by
  rfl

/-! ## The deadlines of the periodic mode -/

/-- The values of `TimerNextExpire` that `ApicTimerHandler` computes over a run of expiries; the
rest of the VMM may be in any state at each of them. -/
def apicDeadlines : ApicTimer → List State → Outcome (List (BitVec 64))
  | _, [] => .ok []
  | t, s :: rest => do
    let (_, t, calls) ← apicTimerHandler s t
    let deadlines ← apicDeadlines t rest
    return if calls.isEmpty then deadlines else t.timerNextExpire :: deadlines

/-- Each deadline is a period after the one before. -/
def Advances (period : ℕ) (deadlines : List (BitVec 64)) : Prop :=
  deadlines.IsChain fun a b => a < b ∧ b.toNat = a.toNat + period

instance (period : ℕ) (deadlines : List (BitVec 64)) : Decidable (Advances period deadlines) :=
  inferInstanceAs (Decidable (List.IsChain _ _))

/-- The timer after the divide configuration and then the initial count are written. -/
def apicProgrammed (clock : BitVec 64) (active : BitVec 8) (lvt configuration count : BitVec 32)
    (t : ApicTimer) : ApicTimer :=
  (apicWriteInitialCount clock active lvt count (apicWriteDivideConfiguration configuration t)).1

/-- The initial count times the divider. -/
def ApicTimer.countPeriod (t : ApicTimer) : ℕ :=
  t.timerInitialCountRegister.toNat * t.timerDivideConfigurationRegister.toNat

/-- The state's local vector table has the timer in periodic mode. -/
def State.timerPeriodic (s : State) : Prop :=
  Word.has (s.lapic.localVectorTable apicLvtTimer) lapicTimerPeriodic

instance (s : State) : Decidable s.timerPeriodic := inferInstanceAs (Decidable (_ = true))

/-- The first deadline after the load time, as the handler computes it. -/
def ApicTimer.handlerDeadline (t : ApicTimer) : BitVec 64 :=
  t.timerInitialLoadTime + t.period <<< t.shift

/-- No time has passed at the load time. -/
lemma apicGetNextTimerCount_load {lvt : BitVec 32} {t : ApicTimer}
    (hperiodic : Word.has lvt lapicTimerPeriodic) (hcount : t.timerInitialCountRegister ≠ 0) :
    apicGetNextTimerCount lvt t.timerInitialLoadTime t = t.handlerDeadline := by
  unfold apicGetNextTimerCount ApicTimer.handlerDeadline
  dsimp only
  rw [if_pos hperiodic, if_neg hcount, BitVec.sub_self, BitVec.zero_ushiftRight,
    BitVec.zero_udiv, BitVec.zero_add]
  exact congrArg (fun p : BitVec 64 => t.timerInitialLoadTime + p <<< t.shift)
    (BitVec.one_mul t.period)

/-- One expiry: the handler leaves the count as it is, and computes nothing or the deadline. -/
lemma apicTimerHandler_deadline {s r : State} {t u : ApicTimer} {calls : List TimerCall}
    (hperiodic : s.timerPeriodic) (hcount : t.timerInitialCountRegister ≠ 0)
    (h : apicTimerHandler s t = .ok (r, u, calls)) :
    u = t ∧ calls = [] ∨
      u = { t with timerNextExpire := t.handlerDeadline } ∧ calls ≠ [] := by
  unfold apicTimerHandler at h
  dsimp only at h
  split_ifs at h with hmasked
  · obtain ⟨-, hrest⟩ := Prod.mk.inj (Except.ok.inj h)
    obtain ⟨rfl, rfl⟩ := Prod.mk.inj hrest
    exact Or.inl ⟨rfl, rfl⟩
  · obtain ⟨⟨status, r'⟩, hdeliver, hrest⟩ := bind_eq_ok.mp h
    obtain ⟨-, hrest⟩ := Prod.mk.inj (Except.ok.inj hrest)
    obtain ⟨rfl, rfl⟩ := Prod.mk.inj hrest
    have htable : r'.lapic.localVectorTable = s.lapic.localVectorTable :=
      congrArg Prod.snd (lvt_apicBusDeliverInterrupt hdeliver)
    refine Or.inr ⟨?_, List.cons_ne_nil _ _⟩
    rw [htable, apicGetNextTimerCount_load hperiodic hcount]

/-- The deadlines of a run are one time. -/
lemma apicDeadlines_eq {t : ApicTimer} {states : List State} {deadlines : List (BitVec 64)}
    (hperiodic : ∀ s ∈ states, s.timerPeriodic) (hcount : t.timerInitialCountRegister ≠ 0)
    (h : apicDeadlines t states = .ok deadlines) : ∀ d ∈ deadlines, d = t.handlerDeadline := by
  induction states generalizing t deadlines with
  | nil =>
      cases h
      simp
  | cons s rest ih =>
      obtain ⟨⟨r, u, calls⟩, hstep, hrest⟩ := bind_eq_ok.mp h
      obtain ⟨later, hlater, hend⟩ := bind_eq_ok.mp hrest
      have hperiodic' : ∀ s ∈ rest, s.timerPeriodic :=
        fun s hs => hperiodic s (List.mem_cons_of_mem _ hs)
      rcases apicTimerHandler_deadline (hperiodic s (List.mem_cons_self ..)) hcount hstep with
        ⟨rfl, rfl⟩ | ⟨rfl, hcalls⟩
      · obtain rfl : later = deadlines := Except.ok.inj hend
        exact ih hperiodic' hcount hlater
      · have hlist : t.handlerDeadline :: later = deadlines := by
          rw [if_neg (by simpa using hcalls)] at hend
          exact Except.ok.inj hend
        rw [← hlist]
        intro d hd
        rcases List.mem_cons.mp hd with rfl | hd
        · rfl
        · have hsame := ih hperiodic' (by exact hcount) hlater d hd
          exact hsame

/-- A small factor keeps the product in the word. -/
lemma count_mul_mod {count k : ℕ} (hlt : count < 2 ^ 32) (hk : k ≤ 2 ^ 31) :
    (count + 1) * k % 2 ^ 64 = (count + 1) * k := by
  refine Nat.mod_eq_of_lt ?_
  calc (count + 1) * k ≤ 2 ^ 32 * 2 ^ 31 := Nat.mul_le_mul hlt hk
    _ < 2 ^ 64 := by decide

/-- The shift by 32 drops the highest count. -/
lemma shift_32_ne_twice {count : ℕ} (hpos : 0 < count) (hlt : count < 2 ^ 32) :
    (count + 1) * 2 ^ 32 % (2 ^ 32 * 2 ^ 32) ≠ 2 * (count * 32) := by
  rw [Nat.mul_mod_mul_right]
  rcases Nat.lt_or_ge (count + 1) (2 ^ 32) with hsmall | hlarge
  · rw [Nat.mod_eq_of_lt hsmall]
    omega
  · have hwhole : count + 1 = 2 ^ 32 := by omega
    rw [hwhole, Nat.mod_self]
    omega

/-- The handler shifts one more than the count by the divider, where the write multiplies the count
by it.  The one is never twice the other. -/
lemma shift_ne_twice {count divider : ℕ} (hpos : 0 < count) (hlt : count < 2 ^ 32)
    (hdivider : divider ∈ [1, 2, 4, 8, 16, 32, 64, 128]) :
    (count + 1) * 2 ^ (divider % 64) % 2 ^ 64 ≠ 2 * (count * divider) := by
  by_cases h32 : divider = 32
  · subst h32
    exact shift_32_ne_twice hpos hlt
  · simp only [List.mem_cons, List.not_mem_nil, or_false, h32, false_or] at hdivider
    rcases hdivider with rfl | rfl | rfl | rfl | rfl | rfl | rfl <;>
      rw [count_mul_mod hlt (by decide)] <;> simp only [Nat.reduceMod, Nat.reducePow] <;> omega

/-- What the dividers and a count of 32 bits multiply to. -/
lemma countPeriod_lt {t : ApicTimer}
    (hdivider : t.timerDivideConfigurationRegister.toNat ∈ [1, 2, 4, 8, 16, 32, 64, 128]) :
    t.countPeriod < 2 ^ 39 := by
  have hlt := t.timerInitialCountRegister.isLt
  have hle : t.timerDivideConfigurationRegister.toNat ≤ 128 := by
    simp only [List.mem_cons, List.not_mem_nil, or_false] at hdivider
    omega
  unfold ApicTimer.countPeriod
  calc t.timerInitialCountRegister.toNat * t.timerDivideConfigurationRegister.toNat
      ≤ t.timerInitialCountRegister.toNat * 128 := Nat.mul_le_mul_left _ hle
    _ < 2 ^ 39 := by omega

lemma toNat_countEnd {t : ApicTimer} (hsmall : t.countPeriod < 2 ^ 39) :
    t.countEnd.toNat = (t.timerInitialLoadTime.toNat + t.countPeriod) % 2 ^ 64 := by
  have hcount := t.timerInitialCountRegister.isLt
  have hdivider := t.timerDivideConfigurationRegister.isLt
  have hproduct : (t.timerInitialCountRegister.setWidth 64 *
      t.timerDivideConfigurationRegister.setWidth 64).toNat = t.countPeriod := by
    rw [BitVec.toNat_mul, BitVec.toNat_setWidth, BitVec.toNat_setWidth,
      Nat.mod_eq_of_lt (Nat.lt_trans hcount (by decide)),
      Nat.mod_eq_of_lt (Nat.lt_trans hdivider (by decide))]
    exact Nat.mod_eq_of_lt (Nat.lt_trans hsmall (by decide))
  unfold ApicTimer.countEnd
  rw [BitVec.toNat_add, hproduct]

lemma toNat_handlerDeadline {t : ApicTimer} :
    t.handlerDeadline.toNat = (t.timerInitialLoadTime.toNat +
      (t.timerInitialCountRegister.toNat + 1) *
        2 ^ (t.timerDivideConfigurationRegister.toNat % 64) % 2 ^ 64) % 2 ^ 64 := by
  have hperiod : t.period.toNat = t.timerInitialCountRegister.toNat + 1 := by
    have hcount := t.timerInitialCountRegister.isLt
    have hone : (1 : BitVec 64).toNat = 1 := rfl
    unfold ApicTimer.period
    rw [BitVec.toNat_add, BitVec.toNat_setWidth, hone]
    omega
  unfold ApicTimer.handlerDeadline ApicTimer.shift
  rw [BitVec.toNat_add, BitVec.toNat_shiftLeft, Nat.shiftLeft_eq, hperiod]

/-- The deadline of the handler is no period after the first one. -/
lemma handlerDeadline_ne {t : ApicTimer} (hcount : t.timerInitialCountRegister ≠ 0)
    (hdivider : t.timerDivideConfigurationRegister.toNat ∈ [1, 2, 4, 8, 16, 32, 64, 128]) :
    t.handlerDeadline.toNat ≠ t.countEnd.toNat + t.countPeriod := by
  have hpos : 0 < t.timerInitialCountRegister.toNat :=
    Nat.pos_of_ne_zero fun h => hcount (BitVec.eq_of_toNat_eq h)
  have hne := shift_ne_twice hpos t.timerInitialCountRegister.isLt hdivider
  have hsmall := countPeriod_lt hdivider
  rw [toNat_countEnd hsmall, toNat_handlerDeadline]
  change _ ≠ 2 * t.countPeriod at hne
  have hload := t.timerInitialLoadTime.isLt
  have hword : (t.timerInitialCountRegister.toNat + 1) *
      2 ^ (t.timerDivideConfigurationRegister.toNat % 64) % 2 ^ 64 < 2 ^ 64 :=
    Nat.mod_lt _ (Nat.two_pow_pos 64)
  generalize (t.timerInitialCountRegister.toNat + 1) *
    2 ^ (t.timerDivideConfigurationRegister.toNat % 64) % 2 ^ 64 = shifted at hne hword ⊢
  omega

lemma apicProgrammed_fields {clock : BitVec 64} {active : BitVec 8}
    {lvt configuration count : BitVec 32} {t : ApicTimer} (hcount : count ≠ 0) :
    (apicProgrammed clock active lvt configuration count t).timerInitialCountRegister = count ∧
      (apicProgrammed clock active lvt configuration count t).timerDivideConfigurationRegister =
        apicDivider configuration := by
  unfold apicProgrammed apicWriteInitialCount
  dsimp only
  rw [if_neg hcount]
  exact ⟨rfl, rfl⟩

/-- A run of equal times advances only where there is at most one. -/
lemma advances_of_eq {period : ℕ} {deadlines : List (BitVec 64)} {e : BitVec 64}
    (h : ∀ d ∈ deadlines, d = e) : Advances period deadlines ↔ deadlines.length ≤ 1 := by
  unfold Advances
  rcases deadlines with _ | ⟨d, _ | ⟨d', rest⟩⟩
  · simp
  · simp
  · refine iff_of_false (fun hchain => ?_) (by simp)
    have hlt := (List.isChain_cons_cons.mp hchain).1.1
    rw [h d (by simp), h d' (by simp), BitVec.lt_def] at hlt
    exact Nat.lt_irrefl _ hlt

/-- In a run of expiries in periodic mode the deadlines advance by the initial count times the
divider, from the first one that the write arms, only where no expiry computes one; and among those
that the expiries compute, only where there is at most one. -/
theorem apic_periodic_advances_iff {clock : BitVec 64} {active : BitVec 8}
    {lvt configuration count : BitVec 32} {t u : ApicTimer} {states : List State}
    {deadlines : List (BitVec 64)} (hcount : count ≠ 0)
    (hprogrammed : u = apicProgrammed clock active lvt configuration count t)
    (hperiodic : ∀ s ∈ states, s.timerPeriodic)
    (hrun : apicDeadlines u states = .ok deadlines) :
    (Advances u.countPeriod (u.countEnd :: deadlines) ↔ deadlines = []) ∧
      (Advances u.countPeriod deadlines ↔ deadlines.length ≤ 1) := by
  obtain ⟨hstored, hdivider⟩ := @apicProgrammed_fields clock active lvt configuration count t hcount
  rw [← hprogrammed] at hstored hdivider
  have hne : u.timerInitialCountRegister ≠ 0 := by
    rw [hstored]
    exact hcount
  have hmem : u.timerDivideConfigurationRegister.toNat ∈ [1, 2, 4, 8, 16, 32, 64, 128] := by
    rw [hdivider]
    have := apicDivider_mem configuration
    exact List.mem_map_of_mem (f := BitVec.toNat) this
  have hsame := apicDeadlines_eq hperiodic hne hrun
  refine ⟨?_, advances_of_eq hsame⟩
  unfold Advances
  rcases deadlines with _ | ⟨d, rest⟩
  · simp
  · refine iff_of_false (fun hchain => ?_) (List.cons_ne_nil _ _)
    have hnext := (List.isChain_cons_cons.mp hchain).1.2
    rw [hsame d (List.mem_cons_self ..)] at hnext
    exact handlerDeadline_ne hne hmem hnext

/-- A VMM whose timer entry is periodic, with the vector 0x30. -/
def periodicState : State :=
  (State.initial fun _ _ => true).setLapic
    { Lapic.initial with localVectorTable := fun _ => 0x20030 }

/-- A count of 1000 at divider 1 is armed for 1000, and both expiries compute 2002. -/
theorem apic_periodic_deadline_stays :
    let u := apicProgrammed 0 0 0x20030 0xb 1000 (ApicTimer.initial 0)
    apicDeadlines u [periodicState, periodicState] = .ok [2002, 2002] ∧
      u.countEnd = 1000 ∧ u.countPeriod = 1000 ∧
      ¬ Advances u.countPeriod (u.countEnd :: [2002, 2002]) ∧
      ¬ Advances u.countPeriod [2002, 2002] := by
  decide +kernel

/-- One expiry after that write is off already. -/
theorem apic_periodic_one_expiry : ¬ Advances 1000 [1000, 2002] := by
  have hone := (@apic_periodic_advances_iff 0 0 0x20030 0xb 1000 (ApicTimer.initial 0) _
    [periodicState] [2002] (by decide) rfl (by decide +kernel) (by decide +kernel)).1
  exact fun h => absurd (hone.mp h) (List.cons_ne_nil _ _)

end Svmm
