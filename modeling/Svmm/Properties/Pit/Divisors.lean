import Svmm.Construction.Pit
import Svmm.Framework.Run

/-!
# Whether the interval timer divides by zero

The counters start with a count of zero, and `PitLoadCount` keeps the low half of a wide value
even when that is zero.  Nothing stands between such a count and the divisions that modes 2 and 3
make.  Here every function that may divide is told apart by when it does, and what a step divides
by is put together from that.
-/

namespace Svmm

open TransitionRun

/-- Modes 2 and 3 divide by the count. -/
def PitCounter.Divides (c : PitCounter) : Prop := c.mode = 2 ∨ c.mode = 3

instance (c : PitCounter) : Decidable c.Divides := inferInstanceAs (Decidable (_ ∨ _))

/-- Whatever divides by the count finds it non-zero. -/
def PitCounter.CountOk (c : PitCounter) : Prop := c.Divides → c.count ≠ 0

instance (c : PitCounter) : Decidable c.CountOk := inferInstanceAs (Decidable (_ → _))

/-! ## The functions that divide -/

lemma divide_ok_iff {a b : BitVec 64} : (∃ q, divide a b = .ok q) ↔ b ≠ 0 := by
  unfold divide
  split_ifs with hb
  · exact iff_of_false (fun ⟨_, h⟩ => by cases h) (not_not_intro hb)
  · exact iff_of_true ⟨_, rfl⟩ hb

lemma remainder_ok_iff {a b : BitVec 64} : (∃ r, remainder a b = .ok r) ↔ b ≠ 0 := by
  unfold remainder
  split_ifs with hb
  · exact iff_of_false (fun ⟨_, h⟩ => by cases h) (not_not_intro hb)
  · exact iff_of_true ⟨_, rfl⟩ hb

lemma setWidth_count_ne_zero {x : BitVec 32} : x.setWidth 64 ≠ (0 : BitVec 64) ↔ x ≠ 0 := by
  rw [ne_eq, ne_eq, not_iff_not, ← BitVec.toNat_inj, ← BitVec.toNat_inj, BitVec.toNat_setWidth]
  have := x.isLt
  have h0 : (0 : BitVec 64).toNat = 0 := rfl
  have h0' : (0 : BitVec 32).toNat = 0 := rfl
  omega

lemma PitCounter.countOk_iff_of_divides {c : PitCounter} (h : c.Divides) :
    c.CountOk ↔ c.count.setWidth 64 ≠ (0 : BitVec 64) :=
  ⟨fun hok => setWidth_count_ne_zero.mpr (hok h), fun hne _ => setWidth_count_ne_zero.mp hne⟩

lemma PitCounter.countOk_of_not_divides {c : PitCounter} (h : ¬ c.Divides) : c.CountOk :=
  fun hd => absurd hd h

lemma PitCounter.nextTick_ok_iff {c : PitCounter} {result : BitVec 64} :
    (∃ n, c.nextTick result = .ok n) ↔ c.CountOk := by
  unfold PitCounter.nextTick
  dsimp only
  by_cases h2 : c.mode = 2
  · rw [if_pos h2, exists_bind_eq_ok, countOk_iff_of_divides (Or.inl h2),
      ← divide_ok_iff (a := result)]
    exact exists_congr fun q => and_iff_left ⟨_, rfl⟩
  rw [if_neg h2]
  by_cases h3 : c.mode = 3
  · rw [if_pos h3, exists_bind_eq_ok, countOk_iff_of_divides (Or.inr h3),
      ← divide_ok_iff (a := result)]
    refine exists_congr fun q => and_iff_left ?_
    split_ifs
    · exact ⟨_, rfl⟩
    · exact ⟨_, rfl⟩
  rw [if_neg h3]
  refine iff_of_true ?_ (countOk_of_not_divides fun h => h.elim h2 h3)
  split_ifs
  · exact ⟨_, rfl⟩
  · exact ⟨_, rfl⟩

lemma pitGetNextTransitionTime_ok_iff {c : PitCounter} {time : BitVec 64} :
    (∃ n, pitGetNextTransitionTime c time = .ok n) ↔ c.CountOk := by
  unfold pitGetNextTransitionTime
  rw [exists_bind_eq_ok, ← @PitCounter.nextTick_ok_iff c (c.ticks time)]
  refine exists_congr fun n => and_iff_left ?_
  cases n with
  | none => exact ⟨_, rfl⟩
  | some n => exact ⟨_, rfl⟩

lemma pitGetOut_ok_iff {c : PitCounter} {time : BitVec 64} :
    (∃ out, pitGetOut c time = .ok out) ↔ c.CountOk := by
  unfold pitGetOut
  dsimp only
  by_cases h2 : c.mode = 2
  · have h1 : c.mode ≠ 1 := by rw [h2]; decide
    rw [if_neg h1, if_pos h2, exists_bind_eq_ok, PitCounter.countOk_iff_of_divides (Or.inl h2)]
    refine Iff.trans (exists_congr fun q => and_iff_left ⟨_, rfl⟩) remainder_ok_iff
  by_cases h3 : c.mode = 3
  · have h1 : c.mode ≠ 1 := by rw [h3]; decide
    rw [if_neg h1, if_neg h2, if_pos h3, exists_bind_eq_ok,
      PitCounter.countOk_iff_of_divides (Or.inr h3), ← remainder_ok_iff (a := c.ticks time)]
    exact exists_congr fun q => and_iff_left ⟨_, rfl⟩
  refine iff_of_true ?_ (PitCounter.countOk_of_not_divides fun h => h.elim h2 h3)
  rw [if_neg h2, if_neg h3]
  split_ifs
  · exact ⟨_, rfl⟩
  · exact ⟨_, rfl⟩
  · exact ⟨_, rfl⟩

/-- `PitGetCount` divides in every mode above 5 as well, which no control word selects. -/
lemma pitGetCount_ok_iff {clock : BitVec 64} {c : PitCounter} (hmode : c.mode ≤ 5) :
    (∃ n, pitGetCount clock c = .ok n) ↔ c.CountOk := by
  unfold pitGetCount
  dsimp only
  by_cases h3 : c.mode = 3
  · have hother : ¬ (c.mode = 0 ∨ c.mode = 1 ∨ c.mode = 4 ∨ c.mode = 5) := by rw [h3]; decide
    rw [if_neg hother, if_pos h3, exists_bind_eq_ok,
      PitCounter.countOk_iff_of_divides (Or.inr h3), ← remainder_ok_iff (a := 2 * c.ticks clock)]
    exact exists_congr fun q => and_iff_left ⟨_, rfl⟩
  by_cases hother : c.mode = 0 ∨ c.mode = 1 ∨ c.mode = 4 ∨ c.mode = 5
  · have h2 : c.mode ≠ 2 := by
      rintro h
      rw [h] at hother
      revert hother
      decide
    rw [if_pos hother]
    exact iff_of_true ⟨_, rfl⟩ (PitCounter.countOk_of_not_divides fun h => h.elim h2 h3)
  · have h2 : c.mode = 2 := by
      obtain ⟨h0, h1, h4, h5⟩ : c.mode ≠ 0 ∧ c.mode ≠ 1 ∧ c.mode ≠ 4 ∧ c.mode ≠ 5 := by
        simpa only [not_or] using hother
      clear hother
      generalize c.mode = m at *
      revert m
      decide
    rw [if_neg hother, if_neg h3, exists_bind_eq_ok,
      PitCounter.countOk_iff_of_divides (Or.inl h2), ← remainder_ok_iff (a := c.ticks clock)]
    exact exists_congr fun q => and_iff_left ⟨_, rfl⟩

lemma pitIrqTimerUpdate_ok_iff {channel : Fin 3} {time : BitVec 64} {timer : Bool} {p : Pit} :
    (∃ r, pitIrqTimerUpdate channel time timer p = .ok r) ↔ (p.counter channel).CountOk := by
  unfold pitIrqTimerUpdate
  dsimp only
  simp only [exists_bind_eq_ok]
  constructor
  · rintro ⟨n, hn, -⟩
    exact pitGetNextTransitionTime_ok_iff.mp ⟨n, hn⟩
  · intro hok
    obtain ⟨n, hn⟩ := pitGetNextTransitionTime_ok_iff.mpr hok
    obtain ⟨out, hout⟩ := pitGetOut_ok_iff.mpr hok
    exact ⟨n, hn, out, hout, _, rfl⟩

/-! ## The operations -/

/-- The value that `PitLoadCount` takes does not become a zero count in a mode that divides. -/
def PitCounter.LoadOk (value : BitVec 32) (c : PitCounter) : Prop :=
  c.Divides → value = 0 ∨ value &&& 0xffff ≠ 0

/-- A write to the counter's data port loads no such value.  The two bytes of a word are each cut
to eight bits. -/
def PitCounter.WriteOk (value : BitVec 32) (c : PitCounter) : Prop :=
  if c.writeState = rwStateMsb then c.LoadOk (value <<< 8)
  else c.writeState = rwStateWord0 ∨ c.writeState = rwStateWord1 ∨ c.LoadOk value

/-- What is not latched yet can be latched. -/
def PitCounter.ReadBackOk (value : BitVec 32) (c : PitCounter) : Prop :=
  (value &&& 0x20 = 0 → c.countLatched = 0 → c.CountOk) ∧
    (value &&& 0x10 = 0 → c.statusLatched = 0 → c.CountOk)

/-- The counter that a control word selects. -/
def pitControlChannel (value : BitVec 32) : Fin 3 :=
  if (value >>> 6) &&& 3 = 0 then 0 else if (value >>> 6) &&& 3 = 1 then 1 else 2

/-- The counters that a control word latches can be latched. -/
def Pit.ControlOk (value : BitVec 32) (p : Pit) : Prop :=
  if (value >>> 6) &&& 3 = 3 then
    ∀ channel : Fin 3, value &&& (2 <<< channel.val) ≠ 0 → (p.counter channel).ReadBackOk value
  else
    (value >>> 4) &&& 3 = 0 → (p.counter (pitControlChannel value)).countLatched = 0 →
      (p.counter (pitControlChannel value)).CountOk

/-- The gate of counter 2 does not rise on a count of zero. -/
def PitCounter.GateOk (value : BitVec 32) (c : PitCounter) : Prop :=
  c.gate.setWidth 32 < value &&& 1 → c.CountOk

/-- What a write to a port divides by is not zero. -/
def Pit.WriteOk (address value : BitVec 32) (p : Pit) : Prop :=
  if address = 0x40 ∨ address = 0x41 ∨ address = 0x42 then
    (p.counter (pitPortChannel address)).WriteOk value
  else if address = 0x43 then p.ControlOk value
  else address = 0x61 → (p.counter 2).GateOk value

/-- What a read of a port divides by is not zero. -/
def Pit.ReadOk (address : BitVec 32) (p : Pit) : Prop :=
  if address = 0x61 then (p.counter 2).CountOk
  else
    (p.counter (pitPortChannel address)).statusLatched = 0 →
      (p.counter (pitPortChannel address)).countLatched = 0 →
        (p.counter (pitPortChannel address)).CountOk

/-- What the operation divides by is not zero. -/
def Pit.DivisorsOk (p : Pit) : BitVec 64 × PitOp → Prop
  | (_, .write address value) => p.WriteOk address value
  | (_, .read address) => p.ReadOk address
  | (_, .tick) => (p.counter 0).CountOk

@[simp] lemma Pit.counter_setCounter {channel : Fin 3} {c : PitCounter} {p : Pit} :
    (p.setCounter channel c).counter channel = c := Function.update_self ..

lemma Pit.counter_setCounter_of_ne {channel i : Fin 3} {c : PitCounter} {p : Pit}
    (h : i ≠ channel) : (p.setCounter channel c).counter i = p.counter i :=
  Function.update_of_ne h ..

lemma pitLoadCount_ok_iff {clock : BitVec 64} {channel : Fin 3} {value : BitVec 32} {p : Pit} :
    (∃ r, pitLoadCount clock channel value p = .ok r) ↔ (p.counter channel).LoadOk value := by
  unfold pitLoadCount
  dsimp only
  rw [pitIrqTimerUpdate_ok_iff, Pit.counter_setCounter]
  refine imp_congr_right fun _ => ?_
  dsimp only
  split_ifs with hzero
  · exact iff_of_true (by decide) (Or.inl hzero)
  · exact ⟨Or.inr, fun h => h.resolve_left hzero⟩

/-- A word put together from two bytes is zero or keeps its low half. -/
lemma low_half_word {low : BitVec 16} {value : BitVec 32} :
    low.setWidth 32 ||| (value &&& 0xff) <<< 8 = 0 ∨
      (low.setWidth 32 ||| (value &&& 0xff) <<< 8) &&& 0xffff ≠ 0 := by
  generalize hw : low.setWidth 32 ||| (value &&& 0xff) <<< 8 = w
  have hlt : w.toNat < 2 ^ 16 := by
    rw [← hw, BitVec.toNat_or, BitVec.toNat_setWidth, BitVec.toNat_shiftLeft, BitVec.toNat_and]
    refine Nat.or_lt_two_pow (Nat.lt_of_le_of_lt (Nat.mod_le _ _) low.isLt) ?_
    have hbyte : value.toNat &&& (0xff : BitVec 32).toNat ≤ 0xff := Nat.and_le_right
    rw [Nat.shiftLeft_eq]
    omega
  have hmask : (0xffff : BitVec 32).toNat = 2 ^ 16 - 1 := rfl
  rw [Word.and_mask_of_lt hmask hlt]
  exact em _

lemma pitWriteCount_ok_iff {clock : BitVec 64} {channel : Fin 3} {value : BitVec 32} {p : Pit} :
    (∃ r, pitWriteCount clock channel value p = .ok r) ↔ (p.counter channel).WriteOk value := by
  unfold pitWriteCount PitCounter.WriteOk
  dsimp only
  split_ifs with hmsb hword hword1
  · exact pitLoadCount_ok_iff
  · exact iff_of_true ⟨_, rfl⟩ (Or.inl hword)
  · rw [exists_bind_eq_ok]
    refine iff_of_true ?_ (Or.inr (Or.inl hword1))
    obtain ⟨r, hr⟩ := (@pitLoadCount_ok_iff clock channel _ p).mpr fun _ =>
      @low_half_word (p.counter channel).inlatch value
    exact ⟨r, hr, _, rfl⟩
  · rw [pitLoadCount_ok_iff]
    exact ⟨fun h => Or.inr (Or.inr h), fun h => (h.resolve_left hword).resolve_left hword1⟩

/-! ## The modes -/

/-- Every counter is in a mode that a control word selects. -/
def Pit.ModesOk (p : Pit) : Prop := ∀ i, (p.counter i).mode ≤ 5

lemma Pit.ModesOk.setCounter {p : Pit} (h : p.ModesOk) {channel : Fin 3} {c : PitCounter}
    (hmode : c.mode ≤ 5) : (p.setCounter channel c).ModesOk := by
  intro i
  rcases eq_or_ne i channel with rfl | hne
  · rw [Pit.counter_setCounter]
    exact hmode
  · rw [Pit.counter_setCounter_of_ne hne]
    exact h i

lemma pitIrqTimerUpdate_eq_ok {channel : Fin 3} {time : BitVec 64} {timer : Bool} {p q : Pit}
    {calls : List DeviceCall} (h : pitIrqTimerUpdate channel time timer p = .ok (q, calls)) :
    ∃ n, q = p.setCounter channel { p.counter channel with nextTransitionTime := n } := by
  obtain ⟨n, -, hrest⟩ := bind_eq_ok.mp h
  obtain ⟨out, -, hrest⟩ := bind_eq_ok.mp hrest
  exact ⟨n, (Prod.mk.inj (Except.ok.inj hrest)).1.symm⟩

lemma modesOk_of_pitIrqTimerUpdate {channel : Fin 3} {time : BitVec 64} {timer : Bool} {p q : Pit}
    {calls : List DeviceCall} (hp : p.ModesOk)
    (h : pitIrqTimerUpdate channel time timer p = .ok (q, calls)) : q.ModesOk := by
  obtain ⟨n, rfl⟩ := pitIrqTimerUpdate_eq_ok h
  exact hp.setCounter (hp channel)

lemma modesOk_of_pitLoadCount {clock : BitVec 64} {channel : Fin 3} {value : BitVec 32} {p q : Pit}
    {calls : List DeviceCall} (hp : p.ModesOk)
    (h : pitLoadCount clock channel value p = .ok (q, calls)) : q.ModesOk := by
  unfold pitLoadCount at h
  exact modesOk_of_pitIrqTimerUpdate (by exact hp.setCounter (hp channel)) h

lemma modesOk_of_pitWriteCount {clock : BitVec 64} {channel : Fin 3} {value : BitVec 32}
    {p q : Pit} {calls : List DeviceCall} (hp : p.ModesOk)
    (h : pitWriteCount clock channel value p = .ok (q, calls)) : q.ModesOk := by
  unfold pitWriteCount at h
  dsimp only at h
  split_ifs at h with hmsb hword hword1
  · exact modesOk_of_pitLoadCount hp h
  · obtain ⟨rfl, -⟩ := Prod.mk.inj (Except.ok.inj h)
    exact hp.setCounter (hp channel)
  · obtain ⟨⟨r, calls'⟩, hr, hrest⟩ := bind_eq_ok.mp h
    obtain ⟨rfl, -⟩ := Prod.mk.inj (Except.ok.inj hrest)
    have hmodes := modesOk_of_pitLoadCount hp hr
    exact hmodes.setCounter (hmodes channel)
  · exact modesOk_of_pitLoadCount hp h

lemma pitLatchCount_eq_ok {clock : BitVec 64} {c d : PitCounter}
    (h : pitLatchCount clock c = .ok d) :
    d.statusLatched = c.statusLatched ∧ d.count = c.count ∧ d.mode = c.mode := by
  unfold pitLatchCount at h
  split_ifs at h
  · obtain ⟨n, -, hrest⟩ := bind_eq_ok.mp h
    cases hrest
    exact ⟨rfl, rfl, rfl⟩
  · cases h
    exact ⟨rfl, rfl, rfl⟩

lemma mode_pitLatchStatus {c d : PitCounter} (h : pitLatchStatus c = .ok d) : d.mode = c.mode := by
  unfold pitLatchStatus at h
  split_ifs at h
  · obtain ⟨out, -, hrest⟩ := bind_eq_ok.mp h
    cases hrest
    rfl
  · cases h
    rfl

lemma mode_le_pitControlOne {clock : BitVec 64} {value : BitVec 32} {c d : PitCounter}
    (hmode : c.mode ≤ 5) (h : pitControlOne clock value c = .ok d) : d.mode ≤ 5 := by
  have hthree : ((value >>> 1) &&& 7).toNat ≤ 7 := by
    rw [BitVec.toNat_and]
    exact Nat.and_le_right
  unfold pitControlOne at h
  dsimp only at h
  split_ifs at h with hlatch hhigh
  · rw [(pitLatchCount_eq_ok h).2.2]
    exact hmode
  · cases h
    dsimp only
    bv_omega
  · cases h
    dsimp only
    bv_omega

/-! ## The read-back command -/

/-- What the read-back command does to a counter that it selects. -/
def pitReadBackCounter (clock : BitVec 64) (value : BitVec 32) (c : PitCounter) :
    PitOutcome PitCounter :=
  (if value &&& 0x20 = 0 then pitLatchCount clock c else .ok c) >>= fun c =>
    if value &&& 0x10 = 0 ∧ c.statusLatched = 0 then pitLatchStatus c else .ok c

lemma pitReadBackOne_eq {clock : BitVec 64} {value : BitVec 32} {p : Pit} {channel : Fin 3} :
    pitReadBackOne clock value p channel =
      if value &&& (2 <<< channel.val) = 0 then .ok p
      else
        pitReadBackCounter clock value (p.counter channel) >>= fun c =>
          .ok (p.setCounter channel c) := by
  unfold pitReadBackOne pitReadBackCounter
  dsimp only
  refine ite_congr rfl (fun _ => rfl) fun _ => ?_
  split_ifs with hcount
  · cases pitLatchCount clock (p.counter channel) with
    | error e => rfl
    | ok c =>
        simp only [ok_bind]
        split_ifs <;> rfl
  · simp only [ok_bind]
    split_ifs <;> rfl

lemma pitLatchCount_ok_iff {clock : BitVec 64} {c : PitCounter} (hmode : c.mode ≤ 5) :
    (∃ d, pitLatchCount clock c = .ok d) ↔ (c.countLatched = 0 → c.CountOk) := by
  unfold pitLatchCount
  split_ifs with hlatched
  · rw [exists_bind_eq_ok, ← @pitGetCount_ok_iff clock c hmode]
    exact ⟨fun ⟨n, hn, _⟩ _ => ⟨n, hn⟩, fun h => (h hlatched).imp fun n hn => ⟨hn, _, rfl⟩⟩
  · exact iff_of_true ⟨_, rfl⟩ fun h => absurd h hlatched

lemma pitLatchStatus_ok_iff {c : PitCounter} :
    (∃ d, pitLatchStatus c = .ok d) ↔ (c.statusLatched = 0 → c.CountOk) := by
  unfold pitLatchStatus
  split_ifs with hlatched
  · rw [exists_bind_eq_ok, ← @pitGetOut_ok_iff c c.countLoadTime]
    exact ⟨fun ⟨n, hn, _⟩ _ => ⟨n, hn⟩, fun h => (h hlatched).imp fun n hn => ⟨hn, _, rfl⟩⟩
  · exact iff_of_true ⟨_, rfl⟩ fun h => absurd h hlatched

/-- The count is latched before the status, and neither is seen by the other. -/
lemma pitReadBackCounter_ok_iff {clock : BitVec 64} {value : BitVec 32} {c : PitCounter}
    (hmode : c.mode ≤ 5) :
    (∃ d, pitReadBackCounter clock value c = .ok d) ↔ c.ReadBackOk value := by
  have hstatus : ∀ d : PitCounter, d.statusLatched = c.statusLatched → d.count = c.count →
      d.mode = c.mode →
      ((∃ e, (if value &&& 0x10 = 0 ∧ d.statusLatched = 0 then pitLatchStatus d else .ok d) =
          Except.ok (ε := DivisionFault) e) ↔
        (value &&& 0x10 = 0 → c.statusLatched = 0 → c.CountOk)) := by
    intro d hlatched hcount hmode
    have hok : d.CountOk ↔ c.CountOk := by
      unfold PitCounter.CountOk PitCounter.Divides
      rw [hcount, hmode]
    by_cases hboth : value &&& 0x10 = 0 ∧ d.statusLatched = 0
    · rw [if_pos hboth, pitLatchStatus_ok_iff, hok, hlatched]
      exact ⟨fun h _ => h, fun h => h hboth.1⟩
    · rw [if_neg hboth]
      refine iff_of_true ⟨_, rfl⟩ fun hvalue hc => absurd ⟨hvalue, hlatched.trans hc⟩ hboth
  unfold pitReadBackCounter PitCounter.ReadBackOk
  rw [exists_bind_eq_ok]
  by_cases hvalue : value &&& 0x20 = 0
  · rw [if_pos hvalue]
    constructor
    · rintro ⟨d, hd, hrest⟩
      obtain ⟨hlatched, hcount, hmode'⟩ := pitLatchCount_eq_ok hd
      exact ⟨fun _ => (pitLatchCount_ok_iff hmode).mp ⟨d, hd⟩,
        (hstatus d hlatched hcount hmode').mp hrest⟩
    · rintro ⟨hlatch, hrest⟩
      obtain ⟨d, hd⟩ := (pitLatchCount_ok_iff hmode).mpr (hlatch hvalue)
      obtain ⟨hlatched, hcount, hmode'⟩ := pitLatchCount_eq_ok hd
      exact ⟨d, hd, (hstatus d hlatched hcount hmode').mpr hrest⟩
  · rw [if_neg hvalue]
    constructor
    · rintro ⟨d, hd, hrest⟩
      obtain rfl : c = d := Except.ok.inj hd
      exact ⟨fun h => absurd h hvalue, (hstatus c rfl rfl rfl).mp hrest⟩
    · rintro ⟨-, hrest⟩
      exact ⟨c, rfl, (hstatus c rfl rfl rfl).mpr hrest⟩

lemma mode_pitReadBackCounter {clock : BitVec 64} {value : BitVec 32} {c d : PitCounter}
    (h : pitReadBackCounter clock value c = .ok d) : d.mode = c.mode := by
  obtain ⟨e, he, hrest⟩ := bind_eq_ok.mp h
  have hfirst : e.mode = c.mode := by
    split_ifs at he
    · exact (pitLatchCount_eq_ok he).2.2
    · cases he
      rfl
  rw [← hfirst]
  split_ifs at hrest
  · exact mode_pitLatchStatus hrest
  · cases hrest
    rfl

lemma pitReadBackOne_eq_ok {clock : BitVec 64} {value : BitVec 32} {p q : Pit} {channel : Fin 3}
    (h : pitReadBackOne clock value p channel = .ok q) :
    q = p ∨ ∃ c, c.mode = (p.counter channel).mode ∧ q = p.setCounter channel c := by
  rw [pitReadBackOne_eq] at h
  split_ifs at h
  · exact Or.inl (Except.ok.inj h).symm
  · obtain ⟨c, hc, hrest⟩ := bind_eq_ok.mp h
    exact Or.inr ⟨c, mode_pitReadBackCounter hc, (Except.ok.inj hrest).symm⟩

lemma pitReadBackOne_ok_iff {clock : BitVec 64} {value : BitVec 32} {p : Pit} {channel : Fin 3}
    (hp : p.ModesOk) :
    (∃ q, pitReadBackOne clock value p channel = .ok q) ↔
      (value &&& (2 <<< channel.val) ≠ 0 → (p.counter channel).ReadBackOk value) := by
  rw [pitReadBackOne_eq]
  split_ifs with hselected
  · exact iff_of_true ⟨_, rfl⟩ fun h => absurd hselected h
  · rw [exists_bind_eq_ok, ← @pitReadBackCounter_ok_iff clock value _ (hp channel)]
    exact ⟨fun ⟨c, hc, _⟩ _ => ⟨c, hc⟩, fun h => (h hselected).imp fun c hc => ⟨hc, _, rfl⟩⟩

lemma modesOk_of_pitReadBackOne {clock : BitVec 64} {value : BitVec 32} {p q : Pit}
    {channel : Fin 3} (hp : p.ModesOk) (h : pitReadBackOne clock value p channel = .ok q) :
    q.ModesOk := by
  rcases pitReadBackOne_eq_ok h with rfl | ⟨c, hmode, rfl⟩
  · exact hp
  · refine hp.setCounter ?_
    rw [hmode]
    exact hp channel

/-- The read-back command goes through exactly when it can latch in each counter it selects. -/
lemma pitReadBack_ok_iff {clock : BitVec 64} {value : BitVec 32} {p : Pit} (hp : p.ModesOk) :
    (∃ q, [0, 1, 2].foldlM (pitReadBackOne clock value) p = .ok q) ↔
      ∀ channel : Fin 3, value &&& (2 <<< channel.val) ≠ 0 →
        (p.counter channel).ReadBackOk value := by
  rw [exists_foldlM_eq_ok (I := Pit.ModesOk)
    (R := fun p channel => value &&& (2 <<< channel.val) ≠ 0 →
      (p.counter channel).ReadBackOk value)
    (fun _ _ _ hp h => modesOk_of_pitReadBackOne hp h) (fun _ _ hp => pitReadBackOne_ok_iff hp)
    ?_ (by decide) hp]
  · exact ⟨fun h channel => h channel (by revert channel; decide), fun h channel _ => h channel⟩
  · intro p channel q i h hne
    rcases pitReadBackOne_eq_ok h with rfl | ⟨c, -, rfl⟩
    · exact Iff.rfl
    · rw [Pit.counter_setCounter_of_ne hne]

/-! ## The ports -/

lemma pitControlOne_ok_iff {clock : BitVec 64} {value : BitVec 32} {c : PitCounter}
    (hmode : c.mode ≤ 5) :
    (∃ d, pitControlOne clock value c = .ok d) ↔
      ((value >>> 4) &&& 3 = 0 → c.countLatched = 0 → c.CountOk) := by
  have haccess : ((value >>> 4) &&& 3).setWidth 8 = (0 : BitVec 8) ↔ (value >>> 4) &&& 3 = 0 := by
    have hle : ((value >>> 4) &&& 3).toNat ≤ 3 := by
      rw [BitVec.toNat_and]
      exact Nat.and_le_right
    constructor
    · intro h
      bv_omega
    · intro h
      rw [h]
      rfl
  unfold pitControlOne
  dsimp only
  by_cases hlatch : (value >>> 4) &&& 3 = 0
  · rw [if_pos (haccess.mpr hlatch), pitLatchCount_ok_iff hmode]
    exact ⟨fun h _ => h, fun h => h hlatch⟩
  · rw [if_neg (fun h => hlatch (haccess.mp h))]
    exact iff_of_true ⟨_, rfl⟩ fun h => absurd h hlatch

lemma pitWriteControl_ok_iff {clock : BitVec 64} {value : BitVec 32} {p : Pit} (hp : p.ModesOk) :
    (∃ r, pitWriteControl clock value p = .ok r) ↔ p.ControlOk value := by
  unfold pitWriteControl Pit.ControlOk
  dsimp only
  by_cases hall : (value >>> 6) &&& 3 = 3
  · rw [if_pos hall, if_pos hall, exists_bind_eq_ok, ← @pitReadBack_ok_iff clock value p hp]
    exact exists_congr fun q => and_iff_left ⟨_, rfl⟩
  · rw [if_neg hall, if_neg hall, exists_bind_eq_ok,
      ← @pitControlOne_ok_iff clock value _ (hp (pitControlChannel value))]
    exact exists_congr fun c => and_iff_left ⟨_, rfl⟩

lemma modesOk_of_pitReadBack {clock : BitVec 64} {value : BitVec 32} {channels : List (Fin 3)}
    {p q : Pit} (hp : p.ModesOk)
    (h : channels.foldlM (pitReadBackOne clock value) p = .ok q) : q.ModesOk := by
  induction channels generalizing p with
  | nil =>
      cases h
      exact hp
  | cons channel rest ih =>
      rw [List.foldlM_cons] at h
      obtain ⟨r, hr, hrest⟩ := bind_eq_ok.mp h
      exact ih (modesOk_of_pitReadBackOne hp hr) hrest

lemma modesOk_of_pitWriteControl {clock : BitVec 64} {value : BitVec 32} {p q : Pit}
    {calls : List DeviceCall} (hp : p.ModesOk)
    (h : pitWriteControl clock value p = .ok (q, calls)) : q.ModesOk := by
  unfold pitWriteControl at h
  dsimp only at h
  split_ifs at h
  · obtain ⟨r, hr, hrest⟩ := bind_eq_ok.mp h
    obtain ⟨rfl, -⟩ := Prod.mk.inj (Except.ok.inj hrest)
    exact modesOk_of_pitReadBack hp hr
  all_goals
    obtain ⟨c, hc, hrest⟩ := bind_eq_ok.mp h
    obtain ⟨rfl, -⟩ := Prod.mk.inj (Except.ok.inj hrest)
    exact hp.setCounter (mode_le_pitControlOne (hp _) hc)

/-- Mode 2 or 3 is what makes a rising gate divide; a rising gate in mode 1 or 5 divides by
nothing. -/
lemma pitSetGate_ok_iff {clock : BitVec 64} {channel : Fin 3} {value : BitVec 32} {p : Pit} :
    (∃ r, pitSetGate clock channel value p = .ok r) ↔
      ((p.counter channel).gate.setWidth 32 < value → (p.counter channel).CountOk) := by
  unfold pitSetGate
  dsimp only
  by_cases hrise : ((p.counter channel).mode = 1 ∨ (p.counter channel).mode = 5 ∨
      (p.counter channel).mode = 2 ∨ (p.counter channel).mode = 3) ∧
        (p.counter channel).gate.setWidth 32 < value
  · have hok := @pitIrqTimerUpdate_ok_iff channel clock false
      (p.setCounter channel { p.counter channel with countLoadTime := clock })
    rw [Pit.counter_setCounter] at hok
    rw [if_pos hrise, exists_bind_eq_ok]
    exact ⟨fun ⟨r, hr, _⟩ _ => hok.mp ⟨r, hr⟩,
      fun h => (hok.mpr (h hrise.2)).imp fun r hr => ⟨hr, _, rfl⟩⟩
  · rw [if_neg hrise]
    refine iff_of_true ⟨_, rfl⟩ fun hlt hdivides => absurd ⟨?_, hlt⟩ hrise
    exact Or.inr (Or.inr hdivides)

lemma modesOk_of_pitSetGate {clock : BitVec 64} {channel : Fin 3} {value : BitVec 32} {p q : Pit}
    {calls : List DeviceCall} (hp : p.ModesOk)
    (h : pitSetGate clock channel value p = .ok (q, calls)) : q.ModesOk := by
  unfold pitSetGate at h
  dsimp only at h
  split_ifs at h
  · obtain ⟨⟨r, calls'⟩, hr, hrest⟩ := bind_eq_ok.mp h
    obtain ⟨rfl, -⟩ := Prod.mk.inj (Except.ok.inj hrest)
    have hmodes := modesOk_of_pitIrqTimerUpdate (by exact hp.setCounter (hp channel)) hr
    exact hmodes.setCounter (hmodes 2)
  · obtain ⟨rfl, -⟩ := Prod.mk.inj (Except.ok.inj h)
    exact hp.setCounter (hp 2)

lemma pitWriteHandler_ok_iff {clock : BitVec 64} {address value : BitVec 32} {p : Pit}
    (hp : p.ModesOk) :
    (∃ r, pitWriteHandler clock address value p = .ok r) ↔ p.WriteOk address value := by
  unfold pitWriteHandler Pit.WriteOk
  split_ifs with hdata hcontrol hgate
  · exact pitWriteCount_ok_iff
  · exact pitWriteControl_ok_iff hp
  · rw [pitSetGate_ok_iff]
    exact ⟨fun h _ => by exact h, fun h => by exact h hgate⟩
  · exact iff_of_true ⟨_, rfl⟩ fun h => absurd h hgate

lemma modesOk_of_pitWriteHandler {clock : BitVec 64} {address value : BitVec 32} {p q : Pit}
    {calls : List DeviceCall} (hp : p.ModesOk)
    (h : pitWriteHandler clock address value p = .ok (q, calls)) : q.ModesOk := by
  unfold pitWriteHandler at h
  split_ifs at h
  · exact modesOk_of_pitWriteCount hp h
  · exact modesOk_of_pitWriteControl hp h
  · exact modesOk_of_pitSetGate (by exact hp) h
  · obtain ⟨rfl, -⟩ := Prod.mk.inj (Except.ok.inj h)
    exact hp

lemma readCount_ok_iff {clock : BitVec 64} {c : PitCounter} (hmode : c.mode ≤ 5) :
    (∃ r, c.readCount clock = .ok r) ↔ c.CountOk := by
  unfold PitCounter.readCount
  rw [exists_bind_eq_ok, ← @pitGetCount_ok_iff clock c hmode]
  refine exists_congr fun n => and_iff_left ?_
  split_ifs
  · exact ⟨_, rfl⟩
  · exact ⟨_, rfl⟩
  · exact ⟨_, rfl⟩
  · exact ⟨_, rfl⟩

lemma pitReadHandler_ok_iff {clock : BitVec 64} {address : BitVec 32} {p : Pit} (hp : p.ModesOk) :
    (∃ r, pitReadHandler clock address p = .ok r) ↔ p.ReadOk address := by
  unfold pitReadHandler Pit.ReadOk
  dsimp only
  split_ifs with hgate hstatus hcount
  · unfold pitReadGate
    rw [exists_bind_eq_ok, ← @pitGetOut_ok_iff _ (clock + p.clockNs)]
    exact exists_congr fun out => and_iff_left ⟨_, rfl⟩
  · exact iff_of_true ⟨_, rfl⟩ fun h => absurd h hstatus
  · exact iff_of_true ⟨_, rfl⟩ fun _ h => absurd h hcount
  · rw [exists_bind_eq_ok]
    rw [not_not] at hstatus hcount
    refine Iff.trans (exists_congr fun r => and_iff_left ⟨_, rfl⟩) ?_
    rw [readCount_ok_iff (hp _)]
    exact ⟨fun h _ _ => h, fun h => h hstatus hcount⟩

lemma mode_readLatch {c : PitCounter} : c.readLatch.2.mode = c.mode := by
  unfold PitCounter.readLatch
  split_ifs <;> rfl

lemma mode_readCount {clock : BitVec 64} {c d : PitCounter} {value : BitVec 32}
    (h : c.readCount clock = .ok (value, d)) : d.mode = c.mode := by
  obtain ⟨n, -, hrest⟩ := bind_eq_ok.mp h
  split_ifs at hrest <;> rw [← (Prod.mk.inj (Except.ok.inj hrest)).2]

lemma modesOk_of_pitReadHandler {clock : BitVec 64} {address value : BitVec 32} {p q : Pit}
    (hp : p.ModesOk) (h : pitReadHandler clock address p = .ok (value, q)) : q.ModesOk := by
  unfold pitReadHandler at h
  dsimp only at h
  split_ifs at h
  · obtain ⟨out, -, hrest⟩ := bind_eq_ok.mp h
    rw [← (Prod.mk.inj (Except.ok.inj hrest)).2]
    intro i
    exact hp i
  · cases h
    exact hp.setCounter (hp _)
  · cases h
    refine hp.setCounter ?_
    rw [mode_readLatch]
    exact hp _
  · obtain ⟨⟨value', c⟩, hc, hrest⟩ := bind_eq_ok.mp h
    cases hrest
    refine hp.setCounter ?_
    rw [mode_readCount hc]
    exact hp _

/-! ## Runs -/

lemma modesOk_initial {timerId : BitVec 32} : (Pit.initial timerId).ModesOk := by
  intro i
  have hmode : ((Pit.initial timerId).counter i).mode = 4 := by
    match i with
    | 0 => rfl
    | 1 => rfl
    | 2 => rfl
  rw [hmode]
  decide

lemma modesOk_of_pitStep {p q : Pit} {a : BitVec 64 × PitOp} (hp : p.ModesOk)
    (h : pitStep p a = .ok q) : q.ModesOk := by
  obtain ⟨clock, op⟩ := a
  cases op with
  | write address value =>
      obtain ⟨⟨r, calls⟩, hr, hrest⟩ := bind_eq_ok.mp h
      cases hrest
      exact modesOk_of_pitWriteHandler hp hr
  | read address =>
      obtain ⟨⟨value, r⟩, hr, hrest⟩ := bind_eq_ok.mp h
      cases hrest
      exact modesOk_of_pitReadHandler hp hr
  | tick =>
      obtain ⟨⟨r, calls⟩, hr, hrest⟩ := bind_eq_ok.mp h
      cases hrest
      exact modesOk_of_pitIrqTimerUpdate hp hr

/-- One operation goes through exactly when what it divides by is not zero. -/
lemma pitStep_ok_iff {p : Pit} {a : BitVec 64 × PitOp} (hp : p.ModesOk) :
    (∃ q, pitStep p a = .ok q) ↔ p.DivisorsOk a := by
  obtain ⟨clock, op⟩ := a
  cases op with
  | write address value =>
      refine Iff.trans ?_ (@pitWriteHandler_ok_iff clock address value p hp)
      rw [pitStep, exists_bind_eq_ok]
      exact exists_congr fun r => and_iff_left ⟨_, rfl⟩
  | read address =>
      refine Iff.trans ?_ (@pitReadHandler_ok_iff clock address p hp)
      rw [pitStep, exists_bind_eq_ok]
      exact exists_congr fun r => and_iff_left ⟨_, rfl⟩
  | tick =>
      refine Iff.trans ?_ (@pitIrqTimerUpdate_ok_iff 0 (p.counter 0).nextTransitionTime true p)
      rw [pitStep, exists_bind_eq_ok]
      exact exists_congr fun r => and_iff_left ⟨_, rfl⟩

end Svmm
