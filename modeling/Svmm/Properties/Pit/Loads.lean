import Svmm.Framework.Account
import Svmm.Properties.Pit.Reads

/-!
# Which accesses leave a counter without a count

A counter has no count until one is loaded, and a load of one byte takes it away again when the
value that is written is wider than a byte and its low half is zero; a word that is put together
from two bytes never does.  Whether a later access divides then rests on the mode of the last
control word, and on what is latched and not yet read.  All this can be told from the accesses:
`CounterUse` keeps it without a count and without the clock.
-/

namespace Svmm

open TransitionRun

/-! ## The account -/

/-- The bytes of a latched count. -/
def AccessMode.length : AccessMode → ℕ
  | low | high => 1
  | lowThenHigh => 2

/-- The mode that a control word selects. -/
def pitControlMode (value : BitVec 32) : BitVec 8 :=
  let mode : BitVec 8 := ((value >>> 1) &&& 7).setWidth 8
  if 5 < mode then mode - 4 else mode

/-- A load of the value leaves a count: zero stands for 0x10000, and other values are cut to their
low half. -/
def leavesCount (value : BitVec 32) : Bool := value == 0 || value &&& 0xffff != 0

/-- What the accesses so far make of a counter. -/
structure CounterUse where
  access : AccessMode
  /-- The low byte of a word has been written, and not the high one. -/
  half : Bool
  mode : BitVec 8
  /-- A value has been loaded, and the last one has left a count. -/
  loaded : Bool
  /-- The bytes of a latched count that are still to come. -/
  latched : ℕ
  /-- A latched status is still to come. -/
  status : Bool
  gate : Bool
  deriving DecidableEq

namespace CounterUse

variable (u : CounterUse)

/-- After `PitInitialize`. -/
def initial : CounterUse where
  access := .low
  half := false
  mode := 4
  loaded := false
  latched := 0
  status := false
  gate := true

/-- The counter has a count, or is in a mode that does not divide by it. -/
def Ready : Prop := u.mode = 2 ∨ u.mode = 3 → u.loaded = true

instance : Decidable u.Ready := inferInstanceAs (Decidable (_ → _))

/-- A value written to the data port. -/
def write (value : BitVec 32) : CounterUse :=
  match u.access with
  | .low => { u with loaded := leavesCount value }
  | .high => { u with loaded := leavesCount (value <<< 8) }
  | .lowThenHigh =>
      if u.half then { u with loaded := true, half := false } else { u with half := true }

/-- A command to latch the count; it is ignored while one is latched. -/
def latchCount : CounterUse := if u.latched = 0 then { u with latched := u.access.length } else u

/-- A command to latch the status; it is ignored while one is latched. -/
def latchStatus : CounterUse := { u with status := true }

/-- A control word that sets the access mode. -/
def program (access : AccessMode) (mode : BitVec 8) : CounterUse :=
  { u with access := access, half := false, mode := mode }

/-- A read of the data port: the status first, then what is latched of a count. -/
def read : CounterUse :=
  if u.status then { u with status := false } else { u with latched := u.latched - 1 }

/-- A word written to the command port. -/
def command (channel : Fin 3) (value : BitVec 32) : CounterUse :=
  if (value >>> 6) &&& 3 = 3 then
    if value &&& (2 <<< channel.val) = 0 then u
    else
      let u := if value &&& 0x20 = 0 then u.latchCount else u
      if value &&& 0x10 = 0 then u.latchStatus else u
  else if (value >>> 6) &&& 3 = BitVec.ofNat 32 channel then
    match AccessMode.ofControl value with
    | none => u.latchCount
    | some access => u.program access (pitControlMode value)
  else u

/-- An operation.  Data port 0x41 is that of counter 0, and port 0x61 sets the gate of
counter 2. -/
def next (channel : Fin 3) : PitOp → CounterUse
  | .write address value =>
      if address = 0x40 ∨ address = 0x41 ∨ address = 0x42 then
        if pitPortChannel address = channel then u.write value else u
      else if address = 0x43 then u.command channel value
      else if address = 0x61 ∧ channel = 2 then { u with gate := decide (value &&& 1 = 1) }
      else u
  | .read address => if address ≠ 0x61 ∧ pitPortChannel address = channel then u.read else u
  | .tick => u

/-- A counter that loads a count in one byte is ready with it. -/
def WriteAllowed (value : BitVec 32) : Prop :=
  u.access ≠ .lowThenHigh → (u.write value).Ready

/-- A counter whose count or status the word latches, while none is latched, is ready. -/
def CommandAllowed (channel : Fin 3) (value : BitVec 32) : Prop :=
  if (value >>> 6) &&& 3 = 3 then
    value &&& (2 <<< channel.val) ≠ 0 →
      (value &&& 0x20 = 0 → u.latched = 0 → u.Ready) ∧
        (value &&& 0x10 = 0 → u.status = false → u.Ready)
  else
    (value >>> 6) &&& 3 = BitVec.ofNat 32 channel → AccessMode.ofControl value = none →
      u.latched = 0 → u.Ready

end CounterUse

/-- The accounts of the three counters. -/
abbrev PitUse := Fin 3 → CounterUse

/-- A step of the accounts, which no operation stops. -/
def pitUseStep (u : PitUse) (a : BitVec 64 × PitOp) : PitOutcome PitUse :=
  .ok fun channel => (u channel).next channel a.2

/-- What an operation divides by has been loaded: a write to a data port in one byte, a latch, a
rise of the gate of counter 2, a read of the running count, of the output of counter 2 on port
0x61, and a tick of counter 0. -/
def PitUse.Allows (u : PitUse) : BitVec 64 × PitOp → Prop
  | (_, .write address value) =>
      if address = 0x40 ∨ address = 0x41 ∨ address = 0x42 then
        (u (pitPortChannel address)).WriteAllowed value
      else if address = 0x43 then ∀ channel, (u channel).CommandAllowed channel value
      else address = 0x61 → (u 2).gate = false → value &&& 1 = 1 → (u 2).Ready
  | (_, .read address) =>
      if address = 0x61 then (u 2).Ready
      else
        (u (pitPortChannel address)).status = false →
          (u (pitPortChannel address)).latched = 0 → (u (pitPortChannel address)).Ready
  | (_, .tick) => (u 0).Ready

/-! ## A counter and its account -/

/-- `writeState`. -/
def CounterUse.writeState (u : CounterUse) : BitVec 8 :=
  if u.access = .lowThenHigh ∧ u.half then rwStateWord1 else u.access.code

/-- So many bytes of a latched count are to come. -/
def LatchedBytes (countLatched : BitVec 8) (n : ℕ) : Prop :=
  countLatched = 0 ∧ n = 0 ∨ ∃ access : AccessMode, countLatched = access.code ∧ n = access.length

/-- The counter is in the state that the account says. -/
structure PitCounter.UsedAs (c : PitCounter) (u : CounterUse) : Prop where
  access : c.rwMode = u.access.code
  writeState : c.writeState = u.writeState
  mode : c.mode = u.mode
  count : c.count ≠ 0 ↔ u.loaded = true
  latched : LatchedBytes c.countLatched u.latched
  status : c.statusLatched = 0 ↔ u.status = false
  gate : c.gate = if u.gate then 1 else 0

lemma AccessMode.length_ne_zero (access : AccessMode) : access.length ≠ 0 := by
  cases access <;> decide

lemma LatchedBytes.eq_zero_iff {countLatched : BitVec 8} {n : ℕ} (h : LatchedBytes countLatched n) :
    countLatched = 0 ↔ n = 0 := by
  obtain ⟨rfl, rfl⟩ | ⟨access, rfl, rfl⟩ := h
  · exact iff_of_true rfl rfl
  · exact iff_of_false access.code_ne_zero access.length_ne_zero

/-- A byte of the latched count is read. -/
lemma LatchedBytes.readLatch {c : PitCounter} {n : ℕ} (h : LatchedBytes c.countLatched n)
    (hn : n ≠ 0) :
    ∃ countLatched, c.readLatch.2 = { c with countLatched := countLatched } ∧
      LatchedBytes countLatched (n - 1) := by
  obtain ⟨-, hzero⟩ | ⟨access, hcode, rfl⟩ := h
  · exact absurd hzero hn
  · unfold PitCounter.readLatch
    cases access with
    | low =>
        refine ⟨0, ?_, Or.inl ⟨rfl, rfl⟩⟩
        rw [hcode, if_neg (by decide), if_neg (by decide)]
    | high =>
        refine ⟨0, ?_, Or.inl ⟨rfl, rfl⟩⟩
        rw [hcode, if_pos (by decide)]
    | lowThenHigh =>
        refine ⟨rwStateMsb, ?_, Or.inr ⟨.high, rfl, rfl⟩⟩
        rw [hcode, if_neg (by decide), if_pos (by decide)]

lemma leavesCount_iff {value : BitVec 32} :
    (if value = 0 then 0x10000 else value &&& 0xffff : BitVec 32) ≠ 0 ↔
      leavesCount value = true := by
  unfold leavesCount
  by_cases hzero : value = 0
  · rw [if_pos hzero, hzero]
    decide
  · rw [if_neg hzero, Bool.or_eq_true, beq_iff_eq, bne_iff_ne]
    exact (or_iff_right hzero).symm

/-- The fields of a counter that the account is about. -/
def PitCounter.usage (c : PitCounter) :
    BitVec 8 × BitVec 8 × BitVec 8 × BitVec 32 × BitVec 8 × BitVec 8 × BitVec 8 :=
  (c.rwMode, c.writeState, c.mode, c.count, c.countLatched, c.statusLatched, c.gate)

namespace PitCounter.UsedAs

variable {c d : PitCounter} {u : CounterUse} {clock : BitVec 64} {value : BitVec 32}

lemma ready_iff (h : c.UsedAs u) : c.CountOk ↔ u.Ready := by
  unfold PitCounter.CountOk PitCounter.Divides CounterUse.Ready
  rw [h.mode, h.count]

/-- A load in one byte divides by the count that it leaves. -/
lemma loadOk_iff (h : c.UsedAs u) :
    c.LoadOk value ↔ { u with loaded := leavesCount value }.Ready := by
  unfold PitCounter.LoadOk PitCounter.Divides CounterUse.Ready
  rw [h.mode]
  refine imp_congr_right fun _ => ?_
  unfold leavesCount
  rw [Bool.or_eq_true, beq_iff_eq, bne_iff_ne]

lemma of_usage (h : c.UsedAs u) (hsame : d.usage = c.usage) : d.UsedAs u := by
  obtain ⟨haccess, hstate, hmode, hcount, hlatched, hstatus, hgate⟩ :
      d.rwMode = c.rwMode ∧ d.writeState = c.writeState ∧ d.mode = c.mode ∧ d.count = c.count ∧
        d.countLatched = c.countLatched ∧ d.statusLatched = c.statusLatched ∧
        d.gate = c.gate := by
    simpa [PitCounter.usage] using hsame
  refine ⟨haccess.trans h.access, hstate.trans h.writeState, hmode.trans h.mode, ?_, ?_, ?_,
    hgate.trans h.gate⟩
  · rw [hcount]
    exact h.count
  · rw [hlatched]
    exact h.latched
  · rw [hstatus]
    exact h.status

/-! ## Loads -/

section Loads

variable {p q : Pit} {channel : Fin 3} {calls : List DeviceCall}

lemma load (h : (p.counter channel).UsedAs u)
    (hload : pitLoadCount clock channel value p = .ok (q, calls)) :
    (q.counter channel).UsedAs { u with loaded := leavesCount value } := by
  unfold pitLoadCount at hload
  obtain ⟨n, rfl⟩ := pitIrqTimerUpdate_eq_ok hload
  rw [Pit.counter_setCounter, Pit.counter_setCounter]
  exact ⟨h.access, h.writeState, h.mode, leavesCount_iff, h.latched, h.status, h.gate⟩

/-- In a mode of one byte every write loads. -/
lemma writeState_of_ne (h : c.UsedAs u) (haccess : u.access ≠ .lowThenHigh) :
    c.writeState = u.access.code :=
  h.writeState.trans (if_neg fun hboth => haccess hboth.1)

/-- A value is written to the data port. -/
lemma write (h : (p.counter channel).UsedAs u)
    (hwrite : pitWriteCount clock channel value p = .ok (q, calls)) :
    (q.counter channel).UsedAs (u.write value) := by
  unfold pitWriteCount at hwrite
  unfold CounterUse.write
  dsimp only at hwrite
  cases haccess : u.access with
  | low =>
      have hstate := h.writeState_of_ne (by rw [haccess]; decide)
      rw [haccess] at hstate
      rw [hstate, if_neg (by decide), if_neg (by decide), if_neg (by decide)] at hwrite
      have hload := h.load hwrite
      rwa [haccess] at hload
  | high =>
      have hstate := h.writeState_of_ne (by rw [haccess]; decide)
      rw [haccess] at hstate
      rw [hstate, if_pos (by decide)] at hwrite
      have hload := h.load hwrite
      rwa [haccess] at hload
  | lowThenHigh =>
      have hstate := h.writeState
      unfold CounterUse.writeState at hstate
      by_cases hhalf : u.half = true
      · rw [if_pos ⟨haccess, hhalf⟩] at hstate
        rw [hstate, if_neg (by decide), if_neg (by decide), if_pos rfl] at hwrite
        obtain ⟨⟨r, loaded⟩, hr, hrest⟩ := bind_eq_ok.mp hwrite
        obtain ⟨rfl, -⟩ := Prod.mk.inj (Except.ok.inj hrest)
        have hload := h.load hr
        have hleaves : leavesCount ((p.counter channel).inlatch.setWidth 32 |||
            (value &&& 0xff) <<< 8) = true := by
          unfold leavesCount
          rw [Bool.or_eq_true, beq_iff_eq, bne_iff_ne]
          exact low_half_word
        rw [hleaves] at hload
        dsimp only
        rw [if_pos hhalf, Pit.counter_setCounter]
        exact ⟨hload.access.trans (congrArg _ haccess), rfl, hload.mode, hload.count, hload.latched,
          hload.status, hload.gate⟩
      · rw [if_neg fun hboth => hhalf hboth.2, haccess] at hstate
        rw [hstate, if_neg (by decide), if_pos (by decide)] at hwrite
        obtain ⟨rfl, -⟩ := Prod.mk.inj (Except.ok.inj hwrite)
        dsimp only
        rw [if_neg hhalf, Pit.counter_setCounter]
        exact ⟨h.access.trans (congrArg _ haccess), rfl, h.mode, h.count, h.latched, h.status,
          h.gate⟩

end Loads

/-! ## Latches and reads -/

lemma latchCount (h : c.UsedAs u) (hlatch : pitLatchCount clock c = .ok d) :
    d.UsedAs u.latchCount := by
  unfold pitLatchCount at hlatch
  unfold CounterUse.latchCount
  by_cases hzero : c.countLatched = 0
  · rw [if_pos hzero] at hlatch
    obtain ⟨n, -, hrest⟩ := bind_eq_ok.mp hlatch
    obtain rfl := Except.ok.inj hrest
    rw [if_pos (h.latched.eq_zero_iff.mp hzero)]
    exact ⟨h.access, h.writeState, h.mode, h.count, Or.inr ⟨u.access, h.access, rfl⟩, h.status,
      h.gate⟩
  · rw [if_neg hzero] at hlatch
    obtain rfl := Except.ok.inj hlatch
    rw [if_neg fun hnone => hzero (h.latched.eq_zero_iff.mpr hnone)]
    exact h

/-- A status is latched already. -/
lemma keepStatus (h : c.UsedAs u) (hset : c.statusLatched ≠ 0) : c.UsedAs u.latchStatus :=
  ⟨h.access, h.writeState, h.mode, h.count, h.latched,
    iff_of_false hset fun heq => Bool.noConfusion heq, h.gate⟩

lemma latchStatus (h : c.UsedAs u) (hlatch : pitLatchStatus c = .ok d) :
    d.UsedAs u.latchStatus := by
  unfold pitLatchStatus at hlatch
  by_cases hzero : c.statusLatched = 0
  · rw [if_pos hzero] at hlatch
    obtain ⟨out, -, hrest⟩ := bind_eq_ok.mp hlatch
    obtain rfl := Except.ok.inj hrest
    have hset : (1 : BitVec 8) ≠ 0 := by decide
    exact ⟨h.access, h.writeState, h.mode, h.count, h.latched,
      iff_of_false hset fun heq => Bool.noConfusion heq, h.gate⟩
  · rw [if_neg hzero] at hlatch
    obtain rfl := Except.ok.inj hlatch
    exact h.keepStatus hzero

/-- The read-back command, for a counter that it selects. -/
lemma readBack (h : c.UsedAs u) (hread : pitReadBackCounter clock value c = .ok d) :
    d.UsedAs (
      let u := if value &&& 0x20 = 0 then u.latchCount else u
      if value &&& 0x10 = 0 then u.latchStatus else u) := by
  obtain ⟨e, he, hrest⟩ := bind_eq_ok.mp hread
  have hused : e.UsedAs (if value &&& 0x20 = 0 then u.latchCount else u) := by
    split_ifs at he ⊢
    · exact h.latchCount he
    · obtain rfl := Except.ok.inj he
      exact h
  dsimp only
  by_cases hvalue : value &&& 0x10 = 0
  · rw [if_pos hvalue]
    by_cases hzero : e.statusLatched = 0
    · rw [if_pos ⟨hvalue, hzero⟩] at hrest
      exact hused.latchStatus hrest
    · rw [if_neg fun hboth => hzero hboth.2] at hrest
      obtain rfl := Except.ok.inj hrest
      exact hused.keepStatus hzero
  · rw [if_neg fun hboth => hvalue hboth.1] at hrest
    rw [if_neg hvalue]
    obtain rfl := Except.ok.inj hrest
    exact hused

/-- A control word for the counter. -/
lemma control (h : c.UsedAs u) (hcontrol : pitControlOne clock value c = .ok d) :
    d.UsedAs (match AccessMode.ofControl value with
      | none => u.latchCount
      | some access => u.program access (pitControlMode value)) := by
  have hcode := ofControl_code value
  unfold pitControlOne at hcontrol
  dsimp only at hcontrol
  cases haccess : AccessMode.ofControl value with
  | none =>
      rw [haccess] at hcode
      rw [if_pos hcode] at hcontrol
      exact h.latchCount hcontrol
  | some access =>
      rw [haccess] at hcode
      have hcode : ((value >>> 4) &&& 3).setWidth 8 = access.code := hcode
      rw [if_neg (by rw [hcode]; exact access.code_ne_zero)] at hcontrol
      obtain rfl := Except.ok.inj hcontrol
      have hstate : (u.program access (pitControlMode value)).writeState = access.code :=
        if_neg fun hboth => Bool.false_ne_true hboth.2
      exact ⟨hcode, hcode.trans hstate.symm, rfl, h.count, h.latched, h.status, h.gate⟩

/-- The data port is read. -/
lemma read {byte : BitVec 32} (h : c.UsedAs u) (hread : c.read clock = .ok (byte, d)) :
    d.UsedAs u.read := by
  unfold PitCounter.read at hread
  unfold CounterUse.read
  by_cases hstatus : c.statusLatched = 0
  · rw [if_neg (not_not_intro hstatus)] at hread
    rw [if_neg (by rw [h.status.mp hstatus]; decide)]
    by_cases hcount : c.countLatched = 0
    · have hzero := h.latched.eq_zero_iff.mp hcount
      rw [if_neg (not_not_intro hcount)] at hread
      obtain ⟨n, -, hrest⟩ := bind_eq_ok.mp hread
      have hsame : d.usage = c.usage := by
        split_ifs at hrest <;> rw [← (Prod.mk.inj (Except.ok.inj hrest)).2] <;> rfl
      have hused := h.of_usage hsame
      have hnone : u.latched - 1 = u.latched := by rw [hzero]
      rw [hnone]
      exact hused
    · rw [if_pos hcount] at hread
      obtain ⟨countLatched, hlatch, hbytes⟩ := h.latched.readLatch
        fun hzero => hcount (h.latched.eq_zero_iff.mpr hzero)
      obtain rfl := (Prod.mk.inj (Except.ok.inj hread)).2.symm.trans hlatch |>.symm
      exact ⟨h.access, h.writeState, h.mode, h.count, hbytes, h.status, h.gate⟩
  · have hset : u.status = true := by
      rw [← Bool.not_eq_false, ← h.status]
      exact hstatus
    rw [if_pos hstatus] at hread
    rw [if_pos hset]
    obtain ⟨-, rfl⟩ := Prod.mk.inj (Except.ok.inj hread)
    exact ⟨h.access, h.writeState, h.mode, h.count, h.latched, iff_of_true rfl rfl, h.gate⟩

/-! ## Steps -/

section Steps

variable {p q : Pit} {channel : Fin 3} {calls : List DeviceCall}

/-- A word written to the command port. -/
lemma command (h : (p.counter channel).UsedAs u)
    (hwrite : pitWriteControl clock value p = .ok (q, calls)) :
    (q.counter channel).UsedAs (u.command channel value) := by
  unfold pitWriteControl at hwrite
  dsimp only at hwrite
  unfold CounterUse.command
  by_cases hall : (value >>> 6) &&& 3 = 3
  · rw [if_pos hall] at hwrite ⊢
    obtain ⟨r, hr, hrest⟩ := bind_eq_ok.mp hwrite
    obtain ⟨rfl, -⟩ := Prod.mk.inj (Except.ok.inj hrest)
    obtain ⟨hselected, hother⟩ := @counter_readBack clock channel p r value _ (by decide) hr
    by_cases hvalue : value &&& (2 <<< channel.val) = 0
    · rw [if_pos hvalue, hother (Or.inr hvalue)]
      exact h
    · rw [if_neg hvalue]
      exact h.readBack (hselected (mem_channels channel) hvalue)
  · rw [if_neg hall] at hwrite ⊢
    obtain ⟨c, hc, hrest⟩ := bind_eq_ok.mp hwrite
    obtain ⟨rfl, -⟩ := Prod.mk.inj (Except.ok.inj hrest)
    by_cases hchannel : channel = pitControlChannel value
    · rw [if_pos ((pitControlChannel_eq_iff hall).mpr hchannel)]
      have hcounter : (p.setCounter (pitControlChannel value) c).counter channel = c := by
        rw [hchannel]
        exact Pit.counter_setCounter
      have hcontrol : pitControlOne clock value (p.counter channel) = .ok c := by
        rw [hchannel]
        exact hc
      have hused := h.control hcontrol
      rw [← hcounter] at hused
      exact hused
    · rw [if_neg fun hsame => hchannel ((pitControlChannel_eq_iff hall).mp hsame)]
      have hcounter : (p.setCounter (pitControlChannel value) c).counter channel =
          p.counter channel := Pit.counter_setCounter_of_ne hchannel
      rw [← hcounter] at h
      exact h

lemma usage_setCounter {d : Fin 3} {c : PitCounter}
    (hc : c.usage = (p.counter channel).usage) :
    ((p.setCounter channel c).counter d).usage = (p.counter d).usage := by
  rcases eq_or_ne d channel with rfl | hne
  · rw [Pit.counter_setCounter]
    exact hc
  · rw [Pit.counter_setCounter_of_ne hne]

lemma irqTimerUpdate {time : BitVec 64} {timer : Bool} {d : Fin 3} (h : (p.counter d).UsedAs u)
    (hupdate : pitIrqTimerUpdate channel time timer p = .ok (q, calls)) :
    (q.counter d).UsedAs u := by
  obtain ⟨n, rfl⟩ := pitIrqTimerUpdate_eq_ok hupdate
  exact h.of_usage (usage_setCounter rfl)

/-- Bit 0 of port 0x61 is the gate of counter 2. -/
lemma setGate (h : (p.counter channel).UsedAs u) :
    ((p.setCounter 2 { p.counter 2 with gate := (value &&& 1).setWidth 8 }).counter
        channel).UsedAs
      (if channel = 2 then { u with gate := decide (value &&& 1 = 1) } else u) := by
  by_cases hchannel : channel = 2
  · subst hchannel
    have hgate : (value &&& 1).setWidth 8 = if value &&& 1 = 1 then (1 : BitVec 8) else 0 := by
      have hbit : value &&& 1 = 1 ∨ value &&& 1 = 0 := by
        have hle : (value &&& 1).toNat ≤ 1 := by
          rw [BitVec.toNat_and]
          exact Nat.and_le_right
        bv_omega
      rcases hbit with hbit | hbit <;> rw [hbit] <;> decide
    rw [if_pos rfl, Pit.counter_setCounter]
    refine ⟨h.access, h.writeState, h.mode, h.count, h.latched, h.status, ?_⟩
    simp only [hgate, decide_eq_true_eq]
  · rw [if_neg hchannel, Pit.counter_setCounter_of_ne hchannel]
    exact h

lemma gatePort (h : (p.counter channel).UsedAs u)
    (hgate : pitSetGate clock 2 (value &&& 1) p = .ok (q, calls)) :
    (q.counter channel).UsedAs
      (if channel = 2 then { u with gate := decide (value &&& 1 = 1) } else u) := by
  unfold pitSetGate at hgate
  dsimp only at hgate
  split_ifs at hgate
  · obtain ⟨⟨r, restarted⟩, hrestart, hrest⟩ := bind_eq_ok.mp hgate
    obtain ⟨rfl, -⟩ := Prod.mk.inj (Except.ok.inj hrest)
    have hreload : (r.counter channel).UsedAs u := by
      refine irqTimerUpdate (h.of_usage ?_) hrestart
      exact usage_setCounter rfl
    exact hreload.setGate
  · obtain ⟨rfl, -⟩ := Prod.mk.inj (Except.ok.inj hgate)
    exact h.setGate

/-- Every step keeps the account of a counter. -/
lemma step (h : (p.counter channel).UsedAs u) {a : BitVec 64 × PitOp}
    (hstep : pitStep p a = .ok q) : (q.counter channel).UsedAs (u.next channel a.2) := by
  obtain ⟨clock, op⟩ := a
  cases op with
  | write address value =>
      obtain ⟨⟨r, calls⟩, hwrite, hrest⟩ := bind_eq_ok.mp hstep
      obtain rfl := Except.ok.inj hrest
      unfold pitWriteHandler at hwrite
      dsimp only [CounterUse.next]
      by_cases hdata : address = 0x40 ∨ address = 0x41 ∨ address = 0x42
      · rw [if_pos hdata] at hwrite ⊢
        by_cases hport : pitPortChannel address = channel
        · rw [if_pos hport]
          rw [hport] at hwrite
          exact h.write hwrite
        · rw [if_neg hport, counter_pitWriteCount hwrite fun hsame => hport hsame.symm]
          exact h
      · rw [if_neg hdata] at hwrite ⊢
        by_cases hcommand : address = 0x43
        · rw [if_pos hcommand] at hwrite ⊢
          exact h.command hwrite
        · rw [if_neg hcommand] at hwrite ⊢
          by_cases hgate : address = 0x61
          · rw [if_pos hgate] at hwrite
            have hused := gatePort (p := { p with
              channelSound := ((value >>> 1) &&& 1).setWidth 8 }) h hwrite
            simpa only [hgate, true_and] using hused
          · rw [if_neg hgate] at hwrite
            rw [if_neg fun hboth => hgate hboth.1]
            obtain ⟨rfl, -⟩ := Prod.mk.inj (Except.ok.inj hwrite)
            exact h
  | read address =>
      obtain ⟨⟨value, r⟩, hread, hrest⟩ := bind_eq_ok.mp hstep
      obtain rfl := Except.ok.inj hrest
      dsimp only [CounterUse.next]
      by_cases hgate : address = 0x61
      · rw [if_neg fun hboth => hboth.1 hgate]
        rw [hgate] at hread
        obtain ⟨out, -, hout⟩ := bind_eq_ok.mp hread
        rw [← (Prod.mk.inj (Except.ok.inj hout)).2]
        exact h
      · rw [pitReadHandler_eq hgate] at hread
        obtain ⟨⟨value', c⟩, hc, hset⟩ := bind_eq_ok.mp hread
        obtain ⟨-, rfl⟩ := Prod.mk.inj (Except.ok.inj hset)
        by_cases hport : pitPortChannel address = channel
        · rw [if_pos ⟨hgate, hport⟩]
          rw [hport] at hc ⊢
          rw [Pit.counter_setCounter]
          exact h.read hc
        · rw [if_neg fun hboth => hport hboth.2,
            Pit.counter_setCounter_of_ne fun hsame => hport hsame.symm]
          exact h
  | tick =>
      obtain ⟨⟨r, calls⟩, htick, hrest⟩ := bind_eq_ok.mp hstep
      obtain rfl := Except.ok.inj hrest
      exact h.irqTimerUpdate htick

end Steps

end PitCounter.UsedAs

/-! ## What a step divides by -/

/-- Every counter is in the state that its account says. -/
def Pit.UsedAs (p : Pit) (u : PitUse) : Prop := ∀ channel, (p.counter channel).UsedAs (u channel)

namespace Pit.UsedAs

variable {p : Pit} {u : PitUse} {channel : Fin 3} {value : BitVec 32}

/-- A write loads in one byte what leaves a count. -/
lemma writeOk_iff {c : PitCounter} {u : CounterUse} (h : c.UsedAs u) :
    c.WriteOk value ↔ u.WriteAllowed value := by
  unfold PitCounter.WriteOk CounterUse.WriteAllowed CounterUse.write
  cases haccess : u.access with
  | low =>
      have hstate := h.writeState_of_ne (by rw [haccess]; decide)
      rw [haccess] at hstate
      rw [hstate, if_neg (by decide)]
      have hother : AccessMode.low.code ≠ rwStateWord0 ∧ AccessMode.low.code ≠ rwStateWord1 := by
        decide
      have hbyte : AccessMode.low ≠ .lowThenHigh := by decide
      rw [or_iff_right hother.1, or_iff_right hother.2, h.loadOk_iff]
      exact ⟨fun hready _ => hready, fun hall => hall hbyte⟩
  | high =>
      have hstate := h.writeState_of_ne (by rw [haccess]; decide)
      rw [haccess] at hstate
      have hbyte : AccessMode.high ≠ .lowThenHigh := by decide
      rw [hstate, if_pos (by decide), h.loadOk_iff]
      exact ⟨fun hready _ => hready, fun hall => hall hbyte⟩
  | lowThenHigh =>
      have hstate := h.writeState
      unfold CounterUse.writeState at hstate
      have hword : c.writeState = rwStateWord0 ∨ c.writeState = rwStateWord1 := by
        split_ifs at hstate
        · exact Or.inr hstate
        · rw [haccess] at hstate
          exact Or.inl hstate
      have hne : c.writeState ≠ rwStateMsb := by
        rcases hword with hstate | hstate <;> rw [hstate] <;> decide
      rw [if_neg hne]
      exact iff_of_true (or_assoc.mp (Or.inl hword)) fun hnot => absurd rfl hnot

/-- A command latches where nothing is latched. -/
lemma commandAllowed_iff (h : p.UsedAs u) :
    p.ControlOk value ↔ ∀ channel, (u channel).CommandAllowed channel value := by
  unfold Pit.ControlOk CounterUse.CommandAllowed
  by_cases hall : (value >>> 6) &&& 3 = 3
  · simp only [if_pos hall]
    refine forall_congr' fun channel => imp_congr_right fun _ => ?_
    unfold PitCounter.ReadBackOk
    rw [(h channel).ready_iff, (h channel).latched.eq_zero_iff, (h channel).status]
  · simp only [if_neg hall]
    have hnone : AccessMode.ofControl value = none ↔ (value >>> 4) &&& 3 = 0 := by
      unfold AccessMode.ofControl
      by_cases hzero : (value >>> 4) &&& 3 = 0
      · rw [if_pos hzero]
        exact iff_of_true rfl hzero
      · rw [if_neg hzero]
        refine iff_of_false ?_ hzero
        split_ifs <;> exact not_false
    constructor
    · intro hok channel hchannel haccess hlatched
      rw [pitControlChannel_eq_iff hall] at hchannel
      subst hchannel
      exact (h _).ready_iff.mp (hok (hnone.mp haccess) ((h _).latched.eq_zero_iff.mpr hlatched))
    · intro hall' haccess hlatched
      refine (h _).ready_iff.mpr (hall' (pitControlChannel value) ?_ (hnone.mpr haccess)
        ((h _).latched.eq_zero_iff.mp hlatched))
      exact (pitControlChannel_eq_iff hall).mpr rfl

lemma gateOk_iff {c : PitCounter} {u : CounterUse} (h : c.UsedAs u) :
    c.GateOk value ↔ (u.gate = false → value &&& 1 = 1 → u.Ready) := by
  have hbit : value &&& 1 = 1 ∨ value &&& 1 = 0 := by
    have hle : (value &&& 1).toNat ≤ 1 := by
      rw [BitVec.toNat_and]
      exact Nat.and_le_right
    bv_omega
  have hrise : (if u.gate then (1 : BitVec 8) else 0).setWidth 32 < value &&& 1 ↔
      u.gate = false ∧ value &&& 1 = 1 := by
    rcases hbit with hbit | hbit <;> rw [hbit] <;> cases u.gate <;> decide
  unfold PitCounter.GateOk
  rw [h.ready_iff, h.gate, hrise, and_imp]

/-- A step divides by no zero exactly where the account allows it. -/
lemma divisorsOk_iff (h : p.UsedAs u) (a : BitVec 64 × PitOp) : p.DivisorsOk a ↔ u.Allows a := by
  obtain ⟨clock, op⟩ := a
  cases op with
  | write address value =>
      unfold Pit.DivisorsOk Pit.WriteOk PitUse.Allows
      dsimp only
      split_ifs
      · exact writeOk_iff (h _)
      · exact commandAllowed_iff h
      · exact imp_congr_right fun _ => gateOk_iff (h 2)
  | read address =>
      unfold Pit.DivisorsOk Pit.ReadOk PitUse.Allows
      dsimp only
      split_ifs
      · exact (h 2).ready_iff
      · rw [(h _).ready_iff, (h _).latched.eq_zero_iff, (h _).status]
  | tick => exact (h 0).ready_iff

end Pit.UsedAs

/-! ## Runs -/

lemma usedAs_initial (timerId : BitVec 32) :
    (Pit.initial timerId).UsedAs fun _ => CounterUse.initial := by
  intro channel
  have husage : ((Pit.initial timerId).counter channel).usage = (PitCounter.initial 0).usage := by
    match channel with
    | 0 => rfl
    | 1 => rfl
    | 2 => rfl
  have hstart : (PitCounter.initial 0).UsedAs CounterUse.initial :=
    { access := rfl
      writeState := rfl
      mode := rfl
      count := by decide
      latched := Or.inl ⟨rfl, rfl⟩
      status := by decide
      gate := rfl }
  exact hstart.of_usage husage

/-- A run of port accesses and timer ticks from `PitInitialize` divides by no zero exactly when its
accesses, with what they make of the modes, loads, latches and gates, allow each of its steps. -/
theorem pit_divisors_iff (timerId : BitVec 32) (ops : List (BitVec 64 × PitOp)) :
    (∃ p, run pitStep (Pit.initial timerId) ops = .ok p) ↔
      Meets pitUseStep PitUse.Allows (fun _ => CounterUse.initial) ops := by
  refine completes_iff_meets (R := fun p u => p.ModesOk ∧ p.UsedAs u) ?_ ?_
    ⟨modesOk_initial, usedAs_initial timerId⟩
  · rintro p u a ⟨hmodes, hused⟩
    exact (pitStep_ok_iff hmodes).trans (hused.divisorsOk_iff a)
  · rintro p u a q ⟨hmodes, hused⟩ hstep
    exact ⟨modesOk_of_pitStep hmodes hstep, fun channel => (hused channel).step hstep⟩

/-- Counter 0 is put into mode 3 by the control word 0x36 and read before a count is written. -/
theorem pit_divides_by_zero :
    run pitStep (Pit.initial 0) [(0, .write 0x43 0x36), (0, .read 0x40)] = .error .divByZero := rfl

end Svmm
