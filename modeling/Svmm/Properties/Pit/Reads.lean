import Svmm.Properties.Pit.Channels

/-!
# What reads of a counter return

The guest of a counter is owed its latched status, then the bytes of its latched count, and
otherwise a byte of the running count, in low-then-high mode by turns.  A reader keeps that account
from the commands alone.  The counter pays what is latched.  Of the running count it pays one low
byte, and then `PitReadHandler` leaves `readState` at `RW_STATE_MSB`, so that every later byte is a
high one.
-/

namespace Svmm

open TransitionRun

/-! ## The account -/

/-- The access modes of a counter. -/
inductive AccessMode where
  | low
  | high
  | lowThenHigh
  deriving DecidableEq

/-- `rwMode`. -/
def AccessMode.code : AccessMode → BitVec 8
  | low => rwStateLsb
  | high => rwStateMsb
  | lowThenHigh => rwStateWord0

/-- The access mode in a control word; `none` for a latch command. -/
def AccessMode.ofControl (value : BitVec 32) : Option AccessMode :=
  if (value >>> 4) &&& 3 = 0 then none
  else if (value >>> 4) &&& 3 = 1 then some low
  else if (value >>> 4) &&& 3 = 2 then some high else some lowThenHigh

def lowByte (count : BitVec 32) : BitVec 8 := count.setWidth 8

def highByte (count : BitVec 32) : BitVec 8 := (count >>> 8).setWidth 8

/-- The bytes of a latched count, in the order in which they are read. -/
def AccessMode.bytes (count : BitVec 32) : AccessMode → List (BitVec 8)
  | low => [lowByte count]
  | high => [highByte count]
  | lowThenHigh => [lowByte count, highByte count]

/-- What the guest has asked of a counter and not read yet. -/
structure PitReader where
  access : AccessMode
  /-- The bytes of the latched count that are still to come. -/
  latched : List (BitVec 8)
  status : Option (BitVec 8)
  /-- The reads of the running count since the access mode was set. -/
  live : ℕ

namespace PitReader

variable (r : PitReader)

/-- The byte of the running count whose turn it is. -/
def liveByte (count : BitVec 32) : BitVec 8 :=
  match r.access with
  | .low => lowByte count
  | .high => highByte count
  | .lowThenHigh => if r.live % 2 = 0 then lowByte count else highByte count

/-- The byte that the next read is to return. -/
def due (count : BitVec 32) : BitVec 8 :=
  match r.status, r.latched with
  | some status, _ => status
  | none, byte :: _ => byte
  | none, [] => r.liveByte count

/-- Nothing is latched. -/
def Running : Prop := r.status = none ∧ r.latched = []

/-- A byte has been read. -/
def read : PitReader :=
  match r.status, r.latched with
  | some _, _ => { r with status := none }
  | none, _ :: bytes => { r with latched := bytes }
  | none, [] => { r with live := r.live + 1 }

/-- A command to latch the count; it is ignored while one is latched. -/
def latchCount (count : BitVec 32) : PitReader :=
  if r.latched = [] then { r with latched := r.access.bytes count } else r

/-- A command to latch the status; it is ignored while one is latched. -/
def latchStatus (status : BitVec 8) : PitReader :=
  if r.status = none then { r with status := some status } else r

/-- A control word that sets the access mode. -/
def program (access : AccessMode) : PitReader := { r with access := access, live := 0 }

/-- After `PitInitialize`. -/
def initial : PitReader where
  access := .low
  latched := []
  status := none
  live := 0

end PitReader

/-- What `PitGetCount` returns. -/
def pitCountAt (clock : BitVec 64) (c : PitCounter) : BitVec 32 :=
  match pitGetCount clock c with
  | .ok count => count
  | .error _ => 0

/-- A word written to the command port.  `status` is the status byte, should it be latched. -/
def PitReader.command (channel : Fin 3) (value count : BitVec 32) (status : BitVec 8)
    (r : PitReader) : PitReader :=
  if (value >>> 6) &&& 3 = 3 then
    if value &&& (2 <<< channel.val) = 0 then r
    else
      let r := if value &&& 0x20 = 0 then r.latchCount count else r
      if value &&& 0x10 = 0 then r.latchStatus status else r
  else if (value >>> 6) &&& 3 = BitVec.ofNat 32 channel then
    match AccessMode.ofControl value with
    | none => r.latchCount count
    | some access => r.program access
  else r

/-- An operation, of which the timer goes from `p` to `q`. -/
def PitReader.next (channel : Fin 3) (p q : Pit) (r : PitReader) : BitVec 64 × PitOp → PitReader
  | (_, .read address) =>
      if address ≠ 0x61 ∧ pitPortChannel address = channel then r.read else r
  | (clock, .write address value) =>
      if address = 0x43 then
        r.command channel value (pitCountAt clock (p.counter channel))
          (q.counter channel).statusLatch
      else r
  | (_, .tick) => r

/-- A step of the timer, beside the account of a channel. -/
def pitReaderStep (channel : Fin 3) (s : Pit × PitReader) (a : BitVec 64 × PitOp) :
    PitOutcome (Pit × PitReader) := do
  let p ← pitStep s.1 a
  return (p, s.2.next channel s.1 p a)

/-- A read of the channel, with a count loaded, returns the byte that is due. -/
def pitPays (channel : Fin 3) (s : Pit × PitReader) : BitVec 64 × PitOp → Prop
  | (clock, .read address) =>
      address ≠ 0x61 → pitPortChannel address = channel → (s.1.counter channel).count ≠ 0 →
        ∃ p, pitReadHandler clock address s.1 =
          .ok ((s.2.due (pitCountAt clock (s.1.counter channel))).setWidth 32, p)
  | (_, .write _ _) => True
  | (_, .tick) => True

instance (channel : Fin 3) (s : Pit × PitReader) (a : BitVec 64 × PitOp) :
    Decidable (pitPays channel s a) :=
  match a with
  | (clock, .read address) =>
      decidable_of_iff
        (address ≠ 0x61 → pitPortChannel address = channel → (s.1.counter channel).count ≠ 0 →
          (pitReadHandler clock address s.1).map Prod.fst =
            .ok ((s.2.due (pitCountAt clock (s.1.counter channel))).setWidth 32)) <| by
          refine imp_congr_right fun _ => imp_congr_right fun _ => imp_congr_right fun _ => ?_
          cases pitReadHandler clock address s.1 <;> simp [Except.map, Prod.ext_iff]
  | (_, .write _ _) => inferInstanceAs (Decidable True)
  | (_, .tick) => inferInstanceAs (Decidable True)

/-- In low-then-high mode, where nothing is latched and an even number of reads, but not zero, has
gone before, the bytes of the count are equal. -/
def pitInTurn (channel : Fin 3) (s : Pit × PitReader) : BitVec 64 × PitOp → Prop
  | (clock, .read address) =>
      address ≠ 0x61 → pitPortChannel address = channel → (s.1.counter channel).count ≠ 0 →
        s.2.Running → s.2.access = .lowThenHigh → s.2.live ≠ 0 → s.2.live % 2 = 0 →
          lowByte (pitCountAt clock (s.1.counter channel)) =
            highByte (pitCountAt clock (s.1.counter channel))
  | (_, .write _ _) => True
  | (_, .tick) => True

/-! ## A counter and its account -/

/-- The state of `readState`: in low-then-high mode the first read of the running count leaves it
at `RW_STATE_MSB`. -/
def PitReader.readState (r : PitReader) : BitVec 8 :=
  if r.access = .lowThenHigh ∧ r.live ≠ 0 then rwStateMsb else r.access.code

/-- The account of a latched count: how much of `outlatch` is to come. -/
def LatchAccount (countLatched : BitVec 8) (outlatch : BitVec 16) (bytes : List (BitVec 8)) :
    Prop :=
  countLatched = 0 ∧ bytes = [] ∨
    ∃ access : AccessMode, countLatched = access.code ∧
      bytes = access.bytes (outlatch.setWidth 32)

/-- The counter is in the state that the account says. -/
structure PitCounter.Accounts (c : PitCounter) (r : PitReader) : Prop where
  mode : c.rwMode = r.access.code
  readState : c.readState = r.readState
  status : if c.statusLatched = 0 then r.status = none else r.status = some c.statusLatch
  latch : LatchAccount c.countLatched c.outlatch r.latched

lemma AccessMode.code_ne_zero (access : AccessMode) : access.code ≠ 0 := by
  cases access <;> decide

lemma latchAccount_zero {outlatch : BitVec 16} {bytes : List (BitVec 8)}
    (h : LatchAccount 0 outlatch bytes) : bytes = [] := by
  obtain ⟨-, hbytes⟩ | ⟨access, hcode, -⟩ := h
  · exact hbytes
  · exact absurd hcode.symm access.code_ne_zero

lemma AccessMode.bytes_ne_nil (count : BitVec 32) (access : AccessMode) :
    access.bytes count ≠ [] := by
  cases access <;> exact List.cons_ne_nil _ _

/-! ## Bytes -/

lemma toNat_lowByte (count : BitVec 32) : (lowByte count).toNat = count.toNat % 256 :=
  BitVec.toNat_setWidth ..

lemma toNat_highByte (count : BitVec 32) : (highByte count).toNat = count.toNat / 256 % 256 := by
  unfold highByte
  rw [BitVec.toNat_setWidth, BitVec.toNat_ushiftRight, Nat.shiftRight_eq_div_pow]

lemma toNat_ff16 : (0xff : BitVec 16).toNat = 2 ^ 8 - 1 := rfl

lemma toNat_ff32 : (0xff : BitVec 32).toNat = 2 ^ 8 - 1 := rfl

lemma setWidth_byte_inj {a b : BitVec 8} : a.setWidth 32 = b.setWidth 32 ↔ a = b := by
  refine ⟨fun h => ?_, fun h => congrArg _ h⟩
  have hnat := congrArg BitVec.toNat h
  rw [BitVec.toNat_setWidth, BitVec.toNat_setWidth] at hnat
  apply BitVec.eq_of_toNat_eq
  omega

lemma lowByte_setWidth (count : BitVec 32) :
    lowByte ((count.setWidth 16).setWidth 32) = lowByte count := by
  apply BitVec.eq_of_toNat_eq
  rw [toNat_lowByte, toNat_lowByte, BitVec.toNat_setWidth, BitVec.toNat_setWidth]
  omega

lemma highByte_setWidth (count : BitVec 32) :
    highByte ((count.setWidth 16).setWidth 32) = highByte count := by
  apply BitVec.eq_of_toNat_eq
  rw [toNat_highByte, toNat_highByte, BitVec.toNat_setWidth, BitVec.toNat_setWidth]
  omega

lemma lowByte_outlatch (x : BitVec 16) :
    (x &&& 0xff).setWidth 32 = (lowByte (x.setWidth 32)).setWidth 32 := by
  apply BitVec.eq_of_toNat_eq
  rw [BitVec.toNat_setWidth, BitVec.toNat_setWidth, toNat_lowByte, BitVec.toNat_setWidth]
  have hmask : (x &&& 0xff).toNat = x.toNat % 256 := Word.toNat_and_mask toNat_ff16 x
  omega

lemma highByte_outlatch (x : BitVec 16) :
    ((x >>> 8) &&& 0xff).setWidth 32 = (highByte (x.setWidth 32)).setWidth 32 := by
  apply BitVec.eq_of_toNat_eq
  rw [BitVec.toNat_setWidth, BitVec.toNat_setWidth, toNat_highByte, BitVec.toNat_setWidth]
  have hmask : ((x >>> 8) &&& 0xff).toNat = (x >>> 8).toNat % 256 :=
    Word.toNat_and_mask toNat_ff16 _
  rw [BitVec.toNat_ushiftRight, Nat.shiftRight_eq_div_pow] at hmask
  omega

lemma lowByte_count (count : BitVec 32) : count &&& 0xff = (lowByte count).setWidth 32 := by
  apply BitVec.eq_of_toNat_eq
  rw [BitVec.toNat_setWidth, toNat_lowByte]
  have hmask : (count &&& 0xff).toNat = count.toNat % 256 := Word.toNat_and_mask toNat_ff32 count
  omega

lemma highByte_count (count : BitVec 32) :
    (count >>> 8) &&& 0xff = (highByte count).setWidth 32 := by
  apply BitVec.eq_of_toNat_eq
  rw [BitVec.toNat_setWidth, toNat_highByte]
  have hmask : ((count >>> 8) &&& 0xff).toNat = (count >>> 8).toNat % 256 :=
    Word.toNat_and_mask toNat_ff32 _
  rw [BitVec.toNat_ushiftRight, Nat.shiftRight_eq_div_pow] at hmask
  omega

lemma bytes_setWidth (count : BitVec 32) (access : AccessMode) :
    access.bytes ((count.setWidth 16).setWidth 32) = access.bytes count := by
  cases access with
  | low => exact congrArg (fun b => [b]) (lowByte_setWidth count)
  | high => exact congrArg (fun b => [b]) (highByte_setWidth count)
  | lowThenHigh =>
      dsimp only [AccessMode.bytes]
      rw [lowByte_setWidth, highByte_setWidth]

/-! ## Reads -/

section Reads

variable {clock : BitVec 64} {c d : PitCounter} {r : PitReader} {value : BitVec 32}

lemma pitCountAt_eq {count : BitVec 32} (h : pitGetCount clock c = .ok count) :
    pitCountAt clock c = count := by
  unfold pitCountAt
  rw [h]

/-- A latched count pays its next byte. -/
lemma LatchAccount.readLatch {byte : BitVec 8} {bytes : List (BitVec 8)}
    (h : LatchAccount c.countLatched c.outlatch (byte :: bytes)) :
    ∃ countLatched, c.readLatch = (byte.setWidth 32, { c with countLatched := countLatched }) ∧
      LatchAccount countLatched c.outlatch bytes := by
  obtain ⟨-, hnil⟩ | ⟨access, hcode, hbytes⟩ := h
  · cases hnil
  · unfold PitCounter.readLatch
    cases access with
    | low =>
        obtain ⟨rfl, rfl⟩ := List.cons.inj hbytes
        refine ⟨0, ?_, Or.inl ⟨rfl, rfl⟩⟩
        rw [hcode, if_neg (by decide), if_neg (by decide), lowByte_outlatch]
    | high =>
        obtain ⟨rfl, rfl⟩ := List.cons.inj hbytes
        refine ⟨0, ?_, Or.inl ⟨rfl, rfl⟩⟩
        rw [hcode, if_pos (by decide), highByte_outlatch]
    | lowThenHigh =>
        obtain ⟨rfl, rfl⟩ := List.cons.inj hbytes
        refine ⟨rwStateMsb, ?_, Or.inr ⟨.high, rfl, rfl⟩⟩
        rw [hcode, if_neg (by decide), if_pos (by decide), lowByte_outlatch]

/-- The byte of the running count that the counter returns. -/
def PitReader.paidByte (r : PitReader) (count : BitVec 32) : BitVec 8 :=
  match r.access with
  | .low => lowByte count
  | .high => highByte count
  | .lowThenHigh => if r.live = 0 then lowByte count else highByte count

/-- The byte that the counter returns. -/
def PitReader.paid (r : PitReader) (count : BitVec 32) : BitVec 8 :=
  match r.status, r.latched with
  | some status, _ => status
  | none, byte :: _ => byte
  | none, [] => r.paidByte count

/-- Nothing but `readState` changes. -/
lemma PitCounter.with_readState {state : BitVec 8} (h : c.readState = state) :
    { c with readState := state } = c := by
  rw [← h]

lemma PitReader.readState_of_ne (haccess : r.access ≠ .lowThenHigh) :
    r.readState = r.access.code := by
  unfold PitReader.readState
  rw [if_neg fun h => haccess h.1]

lemma PitReader.readState_first (hlive : r.live = 0) : r.readState = r.access.code := by
  unfold PitReader.readState
  rw [if_neg fun h => h.2 hlive]

lemma PitReader.readState_later (haccess : r.access = .lowThenHigh) (hlive : r.live ≠ 0) :
    r.readState = rwStateMsb := by
  unfold PitReader.readState
  rw [if_pos ⟨haccess, hlive⟩]

/-- A read of the running count. -/
lemma PitCounter.Accounts.readCount (h : c.Accounts r) {count : BitVec 32}
    (hcount : pitGetCount clock c = .ok count) :
    c.readCount clock = .ok ((r.paidByte count).setWidth 32,
      { c with readState := PitReader.readState { r with live := r.live + 1 } }) := by
  have hstate := h.readState
  have hsame (hne : r.access ≠ .lowThenHigh) :
      PitReader.readState { r with live := r.live + 1 } = c.readState := by
    rw [hstate, PitReader.readState_of_ne hne, PitReader.readState_of_ne (by exact hne)]
  have hcases : r.access = .low ∨ r.access = .high ∨ r.access = .lowThenHigh := by
    cases r.access <;> decide
  unfold PitCounter.readCount
  rw [hcount, ok_bind, highByte_count, lowByte_count count]
  rcases hcases with haccess | haccess | haccess
  · have hne : r.access ≠ .lowThenHigh := by rw [haccess]; decide
    have hpaid : r.paidByte count = lowByte count := by rw [PitReader.paidByte, haccess]
    rw [hsame hne, hpaid]
    rw [PitReader.readState_of_ne hne, haccess] at hstate
    rw [if_neg (by rw [hstate]; decide), if_neg (by rw [hstate]; decide),
      if_neg (by rw [hstate]; decide)]
    rfl
  · have hne : r.access ≠ .lowThenHigh := by rw [haccess]; decide
    have hpaid : r.paidByte count = highByte count := by rw [PitReader.paidByte, haccess]
    rw [hsame hne, hpaid]
    rw [PitReader.readState_of_ne hne, haccess] at hstate
    have hmsb : c.readState = rwStateMsb := hstate
    rw [if_pos hmsb]
    rfl
  · have hnext : PitReader.readState { r with live := r.live + 1 } = rwStateMsb :=
      PitReader.readState_later haccess (Nat.succ_ne_zero r.live)
    rw [hnext, PitReader.paidByte, haccess]
    dsimp only
    by_cases hlive : r.live = 0
    · rw [PitReader.readState_first hlive, haccess] at hstate
      have hword : c.readState = rwStateWord0 := hstate
      rw [if_neg (by rw [hword]; decide), if_pos hword, if_pos hlive]
      rfl
    · rw [PitReader.readState_later haccess hlive] at hstate
      rw [if_pos hstate, if_neg hlive, PitCounter.with_readState hstate]
      rfl

/-- What a read of a counter does and returns. -/
lemma PitCounter.Accounts.read (h : c.Accounts r) (hread : c.read clock = .ok (value, d)) :
    value = (r.paid (pitCountAt clock c)).setWidth 32 ∧ d.Accounts r.read := by
  have hstatus := h.status
  unfold PitCounter.read at hread
  by_cases hnostatus : c.statusLatched = 0
  · rw [if_pos hnostatus] at hstatus
    rw [if_neg (not_not_intro hnostatus)] at hread
    by_cases hnocount : c.countLatched = 0
    · rw [if_neg (not_not_intro hnocount)] at hread
      have hlatch := h.latch
      rw [hnocount] at hlatch
      have hnil := latchAccount_zero hlatch
      obtain ⟨count, hcount, -⟩ := bind_eq_ok.mp hread
      rw [h.readCount hcount] at hread
      obtain ⟨rfl, rfl⟩ := Prod.mk.inj (Except.ok.inj hread)
      rw [pitCountAt_eq hcount]
      unfold PitReader.paid PitReader.read
      rw [hstatus, hnil]
      refine ⟨rfl, h.mode, rfl, ?_, ?_⟩
      · rw [if_pos hnostatus]
      · exact Or.inl ⟨hnocount, rfl⟩
    · rw [if_pos hnocount] at hread
      have hlatch := h.latch
      cases hlatched : r.latched with
      | nil =>
          obtain ⟨hzero, -⟩ | ⟨access, -, hbytes⟩ := hlatch
          · exact absurd hzero hnocount
          · exact absurd (hbytes.symm.trans hlatched) (access.bytes_ne_nil _)
      | cons byte bytes =>
          rw [hlatched] at hlatch
          obtain ⟨countLatched, hreadLatch, hrest⟩ := hlatch.readLatch
          rw [hreadLatch] at hread
          obtain ⟨rfl, rfl⟩ := Prod.mk.inj (Except.ok.inj hread)
          unfold PitReader.paid PitReader.read
          rw [hstatus, hlatched]
          refine ⟨rfl, h.mode, h.readState, ?_, hrest⟩
          rw [if_pos hnostatus]
  · rw [if_neg hnostatus] at hstatus
    rw [if_pos hnostatus] at hread
    obtain ⟨rfl, rfl⟩ := Prod.mk.inj (Except.ok.inj hread)
    unfold PitReader.paid PitReader.read
    rw [hstatus]
    exact ⟨rfl, h.mode, h.readState, rfl, h.latch⟩

/-- The counter returns the byte that is due, but for every other byte of the running count in
low-then-high mode, which is the high one where the low one is due. -/
lemma PitReader.paid_eq_due_iff (count : BitVec 32) :
    r.paid count = r.due count ↔
      (r.Running → r.access = .lowThenHigh → r.live ≠ 0 → r.live % 2 = 0 →
        lowByte count = highByte count) := by
  unfold PitReader.Running PitReader.paid PitReader.due
  cases r.status with
  | some status => exact iff_of_true rfl fun h => absurd h.1 (by simp)
  | none =>
      cases r.latched with
      | cons byte bytes => exact iff_of_true rfl fun h => absurd h.2 (by simp)
      | nil =>
          dsimp only
          unfold PitReader.paidByte PitReader.liveByte
          cases r.access with
          | low => exact iff_of_true rfl fun _ h => absurd h (by decide)
          | high => exact iff_of_true rfl fun _ h => absurd h (by decide)
          | lowThenHigh =>
              by_cases hlive : r.live = 0
              · simp [hlive]
              · by_cases heven : r.live % 2 = 0
                · simp [hlive, heven, eq_comm]
                · simp [hlive, heven]

end Reads

/-! ## Commands -/

section Commands

variable {clock : BitVec 64} {c d : PitCounter} {r : PitReader} {value : BitVec 32}

lemma PitCounter.Accounts.latchCount (h : c.Accounts r) (hlatch : pitLatchCount clock c = .ok d) :
    d.Accounts (r.latchCount (pitCountAt clock c)) ∧ d.statusLatched = c.statusLatched ∧
      d.statusLatch = c.statusLatch := by
  unfold pitLatchCount at hlatch
  unfold PitReader.latchCount
  by_cases hnocount : c.countLatched = 0
  · rw [if_pos hnocount] at hlatch
    obtain ⟨count, hcount, hrest⟩ := bind_eq_ok.mp hlatch
    obtain rfl := Except.ok.inj hrest
    have haccount := h.latch
    rw [hnocount] at haccount
    rw [if_pos (latchAccount_zero haccount), pitCountAt_eq hcount]
    refine ⟨⟨h.mode, h.readState, h.status, Or.inr ⟨r.access, h.mode, ?_⟩⟩, rfl, rfl⟩
    exact (bytes_setWidth count r.access).symm
  · rw [if_neg hnocount] at hlatch
    obtain rfl := Except.ok.inj hlatch
    have hnonempty : r.latched ≠ [] := by
      obtain ⟨hzero, -⟩ | ⟨access, -, hbytes⟩ := h.latch
      · exact absurd hzero hnocount
      · rw [hbytes]
        exact access.bytes_ne_nil _
    rw [if_neg hnonempty]
    exact ⟨h, rfl, rfl⟩

lemma PitCounter.Accounts.latchStatus (h : c.Accounts r) (hlatch : pitLatchStatus c = .ok d) :
    d.Accounts (r.latchStatus d.statusLatch) := by
  have hstatus := h.status
  unfold pitLatchStatus at hlatch
  unfold PitReader.latchStatus
  by_cases hnostatus : c.statusLatched = 0
  · rw [if_pos hnostatus] at hlatch hstatus
    obtain ⟨out, -, hrest⟩ := bind_eq_ok.mp hlatch
    obtain rfl := Except.ok.inj hrest
    rw [if_pos hstatus]
    exact ⟨h.mode, h.readState, rfl, h.latch⟩
  · rw [if_neg hnostatus] at hlatch hstatus
    obtain rfl := Except.ok.inj hlatch
    rw [if_neg (by rw [hstatus]; exact Option.some_ne_none _)]
    exact h

/-- The read-back command, for a counter that it selects. -/
lemma PitCounter.Accounts.readBack (h : c.Accounts r)
    (hread : pitReadBackCounter clock value c = .ok d) :
    d.Accounts (
      let r := if value &&& 0x20 = 0 then r.latchCount (pitCountAt clock c) else r
      if value &&& 0x10 = 0 then r.latchStatus d.statusLatch else r) := by
  obtain ⟨e, he, hrest⟩ := bind_eq_ok.mp hread
  have haccounts : e.Accounts
      (if value &&& 0x20 = 0 then r.latchCount (pitCountAt clock c) else r) := by
    split_ifs at he ⊢
    · exact (h.latchCount he).1
    · obtain rfl := Except.ok.inj he
      exact h
  dsimp only
  by_cases hvalue : value &&& 0x10 = 0
  · rw [if_pos hvalue]
    by_cases hnostatus : e.statusLatched = 0
    · rw [if_pos ⟨hvalue, hnostatus⟩] at hrest
      exact haccounts.latchStatus hrest
    · rw [if_neg fun hboth => hnostatus hboth.2] at hrest
      obtain rfl := Except.ok.inj hrest
      have hstatus := haccounts.status
      rw [if_neg hnostatus] at hstatus
      unfold PitReader.latchStatus
      rw [if_neg (by rw [hstatus]; exact Option.some_ne_none _)]
      exact haccounts
  · rw [if_neg hvalue]
    rw [if_neg fun hboth => hvalue hboth.1] at hrest
    obtain rfl := Except.ok.inj hrest
    exact haccounts

/-- The access bits of a control word. -/
lemma ofControl_code (value : BitVec 32) :
    match AccessMode.ofControl value with
    | none => ((value >>> 4) &&& 3).setWidth 8 = (0 : BitVec 8)
    | some access => ((value >>> 4) &&& 3).setWidth 8 = access.code := by
  have hcases : ∀ x : BitVec 32, x &&& 3 = 0 ∨ x &&& 3 = 1 ∨ x &&& 3 = 2 ∨ x &&& 3 = 3 := by
    intro x
    have hlt : (x &&& 3).toNat < 4 := by
      rw [BitVec.toNat_and]
      exact Nat.lt_succ_of_le Nat.and_le_right
    bv_omega
  unfold AccessMode.ofControl
  rcases hcases (value >>> 4) with h | h | h | h <;> rw [h] <;> rfl

/-- A control word for the counter. -/
lemma PitCounter.Accounts.control (h : c.Accounts r)
    (hcontrol : pitControlOne clock value c = .ok d) :
    d.Accounts (match AccessMode.ofControl value with
      | none => r.latchCount (pitCountAt clock c)
      | some access => r.program access) := by
  have hcode := ofControl_code value
  unfold pitControlOne at hcontrol
  dsimp only at hcontrol
  cases haccess : AccessMode.ofControl value with
  | none =>
      rw [haccess] at hcode
      rw [if_pos hcode] at hcontrol
      exact (h.latchCount hcontrol).1
  | some access =>
      rw [haccess] at hcode
      have hcode : ((value >>> 4) &&& 3).setWidth 8 = access.code := hcode
      rw [if_neg (by rw [hcode]; exact access.code_ne_zero)] at hcontrol
      obtain rfl := Except.ok.inj hcontrol
      have hstate : (r.program access).readState = access.code := PitReader.readState_first rfl
      exact ⟨hcode, hcode.trans hstate.symm, h.status, h.latch⟩

end Commands

/-! ## What leaves the account alone -/

/-- The fields of a counter that reads rest on. -/
def PitCounter.reading (c : PitCounter) :
    BitVec 8 × BitVec 8 × BitVec 8 × BitVec 8 × BitVec 8 × BitVec 16 :=
  (c.rwMode, c.readState, c.statusLatched, c.statusLatch, c.countLatched, c.outlatch)

lemma PitCounter.Accounts.of_reading {c d : PitCounter} {r : PitReader} (h : c.Accounts r)
    (hsame : d.reading = c.reading) : d.Accounts r := by
  obtain ⟨hmode, hstate, hlatched, hstatus, hcount, hout⟩ :
      d.rwMode = c.rwMode ∧ d.readState = c.readState ∧ d.statusLatched = c.statusLatched ∧
        d.statusLatch = c.statusLatch ∧ d.countLatched = c.countLatched ∧
        d.outlatch = c.outlatch := by
    simpa [PitCounter.reading] using hsame
  refine ⟨hmode.trans h.mode, hstate.trans h.readState, ?_, ?_⟩
  · rw [hlatched, hstatus]
    exact h.status
  · rw [hcount, hout]
    exact h.latch

section Frames

variable {clock : BitVec 64} {channel d : Fin 3} {p q : Pit} {calls : List DeviceCall}
  {value : BitVec 32}

lemma reading_setCounter {c : PitCounter} (hc : c.reading = (p.counter channel).reading) :
    ((p.setCounter channel c).counter d).reading = (p.counter d).reading := by
  rcases eq_or_ne d channel with rfl | hne
  · rw [Pit.counter_setCounter]
    exact hc
  · rw [Pit.counter_setCounter_of_ne hne]

lemma reading_pitIrqTimerUpdate {time : BitVec 64} {timer : Bool}
    (h : pitIrqTimerUpdate channel time timer p = .ok (q, calls)) :
    (q.counter d).reading = (p.counter d).reading := by
  obtain ⟨n, rfl⟩ := pitIrqTimerUpdate_eq_ok h
  exact reading_setCounter rfl

lemma reading_pitLoadCount (h : pitLoadCount clock channel value p = .ok (q, calls)) :
    (q.counter d).reading = (p.counter d).reading := by
  unfold pitLoadCount at h
  exact (reading_pitIrqTimerUpdate h).trans (reading_setCounter rfl)

lemma reading_pitWriteCount (h : pitWriteCount clock channel value p = .ok (q, calls)) :
    (q.counter d).reading = (p.counter d).reading := by
  unfold pitWriteCount at h
  dsimp only at h
  split_ifs at h
  · exact reading_pitLoadCount h
  · obtain ⟨rfl, -⟩ := Prod.mk.inj (Except.ok.inj h)
    exact reading_setCounter rfl
  · obtain ⟨⟨r, loaded⟩, hload, hrest⟩ := bind_eq_ok.mp h
    obtain ⟨rfl, -⟩ := Prod.mk.inj (Except.ok.inj hrest)
    rw [← reading_pitLoadCount hload]
    exact reading_setCounter rfl
  · exact reading_pitLoadCount h

lemma reading_pitSetGate (h : pitSetGate clock channel value p = .ok (q, calls)) :
    (q.counter d).reading = (p.counter d).reading := by
  unfold pitSetGate at h
  dsimp only at h
  split_ifs at h
  · obtain ⟨⟨r, restarted⟩, hrestart, hrest⟩ := bind_eq_ok.mp h
    obtain ⟨rfl, -⟩ := Prod.mk.inj (Except.ok.inj hrest)
    have hbefore : (r.counter d).reading = (p.counter d).reading :=
      (reading_pitIrqTimerUpdate hrestart).trans (reading_setCounter rfl)
    rw [← hbefore]
    exact reading_setCounter rfl
  · obtain ⟨rfl, -⟩ := Prod.mk.inj (Except.ok.inj h)
    exact reading_setCounter rfl

/-- The read-back command acts on each counter by itself. -/
lemma counter_readBack {channels : List (Fin 3)} (hnodup : channels.Nodup)
    (h : channels.foldlM (pitReadBackOne clock value) p = .ok q) :
    (channel ∈ channels → value &&& (2 <<< channel.val) ≠ 0 →
        pitReadBackCounter clock value (p.counter channel) = .ok (q.counter channel)) ∧
      (channel ∉ channels ∨ value &&& (2 <<< channel.val) = 0 →
        q.counter channel = p.counter channel) := by
  induction channels generalizing p with
  | nil =>
      cases h
      exact ⟨fun hmem => absurd hmem List.not_mem_nil, fun _ => rfl⟩
  | cons first rest ih =>
      rw [List.foldlM_cons] at h
      obtain ⟨hnot, hnodup⟩ := List.nodup_cons.mp hnodup
      obtain ⟨u, hu, hrest⟩ := bind_eq_ok.mp h
      obtain ⟨hselected, hother⟩ := ih hnodup hrest
      rw [pitReadBackOne_eq] at hu
      by_cases hfirst : channel = first
      · subst hfirst
        rw [hother (Or.inl hnot)]
        refine ⟨fun _ hvalue => ?_, fun hskip => ?_⟩
        · rw [if_neg hvalue] at hu
          obtain ⟨c, hc, hset⟩ := bind_eq_ok.mp hu
          obtain rfl := Except.ok.inj hset
          rw [hc, Pit.counter_setCounter]
        · have hzero : value &&& (2 <<< channel.val) = 0 :=
            hskip.resolve_left (not_not_intro List.mem_cons_self)
          rw [if_pos hzero] at hu
          rw [← Except.ok.inj hu]
      · have hsame : u.counter channel = p.counter channel := by
          split_ifs at hu
          · rw [← Except.ok.inj hu]
          · obtain ⟨c, -, hset⟩ := bind_eq_ok.mp hu
            obtain rfl := Except.ok.inj hset
            exact Pit.counter_setCounter_of_ne hfirst
        rw [← hsame]
        refine ⟨fun hmem => hselected ((List.mem_cons.mp hmem).resolve_left hfirst),
          fun hskip => ?_⟩
        exact hother (hskip.imp_left fun h hmem => h (List.mem_cons_of_mem _ hmem))

end Frames

/-! ## Runs -/

section Runs

variable {clock : BitVec 64} {channel : Fin 3} {p q : Pit} {r : PitReader}

/-- The selection of a control word, other than the read-back command. -/
lemma pitControlChannel_eq_iff {value : BitVec 32} (hone : (value >>> 6) &&& 3 ≠ 3) :
    (value >>> 6) &&& 3 = BitVec.ofNat 32 channel ↔ channel = pitControlChannel value := by
  have hlt : ((value >>> 6) &&& 3).toNat < 4 := by
    rw [BitVec.toNat_and]
    exact Nat.lt_succ_of_le Nat.and_le_right
  have hcases : (value >>> 6) &&& 3 = 0 ∨ (value >>> 6) &&& 3 = 1 ∨ (value >>> 6) &&& 3 = 2 := by
    bv_omega
  unfold pitControlChannel
  rcases hcases with h | h | h <;> rw [h] <;> revert channel <;> decide

lemma mem_channels : ∀ channel : Fin 3, channel ∈ [(0 : Fin 3), 1, 2] := by
  decide

/-- A word written to the command port. -/
lemma PitCounter.Accounts.command (h : (p.counter channel).Accounts r) {value : BitVec 32}
    {calls : List DeviceCall} (hwrite : pitWriteControl clock value p = .ok (q, calls)) :
    (q.counter channel).Accounts
      (r.command channel value (pitCountAt clock (p.counter channel))
        (q.counter channel).statusLatch) := by
  unfold pitWriteControl at hwrite
  dsimp only at hwrite
  unfold PitReader.command
  by_cases hall : (value >>> 6) &&& 3 = 3
  · rw [if_pos hall] at hwrite ⊢
    obtain ⟨u, hu, hrest⟩ := bind_eq_ok.mp hwrite
    obtain ⟨rfl, -⟩ := Prod.mk.inj (Except.ok.inj hrest)
    obtain ⟨hselected, hother⟩ := @counter_readBack clock channel p u value _ (by decide) hu
    have hmem : channel ∈ [(0 : Fin 3), 1, 2] := mem_channels channel
    by_cases hvalue : value &&& (2 <<< channel.val) = 0
    · rw [if_pos hvalue, hother (Or.inr hvalue)]
      exact h
    · rw [if_neg hvalue]
      exact h.readBack (hselected hmem hvalue)
  · rw [if_neg hall] at hwrite ⊢
    obtain ⟨c, hc, hrest⟩ := bind_eq_ok.mp hwrite
    obtain ⟨rfl, -⟩ := Prod.mk.inj (Except.ok.inj hrest)
    by_cases hchannel : channel = pitControlChannel value
    · rw [if_pos ((pitControlChannel_eq_iff hall).mpr hchannel)]
      have hcounter : (p.setCounter (pitControlChannel value) c).counter channel = c := by
        rw [hchannel]
        exact Pit.counter_setCounter
      have hcontrol : pitControlOne clock value (p.counter channel) = .ok c := by
        rw [hchannel]
        exact hc
      have haccounts := h.control hcontrol
      rw [← hcounter] at haccounts
      exact haccounts
    · rw [if_neg fun hsame => hchannel ((pitControlChannel_eq_iff hall).mp hsame)]
      have hcounter : (p.setCounter (pitControlChannel value) c).counter channel =
          p.counter channel := Pit.counter_setCounter_of_ne hchannel
      rw [← hcounter] at h
      exact h

/-- Every step keeps the account of the channel. -/
lemma PitCounter.Accounts.step (h : (p.counter channel).Accounts r) {a : BitVec 64 × PitOp}
    (hstep : pitStep p a = .ok q) : (q.counter channel).Accounts (r.next channel p q a) := by
  obtain ⟨clock, op⟩ := a
  cases op with
  | write address value =>
      obtain ⟨⟨u, calls⟩, hwrite, hrest⟩ := bind_eq_ok.mp hstep
      obtain rfl := Except.ok.inj hrest
      unfold PitReader.next
      dsimp only
      unfold pitWriteHandler at hwrite
      by_cases hcommand : address = 0x43
      · subst hcommand
        rw [if_neg (by decide), if_pos rfl] at hwrite
        rw [if_pos rfl]
        exact h.command hwrite
      · rw [if_neg hcommand]
        rw [if_neg hcommand] at hwrite
        refine h.of_reading ?_
        split_ifs at hwrite
        · exact reading_pitWriteCount hwrite
        · exact (reading_pitSetGate (d := channel) hwrite).trans rfl
        · obtain ⟨rfl, -⟩ := Prod.mk.inj (Except.ok.inj hwrite)
          rfl
  | read address =>
      obtain ⟨⟨value, u⟩, hread, hrest⟩ := bind_eq_ok.mp hstep
      obtain rfl := Except.ok.inj hrest
      unfold PitReader.next
      dsimp only
      by_cases hgate : address = 0x61
      · rw [if_neg fun hboth => hboth.1 hgate]
        rw [hgate] at hread
        obtain ⟨out, -, hout⟩ := bind_eq_ok.mp hread
        rw [← (Prod.mk.inj (Except.ok.inj hout)).2]
        exact h
      · rw [pitReadHandler_eq hgate] at hread
        obtain ⟨⟨value', c⟩, hc, hset⟩ := bind_eq_ok.mp hread
        obtain ⟨-, rfl⟩ := Prod.mk.inj (Except.ok.inj hset)
        by_cases hport : pitPortChannel address = channel
        · rw [if_pos ⟨hgate, hport⟩]
          rw [hport] at hc ⊢
          rw [Pit.counter_setCounter]
          exact (h.read hc).2
        · rw [if_neg fun hboth => hport hboth.2,
            Pit.counter_setCounter_of_ne fun hsame => hport hsame.symm]
          exact h
  | tick =>
      obtain ⟨⟨u, calls⟩, htick, hrest⟩ := bind_eq_ok.mp hstep
      obtain rfl := Except.ok.inj hrest
      exact h.of_reading (reading_pitIrqTimerUpdate htick)

/-- A read of a channel whose account is right pays what is due exactly if it is in turn. -/
lemma pitPays_iff (hmodes : p.ModesOk) (h : (p.counter channel).Accounts r)
    (a : BitVec 64 × PitOp) : pitPays channel (p, r) a ↔ pitInTurn channel (p, r) a := by
  obtain ⟨clock, op⟩ := a
  cases op with
  | write address value => exact Iff.rfl
  | tick => exact Iff.rfl
  | read address =>
      refine imp_congr_right fun hgate => imp_congr_right fun hport =>
        imp_congr_right fun hcount => ?_
      obtain ⟨⟨value, q⟩, hread⟩ := (@pitReadHandler_ok_iff clock address p hmodes).mpr (by
        unfold Pit.ReadOk
        rw [if_neg hgate, hport]
        exact fun _ _ _ => hcount)
      have hvalue : value = (r.paid (pitCountAt clock (p.counter channel))).setWidth 32 := by
        have heq := hread
        rw [pitReadHandler_eq hgate, hport] at heq
        obtain ⟨⟨value', c⟩, hc, hset⟩ := bind_eq_ok.mp heq
        obtain ⟨rfl, -⟩ := Prod.mk.inj (Except.ok.inj hset)
        exact (h.read hc).1
      refine Iff.trans ?_ (PitReader.paid_eq_due_iff (pitCountAt clock (p.counter channel)))
      dsimp only
      rw [hread]
      constructor
      · rintro ⟨q', hq'⟩
        have hsame := (Prod.mk.inj (Except.ok.inj hq')).1
        rw [hvalue] at hsame
        exact setWidth_byte_inj.mp hsame
      · intro hpaid
        rw [hvalue, hpaid]
        exact ⟨q, rfl⟩

lemma accounts_initial (channel : Fin 3) (timerId : BitVec 32) :
    ((Pit.initial timerId).counter channel).Accounts PitReader.initial := by
  have hreading : ((Pit.initial timerId).counter channel).reading =
      (PitCounter.initial 0).reading := by
    match channel with
    | 0 => rfl
    | 1 => rfl
    | 2 => rfl
  have hstart : (PitCounter.initial 0).Accounts PitReader.initial :=
    { mode := rfl
      readState := rfl
      status := by
        rw [if_pos (by rfl)]
        rfl
      latch := Or.inl ⟨rfl, rfl⟩ }
  exact hstart.of_reading hreading

/-- Along every run from `PitInitialize`, the reads of a channel with a count loaded return what is
due to the guest, exactly if in low-then-high mode the third read of the running count, the fifth
and so on find its two bytes equal. -/
theorem pit_reads_whole_iff (channel : Fin 3) (timerId : BitVec 32)
    (ops : List (BitVec 64 × PitOp)) :
    Meets (pitReaderStep channel) (pitPays channel) (Pit.initial timerId, PitReader.initial) ops ↔
      Meets (pitReaderStep channel) (pitInTurn channel) (Pit.initial timerId, PitReader.initial)
        ops := by
  refine Meets.congr_of_invariant
    (I := fun s => s.1.ModesOk ∧ (s.1.counter channel).Accounts s.2) ?_ ?_
    ⟨modesOk_initial, accounts_initial channel timerId⟩
  · rintro ⟨p, r⟩ a t ⟨hmodes, haccounts⟩ hstep
    obtain ⟨q, hq, hrest⟩ := bind_eq_ok.mp hstep
    obtain rfl := Except.ok.inj hrest
    exact ⟨modesOk_of_pitStep hmodes hq, haccounts.step hq⟩
  · rintro ⟨p, r⟩ a ⟨hmodes, haccounts⟩
    exact pitPays_iff hmodes haccounts a

/-- Counter 0 in mode 0 with the count 0x1234, low then high: a third read at the time of the load
returns the high byte again. -/
theorem pit_reads_high_again :
    ¬ Meets (pitReaderStep 0) (pitPays 0) (Pit.initial 0, PitReader.initial)
      [(0, .write 0x43 0x30), (0, .write 0x40 0x34), (0, .write 0x40 0x12),
        (0, .read 0x40), (0, .read 0x40), (0, .read 0x40)] := by
  decide +kernel

end Runs

end Svmm
