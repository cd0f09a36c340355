import Svmm.Properties.Hpet.Effects

/-!
# The 64-bit registers of the HPET

The main counter, the comparators and the FSB routes are each reached through two 32-bit halves.
Both halves can always be read.  A write is turned away from the high half of a 32-bit comparator,
and from a periodic comparator that `HPET_TIMER_CONF_VALUE_SET` has not opened; a write that is let
through closes it again.
-/

namespace Svmm

open TransitionRun

/-- The 64-bit registers that the guest writes. -/
inductive HpetRegister where
  | counter
  | comparator (i : Fin 3)
  /-- `HPET_TIMER_ROUTE`, which is kept in two fields. -/
  | route (i : Fin 3)
  deriving DecidableEq

/-- The two halves of a word, the low one first. -/
def hpetHalves (x : BitVec 64) : BitVec 32 × BitVec 32 := (x.setWidth 32, (x >>> 32).setWidth 32)

namespace HpetRegister

/-- The place of the low half in the page. -/
def offset : HpetRegister → BitVec 32
  | counter => 0x0f0
  | comparator i => 0x100 + 0x20 * BitVec.ofNat 32 i + 0x08
  | route i => 0x100 + 0x20 * BitVec.ofNat 32 i + 0x10

def halves (h : Hpet) : HpetRegister → BitVec 32 × BitVec 32
  | counter => hpetHalves h.counter
  | comparator i => hpetHalves (h.timer i).comparator
  | route i => ((h.timer i).frontSideBusInterruptValue, (h.timer i).frontSideBusInterruptAddress)

/-- A 4-byte write of the low half, in a page at `base`. -/
def writeLow (clock : BitVec 64) (base : BitVec 32) (r : HpetRegister) (lo : BitVec 32) (h : Hpet) :
    Hpet :=
  (hpetWriteMmioHandler clock (base + r.offset) (lo.setWidth 64) 4 h).1

/-- A 4-byte write of the high half. -/
def writeHigh (clock : BitVec 64) (base : BitVec 32) (r : HpetRegister) (hi : BitVec 32)
    (h : Hpet) : Hpet :=
  (hpetWriteMmioHandler clock (base + r.offset + 4) (hi.setWidth 64) 4 h).1

/-- An 8-byte write. -/
def writeBoth (clock : BitVec 64) (base : BitVec 32) (r : HpetRegister) (lo hi : BitVec 32)
    (h : Hpet) : Hpet :=
  (hpetWriteMmioHandler clock (base + r.offset) (hi.setWidth 64 <<< 32 ||| lo.setWidth 64) 8 h).1

/-- Both halves can be read. -/
def ReadsBack (clock : BitVec 64) (base : BitVec 32) (r : HpetRegister) (h : Hpet) : Prop :=
  hpetReadMmioHandler clock (base + r.offset) 4 h = some (r.halves h).1 ∧
    hpetReadMmioHandler clock (base + r.offset + 4) 4 h = some (r.halves h).2

/-- The halves are independent: each is written on its own, and both in any order or at once, and
read back. -/
def Independent (clock : BitVec 64) (base : BitVec 32) (r : HpetRegister) (lo hi : BitVec 32)
    (h : Hpet) : Prop :=
  r.halves (r.writeLow clock base lo h) = (lo, (r.halves h).2) ∧
    r.halves (r.writeHigh clock base hi h) = ((r.halves h).1, hi) ∧
    r.halves (r.writeHigh clock base hi (r.writeLow clock base lo h)) = (lo, hi) ∧
    r.halves (r.writeLow clock base lo (r.writeHigh clock base hi h)) = (lo, hi) ∧
    r.halves (r.writeBoth clock base lo hi h) = (lo, hi) ∧
    r.ReadsBack clock base h

/-- What the counter and the routes keep of it: all but a write of the low half that is to leave
the high half as it is. -/
def Stored (clock : BitVec 64) (base : BitVec 32) (r : HpetRegister) (lo hi : BitVec 32)
    (h : Hpet) : Prop :=
  (r.halves (r.writeLow clock base lo h)).1 = lo ∧
    r.halves (r.writeHigh clock base hi h) = ((r.halves h).1, hi) ∧
    r.halves (r.writeHigh clock base hi (r.writeLow clock base lo h)) = (lo, hi) ∧
    r.halves (r.writeBoth clock base lo hi h) = (lo, hi)

/-- What a comparator keeps of it: a write reaches it if the timer is not periodic or the
comparator is open, the high half only in 64-bit mode.  Any write but that of the high half in
32-bit mode closes it. -/
def Gated (clock : BitVec 64) (base : BitVec 32) (i : Fin 3) (lo hi : BitVec 32) (h : Hpet) :
    Prop :=
  let b := h.timer i
  let old := halves h (comparator i)
  let low := if !b.periodic || b.valueSet then lo else old.1
  let high := if (!b.periodic || b.valueSet) && !b.timer32bit then hi else old.2
  let highAfterLow := if !b.periodic && !b.timer32bit then hi else old.2
  (comparator i).halves ((comparator i).writeLow clock base lo h) = (low, old.2) ∧
    (comparator i).halves ((comparator i).writeHigh clock base hi h) = (old.1, high) ∧
    (comparator i).halves
        ((comparator i).writeHigh clock base hi ((comparator i).writeLow clock base lo h)) =
      (low, highAfterLow) ∧
    (comparator i).halves
        ((comparator i).writeLow clock base lo ((comparator i).writeHigh clock base hi h)) =
      (if !b.periodic || b.valueSet && b.timer32bit then lo else old.1, high) ∧
    (comparator i).halves ((comparator i).writeBoth clock base lo hi h) = (low, highAfterLow) ∧
    (((comparator i).writeLow clock base lo h).timer i).valueSet = false ∧
    (((comparator i).writeHigh clock base hi h).timer i).valueSet =
      (b.timer32bit && b.valueSet) ∧
    (((comparator i).writeBoth clock base lo hi h).timer i).valueSet = false

end HpetRegister

/-! ## Halves of a word -/

lemma hpetHalves_or_low (x : BitVec 64) (v : BitVec 32) :
    hpetHalves (x &&& 0xffffffff00000000 ||| v.setWidth 64) = (v, (hpetHalves x).2) := by
  have hmask : (0xffffffff00000000 : BitVec 64) = ~~~((BitVec.allOnes 32).setWidth 64) := by decide
  rw [hmask]
  unfold hpetHalves
  refine Prod.ext (Word.ext_has fun i hi => ?_) (Word.ext_has fun i hi => ?_)
  · simp [Word.has_eq_getLsbD, hi]
  · simp only [Word.has_eq_getLsbD, BitVec.getLsbD_setWidth, BitVec.getLsbD_ushiftRight,
      BitVec.getLsbD_or, BitVec.getLsbD_and, BitVec.getLsbD_not, BitVec.getLsbD_allOnes]
    have hhigh : 32 + i < 64 := by omega
    simp [hi, hhigh]

lemma hpetHalves_or_high (x : BitVec 64) (v : BitVec 32) :
    hpetHalves (x &&& (0xffffffff : BitVec 64) ||| v.setWidth 64 <<< 32) =
      ((hpetHalves x).1, v) := by
  have hmask : (0xffffffff : BitVec 64) = (BitVec.allOnes 32).setWidth 64 := by decide
  rw [hmask]
  unfold hpetHalves
  refine Prod.ext (Word.ext_has fun i hi => ?_) (Word.ext_has fun i hi => ?_)
  · simp only [Word.has_eq_getLsbD, BitVec.getLsbD_setWidth, BitVec.getLsbD_shiftLeft,
      BitVec.getLsbD_or, BitVec.getLsbD_and, BitVec.getLsbD_allOnes]
    have hlow : i < 64 := by omega
    simp [hi, hlow]
  · simp only [Word.has_eq_getLsbD, BitVec.getLsbD_setWidth, BitVec.getLsbD_ushiftRight,
      BitVec.getLsbD_shiftLeft, BitVec.getLsbD_or, BitVec.getLsbD_and, BitVec.getLsbD_allOnes]
    have hhigh : 32 + i < 64 := by omega
    have hnot : ¬32 + i < 32 := by omega
    have hlow : i < 64 := by omega
    simp [hi, hhigh, hnot, hlow]

lemma hpetHalves_or (lo hi : BitVec 32) :
    hpetHalves (hi.setWidth 64 <<< 32 ||| lo.setWidth 64) = (lo, hi) := by
  unfold hpetHalves
  refine Prod.ext (Word.ext_has fun i hi => ?_) (Word.ext_has fun i hi => ?_)
  · simp only [Word.has_eq_getLsbD, BitVec.getLsbD_setWidth, BitVec.getLsbD_shiftLeft,
      BitVec.getLsbD_or]
    have hlow : i < 64 := by omega
    simp [hi, hlow]
  · simp only [Word.has_eq_getLsbD, BitVec.getLsbD_setWidth, BitVec.getLsbD_ushiftRight,
      BitVec.getLsbD_shiftLeft, BitVec.getLsbD_or]
    have hhigh : 32 + i < 64 := by omega
    have hnot : ¬32 + i < 32 := by omega
    have hlow : i < 64 := by omega
    simp [hi, hhigh, hnot, hlow]

/-! ## The places of the registers -/

/-- A page that is a multiple of 1024 does not touch the index. -/
lemma index_of_base {base k : BitVec 32} (hbase : base &&& 0x3ff = 0) (hk : k.toNat < 0x400) :
    (base + k) &&& 0x3ff = k := by
  have hmask : ∀ x : BitVec 32, (x &&& 0x3ff).toNat = x.toNat % 0x400 :=
    Word.toNat_and_mask (show (0x3ff : BitVec 32).toNat = 2 ^ 10 - 1 from rfl)
  have hzero : base.toNat % 0x400 = 0 := by
    rw [← hmask, hbase]
    rfl
  apply BitVec.eq_of_toNat_eq
  rw [hmask, BitVec.toNat_add]
  omega

/-- The index of a register of a timer. -/
lemma hpetTimerIndex_eq (i : Fin 3) : ∀ k : Fin 32,
    (0x100 + 0x20 * BitVec.ofNat 32 i + BitVec.ofNat 32 k).toNat < 0x400 ∧
      ¬(0x100 + 0x20 * BitVec.ofNat 32 i + BitVec.ofNat 32 k).toNat < 0x100 ∧
      hpetTimerIndex (0x100 + 0x20 * BitVec.ofNat 32 i + BitVec.ofNat 32 k) = some i ∧
      (0x100 + 0x20 * BitVec.ofNat 32 i + BitVec.ofNat 32 k) &&& 0x1f = BitVec.ofNat 32 k := by
  revert i
  decide

/-- An access to a register of a timer is one to its `switch`. -/
lemma hpetWrite_timer {base : BitVec 32} (hbase : base &&& 0x3ff = 0) (clock : BitVec 64)
    (i : Fin 3) (k : Fin 32) (value : BitVec 32) (h : Hpet) :
    hpetWrite clock (base + (0x100 + 0x20 * BitVec.ofNat 32 i + BitVec.ofNat 32 k)) value h =
      hpetWriteTimer clock i (BitVec.ofNat 32 k) value h := by
  obtain ⟨hpage, htimer, hindex, hregister⟩ := hpetTimerIndex_eq i k
  unfold hpetWrite
  rw [index_of_base hbase hpage]
  dsimp only
  rw [if_neg htimer, hindex, hregister]

lemma hpetRead_timer {base : BitVec 32} (hbase : base &&& 0x3ff = 0) (clock : BitVec 64)
    (i : Fin 3) (k : Fin 32) (h : Hpet) :
    hpetRead clock (base + (0x100 + 0x20 * BitVec.ofNat 32 i + BitVec.ofNat 32 k)) h =
      some (hpetReadTimer (BitVec.ofNat 32 k) (h.timer i)) := by
  obtain ⟨hpage, htimer, hindex, hregister⟩ := hpetTimerIndex_eq i k
  unfold hpetRead
  rw [index_of_base hbase hpage]
  dsimp only
  rw [if_neg htimer, hindex, hregister]
  rfl

lemma comparator_high_offset (i : Fin 3) : (HpetRegister.comparator i).offset + 4 =
    0x100 + 0x20 * BitVec.ofNat 32 i + BitVec.ofNat 32 (12 : Fin 32) := by
  revert i
  decide

lemma route_high_offset (i : Fin 3) : (HpetRegister.route i).offset + 4 =
    0x100 + 0x20 * BitVec.ofNat 32 i + BitVec.ofNat 32 (20 : Fin 32) := by
  revert i
  decide

/-! ## One access -/

section Accesses

open HpetRegister

variable {base : BitVec 32} (hbase : base &&& 0x3ff = 0) (clock : BitVec 64) (i : Fin 3)
  (v : BitVec 32) (h : Hpet)

include hbase

lemma writeLow_counter : counter.writeLow clock base v h = hpetWriteCounterLow v h := by
  have hindex : (base + 0x0f0) &&& 0x3ff = 0x0f0 := index_of_base hbase (by decide)
  unfold writeLow hpetWriteMmioHandler hpetWrite
  dsimp only [HpetRegister.offset]
  rw [hindex]
  simp

lemma writeHigh_counter : counter.writeHigh clock base v h = hpetWriteCounterHigh v h := by
  have hindex : (base + 0x0f0 + 4) &&& 0x3ff = 0x0f4 := by
    rw [BitVec.add_assoc]
    exact index_of_base hbase (by decide)
  unfold writeHigh hpetWriteMmioHandler hpetWrite
  dsimp only [HpetRegister.offset]
  rw [hindex]
  simp

lemma writeLow_timer {r : HpetRegister} {k : Fin 32}
    (hr : r.offset = 0x100 + 0x20 * BitVec.ofNat 32 i + BitVec.ofNat 32 k) :
    r.writeLow clock base v h = (hpetWriteTimer clock i (BitVec.ofNat 32 k) v h).1 := by
  unfold writeLow hpetWriteMmioHandler
  rw [if_pos rfl, Word.setWidth_setWidth_eq (by decide), hr,
    hpetWrite_timer hbase]

lemma writeHigh_timer {r : HpetRegister} {k : Fin 32}
    (hr : r.offset + 4 = 0x100 + 0x20 * BitVec.ofNat 32 i + BitVec.ofNat 32 k) :
    r.writeHigh clock base v h = (hpetWriteTimer clock i (BitVec.ofNat 32 k) v h).1 := by
  unfold writeHigh hpetWriteMmioHandler
  rw [if_pos rfl, Word.setWidth_setWidth_eq (by decide),
    BitVec.add_assoc, hr, hpetWrite_timer hbase]

lemma writeLow_comparator :
    (comparator i).writeLow clock base v h =
      (hpetWriteComparator clock i
        (fun x => x &&& 0xffffffff00000000 ||| v.setWidth 64) h).1 := by
  have hoffset : (comparator i).offset =
      0x100 + 0x20 * BitVec.ofNat 32 i + BitVec.ofNat 32 (8 : Fin 32) := rfl
  rw [writeLow_timer hbase clock i v h hoffset]
  rfl

/-- In 32-bit mode a write of the high half does nothing. -/
lemma writeHigh_comparator_narrow (hnarrow : (h.timer i).timer32bit = true) :
    (comparator i).writeHigh clock base v h = h := by
  rw [writeHigh_timer hbase clock i v h (comparator_high_offset i)]
  unfold hpetWriteTimer
  dsimp only
  rw [hnarrow]
  rfl

lemma writeHigh_comparator (hwide : (h.timer i).timer32bit = false) :
    (comparator i).writeHigh clock base v h =
      (hpetWriteComparator clock i
        (fun x => x &&& (0xffffffff : BitVec 64) ||| v.setWidth 64 <<< 32) h).1 := by
  rw [writeHigh_timer hbase clock i v h (comparator_high_offset i)]
  unfold hpetWriteTimer
  dsimp only
  rw [hwide]
  rfl

/-- The write of the low half writes the value to the high half too. -/
lemma writeLow_route :
    (route i).writeLow clock base v h =
      h.setTimer i
        { h.timer i with frontSideBusInterruptValue := v, frontSideBusInterruptAddress := v } := by
  have hoffset : (route i).offset =
      0x100 + 0x20 * BitVec.ofNat 32 i + BitVec.ofNat 32 (16 : Fin 32) := rfl
  rw [writeLow_timer hbase clock i v h hoffset]
  rfl

lemma writeHigh_route :
    (route i).writeHigh clock base v h =
      h.setTimer i { h.timer i with frontSideBusInterruptAddress := v } := by
  rw [writeHigh_timer hbase clock i v h (route_high_offset i)]
  rfl

end Accesses

open HpetRegister

/-- An 8-byte write is a write of the low half and then of the high one. -/
lemma writeBoth_eq (clock : BitVec 64) (base : BitVec 32) (r : HpetRegister) (lo hi : BitVec 32)
    (h : Hpet) : r.writeBoth clock base lo hi h =
      r.writeHigh clock base hi (r.writeLow clock base lo h) := by
  obtain ⟨hlo, hhi⟩ := Prod.mk.inj (hpetHalves_or lo hi)
  unfold writeBoth writeHigh writeLow hpetWriteMmioHandler
  rw [if_neg (by decide), if_pos rfl, if_pos rfl, if_pos rfl]
  dsimp only
  rw [hlo, hhi, Word.setWidth_setWidth_eq (by decide),
    Word.setWidth_setWidth_eq (by decide)]

/-! ## The counter -/

lemma hpetWriteCounterHigh_of_halted {h : Hpet} (hhalted : h.enabled = false) (v : BitVec 32) :
    hpetHalves (hpetWriteCounterHigh v h).counter = ((hpetHalves h.counter).1, v) := by
  unfold hpetWriteCounterHigh
  rw [hhalted]
  exact hpetHalves_or_high h.counter v

/-- The write of the low half writes the value to the high half too. -/
lemma hpetWriteCounterLow_of_halted {h : Hpet} (hhalted : h.enabled = false) (v : BitVec 32) :
    hpetHalves (hpetWriteCounterLow v h).counter = (v, v) ∧
      (hpetWriteCounterLow v h).enabled = false := by
  have hstep : hpetWriteCounterLow v h = hpetWriteCounterHigh v
      (h.setCounter (h.counter &&& 0xffffffff00000000 ||| v.setWidth 64)) := by
    unfold hpetWriteCounterLow
    rw [hhalted]
    rfl
  constructor
  · have hset : (h.setCounter (h.counter &&& 0xffffffff00000000 ||| v.setWidth 64)).enabled =
        false := hhalted
    rw [hstep, hpetWriteCounterHigh_of_halted hset]
    have hlow := congrArg Prod.fst (hpetHalves_or_low h.counter v)
    exact Prod.ext hlow rfl
  · rw [hstep]
    unfold hpetWriteCounterHigh
    split_ifs
    · exact hhalted
    · exact hhalted

/-! ## A comparator -/

lemma timer_hpetWriteComparator (clock : BitVec 64) (i : Fin 3) (half : BitVec 64 → BitVec 64)
    (h : Hpet) :
    ((hpetWriteComparator clock i half h).1.timer i).comparator =
        (if !(h.timer i).periodic || (h.timer i).valueSet then half (h.timer i).comparator
        else (h.timer i).comparator) ∧
      ((hpetWriteComparator clock i half h).1.timer i).periodic = (h.timer i).periodic ∧
      ((hpetWriteComparator clock i half h).1.timer i).timer32bit = (h.timer i).timer32bit ∧
      ((hpetWriteComparator clock i half h).1.timer i).valueSet = false := by
  unfold hpetWriteComparator
  dsimp only
  rw [Hpet.timer_setTimer_self]
  refine ⟨rfl, ?_, ?_, ?_⟩
  · unfold HpetTimer.periodic
    rw [Word.has_clear]
    simp [hpetTimerConfValueSet, hpetTimerConfPeriodicEnabled]
  · unfold HpetTimer.timer32bit
    rw [Word.has_clear]
    simp [hpetTimerConfValueSet, hpetTimerConfTimer32bit]
  · unfold HpetTimer.valueSet
    rw [Word.has_clear]
    simp

section Comparator

variable {base : BitVec 32} (hbase : base &&& 0x3ff = 0) (clock : BitVec 64) (i : Fin 3)
  (v : BitVec 32) (h : Hpet)

include hbase

/-- A write of the low half reaches an open comparator, and closes it. -/
lemma comparator_writeLow :
    (comparator i).halves ((comparator i).writeLow clock base v h) =
        (if !(h.timer i).periodic || (h.timer i).valueSet then v
          else ((comparator i).halves h).1, ((comparator i).halves h).2) ∧
      (((comparator i).writeLow clock base v h).timer i).periodic = (h.timer i).periodic ∧
      (((comparator i).writeLow clock base v h).timer i).timer32bit = (h.timer i).timer32bit ∧
      (((comparator i).writeLow clock base v h).timer i).valueSet = false := by
  rw [writeLow_comparator hbase]
  obtain ⟨hcomparator, hflags⟩ := timer_hpetWriteComparator clock i
    (fun x => x &&& 0xffffffff00000000 ||| v.setWidth 64) h
  refine ⟨?_, hflags⟩
  unfold HpetRegister.halves
  refine (congrArg hpetHalves hcomparator).trans ?_
  split_ifs
  · exact hpetHalves_or_low (h.timer i).comparator v
  · rfl

/-- So does one of the high half, in 64-bit mode. -/
lemma comparator_writeHigh (hwide : (h.timer i).timer32bit = false) :
    (comparator i).halves ((comparator i).writeHigh clock base v h) =
        (((comparator i).halves h).1,
          if !(h.timer i).periodic || (h.timer i).valueSet then v
          else ((comparator i).halves h).2) ∧
      (((comparator i).writeHigh clock base v h).timer i).periodic = (h.timer i).periodic ∧
      (((comparator i).writeHigh clock base v h).timer i).timer32bit = (h.timer i).timer32bit ∧
      (((comparator i).writeHigh clock base v h).timer i).valueSet = false := by
  rw [writeHigh_comparator hbase clock i v h hwide]
  obtain ⟨hcomparator, hflags⟩ := timer_hpetWriteComparator clock i
    (fun x => x &&& (0xffffffff : BitVec 64) ||| v.setWidth 64 <<< 32) h
  refine ⟨?_, hflags⟩
  unfold HpetRegister.halves
  refine (congrArg hpetHalves hcomparator).trans ?_
  split_ifs
  · exact hpetHalves_or_high (h.timer i).comparator v
  · rfl

lemma comparator_gated (lo hi : BitVec 32) : Gated clock base i lo hi h := by
  obtain ⟨hlow, hperiodic, hnarrow, hclosed⟩ := comparator_writeLow hbase clock i lo h
  unfold Gated
  dsimp only
  rw [writeBoth_eq]
  cases hmode : (h.timer i).timer32bit with
  | true =>
      rw [hmode] at hnarrow
      rw [writeHigh_comparator_narrow hbase clock i hi h hmode,
        writeHigh_comparator_narrow hbase clock i hi _ hnarrow, hlow, hclosed]
      simp
  | false =>
      rw [hmode] at hnarrow
      obtain ⟨hhigh, hperiodic', hwide', hclosed'⟩ :=
        comparator_writeHigh hbase clock i hi h hmode
      obtain ⟨hlowHigh, -, -, hclosedBoth⟩ := comparator_writeHigh hbase clock i hi _ hnarrow
      obtain ⟨hhighLow, -⟩ := comparator_writeLow hbase clock i lo
        ((comparator i).writeHigh clock base hi h)
      rw [hperiodic, hclosed, hlow] at hlowHigh
      rw [hperiodic', hclosed', hhigh] at hhighLow
      rw [hlow, hhigh, hlowHigh, hhighLow, hclosed, hclosed', hclosedBoth]
      simp

end Comparator

/-! ## The other registers -/

/-- Rewriting a timer does not touch the registers that it leaves. -/
lemma halves_setTimer {r : HpetRegister} {i : Fin 3} {b : HpetTimer} {h : Hpet}
    (hcomparator : r = comparator i → b.comparator = (h.timer i).comparator)
    (hroute : r = route i → b.frontSideBusInterruptValue = (h.timer i).frontSideBusInterruptValue ∧
      b.frontSideBusInterruptAddress = (h.timer i).frontSideBusInterruptAddress) :
    r.halves (h.setTimer i b) = r.halves h := by
  cases r with
  | counter => rfl
  | comparator j =>
      unfold HpetRegister.halves
      dsimp only
      by_cases hj : j = i
      · subst hj
        rw [Hpet.timer_setTimer_self, hcomparator rfl]
      · rw [Hpet.timer_setTimer_of_ne hj]
  | route j =>
      unfold HpetRegister.halves
      dsimp only
      by_cases hj : j = i
      · subst hj
        rw [Hpet.timer_setTimer_self, (hroute rfl).1, (hroute rfl).2]
      · rw [Hpet.timer_setTimer_of_ne hj]

lemma halves_hpetWriteCounterHigh {r : HpetRegister} (hne : r ≠ counter) (v : BitVec 32)
    (h : Hpet) : r.halves (hpetWriteCounterHigh v h) = r.halves h := by
  unfold hpetWriteCounterHigh
  split_ifs
  · rfl
  · cases r with
    | counter => exact absurd rfl hne
    | comparator j => rfl
    | route j => rfl

lemma halves_hpetWriteCounterLow {r : HpetRegister} (hne : r ≠ counter) (v : BitVec 32)
    (h : Hpet) : r.halves (hpetWriteCounterLow v h) = r.halves h := by
  unfold hpetWriteCounterLow
  rw [halves_hpetWriteCounterHigh hne]
  split_ifs
  · rfl
  · cases r with
    | counter => exact absurd rfl hne
    | comparator j => rfl
    | route j => rfl

lemma halves_hpetWriteComparator {r : HpetRegister} {i : Fin 3} (hne : r ≠ comparator i)
    (clock : BitVec 64) (half : BitVec 64 → BitVec 64) (h : Hpet) :
    r.halves (hpetWriteComparator clock i half h).1 = r.halves h :=
  halves_setTimer (fun hr => absurd hr hne) fun _ => ⟨rfl, rfl⟩

section Frame

variable {base : BitVec 32} (hbase : base &&& 0x3ff = 0) (clock : BitVec 64) (v : BitVec 32)
  (h : Hpet)

include hbase

lemma halves_writeLow {r r' : HpetRegister} (hne : r' ≠ r) :
    r'.halves (r.writeLow clock base v h) = r'.halves h := by
  cases r with
  | counter =>
      rw [writeLow_counter hbase]
      exact halves_hpetWriteCounterLow hne v h
  | comparator i =>
      rw [writeLow_comparator hbase]
      exact halves_hpetWriteComparator hne clock _ h
  | route i =>
      rw [writeLow_route hbase]
      exact halves_setTimer (fun _ => rfl) fun hr => absurd hr hne

lemma halves_writeHigh {r r' : HpetRegister} (hne : r' ≠ r) :
    r'.halves (r.writeHigh clock base v h) = r'.halves h := by
  cases r with
  | counter =>
      rw [writeHigh_counter hbase]
      exact halves_hpetWriteCounterHigh hne v h
  | comparator i =>
      cases hmode : (h.timer i).timer32bit with
      | true => rw [writeHigh_comparator_narrow hbase clock i v h hmode]
      | false =>
          rw [writeHigh_comparator hbase clock i v h hmode]
          exact halves_hpetWriteComparator hne clock _ h
  | route i =>
      rw [writeHigh_route hbase]
      exact halves_setTimer (fun _ => rfl) fun hr => absurd hr hne

lemma readsBack (r : HpetRegister) (hhalted : h.enabled = false) : r.ReadsBack clock base h := by
  unfold HpetRegister.ReadsBack hpetReadMmioHandler
  rw [if_neg (by decide), if_neg (by decide), if_pos rfl, if_neg (by decide), if_neg (by decide),
    if_pos rfl, BitVec.add_assoc]
  cases r with
  | counter =>
      have hlow : (base + 0x0f0) &&& 0x3ff = 0x0f0 := index_of_base hbase (by decide)
      have hhigh : (base + (0x0f0 + 4)) &&& 0x3ff = 0x0f4 := index_of_base hbase (by decide)
      unfold hpetRead Hpet.visibleCounter
      dsimp only [HpetRegister.offset, HpetRegister.halves]
      rw [hlow, hhigh, hhalted]
      exact ⟨rfl, rfl⟩
  | comparator i =>
      refine ⟨hpetRead_timer hbase clock i 8 h, ?_⟩
      rw [comparator_high_offset]
      exact hpetRead_timer hbase clock i 12 h
  | route i =>
      refine ⟨hpetRead_timer hbase clock i 16 h, ?_⟩
      rw [route_high_offset]
      exact hpetRead_timer hbase clock i 20 h

end Frame

section Stored

variable {base : BitVec 32} (hbase : base &&& 0x3ff = 0) (clock : BitVec 64) (lo hi : BitVec 32)
  (h : Hpet)

include hbase

lemma counter_stored (hhalted : h.enabled = false) : counter.Stored clock base lo hi h := by
  obtain ⟨hlow, hstill⟩ := hpetWriteCounterLow_of_halted hhalted lo
  have hlowHigh := hpetWriteCounterHigh_of_halted hstill hi
  rw [hlow] at hlowHigh
  unfold HpetRegister.Stored
  rw [writeBoth_eq, writeLow_counter hbase, writeHigh_counter hbase, writeHigh_counter hbase]
  exact ⟨congrArg Prod.fst hlow, hpetWriteCounterHigh_of_halted hhalted hi, hlowHigh, hlowHigh⟩

lemma route_stored (i : Fin 3) : (route i).Stored clock base lo hi h := by
  unfold HpetRegister.Stored
  rw [writeBoth_eq, writeLow_route hbase, writeHigh_route hbase, writeHigh_route hbase]
  unfold HpetRegister.halves
  simp only [Hpet.timer_setTimer_self, and_self]

end Stored

/-- While the HPET is halted, both halves of each of its registers can be read, and a write of
either touches no other register.  The counter and the routes take the high half on its own, and
both halves from the low one on or at once.  A comparator takes a half if the timer is not periodic
or the comparator is open, and the high half in 64-bit mode only; any write but that of the high
half in 32-bit mode closes it. -/
theorem hpet_register_halves {base : BitVec 32} (hbase : base &&& 0x3ff = 0) (clock : BitVec 64)
    {h : Hpet} (hhalted : h.enabled = false) (lo hi : BitVec 32) :
    (∀ r : HpetRegister, r.ReadsBack clock base h) ∧
      (∀ r r' : HpetRegister, r' ≠ r →
        r'.halves (r.writeLow clock base lo h) = r'.halves h ∧
          r'.halves (r.writeHigh clock base hi h) = r'.halves h) ∧
      counter.Stored clock base lo hi h ∧
      (∀ i, (route i).Stored clock base lo hi h) ∧
      ∀ i, Gated clock base i lo hi h := by
  refine ⟨fun r => readsBack hbase clock h r hhalted, fun r r' hne => ?_,
    counter_stored hbase clock lo hi h hhalted, route_stored hbase clock lo hi h,
    fun i => comparator_gated hbase clock i h lo hi⟩
  exact ⟨halves_writeLow hbase clock lo h hne, halves_writeHigh hbase clock hi h hne⟩

/-- A running guest finds the HPET at this base. -/
theorem hpet_register_halves_at_reset :
    (∀ r : HpetRegister, r.ReadsBack 0 0xfed00000 (Hpet.initial fun _ => 0)) ∧
      (∀ r r' : HpetRegister, r' ≠ r →
        r'.halves (r.writeLow 0 0xfed00000 1 (Hpet.initial fun _ => 0)) =
            r'.halves (Hpet.initial fun _ => 0) ∧
          r'.halves (r.writeHigh 0 0xfed00000 2 (Hpet.initial fun _ => 0)) =
            r'.halves (Hpet.initial fun _ => 0)) ∧
      counter.Stored 0 0xfed00000 1 2 (Hpet.initial fun _ => 0) ∧
      (∀ i, (route i).Stored 0 0xfed00000 1 2 (Hpet.initial fun _ => 0)) ∧
      ∀ i, Gated 0 0xfed00000 i 1 2 (Hpet.initial fun _ => 0) :=
  hpet_register_halves (by decide) 0 (by decide) 1 2

instance (clock : BitVec 64) (base : BitVec 32) (r : HpetRegister) (h : Hpet) :
    Decidable (r.ReadsBack clock base h) := inferInstanceAs (Decidable (_ ∧ _))

instance (clock : BitVec 64) (base : BitVec 32) (r : HpetRegister) (lo hi : BitVec 32) (h : Hpet) :
    Decidable (r.Independent clock base lo hi h) := inferInstanceAs (Decidable (_ ∧ _))

/-- The halves of a 32-bit comparator, of a periodic one, and of the counter are not independent. -/
theorem hpet_halves_depend :
    (∃ h, run hpetStep (Hpet.initial fun _ => 0) [(0, .write 0x100 0x100 4)] = .ok h ∧
        h.enabled = false ∧ ¬(comparator 0).Independent 0 0xfed00000 1 2 h) ∧
      (∃ h, run hpetStep (Hpet.initial fun _ => 0) [(0, .write 0x100 0x08 4)] = .ok h ∧
        h.enabled = false ∧ ¬(comparator 0).Independent 0 0xfed00000 1 2 h) ∧
      ∃ h, run hpetStep (Hpet.initial fun _ => 0) [] = .ok h ∧
        h.enabled = false ∧ ¬counter.Independent 0 0xfed00000 1 2 h :=
  ⟨exists_of_ends (fun h => h.enabled = false ∧ ¬(comparator 0).Independent 0 0xfed00000 1 2 h)
      (by decide),
    exists_of_ends (fun h => h.enabled = false ∧ ¬(comparator 0).Independent 0 0xfed00000 1 2 h)
      (by decide),
    exists_of_ends (fun h => h.enabled = false ∧ ¬counter.Independent 0 0xfed00000 1 2 h)
      (by decide)⟩

end Svmm
