import Mathlib.Tactic.Common
import Mathlib.Order.Basic
import Mathlib.Tactic.IntervalCases
import Svmm.Framework.Run
import Svmm.Construction.GvmMemory

/-!
# Which slot a memory request changes

A request names a range; the driver can only be given whole slots.  In a sorted table of disjoint
slots the first slot that ends after the start of the range is the only one that can hold it, and
the search ends at it or, when it does not hold the range, at one of its neighbours.  What the
request then does to the guest's memory is right only where a whole slot is what was asked for, and
harmless only where the slot was in that state already.
-/

namespace Svmm

open Bisection TransitionRun

namespace UserspaceMemoryRegion

/-- The first address after the slot. -/
def stop (r : UserspaceMemoryRegion) : ℕ := r.guestPhysAddr.toNat + r.memorySize.toNat

/-- The guest-physical address is mapped to the host address by a slot that the driver holds. -/
def MapsTo (o : Option UserspaceMemoryRegion) (gpa host : BitVec 64) : Prop :=
  ∃ r, o = some r ∧ r.Contains gpa ∧ host = r.userspaceAddr + (gpa - r.guestPhysAddr)

end UserspaceMemoryRegion

open UserspaceMemoryRegion

/-- A call of `gvm_unmap_memory` or `gvm_map_memory`. -/
inductive MemoryRequest where
  | unmap (address : BitVec 32) (size : BitVec 64)
  | map (address size : BitVec 32) (ram : BitVec 64)

namespace MemoryRequest

def address : MemoryRequest → BitVec 32
  | unmap a _ => a
  | map a _ _ => a

def size : MemoryRequest → ℕ
  | unmap _ n => n.toNat
  | map _ n _ => n.toNat

/-- The end of the range as the function computes it. -/
def stop : MemoryRequest → BitVec 64
  | unmap a n => a.setWidth 64 + n
  | map a n _ => (a + n).setWidth 64

def perform (answer : Bool) (s : GvmMemory) : MemoryRequest → Except Unit GvmMemory
  | unmap a n => s.gvmUnmapMemory answer a n
  | map a n ram => s.gvmMapMemory answer a n ram

/-- The address is in the range. -/
def InRange (q : MemoryRequest) (gpa : BitVec 64) : Prop :=
  q.address.toNat ≤ gpa.toNat ∧ gpa.toNat < q.address.toNat + q.size

/-- The slot contains the whole range. -/
def Within (q : MemoryRequest) (r : UserspaceMemoryRegion) : Prop :=
  r.guestPhysAddr.toNat ≤ q.address.toNat ∧ q.address.toNat < r.stop ∧
    q.address.toNat + q.size ≤ r.stop

instance (q : MemoryRequest) (r : UserspaceMemoryRegion) : Decidable (q.Within r) :=
  inferInstanceAs (Decidable (_ ∧ _ ∧ _))

/-- What the slot that held the range has to map afterwards: the range is gone, or is where `ram`
is, and the rest is as before. -/
def After (o : Option UserspaceMemoryRegion) (gpa host : BitVec 64) : MemoryRequest → Prop
  | q@(unmap _ _) => MapsTo o gpa host ∧ ¬ q.InRange gpa
  | q@(map a _ ram) =>
      (q.InRange gpa → host = ram + (gpa - a.setWidth 64)) ∧ (¬ q.InRange gpa → MapsTo o gpa host)

end MemoryRequest

namespace GvmMemory

/-- The table is sorted and its slots are disjoint, entry `i` is slot `i`, and the driver holds what
the entry says or, where the slot was made MMIO, nothing. -/
structure WellFormed (s : GvmMemory) : Prop where
  num_le : s.memSlotsNum ≤ 256
  sorted : ∀ i j, i < j → j < s.memSlotsNum →
    (s.memSlots i).stop ≤ (s.memSlots j).guestPhysAddr.toNat
  fits : ∀ i < s.memSlotsNum, (s.memSlots i).stop < 2 ^ 64
  slot_eq : ∀ i < s.memSlotsNum, (s.memSlots i).slot = BitVec.ofNat 32 i
  driver_eq : ∀ i < s.memSlotsNum, s.driver (s.memSlots i).slot = none ∨
    s.driver (s.memSlots i).slot = (s.memSlots i).installed

/-- Only slot `j` changed, and to what the request asks for. -/
structure ChangesSlot (s t : GvmMemory) (q : MemoryRequest) (j : ℕ) : Prop where
  memSlotsNum_eq : t.memSlotsNum = s.memSlotsNum
  memSlots_eq : ∀ i, i ≠ j → t.memSlots i = s.memSlots i
  driver_eq : ∀ id, id ≠ (s.memSlots j).slot → t.driver id = s.driver id
  mapsTo : ∀ gpa host, MapsTo (t.driver (s.memSlots j).slot) gpa host ↔
    q.After (s.driver (s.memSlots j).slot) gpa host

/-- The request reads entries of the table only, changes the slot that contains the range as it asks
for, and changes nothing when there is none. -/
structure HitsRightSlot (s : GvmMemory) (q : MemoryRequest) : Prop where
  probes_lt : ∀ i ∈ s.probes q.address q.stop, i < s.memSlotsNum
  inside : ∀ j < s.memSlotsNum, q.Within (s.memSlots j) →
    ∀ answer t, q.perform answer s = .ok t → s.ChangesSlot t q j
  outside : (∀ j < s.memSlotsNum, ¬ q.Within (s.memSlots j)) →
    ∀ answer t, q.perform answer s = .ok t → t = s

/-- The first slot that ends after the start of the range. -/
structure FirstAfter (s : GvmMemory) (q : MemoryRequest) (k : ℕ) : Prop where
  lt : k < s.memSlotsNum
  before : ∀ i < k, (s.memSlots i).stop ≤ q.address.toNat
  after : q.address.toNat < (s.memSlots k).stop

/-- The entry that a request with the first slot `k` uses: slot `k` where the tests of the loop
accept it, otherwise the neighbour of the gap before `k` that bisection meets last. -/
def landing (s : GvmMemory) (q : MemoryRequest) (k : ℕ) : ℕ :=
  if (s.memSlots k).compare q.address q.stop = .eq then k else gapProbe s.memSlotsNum k

end GvmMemory

namespace MemoryRequest

/-- `gvm_unmap_memory` returns without a call when the slot does not touch the start of the
range. -/
def Passes (a : BitVec 32) (r : UserspaceMemoryRegion) : Prop :=
  r.guestPhysAddr > a.setWidth 64 ∨ r.guestPhysAddr + r.memorySize < a.setWidth 64

instance (a : BitVec 32) (r : UserspaceMemoryRegion) : Decidable (Passes a r) :=
  inferInstanceAs (Decidable (_ ∨ _))

/-- For the slot that contains the range: changing the whole slot is what was asked for. -/
def Exact (r : UserspaceMemoryRegion) (o : Option UserspaceMemoryRegion) : MemoryRequest → Prop
  | unmap a n => o = none ∨ (r.guestPhysAddr = a.setWidth 64 ∧ n = r.memorySize)
  | map a n ram => (n ≠ 0 → r.guestPhysAddr = a.setWidth 64) ∧
      (n.setWidth 64 = r.memorySize ∨ (o = some r ∧ r.userspaceAddr = ram))

/-- For a slot that does not contain the range: the slot is already what the request makes of it. -/
def Idle (r : UserspaceMemoryRegion) (o : Option UserspaceMemoryRegion) : MemoryRequest → Prop
  | unmap a _ => Passes a r ∨ (o = none ∧ r.memorySize.toNat < 2 ^ 32)
  | map _ _ ram => r.userspaceAddr = ram ∧ o = r.installed

end MemoryRequest

/-- Some slot ends after the start of the range; the first one is, as a whole, what the request asks
for, or, when it does not contain the range, the entry that the search ends at is not changed by
it. -/
def GvmMemory.Agrees (s : GvmMemory) (q : MemoryRequest) : Prop :=
  ∃ k, s.FirstAfter q k ∧
    if q.Within (s.memSlots k) then
      q.Exact (s.memSlots k) (s.driver (s.memSlots k).slot)
    else
      q.Idle (s.memSlots (s.landing q k)) (s.driver (s.memSlots (s.landing q k)).slot)

/-! ## The search -/

namespace UserspaceMemoryRegion

variable {r : UserspaceMemoryRegion} {a : BitVec 32} {e : BitVec 64}

lemma toNat_address (a : BitVec 32) : (a.setWidth 64).toNat = a.toNat := by
  have := a.isLt
  rw [BitVec.toNat_setWidth]
  omega

lemma toNat_add_memorySize (h : r.stop < 2 ^ 64) :
    (r.guestPhysAddr + r.memorySize).toNat = r.stop := by
  rw [BitVec.toNat_add]
  exact Nat.mod_eq_of_lt h

lemma compare_eq_lt_iff (h : r.stop < 2 ^ 64) : r.compare a e = .lt ↔ r.stop ≤ a.toNat := by
  have hle : r.guestPhysAddr + r.memorySize ≤ a.setWidth 64 ↔ r.stop ≤ a.toNat := by
    rw [BitVec.le_def, toNat_add_memorySize h, toNat_address]
  unfold compare
  by_cases hlt : r.guestPhysAddr + r.memorySize ≤ a.setWidth 64
  · rw [if_pos hlt]
    exact iff_of_true rfl (hle.mp hlt)
  · rw [if_neg hlt]
    refine iff_of_false (fun hc => ?_) fun hc => hlt (hle.mpr hc)
    split at hc <;> cases hc

lemma compare_eq_eq_iff (h : r.stop < 2 ^ 64) (hafter : a.toNat < r.stop) :
    r.compare a e = .eq ↔ r.guestPhysAddr.toNat ≤ a.toNat ∧ e.toNat ≤ r.stop := by
  have hnot : ¬ r.guestPhysAddr + r.memorySize ≤ a.setWidth 64 := by
    rw [BitVec.le_def, toNat_add_memorySize h, toNat_address]
    omega
  have hiff : (r.guestPhysAddr ≤ a.setWidth 64 ∧ e ≤ r.guestPhysAddr + r.memorySize) ↔
      r.guestPhysAddr.toNat ≤ a.toNat ∧ e.toNat ≤ r.stop := by
    rw [BitVec.le_def, BitVec.le_def, toNat_add_memorySize h, toNat_address]
  unfold compare
  rw [if_neg hnot, ← hiff]
  by_cases heq : r.guestPhysAddr ≤ a.setWidth 64 ∧ e ≤ r.guestPhysAddr + r.memorySize
  · rw [if_pos heq]
    exact iff_of_true rfl heq
  · rw [if_neg heq]
    exact iff_of_false (fun hc => by cases hc) heq

lemma compare_eq_gt (h : r.stop < 2 ^ 64) (hbase : a.toNat < r.guestPhysAddr.toNat) :
    r.compare a e = .gt := by
  have hstop : r.guestPhysAddr.toNat ≤ r.stop := Nat.le_add_right _ _
  have hlt : r.compare a e ≠ .lt := by
    rw [Ne, compare_eq_lt_iff h]
    omega
  have heq : r.compare a e ≠ .eq := by
    rw [Ne, compare_eq_eq_iff h (by omega)]
    omega
  cases hc : r.compare a e with
  | lt => exact absurd hc hlt
  | eq => exact absurd hc heq
  | gt => rfl

end UserspaceMemoryRegion

namespace GvmMemory

variable {s t : GvmMemory} {q : MemoryRequest} {i j k : ℕ}

lemma FirstAfter.unique (hj : s.FirstAfter q j) (hk : s.FirstAfter q k) : j = k := by
  rcases Nat.lt_trichotomy j k with h | h | h
  · exact absurd (hk.before j h) (Nat.not_le.mpr hj.after)
  · exact h
  · exact absurd (hj.before k h) (Nat.not_le.mpr hk.after)

/-- Some slot ends after the start of the range, or none does. -/
lemma exists_firstAfter_or (s : GvmMemory) (q : MemoryRequest) :
    (∃ k, s.FirstAfter q k) ∨ ∀ i < s.memSlotsNum, (s.memSlots i).stop ≤ q.address.toNat := by
  by_cases h : ∃ i, i < s.memSlotsNum ∧ q.address.toNat < (s.memSlots i).stop
  · refine Or.inl ⟨Nat.find h, (Nat.find_spec h).1, fun i hi => ?_, (Nat.find_spec h).2⟩
    have hnot := Nat.find_min h hi
    have hlt : i < s.memSlotsNum := hi.trans (Nat.find_spec h).1
    by_contra hle
    exact hnot ⟨hlt, Nat.not_le.mp hle⟩
  · refine Or.inr fun i hi => ?_
    by_contra hle
    exact h ⟨i, hi, Nat.not_le.mp hle⟩

variable (hs : s.WellFormed)
include hs

/-- The slot that contains the range is the first one that ends after its start. -/
lemma firstAfter_of_within (hj : j < s.memSlotsNum) (h : q.Within (s.memSlots j)) :
    s.FirstAfter q j where
  lt := hj
  before i hi := (hs.sorted i j hi hj).trans h.1
  after := h.2.1

/-- The entries after the first slot start after the start of the range. -/
lemma FirstAfter.compare_of_lt (hk : s.FirstAfter q k) (hi : i < k) :
    (s.memSlots i).compare q.address q.stop = .lt :=
  (compare_eq_lt_iff (hs.fits i (hi.trans hk.lt))).mpr (hk.before i hi)

lemma FirstAfter.compare_of_gt (hk : s.FirstAfter q k) (hki : k < i) (hi : i < s.memSlotsNum) :
    (s.memSlots i).compare q.address q.stop = .gt :=
  compare_eq_gt (hs.fits i hi) (hk.after.trans_le (hs.sorted k i hki hi))

lemma FirstAfter.compare_ne_lt (hk : s.FirstAfter q k) (hki : k ≤ i) (hi : i < s.memSlotsNum) :
    (s.memSlots i).compare q.address q.stop ≠ .lt := by
  rcases Nat.eq_or_lt_of_le hki with rfl | hlt
  · rw [Ne, compare_eq_lt_iff (hs.fits k hk.lt)]
    exact Nat.not_le.mpr hk.after
  · rw [hk.compare_of_gt hs hlt hi]
    decide

lemma FirstAfter.probes_lt (hk : s.FirstAfter q k) :
    ∀ i ∈ s.probes q.address q.stop, i < s.memSlotsNum :=
  lt_of_mem hk.lt (fun _ hki hi => hk.compare_ne_lt hs hki hi) 0 _ (Nat.zero_le k) (Int.le_refl _)

/-- When every slot ends before the range, the loop reads past the table. -/
lemma memSlotsNum_mem_probes (h : ∀ i < s.memSlotsNum, (s.memSlots i).stop ≤ q.address.toNat) :
    s.memSlotsNum ∈ s.probes q.address q.stop := by
  refine right_mem 0 s.memSlotsNum (fun i hi => ?_) (by omega)
  have hlt : i < s.memSlotsNum := by omega
  exact (compare_eq_lt_iff (hs.fits i hlt)).mpr (h i hlt)

/-- Where the search ends. -/
lemma FirstAfter.search_eq (hk : s.FirstAfter q k) :
    s.search q.address q.stop = s.landing q k := by
  unfold search landing
  split
  case isTrue heq =>
    refine last_of_compare (fun i hi => ?_) 0 _ 0 hk.lt (Nat.zero_le k) (by have := hk.lt; omega)
      (Int.le_refl _)
    rcases Nat.lt_trichotomy i k with hlt | rfl | hgt
    · rw [hk.compare_of_lt hs hlt, Nat.compare_eq_lt.mpr hlt]
    · rw [heq, Nat.compare_eq_eq.mpr rfl]
    · rw [hk.compare_of_gt hs hgt hi, Nat.compare_eq_gt.mpr hgt]
  case isFalse hne =>
    refine last_of_gap (fun i hi => ?_) hk.lt
    rcases Nat.lt_trichotomy i k with hlt | rfl | hgt
    · rw [hk.compare_of_lt hs hlt, gap_of_lt hlt]
    · rw [gap_of_le (Nat.le_refl _)]
      cases hc : (s.memSlots i).compare q.address q.stop with
      | lt => exact absurd hc (hk.compare_ne_lt hs (Nat.le_refl _) hi)
      | eq => exact absurd hc hne
      | gt => rfl
    · rw [hk.compare_of_gt hs hgt hi, gap_of_le (Nat.le_of_lt hgt)]

omit hs in
lemma FirstAfter.landing_lt (hk : s.FirstAfter q k) : s.landing q k < s.memSlotsNum := by
  unfold landing
  split
  · exact hk.lt
  · have := hk.lt
    rcases gapProbe_eq (Nat.le_of_lt hk.lt) with h | h <;> omega

end GvmMemory

/-! ## The effect of a request -/

namespace GvmMemory

variable {s t : GvmMemory} {q : MemoryRequest} {i j k : ℕ} {answer : Bool}

/-- The state after the entry was handed to the driver with size 0. -/
def unmapped (s : GvmMemory) (i : ℕ) : GvmMemory :=
  { s with
    memSlots := Function.update s.memSlots i
      { s.memSlots i with memorySize := ((s.memSlots i).memorySize.setWidth 32).setWidth 64 }
    driver := Function.update s.driver (s.memSlots i).slot none }

/-- The state after the entry was handed to the driver with another host address. -/
def remapped (s : GvmMemory) (ram : BitVec 64) (i : ℕ) : GvmMemory :=
  { s with
    memSlots := Function.update s.memSlots i { s.memSlots i with userspaceAddr := ram }
    driver := Function.update s.driver (s.memSlots i).slot
      { s.memSlots i with userspaceAddr := ram }.installed }

lemma gvmUnmapMemory_of_passes {a : BitVec 32} {n : BitVec 64}
    (h : MemoryRequest.Passes a (s.memSlots (s.search a (a.setWidth 64 + n)))) :
    s.gvmUnmapMemory answer a n = .ok s := if_pos h

lemma gvmUnmapMemory_of_not_passes {a : BitVec 32} {n : BitVec 64}
    (h : ¬ MemoryRequest.Passes a (s.memSlots (s.search a (a.setWidth 64 + n)))) :
    s.gvmUnmapMemory answer a n =
      if answer then .ok (s.unmapped (s.search a (a.setWidth 64 + n))) else .error () := by
  refine (if_neg h).trans ?_
  cases answer with
  | true =>
      simp only [setUserMemoryRegion, setSlot, unmapped, installed, if_true, Function.update_self,
        Function.update_idem, ok_bind]
      rfl
  | false => rfl

/-- With the driver's consent the call returns. -/
lemma exists_gvmUnmapMemory_true (s : GvmMemory) (a : BitVec 32) (n : BitVec 64) :
    ∃ t, s.gvmUnmapMemory true a n = .ok t := by
  by_cases h : MemoryRequest.Passes a (s.memSlots (s.search a (a.setWidth 64 + n)))
  · exact ⟨s, gvmUnmapMemory_of_passes h⟩
  · exact ⟨_, gvmUnmapMemory_of_not_passes h⟩

lemma gvmMapMemory_eq {a n : BitVec 32} {ram : BitVec 64} :
    s.gvmMapMemory answer a n ram =
      if answer then .ok (s.remapped ram (s.search a ((a + n).setWidth 64))) else .error () := by
  simp only [gvmMapMemory, setUserMemoryRegion, setSlot, remapped, Function.update_self]

end GvmMemory

namespace MemoryRequest

/-- What a request that uses entry `i` leaves. -/
def effect (s : GvmMemory) (i : ℕ) : MemoryRequest → GvmMemory
  | unmap a _ => if Passes a (s.memSlots i) then s else s.unmapped i
  | map _ _ ram => s.remapped ram i

variable {s t : GvmMemory} {q : MemoryRequest} {answer : Bool} {P : GvmMemory → Prop}

/-- What every answer of the driver leaves is what its consent leaves. -/
lemma forall_perform_iff :
    (∀ answer t, q.perform answer s = .ok t → P t) ↔
      P (q.effect s (s.search q.address q.stop)) := by
  cases q with
  | unmap a n =>
      by_cases h : Passes a (s.memSlots (s.search a (a.setWidth 64 + n)))
      · have hperform : ∀ answer, perform answer s (unmap a n) = .ok s := fun _ =>
          GvmMemory.gvmUnmapMemory_of_passes h
        have heffect : effect s (s.search a (a.setWidth 64 + n)) (unmap a n) = s := if_pos h
        simp [hperform, heffect, address, stop]
      · have heffect : effect s (s.search a (a.setWidth 64 + n)) (unmap a n) =
          s.unmapped _ := if_neg h
        simp [perform, GvmMemory.gvmUnmapMemory_of_not_passes h, heffect, address, stop]
  | map a n ram =>
      simp [perform, GvmMemory.gvmMapMemory_eq, effect, address, stop]

end MemoryRequest

/-! ## What a change of a whole slot maps -/

namespace UserspaceMemoryRegion

variable {r : UserspaceMemoryRegion} {o : Option UserspaceMemoryRegion} {gpa host : BitVec 64}

lemma not_mapsTo_none : ¬ MapsTo none gpa host := by
  rintro ⟨r, h, -⟩
  cases h

lemma mapsTo_some : MapsTo (some r) gpa host ↔
    r.Contains gpa ∧ host = r.userspaceAddr + (gpa - r.guestPhysAddr) := by
  constructor
  · rintro ⟨r', h, hmap⟩
    obtain rfl := Option.some.inj h
    exact hmap
  · exact fun h => ⟨r, rfl, h⟩

lemma installed_of_ne (h : r.memorySize ≠ 0) : r.installed = some r := if_neg h

/-- A slot that the driver holds for an entry maps what the entry says. -/
lemma MapsTo.contains (ho : o = none ∨ o = r.installed) (h : MapsTo o gpa host) :
    r.Contains gpa ∧ o = some r := by
  rcases ho with rfl | rfl
  · exact absurd h not_mapsTo_none
  · obtain ⟨r', hr', hmap⟩ := h
    unfold installed at hr'
    split at hr'
    · cases hr'
    · obtain rfl := Option.some.inj hr'
      exact ⟨hmap.1, if_neg ‹_›⟩

end UserspaceMemoryRegion

namespace MemoryRequest

variable {r : UserspaceMemoryRegion} {o : Option UserspaceMemoryRegion} {q : MemoryRequest}

lemma Within.memorySize_pos (h : q.Within r) : 0 < r.memorySize.toNat := by
  obtain ⟨hbase, hstart, -⟩ := h
  unfold UserspaceMemoryRegion.stop at hstart
  omega

lemma Within.memorySize_ne (h : q.Within r) : r.memorySize ≠ 0 := by
  have hpos := h.memorySize_pos
  intro hzero
  rw [hzero] at hpos
  exact absurd hpos (by decide)

/-- The range is in the slot that contains it. -/
lemma Within.contains {gpa : BitVec 64} (h : q.Within r) (hgpa : q.InRange gpa) : r.Contains gpa :=
  ⟨h.1.trans hgpa.1, hgpa.2.trans_le h.2.2⟩

/-- A range that starts with its slot and is as long is the slot. -/
lemma inRange_iff_of_whole {gpa : BitVec 64} (hbase : r.guestPhysAddr.toNat = q.address.toNat)
    (hsize : r.memorySize.toNat = q.size) : q.InRange gpa ↔ r.Contains gpa := by
  unfold InRange UserspaceMemoryRegion.Contains
  rw [hbase, hsize]

/-- A range that misses an address of its slot at neither end is the slot. -/
lemma whole_of_forall_inRange (hfit : r.stop < 2 ^ 64) (h : q.Within r)
    (hall : ∀ gpa, r.Contains gpa → q.InRange gpa) :
    r.guestPhysAddr.toNat = q.address.toNat ∧ r.memorySize.toNat = q.size := by
  have hpos := h.memorySize_pos
  obtain ⟨hbase, hstart, hend⟩ := h
  unfold UserspaceMemoryRegion.stop at hfit hstart hend
  have hfirst := hall r.guestPhysAddr ⟨Nat.le_refl _, by omega⟩
  have hlastNat : (BitVec.ofNat 64 (r.guestPhysAddr.toNat + r.memorySize.toNat - 1)).toNat =
      r.guestPhysAddr.toNat + r.memorySize.toNat - 1 := by
    rw [BitVec.toNat_ofNat]
    omega
  have hlast := hall (BitVec.ofNat 64 (r.guestPhysAddr.toNat + r.memorySize.toNat - 1))
    ⟨by omega, by omega⟩
  unfold InRange at hfirst hlast
  omega

lemma unmap_exact_iff {a : BitVec 32} {n : BitVec 64} (hfit : r.stop < 2 ^ 64)
    (h : (unmap a n).Within r) (ho : o = none ∨ o = r.installed) :
    (∀ gpa host, MapsTo none gpa host ↔ (unmap a n).After o gpa host) ↔ (unmap a n).Exact r o := by
  constructor
  · intro hall
    refine or_iff_not_imp_left.mpr fun hne => ?_
    have hsome : o = some r := (ho.resolve_left hne).trans (installed_of_ne h.memorySize_ne)
    have hrange : ∀ gpa, r.Contains gpa → (unmap a n).InRange gpa := by
      intro gpa hgpa
      by_contra hout
      have hmap : MapsTo o gpa (r.userspaceAddr + (gpa - r.guestPhysAddr)) := by
        rw [hsome]
        exact mapsTo_some.mpr ⟨hgpa, rfl⟩
      exact not_mapsTo_none ((hall gpa _).mpr ⟨hmap, hout⟩)
    obtain ⟨hbase, hsize⟩ := whole_of_forall_inRange hfit h hrange
    exact ⟨BitVec.eq_of_toNat_eq (hbase.trans (toNat_address a).symm),
      BitVec.eq_of_toNat_eq hsize.symm⟩
  · intro hexact gpa host
    refine iff_of_false not_mapsTo_none ?_
    rintro ⟨hmap, hout⟩
    rcases hexact with rfl | ⟨hbase, hsize⟩
    · exact not_mapsTo_none hmap
    · refine hout ((inRange_iff_of_whole ?_ ?_).mpr (hmap.contains ho).1)
      · rw [hbase]
        exact toNat_address a
      · rw [← hsize]
        rfl

lemma size_pos_of_inRange {gpa : BitVec 64} (h : q.InRange gpa) : 0 < q.size := by
  obtain ⟨hstart, hend⟩ := h
  omega

/-- The slot with another host address. -/
lemma mapsTo_moved {ram gpa host : BitVec 64} :
    MapsTo (some { r with userspaceAddr := ram }) gpa host ↔
      r.Contains gpa ∧ host = ram + (gpa - r.guestPhysAddr) := mapsTo_some

section Map

variable {a n : BitVec 32} {ram gpa host : BitVec 64}

lemma ne_zero_of_inRange (h : (map a n ram).InRange gpa) : n ≠ 0 := by
  have hpos : 0 < n.toNat := size_pos_of_inRange h
  intro hzero
  rw [hzero] at hpos
  exact absurd hpos (by decide)

/-- A range as long as the slot that contains it is the slot. -/
lemma inRange_of_whole (h : (map a n ram).Within r)
    (hstart : n ≠ 0 → r.guestPhysAddr = a.setWidth 64)
    (hsize : n.setWidth 64 = r.memorySize) (hgpa : r.Contains gpa) : (map a n ram).InRange gpa := by
  have hsizeNat : r.memorySize.toNat = n.toNat := by rw [← hsize, toNat_address]
  have hne : n ≠ 0 := by
    intro hzero
    have hpos := h.memorySize_pos
    rw [hsizeNat, hzero] at hpos
    exact absurd hpos (by decide)
  refine (inRange_iff_of_whole ?_ hsizeNat).mpr hgpa
  rw [hstart hne]
  exact toNat_address a

/-- A range shorter than the slot that contains it leaves an address of the slot out. -/
lemma exists_not_inRange (hfit : r.stop < 2 ^ 64) (h : (map a n ram).Within r)
    (hsize : n.setWidth 64 ≠ r.memorySize) : ∃ gpa, r.Contains gpa ∧
      ¬ (map a n ram).InRange gpa := by
  by_contra hnone
  have hall : ∀ gpa, r.Contains gpa → (map a n ram).InRange gpa := by
    intro gpa hgpa
    by_contra hout
    exact hnone ⟨gpa, hgpa, hout⟩
  have hwhole : r.memorySize.toNat = n.toNat := (whole_of_forall_inRange hfit h hall).2
  exact hsize (BitVec.eq_of_toNat_eq ((toNat_address n).trans hwhole.symm))

lemma map_exact_iff (hfit : r.stop < 2 ^ 64) (h : (map a n ram).Within r)
    (ho : o = none ∨ o = r.installed) :
    (∀ gpa host, MapsTo (some { r with userspaceAddr := ram }) gpa host ↔
      (map a n ram).After o gpa host) ↔ (map a n ram).Exact r o := by
  constructor
  · intro hall
    refine ⟨fun hne => ?_, or_iff_not_imp_left.mpr fun hsize => ?_⟩
    · have hpos : 0 < n.toNat := by
        have : n.toNat ≠ 0 := fun h => hne (BitVec.eq_of_toNat_eq h)
        omega
      have hin : (map a n ram).InRange (a.setWidth 64) :=
        ⟨(toNat_address a).ge, (toNat_address a).trans_lt (Nat.lt_add_of_pos_right hpos)⟩
      have hhost := ((hall _ _).mp (mapsTo_moved.mpr ⟨h.contains hin, rfl⟩)).1 hin
      bv_omega
    · obtain ⟨gpa, hgpa, hout⟩ := exists_not_inRange hfit h hsize
      have hmap := ((hall _ _).mp (mapsTo_moved.mpr ⟨hgpa, rfl⟩)).2 hout
      have hsome := (hmap.contains ho).2
      rw [hsome, mapsTo_some] at hmap
      refine ⟨hsome, ?_⟩
      have hhost := hmap.2
      bv_omega
  · rintro ⟨hstart, hrest⟩ gpa host
    rw [mapsTo_moved]
    constructor
    · rintro ⟨hgpa, hhost⟩
      refine ⟨fun hin => ?_, fun hout => ?_⟩
      · rw [hhost, hstart (ne_zero_of_inRange hin)]
      · rcases hrest with hsize | ⟨rfl, rfl⟩
        · exact absurd (inRange_of_whole h hstart hsize hgpa) hout
        · exact mapsTo_some.mpr ⟨hgpa, hhost⟩
    · rintro ⟨hin, hout⟩
      by_cases hgpa : (map a n ram).InRange gpa
      · rw [hstart (ne_zero_of_inRange hgpa)]
        exact ⟨h.contains hgpa, hin hgpa⟩
      · have hmap := hout hgpa
        obtain ⟨hcontains, hsome⟩ := hmap.contains ho
        rcases hrest with hsize | ⟨-, rfl⟩
        · exact absurd (inRange_of_whole h hstart hsize hcontains) hgpa
        · rw [hsome] at hmap
          exact mapsTo_some.mp hmap

end Map

end MemoryRequest

/-! ## Requests inside a slot -/

namespace MemoryRequest

variable {r : UserspaceMemoryRegion} {q : MemoryRequest}

/-- A computed end that wraps is too small, never too large. -/
lemma toNat_stop_le (q : MemoryRequest) : q.stop.toNat ≤ q.address.toNat + q.size := by
  cases q with
  | unmap a n =>
      simp only [stop, address, size, BitVec.toNat_add, toNat_address]
      exact Nat.mod_le _ _
  | map a n ram =>
      simp only [stop, address, size, toNat_address, BitVec.toNat_add]
      exact Nat.mod_le _ _

lemma Within.compare_eq (h : q.Within r) (hfit : r.stop < 2 ^ 64) :
    r.compare q.address q.stop = .eq :=
  (compare_eq_eq_iff hfit h.2.1).mpr ⟨h.1, (toNat_stop_le q).trans h.2.2⟩

lemma Within.not_passes {a : BitVec 32} {n : BitVec 64} (h : (unmap a n).Within r)
    (hfit : r.stop < 2 ^ 64) : ¬ Passes a r := by
  obtain ⟨hbase, hstart, -⟩ := h
  rintro (hlt | hlt)
  · rw [gt_iff_lt, BitVec.lt_def, toNat_address] at hlt
    exact absurd hbase (Nat.not_le.mpr hlt)
  · rw [BitVec.lt_def, toNat_add_memorySize hfit, toNat_address] at hlt
    exact absurd hstart (Nat.not_lt.mpr (Nat.le_of_lt hlt))

end MemoryRequest

namespace GvmMemory

open MemoryRequest

variable {s t : GvmMemory} {q : MemoryRequest} {i k : ℕ}

section

variable (hs : s.WellFormed) (hk : k < s.memSlotsNum)
include hs hk

lemma changesSlot_unmapped_iff {a : BitVec 32} {n : BitVec 64}
    (h : (unmap a n).Within (s.memSlots k)) :
    s.ChangesSlot (s.unmapped k) (unmap a n) k ↔
      (unmap a n).Exact (s.memSlots k) (s.driver (s.memSlots k).slot) := by
  rw [← unmap_exact_iff (hs.fits k hk) h (hs.driver_eq k hk)]
  have hdriver : (s.unmapped k).driver (s.memSlots k).slot = none := Function.update_self ..
  constructor
  · intro hchange gpa host
    rw [← hchange.mapsTo, hdriver]
  · intro hmaps
    refine ⟨rfl, fun i hi => Function.update_of_ne hi _ _, fun id hid =>
      Function.update_of_ne hid _ _,
      fun gpa host => ?_⟩
    rw [hdriver]
    exact hmaps gpa host

lemma changesSlot_remapped_iff {a n : BitVec 32} {ram : BitVec 64}
    (h : (map a n ram).Within (s.memSlots k)) :
    s.ChangesSlot (s.remapped ram k) (map a n ram) k ↔
      (map a n ram).Exact (s.memSlots k) (s.driver (s.memSlots k).slot) := by
  rw [← map_exact_iff (hs.fits k hk) h (hs.driver_eq k hk)]
  have hdriver : (s.remapped ram k).driver (s.memSlots k).slot =
      some { s.memSlots k with userspaceAddr := ram } := by
    refine (Function.update_self ..).trans ?_
    exact installed_of_ne h.memorySize_ne
  constructor
  · intro hchange gpa host
    rw [← hchange.mapsTo, hdriver]
  · intro hmaps
    refine ⟨rfl, fun i hi => Function.update_of_ne hi _ _, fun id hid =>
      Function.update_of_ne hid _ _,
      fun gpa host => ?_⟩
    rw [hdriver]
    exact hmaps gpa host

/-- The slot that contains the range is the one that is used. -/
lemma changesSlot_effect_iff (h : q.Within (s.memSlots k)) :
    s.ChangesSlot (q.effect s (s.search q.address q.stop)) q k ↔
      q.Exact (s.memSlots k) (s.driver (s.memSlots k).slot) := by
  have hsearch : s.search q.address q.stop = k := by
    rw [(firstAfter_of_within hs hk h).search_eq hs]
    exact if_pos (h.compare_eq (hs.fits k hk))
  rw [hsearch]
  cases q with
  | unmap a n =>
      have heffect : (unmap a n).effect s k = s.unmapped k := if_neg (h.not_passes (hs.fits k hk))
      rw [heffect]
      exact changesSlot_unmapped_iff hs hk h
  | map a n ram => exact changesSlot_remapped_iff hs hk h

end

/-! ## Requests outside of every slot -/

/-- Writing one entry and one region back leaves the state when both are what they were. -/
lemma update_eq_self_iff {r : UserspaceMemoryRegion} {id : BitVec 32}
    {o : Option UserspaceMemoryRegion} :
    ({ s with
        memSlots := Function.update s.memSlots i r
        driver := Function.update s.driver id o } :
      GvmMemory) = s ↔ r = s.memSlots i ∧ o = s.driver id := by
  rcases s with ⟨memSlots, memSlotsNum, driver⟩
  simp only [mk.injEq, true_and, Function.update_eq_self_iff]

/-- The size survives the `ULONG` when it fits. -/
lemma memSize_eq_iff (n : BitVec 64) : (n.setWidth 32).setWidth 64 = n ↔ n.toNat < 2 ^ 32 := by
  rw [← BitVec.toNat_inj, toNat_address, BitVec.toNat_setWidth]
  constructor
  · intro h
    have := Nat.mod_lt n.toNat (show 0 < 2 ^ 32 by decide)
    omega
  · exact Nat.mod_eq_of_lt

lemma unmapped_eq_self_iff : s.unmapped i = s ↔
    s.driver (s.memSlots i).slot = none ∧ (s.memSlots i).memorySize.toNat < 2 ^ 32 := by
  refine update_eq_self_iff.trans ?_
  rw [← memSize_eq_iff, and_comm, eq_comm]
  refine and_congr_right fun _ => ?_
  rcases s.memSlots i with ⟨slot, base, n, host⟩
  simp only [UserspaceMemoryRegion.mk.injEq, true_and, and_true]

lemma remapped_eq_self_iff {ram : BitVec 64} : s.remapped ram i = s ↔
    (s.memSlots i).userspaceAddr = ram ∧ s.driver (s.memSlots i).slot =
      (s.memSlots i).installed := by
  refine update_eq_self_iff.trans ?_
  constructor
  · rintro ⟨hslot, hdriver⟩
    rw [hslot] at hdriver
    refine ⟨?_, hdriver.symm⟩
    rw [← hslot]
  · rintro ⟨rfl, hdriver⟩
    exact ⟨rfl, hdriver.symm⟩

lemma effect_eq_self_iff : q.effect s i = s ↔
    q.Idle (s.memSlots i) (s.driver (s.memSlots i).slot) := by
  cases q with
  | unmap a n =>
      by_cases h : Passes a (s.memSlots i)
      · exact iff_of_true (if_pos h) (Or.inl h)
      · have heffect : (unmap a n).effect s i = s.unmapped i := if_neg h
        rw [heffect, unmapped_eq_self_iff]
        exact ⟨Or.inr, fun hidle => hidle.resolve_left h⟩
  | map a n ram => exact remapped_eq_self_iff

end GvmMemory

/-! ## Tables stay well formed -/

namespace GvmMemory

variable {s t : GvmMemory} {q : MemoryRequest} {i j k : ℕ} {answer : Bool}

lemma WellFormed.slot_inj (hs : s.WellFormed) (hi : i < s.memSlotsNum) (hj : j < s.memSlotsNum)
    (h : (s.memSlots i).slot = (s.memSlots j).slot) : i = j := by
  have hnum := hs.num_le
  rw [hs.slot_eq i hi, hs.slot_eq j hj] at h
  have hnat := congrArg BitVec.toNat h
  rw [BitVec.toNat_ofNat, BitVec.toNat_ofNat] at hnat
  omega

/-- An entry may shrink where it starts, when the driver gets what it says or nothing. -/
lemma WellFormed.update {r : UserspaceMemoryRegion} {o : Option UserspaceMemoryRegion}
    (hs : s.WellFormed) (hi : i < s.memSlotsNum) (hslot : r.slot = (s.memSlots i).slot)
    (hbase : r.guestPhysAddr = (s.memSlots i).guestPhysAddr) (hsize : r.stop ≤ (s.memSlots i).stop)
    (ho : o = none ∨ o = r.installed) :
    ({ s with
      memSlots := Function.update s.memSlots i r
      driver := Function.update s.driver (s.memSlots i).slot o } : GvmMemory).WellFormed where
  num_le := hs.num_le
  sorted j k hjk hk := by
    have hold := hs.sorted j k hjk hk
    by_cases hj : j = i <;> by_cases hki : k = i
    · omega
    · subst hj
      simpa [hki] using hsize.trans hold
    · subst hki
      simpa [hj, hbase] using hold
    · simpa [hj, hki] using hold
  fits j hj := by
    by_cases hji : j = i
    · subst hji
      simpa using hsize.trans_lt (hs.fits j hj)
    · simpa [hji] using hs.fits j hj
  slot_eq j hj := by
    by_cases hji : j = i
    · subst hji
      simpa [hslot] using hs.slot_eq j hj
    · simpa [hji] using hs.slot_eq j hj
  driver_eq j hj := by
    by_cases hji : j = i
    · subst hji
      simpa [hslot] using ho
    · have hne : (s.memSlots j).slot ≠ (s.memSlots i).slot := fun h => hji (hs.slot_inj hj hi h)
      simpa [hji, hne] using hs.driver_eq j hj

/-- A request that starts before the end of the table leaves a well formed one. -/
lemma WellFormed.perform (hs : s.WellFormed) (hk : s.FirstAfter q k)
    (h : q.perform answer s = .ok t) : t.WellFormed := by
  refine MemoryRequest.forall_perform_iff.mpr ?_ answer t h
  rw [hk.search_eq hs]
  have hlt := hk.landing_lt
  cases q with
  | unmap a n =>
      rw [MemoryRequest.effect]
      split
      · exact hs
      · refine hs.update hlt rfl rfl (Nat.add_le_add_left ?_ _) (Or.inl rfl)
        rw [toNat_address, BitVec.toNat_setWidth]
        exact Nat.mod_le _ _
  | map a n ram => exact hs.update hlt rfl rfl (Nat.le_refl _) (Or.inr rfl)

/-- Where the slots of `gvm_init` lie does not depend on where `Ram` is. -/
lemma ofGvmInit_guestPhysAddr (ram : BitVec 64) (hi : i < 8) :
    ((ofGvmInit ram bootRamSize).memSlots i).guestPhysAddr =
      ((ofGvmInit 0 bootRamSize).memSlots i).guestPhysAddr := by
  interval_cases i <;> simp only [ofGvmInit, gvmInit, List.take, List.getD_cons_zero,
    List.getD_cons_succ]

lemma ofGvmInit_stop (ram : BitVec 64) (hi : i < 8) :
    ((ofGvmInit ram bootRamSize).memSlots i).stop =
      ((ofGvmInit 0 bootRamSize).memSlots i).stop := by
  have hsize : ((ofGvmInit ram bootRamSize).memSlots i).memorySize =
      ((ofGvmInit 0 bootRamSize).memSlots i).memorySize := by
    interval_cases i <;>
      simp only [ofGvmInit, gvmInit, List.take, List.getD_cons_zero, List.getD_cons_succ]
  unfold UserspaceMemoryRegion.stop
  rw [hsize, ofGvmInit_guestPhysAddr ram hi]

/-- The table that the program starts with. -/
lemma ofGvmInit_wellFormed (ram : BitVec 64) : (ofGvmInit ram bootRamSize).WellFormed where
  num_le := Nat.le_of_ble_eq_true rfl
  sorted i j hij hj := by
    have hj : j < 8 := hj
    have hclosed : ∀ j < 8, ∀ i < j, ((ofGvmInit 0 bootRamSize).memSlots i).stop ≤
        ((ofGvmInit 0 bootRamSize).memSlots j).guestPhysAddr.toNat := by decide +kernel
    rw [ofGvmInit_guestPhysAddr ram hj, ofGvmInit_stop ram (hij.trans hj)]
    exact hclosed j hj i hij
  fits i hi := by
    have hi : i < 8 := hi
    have hclosed : ∀ i < 8, ((ofGvmInit 0 bootRamSize).memSlots i).stop < 2 ^ 64 := by
      decide +kernel
    rw [ofGvmInit_stop ram hi]
    exact hclosed i hi
  slot_eq i hi := by
    have hi : i < 8 := hi
    interval_cases i <;> rfl
  driver_eq i hi := by
    have hi : i < 8 := hi
    interval_cases i <;> exact Or.inr rfl

end GvmMemory

/-! ## The exact condition -/

open GvmMemory

/-- On every well formed table, a request changes the slot that contains its range, as asked for,
and nothing when there is none, exactly when some slot ends after its start and the entry that the
search ends at is, as a whole, what was asked for or what it was before. -/
theorem hits_right_slot_iff {s : GvmMemory} (hs : s.WellFormed) (q : MemoryRequest) :
    s.HitsRightSlot q ↔ s.Agrees q := by
  rcases exists_firstAfter_or s q with ⟨k, hk⟩ | hnone
  · have hagrees : s.Agrees q ↔ if q.Within (s.memSlots k) then
        q.Exact (s.memSlots k) (s.driver (s.memSlots k).slot)
      else q.Idle (s.memSlots (s.landing q k)) (s.driver (s.memSlots (s.landing q k)).slot) := by
      refine ⟨?_, fun h => ⟨k, hk, h⟩⟩
      rintro ⟨j, hj, h⟩
      obtain rfl := hj.unique hk
      exact h
    rw [hagrees]
    by_cases hwithin : q.Within (s.memSlots k)
    · rw [if_pos hwithin, ← changesSlot_effect_iff hs hk.lt hwithin]
      constructor
      · intro h
        exact MemoryRequest.forall_perform_iff.mp (h.inside k hk.lt hwithin)
      · intro h
        refine ⟨hk.probes_lt hs, fun j hj hwithin' => ?_, fun hout => absurd hwithin (hout k hk.lt)⟩
        obtain rfl := hk.unique (firstAfter_of_within hs hj hwithin')
        exact MemoryRequest.forall_perform_iff.mpr h
    · rw [if_neg hwithin, ← hk.search_eq hs, ← effect_eq_self_iff]
      have hout : ∀ j < s.memSlotsNum, ¬ q.Within (s.memSlots j) := by
        intro j hj hwithin'
        obtain rfl := hk.unique (firstAfter_of_within hs hj hwithin')
        exact hwithin hwithin'
      constructor
      · intro h
        exact MemoryRequest.forall_perform_iff.mp (h.outside hout)
      · intro h
        exact ⟨hk.probes_lt hs, fun j hj hwithin' => absurd hwithin' (hout j hj),
          fun _ => MemoryRequest.forall_perform_iff.mpr h⟩
  · refine iff_of_false (fun h => ?_) ?_
    · exact Nat.lt_irrefl _ (h.probes_lt _ (memSlotsNum_mem_probes hs hnone))
    · rintro ⟨k, hk, -⟩
      exact Nat.not_le.mpr hk.after (hnone k hk.lt)

/-- The VGA window of the start-up table is a slot of its own. -/
theorem hits_right_slot_window :
    (GvmMemory.ofGvmInit 0x10000 bootRamSize).HitsRightSlot (.unmap 0xa0000 0x20000) := by
  refine (hits_right_slot_iff (ofGvmInit_wellFormed 0x10000) _).mpr ⟨3, ⟨?_, ?_, ?_⟩, ?_⟩
  · decide +kernel
  · decide +kernel
  · decide +kernel
  · rw [if_pos (by decide +kernel)]
    exact Or.inr ⟨by decide +kernel, by decide +kernel⟩

/-- No slot contains the page at `0xe0000000`, and mapping it back to memory moves the BIOS ROM. -/
theorem removed_page_moves_rom :
    ¬ (GvmMemory.ofGvmInit 0x10000 bootRamSize).HitsRightSlot
      (.map 0xe0000000 0x10000 (0x10000 + 0xe0000000)) := by
  intro h
  have hout : ∀ j < 8, ¬ (MemoryRequest.map 0xe0000000 0x10000 (0x10000 + 0xe0000000)).Within
      ((GvmMemory.ofGvmInit 0x10000 bootRamSize).memSlots j) := by decide +kernel
  have hsearch : (GvmMemory.ofGvmInit 0x10000 bootRamSize).search 0xe0000000
      ((0xe0000000 + 0x10000 : BitVec 32).setWidth 64) = 7 := by
    simp [GvmMemory.search, last, bisect, GvmMemory.ofGvmInit, gvmInit,
      UserspaceMemoryRegion.compare, bootRamSize]
  have heq := MemoryRequest.forall_perform_iff.mp (h.outside hout)
  have hmoved : ((GvmMemory.ofGvmInit 0x10000 bootRamSize).memSlots
      ((GvmMemory.ofGvmInit 0x10000 bootRamSize).search 0xe0000000
        ((0xe0000000 + 0x10000 : BitVec 32).setWidth 64))).userspaceAddr = 0x10000 + 0xe0000000 :=
    (effect_eq_self_iff.mp heq).1
  rw [hsearch] at hmoved
  exact absurd hmoved (by decide +kernel)

end Svmm
