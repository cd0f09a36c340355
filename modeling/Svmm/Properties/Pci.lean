import Mathlib.Algebra.GroupWithZero.Nat
import Mathlib.Tactic.IntervalCases
import Svmm.Framework.Run
import Svmm.Framework.Registry
import Svmm.Construction.Pci

/-!
# Base addresses and the ports of their functions

A BAR that has moved has its address in the configuration space, and the handlers of just its ports
in the table.  The loop of `PciWriteConfHandler` gives a port of the old range up and takes one of
the new range at a time; `Registry.moved` is the table between two turns.
-/

namespace Svmm

open Bytes TransitionRun Registry

/-! ## Agreement -/

/-- The doubleword of a BAR. -/
def PciDevice.barDword (device : PciDevice) (barNum : ℕ) : BitVec 32 :=
  littleEndian (fun j => device.conf (pciConfBar0 + 4 * barNum + j)) 4

/-- A port number of a BAR that its mask leaves it. -/
def PciBar.HasPort (bar : PciBar) (i : ℕ) : Prop := i < bar.size.toNat ∧ bar.mask.getLsbD i = false

instance (bar : PciBar) (i : ℕ) : Decidable (bar.HasPort i) :=
  inferInstanceAs (Decidable (_ ∧ _))

/-- The mask leaves a BAR one port at most. -/
def PciBar.OnePort (bar : PciBar) : Prop := ∀ i j, bar.HasPort i → bar.HasPort j → i = j

instance (bar : PciBar) : Decidable bar.OnePort :=
  decidable_of_iff (∀ i < bar.size.toNat, ∀ j < bar.size.toNat, bar.HasPort i →
    bar.HasPort j → i = j)
    ⟨fun h i j hi hj => h i hi.1 j hj.1 hi hj, fun h i _ j _ => h i j⟩

/-- The address of a BAR is that in the configuration space, and it has the handlers of its ports:
none as long as it is not assigned. -/
structure BarAgrees (s : PciBus) (fn : PciFunction) (barNum : ℕ) : Prop where
  addr : ((s.device fn).bar barNum).addr = (s.device fn).barDword barNum &&& ~~~3
  ports : ∀ p, s.port p = some (.bar fn barNum) ↔ ((s.device fn).bar barNum).addr ≠ 0 ∧
    ∃ i, ((s.device fn).bar barNum).HasPort i ∧
      p = ((s.device fn).bar barNum).addr + BitVec.ofNat 32 i

/-- All I/O BARs of registered functions agree. -/
def BarsAgree (s : PciBus) : Prop :=
  ∀ fn, (s.device fn).initialized = true → ∀ barNum < 6,
    ((s.device fn).bar barNum).type = .io → BarAgrees s fn barNum

/-- Nobody but the owner gains or loses a port. -/
def OthersKept (owner : PortOwner) (s t : PciBus) : Prop :=
  ∀ p o, o ≠ owner → (t.port p = some o ↔ s.port p = some o)

/-- A list of writes goes through; the BARs agree throughout, and each write leaves the ports of
everybody else alone. -/
def BarsFollow (handler : PciBus → PciWrite → PciOutcome PciBus) : PciBus → List PciWrite → Prop
  | s, [] => BarsAgree s
  | s, w :: ws => BarsAgree s ∧ ∃ t, pciWriteConfHandler handler s w = .ok t ∧
      OthersKept (.bar w.fn w.barNum) s t ∧ BarsFollow handler t ws

/-! ## Writes that fit -/

namespace PciWrite

variable (w : PciWrite) (s : PciBus)

/-- The BAR that is written to. -/
def bar : PciBar := (s.device w.fn).bar w.barNum

/-- The write is to an I/O BAR of a registered function. -/
structure ToIoBar : Prop where
  initialized : (s.device w.fn).initialized = true
  header : (s.device w.fn).conf pciConfHdrType &&& 3 = 0
  first : pciConfBar0 ≤ w.offset.toNat
  last : w.offset.toNat ≤ pciConfBar5
  type : (w.bar s).type = .io
  length : w.length = 1 ∨ w.length = 2 ∨ w.length = 4

/-- The value is that of the whole doubleword: its bytes beyond the length are there already. -/
structure Whole : Prop where
  aligned : w.offset.toNat = pciConfBar0 + 4 * w.barNum
  rest : ∀ j < 4, w.length ≤ j → byteAt w.value j = (s.device w.fn).conf (w.offset.toNat + j)

/-- The new place of a port is on the bitmap, and is free or one of the BAR's own that has been
given up by then. -/
def PlaceFree (i : ℕ) : Prop :=
  w.address + BitVec.ofNat 32 i < portIoBitmapSize ∧
    (s.port (w.address + BitVec.ofNat 32 i) = none ∨ (w.bar s).addr ≠ 0 ∧
      ∃ j ≤ i, (w.bar s).HasPort j ∧
        w.address + BitVec.ofNat 32 i = (w.bar s).addr + BitVec.ofNat 32 j)

/-- All new places are free. -/
def PlacesFree : Prop := ∀ i, (w.bar s).HasPort i → w.PlaceFree s i

/-- Nothing changes; or a whole value, not all ones, unassigns a BAR that has no address or one port
at most, or moves one to places that are free. -/
def Fits : Prop :=
  w.Quiet (s.device w.fn).conf ∨
    w.Whole s ∧ w.value ≠ 0xffffffff ∧ (w.bar s).size.toNat ≤ 64 ∧
      (w.address = 0 → (w.bar s).addr = 0 ∨ (w.bar s).OnePort) ∧
      (w.address ≠ 0 → w.PlacesFree s)

/-! ### Evaluation -/

lemma toIoBar_iff : ((s.device w.fn).initialized = true ∧
    (s.device w.fn).conf pciConfHdrType &&& 3 = 0 ∧ pciConfBar0 ≤ w.offset.toNat ∧
    w.offset.toNat ≤ pciConfBar5 ∧ (w.bar s).type = .io ∧
    (w.length = 1 ∨ w.length = 2 ∨ w.length = 4)) ↔ w.ToIoBar s :=
  ⟨fun ⟨h₁, h₂, h₃, h₄, h₅, h₆⟩ => ⟨h₁, h₂, h₃, h₄, h₅, h₆⟩,
    fun h => ⟨h.initialized, h.header, h.first, h.last, h.type, h.length⟩⟩

instance : Decidable (w.ToIoBar s) := decidable_of_iff _ (toIoBar_iff w s)

lemma whole_iff : (w.offset.toNat = pciConfBar0 + 4 * w.barNum ∧ ∀ j < 4, w.length ≤ j →
    byteAt w.value j = (s.device w.fn).conf (w.offset.toNat + j)) ↔ w.Whole s :=
  ⟨fun h => ⟨h.1, h.2⟩, fun h => ⟨h.aligned, h.rest⟩⟩

instance : Decidable (w.Whole s) := decidable_of_iff _ (whole_iff w s)

instance (i : ℕ) : Decidable (w.PlaceFree s i) := inferInstanceAs (Decidable (_ ∧ (_ ∨ _ ∧ _)))

instance : Decidable (w.PlacesFree s) :=
  decidable_of_iff (∀ i < (w.bar s).size.toNat, (w.bar s).HasPort i → w.PlaceFree s i)
    ⟨fun h i hi => h i hi.1 hi, fun h i _ => h i⟩

instance : Decidable (w.Fits s) :=
  inferInstanceAs (Decidable (_ ∨ _ ∧ _ ∧ _ ∧ (_ → _ ∨ _) ∧ (_ → _)))

end PciWrite

/-! ## Bytes of the configuration space -/

section Conf

variable {f : ℕ → BitVec 8} {x : BitVec 32}

lemma littleEndian_four (f : ℕ → BitVec 8) (i : ℕ) : (littleEndian f 4).getLsbD i =
    (decide (i < 32) && (f (i / 8)).getLsbD (i % 8)) := getLsbD_littleEndian f le_rfl i

/-- The address in a doubleword, from its bytes. -/
lemma address_littleEndian (h0 : f 0 = (byteAt x 0 &&& 0xfc ||| 1))
    (h : ∀ j < 4, 0 < j → f j = byteAt x j) :
    littleEndian f 4 &&& ~~~3 = x &&& ~~~3 := by
  apply BitVec.eq_of_getLsbD_eq
  intro i hi
  rw [BitVec.getLsbD_and, BitVec.getLsbD_and, littleEndian_four]
  by_cases hlow : i < 8
  · have hdiv : i / 8 = 0 := by omega
    have hmod : i % 8 = i := by omega
    rw [hdiv, hmod, h0]
    interval_cases i <;> simp [byteAt]
  · have hbyte := h (i / 8) (by omega) (by omega)
    rw [hbyte, byteAt, BitVec.getLsbD_setWidth, BitVec.getLsbD_ushiftRight]
    have hmod : i % 8 < 8 := Nat.mod_lt _ (by decide)
    have hsum : 8 * (i / 8) + i % 8 = i := Nat.div_add_mod i 8
    simp [hi, hmod, hsum]

/-- The address of a BAR whose doubleword has been set to its type. -/
lemma address_storeDword_one (conf : ℕ → BitVec 8) (offset : ℕ) :
    littleEndian (fun j => storeDword conf offset 1 (offset + j)) 4 &&& ~~~3 = 0 := by
  have hbyte (j : ℕ) (hj : j < 4) : storeDword conf offset 1 (offset + j) = byteAt 1 j := by
    rw [storeDword, if_pos (by omega), Nat.add_sub_cancel_left]
  refine address_littleEndian (x := 0) ?_ fun j hj hpos => ?_
  · rw [hbyte 0 (by decide)]
    decide
  · rw [hbyte j hj]
    interval_cases j <;> decide

end Conf

/-! ## The loop over the ports -/

section Loop

variable {bar : PciBar} {a : BitVec 32} {i j k : ℕ}

/-- The first ports of a BAR, if it is at an address. -/
def portsAt (bar : PciBar) (a : BitVec 32) (k : ℕ) : List (BitVec 32) :=
  ((List.range k).filter fun i => bar.HasPort i).map fun i => a + BitVec.ofNat 32 i

lemma mem_portsAt {p : BitVec 32} :
    p ∈ portsAt bar a k ↔ ∃ i < k, bar.HasPort i ∧ p = a + BitVec.ofNat 32 i := by
  simp only [portsAt, List.mem_map, List.mem_filter, List.mem_range, decide_eq_true_eq]
  constructor
  · rintro ⟨i, ⟨hi, hport⟩, rfl⟩
    exact ⟨i, hi, hport, rfl⟩
  · rintro ⟨i, hi, hport, rfl⟩
    exact ⟨i, ⟨hi, hport⟩, rfl⟩

lemma portsAt_succ (h : bar.HasPort k) :
    portsAt bar a (k + 1) = portsAt bar a k ++ [a + BitVec.ofNat 32 k] := by
  simp [portsAt, List.range_succ, List.filter_append, h]

lemma portsAt_succ_of_not (h : ¬ bar.HasPort k) : portsAt bar a (k + 1) = portsAt bar a k := by
  simp [portsAt, List.range_succ, List.filter_append, h]

/-- The ports of a BAR are different. -/
lemma port_inj (hi : i < 64) (hj : j < 64) (h : a + BitVec.ofNat 32 i = a + BitVec.ofNat 32 j) :
    i = j := by
  have hsame : BitVec.ofNat 32 i = BitVec.ofNat 32 j := (BitVec.add_right_inj a).mp h
  have hnat := congrArg BitVec.toNat hsame
  rw [BitVec.toNat_ofNat, BitVec.toNat_ofNat, Nat.mod_eq_of_lt (by omega),
    Nat.mod_eq_of_lt (by omega)] at hnat
  exact hnat

/-- The ports that a BAR has at an address, which is none as long as it is not assigned. -/
def heldPorts (bar : PciBar) (k : ℕ) : List (BitVec 32) :=
  if bar.addr = 0 then [] else portsAt bar bar.addr k

end Loop

section Move

variable {w : PciWrite} {s u : PciBus} {t : BitVec 32 → Option PortOwner} {k : ℕ}

/-- What the loop finds at its start: the BAR has all its ports, which are on the bitmap, and the
new places are free. -/
structure Movable (w : PciWrite) (s : PciBus) : Prop where
  size : (w.bar s).size.toNat ≤ 64
  own : (w.bar s).addr ≠ 0 → ∀ i, (w.bar s).HasPort i →
    s.port ((w.bar s).addr + BitVec.ofNat 32 i) = some (.bar w.fn w.barNum)
  bitmap : ∀ p o, s.port p = some o → p < portIoBitmapSize
  free : ∀ i, (w.bar s).HasPort i → w.PlaceFree s i

/-- The table between two turns. -/
def turnTable (w : PciWrite) (s : PciBus) (k : ℕ) : BitVec 32 → Option PortOwner :=
  moved s.port (.bar w.fn w.barNum) (heldPorts (w.bar s) k) (portsAt (w.bar s) w.address k)

lemma lt_bound_of_lt_bitmap {p : BitVec 32} (h : p < portIoBitmapSize) :
    ¬ 0xffff ≤ p ∧ ¬ portIoBitmapSize ≤ p := by
  refine ⟨?_, BitVec.not_le.mpr h⟩
  rw [BitVec.lt_def] at h
  rw [BitVec.le_def]
  have hsize : portIoBitmapSize.toNat = 65504 := rfl
  have hbound : (0xffff : BitVec 32).toNat = 65535 := rfl
  omega

/-- The old place of a port has not been taken yet. -/
lemma Movable.old_not_taken (h : Movable w s) (hassigned : (w.bar s).addr ≠ 0)
    (hport : (w.bar s).HasPort k) :
    (w.bar s).addr + BitVec.ofNat 32 k ∉ portsAt (w.bar s) w.address k := by
  intro hmem
  obtain ⟨i, hi, hiport, heq⟩ := mem_portsAt.mp hmem
  have hsize := h.size
  have hk := hport.1
  rcases (h.free i hiport).2 with hnone | ⟨_, j, hji, hjport, hj⟩
  · rw [← heq, h.own hassigned k hport] at hnone
    cases hnone
  · have hkj := port_inj (by omega) (by omega) (heq.trans hj)
    omega

/-- One port is given up. -/
lemma Movable.remove (h : Movable w s) (hport : (w.bar s).HasPort k)
    (hu : u.port = turnTable w s k) :
    removeBarPort (w.bar s) k u = .ok { u with
      port := moved s.port (.bar w.fn w.barNum) (heldPorts (w.bar s) (k + 1))
        (portsAt (w.bar s) w.address k) } := by
  have hsize := h.size
  have hk := hport.1
  by_cases hassigned : (w.bar s).addr = 0
  · rw [removeBarPort, if_neg (not_not.mpr hassigned)]
    have hheld : heldPorts (w.bar s) (k + 1) = heldPorts (w.bar s) k := by
      rw [heldPorts, heldPorts, if_pos hassigned, if_pos hassigned]
    rw [hheld]
    have hsame : u = { u with port := turnTable w s k } := by rw [← hu]
    exact congrArg Except.ok hsame
  · rw [removeBarPort, if_pos hassigned]
    have hfresh := h.old_not_taken hassigned hport
    have hown := h.own hassigned k hport
    have hbound := lt_bound_of_lt_bitmap (h.bitmap _ _ hown)
    have hheld : heldPorts (w.bar s) (k + 1) =
        heldPorts (w.bar s) k ++ [(w.bar s).addr + BitVec.ofNat 32 k] := by
      rw [heldPorts, heldPorts, if_neg hassigned, if_neg hassigned, portsAt_succ hport]
    have hmapped : turnTable w s k ((w.bar s).addr + BitVec.ofNat 32 k) =
        some (.bar w.fn w.barNum) := by
      have hkept : (w.bar s).addr + BitVec.ofNat 32 k ∉ heldPorts (w.bar s) k := by
        rw [heldPorts, if_neg hassigned, mem_portsAt]
        rintro ⟨i, hi, _, heq⟩
        have hki := port_inj (by omega) (by omega) heq
        omega
      rw [turnTable, moved, if_neg hfresh, if_neg hkept, hown]
    rw [removePortIoHandler, if_neg hbound.1, if_neg hbound.2, hu, hmapped]
    simp only [Option.isNone_some, Bool.false_eq_true, if_false]
    rw [turnTable, remove_moved hfresh, hheld]

/-- One port is taken. -/
lemma Movable.register (h : Movable w s) (hport : (w.bar s).HasPort k)
    (hu : u.port = moved s.port (.bar w.fn w.barNum) (heldPorts (w.bar s) (k + 1))
      (portsAt (w.bar s) w.address k)) :
    registerPortIoHandler (w.address + BitVec.ofNat 32 k) (.bar w.fn w.barNum) u =
      .ok { u with port := turnTable w s (k + 1) } := by
  have hsize := h.size
  have hk := hport.1
  obtain ⟨hbitmap, hfree⟩ := h.free k hport
  have hbound := lt_bound_of_lt_bitmap hbitmap
  have hfresh : w.address + BitVec.ofNat 32 k ∉ portsAt (w.bar s) w.address k := by
    rw [mem_portsAt]
    rintro ⟨i, hi, _, heq⟩
    have hki := port_inj (by omega) (by omega) heq
    omega
  have hnone : u.port (w.address + BitVec.ofNat 32 k) = none := by
    rw [hu, moved, if_neg hfresh]
    rcases hfree with hnone | ⟨hassigned, j, hj, hjport, heq⟩
    · rw [hnone, ite_self]
    · refine if_pos ?_
      rw [heldPorts, if_neg hassigned, mem_portsAt]
      exact ⟨j, by omega, hjport, heq⟩
  rw [registerPortIoHandler, if_neg hbound.1, if_neg hbound.2, hnone]
  simp only [Option.isSome_none, Bool.false_eq_true, if_false]
  rw [hu, register_moved, turnTable, portsAt_succ hport]

/-- The loop, from any turn on. -/
lemma Movable.move (h : Movable w s) (haddress : w.address ≠ 0) (n : ℕ) :
    ∀ k u, k + n = (w.bar s).size.toNat → u.device = s.device → u.port = turnTable w s k →
      pciMoveBar w (List.range' k n) u =
        .ok { device := (s.setDevice w.fn ((s.device w.fn).setAddr w.barNum w.address)).device
              port := turnTable w s (w.bar s).size.toNat } := by
  induction n with
  | zero =>
    intro k u hk hdevice hport
    rw [Nat.add_zero] at hk
    rw [List.range'_zero, pciMoveBar, PciBus.setDevice, PciBus.setDevice, hdevice, hport, hk]
  | succ n ih =>
    intro k u hk hdevice hport
    have hsize := h.size
    have hbar : (u.device w.fn).bar w.barNum = w.bar s := by
      rw [hdevice]
      rfl
    have hless : ¬ 64 ≤ k := by omega
    rw [List.range'_succ, pciMoveBar]
    simp only [hbar, if_neg hless]
    by_cases hmask : (w.bar s).mask.getLsbD k = true
    · have hnot : ¬ (w.bar s).HasPort k := fun hhas => by
        rw [hhas.2] at hmask
        cases hmask
      rw [if_pos hmask]
      refine ih (k + 1) u (by omega) hdevice ?_
      have hheld : heldPorts (w.bar s) (k + 1) = heldPorts (w.bar s) k := by
        rw [heldPorts, heldPorts, portsAt_succ_of_not hnot]
      rw [hport, turnTable, turnTable, hheld, portsAt_succ_of_not hnot]
    · have hhas : (w.bar s).HasPort k := ⟨by omega, Bool.not_eq_true _ ▸ hmask⟩
      rw [if_neg hmask, h.remove hhas hport, ok_bind, if_neg haddress, h.register hhas rfl, ok_bind]
      exact ih (k + 1) _ (by omega) hdevice rfl

/-- A BAR that is unassigned has one port at most to give up. -/
lemma unassign (hsize : (w.bar s).size.toNat ≤ 64)
    (hown : (w.bar s).addr ≠ 0 → ∀ i, (w.bar s).HasPort i →
      s.port ((w.bar s).addr + BitVec.ofNat 32 i) = some (.bar w.fn w.barNum))
    (hbitmap : ∀ p o, s.port p = some o → p < portIoBitmapSize)
    (hone : (w.bar s).addr = 0 ∨ (w.bar s).OnePort)
    (haddress : w.address = 0) (n : ℕ) :
    ∀ k, k + n = (w.bar s).size.toNat → (∀ i < k, ¬ (w.bar s).HasPort i) →
      ∃ conf, pciMoveBar w (List.range' k n) s = .ok
        { device := (s.setDevice w.fn
            { (s.device w.fn).setAddr w.barNum w.address with conf := conf }).device
          port := moved s.port (.bar w.fn w.barNum)
            (heldPorts (w.bar s) (w.bar s).size.toNat) [] } ∧
        (conf = (s.device w.fn).conf ∨
          conf = storeDword (s.device w.fn).conf w.offset.toNat 1) := by
  induction n with
  | zero =>
    intro k hk hnone
    refine ⟨(s.device w.fn).conf, ?_, Or.inl rfl⟩
    have hheld : heldPorts (w.bar s) (w.bar s).size.toNat = [] := by
      unfold heldPorts
      split
      · rfl
      · refine List.eq_nil_iff_forall_not_mem.mpr fun p hp => ?_
        obtain ⟨i, hi, hport, -⟩ := mem_portsAt.mp hp
        exact hnone i (by omega) hport
    rw [List.range'_zero, pciMoveBar, hheld, moved_nil]
    rfl
  | succ n ih =>
    intro k hk hnone
    have hbar : (s.device w.fn).bar w.barNum = w.bar s := rfl
    have hless : ¬ 64 ≤ k := by omega
    rw [List.range'_succ, pciMoveBar]
    simp only [hbar, if_neg hless]
    by_cases hmask : (w.bar s).mask.getLsbD k = true
    · rw [if_pos hmask]
      refine ih (k + 1) (by omega) fun i hi hport => ?_
      rcases Nat.lt_succ_iff_lt_or_eq.mp hi with hlt | rfl
      · exact hnone i hlt hport
      · rw [hport.2] at hmask
        cases hmask
    · have hhas : (w.bar s).HasPort k := ⟨by omega, Bool.not_eq_true _ ▸ hmask⟩
      refine ⟨storeDword (s.device w.fn).conf w.offset.toNat 1, ?_, Or.inr rfl⟩
      rw [if_neg hmask]
      by_cases hassigned : (w.bar s).addr = 0
      · have hheld : heldPorts (w.bar s) (w.bar s).size.toNat = [] := if_pos hassigned
        rw [removeBarPort, if_neg (not_not.mpr hassigned), ok_bind, if_pos haddress, hheld,
          moved_nil, haddress]
        rfl
      · have hkmem := hown hassigned k hhas
        have hbound := lt_bound_of_lt_bitmap (hbitmap _ _ hkmem)
        have hheld (p : BitVec 32) : p ∈ heldPorts (w.bar s) (w.bar s).size.toNat ↔
            p ∈ [(w.bar s).addr + BitVec.ofNat 32 k] := by
          rw [heldPorts, if_neg hassigned, mem_portsAt, List.mem_singleton]
          constructor
          · rintro ⟨i, _, hport, rfl⟩
            rw [(hone.resolve_left hassigned) i k hport hhas]
          · rintro rfl
            exact ⟨k, hhas.1, hhas, rfl⟩
        rw [removeBarPort, if_pos hassigned, removePortIoHandler, if_neg hbound.1,
          if_neg hbound.2, hkmem]
        simp only [Option.isNone_some, Bool.false_eq_true, if_false, ok_bind, if_pos haddress]
        rw [moved_congr hheld, ← update_none, haddress]
        rfl

end Move

/-! ## One write -/

section Write

variable {handler : PciBus → PciWrite → PciOutcome PciBus} {w : PciWrite} {s t : PciBus}

/-- The bytes of a whole value are those of the doubleword. -/
lemma PciWrite.Whole.store (hw : w.Whole s) (hlength : 0 < w.length) :
    littleEndian (fun j => w.store (s.device w.fn).conf (pciConfBar0 + 4 * w.barNum + j)) 4 &&&
      ~~~3 = w.address := by
  have hbase := hw.aligned
  refine address_littleEndian ?_ fun j hj hpos => ?_
  · rw [← hbase]
    simp only [PciWrite.store, Nat.add_zero, le_refl, true_and, Nat.sub_self]
    rw [if_pos (by omega)]
    rfl
  · rw [← hbase]
    simp only [PciWrite.store]
    by_cases hwritten : j < w.length
    · rw [if_pos (by omega), Nat.add_sub_cancel_left, PciWrite.byte, if_neg (by omega)]
    · rw [if_neg (by omega)]
      exact (hw.rest j hj (by omega)).symm

/-- What a write that moves a BAR does. -/
structure BarMoved (w : PciWrite) (s t : PciBus) : Prop where
  device : ∃ conf, t.device = (s.setDevice w.fn
    { (s.device w.fn).setAddr w.barNum w.address with conf := conf }).device ∧
    (∀ x, ¬ (w.offset.toNat ≤ x ∧ x < w.offset.toNat + 4) → conf x = (s.device w.fn).conf x) ∧
    littleEndian (fun j => conf (pciConfBar0 + 4 * w.barNum + j)) 4 &&& ~~~3 = w.address
  port : t.port = moved s.port (.bar w.fn w.barNum) (heldPorts (w.bar s) (w.bar s).size.toNat)
    (if w.address = 0 then [] else portsAt (w.bar s) w.address (w.bar s).size.toNat)

/-- The configuration space with the value in it. -/
def stored (w : PciWrite) (s : PciBus) : PciBus :=
  s.setDevice w.fn { s.device w.fn with conf := w.store (s.device w.fn).conf }

lemma device_stored : (stored w s).device w.fn =
    { s.device w.fn with conf := w.store (s.device w.fn).conf } := Function.update_self _ _ _

lemma bar_stored : w.bar (stored w s) = w.bar s := by
  rw [PciWrite.bar, device_stored]
  rfl

/-- A write to an I/O BAR. -/
lemma PciWrite.ToIoBar.write (h : w.ToIoBar s) : pciWriteConfHandler handler s w =
    if w.Quiet (s.device w.fn).conf then .ok (stored w s)
    else if w.value = 0xffffffff then
      .ok (s.setDevice w.fn { s.device w.fn with
        conf := w.storeSize (w.bar s).size (w.store (s.device w.fn).conf) })
    else pciMoveBar w (List.range' 0 (w.bar s).size.toNat) (stored w s) := by
  have hinitialized : ¬ (s.device w.fn).initialized = false := by
    rw [h.initialized]
    decide
  have hlast : w.offset.toNat ≤ 36 := h.last
  have hoffset : ¬ (w.offset = 0xff ∨ 0xff ≤ w.offset.toNat + w.length) := by
    rintro (heq | hle)
    · rw [heq] at hlast
      exact absurd hlast (by decide)
    · have hlength := h.length
      omega
  have htype : ¬ ((s.device w.fn).bar w.barNum).type = .none := by
    rw [show ((s.device w.fn).bar w.barNum).type = .io from h.type]
    decide
  unfold pciWriteConfHandler
  simp only [if_neg hinitialized, if_neg hoffset, if_pos (⟨h.header, h.first, h.last⟩ :
    (s.device w.fn).conf pciConfHdrType &&& 3 = 0 ∧ pciConfBar0 ≤ w.offset.toNat ∧
      w.offset.toNat ≤ pciConfBar5), if_neg htype]
  rw [List.range_eq_range']
  rfl

/-- A quiet write changes nothing. -/
lemma stored_of_quiet (h : w.Quiet (s.device w.fn).conf) : stored w s = s := by
  have hconf : w.store (s.device w.fn).conf = (s.device w.fn).conf := by
    funext x
    unfold PciWrite.store
    split
    · rename_i hx
      have hbyte := h (x - w.offset.toNat) (by omega)
      rwa [Nat.add_sub_cancel' hx.1] at hbyte
    · rfl
  rw [stored, hconf]
  exact congrArg (fun d => { s with device := d }) (Function.update_eq_self _ _)

lemma PciWrite.ToIoBar.length_pos (h : w.ToIoBar s) : 0 < w.length ∧ w.length ≤ 4 := by
  have hlength := h.length
  omega

/-- A write that fits, and is not quiet, moves the BAR. -/
lemma exists_barMoved (hscope : w.ToIoBar s) (hloud : ¬ w.Quiet (s.device w.fn).conf)
    (hwhole : w.Whole s) (hvalue : w.value ≠ 0xffffffff) (hsize : (w.bar s).size.toNat ≤ 64)
    (hzero : w.address = 0 → (w.bar s).addr = 0 ∨ (w.bar s).OnePort)
    (hmove : w.address ≠ 0 → w.PlacesFree s)
    (hown : (w.bar s).addr ≠ 0 → ∀ i, (w.bar s).HasPort i →
      s.port ((w.bar s).addr + BitVec.ofNat 32 i) = some (.bar w.fn w.barNum))
    (hbitmap : ∀ p o, s.port p = some o → p < portIoBitmapSize) :
    ∃ t, pciWriteConfHandler handler s w = .ok t ∧ BarMoved w s t := by
  obtain ⟨hpos, hfour⟩ := hscope.length_pos
  have hbar : w.bar (stored w s) = w.bar s := bar_stored
  have hoffset := hwhole.aligned
  have houtside (x : ℕ) (hx : ¬ (w.offset.toNat ≤ x ∧ x < w.offset.toNat + 4)) :
      w.store (s.device w.fn).conf x = (s.device w.fn).conf x :=
    if_neg fun hin => hx ⟨hin.1, by omega⟩
  rw [hscope.write, if_neg hloud, if_neg hvalue]
  by_cases haddress : w.address = 0
  · obtain ⟨conf, hok, hconf⟩ := unassign (s := stored w s) (by rwa [hbar])
      (by rw [hbar]; exact hown) hbitmap (by rw [hbar]; exact hzero haddress) haddress
      (w.bar s).size.toNat 0 (by rw [hbar, Nat.zero_add]) (fun i hi =>
        absurd hi (Nat.not_lt_zero i))
    refine ⟨_, hok, ⟨conf, ?_, ?_, ?_⟩, ?_⟩
    · simp only [PciBus.setDevice, stored, Function.update_idem, Function.update_self,
        PciDevice.setAddr]
    · intro x hx
      rcases hconf with rfl | rfl
      · rw [device_stored]
        exact houtside x hx
      · rw [storeDword, if_neg hx, device_stored]
        exact houtside x hx
    · rcases hconf with rfl | rfl
      · rw [device_stored]
        exact hwhole.store hpos
      · rw [haddress, ← hoffset]
        exact address_storeDword_one _ _
    · simp only [hbar, if_pos haddress]
      rfl
  · have hmovable : Movable w (stored w s) := by
      refine ⟨by rwa [hbar], by rw [hbar]; exact hown, hbitmap, ?_⟩
      rw [hbar]
      intro i hi
      have hfree := hmove haddress i hi
      rw [PciWrite.PlaceFree, hbar]
      exact hfree
    have hok := hmovable.move haddress (w.bar s).size.toNat 0 (stored w s)
      (by rw [hbar, Nat.zero_add]) rfl (by
        have hheld : heldPorts (w.bar (stored w s)) 0 = [] := by
          rw [heldPorts, ite_eq_left_iff]
          exact fun _ => rfl
        rw [turnTable, hheld]
        exact moved_nil.symm)
    refine ⟨_, hok, ⟨w.store (s.device w.fn).conf, ?_, houtside, hwhole.store hpos⟩, ?_⟩
    · simp only [PciBus.setDevice, stored, Function.update_idem, Function.update_self,
        PciDevice.setAddr]
    · rw [if_neg haddress, turnTable, hbar]
      rfl

/-- The invariant of a run: the BARs agree, and no port is beyond the bitmap. -/
structure PciSound (s : PciBus) : Prop where
  agree : BarsAgree s
  bitmap : ∀ p o, s.port p = some o → p < portIoBitmapSize

/-- A BAR that agrees has the ports that the loop gives up. -/
lemma PciWrite.ToIoBar.agrees (h : w.ToIoBar s) (hs : PciSound s) :
    BarAgrees s w.fn w.barNum := by
  have hlast : w.offset.toNat ≤ 36 := h.last
  have hnumber : w.barNum < 6 := by
    rw [PciWrite.barNum, pciConfBar0]
    omega
  exact hs.agree w.fn h.initialized w.barNum hnumber h.type

lemma BarAgrees.mem_heldPorts (h : BarAgrees s w.fn w.barNum) (p : BitVec 32) :
    s.port p = some (.bar w.fn w.barNum) ↔ p ∈ heldPorts (w.bar s) (w.bar s).size.toNat := by
  rw [h.ports, heldPorts]
  change (w.bar s).addr ≠ 0 ∧ (∃ i, (w.bar s).HasPort i ∧ _) ↔ _
  by_cases hassigned : (w.bar s).addr = 0
  · simp [hassigned]
  · rw [if_neg hassigned, mem_portsAt, and_iff_right hassigned]
    constructor
    · rintro ⟨i, hport, heq⟩
      exact ⟨i, hport.1, hport, heq⟩
    · rintro ⟨i, _, hport, heq⟩
      exact ⟨i, hport, heq⟩

/-- The ports of the others are left alone by a write that fits. -/
lemma BarMoved.others (hmoved : BarMoved w s t) (hagrees : BarAgrees s w.fn w.barNum)
    (hmove : w.address ≠ 0 → w.PlacesFree s) :
    OthersKept (.bar w.fn w.barNum) s t := by
  intro p o ho
  rw [hmoved.port]
  refine other_moved ho (fun k hk => (hagrees.mem_heldPorts k).mpr hk) (fun k hk => ?_) p
  by_cases haddress : w.address = 0
  · rw [if_pos haddress] at hk
    cases hk
  · rw [if_neg haddress] at hk
    obtain ⟨i, _, hport, rfl⟩ := mem_portsAt.mp hk
    rcases (hmove haddress i hport).2 with hnone | ⟨hassigned, j, _, hj, heq⟩
    · exact Or.inl hnone
    · rw [heq]
      exact Or.inr ((hagrees.ports _).mpr ⟨hassigned, j, hj, rfl⟩)

/-- The BARs agree after a write that fits. -/
lemma BarMoved.sound (hmoved : BarMoved w s t) (hs : PciSound s) (hscope : w.ToIoBar s)
    (hwhole : w.Whole s)
    (hmove : w.address ≠ 0 → w.PlacesFree s) : PciSound t := by
  have hagrees := hscope.agrees hs
  have hothers := hmoved.others hagrees hmove
  obtain ⟨conf, hdevice, houtside, hdword⟩ := hmoved.device
  have hnews (p : BitVec 32) : t.port p = some (.bar w.fn w.barNum) ↔
      p ∈ if w.address = 0 then [] else portsAt (w.bar s) w.address (w.bar s).size.toNat := by
    rw [hmoved.port]
    exact owned_moved (fun k hk => (hagrees.mem_heldPorts k).mp hk) p
  refine ⟨fun fn hinitialized barNum hnumber htype => ?_, fun p o hp => ?_⟩
  · by_cases hfn : fn = w.fn
    · subst hfn
      have hthere : t.device w.fn =
          { (s.device w.fn).setAddr w.barNum w.address with conf := conf } := by
        rw [hdevice]
        exact Function.update_self _ _ _
      by_cases hbar : barNum = w.barNum
      · subst hbar
        have hmine : (t.device w.fn).bar w.barNum =
            { (s.device w.fn).bar w.barNum with addr := w.address } := by
          rw [hthere]
          exact Function.update_self _ _ _
        refine ⟨?_, fun p => ?_⟩
        · rw [hmine, hthere]
          exact hdword.symm
        · rw [hnews, hmine]
          by_cases haddress : w.address = 0
          · simp [haddress]
          · rw [if_neg haddress, mem_portsAt]
            constructor
            · rintro ⟨i, _, hport, heq⟩
              exact ⟨haddress, i, hport, heq⟩
            · rintro ⟨_, i, hport, heq⟩
              exact ⟨i, hport.1, hport, heq⟩
      · have hsame : (t.device w.fn).bar barNum = (s.device w.fn).bar barNum := by
          rw [hthere]
          exact Function.update_of_ne hbar _ _
        have hconf : (t.device w.fn).barDword barNum = (s.device w.fn).barDword barNum := by
          refine littleEndian_congr fun j hj => ?_
          rw [hthere]
          refine houtside _ fun hin => hbar ?_
          have haligned := hwhole.aligned
          omega
        have hold := hs.agree w.fn (by rw [← hinitialized, hthere]; rfl) barNum hnumber
          (by rw [← hsame]; exact htype)
        refine ⟨by rw [hsame, hconf]; exact hold.addr, fun p => ?_⟩
        rw [hothers p _ (fun h => hbar (PortOwner.bar.inj h).2), hsame]
        exact hold.ports p
    · have hsame : t.device fn = s.device fn := by
        rw [hdevice]
        exact Function.update_of_ne hfn _ _
      have hold := hs.agree fn (by rw [← hsame]; exact hinitialized) barNum hnumber
        (by rw [← hsame]; exact htype)
      refine ⟨by rw [hsame]; exact hold.addr, fun p => ?_⟩
      rw [hothers p _ (fun h => hfn (PortOwner.bar.inj h).1), hsame]
      exact hold.ports p
  · by_cases ho : o = .bar w.fn w.barNum
    · subst ho
      have hp' := (hnews p).mp hp
      by_cases haddress : w.address = 0
      · rw [if_pos haddress] at hp'
        cases hp'
      · rw [if_neg haddress] at hp'
        obtain ⟨i, _, hport, rfl⟩ := mem_portsAt.mp hp'
        exact (hmove haddress i hport).1
    · exact hs.bitmap p o ((hothers p o ho).mp hp)

/-- A write that fits goes through, keeps the invariant, and leaves the others' ports alone. -/
lemma PciSound.write (hs : PciSound s) (hscope : w.ToIoBar s) (hfits : w.Fits s) :
    ∃ t, pciWriteConfHandler handler s w = .ok t ∧ PciSound t ∧
      OthersKept (.bar w.fn w.barNum) s t := by
  by_cases hquiet : w.Quiet (s.device w.fn).conf
  · refine ⟨s, ?_, hs, fun _ _ _ => Iff.rfl⟩
    rw [hscope.write, if_pos hquiet, stored_of_quiet hquiet]
  · obtain ⟨hwhole, hvalue, hsize, hzero, hmove⟩ := hfits.resolve_left hquiet
    have hagrees := hscope.agrees hs
    obtain ⟨t, hok, hmoved⟩ := exists_barMoved hscope hquiet hwhole hvalue hsize hzero hmove
      (fun hassigned i hi => (hagrees.ports _).mpr ⟨hassigned, i, hi, rfl⟩) hs.bitmap
    exact ⟨t, hok, hmoved.sound hs hscope hwhole hmove, hmoved.others hagrees hmove⟩

/-- A list of writes that fit. -/
lemma PciSound.follow {writes : List PciWrite} (hs : PciSound s)
    (h : Meets (pciWriteConfHandler handler) (fun s w => w.ToIoBar s ∧ w.Fits s) s writes) :
    BarsFollow handler s writes := by
  induction writes generalizing s with
  | nil => exact hs.agree
  | cons w ws ih =>
    obtain ⟨t, hok, ht, hothers⟩ := hs.write h.1.1 h.1.2
    exact ⟨hs.agree, t, hok, hothers, ih ht (h.2 t hok)⟩

end Write

/-! ## Registration -/

section Registered

/-- No BAR is assigned, or has a port. -/
structure Unassigned (s : PciBus) : Prop where
  device : ∀ p fn barNum, s.port p ≠ some (.bar fn barNum)
  bitmap : ∀ p o, s.port p = some o → p < portIoBitmapSize
  bar : ∀ fn, ∀ barNum < 6, ((s.device fn).bar barNum).type = .io →
    ((s.device fn).bar barNum).addr = 0 ∧ (s.device fn).barDword barNum &&& ~~~3 = 0

lemma Unassigned.sound {s : PciBus} (h : Unassigned s) : PciSound s := by
  refine ⟨fun fn _ barNum hnumber htype => ?_, h.bitmap⟩
  obtain ⟨haddr, hdword⟩ := h.bar fn barNum hnumber htype
  refine ⟨by rw [haddr, hdword], fun p => iff_of_false (h.device p fn barNum) fun hp => ?_⟩
  exact hp.1 haddr

lemma Unassigned.setDevice {s : PciBus} (h : Unassigned s) (fn : PciFunction) {device : PciDevice}
    (hdevice : ∀ barNum < 6, (device.bar barNum).type = .io →
      (device.bar barNum).addr = 0 ∧ device.barDword barNum &&& ~~~3 = 0) :
    Unassigned (s.setDevice fn device) := by
  refine ⟨h.device, h.bitmap, fun fn' barNum hnumber htype => ?_⟩
  by_cases hfn : fn' = fn
  · subst hfn
    have hsame : (s.setDevice fn' device).device fn' = device := Function.update_self _ _ _
    rw [hsame] at htype ⊢
    exact hdevice barNum hnumber htype
  · have hsame : (s.setDevice fn device).device fn' = s.device fn' := Function.update_of_ne hfn _ _
    rw [hsame] at htype ⊢
    exact h.bar fn' barNum hnumber htype

/-- A function's configuration space begins with zeros in its BARs. -/
lemma Unassigned.config {s : PciBus} (h : Unassigned s) (fn : PciFunction)
    {conf : ℕ → BitVec 8} (hconf : ∀ x, pciConfBar0 ≤ x → x < 0x28 → conf x = 0) :
    Unassigned (s.setDevice fn { s.device fn with conf := conf }) := by
  refine h.setDevice fn fun barNum hnumber htype => ⟨(h.bar fn barNum hnumber htype).1, ?_⟩
  have hzero : littleEndian (fun j => conf (pciConfBar0 + 4 * barNum + j)) 4 =
      littleEndian (fun _ => 0) 4 := by
    refine littleEndian_congr fun j hj => hconf _ (by omega) ?_
    rw [pciConfBar0]
    omega
  have hdword : littleEndian (fun j => conf (pciConfBar0 + 4 * barNum + j)) 4 &&& ~~~3 = 0 := by
    rw [hzero]
    decide
  exact hdword

/-- An I/O BAR begins without an address. -/
lemma Unassigned.setBar {s : PciBus} (h : Unassigned s) (fn : PciFunction) (barNumber : BitVec 8)
    (size : BitVec 16) (mask : BitVec 64) :
    Unassigned (pciSetBarIo fn barNumber 0 size mask s) := by
  unfold pciSetBarIo
  split
  · refine h.setDevice fn fun barNum hnumber htype => ?_
    by_cases hbar : barNum = barNumber.toNat
    · subst hbar
      refine ⟨?_, address_storeDword_one _ _⟩
      simp only [Function.update_self]
    · simp only [Function.update_of_ne hbar] at htype ⊢
      obtain ⟨haddr, hdword⟩ := h.bar fn barNum hnumber htype
      refine ⟨haddr, ?_⟩
      have hsame : littleEndian (fun j => storeDword (s.device fn).conf
          (pciConfBar0 + 4 * barNumber.toNat) (0 ||| 1) (pciConfBar0 + 4 * barNum + j)) 4 =
          (s.device fn).barDword barNum :=
        littleEndian_congr fun j hj => if_neg (by omega)
      rw [← hsame] at hdword
      exact hdword
  · exact h

lemma Unassigned.registration {s t : PciBus} {r : PciRegistration} (h : Unassigned s)
    (hok : pciRegistration s r = .ok t) : Unassigned t := by
  cases r with
  | handler fn =>
    obtain rfl := Except.ok.inj hok
    unfold pciRegisterConfigHandler
    split
    · exact h
    · exact h.setDevice fn (h.bar fn)
  | config fn vendor device revision cls progIf type interruptPin =>
    rw [pciRegistration, pciInitConfig] at hok
    by_cases hinit : (s.device fn).initialized = false
    · rw [if_pos hinit] at hok
      cases hok
    rw [if_neg hinit] at hok
    obtain rfl := Except.ok.inj hok
    refine h.config fn fun x hfirst hlast => ?_
    have hfirst' : 16 ≤ x := hfirst
    have hid (y : ℕ) (hy : y < 16) : x ≠ y := by omega
    have hpin : x ≠ 0x3d := by omega
    have hcleared : x < 0xff := by omega
    rw [if_neg hpin, if_neg (hid pciConfHdrType (by decide)), if_neg (hid 0x0b (by decide)),
      if_neg (hid 0x0a (by decide)), if_neg (hid 0x09 (by decide)), if_neg (hid 0x08 (by decide)),
      if_neg (hid 0x03 (by decide)), if_neg (hid 0x02 (by decide)), if_neg (hid 0x01 (by decide)),
      if_neg (hid 0x00 (by decide)), if_pos hcleared]
  | bar fn barNumber size mask =>
    obtain rfl := Except.ok.inj hok
    exact h.setBar fn barNumber size mask
  | port address n =>
    rw [pciRegistration, registerPortIoHandler] at hok
    split at hok
    · cases hok
    split at hok
    · cases hok
    rename_i hbitmap
    split at hok
    · cases hok
    obtain rfl := Except.ok.inj hok
    refine ⟨fun p fn barNum hp => ?_, fun p o hp => ?_, h.bar⟩
    · change Function.update s.port address (some (.device n)) p = _ at hp
      by_cases haddress : p = address
      · subst haddress
        rw [Function.update_self] at hp
        cases hp
      · rw [Function.update_of_ne haddress] at hp
        exact h.device p fn barNum hp
    · change Function.update s.port address (some (.device n)) p = _ at hp
      by_cases haddress : p = address
      · subst haddress
        exact BitVec.not_le.mp hbitmap
      · rw [Function.update_of_ne haddress] at hp
        exact h.bitmap p o hp

lemma unassigned_initialState : Unassigned pciInitialState := by
  refine ⟨fun p fn barNum h => ?_, fun p o h => ?_, fun fn barNum _ h => ?_⟩
  · cases h
  · cases h
  · cases h

end Registered

/-- After every registration, and whatever handlers functions have for the rest of their
configuration space: writes to I/O BARs that fit where they are made go through, the BARs agree
throughout, and nobody else's ports are touched. -/
theorem bars_follow_writes (handler : PciBus → PciWrite → PciOutcome PciBus)
    (registrations : List PciRegistration) (writes : List PciWrite) (s : PciBus)
    (hregistered : run pciRegistration pciInitialState registrations = .ok s)
    (hscope : Meets (pciWriteConfHandler handler) (fun s w => w.ToIoBar s) s writes)
    (hfits : Meets (pciWriteConfHandler handler) (fun s w => w.Fits s) s writes) :
    BarsFollow handler s writes := by
  have hunassigned : Unassigned s :=
    run_invariant (I := Unassigned) (P := fun _ _ => True) (fun _ _ _ h _ hok => h.registration hok)
      unassigned_initialState (Meets.always _ _) hregistered
  exact hunassigned.sound.follow (hscope.and hfits)

/-- The IDE function and its BAR 4, as they are registered. -/
def ideRegistrations : List PciRegistration :=
  [.port 0x1f0 0, .handler ideFunction,
    .config ideFunction 0x8086 0x7010 0x00 0x0101 0x80 0x00 0, .bar ideFunction 4 16 0xeaea]

/-- A configuration write to BAR 4 of the IDE function. -/
def ideBarWrite (offset : BitVec 8) (value : BitVec 32) (length : ℕ) : PciWrite :=
  ⟨ideFunction, offset, value, length⟩

/-- The BAR is assigned, moved down over itself, and moved up by a write of its lower half. -/
theorem bars_follow_writes_ide : ∃ s,
    run pciRegistration pciInitialState ideRegistrations = .ok s ∧
      BarsFollow (fun s _ => .ok s) s [ideBarWrite 0x20 0xc008 4, ideBarWrite 0x20 0xc000 4,
        ideBarWrite 0x20 0xc100 2] := by
  obtain ⟨s, hs, hscope, hfits⟩ := exists_of_ends (fun s : PciBus =>
    Meets (pciWriteConfHandler fun s _ => .ok s) (fun s w => w.ToIoBar s) s
      [ideBarWrite 0x20 0xc008 4, ideBarWrite 0x20 0xc000 4, ideBarWrite 0x20 0xc100 2] ∧
    Meets (pciWriteConfHandler fun s _ => .ok s) (fun s w => w.Fits s) s
      [ideBarWrite 0x20 0xc008 4, ideBarWrite 0x20 0xc000 4, ideBarWrite 0x20 0xc100 2])
    (show ends _ (run pciRegistration pciInitialState ideRegistrations) = true by decide +kernel)
  exact ⟨s, hs, bars_follow_writes _ ideRegistrations _ s hs hscope hfits⟩

/-- A BAR that is unassigned keeps the handlers of all its ports but the first. -/
theorem unassigned_bar_keeps_ports : ∃ s,
    run pciRegistration pciInitialState ideRegistrations = .ok s ∧
      Meets (pciWriteConfHandler fun s _ => .ok s) (fun s w => w.ToIoBar s) s
        [ideBarWrite 0x20 0xc000 4, ideBarWrite 0x20 0 4] ∧
      ¬ BarsFollow (fun s _ => .ok s) s [ideBarWrite 0x20 0xc000 4, ideBarWrite 0x20 0 4] := by
  obtain ⟨s, hs, hscope, hkept⟩ := exists_of_ends (fun s : PciBus =>
    Meets (pciWriteConfHandler fun s _ => .ok s) (fun s w => w.ToIoBar s) s
      [ideBarWrite 0x20 0xc000 4, ideBarWrite 0x20 0 4] ∧
    ends (fun t : PciBus => (t.device ideFunction).initialized = true ∧
      ((t.device ideFunction).bar 4).type = .io ∧ ((t.device ideFunction).bar 4).addr = 0 ∧
      t.port 0xc002 = some (.bar ideFunction 4)) (run (pciWriteConfHandler fun s _ => .ok s) s
        [ideBarWrite 0x20 0xc000 4, ideBarWrite 0x20 0 4]) = true)
    (show ends _ (run pciRegistration pciInitialState ideRegistrations) = true by decide +kernel)
  refine ⟨s, hs, hscope, fun hfollow => ?_⟩
  obtain ⟨-, t, ht, -, -, u, hu, -, hagree⟩ := hfollow
  obtain ⟨v, hv, hinitialized, htype, haddr, hport⟩ := exists_of_ends _ hkept
  have hrun : run (pciWriteConfHandler fun s _ => .ok s) s
      [ideBarWrite 0x20 0xc000 4, ideBarWrite 0x20 0 4] = .ok u :=
    run_cons_ok.mpr ⟨t, ht, run_cons_ok.mpr ⟨u, hu, rfl⟩⟩
  obtain rfl := Except.ok.inj (hv.symm.trans hrun)
  exact (((hagree ideFunction hinitialized 4 (by decide) htype).ports 0xc002).mp hport).1 haddr

end Svmm
