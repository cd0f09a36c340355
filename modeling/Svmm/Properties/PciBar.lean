import Svmm.Construction.PciBar
import Svmm.Framework.Run
import Mathlib.Tactic.IntervalCases

/-!
# Sizing a BAR

A guest finds out the size of a BAR by writing all ones to it and reading it back, and then writes
the old value again.  An I/O BAR answers as it should and comes back, when its ports are its own.  A
memory BAR puts the bytes of the mask together in the opposite order, so that its answer is wrong
for every size; only where the write changes nothing is the old value itself the right answer.
-/

namespace Svmm

open Bytes TransitionRun

variable {η : Type}

/-! ## Doublewords of the configuration space -/

/-- A doubleword of the configuration space. -/
def readDword (conf : ℕ → BitVec 8) (offset : ℕ) : BitVec 32 :=
  littleEndian (fun j => conf (offset + j)) 4

section Dwords

variable (conf : ℕ → BitVec 8) (offset : ℕ) (value : BitVec 32)

lemma storeDword_add {j : ℕ} (hj : j < 4) :
    storeDword conf offset value (offset + j) = byteAt value j := by
  rw [storeDword, if_pos (by omega), Nat.add_sub_cancel_left]

lemma readDword_storeDword : readDword (storeDword conf offset value) offset = value := by
  rw [readDword, littleEndian_congr fun j hj => storeDword_add conf offset value hj]
  exact littleEndian_byteAt value

lemma byteAt_readDword {j : ℕ} (hj : j < 4) : byteAt (readDword conf offset) j =
    conf (offset + j) :=
  byteAt_littleEndian _ (Nat.le_refl 4) hj

lemma storeDword_readDword : storeDword conf offset (readDword conf offset) = conf := by
  funext x
  unfold storeDword
  split_ifs with hx
  · rw [byteAt_readDword conf offset (by omega), Nat.add_sub_cancel' hx.1]
  · rfl

lemma storeDword_storeDword (v : BitVec 32) :
    storeDword (storeDword conf offset v) offset value = storeDword conf offset value := by
  funext x
  unfold storeDword
  split_ifs <;> rfl

end Dwords

/-! ## The mask of a size -/

/-- The bits of an address that a BAR of this size decodes. -/
def sizeMask (size : BitVec 32) : BitVec 32 := ~~~(size - 1)

lemma getLsbD_sizeMask {size : BitVec 32} {k i : ℕ} (hsize : size.toNat = 2 ^ k) (hi : i < 32) :
    (sizeMask size).getLsbD i = decide (k ≤ i) := by
  have hk : k < 32 := by
    have hlt := size.isLt
    rw [hsize] at hlt
    exact (Nat.pow_lt_pow_iff_right (by decide)).mp hlt
  have hpos : 0 < 2 ^ k := Nat.two_pow_pos k
  have hsub : (size - 1).toNat = 2 ^ k - 1 := by
    have hone : (1 : BitVec 32).toNat = 1 := rfl
    have hlt := size.isLt
    rw [BitVec.toNat_sub, hsize, hone]
    omega
  rw [sizeMask, BitVec.getLsbD_not, BitVec.getLsbD, hsub, Nat.testBit_two_pow_sub_one]
  by_cases hle : k ≤ i
  · simp [hi, hle]
  · simp [hi, hle, Nat.lt_of_not_le hle]

/-! ## Writes of doublewords to BARs -/

/-- The write of a doubleword to a BAR. -/
def barWrite (n : Fin 6) (value : BitVec 32) : PciWrite where
  fn := (0, 0)
  offset := BitVec.ofNat 8 (pciConfBar0 + 4 * n)
  value := value
  length := 4

/-- What the first pass puts into a BAR that holds `old`. -/
def barStored (type : BarType) (value old : BitVec 32) : BitVec 32 :=
  if type = .io then value &&& 0xfffffffc ||| 1 else value &&& 0xfffffff0 ||| old &&& 0xf

/-- The doubleword of a BAR. -/
def BarSystem.dword (s : BarSystem η) (n : Fin 6) : BitVec 32 :=
  readDword s.conf (pciConfBar0 + 4 * n)

section Writes

variable (n : Fin 6) (value : BitVec 32) (type : BarType) (conf : ℕ → BitVec 8)

lemma barWrite_offset : (barWrite n value).offset.toNat = pciConfBar0 + 4 * n := by
  show (BitVec.ofNat 8 (pciConfBar0 + 4 * n)).toNat = _
  rw [BitVec.toNat_ofNat]
  unfold pciConfBar0
  omega

lemma barWrite_barNum : (barWrite n value).barNum = n := by
  rw [PciWrite.barNum, barWrite_offset]
  omega

lemma barWrite_value : (barWrite n value).value = value := rfl

/-- The bytes of the first pass are those of one doubleword. -/
lemma barByte_barWrite {i : ℕ} (hi : i < 4) :
    (barWrite n value).barByte type conf i =
      byteAt (barStored type value (readDword conf (pciConfBar0 + 4 * n))) i := by
  have hfirst : conf (barWrite n value).offset.toNat =
      byteAt (readDword conf (pciConfBar0 + 4 * n)) 0 := by
    rw [barWrite_offset, byteAt_readDword _ _ (by decide)]
    rfl
  unfold PciWrite.barByte barStored
  rw [hfirst]
  show (if i = 0 then if type = .io then byteAt value 0 &&& 0xfc ||| 1 else
    byteAt value 0 &&& 0xf0 ||| byteAt _ 0 &&& 0x0f else byteAt value i) = _
  by_cases hzero : i = 0
  · subst hzero
    by_cases hio : type = .io
    · rw [if_pos rfl, if_pos hio, if_pos hio, byteAt_or, byteAt_and]
      rfl
    · rw [if_pos rfl, if_neg hio, if_neg hio, byteAt_or, byteAt_and, byteAt_and]
      rfl
  · have hones (m : BitVec 32) (hm : m = 0xfffffffc ∨ m = 0xfffffff0) :
        byteAt m i = BitVec.allOnes 8 := by
      rcases hm with rfl | rfl <;> interval_cases i <;> first | rfl | contradiction
    have hzeros (m : BitVec 32) (hm : m = 1 ∨ m = 0xf) : byteAt m i = 0#8 := by
      rcases hm with rfl | rfl <;> interval_cases i <;> first | rfl | contradiction
    rw [if_neg hzero]
    split_ifs
    · rw [byteAt_or, byteAt_and, hones _ (Or.inl rfl), hzeros _ (Or.inl rfl), BitVec.and_allOnes,
        BitVec.or_zero]
    · rw [byteAt_or, byteAt_and, byteAt_and, hones _ (Or.inr rfl), hzeros _ (Or.inr rfl),
        BitVec.and_allOnes, BitVec.and_zero, BitVec.or_zero]

lemma storeBar_barWrite : (barWrite n value).storeBar type conf =
    storeDword conf (pciConfBar0 + 4 * n)
      (barStored type value (readDword conf (pciConfBar0 + 4 * n))) := by
  have hlength : (barWrite n value).length = 4 := rfl
  funext x
  unfold PciWrite.storeBar storeDword
  rw [barWrite_offset, hlength]
  by_cases hx : pciConfBar0 + 4 * n ≤ x ∧ x < pciConfBar0 + 4 * n + 4
  · rw [if_pos hx, if_pos hx]
    exact barByte_barWrite n value type conf (by omega)
  · rw [if_neg hx, if_neg hx]

lemma barQuiet_barWrite : (barWrite n value).BarQuiet type conf ↔
    barStored type value (readDword conf (pciConfBar0 + 4 * n)) =
      readDword conf (pciConfBar0 + 4 * n) := by
  constructor
  · intro h
    refine eq_of_byteAt fun k hk => ?_
    rw [byteAt_readDword _ _ hk, ← barByte_barWrite n value type conf hk, ← barWrite_offset n value]
    exact h k hk
  · intro h k hk
    rw [barByte_barWrite n value type conf hk, h, byteAt_readDword _ _ hk, barWrite_offset]

end Writes

/-! ## One write, by cases -/

section Cases

variable {s : BarSystem η} {n : Fin 6} {value : BitVec 32} {answer : ℕ → Bool → Bool}

lemma pciReadBar_eq (htype : (s.bar n).type ≠ .none) :
    pciReadBar s (pciConfBar0 + 4 * n) 4 = s.dword n := by
  have hnum : (pciConfBar0 + 4 * (n : ℕ) - pciConfBar0) / 4 = n := by omega
  rw [pciReadBar, hnum, if_neg htype]
  rfl

/-- The system with another doubleword in a BAR. -/
def BarSystem.setDword (s : BarSystem η) (n : Fin 6) (value : BitVec 32) : BarSystem η :=
  { s with conf := storeDword s.conf (pciConfBar0 + 4 * n) value }

@[simp] lemma dword_setDword (s : BarSystem η) (n : Fin 6) (value : BitVec 32) :
    (s.setDword n value).dword n = value := readDword_storeDword _ _ _

lemma setDword_dword (s : BarSystem η) (n : Fin 6) : s.setDword n (s.dword n) = s := by
  rw [BarSystem.setDword, BarSystem.dword, storeDword_readDword]

lemma setDword_setDword (s : BarSystem η) (n : Fin 6) (v : BitVec 32) :
    (s.setDword n v).setDword n value = s.setDword n value := by
  rw [BarSystem.setDword, BarSystem.setDword, BarSystem.setDword, storeDword_storeDword]

/-- A write that stores what the BAR holds does nothing else. -/
lemma pciWriteBar_quiet (htype : (s.bar n).type ≠ .none)
    (hquiet : barStored (s.bar n).type value (s.dword n) = s.dword n) :
    pciWriteBar answer s (barWrite n value) = .ok s := by
  unfold pciWriteBar
  simp only [barWrite_barNum]
  rw [if_neg htype, if_pos ((barQuiet_barWrite n value _ _).mpr hquiet), storeBar_barWrite]
  have hstored : barStored (s.bar n).type value (readDword s.conf (pciConfBar0 + 4 * n)) =
      readDword s.conf (pciConfBar0 + 4 * n) := hquiet
  rw [hstored, storeDword_readDword]

lemma pciWriteBar_sizeIo (htype : (s.bar n).type = .io)
    (hquiet : barStored .io 0xffffffff (s.dword n) ≠ s.dword n) :
    pciWriteBar answer s (barWrite n 0xffffffff) =
      .ok (s.setDword n (sizeMask (s.bar n).size &&& 0xfffffffc ||| 1)) := by
  unfold pciWriteBar
  simp only [barWrite_barNum, barWrite_value, htype]
  rw [if_neg (by decide), if_neg fun h => hquiet ((barQuiet_barWrite n _ _ _).mp h), if_pos trivial,
    if_pos trivial, storeBar_barWrite, PciWrite.storeSize, barWrite_offset, storeDword_storeDword]
  rfl

lemma pciWriteBar_sizeMem (htype : (s.bar n).type = .mem)
    (hquiet : barStored .mem 0xffffffff (s.dword n) ≠ s.dword n) :
    pciWriteBar answer s (barWrite n 0xffffffff) =
      .ok { s with
        conf := (barWrite n 0xffffffff).storeMemSize (s.bar n).size
          (s.setDword n (barStored .mem 0xffffffff (s.dword n))).conf } := by
  unfold pciWriteBar
  simp only [barWrite_barNum, barWrite_value, htype]
  rw [if_neg (by decide), if_neg fun h => hquiet ((barQuiet_barWrite n _ _ _).mp h),
    if_neg (by decide), if_pos trivial, storeBar_barWrite]
  rfl

lemma pciWriteBar_moveIo (htype : (s.bar n).type = .io) (hvalue : value ≠ 0xffffffff)
    (hquiet : barStored .io value (s.dword n) ≠ s.dword n) :
    pciWriteBar answer s (barWrite n value) =
      barMoveIo (barWrite n value) (List.range (s.bar n).size.toNat)
        (s.setDword n (barStored .io value (s.dword n))) := by
  unfold pciWriteBar
  simp only [barWrite_barNum, barWrite_value, htype]
  rw [if_neg (by decide), if_neg fun h => hquiet ((barQuiet_barWrite n _ _ _).mp h), if_pos trivial,
    if_neg hvalue, storeBar_barWrite]
  rfl

end Cases

/-! ## The protocol -/

/-- A BAR that a device function has: an I/O BAR of at least 4 ports or a memory BAR of at least 16
bytes, of a size that is a power of two, with the tables of ports set up. -/
structure SizedBar (s : BarSystem η) (n : Fin 6) : Prop where
  type : (s.bar n).type ≠ .none
  size : ∃ k, (s.bar n).size.toNat = 2 ^ k ∧
    if (s.bar n).type = .io then 2 ≤ k else 4 ≤ k
  allocated : s.dispatch.port.sizeOfBitMap ≠ 0

/-- The type bits of a BAR. -/
def BarSystem.typeBits (s : BarSystem η) (n : Fin 6) : BitVec 32 :=
  if (s.bar n).type = .io then 1 else pciReadBar s (pciConfBar0 + 4 * n) 4 &&& 0xf

/-- The value that a BAR had in `s` brings it back, from `t`, with its address and the handlers of
ports and pages. -/
def BarReturns (answer : ℕ → Bool → Bool) (s t : BarSystem η) (n : Fin 6) : Prop :=
  ∃ u, pciWriteBar answer t (barWrite n (pciReadBar s (pciConfBar0 + 4 * n) 4)) = .ok u ∧
    pciReadBar u (pciConfBar0 + 4 * n) 4 = pciReadBar s (pciConfBar0 + 4 * n) 4 ∧
    (u.bar n).addr = (s.bar n).addr ∧ u.dispatch.port = s.dispatch.port ∧
    u.dispatch.mmio = s.dispatch.mmio

/-- Sizing the BAR: all ones read back as the mask of the size with the type bits, and the value it
had brings it back. -/
def BarSizes (answer : ℕ → Bool → Bool) (s : BarSystem η) (n : Fin 6) : Prop :=
  ∃ t, pciWriteBar answer s (barWrite n 0xffffffff) = .ok t ∧
    pciReadBar t (pciConfBar0 + 4 * n) 4 = ~~~((s.bar n).size - 1) ||| s.typeBits n ∧
    BarReturns answer s t n

/-- A port has the handlers of a BAR. -/
def HandlerTable.Holds (t : HandlerTable η) (bar : Bar η) (i : ℕ) : Prop :=
  ¬ t.Unmapped i ∧ t.writeHandlers i = bar.writeHandler ∧ t.readHandlers i = bar.readHandler

/-- The loop over the ports gets through with the BAR's own address: every port that the mask leaves
is registered for it; without an address, the loop must come to such a port or to its end. -/
def Bar.OwnsPorts (bar : Bar η) (t : HandlerTable η) : Prop :=
  if bar.addr = 0 then bar.size.toNat ≤ 64 ∨ ∃ i < 64, bar.mask.getLsbD i = false
  else bar.size.toNat ≤ 64 ∧ ∀ i < bar.size.toNat, bar.mask.getLsbD i = false →
    t.Holds bar (bar.addr + BitVec.ofNat 32 i).toNat

/-- When sizing works.  A memory BAR must be one of 16 bytes at the last address, for which all ones
change nothing.  An I/O BAR must hold its own mask, or its address, with ports of its own; and all
ones must change it. -/
def BarRestores (s : BarSystem η) (n : Fin 6) : Prop :=
  let value := pciReadBar s (pciConfBar0 + 4 * n) 4
  let bar := s.bar n
  if bar.type = .io then
    value = ~~~(bar.size - 1) ||| 1 ∨
      value ≠ 0xfffffffd ∧ value &&& 3 = 1 ∧ bar.addr = value &&& ~~~3 ∧
        bar.OwnsPorts s.dispatch.port
  else bar.size = 16 ∧ value ||| 0xf = 0xffffffff

/-! ## Ports that are removed and registered again -/

/-- A port is removed and registered for a BAR. -/
def HandlerTable.renew (t : HandlerTable η) (bar : Bar η) (i : ℕ) : HandlerTable η :=
  (t.remove i).register bar.writeHandler bar.readHandler i

section Renew

variable {t : HandlerTable η} {bar : Bar η} {i j : ℕ}

lemma HandlerTable.Holds.renew (h : t.Holds bar i) : t.renew bar i = t := by
  obtain ⟨hmapped, hwrite, hread⟩ := h
  rw [HandlerTable.Unmapped, not_or, Bool.not_eq_false] at hmapped
  have hbits : Function.update (Function.update t.bit i false) i true = t.bit := by
    rw [Function.update_idem, Function.update_eq_self_iff]
    exact hmapped.2.symm
  have hwrites : Function.update (Function.update t.writeHandlers i none) i bar.writeHandler =
      t.writeHandlers := by
    rw [Function.update_idem, Function.update_eq_self_iff]
    exact hwrite.symm
  have hreads : Function.update (Function.update t.readHandlers i none) i bar.readHandler =
      t.readHandlers := by
    rw [Function.update_idem, Function.update_eq_self_iff]
    exact hread.symm
  unfold HandlerTable.renew HandlerTable.register HandlerTable.remove
  rw [hbits, hwrites, hreads]

lemma HandlerTable.holds_renew (hmapped : ¬ t.Unmapped i) : (t.renew bar i).Holds bar i := by
  rw [HandlerTable.Unmapped, not_or] at hmapped
  refine ⟨?_, Function.update_self .., Function.update_self ..⟩
  rintro (hlength | hbit)
  · exact hmapped.1 hlength
  · have hset : (t.renew bar i).bit i = true := Function.update_self ..
    exact absurd (hset.symm.trans hbit) (by decide)

/-- A port that is held stays so when another one, or the same, is renewed. -/
lemma HandlerTable.Holds.renew_at (h : t.Holds bar i) : (t.renew bar j).Holds bar i := by
  by_cases hij : i = j
  · subst hij
    exact HandlerTable.holds_renew h.1
  · unfold HandlerTable.Holds HandlerTable.Unmapped at h ⊢
    unfold HandlerTable.renew HandlerTable.register HandlerTable.remove
    simp only [Function.update_of_ne hij]
    exact h

end Renew

/-! ## The loop over the ports -/

section Move

variable {w : PciWrite} {is : List ℕ} {s u : BarSystem η} {p i : ℕ}

/-- The ports of a system with another table. -/
def BarSystem.setPort (s : BarSystem η) (port : HandlerTable η) : BarSystem η :=
  { s with dispatch := { s.dispatch with port := port } }

lemma registerPortIoHandler_of_free {d : Dispatch η} {address : BitVec 32} (write read : Option η)
    (hallocated : d.port.sizeOfBitMap ≠ 0) (hfree : ¬ d.port.Refused address.toNat) :
    d.registerPortIoHandler address write read =
      .ok { d with port := d.port.register write read address.toNat } := by
  have hbitmap : d.port.initializeBitMap = d.port := if_neg hallocated
  simp only [Dispatch.registerPortIoHandler, hbitmap]
  rw [if_neg hfree]

/-- A port is moved to where it is. -/
lemma renew_calls (address : BitVec 32) (bar : Bar η)
    (hallocated : s.dispatch.port.sizeOfBitMap ≠ 0) :
    (s.call (Dispatch.removePortIoHandler address) >>= fun s =>
      s.call (Dispatch.registerPortIoHandler address bar.writeHandler bar.readHandler)) =
      if s.dispatch.port.Unmapped address.toNat then .error .exit
      else .ok (s.setPort (s.dispatch.port.renew bar address.toNat)) := by
  by_cases hmapped : s.dispatch.port.Unmapped address.toNat
  · have hremove : s.call (Dispatch.removePortIoHandler address) = .error .exit := by
      rw [BarSystem.call, Dispatch.removePortIoHandler, if_pos hmapped]
    rw [hremove, if_pos hmapped]
    rfl
  · have hremove : s.call (Dispatch.removePortIoHandler address) =
        .ok (s.setPort (s.dispatch.port.remove address.toNat)) := by
      rw [BarSystem.call, Dispatch.removePortIoHandler, if_neg hmapped]
      rfl
    have hfree : ¬ (s.dispatch.port.remove address.toNat).Refused address.toNat := by
      rintro (hlength | hbit)
      · exact hmapped (Or.inl hlength)
      · have hclear : (s.dispatch.port.remove address.toNat).bit address.toNat = false :=
          Function.update_self ..
        exact absurd (hclear.symm.trans hbit) (by decide)
    have hregister : (s.setPort (s.dispatch.port.remove address.toNat)).call
        (Dispatch.registerPortIoHandler address bar.writeHandler bar.readHandler) =
          .ok (s.setPort (s.dispatch.port.renew bar address.toNat)) := by
      have hregister := registerPortIoHandler_of_free
        (d := { s.dispatch with port := s.dispatch.port.remove address.toNat })
        bar.writeHandler bar.readHandler hallocated hfree
      rw [BarSystem.call, BarSystem.setPort, hregister]
      rfl
    rw [hremove, if_neg hmapped]
    exact hregister

/-- A turn that the mask leaves out. -/
lemma barMoveIo_masked (hi : i < 64) (hmask : (s.bar w.barNum).mask.getLsbD i = true) :
    barMoveIo w (i :: is) s = barMoveIo w is s := by
  rw [barMoveIo, if_neg (Nat.not_le.mpr hi), if_pos hmask]

/-- A turn that moves a port to where it is. -/
lemma barMoveIo_renew (hallocated : s.dispatch.port.sizeOfBitMap ≠ 0)
    (haddr : (s.bar w.barNum).addr = w.address) (hnonzero : w.address ≠ 0) (hi : i < 64)
    (hmask : (s.bar w.barNum).mask.getLsbD i = false) :
    barMoveIo w (i :: is) s =
      if s.dispatch.port.Unmapped (w.address + BitVec.ofNat 32 i).toNat then .error .exit
      else barMoveIo w is (s.setPort
        (s.dispatch.port.renew (s.bar w.barNum) (w.address + BitVec.ofNat 32 i).toNat)) := by
  have hold : (s.bar w.barNum).addr ≠ 0 := fun h => hnonzero (haddr.symm.trans h)
  have hcalls := renew_calls (w.address + BitVec.ofNat 32 i) (s.bar w.barNum) hallocated
  rw [barMoveIo, if_neg (Nat.not_le.mpr hi), if_neg (by rw [hmask]; decide), if_pos hold, haddr]
  simp only [if_neg hnonzero]
  rw [← bind_assoc, hcalls]
  split_ifs <;> rfl

lemma dispatch_of_call {f : Dispatch η → Except Unit (Dispatch η)} (h : s.call f = .ok u) :
    ∃ d, u = { s with dispatch := d } := by
  unfold BarSystem.call at h
  split at h
  · cases h
    exact ⟨_, rfl⟩
  · cases h

/-- What a turn that gets through can do. -/
lemma barMoveIo_cons_ok (h : barMoveIo w (i :: is) s = .ok u) :
    i < 64 ∧ ((s.bar w.barNum).mask.getLsbD i = true ∧ barMoveIo w is s = .ok u ∨
      (s.bar w.barNum).mask.getLsbD i = false ∧ w.address = 0 ∧
        (∃ d, ((s.bar w.barNum).addr = 0 → d = s.dispatch) ∧
          u = { (s.setAddr w.barNum 0) with
            conf := storeDword s.conf w.offset.toNat 1
            dispatch := d }) ∨
      (s.bar w.barNum).mask.getLsbD i = false ∧ w.address ≠ 0 ∧
        ∃ d, barMoveIo w is { s with dispatch := d } = .ok u) := by
  rw [barMoveIo] at h
  by_cases hi : 64 ≤ i
  · rw [if_pos hi] at h
    cases h
  rw [if_neg hi] at h
  refine ⟨Nat.lt_of_not_le hi, ?_⟩
  by_cases hmask : (s.bar w.barNum).mask.getLsbD i = true
  · rw [if_pos hmask] at h
    exact Or.inl ⟨hmask, h⟩
  rw [if_neg hmask] at h
  rw [Bool.not_eq_true] at hmask
  refine Or.inr ?_
  -- the state after the removal, if there is one
  have hremoved : ∃ d, ((s.bar w.barNum).addr = 0 → d = s.dispatch) ∧
      (if w.address = 0 then
        Except.ok { ({ s with dispatch := d }.setAddr w.barNum 0) with
          conf := storeDword s.conf w.offset.toNat 1 }
      else
        ({ s with dispatch := d }.call (Dispatch.registerPortIoHandler
          (w.address + BitVec.ofNat 32 i) (s.bar w.barNum).writeHandler
          (s.bar w.barNum).readHandler) >>= fun s => barMoveIo w is s)) = .ok u := by
    by_cases hold : (s.bar w.barNum).addr = 0
    · rw [if_neg (not_not.mpr hold)] at h
      exact ⟨s.dispatch, fun _ => rfl, h⟩
    · rw [if_pos hold] at h
      obtain ⟨x, hx, h⟩ := bind_eq_ok.mp h
      obtain ⟨d, rfl⟩ := dispatch_of_call hx
      exact ⟨d, fun hzero => absurd hzero hold, h⟩
  obtain ⟨d, hd, h⟩ := hremoved
  by_cases hzero : w.address = 0
  · rw [if_pos hzero] at h
    cases h
    exact Or.inl ⟨hmask, hzero, d, hd, rfl⟩
  · rw [if_neg hzero] at h
    obtain ⟨y, hy, h⟩ := bind_eq_ok.mp h
    obtain ⟨d', rfl⟩ := dispatch_of_call hy
    exact Or.inr ⟨hmask, hzero, d', h⟩

/-- The address of the value is the BAR's address after the loop. -/
lemma bar_of_barMoveIo (h : barMoveIo w is s = .ok u) :
    u.bar w.barNum = { s.bar w.barNum with addr := w.address } := by
  induction is generalizing s with
  | nil =>
      cases h
      simp [BarSystem.setAddr]
  | cons i is ih =>
      obtain ⟨-, ⟨-, h⟩ | ⟨-, hzero, d, -, rfl⟩ | ⟨-, -, d, h⟩⟩ := barMoveIo_cons_ok h
      · exact ih h
      · simp [BarSystem.setAddr, hzero]
      · exact ih (s := { s with dispatch := d }) h

/-- The loop leaves the configuration space alone, but for the address 0. -/
lemma conf_of_barMoveIo (h : barMoveIo w is s = .ok u) :
    u.conf = s.conf ∨ w.address = 0 ∧ u.conf = storeDword s.conf w.offset.toNat 1 := by
  induction is generalizing s with
  | nil =>
      cases h
      exact Or.inl rfl
  | cons i is ih =>
      obtain ⟨-, ⟨-, h⟩ | ⟨-, hzero, d, -, rfl⟩ | ⟨-, -, d, h⟩⟩ := barMoveIo_cons_ok h
      · exact ih h
      · exact Or.inr ⟨hzero, rfl⟩
      · exact ih (s := { s with dispatch := d }) h

/-- After a loop with the BAR's own address its ports have its handlers. -/
lemma holds_of_barMoveIo (hallocated : s.dispatch.port.sizeOfBitMap ≠ 0)
    (haddr : (s.bar w.barNum).addr = w.address) (hnonzero : w.address ≠ 0)
    (h : barMoveIo w is s = .ok u) :
    (∀ i ∈ is, i < 64) ∧ ∀ p, s.dispatch.port.Holds (s.bar w.barNum) p ∨
      (∃ i ∈ is, (s.bar w.barNum).mask.getLsbD i = false ∧
        p = (w.address + BitVec.ofNat 32 i).toNat) →
      u.dispatch.port.Holds (s.bar w.barNum) p := by
  induction is generalizing s with
  | nil =>
      cases h
      refine ⟨fun i hi => absurd hi List.not_mem_nil, ?_⟩
      rintro p (hp | ⟨i, hi, -⟩)
      · exact hp
      · exact absurd hi List.not_mem_nil
  | cons i is ih =>
      have hi := (barMoveIo_cons_ok h).1
      by_cases hmask : (s.bar w.barNum).mask.getLsbD i = true
      · rw [barMoveIo_masked hi hmask] at h
        obtain ⟨hlt, hholds⟩ := ih hallocated haddr h
        refine ⟨List.forall_mem_cons.mpr ⟨hi, hlt⟩, fun p hp => hholds p (hp.imp_right ?_)⟩
        rintro ⟨j, hj, hclear, rfl⟩
        rcases List.mem_cons.mp hj with rfl | hj
        · rw [hmask] at hclear
          cases hclear
        · exact ⟨j, hj, hclear, rfl⟩
      · rw [Bool.not_eq_true] at hmask
        rw [barMoveIo_renew hallocated haddr hnonzero hi hmask] at h
        split_ifs at h with hmapped
        obtain ⟨hlt, hholds⟩ := ih (s := s.setPort (s.dispatch.port.renew (s.bar w.barNum)
          (w.address + BitVec.ofNat 32 i).toNat)) hallocated haddr h
        refine ⟨List.forall_mem_cons.mpr ⟨hi, hlt⟩, fun p hp => hholds p ?_⟩
        rcases hp with hp | ⟨j, hj, hclear, rfl⟩
        · exact Or.inl hp.renew_at
        · rcases List.mem_cons.mp hj with rfl | hj
          · exact Or.inl (HandlerTable.holds_renew hmapped)
          · exact Or.inr ⟨j, hj, hclear, rfl⟩

/-- A loop with the BAR's own address changes nothing when its ports have its handlers. -/
lemma barMoveIo_own (hallocated : s.dispatch.port.sizeOfBitMap ≠ 0)
    (haddr : (s.bar w.barNum).addr = w.address) (hnonzero : w.address ≠ 0)
    (hown : ∀ i ∈ is, i < 64 ∧ ((s.bar w.barNum).mask.getLsbD i = false →
      s.dispatch.port.Holds (s.bar w.barNum) (w.address + BitVec.ofNat 32 i).toNat)) :
    barMoveIo w is s = .ok (s.setAddr w.barNum w.address) := by
  induction is with
  | nil => rfl
  | cons i is ih =>
      obtain ⟨⟨hi, hholds⟩, hown⟩ := List.forall_mem_cons.mp hown
      by_cases hmask : (s.bar w.barNum).mask.getLsbD i = true
      · rw [barMoveIo_masked hi hmask]
        exact ih hown
      · rw [Bool.not_eq_true] at hmask
        have hholds := hholds hmask
        rw [barMoveIo_renew hallocated haddr hnonzero hi hmask, if_neg hholds.1, hholds.renew]
        exact ih hown

/-- Without an address before and after, the loop ends at the first port that the mask leaves. -/
lemma barMoveIo_zero_ok (haddr : (s.bar w.barNum).addr = 0) (hzero : w.address = 0)
    (h : barMoveIo w is s = .ok u) :
    u.dispatch = s.dispatch ∧
      ((∀ i ∈ is, i < 64) ∨ ∃ i < 64, (s.bar w.barNum).mask.getLsbD i = false) := by
  induction is with
  | nil =>
      cases h
      exact ⟨rfl, Or.inl fun i hi => absurd hi List.not_mem_nil⟩
  | cons i is ih =>
      obtain ⟨hi, ⟨-, h⟩ | ⟨hclear, -, d, hd, rfl⟩ | ⟨-, hnonzero, -⟩⟩ := barMoveIo_cons_ok h
      · obtain ⟨hsame, hlt⟩ := ih h
        exact ⟨hsame, hlt.imp_left fun hlt => List.forall_mem_cons.mpr ⟨hi, hlt⟩⟩
      · exact ⟨hd haddr, Or.inr ⟨i, hi, hclear⟩⟩
      · exact absurd hzero hnonzero

lemma exists_barMoveIo_zero (haddr : (s.bar w.barNum).addr = 0) (hzero : w.address = 0) {k n : ℕ}
    (h : k + n ≤ 64 ∨ ∃ i, k ≤ i ∧ i < 64 ∧ (s.bar w.barNum).mask.getLsbD i = false) :
    ∃ u, barMoveIo w (List.range' k n) s = .ok u := by
  induction n generalizing k with
  | zero => exact ⟨_, rfl⟩
  | succ n ih =>
      have hk : k < 64 := by
        rcases h with h | ⟨i, hki, hi, -⟩ <;> omega
      rw [List.range'_succ]
      by_cases hmask : (s.bar w.barNum).mask.getLsbD k = true
      · rw [barMoveIo_masked hk hmask]
        refine ih (h.imp (by omega) ?_)
        rintro ⟨i, hki, hi, hclear⟩
        have hne : k ≠ i := by
          rintro rfl
          rw [hmask] at hclear
          cases hclear
        exact ⟨i, by omega, hi, hclear⟩
      · rw [barMoveIo, if_neg (Nat.not_le.mpr hk), if_neg hmask,
          if_neg (not_not.mpr haddr), ok_bind]
        simp only [if_pos hzero]
        exact ⟨_, rfl⟩

end Move

/-! ## Bits of addresses and types -/

lemma and_not_or_and {w : ℕ} (x m : BitVec w) : x &&& ~~~m ||| x &&& m = x := by
  apply BitVec.eq_of_getLsbD_eq
  intro i hi
  simp only [BitVec.getLsbD_or, BitVec.getLsbD_and, BitVec.getLsbD_not, hi, decide_true,
    Bool.true_and]
  cases x.getLsbD i <;> cases m.getLsbD i <;> rfl

lemma sizeMask_and {a b : BitVec 32} {j k : ℕ} (ha : a.toNat = 2 ^ j) (hb : b.toNat = 2 ^ k)
    (hle : k ≤ j) : sizeMask a &&& sizeMask b = sizeMask a := by
  apply BitVec.eq_of_getLsbD_eq
  intro i hi
  rw [BitVec.getLsbD_and, getLsbD_sizeMask ha hi, getLsbD_sizeMask hb hi, ← Bool.decide_and,
    decide_eq_decide]
  omega

/-- An I/O BAR stores a value with its type bits as it is, and no other one. -/
lemma barStored_io_eq_iff (value old : BitVec 32) :
    barStored .io value old = value ↔ value &&& 3 = 1 := by
  have hsplit := and_not_or_and value 3
  have hmask : (0xfffffffc : BitVec 32) = ~~~3 := rfl
  rw [barStored, if_pos rfl, hmask]
  constructor
  · intro h
    have hlow : (value &&& ~~~3 ||| 1) &&& 3 = 1 := by
      have hclear : value &&& ~~~3 &&& 3 = 0#32 := by
        rw [BitVec.and_assoc]
        exact BitVec.and_zero
      rw [BitVec.and_or_distrib_right, hclear]
      rfl
    rwa [h] at hlow
  · intro h
    rwa [h] at hsplit

/-- A memory BAR keeps the type bits that are in it. -/
lemma barStored_mem_self (value : BitVec 32) : barStored .mem value value = value := by
  have hmask : (0xfffffff0 : BitVec 32) = ~~~0xf := rfl
  rw [barStored, if_neg (by decide), hmask]
  exact and_not_or_and value 0xf

lemma barStored_mem_ones_eq_iff (old : BitVec 32) :
    barStored .mem 0xffffffff old = old ↔ old ||| 0xf = 0xffffffff := by
  have hsplit := and_not_or_and old 0xf
  have hstored : barStored .mem 0xffffffff old = ~~~0xf ||| old &&& 0xf := rfl
  rw [hstored]
  constructor
  · intro h
    have hones : (~~~0xf ||| old &&& 0xf) ||| (0xf : BitVec 32) = 0xffffffff := by
      rw [BitVec.or_comm (~~~0xf), BitVec.or_assoc]
      exact BitVec.or_allOnes
    rwa [h] at hones
  · intro h
    have hhigh : old &&& ~~~0xf = ~~~0xf := by
      have hclear : (0xf : BitVec 32) &&& ~~~0xf = 0#32 := rfl
      rw [← BitVec.or_zero (x := old &&& ~~~0xf), ← hclear, ← BitVec.and_or_distrib_right, h]
      rfl
    rwa [hhigh] at hsplit

/-! ## Memory BARs -/

section Sizing

variable {s : BarSystem η} {n : Fin 6} {answer : ℕ → Bool → Bool}

/-- The last byte of what a memory BAR answers: it is made of the first byte of the mask. -/
lemma byteAt_storeMemSize (size value : BitVec 32) (conf : ℕ → BitVec 8) :
    byteAt (readDword ((barWrite n value).storeMemSize size conf) (pciConfBar0 + 4 * n)) 3 =
      conf (pciConfBar0 + 4 * n + 3) &&& (byteAt (sizeMask size) 0 &&& 0xfc) := by
  rw [byteAt_readDword _ _ (by decide), PciWrite.storeMemSize]
  simp only [barWrite_offset, if_true]
  rfl

lemma barSizes_mem_iff (h : SizedBar s n) (htype : (s.bar n).type = .mem) :
    BarSizes answer s n ↔ (s.bar n).size = 16 ∧ s.dword n ||| 0xf = 0xffffffff := by
  obtain ⟨k, hk, hle⟩ := h.size
  rw [if_neg (by rw [htype]; decide)] at hle
  have hread := pciReadBar_eq h.type
  have hbits : s.typeBits n = s.dword n &&& 0xf := by
    rw [BarSystem.typeBits, if_neg (by rw [htype]; decide), hread]
  by_cases hquiet : barStored .mem 0xffffffff (s.dword n) = s.dword n
  · have hones := (barStored_mem_ones_eq_iff _).mp hquiet
    have hhigh : s.dword n = sizeMask 16 ||| s.dword n &&& 0xf := hquiet.symm
    have hwrite : pciWriteBar answer s (barWrite n 0xffffffff) = .ok s :=
      pciWriteBar_quiet h.type (by rw [htype]; exact hquiet)
    have hback : pciWriteBar answer s (barWrite n (s.dword n)) = .ok s :=
      pciWriteBar_quiet h.type (by rw [htype]; exact barStored_mem_self _)
    constructor
    · rintro ⟨t, ht, hmask, -⟩
      rw [hwrite] at ht
      cases ht
      rw [hread, hbits] at hmask
      have hmask : s.dword n = sizeMask (s.bar n).size ||| s.dword n &&& 0xf := hmask
      -- bit 4 is an address bit of the BAR, and set
      have hbit := congrArg (fun x : BitVec 32 => x.getLsbD 4) (hhigh.symm.trans hmask)
      have hset : (sizeMask 16).getLsbD 4 = true := rfl
      have hclear : (0xf : BitVec 32).getLsbD 4 = false := rfl
      simp only [BitVec.getLsbD_or, BitVec.getLsbD_and,
        getLsbD_sizeMask hk (by decide : 4 < 32), hset,
        hclear, Bool.and_false, Bool.or_false] at hbit
      have hfour : k = 4 := by
        have := of_decide_eq_true hbit.symm
        omega
      refine ⟨BitVec.eq_of_toNat_eq ?_, hones⟩
      rw [hk, hfour]
      rfl
    · rintro ⟨hsize, -⟩
      refine ⟨s, hwrite, ?_, s, ?_, rfl, rfl, rfl, rfl⟩
      · rw [hread, hbits, hsize]
        exact hhigh
      · rw [hread]
        exact hback
  · have hnot : ¬ (s.dword n ||| 0xf = 0xffffffff) := fun hones =>
      hquiet ((barStored_mem_ones_eq_iff _).mpr hones)
    refine iff_of_false ?_ fun hcond => hnot hcond.2
    rintro ⟨t, ht, hmask, -⟩
    rw [pciWriteBar_sizeMem htype hquiet] at ht
    cases ht
    have hnum : (pciConfBar0 + 4 * (n : ℕ) - pciConfBar0) / 4 = n := by omega
    rw [pciReadBar, hnum, if_neg h.type, hbits] at hmask
    have hbyte : byteAt (sizeMask (s.bar n).size ||| s.dword n &&& 0xf) 3 =
        byteAt (barStored .mem 0xffffffff (s.dword n)) 3 &&&
          (byteAt (sizeMask (s.bar n).size) 0 &&& 0xfc) := by
      have hstored := storeDword_add s.conf (pciConfBar0 + 4 * n)
        (barStored .mem 0xffffffff (s.dword n)) (by decide : 3 < 4)
      rw [sizeMask, ← hmask, ← hstored]
      exact byteAt_storeMemSize ..
    have hk32 : k < 32 := by
      have hlt := (s.bar n).size.isLt
      rw [hk] at hlt
      exact (Nat.pow_lt_pow_iff_right (by decide)).mp hlt
    have hbit (i : ℕ) := congrArg (fun x : BitVec 8 => x.getLsbD i) hbyte
    simp only [BitVec.getLsbD_and, getLsbD_byteAt, BitVec.getLsbD_or] at hbit
    -- bit 24 of the answer is clear, so that the BAR decodes no address there
    have hlow : ((sizeMask (s.bar n).size).getLsbD 24 || (s.dword n).getLsbD 24 && false) =
        ((barStored .mem 0xffffffff (s.dword n)).getLsbD 24 &&
          ((sizeMask (s.bar n).size).getLsbD 0 && false)) := hbit 0
    rw [Bool.and_false, Bool.or_false, Bool.and_false, Bool.and_false,
      getLsbD_sizeMask hk (by decide)] at hlow
    have hhuge : ¬ k ≤ 24 := of_decide_eq_false hlow
    -- bit 31 is set, and it is a bit of the first byte of the mask
    have hhigh : ((sizeMask (s.bar n).size).getLsbD 31 || (s.dword n).getLsbD 31 && false) =
        ((barStored .mem 0xffffffff (s.dword n)).getLsbD 31 &&
          ((sizeMask (s.bar n).size).getLsbD 7 && true)) := hbit 7
    rw [Bool.and_false, Bool.or_false, Bool.and_true, getLsbD_sizeMask hk (by decide),
      getLsbD_sizeMask hk (by decide), decide_eq_true (by omega : k ≤ 31),
      decide_eq_false (by omega : ¬ k ≤ 7), Bool.and_false] at hhigh
    cases hhigh

/-! ## I/O BARs -/

/-- An I/O BAR that the loop brings back has the value of its own address, with the type bits of an
I/O BAR, and its ports are its own. -/
lemma owned_of_restored (hallocated : s.dispatch.port.sizeOfBitMap ≠ 0) {value : BitVec 32}
    {u : BarSystem η} (hu : barMoveIo (barWrite n value) (List.range (s.bar n).size.toNat)
      (s.setDword n (barStored .io value (s.dword n))) = .ok u)
    (hdword : u.dword n = value) (haddr : (u.bar n).addr = (s.bar n).addr)
    (hport : u.dispatch.port = s.dispatch.port) :
    value &&& 3 = 1 ∧ (s.bar n).addr = value &&& ~~~3 ∧ (s.bar n).OwnsPorts s.dispatch.port := by
  have hnum := barWrite_barNum n value
  have hmoved := congrArg Bar.addr (bar_of_barMoveIo hu)
  rw [hnum, haddr] at hmoved
  have htype : value &&& 3 = 1 := by
    rcases conf_of_barMoveIo hu with hconf | ⟨hzero, hconf⟩
    · refine (barStored_io_eq_iff value (s.dword n)).mp ?_
      rw [← dword_setDword s n (barStored .io value (s.dword n)), BarSystem.dword, ← hconf]
      exact hdword
    · rw [barWrite_offset] at hconf
      rw [← hdword, BarSystem.dword, hconf, readDword_storeDword]
      rfl
  refine ⟨htype, hmoved, ?_⟩
  unfold Bar.OwnsPorts
  split_ifs with hzero
  · have hend := (barMoveIo_zero_ok (by rw [hnum]; exact hzero) (hmoved.symm.trans hzero) hu).2
    rw [hnum] at hend
    refine hend.imp_left fun hlt => ?_
    by_contra hlarge
    exact absurd (hlt 64 (List.mem_range.mpr (Nat.lt_of_not_le hlarge))) (by decide)
  · have hnonzero : (barWrite n value).address ≠ 0 := fun h => hzero (hmoved.trans h)
    obtain ⟨hlt, hholds⟩ := holds_of_barMoveIo
      (s := s.setDword n (barStored .io value (s.dword n))) hallocated
      (by rw [hnum]; exact hmoved)
      hnonzero hu
    rw [hnum] at hholds
    refine ⟨?_, fun i hi hclear => ?_⟩
    · by_contra hlarge
      exact absurd (hlt 64 (List.mem_range.mpr (Nat.lt_of_not_le hlarge))) (by decide)
    · rw [← hport, hmoved]
      exact hholds _ (Or.inr ⟨i, List.mem_range.mpr hi, hclear, rfl⟩)

/-- The loop brings such a BAR back. -/
lemma restored_of_owned (hallocated : s.dispatch.port.sizeOfBitMap ≠ 0) {value : BitVec 32}
    (htype : value &&& 3 = 1) (haddr : (s.bar n).addr = value &&& ~~~3)
    (howns : (s.bar n).OwnsPorts s.dispatch.port) :
    ∃ u, barMoveIo (barWrite n value) (List.range (s.bar n).size.toNat) (s.setDword n value) =
        .ok u ∧
      u.dword n = value ∧ (u.bar n).addr = (s.bar n).addr ∧ u.dispatch.port = s.dispatch.port ∧
      u.dispatch.mmio = s.dispatch.mmio := by
  have hnum := barWrite_barNum n value
  have haddress : (barWrite n value).address = value &&& ~~~3 := rfl
  have hmoved : ((s.setDword n value).bar (barWrite n value).barNum).addr =
      (barWrite n value).address := by
    rw [hnum]
    exact haddr
  unfold Bar.OwnsPorts at howns
  split_ifs at howns with hzero
  · have hvalue : (barWrite n value).address = 0 := haddr.symm.trans hzero
    have hone : value = 1 := by
      have hsplit := and_not_or_and value 3
      rw [← haddress, hvalue, htype] at hsplit
      exact hsplit.symm
    obtain ⟨u, hu⟩ : ∃ u, barMoveIo (barWrite n value) (List.range (s.bar n).size.toNat)
        (s.setDword n value) = .ok u := by
      rw [List.range_eq_range']
      refine exists_barMoveIo_zero (hmoved.trans hvalue) hvalue ?_
      rw [hnum, Nat.zero_add]
      refine howns.imp_right ?_
      rintro ⟨i, hi, hclear⟩
      exact ⟨i, Nat.zero_le i, hi, hclear⟩
    have hsame := (barMoveIo_zero_ok (hmoved.trans hvalue) hvalue hu).1
    have hend := congrArg Bar.addr (bar_of_barMoveIo hu)
    rw [hnum] at hend
    refine ⟨u, hu, ?_, hend.trans haddr.symm, congrArg Dispatch.port hsame,
      congrArg Dispatch.mmio hsame⟩
    rcases conf_of_barMoveIo hu with hconf | ⟨-, hconf⟩
    · rw [BarSystem.dword, hconf]
      exact dword_setDword s n value
    · rw [BarSystem.dword, hconf, barWrite_offset, readDword_storeDword, hone]
  · have hnonzero : (barWrite n value).address ≠ 0 := fun h => hzero (haddr.trans h)
    have hmove : barMoveIo (barWrite n value) (List.range (s.bar n).size.toNat)
        (s.setDword n value) =
          .ok ((s.setDword n value).setAddr (barWrite n value).barNum
        (barWrite n value).address) := by
      refine barMoveIo_own hallocated hmoved hnonzero fun i hi => ?_
      have hi := List.mem_range.mp hi
      refine ⟨Nat.lt_of_lt_of_le hi howns.1, fun hclear => ?_⟩
      rw [hnum] at hclear ⊢
      rw [haddress, ← haddr]
      exact howns.2 i hi hclear
    refine ⟨_, hmove, dword_setDword s n value, ?_, rfl, rfl⟩
    rw [hnum, haddress, ← haddr]
    simp [BarSystem.setAddr]

/-- The loop over the ports brings an I/O BAR back when its value is its own address, with the type
bits of an I/O BAR, and its ports are its own. -/
lemma barMoveIo_restores_iff (hallocated : s.dispatch.port.sizeOfBitMap ≠ 0) (value : BitVec 32) :
    (∃ u, barMoveIo (barWrite n value) (List.range (s.bar n).size.toNat)
        (s.setDword n (barStored .io value (s.dword n))) = .ok u ∧
      u.dword n = value ∧ (u.bar n).addr = (s.bar n).addr ∧ u.dispatch.port = s.dispatch.port ∧
      u.dispatch.mmio = s.dispatch.mmio) ↔
    value &&& 3 = 1 ∧ (s.bar n).addr = value &&& ~~~3 ∧ (s.bar n).OwnsPorts s.dispatch.port := by
  constructor
  · rintro ⟨u, hu, hdword, haddr, hport, -⟩
    exact owned_of_restored hallocated hu hdword haddr hport
  · rintro ⟨htype, haddr, howns⟩
    rw [(barStored_io_eq_iff value (s.dword n)).mpr htype]
    exact restored_of_owned hallocated htype haddr howns

/-- What an I/O BAR holds after it was sized has the type bits of an I/O BAR. -/
lemma sizeMask_or_one {size : BitVec 32} {k : ℕ} (hsize : size.toNat = 2 ^ k) (hk : 2 ≤ k) :
    sizeMask size &&& 0xfffffffc ||| 1 = sizeMask size ||| 1 ∧ (sizeMask size ||| 1) &&& 3 = 1 := by
  have hfour : (0xfffffffc : BitVec 32) = sizeMask 4 := rfl
  have hstored : sizeMask size &&& 0xfffffffc ||| 1 = sizeMask size ||| 1 := by
    rw [hfour, sizeMask_and hsize (rfl : (4 : BitVec 32).toNat = 2 ^ 2) hk]
  have hclear : (1 : BitVec 32) &&& 0xfffffffc = 0#32 := rfl
  refine ⟨hstored, (barStored_io_eq_iff _ 0).mp ?_⟩
  rw [barStored, if_pos rfl, BitVec.and_or_distrib_right, hclear, BitVec.or_zero]
  exact hstored

/-- The old value brings an I/O BAR back that holds its mask: it is the mask itself, or it is
another one with which the loop over the ports brings it back. -/
lemma barReturns_io_iff (answer : ℕ → Bool → Bool) (h : SizedBar s n)
    (htype : (s.bar n).type = .io) {mask : BitVec 32} (hmask : mask &&& 3 = 1) :
    BarReturns answer s (s.setDword n mask) n ↔ s.dword n = mask ∨
      s.dword n &&& 3 = 1 ∧ (s.bar n).addr = s.dword n &&& ~~~3 ∧
        (s.bar n).OwnsPorts s.dispatch.port := by
  have hread := pciReadBar_eq h.type
  have hreadMask : pciReadBar (s.setDword n mask) (pciConfBar0 + 4 * n) 4 = mask := by
    rw [pciReadBar_eq (s := s.setDword n mask) h.type, dword_setDword]
  unfold BarReturns
  rw [hread]
  by_cases hold : s.dword n = mask
  · have hback : pciWriteBar answer (s.setDword n mask) (barWrite n (s.dword n)) = .ok s := by
      rw [← hold, setDword_dword]
      refine pciWriteBar_quiet h.type ?_
      rw [htype, barStored_io_eq_iff, hold]
      exact hmask
    exact iff_of_true ⟨s, hback, hread, rfl, rfl, rfl⟩ (Or.inl hold)
  rw [or_iff_right hold]
  by_cases hsame : barStored .io (s.dword n) mask = mask
  · -- the value is put into the BAR as the mask
    have hback : pciWriteBar answer (s.setDword n mask) (barWrite n (s.dword n)) =
        .ok (s.setDword n mask) := by
      refine pciWriteBar_quiet h.type ?_
      rw [dword_setDword]
      exact (congrArg (barStored · (s.dword n) mask) htype).trans hsame
    refine iff_of_false ?_ fun hcond => hold ?_
    · rintro ⟨u, hu, hdword, -⟩
      rw [hback] at hu
      cases hu
      exact hold (hdword.symm.trans hreadMask)
    · exact ((barStored_io_eq_iff _ _).mpr hcond.1).symm.trans hsame
  have hnoisy : barStored .io (s.dword n) ((s.setDword n mask).dword n) ≠
      (s.setDword n mask).dword n := by
    rw [dword_setDword]
    exact hsame
  by_cases hall : s.dword n = 0xffffffff
  · -- the value sizes the BAR once more
    obtain ⟨k, hk, hle⟩ := h.size
    rw [if_pos htype] at hle
    have hthree : ¬ (0xffffffff : BitVec 32) &&& 3 = 1 := by decide
    rw [hall] at hnoisy ⊢
    refine iff_of_false ?_ fun hcond => hthree hcond.1
    rintro ⟨u, hu, hdword, -⟩
    rw [pciWriteBar_sizeIo (s := s.setDword n mask) htype hnoisy] at hu
    cases hu
    rw [pciReadBar_eq (s := (s.setDword n mask).setDword n _) h.type, dword_setDword] at hdword
    have hanswer : sizeMask (s.bar n).size &&& 0xfffffffc ||| 1 = 0xffffffff := hdword
    obtain ⟨hstored, htypeBits⟩ := sizeMask_or_one hk hle
    rw [← hstored, hanswer] at htypeBits
    exact hthree htypeBits
  · have hmove : pciWriteBar answer (s.setDword n mask) (barWrite n (s.dword n)) =
        barMoveIo (barWrite n (s.dword n)) (List.range (s.bar n).size.toNat)
          (s.setDword n (barStored .io (s.dword n) (s.dword n))) := by
      rw [pciWriteBar_moveIo (s := s.setDword n mask) htype hall hnoisy, setDword_setDword]
      rfl
    rw [hmove, ← barMoveIo_restores_iff h.allocated (s.dword n)]
    refine exists_congr fun u => and_congr_right fun hu => ?_
    have hbar := bar_of_barMoveIo hu
    rw [barWrite_barNum] at hbar
    have hmoved : (u.bar n).type ≠ .none := by
      rw [hbar]
      exact h.type
    rw [pciReadBar_eq hmoved]

lemma barSizes_io_iff (h : SizedBar s n) (htype : (s.bar n).type = .io) :
    BarSizes answer s n ↔ s.dword n = sizeMask (s.bar n).size ||| 1 ∨
      s.dword n ≠ 0xfffffffd ∧ s.dword n &&& 3 = 1 ∧ (s.bar n).addr = s.dword n &&& ~~~3 ∧
        (s.bar n).OwnsPorts s.dispatch.port := by
  obtain ⟨k, hk, hle⟩ := h.size
  rw [if_pos htype] at hle
  have hread := pciReadBar_eq h.type
  have hbits : s.typeBits n = 1 := by rw [BarSystem.typeBits, if_pos htype]
  obtain ⟨hsized, hmask⟩ := sizeMask_or_one hk hle
  unfold BarSizes
  rw [hbits]
  by_cases hones : s.dword n = 0xfffffffd
  · -- all ones change nothing
    have hquiet : barStored (s.bar n).type 0xffffffff (s.dword n) = s.dword n := by
      rw [htype, hones]
      rfl
    rw [pciWriteBar_quiet h.type hquiet]
    constructor
    · rintro ⟨t, ht, hanswer, -⟩
      cases ht
      exact Or.inl (hread.symm.trans hanswer)
    · rintro (hanswer | ⟨hother, -⟩)
      · refine ⟨s, rfl, hread.trans hanswer, ?_⟩
        have hreturns := (barReturns_io_iff answer h htype hmask).mpr (Or.inl hanswer)
        rwa [← hanswer, setDword_dword] at hreturns
      · exact absurd hones hother
  · rw [and_iff_right hones, ← barReturns_io_iff answer h htype hmask,
      pciWriteBar_sizeIo htype fun h => hones h.symm, hsized]
    constructor
    · rintro ⟨t, ht, -, hreturns⟩
      cases ht
      exact hreturns
    · intro hreturns
      refine ⟨_, rfl, ?_, hreturns⟩
      rw [pciReadBar_eq (s := s.setDword n _) h.type, dword_setDword]
      rfl

end Sizing

/-! ## Sizing -/

/-- Writing all ones to a BAR and reading it back returns the mask of its size with its type bits,
and writing the old value brings the BAR back, exactly when it is an I/O BAR that holds its mask, or
its own address with ports of its own, and that all ones change; or a memory BAR of 16 bytes at the
last address. -/
theorem bar_sizing_iff (answer : ℕ → Bool → Bool) (s : BarSystem η) (n : Fin 6) (h : SizedBar s n) :
    BarSizes answer s n ↔ BarRestores s n := by
  have hread := pciReadBar_eq h.type
  unfold BarRestores
  rw [hread]
  by_cases htype : (s.bar n).type = .io
  · rw [if_pos htype]
    exact barSizes_io_iff h htype
  · have hmem : (s.bar n).type = .mem := by
      cases hcase : (s.bar n).type
      · exact absurd hcase h.type
      · exact absurd hcase htype
      · rfl
    rw [if_neg htype]
    exact barSizes_mem_iff h hmem

/-- A function without BARs, with the bitmap of the ports allocated. -/
def barSystem : BarSystem ℕ where
  conf _ := 0
  bar _ := ⟨.none, 0, 0, 0, none, none⟩
  dispatch :=
    { Dispatch.start 0 ⟨fun _ => ⟨0, 0, 0, 0⟩, 0, fun _ => none⟩ with
      port := HandlerTable.empty.initializeBitMap }

/-- With an I/O BAR of 16 ports that has no address yet. -/
def ioBarSystem : BarSystem ℕ := barSystem.pciSetBarIo 0 0 16 (some 1) (some 0) 0

/-- With a memory BAR of 128 KiB that has no address yet. -/
def mmioBarSystem : BarSystem ℕ := barSystem.pciSetBarMmio 0 0 0x20000 (some 1) (some 0)

/-- The first BAR has 16 ports of its own at 0xc000. -/
def BarSystem.AtC000 (s : BarSystem ℕ) : Prop :=
  let bar := s.bar (0 : Fin 6)
  bar.type = .io ∧ bar.size = 16 ∧ bar.addr = 0xc000 ∧
    pciReadBar s (pciConfBar0 + 4 * (0 : Fin 6)) 4 = 0xc001 ∧
    s.dispatch.port.sizeOfBitMap ≠ 0 ∧
    ∀ i < 16, s.dispatch.port.Holds bar (0xc000 + BitVec.ofNat 32 i).toNat

instance : DecidablePred BarSystem.AtC000 := fun _ =>
  inferInstanceAs (Decidable (_ ∧ _ ∧ _ ∧ _ ∧ _ ∧ ∀ i < 16, (¬ (_ ∨ _)) ∧ _ ∧ _))

/-- The guest moves the BAR to 0xc000, and sizes it there. -/
theorem bar_sizing_iff_ports : ∃ s,
    pciWriteBar (fun _ _ => true) ioBarSystem (barWrite 0 0xc001) = .ok s ∧
    pciReadBar s 0x10 4 = 0xc001 ∧ SizedBar s 0 ∧ BarSizes (fun _ _ => true) s 0 := by
  obtain ⟨s, hs, htype, hsize, haddr, hread, hallocated, hports⟩ :=
    exists_of_ends BarSystem.AtC000
      (r := pciWriteBar (fun _ _ => true) ioBarSystem (barWrite 0 0xc001)) (by decide +kernel)
  have h : SizedBar s 0 :=
    ⟨by rw [htype]; decide, ⟨4, by rw [hsize]; rfl, by rw [if_pos htype]; decide⟩, hallocated⟩
  have hrestores : BarRestores s 0 := by
    unfold BarRestores
    rw [hread, if_pos htype, haddr]
    refine Or.inr ⟨by decide, by decide, by decide, ?_⟩
    rw [Bar.OwnsPorts, haddr, if_neg (by decide), hsize]
    exact ⟨by decide, fun i hi _ => hports i hi⟩
  exact ⟨s, hs, hread, h, (bar_sizing_iff _ _ _ h).mpr hrestores⟩

/-- The guest reads 0xfef0 back from a memory BAR of 128 KiB, and not 0xfffe0000. -/
theorem bar_size_reversed : ∃ t, SizedBar mmioBarSystem 0 ∧
    pciWriteBar (fun _ _ => true) mmioBarSystem (barWrite 0 0xffffffff) = .ok t ∧
    pciReadBar t 0x10 4 = 0x0000fef0 ∧
    ~~~((mmioBarSystem.bar 0).size - 1) ||| mmioBarSystem.typeBits 0 = 0xfffe0000 ∧
    ¬ BarSizes (fun _ _ => true) mmioBarSystem 0 := by
  obtain ⟨t, ht, hread⟩ := exists_of_ends (fun t : BarSystem ℕ => pciReadBar t 0x10 4 = 0x0000fef0)
    (r := pciWriteBar (fun _ _ => true) mmioBarSystem (barWrite 0 0xffffffff)) (by decide +kernel)
  refine ⟨t, ⟨by decide, ⟨17, rfl, by decide⟩, by decide⟩, ht, hread, by decide +kernel, ?_⟩
  rintro ⟨u, hu, hanswer, -⟩
  rw [ht] at hu
  cases hu
  exact absurd (hread.symm.trans hanswer) (by decide +kernel)

end Svmm
