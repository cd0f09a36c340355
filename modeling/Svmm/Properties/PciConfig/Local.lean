import Svmm.Properties.PciConfig.Effects

/-!
# What a configuration write touches

A write is to change the bytes that it names, and no byte of another function.  Three places do
more.  The IDE handler indexes the function that it gets as if it were the first of all, and writes
to another one.  The handler of power management stores a doubleword whatever the length, and so
does `pci.c` when a BAR is asked for its size or loses its address.
-/

namespace Svmm

open Bytes TransitionRun

/-! ## Statements -/

namespace PciWrite

variable (w : PciWrite)

/-- The bytes that a write may change: those that it names, the interrupt pin beside the interrupt
line, and the BARs that mirror the bases of power management. -/
def Names (fn : PciFunction) (x : ℕ) : Prop :=
  fn = w.fn ∧ (w.Covers x ∨ (w.offset = pciConfIrqLine ∧ x = 0x3d) ∨
    fn = acpiFunction ∧ ((w.offset = 0x40 ∧ 0x10 ≤ x ∧ x < 0x14) ∨
      (w.offset = 0x90 ∧ 0x14 ≤ x ∧ x < 0x18)))

/-- The write is one to an I/O BAR that changes a byte of it. -/
def ToBar (bus : PciBus) : Prop :=
  w.Reaches bus ∧ ((bus.device w.fn).conf pciConfHdrType &&& 3 = 0 ∧ pciConfBar0 ≤ w.offset.toNat ∧
    w.offset.toNat ≤ pciConfBar5) ∧ ((bus.device w.fn).bar w.barNum).type ≠ .none ∧
      ¬ w.Quiet (bus.device w.fn).conf

/-- The loop over the ports of the BAR comes to one, and takes away its address: no earlier port is
out of the mask, and the handlers of this one can be removed. -/
def Clears (ports : List ℕ) (bus : PciBus) : Prop :=
  w.address = 0 ∧ ∃ i, ports.find? (fun i =>
    !((bus.device w.fn).bar w.barNum).mask.getLsbD i) = some i ∧
    i < 64 ∧ (((bus.device w.fn).bar w.barNum).addr ≠ 0 →
      ((bus.device w.fn).bar w.barNum).addr + BitVec.ofNat 32 i < portIoBitmapSize ∧
        (bus.port (((bus.device w.fn).bar w.barNum).addr + BitVec.ofNat 32 i)).isSome)

/-- The bytes of a doubleword that the write does not name are in the configuration space
already. -/
def TailKept (value : BitVec 32) (s : PciSystem) : Prop :=
  ∀ j < 4, w.length ≤ j → byteAt value j = s.conf w.fn (w.offset.toNat + j)

end PciWrite

/-- Every byte that the write does not name is kept. -/
def ConfKept (w : PciWrite) (s t : PciSystem) : Prop :=
  ∀ fn x, ¬ w.Names fn x → t.conf fn x = s.conf fn x

/-- A configuration write is local: it stays inside the configuration space, and where it does not
stop the program, it changes the bytes that it names only. -/
def WritesLocally (s : PciSystem) (w : PciWrite) : Prop :=
  pciSystemWrite s w ≠ .error .confOverrun ∧ ∀ t, pciSystemWrite s w = .ok t → ConfKept w s t

/-- What is written beyond the named bytes is there already. -/
structure Contained (s : PciSystem) (w : PciWrite) : Prop where
  ide : w.Passed s.bus → w.fn = ideFunction → ¬ (0x10 ≤ w.offset.toNat ∧ w.offset.toNat < 0x20 ∨
      0x23 < w.offset.toNat ∧ w.offset.toNat < 0x40) → ∀ x, w.Covers x →
    ideRegister x (s.conf (ideTarget ideFunction) x) (byteAt w.value (x - w.offset.toNat)) =
      s.conf (ideTarget ideFunction) x
  acpi : w.Passed s.bus → w.fn = acpiFunction → ¬ (0x10 ≤ w.offset.toNat ∧ w.offset.toNat < 0x34) →
    w.offset ≠ 0x06 → w.offset ≠ 0x40 → w.offset ≠ 0x90 →
      w.offset.toNat + 4 ≤ 0x100 ∧ w.TailKept w.value s
  size : w.ToBar s.bus → w.value = 0xffffffff → w.TailKept
    (~~~(((s.bus.device w.fn).bar w.barNum).size - 1) &&& 0xfffffffc ||| 1) s
  clear : w.ToBar s.bus → w.value ≠ 0xffffffff →
    w.Clears (List.range ((s.bus.device w.fn).bar w.barNum).size.toNat) s.bus → w.TailKept 1 s
  irq : w.Reaches s.bus → w.offset = pciConfIrqLine → w.length = 0 →
    byteAt w.value 0 = s.conf w.fn 0x3c

/-! ## Moving a BAR -/

section Bar

variable {w : PciWrite} {b b' : PciBus} {is : List ℕ}

lemma storeDword_apply (conf : ℕ → BitVec 8) (offset x : ℕ) (value : BitVec 32) :
    storeDword conf offset value x =
      if offset ≤ x ∧ x < offset + 4 then byteAt value (x - offset) else conf x := rfl

lemma removePort_ok {a : BitVec 32} (h : removePortIoHandler a b = .ok b') :
    b'.device = b.device := by
  unfold removePortIoHandler at h
  split_ifs at h
  cases h
  rfl

lemma registerPort_ok {a : BitVec 32} {owner : PortOwner}
    (h : registerPortIoHandler a owner b = .ok b') : b'.device = b.device := by
  unfold registerPortIoHandler at h
  split_ifs at h
  cases h
  rfl

lemma removeBarPort_ok {bar : PciBar} {i : ℕ} (h : removeBarPort bar i b = .ok b') :
    b'.device = b.device := by
  unfold removeBarPort at h
  split_ifs at h with haddr
  · exact removePort_ok h
  · cases h
    rfl

/-- The handlers of a port can be removed exactly when it has some. -/
lemma exists_removeBarPort_iff {bar : PciBar} {i : ℕ} : (∃ b', removeBarPort bar i b = .ok b') ↔
    (bar.addr ≠ 0 → bar.addr + BitVec.ofNat 32 i < portIoBitmapSize ∧
      (b.port (bar.addr + BitVec.ofNat 32 i)).isSome) := by
  unfold removeBarPort
  by_cases haddr : bar.addr = 0
  · simp [haddr]
  · rw [if_pos haddr]
    simp only [ne_eq, haddr, not_false_iff, true_imp_iff]
    generalize bar.addr + BitVec.ofNat 32 i = a
    have hsize : portIoBitmapSize = 0xffe0 := rfl
    unfold removePortIoHandler
    by_cases hbound : 0xffff ≤ a
    · have hlt : ¬ a < portIoBitmapSize := by
        rw [hsize]
        bv_omega
      rw [if_pos hbound]
      simp [hlt]
    · rw [if_neg hbound]
      by_cases hbitmap : portIoBitmapSize ≤ a
      · have hlt : ¬ a < portIoBitmapSize := BitVec.not_lt.mpr hbitmap
        simp [hbitmap, hlt]
      · rw [if_neg hbitmap]
        have hlt : a < portIoBitmapSize := BitVec.not_le.mp hbitmap
        cases hport : b.port a with
        | none => simp
        | some owner => simp [hlt]

lemma setAddr_conf (barNum : ℕ) (addr : BitVec 32) (device : PciDevice) :
    (device.setAddr barNum addr).conf = device.conf := rfl

lemma setDevice_conf {device : PciDevice} (h : device.conf = (b.device w.fn).conf)
    (fn : PciFunction) : ((b.setDevice w.fn device).device fn).conf = (b.device fn).conf := by
  by_cases hfn : fn = w.fn
  · subst hfn
    simpa [PciBus.setDevice] using h
  · simp [PciBus.setDevice, hfn]

lemma clears_cons_of_masked {i : ℕ} (h : ((b.device w.fn).bar w.barNum).mask.getLsbD i = true) :
    w.Clears (i :: is) b ↔ w.Clears is b := by
  unfold PciWrite.Clears
  rw [List.find?_cons_of_neg (by simp [h])]

lemma clears_cons {i : ℕ} (h : ((b.device w.fn).bar w.barNum).mask.getLsbD i = false) :
    w.Clears (i :: is) b ↔ w.address = 0 ∧ i < 64 ∧
      ∃ b', removeBarPort ((b.device w.fn).bar w.barNum) i b = .ok b' := by
  unfold PciWrite.Clears
  rw [List.find?_cons_of_pos (by simp [h]), exists_removeBarPort_iff]
  simp

/-- A loop that does not take the address away leaves the configuration bytes. -/
lemma pciMoveBar_kept (h : pciMoveBar w is b = .ok b') (hclears : ¬ w.Clears is b)
    (fn : PciFunction) : (b'.device fn).conf = (b.device fn).conf := by
  induction is generalizing b with
  | nil =>
      obtain rfl : _ = b' := Except.ok.inj h
      exact setDevice_conf (setAddr_conf _ _ _) fn
  | cons i is ih =>
      rw [pciMoveBar] at h
      by_cases hi : 64 ≤ i
      · rw [if_pos hi] at h
        cases h
      · rw [if_neg hi] at h
        cases hmask : ((b.device w.fn).bar w.barNum).mask.getLsbD i with
        | true =>
            rw [if_pos hmask] at h
            exact ih h ((clears_cons_of_masked hmask).not.mp hclears)
        | false =>
            rw [if_neg (by simp [hmask])] at h
            obtain ⟨c, hremove, h⟩ := bind_eq_ok.mp h
            have haddress : w.address ≠ 0 := fun haddress =>
              hclears ((clears_cons hmask).mpr ⟨haddress, Nat.lt_of_not_le hi, c, hremove⟩)
            rw [if_neg haddress] at h
            obtain ⟨d, hregister, h⟩ := bind_eq_ok.mp h
            rw [ih h fun hclears => haddress hclears.1, registerPort_ok hregister,
              removeBarPort_ok hremove]

/-- A loop that takes the address away stores a doubleword. -/
lemma pciMoveBar_cleared (h : w.Clears is b) : ∃ b', pciMoveBar w is b = .ok b' ∧
    ∀ fn, (b'.device fn).conf = if fn = w.fn then
      storeDword (b.device w.fn).conf w.offset.toNat 1 else (b.device fn).conf := by
  induction is with
  | nil =>
      obtain ⟨-, i, hfind, -⟩ := h
      cases hfind
  | cons i is ih =>
      rw [pciMoveBar]
      cases hmask : ((b.device w.fn).bar w.barNum).mask.getLsbD i with
      | true =>
          have hi : ¬ 64 ≤ i := Nat.not_le_of_lt (BitVec.lt_of_getLsbD hmask)
          rw [if_neg hi, if_pos rfl]
          exact ih ((clears_cons_of_masked hmask).mp h)
      | false =>
          obtain ⟨haddress, hi, c, hremove⟩ := (clears_cons hmask).mp h
          rw [if_neg (Nat.not_le_of_lt hi), if_neg Bool.false_ne_true, hremove, ok_bind,
            if_pos haddress]
          refine ⟨_, rfl, fun fn => ?_⟩
          have hdevice := removeBarPort_ok hremove
          by_cases hfn : fn = w.fn
          · subst hfn
            simp [PciBus.setDevice, setAddr_conf, hdevice]
          · simp [PciBus.setDevice, hfn, hdevice]

end Bar

/-! ## The cases of a write -/

section Cases

variable {s t : PciSystem} {w : PciWrite}

lemma writesLocally_ok (h : pciSystemWrite s w = .ok t) : WritesLocally s w ↔ ConfKept w s t := by
  unfold WritesLocally
  rw [h]
  constructor
  · intro hlocal
    exact hlocal.2 t rfl
  · intro hkept
    refine ⟨by simp, fun u hu => ?_⟩
    obtain rfl : t = u := Except.ok.inj hu
    exact hkept

lemma writesLocally_stopped {e : PciFault} (h : pciSystemWrite s w = .error (.pci e)) :
    WritesLocally s w := by
  unfold WritesLocally
  rw [h]
  simp

lemma ConfKept.refl : ConfKept w s s := fun _ _ _ => rfl

lemma ConfKept.of_covers (h : ∀ fn x, ¬ (fn = w.fn ∧ w.Covers x) → t.conf fn x = s.conf fn x) :
    ConfKept w s t := by
  intro fn x hnames
  exact h fn x fun hcovers => hnames ⟨hcovers.1, Or.inl hcovers.2⟩

/-- A doubleword that is stored over the named bytes. -/
lemma confKept_storeDword_iff {base : ℕ → BitVec 8} {value : BitVec 32}
    (ht : ∀ fn x, t.conf fn x =
      if fn = w.fn then storeDword base w.offset.toNat value x else s.conf fn x)
    (hbase : ∀ x, ¬ w.Covers x → base x = s.conf w.fn x)
    (hoffset : w.offset ≠ pciConfIrqLine ∧ w.offset ≠ 0x40 ∧ w.offset ≠ 0x90) :
    ConfKept w s t ↔ w.TailKept value s := by
  have hnames : ∀ x, w.Names w.fn x ↔ w.Covers x := by
    intro x
    constructor
    · rintro ⟨-, hcovers | ⟨hirq, -⟩ | ⟨-, hbase | hbase⟩⟩
      · exact hcovers
      · exact absurd hirq hoffset.1
      · exact absurd hbase.1 hoffset.2.1
      · exact absurd hbase.1 hoffset.2.2
    · intro hcovers
      exact ⟨rfl, Or.inl hcovers⟩
  constructor
  · intro hkept j hj hlength
    have hcovers : ¬ w.Covers (w.offset.toNat + j) := fun hcovers => by
      have := hcovers.2
      omega
    have hbyte := hkept w.fn (w.offset.toNat + j) ((hnames _).not.mpr hcovers)
    rw [ht, if_pos rfl, storeDword_apply, if_pos (by omega), Nat.add_sub_cancel_left] at hbyte
    exact hbyte
  · intro htail fn x hx
    rw [ht]
    by_cases hfn : fn = w.fn
    · subst hfn
      have hcovers := (hnames x).not.mp hx
      rw [if_pos rfl, storeDword_apply]
      by_cases hin : w.offset.toNat ≤ x ∧ x < w.offset.toNat + 4
      · obtain ⟨j, rfl⟩ := Nat.exists_eq_add_of_le hin.1
        rw [if_pos hin, Nat.add_sub_cancel_left]
        refine htail j (by omega) (Nat.le_of_not_lt fun hlt => hcovers ⟨hin.1, ?_⟩)
        omega
      · rw [if_neg hin, hbase x hcovers]
    · rw [if_neg hfn]

/-! ### Writes to BARs -/

/-- What `pci.c` does with a write that it does not pass on. -/
lemma pciSystemWrite_ok (h : ¬ w.Passed s.bus) {b : PciBus}
    (hb : pciWriteConfHandler (fun bus _ => .ok bus) s.bus w = .ok b) :
    pciSystemWrite s w = .ok { s with bus := b } := by
  rw [pciSystemWrite, if_neg h, hb]

lemma pciSystemWrite_error (h : ¬ w.Passed s.bus) {e : PciFault}
    (he : pciWriteConfHandler (fun bus _ => .ok bus) s.bus w = .error e) :
    pciSystemWrite s w = .error (.pci e) := by
  rw [pciSystemWrite, if_neg h, he]

/-- A write that reaches the BARs. -/
lemma pciWrite_bar (hreaches : w.Reaches s.bus)
    (hbar : (s.bus.device w.fn).conf pciConfHdrType &&& 3 = 0 ∧ pciConfBar0 ≤ w.offset.toNat ∧
      w.offset.toNat ≤ pciConfBar5) :
    pciWriteConfHandler (fun bus _ => .ok bus) s.bus w =
      let device := s.bus.device w.fn
      if (device.bar w.barNum).type = .none then .ok s.bus
      else
        let s' := s.bus.setDevice w.fn { device with conf := w.store device.conf }
        if w.Quiet device.conf then .ok s'
        else if w.value = 0xffffffff then
          .ok (s.bus.setDevice w.fn { device with
            conf := w.storeSize (device.bar w.barNum).size (w.store device.conf) })
        else pciMoveBar w (List.range (device.bar w.barNum).size.toNat) s' := by
  have hinit : ¬ (s.bus.device w.fn).initialized = false := by simp [hreaches.1]
  have hbound : ¬ (w.offset = 0xff ∨ 0xff ≤ w.offset.toNat + w.length) := by
    have := hreaches.2.2
    rintro (hoffset | hlength)
    · exact hreaches.2.1 hoffset
    · omega
  rw [pciWriteConfHandler]
  simp only [if_neg hinit, if_neg hbound, if_pos hbar]

lemma PciWrite.store_of_not_covers {conf : ℕ → BitVec 8} {x : ℕ} (h : ¬ w.Covers x) :
    w.store conf x = conf x := if_neg h

lemma conf_withBus (b : PciBus) (fn : PciFunction) (x : ℕ) :
    PciSystem.conf { s with bus := b } fn x = (b.device fn).conf x := rfl

lemma device_setDevice (b : PciBus) (fn fn' : PciFunction) (device : PciDevice) :
    (b.setDevice fn device).device fn' = if fn' = fn then device else b.device fn' := by
  exact Function.update_apply _ _ _ _

/-- The named bytes of a BAR, stored. -/
lemma ConfKept.of_store {b : PciBus} (h : ∀ fn, (b.device fn).conf =
    ((s.bus.setDevice w.fn { s.bus.device w.fn with
      conf := w.store (s.bus.device w.fn).conf }).device fn).conf) :
    ConfKept w s { s with bus := b } := by
  refine ConfKept.of_covers fun fn x hcovers => ?_
  rw [conf_withBus, h, device_setDevice]
  by_cases hfn : fn = w.fn
  · subst hfn
    rw [if_pos rfl]
    exact PciWrite.store_of_not_covers fun h => hcovers ⟨rfl, h⟩
  · rw [if_neg hfn]
    rfl

/-- The BARs are none of the registers that a write changes beside its bytes. -/
lemma bar_offset_ne (hle : w.offset.toNat ≤ pciConfBar5) :
    w.offset ≠ pciConfIrqLine ∧ w.offset ≠ 0x40 ∧ w.offset ≠ 0x90 := by
  have hle : w.offset.toNat ≤ 0x24 := hle
  refine ⟨?_, ?_, ?_⟩
  all_goals
    intro h
    rw [h] at hle
    exact absurd hle (by decide)

/-- A BAR that is asked for its size holds the whole doubleword. -/
lemma writesLocally_sized_iff (hto : w.ToBar s.bus) (hvalue : w.value = 0xffffffff) :
    WritesLocally s w ↔ w.TailKept
      (~~~(((s.bus.device w.fn).bar w.barNum).size - 1) &&& 0xfffffffc ||| 1) s := by
  obtain ⟨hreaches, hbar, htype, hquiet⟩ := hto
  have hpassed : ¬ w.Passed s.bus := fun h => h.2.1 hbar
  have hwrite := pciWrite_bar hreaches hbar
  simp only [if_neg htype, if_neg hquiet, if_pos hvalue] at hwrite
  rw [writesLocally_ok (pciSystemWrite_ok hpassed hwrite)]
  refine confKept_storeDword_iff (fun fn x => ?_) (fun _ => PciWrite.store_of_not_covers)
    (bar_offset_ne hbar.2.2)
  rw [conf_withBus, device_setDevice]
  by_cases hfn : fn = w.fn
  · rw [if_pos hfn, if_pos hfn]
    rfl
  · rw [if_neg hfn, if_neg hfn]
    rfl

/-- Whether a BAR loses its address does not depend on the bytes that have been stored. -/
lemma clears_stored_iff {ports : List ℕ} :
    w.Clears ports (s.bus.setDevice w.fn { s.bus.device w.fn with
      conf := w.store (s.bus.device w.fn).conf }) ↔ w.Clears ports s.bus := by
  unfold PciWrite.Clears
  rw [device_setDevice, if_pos rfl]
  rfl

/-- A BAR that loses its address holds the whole doubleword 1. -/
lemma writesLocally_moved_iff (hto : w.ToBar s.bus) (hvalue : w.value ≠ 0xffffffff) :
    WritesLocally s w ↔
      (w.Clears (List.range ((s.bus.device w.fn).bar w.barNum).size.toNat) s.bus →
        w.TailKept 1 s) := by
  obtain ⟨hreaches, hbar, htype, hquiet⟩ := hto
  have hpassed : ¬ w.Passed s.bus := fun h => h.2.1 hbar
  have hwrite := pciWrite_bar hreaches hbar
  simp only [if_neg htype, if_neg hquiet, if_neg hvalue] at hwrite
  by_cases hclear : w.Clears (List.range ((s.bus.device w.fn).bar w.barNum).size.toNat) s.bus
  · obtain ⟨b, hb, hconf⟩ := pciMoveBar_cleared (clears_stored_iff.mpr hclear)
    simp only [hclear, true_imp_iff]
    rw [writesLocally_ok (pciSystemWrite_ok hpassed (hwrite.trans hb))]
    refine confKept_storeDword_iff (fun fn x => ?_) (fun _ => PciWrite.store_of_not_covers)
      (bar_offset_ne hbar.2.2)
    rw [conf_withBus, hconf, device_setDevice, if_pos rfl, device_setDevice]
    by_cases hfn : fn = w.fn
    · rw [if_pos hfn, if_pos hfn]
      rfl
    · rw [if_neg hfn, if_neg hfn, if_neg hfn]
      rfl
  · refine iff_of_true ?_ fun h => absurd h hclear
    cases hmove : pciMoveBar w (List.range ((s.bus.device w.fn).bar w.barNum).size.toNat)
        (s.bus.setDevice w.fn { s.bus.device w.fn with
          conf := w.store (s.bus.device w.fn).conf }) with
    | ok b =>
        rw [writesLocally_ok (pciSystemWrite_ok hpassed (hwrite.trans hmove))]
        exact ConfKept.of_store (pciMoveBar_kept hmove (clears_stored_iff.not.mpr hclear))
    | error e =>
        exact writesLocally_stopped (pciSystemWrite_error hpassed (hwrite.trans hmove))

/-- A write to a BAR that is not one, or that changes no byte of it, is local. -/
lemma writesLocally_notToBar (hreaches : w.Reaches s.bus)
    (hbar : (s.bus.device w.fn).conf pciConfHdrType &&& 3 = 0 ∧ pciConfBar0 ≤ w.offset.toNat ∧
      w.offset.toNat ≤ pciConfBar5) (hto : ¬ w.ToBar s.bus) : WritesLocally s w := by
  have hpassed : ¬ w.Passed s.bus := fun h => h.2.1 hbar
  have hwrite := pciWrite_bar hreaches hbar
  simp only at hwrite
  by_cases htype : ((s.bus.device w.fn).bar w.barNum).type = .none
  · rw [if_pos htype] at hwrite
    exact (writesLocally_ok (pciSystemWrite_ok hpassed hwrite)).mpr ConfKept.refl
  · have hquiet : w.Quiet (s.bus.device w.fn).conf := by
      by_contra hquiet
      exact hto ⟨hreaches, hbar, htype, hquiet⟩
    rw [if_neg htype, if_pos hquiet] at hwrite
    exact (writesLocally_ok (pciSystemWrite_ok hpassed hwrite)).mpr (ConfKept.of_store fun _ => rfl)

/-- A write to a BAR is local exactly when its tail is there already. -/
lemma writesLocally_bar_iff (hreaches : w.Reaches s.bus)
    (hbar : (s.bus.device w.fn).conf pciConfHdrType &&& 3 = 0 ∧ pciConfBar0 ≤ w.offset.toNat ∧
      w.offset.toNat ≤ pciConfBar5) :
    WritesLocally s w ↔ (w.ToBar s.bus → w.value = 0xffffffff → w.TailKept
        (~~~(((s.bus.device w.fn).bar w.barNum).size - 1) &&& 0xfffffffc ||| 1) s) ∧
      (w.ToBar s.bus → w.value ≠ 0xffffffff →
        w.Clears (List.range ((s.bus.device w.fn).bar w.barNum).size.toNat) s.bus →
          w.TailKept 1 s) := by
  by_cases hto : w.ToBar s.bus
  · by_cases hvalue : w.value = 0xffffffff
    · rw [writesLocally_sized_iff hto hvalue]
      exact ⟨fun h => ⟨fun _ _ => h, fun _ hne => absurd hvalue hne⟩, fun h => h.1 hto hvalue⟩
    · rw [writesLocally_moved_iff hto hvalue]
      exact ⟨fun h => ⟨fun _ heq => absurd heq hvalue, fun _ _ => h⟩, fun h => h.2 hto hvalue⟩
  · exact iff_of_true (writesLocally_notToBar hreaches hbar hto)
      ⟨fun h => absurd h hto, fun h => absurd h hto⟩

/-! ### Other writes -/

/-- A write that does not reach a function changes nothing. -/
lemma pciWrite_of_not_reaches {handler : PciBus → PciWrite → PciOutcome PciBus}
    (h : ¬ w.Reaches s.bus) : pciWriteConfHandler handler s.bus w = .ok s.bus := by
  rw [pciWriteConfHandler]
  by_cases hinit : (s.bus.device w.fn).initialized = false
  · simp only [if_pos hinit]
  · simp only [if_neg hinit]
    by_cases hbound : w.offset = 0xff ∨ 0xff ≤ w.offset.toNat + w.length
    · rw [if_pos hbound]
    · refine absurd ⟨by simpa using hinit, fun hoffset => hbound (Or.inl hoffset), ?_⟩ h
      exact Nat.lt_of_not_le fun hle => hbound (Or.inr hle)

/-- A write beside the BARs. -/
lemma pciWrite_not_bar {handler : PciBus → PciWrite → PciOutcome PciBus}
    (hreaches : w.Reaches s.bus)
    (hbar : ¬ ((s.bus.device w.fn).conf pciConfHdrType &&& 3 = 0 ∧ pciConfBar0 ≤ w.offset.toNat ∧
      w.offset.toNat ≤ pciConfBar5)) :
    pciWriteConfHandler handler s.bus w =
      if w.offset = pciConfRomAddress then .ok s.bus
      else if w.offset = pciConfIrqLine then
        .ok (s.bus.setDevice w.fn { s.bus.device w.fn with
          conf := Function.update (Function.update (s.bus.device w.fn).conf 0x3c
            (byteAt w.value 0)) 0x3d 1 })
      else handler s.bus w := by
  have hinit : ¬ (s.bus.device w.fn).initialized = false := by simp [hreaches.1]
  have hbound : ¬ (w.offset = 0xff ∨ 0xff ≤ w.offset.toNat + w.length) := by
    have := hreaches.2.2
    rintro (hoffset | hlength)
    · exact hreaches.2.1 hoffset
    · omega
  rw [pciWriteConfHandler]
  simp only [if_neg hinit, if_neg hbound, if_neg hbar]

/-- A write to the interrupt line is local, unless its length is zero. -/
lemma writesLocally_irq_iff (hreaches : w.Reaches s.bus) (hirq : w.offset = pciConfIrqLine) :
    WritesLocally s w ↔ (w.length = 0 → byteAt w.value 0 = s.conf w.fn 0x3c) := by
  have hpassed : ¬ w.Passed s.bus := fun h => h.2.2.2 hirq
  have hoffset : w.offset.toNat = 0x3c := by rw [hirq]; rfl
  have hbar : ¬ ((s.bus.device w.fn).conf pciConfHdrType &&& 3 = 0 ∧
      pciConfBar0 ≤ w.offset.toNat ∧ w.offset.toNat ≤ pciConfBar5) := by
    rintro ⟨-, -, hle⟩
    rw [hoffset] at hle
    exact absurd hle (by decide)
  have hwrite : pciWriteConfHandler (fun bus _ => .ok bus) s.bus w = _ :=
    pciWrite_not_bar hreaches hbar
  rw [if_neg (by rw [hirq]; decide), if_pos hirq] at hwrite
  rw [writesLocally_ok (pciSystemWrite_ok hpassed hwrite)]
  have hconf : ∀ x, x ≠ 0x3d → Function.update (Function.update (s.bus.device w.fn).conf 0x3c
      (byteAt w.value 0)) 0x3d 1 x = if x = 0x3c then byteAt w.value 0 else s.conf w.fn x := by
    intro x hx
    rw [Function.update_of_ne hx]
    exact Function.update_apply _ _ _ _
  constructor
  · intro hkept hlength
    have hnames : ¬ w.Names w.fn 0x3c := by
      rintro ⟨-, hcovers | ⟨-, hpin⟩ | ⟨-, hbase | hbase⟩⟩
      · have := hcovers.2
        omega
      · exact absurd hpin (by decide)
      · exact absurd (hirq.symm.trans hbase.1) (by decide)
      · exact absurd (hirq.symm.trans hbase.1) (by decide)
    have hbyte := hkept w.fn 0x3c hnames
    rw [conf_withBus, device_setDevice, if_pos rfl] at hbyte
    exact (if_pos rfl).symm.trans ((hconf 0x3c (by decide)).symm.trans hbyte)
  · intro hzero fn x hnames
    by_cases hfn : fn = w.fn
    · subst hfn
      have hpin : x ≠ 0x3d := fun hx => hnames ⟨rfl, Or.inr (Or.inl ⟨hirq, hx⟩)⟩
      rw [conf_withBus, device_setDevice, if_pos rfl]
      refine (hconf x hpin).trans ?_
      by_cases hline : x = 0x3c
      · subst hline
        rw [if_pos rfl]
        refine hzero (Nat.eq_zero_of_not_pos fun hlength => hnames ⟨rfl, Or.inl ⟨?_, ?_⟩⟩)
        · omega
        · omega
      · rw [if_neg hline]
    · rw [conf_withBus, device_setDevice, if_neg hfn]
      rfl

/-- A whole doubleword that `pci.c` takes is local. -/
lemma confKept_of_dword {b : PciBus}
    (h : pciWriteConfHandler (fun bus _ => .ok bus) s.bus w = .ok b) (hlength : 4 ≤ w.length)
    (hoffset : w.offset ≠ pciConfIrqLine) : ConfKept w s { s with bus := b } := by
  by_cases hreaches : w.Reaches s.bus
  · by_cases hbar : (s.bus.device w.fn).conf pciConfHdrType &&& 3 = 0 ∧
        pciConfBar0 ≤ w.offset.toNat ∧ w.offset.toNat ≤ pciConfBar5
    · have hpassed : ¬ w.Passed s.bus := fun h => h.2.1 hbar
      have htail : ∀ value, w.TailKept value s := fun value j hj hle => by omega
      exact (writesLocally_ok (pciSystemWrite_ok hpassed h)).mp
        ((writesLocally_bar_iff hreaches hbar).mpr
          ⟨fun _ _ => htail _, fun _ _ _ => htail _⟩)
    · rw [pciWrite_not_bar hreaches hbar, if_neg hoffset, ite_self] at h
      obtain rfl : s.bus = b := Except.ok.inj h
      exact ConfKept.refl
  · rw [pciWrite_of_not_reaches hreaches] at h
    obtain rfl : s.bus = b := Except.ok.inj h
    exact ConfKept.refl

/-! ### Power management -/

/-- The BAR that an ACPI base is written to. -/
lemma acpiWriteBar_conf {bar : BitVec 8} {value : BitVec 32} (hbar : bar = 0x10 ∨ bar = 0x14)
    (h : acpiWriteBar bar value s = .ok t) {fn : PciFunction} {x : ℕ}
    (hx : ¬ (fn = acpiFunction ∧ bar.toNat ≤ x ∧ x < bar.toNat + 4)) :
    t.conf fn x = s.conf fn x := by
  have hoffset : bar ≠ pciConfIrqLine ∧ bar ≠ 0x40 ∧ bar ≠ 0x90 := by
    rcases hbar with rfl | rfl
    · decide
    · decide
  rw [acpiWriteBar] at h
  cases hwrite : pciWriteConfHandler (fun bus _ => .ok bus) s.bus
      { fn := acpiFunction, offset := bar, value := value &&& ~~~1, length := 4 } with
  | error e =>
      rw [hwrite] at h
      cases h
  | ok b =>
      rw [hwrite] at h
      obtain rfl : _ = t := Except.ok.inj h
      refine confKept_of_dword hwrite (Nat.le_refl 4) hoffset.1 fn x ?_
      rintro ⟨hfn, hcovers | ⟨hirq, -⟩ | ⟨-, hbase | hbase⟩⟩
      · exact hx ⟨hfn, hcovers⟩
      · exact hoffset.1 hirq
      · exact hoffset.2.1 hbase.1
      · exact hoffset.2.2 hbase.1

/-- A base that is written to its BAR. -/
lemma writesLocally_base {bar : BitVec 8} {keep : PciSystem → PciSystem}
    (hwrite : pciSystemWrite s w = acpiWriteBar bar w.value s >>= fun t => .ok (keep t))
    (hkeep : ∀ t fn x, (keep t).conf fn x = t.conf fn x) (hbar : bar = 0x10 ∨ bar = 0x14)
    (hnames : ∀ x, bar.toNat ≤ x ∧ x < bar.toNat + 4 → w.Names acpiFunction x) :
    WritesLocally s w := by
  cases hdone : acpiWriteBar bar w.value s with
  | ok t =>
      rw [hdone, ok_bind] at hwrite
      refine (writesLocally_ok hwrite).mpr fun fn x hx => ?_
      rw [hkeep]
      refine acpiWriteBar_conf hbar hdone ?_
      rintro ⟨rfl, hin⟩
      exact hx (hnames x hin)
  | error e =>
      rw [hdone] at hwrite
      rw [acpiWriteBar] at hdone
      split at hdone
      · cases hdone
      · obtain rfl := Except.error.inj hdone
        exact writesLocally_stopped hwrite

/-- What power management does with a write. -/
lemma writesLocally_acpi_iff (hpassed : w.Passed s.bus) (hfn : w.fn = acpiFunction) :
    WritesLocally s w ↔ (¬ (0x10 ≤ w.offset.toNat ∧ w.offset.toNat < 0x34) → w.offset ≠ 0x06 →
      w.offset ≠ 0x40 → w.offset ≠ 0x90 → w.offset.toNat + 4 ≤ 0x100 ∧ w.TailKept w.value s) := by
  have hwrite : pciSystemWrite s w = acpiPciConfWriteHandler w s := by
    rw [pciSystemWrite, if_pos hpassed, pciConfWriteHandler, hfn, if_neg (by decide),
      if_neg (by decide), if_neg (by decide), if_pos rfl]
  rw [acpiPciConfWriteHandler] at hwrite
  by_cases hwindow : 0x10 ≤ w.offset.toNat ∧ w.offset.toNat < 0x34
  · rw [if_pos hwindow] at hwrite
    rw [writesLocally_ok hwrite]
    exact iff_of_true ConfKept.refl fun h => absurd hwindow h
  · have hbound : ¬ 0xff ≤ w.offset.toNat + w.length := Nat.not_le_of_lt hpassed.1.2.2
    rw [if_neg hwindow, if_neg hbound] at hwrite
    by_cases hstatus : w.offset = 0x06
    · rw [if_pos hstatus] at hwrite
      rw [writesLocally_ok hwrite]
      exact iff_of_true ConfKept.refl fun _ h => absurd hstatus h
    · rw [if_neg hstatus] at hwrite
      by_cases hpm : w.offset = 0x40
      · rw [if_pos hpm] at hwrite
        refine iff_of_true ?_ fun _ _ h => absurd hpm h
        exact writesLocally_base hwrite (fun _ _ _ => rfl) (Or.inl rfl) fun x hx =>
          ⟨hfn.symm, Or.inr (Or.inr ⟨rfl, Or.inl ⟨hpm, hx⟩⟩)⟩
      · rw [if_neg hpm] at hwrite
        by_cases hsm : w.offset = 0x90
        · rw [if_pos hsm] at hwrite
          refine iff_of_true ?_ fun _ _ _ h => absurd hsm h
          exact writesLocally_base hwrite (fun _ _ _ => rfl) (Or.inr rfl) fun x hx =>
            ⟨hfn.symm, Or.inr (Or.inr ⟨rfl, Or.inr ⟨hsm, hx⟩⟩)⟩
        · rw [if_neg hsm] at hwrite
          simp only [hwindow, hstatus, hpm, hsm, ne_eq, not_false_iff, true_imp_iff]
          by_cases hoverrun : 0x100 < w.offset.toNat + 4
          · rw [if_pos hoverrun] at hwrite
            refine iff_of_false (fun hlocal => hlocal.1 hwrite) fun h => ?_
            have := h.1
            omega
          · rw [if_neg hoverrun] at hwrite
            rw [writesLocally_ok hwrite, and_iff_right (Nat.le_of_not_lt hoverrun)]
            refine confKept_storeDword_iff (fun fn x => ?_) (fun _ _ => rfl)
              ⟨hpassed.2.2.2, hpm, hsm⟩
            exact PciSystem.conf_setConf _

/-! ### The IDE controller -/

/-- What the IDE handler does with a write. -/
lemma writesLocally_ide_iff (hpassed : w.Passed s.bus) (hfn : w.fn = ideFunction) :
    WritesLocally s w ↔ (¬ (0x10 ≤ w.offset.toNat ∧ w.offset.toNat < 0x20 ∨
      0x23 < w.offset.toNat ∧ w.offset.toNat < 0x40) → ∀ x, w.Covers x →
        ideRegister x (s.conf (ideTarget ideFunction) x) (byteAt w.value (x - w.offset.toNat)) =
          s.conf (ideTarget ideFunction) x) := by
  have hwrite : pciSystemWrite s w = .ok (idePciConfWriteHandler w s) := by
    rw [pciSystemWrite, if_pos hpassed, pciConfWriteHandler, hfn, if_neg (by decide),
      if_neg (by decide), if_pos rfl]
  rw [writesLocally_ok hwrite]
  by_cases hwindow : 0x10 ≤ w.offset.toNat ∧ w.offset.toNat < 0x20 ∨
      0x23 < w.offset.toNat ∧ w.offset.toNat < 0x40
  · rw [idePciConfWriteHandler, if_pos hwindow]
    exact iff_of_true ConfKept.refl fun h => absurd hwindow h
  · rw [← hfn]
    constructor
    · intro hkept _ x hcovers
      have hbyte := hkept (ideTarget w.fn) x fun hnames => by
        have hne := hnames.1
        rw [hfn] at hne
        exact absurd hne (by decide)
      rwa [conf_ideHandler hwindow, if_pos ⟨rfl, hcovers⟩] at hbyte
    · intro hheld fn x _
      rw [conf_ideHandler hwindow]
      by_cases hin : fn = ideTarget w.fn ∧ w.Covers x
      · rw [if_pos hin, hheld hwindow x hin.2, hin.1]
      · rw [if_neg hin]

/-! ### The bridges and the display -/

/-- The handlers of the other functions write the bytes that are named. -/
lemma writesLocally_other (hpassed : w.Passed s.bus) (hide : w.fn ≠ ideFunction)
    (hacpi : w.fn ≠ acpiFunction) : WritesLocally s w := by
  have hwrite : pciSystemWrite s w =
      pciConfWriteHandler s w := by rw [pciSystemWrite, if_pos hpassed]
  rw [pciConfWriteHandler] at hwrite
  by_cases hhost : w.fn = i440fxFunction
  · rw [if_pos hhost] at hwrite
    rw [writesLocally_ok hwrite]
    by_cases hwindow : 0x10 ≤ w.offset.toNat ∧ w.offset.toNat < 0x34
    · rw [i440fxPciConfWriteHandler, if_pos hwindow]
      exact ConfKept.refl
    · exact ConfKept.of_covers fun fn x hx => by rw [conf_i440fxHandler hwindow, if_neg hx]
  · rw [if_neg hhost] at hwrite
    by_cases hisa : w.fn = piix3Function
    · rw [if_pos hisa] at hwrite
      rw [writesLocally_ok hwrite]
      by_cases hwindow : 0x10 ≤ w.offset.toNat ∧ w.offset.toNat < 0x34
      · rw [piix3PciConfWriteHandler, if_pos hwindow]
        exact ConfKept.refl
      · exact ConfKept.of_covers fun fn x hx => by rw [conf_piix3Handler hwindow, if_neg hx]
    · rw [if_neg hisa, if_neg hide, if_neg hacpi] at hwrite
      by_cases hvga : w.fn = vgaFunction
      · rw [if_pos hvga] at hwrite
        rw [writesLocally_ok hwrite]
        by_cases hwindow : 0x14 ≤ w.offset.toNat ∧ w.offset.toNat < 0x30
        · rw [vgaWritePciConfHandler, if_pos hwindow]
          exact ConfKept.refl
        · exact ConfKept.of_covers fun fn x hx => by rw [conf_vgaHandler hwindow, if_neg hx]
      · rw [if_neg hvga] at hwrite
        rw [writesLocally_ok hwrite]
        exact ConfKept.refl

/-! ### What a write of each kind holds to -/

/-- A write that reaches no function changes nothing. -/
lemma writesLocally_unreached_iff (hreaches : ¬ w.Reaches s.bus) :
    WritesLocally s w ↔ Contained s w := by
  have hpassed : ¬ w.Passed s.bus := fun h => hreaches h.1
  have hto : ¬ w.ToBar s.bus := fun h => hreaches h.1
  rw [writesLocally_ok (pciSystemWrite_ok hpassed (pciWrite_of_not_reaches hreaches))]
  exact iff_of_true ConfKept.refl
    { ide := fun h => absurd h hpassed
      acpi := fun h => absurd h hpassed
      size := fun h => absurd h hto
      clear := fun h => absurd h hto
      irq := fun h => absurd h hreaches }

/-- A write to a BAR holds to its size and to the loss of its address. -/
lemma contained_bar_iff (hbar : (s.bus.device w.fn).conf pciConfHdrType &&& 3 = 0 ∧
      pciConfBar0 ≤ w.offset.toNat ∧ w.offset.toNat ≤ pciConfBar5) :
    Contained s w ↔ (w.ToBar s.bus → w.value = 0xffffffff → w.TailKept
        (~~~(((s.bus.device w.fn).bar w.barNum).size - 1) &&& 0xfffffffc ||| 1) s) ∧
      (w.ToBar s.bus → w.value ≠ 0xffffffff →
        w.Clears (List.range ((s.bus.device w.fn).bar w.barNum).size.toNat) s.bus →
          w.TailKept 1 s) := by
  have hpassed : ¬ w.Passed s.bus := fun h => h.2.1 hbar
  have hirq : w.offset ≠ pciConfIrqLine := fun h => by
    have hle := hbar.2.2
    rw [h] at hle
    exact absurd hle (by decide)
  constructor
  · intro h
    exact ⟨h.size, h.clear⟩
  · rintro ⟨hsize, hclear⟩
    exact
      { ide := fun h => absurd h hpassed
        acpi := fun h => absurd h hpassed
        size := hsize
        clear := hclear
        irq := fun _ h => absurd h hirq }

/-- A write to the address of the ROM changes nothing. -/
lemma writesLocally_rom_iff (hreaches : w.Reaches s.bus)
    (hbar : ¬ ((s.bus.device w.fn).conf pciConfHdrType &&& 3 = 0 ∧
      pciConfBar0 ≤ w.offset.toNat ∧ w.offset.toNat ≤ pciConfBar5))
    (hrom : w.offset = pciConfRomAddress) : WritesLocally s w ↔ Contained s w := by
  have hpassed : ¬ w.Passed s.bus := fun h => h.2.2.1 hrom
  have hto : ¬ w.ToBar s.bus := fun h => hbar h.2.1
  have hwrite : pciWriteConfHandler (fun bus _ => .ok bus) s.bus w = _ :=
    pciWrite_not_bar hreaches hbar
  rw [if_pos hrom] at hwrite
  rw [writesLocally_ok (pciSystemWrite_ok hpassed hwrite)]
  exact iff_of_true ConfKept.refl
    { ide := fun h => absurd h hpassed
      acpi := fun h => absurd h hpassed
      size := fun h => absurd h hto
      clear := fun h => absurd h hto
      irq := fun _ h => absurd (hrom.symm.trans h) (by decide) }

/-- A write to the interrupt line holds to the byte that it stores without naming one. -/
lemma contained_irq_iff (hreaches : w.Reaches s.bus)
    (hbar : ¬ ((s.bus.device w.fn).conf pciConfHdrType &&& 3 = 0 ∧
      pciConfBar0 ≤ w.offset.toNat ∧ w.offset.toNat ≤ pciConfBar5))
    (hirq : w.offset = pciConfIrqLine) :
    Contained s w ↔ (w.length = 0 → byteAt w.value 0 = s.conf w.fn 0x3c) := by
  have hpassed : ¬ w.Passed s.bus := fun h => h.2.2.2 hirq
  have hto : ¬ w.ToBar s.bus := fun h => hbar h.2.1
  constructor
  · intro h
    exact h.irq hreaches hirq
  · intro h
    exact
      { ide := fun h => absurd h hpassed
        acpi := fun h => absurd h hpassed
        size := fun h => absurd h hto
        clear := fun h => absurd h hto
        irq := fun _ _ => h }

/-- A write that is passed on holds to what the handler of its function does. -/
lemma contained_passed_iff (hpassed : w.Passed s.bus) :
    Contained s w ↔
      (w.fn = ideFunction → ¬ (0x10 ≤ w.offset.toNat ∧ w.offset.toNat < 0x20 ∨
        0x23 < w.offset.toNat ∧ w.offset.toNat < 0x40) → ∀ x, w.Covers x →
          ideRegister x (s.conf (ideTarget ideFunction) x) (byteAt w.value (x - w.offset.toNat)) =
            s.conf (ideTarget ideFunction) x) ∧
      (w.fn = acpiFunction → ¬ (0x10 ≤ w.offset.toNat ∧ w.offset.toNat < 0x34) →
        w.offset ≠ 0x06 → w.offset ≠ 0x40 → w.offset ≠ 0x90 →
          w.offset.toNat + 4 ≤ 0x100 ∧ w.TailKept w.value s) := by
  have hto : ¬ w.ToBar s.bus := fun h => hpassed.2.1 h.2.1
  constructor
  · intro h
    exact ⟨h.ide hpassed, h.acpi hpassed⟩
  · rintro ⟨hide, hacpi⟩
    exact
      { ide := fun _ => hide
        acpi := fun _ => hacpi
        size := fun h => absurd h hto
        clear := fun h => absurd h hto
        irq := fun _ h => absurd h hpassed.2.2.2 }

/-- What the handlers do with a write that is passed on. -/
lemma writesLocally_passed_iff (hpassed : w.Passed s.bus) :
    WritesLocally s w ↔ Contained s w := by
  rw [contained_passed_iff hpassed]
  by_cases hide : w.fn = ideFunction
  · have hacpi : w.fn ≠ acpiFunction := by
      rw [hide]
      decide
    rw [writesLocally_ide_iff hpassed hide]
    exact ⟨fun h => ⟨fun _ => h, fun hfn => absurd hfn hacpi⟩, fun h => h.1 hide⟩
  · by_cases hacpi : w.fn = acpiFunction
    · rw [writesLocally_acpi_iff hpassed hacpi]
      exact ⟨fun h => ⟨fun hfn => absurd hfn hide, fun _ => h⟩, fun h => h.2 hacpi⟩
    · exact iff_of_true (writesLocally_other hpassed hide hacpi)
        ⟨fun hfn => absurd hfn hide, fun hfn => absurd hfn hacpi⟩

end Cases

/-! ## Every write -/

/-- A configuration write is local exactly when what it writes beyond the named bytes is there
already. -/
theorem pci_write_local_iff (s : PciSystem) (w : PciWrite) : WritesLocally s w ↔ Contained s w := by
  by_cases hreaches : w.Reaches s.bus
  · by_cases hbar : (s.bus.device w.fn).conf pciConfHdrType &&& 3 = 0 ∧
        pciConfBar0 ≤ w.offset.toNat ∧ w.offset.toNat ≤ pciConfBar5
    · rw [writesLocally_bar_iff hreaches hbar, contained_bar_iff hbar]
    · by_cases hrom : w.offset = pciConfRomAddress
      · exact writesLocally_rom_iff hreaches hbar hrom
      · by_cases hirq : w.offset = pciConfIrqLine
        · rw [writesLocally_irq_iff hreaches hirq, contained_irq_iff hreaches hbar hirq]
        · exact writesLocally_passed_iff ⟨hreaches, hbar, hrom, hirq⟩
  · exact writesLocally_unreached_iff hreaches

/-- A write to the command register of the IDE function, as it is registered, changes a byte of
function 2 of device 2, which is no function at all. -/
theorem ide_write_elsewhere : ∃ s t,
    pciAddFunction ideFunction 0x8086 0x7010 0x00 0x0101 0x80 0x00 0 pciSystemInitialState = .ok s ∧
    pciSystemWrite s ⟨ideFunction, 0x04, 0x05, 1⟩ = .ok t ∧
    s.conf (0, 18) 0x04 = 0xff ∧ t.conf (0, 18) 0x04 = 0x05 ∧ t.conf ideFunction 0x04 = 0 ∧
    ¬ WritesLocally s ⟨ideFunction, 0x04, 0x05, 1⟩ := by
  obtain ⟨s, hs, hbefore, hwrite⟩ := exists_of_ends
    (fun s : PciSystem => s.conf (0, 18) 0x04 = 0xff ∧
      ends (fun t : PciSystem => t.conf (0, 18) 0x04 = 0x05 ∧ t.conf ideFunction 0x04 = 0)
        (pciSystemWrite s ⟨ideFunction, 0x04, 0x05, 1⟩) = true)
    (show ends _ (pciAddFunction ideFunction 0x8086 0x7010 0x00 0x0101 0x80 0x00 0
      pciSystemInitialState) = true by decide +kernel)
  obtain ⟨t, ht, hafter, hown⟩ := exists_of_ends _ hwrite
  refine ⟨s, t, hs, ht, hbefore, hafter, hown, fun hlocal => ?_⟩
  have hkept := hlocal.2 t ht (0, 18) 0x04 fun hnames => absurd hnames.1 (by decide)
  rw [hbefore, hafter] at hkept
  exact absurd hkept (by decide)

end Svmm
