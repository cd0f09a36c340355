import Svmm.Properties.PciConfig.Effects

/-!
# Wide writes to the bridges

A guest may write a register of two or four bytes at once, or a byte at a time.  The loops of the
two bridges take byte `i` of the value from the bit `i` on, not from the bit `8 * i`, and the host
bridge takes memory types from the whole value and compares row boundaries with the first byte.
What a wide write and the byte writes leave is the same only where none of this makes a difference.
-/

namespace Svmm

open Bytes Loop TransitionRun

/-! ## Statements -/

/-- The registers that the two bridges ignore. -/
def Ignored (x : ℕ) : Prop := 0x10 ≤ x ∧ x < 0x34

instance (x : ℕ) : Decidable (Ignored x) := inferInstanceAs (Decidable (_ ∧ _))

/-- What a bridge puts into a register. -/
def bridgeRule (fn : PciFunction) : RegisterRule :=
  if fn = i440fxFunction then i440fxRegister else piix3Rule

namespace PciWrite

variable (w : PciWrite)

/-- The one-byte write of a byte of the value. -/
def byteWrite (i : ℕ) : PciWrite where
  fn := w.fn
  offset := w.offset + BitVec.ofNat 8 i
  value := (byteAt w.value i).setWidth 32
  length := 1

/-- The byte writes, of the least significant byte first. -/
def bytewise : List PciWrite := (List.range w.length).map w.byteWrite

/-- The byte that the loop of a bridge takes for a register. -/
def taken (x : ℕ) : BitVec 8 :=
  bridgeByte (if w.fn = i440fxFunction then w.value
    else piix3Value w.offset.toNat w.value (x - w.offset.toNat)) (x - w.offset.toNat)

/-- The byte of the value that stands for a register. -/
def own (x : ℕ) : BitVec 8 := byteAt w.value (x - w.offset.toNat)

end PciWrite

/-- The configuration bytes of a bridge, and what the bridges derive from them: memory types,
detected memory and PIRQ routes. -/
def SameBridge (fn : PciFunction) (s t : PciSystem) : Prop :=
  (∀ x, s.conf fn x = t.conf fn x) ∧ s.i440fx.memoryType = t.i440fx.memoryType ∧
    s.i440fx.dramDetect = t.i440fx.dramDetect ∧ s.piix3.irqRegister = t.piix3.irqRegister

/-- A wide write leaves what the byte writes leave. -/
def WideAsBytes (s : PciSystem) (w : PciWrite) : Prop :=
  ∃ t u, pciSystemWrite s w = .ok t ∧ run pciSystemWrite s w.bytewise = .ok u ∧ SameBridge w.fn t u

/-- The register of a memory area, and the first of its two bits there. -/
def attributeRegister (area : ℕ) : ℕ := if area = memAreaF0000 then 0x59 else 0x5a + area / 2

def attributeBit (area : ℕ) : ℕ := if area = memAreaF0000 then 4 else 4 * (area % 2)

/-- What the bridge does with the byte that it takes for a register is what it does with the byte of
the value that stands for it. -/
structure WideAgrees (s : PciSystem) (w : PciWrite) : Prop where
  register : ∀ x, w.Covers x →
    (if Ignored w.offset.toNat then s.conf w.fn x
      else bridgeRule w.fn x (s.conf w.fn x) (w.taken x)) =
      if Ignored x then s.conf w.fn x else bridgeRule w.fn x (s.conf w.fn x) (w.own x)
  interruptPin : w.Covers 0x3c → ¬ w.Covers 0x3d → s.conf w.fn 0x3d = 1
  memoryType : w.fn = i440fxFunction → ∀ area ≤ memAreaF0000, w.Covers (attributeRegister area) →
    s.conf w.fn (attributeRegister area) ≠ w.own (attributeRegister area) → ∀ rw : Fin 2,
      Word.has w.value (attributeBit area + rw) =
        Word.has (w.own (attributeRegister area)) (attributeBit area + rw)
  detect : w.fn = i440fxFunction → ∀ x, 0x60 ≤ x → x ≤ 0x67 → w.Covers x →
    (byteAt w.value 0 ≠ s.i440fx.drb (BitVec.ofNat 3 x) ↔
      w.own x ≠ s.i440fx.drb (BitVec.ofNat 3 x))

/-- The function is registered, and has no BAR: nobody sets one up for a bridge. -/
structure WithoutBars (fn : PciFunction) (s : PciSystem) : Prop where
  initialized : (s.bus.device fn).initialized = true
  bar : ∀ n, ((s.bus.device fn).bar n).type = .none

/-! ## One byte -/

variable {s t : PciSystem} {fn : PciFunction} {x a : ℕ} {byte : BitVec 8}

/-- A one-byte write to a bridge. -/
def bridgeByteWrite (fn : PciFunction) (byte : BitVec 8) (s : PciSystem) (x : ℕ) : PciSystem :=
  if Ignored x then s
  else if x = 0x3c then (s.storeConf fn 0x3c byte).storeConf fn 0x3d 1
  else if fn = i440fxFunction then i440fxWriteByte fn x (byte.setWidth 32) s 0
  else (piix3WriteByte fn x (s, byte.setWidth 32) 0).1

/-- Nothing but configuration bytes changes in the functions. -/
def SameDevices (s t : PciSystem) : Prop :=
  ∀ fn, (t.bus.device fn).initialized = (s.bus.device fn).initialized ∧
    (t.bus.device fn).bar = (s.bus.device fn).bar

lemma SameDevices.refl : SameDevices s s := fun _ => ⟨rfl, rfl⟩

lemma sameDevices_setConf (conf : ℕ → BitVec 8) : SameDevices s (s.setConf fn conf) := by
  intro fn'
  by_cases h : fn' = fn
  · subst h
    simp [PciSystem.setConf, PciBus.setDevice]
  · simp [PciSystem.setConf, PciBus.setDevice, h]

lemma sameDevices_storeConf : SameDevices s (s.storeConf fn x byte) := sameDevices_setConf _

lemma SameDevices.trans {u : PciSystem} (h : SameDevices s t) (h' : SameDevices t u) :
    SameDevices s u := fun fn => ⟨(h' fn).1.trans (h fn).1, (h' fn).2.trans (h fn).2⟩

lemma WithoutBars.congr (h : WithoutBars fn s) (hsame : SameDevices s t) : WithoutBars fn t where
  initialized := (hsame fn).1.trans h.initialized
  bar n := by rw [(hsame fn).2, h.bar]

lemma sameDevices_i440fxSmram : SameDevices s (i440fxSmram byte s) := by
  unfold i440fxSmram
  by_cases h : Word.has byte 6 = true
  · simp only [h, if_true]
    exact SameDevices.refl
  · rw [if_neg h]
    exact SameDevices.refl

lemma sameDevices_i440fxWriteByte (value : BitVec 32) (i : ℕ) :
    SameDevices s (i440fxWriteByte fn a value s i) := by
  unfold i440fxWriteByte
  simp only
  split_ifs
  · exact sameDevices_storeConf
  · exact SameDevices.refl
  · exact sameDevices_storeConf
  · exact sameDevices_i440fxSmram.trans sameDevices_storeConf
  · exact sameDevices_storeConf

lemma sameDevices_piix3WriteByte (value : BitVec 32) (i : ℕ) :
    SameDevices s (piix3WriteByte fn a (s, value) i).1 := by
  unfold piix3WriteByte piix3Route piix3UnregisterIrq piix3RegisterIrq
  simp only
  split_ifs
  · exact SameDevices.refl
  · exact sameDevices_storeConf
  · exact SameDevices.refl
  · exact sameDevices_storeConf
  · exact SameDevices.refl
  all_goals exact sameDevices_storeConf

lemma sameDevices_bridgeByteWrite : SameDevices s (bridgeByteWrite fn byte s x) := by
  unfold bridgeByteWrite
  split_ifs
  · exact SameDevices.refl
  · exact sameDevices_storeConf.trans sameDevices_storeConf
  · exact sameDevices_i440fxWriteByte _ _
  · exact sameDevices_piix3WriteByte _ _

lemma storeConf_storeConf (x y : ℕ) (first second : BitVec 8) :
    (s.storeConf fn x first).storeConf fn y second =
      s.setConf fn (Function.update (Function.update (s.bus.device fn).conf x first) y second) := by
  simp [PciSystem.storeConf, PciSystem.setConf, PciBus.setDevice]

/-- The dispatcher's part in a one-byte write to a bridge. -/
lemma pciSystemWrite_byte {v : PciWrite} (hfn : fn = i440fxFunction ∨ fn = piix3Function)
    (h : WithoutBars fn s) (hv : v.fn = fn) (hoffset : v.offset.toNat = x) (hx : x < 0xfe)
    (hvalue : v.value = byte.setWidth 32) (hlength : v.length = 1) :
    pciSystemWrite s v = .ok (bridgeByteWrite fn byte s x) := by
  subst hv
  have hne : ∀ b : BitVec 8, v.offset = b ↔ x = b.toNat := by
    intro b
    rw [← hoffset, BitVec.toNat_inj]
  have hreaches : v.Reaches s.bus := by
    refine ⟨h.initialized, ?_, by omega⟩
    intro heq
    have : x = 0xff := (hne _).mp heq
    omega
  have hinit : ¬ (s.bus.device v.fn).initialized = false := by simp [h.initialized]
  have hbound : ¬ (v.offset = 0xff ∨ 0xff ≤ v.offset.toNat + v.length) := by
    rintro (hoff | hle)
    · exact hreaches.2.1 hoff
    · omega
  unfold bridgeByteWrite
  by_cases hpassed : v.Passed s.bus
  · have hrom : x ≠ 0x30 := fun heq => hpassed.2.2.1 ((hne _).mpr heq)
    have hirq : x ≠ 0x3c := fun heq => hpassed.2.2.2 ((hne _).mpr heq)
    have hrange : List.range v.length = [0] := by rw [hlength]; rfl
    rw [pciSystemWrite, if_pos hpassed, pciConfWriteHandler]
    by_cases hhost : v.fn = i440fxFunction
    · rw [if_pos hhost, i440fxPciConfWriteHandler, hoffset]
      by_cases hignored : Ignored x
      · rw [if_pos (show 0x10 ≤ x ∧ x < 0x34 from hignored), if_pos hignored]
      · rw [if_neg (show ¬ (0x10 ≤ x ∧ x < 0x34) from hignored), if_neg hignored, if_neg hirq,
          if_pos hhost, hrange, hvalue]
        rfl
    · have hisa : v.fn = piix3Function := hfn.resolve_left hhost
      rw [if_neg hhost, if_pos hisa, piix3PciConfWriteHandler, hoffset]
      by_cases hignored : Ignored x
      · rw [if_pos (show 0x10 ≤ x ∧ x < 0x34 from hignored), if_pos hignored]
      · rw [if_neg (show ¬ (0x10 ≤ x ∧ x < 0x34) from hignored), if_neg hignored, if_neg hirq,
          if_neg hhost, hrange, hvalue]
        rfl
  · rw [pciSystemWrite, if_neg hpassed, pciWriteConfHandler]
    simp only [if_neg hinit, if_neg hbound]
    by_cases hbar : (s.bus.device v.fn).conf pciConfHdrType &&& 3 = 0 ∧
        pciConfBar0 ≤ v.offset.toNat ∧ v.offset.toNat ≤ pciConfBar5
    · have hignored : Ignored x := by
        have h1 : 0x10 ≤ v.offset.toNat := hbar.2.1
        have h2 : v.offset.toNat ≤ 0x24 := hbar.2.2
        exact ⟨by omega, by omega⟩
      rw [if_pos hbar, if_pos (h.bar _), if_pos hignored]
    · rw [if_neg hbar]
      by_cases hrom : v.offset = pciConfRomAddress
      · have hignored : Ignored x := by
          rw [(hne _).mp hrom]
          decide
        rw [if_pos hrom, if_pos hignored]
      · by_cases hirq : v.offset = pciConfIrqLine
        · have hx' : x = 0x3c := (hne _).mp hirq
          have hignored : ¬ Ignored x := by
            rw [hx']
            decide
          rw [if_neg hrom, if_pos hirq, if_neg hignored, if_pos hx', storeConf_storeConf, hvalue]
          have hbyte : byteAt (byte.setWidth 32) 0 = byte := by
            unfold byteAt
            simp
          rw [hbyte]
          rfl
        · exact absurd ⟨hreaches, hbar, hrom, hirq⟩ hpassed

section Bytewise

variable {w : PciWrite}

/-- The byte writes, as a loop. -/
lemma run_bytewise (hfn : w.fn = i440fxFunction ∨ w.fn = piix3Function) (h : WithoutBars w.fn s)
    (hbound : w.offset.toNat + w.length < 0xff) :
    run pciSystemWrite s w.bytewise = .ok ((List.range w.length).foldl
      (fun s i => bridgeByteWrite w.fn (byteAt w.value i) s (w.offset.toNat + i)) s) := by
  have hlist : ∀ is : List ℕ, (∀ i ∈ is, i < w.length) → ∀ s, WithoutBars w.fn s →
      run pciSystemWrite s (is.map w.byteWrite) = .ok (is.foldl
        (fun s i => bridgeByteWrite w.fn (byteAt w.value i) s (w.offset.toNat + i)) s) := by
    intro is
    induction is with
    | nil => intro _ s _; rfl
    | cons i is ih =>
        intro hin s hs
        have hi : i < w.length := hin i List.mem_cons_self
        have hoffset : (w.byteWrite i).offset.toNat = w.offset.toNat + i := by
          rw [PciWrite.byteWrite, BitVec.toNat_add, BitVec.toNat_ofNat]
          omega
        have hstep : pciSystemWrite s (w.byteWrite i) = .ok _ :=
          pciSystemWrite_byte hfn hs rfl hoffset (by omega) rfl rfl
        rw [List.map_cons, List.foldl_cons]
        exact run_cons_ok.mpr ⟨_, hstep, ih (fun j hj => hin j (List.mem_cons_of_mem i hj)) _
          (hs.congr sameDevices_bridgeByteWrite)⟩
  exact hlist _ (fun i hi => List.mem_range.mp hi) s h

end Bytewise

/-! ## Configuration bytes -/

lemma bridgeByte_setWidth : bridgeByte (byte.setWidth 32) 0 = byte := by
  unfold bridgeByte
  simp

/-- A turn of the byte writes. -/
lemma conf_bridgeByteWrite {y : ℕ} (h : ¬ (x = 0x3c ∧ y = 0x3d)) :
    (bridgeByteWrite fn byte s x).conf fn y =
      if y = x ∧ ¬ Ignored x then bridgeRule fn x (s.conf fn x) byte else s.conf fn y := by
  unfold bridgeByteWrite bridgeRule
  by_cases hignored : Ignored x
  · rw [if_pos hignored, if_neg fun hy => hy.2 hignored]
  · rw [if_neg hignored]
    simp only [hignored, not_false_iff, and_true]
    by_cases hirq : x = 0x3c
    · subst hirq
      have hy : ¬ y = 0x3d := fun hy => h ⟨rfl, hy⟩
      have hrule : (if fn = i440fxFunction then i440fxRegister else piix3Rule) 0x3c
          (s.conf fn 0x3c) byte = byte := by
        by_cases hhost : fn = i440fxFunction
        · rw [if_pos hhost]
          rfl
        · rw [if_neg hhost]
          rfl
      rw [if_pos rfl, hrule]
      simp [hy]
    · rw [if_neg hirq]
      by_cases hhost : fn = i440fxFunction
      · rw [if_pos hhost, if_pos hhost, writesRegister_i440fx _ 0 fn y, bridgeByte_setWidth]
        simp
      · rw [if_neg hhost, if_neg hhost, writesRegister_piix3 _ 0 fn y, bridgeByte_setWidth]
        simp

lemma conf_bridgeByteWrite_pin : (bridgeByteWrite fn byte s 0x3c).conf fn 0x3d = 1 := by
  unfold bridgeByteWrite
  rw [if_neg (by decide), if_pos rfl]
  simp

lemma bridgeRule_pin (old : BitVec 8) : bridgeRule fn 0x3d old byte = byte := by
  unfold bridgeRule
  by_cases hhost : fn = i440fxFunction
  · rw [if_pos hhost]
    rfl
  · rw [if_neg hhost]
    rfl

section Folds

variable {w : PciWrite} {y : ℕ}

/-- The byte writes of the first bytes of a value. -/
def bytesWritten (w : PciWrite) (s : PciSystem) (n : ℕ) : PciSystem :=
  (List.range n).foldl
    (fun s i => bridgeByteWrite w.fn (byteAt w.value i) s (w.offset.toNat + i)) s

/-- A register after the byte writes. -/
lemma conf_bytesWritten {n i : ℕ} (hi : i < n) :
    (bytesWritten w s n).conf w.fn (w.offset.toNat + i) =
      if Ignored (w.offset.toNat + i) then s.conf w.fn (w.offset.toNat + i)
      else bridgeRule w.fn (w.offset.toNat + i) (s.conf w.fn (w.offset.toNat + i))
        (byteAt w.value i) := by
  by_cases hpin : w.offset.toNat + i = 0x3d
  · have hignored : ¬ Ignored (w.offset.toNat + i) := by
      rw [hpin]
      decide
    have hrule : ∀ old, bridgeRule w.fn (w.offset.toNat + i) old (byteAt w.value i) =
        byteAt w.value i := by
      rw [hpin]
      exact bridgeRule_pin
    rw [if_neg hignored, hrule]
    refine foldl_range_last (fun s : PciSystem => s.conf w.fn (w.offset.toNat + i)) hi (fun s => ?_)
      fun j hj hlt s => ?_
    · rw [conf_bridgeByteWrite (by omega), if_pos ⟨rfl, hignored⟩, hrule]
    · rw [conf_bridgeByteWrite (by omega), if_neg (by omega)]
  · refine foldl_range_once (fun s : PciSystem => s.conf w.fn (w.offset.toNat + i))
      (fun old => if Ignored (w.offset.toNat + i) then old
        else bridgeRule w.fn (w.offset.toNat + i) old (byteAt w.value i)) hi (fun s => ?_)
      fun j hj hne s => ?_
    · rw [conf_bridgeByteWrite (by omega)]
      by_cases hignored : Ignored (w.offset.toNat + i)
      · rw [if_pos hignored, if_neg fun h => h.2 hignored]
      · rw [if_neg hignored, if_pos ⟨rfl, hignored⟩]
    · rw [conf_bridgeByteWrite (by omega), if_neg (by omega)]

/-- A byte that the byte writes do not name, the interrupt pin apart. -/
lemma conf_bytesWritten_other {n : ℕ}
    (hy : ∀ i < n, y ≠ w.offset.toNat + i ∧ ¬ (w.offset.toNat + i = 0x3c ∧ y = 0x3d)) :
    (bytesWritten w s n).conf w.fn y = s.conf w.fn y := by
  refine foldl_range_keep (fun s : PciSystem => s.conf w.fn y) fun i hi s => ?_
  rw [conf_bridgeByteWrite (hy i hi).2, if_neg fun h => (hy i hi).1 h.1]

/-- The interrupt pin, when the interrupt line is the last byte. -/
lemma conf_bytesWritten_pin {n i : ℕ} (hi : w.offset.toNat + i = 0x3c) (hn : n = i + 1) :
    (bytesWritten w s n).conf w.fn 0x3d = 1 := by
  subst hn
  refine foldl_range_last (fun s : PciSystem => s.conf w.fn 0x3d) (Nat.lt_succ_self i) (fun s => ?_)
    fun j hj hlt s => ?_
  · rw [hi]
    exact conf_bridgeByteWrite_pin
  · omega

/-- A turn of the wide write. -/
def wideTurn (w : PciWrite) (s : PciSystem) (i : ℕ) : PciSystem :=
  if w.fn = i440fxFunction then i440fxWriteByte w.fn w.offset.toNat w.value s i
  else (piix3WriteByte w.fn w.offset.toNat (s, piix3Value w.offset.toNat w.value i) i).1

/-- The first turns of the wide write. -/
def wideWritten (w : PciWrite) (s : PciSystem) (n : ℕ) : PciSystem :=
  (List.range n).foldl (wideTurn w) s

/-- The wide write. -/
lemma pciSystemWrite_wide (hfn : w.fn = i440fxFunction ∨ w.fn = piix3Function)
    (hpassed : w.Passed s.bus) : pciSystemWrite s w =
      .ok (if Ignored w.offset.toNat then s else wideWritten w s w.length) := by
  rw [pciSystemWrite, if_pos hpassed, pciConfWriteHandler]
  by_cases hhost : w.fn = i440fxFunction
  · have hturn : wideTurn w = i440fxWriteByte w.fn w.offset.toNat w.value := by
      funext s i
      rw [wideTurn, if_pos hhost]
    rw [if_pos hhost, i440fxPciConfWriteHandler, wideWritten, hturn]
    rfl
  · have hturn : wideTurn w = fun s i =>
        (piix3WriteByte w.fn w.offset.toNat (s, piix3Value w.offset.toNat w.value i) i).1 := by
      funext s i
      rw [wideTurn, if_neg hhost]
    rw [if_neg hhost, if_pos (hfn.resolve_left hhost), piix3PciConfWriteHandler, piix3_foldl,
      wideWritten, hturn]
    rfl

lemma taken_add (i : ℕ) : w.taken (w.offset.toNat + i) =
    bridgeByte (if w.fn = i440fxFunction then w.value
      else piix3Value w.offset.toNat w.value i) i := by
  rw [PciWrite.taken, Nat.add_sub_cancel_left]

lemma writesRegister_wideTurn (i : ℕ) :
    WritesRegister (bridgeRule w.fn) w.fn (w.offset.toNat + i) (w.taken (w.offset.toNat + i)) s
      (wideTurn w s i) := by
  rw [taken_add, bridgeRule, wideTurn]
  by_cases hhost : w.fn = i440fxFunction
  · rw [if_pos hhost, if_pos hhost, if_pos hhost]
    exact writesRegister_i440fx w.value i
  · rw [if_neg hhost, if_neg hhost, if_neg hhost]
    exact writesRegister_piix3 _ i

lemma conf_wideWritten (n : ℕ) : (wideWritten w s n).conf w.fn y =
    if w.offset.toNat ≤ y ∧ y < w.offset.toNat + n then
      bridgeRule w.fn y (s.conf w.fn y) (w.taken y) else s.conf w.fn y := by
  have hconf : (wideWritten w s n).conf w.fn y = _ :=
    conf_foldl (fun _ i => writesRegister_wideTurn i) n
  rw [hconf]
  by_cases hin : w.offset.toNat ≤ y ∧ y < w.offset.toNat + n
  · rw [if_pos ⟨rfl, hin⟩, if_pos hin, Nat.add_sub_cancel' hin.1]
  · rw [if_neg fun h => hin h.2, if_neg hin]

/-- The configuration bytes agree when every register does, and the interrupt pin. -/
lemma conf_agree_iff :
    (∀ y, (if Ignored w.offset.toNat then s else wideWritten w s w.length).conf w.fn y =
      (bytesWritten w s w.length).conf w.fn y) ↔
    (∀ x, w.Covers x →
      (if Ignored w.offset.toNat then s.conf w.fn x
        else bridgeRule w.fn x (s.conf w.fn x) (w.taken x)) =
      if Ignored x then s.conf w.fn x else bridgeRule w.fn x (s.conf w.fn x) (w.own x)) ∧
    (w.Covers 0x3c → ¬ w.Covers 0x3d → s.conf w.fn 0x3d = 1) := by
  have hwide : ∀ y, (if Ignored w.offset.toNat then s else wideWritten w s w.length).conf w.fn y =
      if w.Covers y then (if Ignored w.offset.toNat then s.conf w.fn y
        else bridgeRule w.fn y (s.conf w.fn y) (w.taken y)) else s.conf w.fn y := by
    intro y
    by_cases hignored : Ignored w.offset.toNat
    · rw [if_pos hignored, if_pos hignored, ite_self]
    · rw [if_neg hignored, if_neg hignored]
      exact conf_wideWritten w.length
  have hbytes : ∀ y, w.Covers y → (bytesWritten w s w.length).conf w.fn y =
      if Ignored y then s.conf w.fn y else bridgeRule w.fn y (s.conf w.fn y) (w.own y) := by
    rintro y ⟨hle, hlt⟩
    obtain ⟨i, rfl⟩ := Nat.exists_eq_add_of_le hle
    rw [PciWrite.own, Nat.add_sub_cancel_left]
    exact conf_bytesWritten (by omega)
  have hpin : w.Covers 0x3c → ¬ w.Covers 0x3d →
      (bytesWritten w s w.length).conf w.fn 0x3d = 1 := by
    rintro ⟨hle, hlt⟩ hnot
    refine conf_bytesWritten_pin (i := 0x3c - w.offset.toNat) (by omega) ?_
    have : ¬ 0x3d < w.offset.toNat + w.length := fun h => hnot ⟨by omega, h⟩
    omega
  constructor
  · intro h
    constructor
    · intro x hx
      have hbyte := h x
      rwa [hwide, if_pos hx, hbytes x hx] at hbyte
    · intro hx hnot
      have hbyte := h 0x3d
      rwa [hwide, if_neg hnot, hpin hx hnot] at hbyte
  · rintro ⟨hregister, hpin'⟩ y
    rw [hwide]
    by_cases hy : w.Covers y
    · rw [if_pos hy, hbytes y hy, hregister y hy]
    · rw [if_neg hy]
      by_cases hlast : y = 0x3d ∧ w.Covers 0x3c
      · obtain ⟨rfl, hline⟩ := hlast
        rw [hpin hline hy, hpin' hline hy]
      · refine (conf_bytesWritten_other fun i hi => ⟨?_, ?_⟩).symm
        · rintro rfl
          exact hy ⟨by omega, by omega⟩
        · rintro ⟨hline, hyy⟩
          exact hlast ⟨hyy, by omega, by omega⟩

end Folds

/-! ## PIRQ routes -/

/-- What new contents of a register do to the routes. -/
def routeIrqs (x : ℕ) (old new : BitVec 8) (f : Piix3) : Piix3 :=
  if h : (0x60 ≤ x ∧ x ≤ 0x63) ∧ new ≠ old ∧ new.toNat < 16 then
    { irqRegister := Function.update f.irqRegister ⟨new.toNat, h.2.2⟩
        (Word.set (f.irqRegister ⟨new.toNat, h.2.2⟩) (x % 4)) }
  else f

lemma routeIrqs_of_not {old new : BitVec 8} (h : ¬ (0x60 ≤ x ∧ x ≤ 0x63)) (f : Piix3) :
    routeIrqs x old new f = f := by
  unfold routeIrqs
  exact dif_neg fun h' => h h'.1

lemma routeIrqs_self {old : BitVec 8} (f : Piix3) : routeIrqs x old old f = f := by
  unfold routeIrqs
  exact dif_neg fun h => h.2.1 rfl

lemma piix3_i440fxSmram : (i440fxSmram byte s).piix3 = s.piix3 := by
  unfold i440fxSmram
  by_cases h : Word.has byte 6 = true
  · simp only [h, if_true]
    rfl
  · rw [if_neg h]
    rfl

lemma piix3_i440fxWriteByte (value : BitVec 32) (i : ℕ) :
    (i440fxWriteByte fn a value s i).piix3 = s.piix3 := by
  unfold i440fxWriteByte
  simp only
  split_ifs
  · rfl
  · rfl
  · rfl
  · exact piix3_i440fxSmram
  · rfl

/-- A turn of the ISA bridge's loop. -/
lemma piix3_piix3WriteByte (value : BitVec 32) (i : ℕ) :
    (piix3WriteByte fn a (s, value) i).1.piix3 = routeIrqs (a + i) (s.conf fn (a + i))
      (piix3Rule (a + i) (s.conf fn (a + i)) (bridgeByte value i)) s.piix3 := by
  unfold piix3WriteByte
  by_cases hroute : 0x60 ≤ a + i ∧ a + i ≤ 0x63
  · have hrule : piix3Rule (a + i) (s.conf fn (a + i)) (bridgeByte value i) = _ := if_pos hroute
    rw [hrule]
    simp only [if_pos hroute]
    unfold piix3Route
    cases hbit : Word.has (bridgeByte value i &&& 0x8f) 7 with
    | true =>
        have hlt : ¬ (bridgeByte value i &&& 0x8f).toNat < 16 := by
          rw [masked_lt_iff, hbit]
          exact Bool.noConfusion
        rw [if_pos rfl, if_pos rfl, piix3UnregisterIrq, dif_neg hlt, ite_self, routeIrqs_self]
    | false =>
        have hlt := (masked_lt_iff _).mpr hbit
        rw [if_neg Bool.false_ne_true, if_neg Bool.false_ne_true]
        by_cases hsame : bridgeByte value i &&& 0x8f = s.conf fn (a + i)
        · rw [if_pos hsame, hsame, routeIrqs_self]
        · rw [if_neg hsame, piix3RegisterIrq, dif_pos hlt]
          unfold routeIrqs
          rw [dif_pos ⟨hroute, hsame, hlt⟩]
  · simp only [if_neg hroute]
    exact (routeIrqs_of_not hroute _).symm

section Routes

variable {w : PciWrite}

lemma piix3_wideWritten (hisa : w.fn ≠ i440fxFunction) (n : ℕ) :
    (wideWritten w s n).piix3 = (List.range n).foldl (fun f i =>
      routeIrqs (w.offset.toNat + i) (s.conf w.fn (w.offset.toNat + i))
        (bridgeRule w.fn (w.offset.toNat + i) (s.conf w.fn (w.offset.toNat + i))
          (w.taken (w.offset.toNat + i))) f) s.piix3 := by
  induction n with
  | zero => rfl
  | succ n ih =>
      have hconf : (wideWritten w s n).conf w.fn (w.offset.toNat + n) = _ := conf_wideWritten n
      rw [if_neg (by omega)] at hconf
      rw [foldl_range_succ, ← ih, wideWritten, foldl_range_succ, ← wideWritten, wideTurn,
        if_neg hisa, piix3_piix3WriteByte, hconf, taken_add, bridgeRule, if_neg hisa, if_neg hisa]

lemma piix3_bytesWritten (hisa : w.fn ≠ i440fxFunction) (n : ℕ) :
    (bytesWritten w s n).piix3 = (List.range n).foldl (fun f i =>
      routeIrqs (w.offset.toNat + i) (s.conf w.fn (w.offset.toNat + i))
        (bridgeRule w.fn (w.offset.toNat + i) (s.conf w.fn (w.offset.toNat + i))
          (byteAt w.value i)) f) s.piix3 := by
  induction n with
  | zero => rfl
  | succ n ih =>
      rw [foldl_range_succ, ← ih, bytesWritten, foldl_range_succ, ← bytesWritten, bridgeByteWrite]
      by_cases hroute : 0x60 ≤ w.offset.toNat + n ∧ w.offset.toNat + n ≤ 0x63
      · have hignored : ¬ Ignored (w.offset.toNat + n) := fun h => by
          have := h.2
          omega
        have hconf : (bytesWritten w s n).conf w.fn (w.offset.toNat + n) =
            s.conf w.fn (w.offset.toNat + n) :=
          conf_bytesWritten_other fun i hi => ⟨by omega, by omega⟩
        rw [if_neg hignored, if_neg (by omega), if_neg hisa, piix3_piix3WriteByte,
          bridgeByte_setWidth, bridgeRule, if_neg hisa]
        simp only [Nat.add_zero, hconf]
      · rw [routeIrqs_of_not hroute]
        split_ifs
        · rfl
        · rfl
        · rw [piix3_piix3WriteByte]
          exact routeIrqs_of_not hroute _

/-- Where the registers agree, so do the routes. -/
lemma piix3_agree (hisa : w.fn ≠ i440fxFunction)
    (h : ∀ x, w.Covers x →
      (if Ignored w.offset.toNat then s.conf w.fn x
        else bridgeRule w.fn x (s.conf w.fn x) (w.taken x)) =
      if Ignored x then s.conf w.fn x else bridgeRule w.fn x (s.conf w.fn x) (w.own x)) :
    (if Ignored w.offset.toNat then s else wideWritten w s w.length).piix3 =
      (bytesWritten w s w.length).piix3 := by
  rw [piix3_bytesWritten hisa]
  have hturn : ∀ i < w.length, 0x60 ≤ w.offset.toNat + i →
      (if Ignored w.offset.toNat then s.conf w.fn (w.offset.toNat + i)
        else bridgeRule w.fn (w.offset.toNat + i) (s.conf w.fn (w.offset.toNat + i))
          (w.taken (w.offset.toNat + i))) =
      bridgeRule w.fn (w.offset.toNat + i) (s.conf w.fn (w.offset.toNat + i))
        (byteAt w.value i) := by
    intro i hi hx
    have hignored : ¬ Ignored (w.offset.toNat + i) := fun h => by
      have := h.2
      omega
    rw [h _ ⟨by omega, by omega⟩, if_neg hignored, PciWrite.own, Nat.add_sub_cancel_left]
  by_cases hignored : Ignored w.offset.toNat
  · rw [if_pos hignored]
    refine (foldl_range_keep id fun i hi f => ?_).symm
    by_cases hx : 0x60 ≤ w.offset.toNat + i
    · have hheld := hturn i hi hx
      rw [if_pos hignored] at hheld
      rw [← hheld]
      exact routeIrqs_self f
    · exact routeIrqs_of_not (fun h => hx h.1) f
  · rw [if_neg hignored, piix3_wideWritten hisa]
    refine foldl_range_congr fun i hi => ?_
    by_cases hx : 0x60 ≤ w.offset.toNat + i
    · have hsame := hturn i hi hx
      rw [if_neg hignored] at hsame
      rw [hsame]
    · rw [routeIrqs_of_not fun h => hx h.1, routeIrqs_of_not fun h => hx h.1]

end Routes

/-! ## Memory types and detected memory -/

/-- What a byte that is written to a register does to what the host bridge derives. -/
def hostTurn (x : ℕ) (old byte : BitVec 8) (value : BitVec 32) (compared : BitVec 8) (f : I440fx) :
    I440fx :=
  if 0x59 ≤ x ∧ x ≤ 0x5f then (if old ≠ byte then f.setAttributes x value else f)
  else if 0x60 ≤ x ∧ x ≤ 0x67 then f.detect x compared
  else f

section Host

variable {old compared : BitVec 8} {value : BitVec 32} {f : I440fx} {w : PciWrite}

lemma hostTurn_of_not (h : ¬ (0x59 ≤ x ∧ x ≤ 0x67)) : hostTurn x old byte value compared f = f := by
  rw [hostTurn, if_neg (by omega), if_neg (by omega)]

lemma attributeRegister_mem {area : ℕ} (h : area ≤ memAreaF0000) :
    0x59 ≤ attributeRegister area ∧ attributeRegister area ≤ 0x5f := by
  unfold attributeRegister memAreaF0000 at *
  split_ifs
  · omega
  · omega

lemma memoryType_setAttributes (hx : 0x59 ≤ x ∧ x ≤ 0x5f) {area : ℕ} (h : area ≤ memAreaF0000) :
    (f.setAttributes x value).memoryType area =
      if x = attributeRegister area then fun rw : Fin 2 => Word.has value (attributeBit area + rw)
      else f.memoryType area := by
  unfold I440fx.setAttributes I440fx.setMemoryType attributeRegister attributeBit
  by_cases hbios : x = 0x59
  · rw [if_pos hbios]
    by_cases harea : area = memAreaF0000
    · subst harea
      simp [hbios]
    · rw [if_neg harea, if_neg harea, if_neg (by omega)]
      exact Function.update_of_ne harea _ _
  · rw [if_neg hbios]
    have hbound : area ≤ 12 := h
    by_cases harea : area = memAreaF0000
    · have hfirst : area ≠ 2 * (x - 0x5a) + 1 := by
        rw [harea, memAreaF0000]
        omega
      have hsecond : area ≠ 2 * (x - 0x5a) := by
        rw [harea, memAreaF0000]
        omega
      rw [if_pos harea, if_pos harea, if_neg hbios]
      exact (Function.update_of_ne hfirst _ _).trans (Function.update_of_ne hsecond _ _)
    · rw [if_neg harea, if_neg harea]
      by_cases hin : x = 0x5a + area / 2
      · rw [if_pos hin]
        rcases Nat.mod_two_eq_zero_or_one area with hpar | hpar
        · have hodd : area ≠ 2 * (x - 0x5a) + 1 := by omega
          have heven : area = 2 * (x - 0x5a) := by omega
          rw [hpar]
          refine (Function.update_of_ne hodd _ _).trans ?_
          exact (congrArg _ heven).trans (Function.update_self _ _ _)
        · have hodd : area = 2 * (x - 0x5a) + 1 := by omega
          rw [hpar]
          exact (congrArg _ hodd).trans (Function.update_self _ _ _)
      · rw [if_neg hin]
        have hodd : area ≠ 2 * (x - 0x5a) + 1 := by omega
        have heven : area ≠ 2 * (x - 0x5a) := by omega
        exact (Function.update_of_ne hodd _ _).trans (Function.update_of_ne heven _ _)

/-- A turn sets the memory types of the areas of its register. -/
lemma memoryType_hostTurn {area : ℕ} (h : area ≤ memAreaF0000) :
    (hostTurn x old byte value compared f).memoryType area =
      if x = attributeRegister area ∧ old ≠ byte then
        fun rw : Fin 2 => Word.has value (attributeBit area + rw)
      else f.memoryType area := by
  have hmem := attributeRegister_mem h
  unfold hostTurn
  by_cases hx : 0x59 ≤ x ∧ x ≤ 0x5f
  · rw [if_pos hx]
    by_cases hne : old ≠ byte
    · rw [if_pos hne, memoryType_setAttributes hx h]
      simp only [and_iff_left hne]
    · rw [if_neg hne, if_neg fun h => hne h.2]
  · have hout : ¬ (x = attributeRegister area ∧ old ≠ byte) := fun h => hx (by omega)
    rw [if_neg hx, if_neg hout]
    by_cases hrow : 0x60 ≤ x ∧ x ≤ 0x67
    · rw [if_pos hrow]
      rfl
    · rw [if_neg hrow]

lemma memoryType_hostTurn_of_lt {area : ℕ} (h : memAreaF0000 < area) :
    (hostTurn x old byte value compared f).memoryType area = f.memoryType area := by
  have hbound : 12 < area := h
  unfold hostTurn I440fx.setAttributes I440fx.setMemoryType
  split_ifs with hattribute hne hbios
  · exact Function.update_of_ne (by rw [memAreaF0000]; omega) _ _
  · refine (Function.update_of_ne ?_ _ _).trans (Function.update_of_ne ?_ _ _)
    · omega
    · omega
  · rfl
  · rfl
  · rfl

lemma drb_hostTurn : (hostTurn x old byte value compared f).drb = f.drb := by
  unfold hostTurn I440fx.setAttributes
  split_ifs
  · rfl
  · rfl
  · rfl
  · rfl
  · rfl

/-- A turn sets the bit of its row. -/
lemma detect_hostTurn {j : ℕ} (hj : j < 8) :
    Word.has (hostTurn x old byte value compared f).dramDetect j =
      if x = 0x60 + j then decide (compared ≠ f.drb (BitVec.ofNat 3 x))
      else Word.has f.dramDetect j := by
  unfold hostTurn
  by_cases hx : 0x59 ≤ x ∧ x ≤ 0x5f
  · have hout : ¬ x = 0x60 + j := by omega
    rw [if_pos hx, if_neg hout]
    unfold I440fx.setAttributes
    split_ifs
    · rfl
    · rfl
    · rfl
  · rw [if_neg hx]
    by_cases hrow : 0x60 ≤ x ∧ x ≤ 0x67
    · rw [if_pos hrow, I440fx.detect]
      by_cases hne : compared ≠ f.drb (BitVec.ofNat 3 x)
      · rw [if_pos hne, Word.has_set, decide_eq_true hne]
        by_cases hin : x = 0x60 + j
        · simp [hin, hj]
          omega
        · have hmod : ¬ x % 8 = j := by omega
          simp [hin, hmod]
      · rw [if_neg hne, Word.has_clear, decide_eq_false hne]
        by_cases hin : x = 0x60 + j
        · simp [hin]
          omega
        · have hmod : ¬ x % 8 = j := by omega
          simp [hin, hmod]
    · rw [if_neg hrow, if_neg (by omega)]

lemma i440fx_i440fxSmram : (i440fxSmram byte s).i440fx = s.i440fx := by
  unfold i440fxSmram
  by_cases h : Word.has byte 6 = true
  · simp only [h, if_true]
    rfl
  · rw [if_neg h]
    rfl

/-- A turn of the host bridge's loop.  What it compares a row boundary with is the byte at the
address of the write, which the first turn stores. -/
lemma i440fx_i440fxWriteByte (i : ℕ) :
    (i440fxWriteByte fn a value s i).i440fx =
      hostTurn (a + i) (s.conf fn (a + i)) (bridgeByte value i) value
        (if i = 0 then i440fxRegister a (s.conf fn a) (bridgeByte value 0) else s.conf fn a)
        s.i440fx := by
  have hcompared : (s.storeConf fn (a + i) (i440fxRegister (a + i) (s.conf fn (a + i))
      (bridgeByte value i))).conf fn a =
      if i = 0 then i440fxRegister a (s.conf fn a) (bridgeByte value 0) else s.conf fn a := by
    rw [PciSystem.conf_storeConf]
    by_cases hi : i = 0
    · subst hi
      rw [if_pos ⟨rfl, rfl⟩, if_pos rfl, Nat.add_zero]
    · rw [if_neg hi, if_neg (by omega)]
  unfold i440fxWriteByte hostTurn
  simp only [hcompared]
  generalize (if i = 0 then i440fxRegister a (s.conf fn a) (bridgeByte value 0)
    else s.conf fn a) = first
  split_ifs
  · rfl
  · rfl
  · rfl
  · exact i440fx_i440fxSmram
  · rfl

lemma i440fx_piix3WriteByte (i : ℕ) : (piix3WriteByte fn a (s, value) i).1.i440fx = s.i440fx := by
  unfold piix3WriteByte piix3Route piix3UnregisterIrq piix3RegisterIrq
  simp only
  split_ifs
  · rfl
  · rfl
  · rfl
  · rfl
  · rfl
  all_goals rfl

lemma i440fx_wideWritten (hhost : w.fn = i440fxFunction) (n : ℕ) :
    (wideWritten w s n).i440fx = (List.range n).foldl (fun f i =>
      hostTurn (w.offset.toNat + i) (s.conf w.fn (w.offset.toNat + i))
        (w.taken (w.offset.toNat + i)) w.value
        (i440fxRegister w.offset.toNat (s.conf w.fn w.offset.toNat) (bridgeByte w.value 0)) f)
      s.i440fx := by
  induction n with
  | zero => rfl
  | succ n ih =>
      have hconf : (wideWritten w s n).conf w.fn (w.offset.toNat + n) = _ := conf_wideWritten n
      have hfirst : (wideWritten w s n).conf w.fn w.offset.toNat = _ := conf_wideWritten n
      rw [if_neg (by omega)] at hconf
      have hcompared : (if n = 0 then i440fxRegister w.offset.toNat
            ((wideWritten w s n).conf w.fn w.offset.toNat) (bridgeByte w.value 0)
          else (wideWritten w s n).conf w.fn w.offset.toNat) =
          i440fxRegister w.offset.toNat (s.conf w.fn w.offset.toNat) (bridgeByte w.value 0) := by
        by_cases hn : n = 0
        · subst hn
          rfl
        · have htaken := taken_add (w := w) 0
          rw [if_pos hhost, Nat.add_zero] at htaken
          rw [if_neg hn, hfirst, if_pos ⟨Nat.le_refl _, by omega⟩, htaken, bridgeRule, if_pos hhost]
      rw [foldl_range_succ, ← ih, wideWritten, foldl_range_succ, ← wideWritten, wideTurn,
        if_pos hhost, i440fx_i440fxWriteByte, hconf, hcompared, taken_add, if_pos hhost]

lemma i440fx_bytesWritten (hhost : w.fn = i440fxFunction) (n : ℕ) :
    (bytesWritten w s n).i440fx = (List.range n).foldl (fun f i =>
      hostTurn (w.offset.toNat + i) (s.conf w.fn (w.offset.toNat + i)) (byteAt w.value i)
        ((byteAt w.value i).setWidth 32) (byteAt w.value i) f) s.i440fx := by
  induction n with
  | zero => rfl
  | succ n ih =>
      rw [foldl_range_succ, ← ih, bytesWritten, foldl_range_succ, ← bytesWritten, bridgeByteWrite]
      by_cases hturn : 0x59 ≤ w.offset.toNat + n ∧ w.offset.toNat + n ≤ 0x67
      · have hignored : ¬ Ignored (w.offset.toNat + n) := fun h => by
          have := h.2
          omega
        have hconf : (bytesWritten w s n).conf w.fn (w.offset.toNat + n) =
            s.conf w.fn (w.offset.toNat + n) :=
          conf_bytesWritten_other fun i hi => ⟨by omega, by omega⟩
        have hregister : ∀ old, i440fxRegister (w.offset.toNat + n) old (byteAt w.value n) =
            byteAt w.value n := by
          intro old
          unfold i440fxRegister
          repeat rw [if_neg (by omega)]
        rw [if_neg hignored, if_neg (by omega), if_pos hhost, i440fx_i440fxWriteByte,
          bridgeByte_setWidth, if_pos rfl, hregister]
        simp only [Nat.add_zero, hconf]
      · rw [hostTurn_of_not hturn]
        split_ifs
        · rfl
        · rfl
        · rw [i440fx_i440fxWriteByte]
          exact hostTurn_of_not hturn

section Loops

variable {conf : ℕ → BitVec 8} {bytes compares : ℕ → BitVec 8} {values : ℕ → BitVec 32}

/-- The memory types of an area after a loop. -/
lemma memoryType_foldl {area : ℕ} (h : area ≤ memAreaF0000) (n : ℕ) :
    ((List.range n).foldl (fun f i =>
      hostTurn (a + i) (conf (a + i)) (bytes i) (values i) (compares i) f) f).memoryType area =
      if (a ≤ attributeRegister area ∧ attributeRegister area < a + n) ∧
          conf (attributeRegister area) ≠ bytes (attributeRegister area - a) then
        fun rw : Fin 2 => Word.has (values (attributeRegister area - a)) (attributeBit area + rw)
      else f.memoryType area := by
  by_cases hin : a ≤ attributeRegister area ∧ attributeRegister area < a + n
  · obtain ⟨i, hi⟩ := Nat.exists_eq_add_of_le hin.1
    rw [hi, Nat.add_sub_cancel_left]
    refine (foldl_range_once (i := i) (fun f : I440fx => f.memoryType area)
      (fun old => if conf (a + i) ≠ bytes i then
        fun rw : Fin 2 => Word.has (values i) (attributeBit area + rw) else old)
      (by omega) (fun f => ?_) fun j hj hne f => ?_).trans ?_
    · rw [memoryType_hostTurn h]
      simp only [hi, true_and]
    · rw [memoryType_hostTurn h, if_neg fun h => hne (by omega)]
    · rw [hi] at hin
      simp only [hin, and_self, true_and]
  · rw [if_neg fun h => hin h.1]
    refine foldl_range_keep (fun f : I440fx => f.memoryType area) fun i hi f => ?_
    rw [memoryType_hostTurn h, if_neg fun h => hin (by omega)]

lemma memoryType_foldl_of_lt {area : ℕ} (h : memAreaF0000 < area) (n : ℕ) :
    ((List.range n).foldl (fun f i =>
      hostTurn (a + i) (conf (a + i)) (bytes i) (values i) (compares i) f) f).memoryType area =
      f.memoryType area :=
  foldl_range_keep (fun f : I440fx => f.memoryType area) fun _ _ _ => memoryType_hostTurn_of_lt h

/-- The bit of a row after a loop. -/
lemma detect_foldl {j : ℕ} (hj : j < 8) (n : ℕ) :
    Word.has ((List.range n).foldl (fun f i =>
      hostTurn (a + i) (conf (a + i)) (bytes i) (values i) (compares i) f) f).dramDetect j =
      if a ≤ 0x60 + j ∧ 0x60 + j < a + n then
        decide (compares (0x60 + j - a) ≠ f.drb (BitVec.ofNat 3 (0x60 + j)))
      else Word.has f.dramDetect j := by
  by_cases hin : a ≤ 0x60 + j ∧ 0x60 + j < a + n
  · rw [if_pos hin]
    obtain ⟨i, hi⟩ := Nat.exists_eq_add_of_le hin.1
    rw [hi, Nat.add_sub_cancel_left]
    -- the boundaries, which no turn changes, are kept beside the bit
    have hpair := foldl_range_once (s := f) (i := i) (n := n) (f := fun f i =>
        hostTurn (a + i) (conf (a + i)) (bytes i) (values i) (compares i) f)
      (fun f : I440fx => (Word.has f.dramDetect j, f.drb))
      (fun p => (decide (compares i ≠ p.2 (BitVec.ofNat 3 (a + i))), p.2)) (by omega)
      (fun f => ?_) fun k hk hne f => ?_
    · exact congrArg Prod.fst hpair
    · rw [detect_hostTurn hj, if_pos hi.symm, drb_hostTurn]
    · rw [detect_hostTurn hj, if_neg (by omega), drb_hostTurn]
  · rw [if_neg hin]
    refine foldl_range_keep (fun f : I440fx => Word.has f.dramDetect j) fun i hi f => ?_
    rw [detect_hostTurn hj, if_neg (by omega)]

end Loops

/-- Where the registers agree, the memory types do when the bits of the whole value are those of the
byte. -/
lemma memoryType_agree_iff (hhost : w.fn = i440fxFunction)
    (hregister : ∀ x, w.Covers x → 0x59 ≤ x → x ≤ 0x67 → w.taken x = w.own x) :
    (wideWritten w s w.length).i440fx.memoryType = (bytesWritten w s w.length).i440fx.memoryType ↔
      ∀ area ≤ memAreaF0000, w.Covers (attributeRegister area) →
        s.conf w.fn (attributeRegister area) ≠ w.own (attributeRegister area) → ∀ rw : Fin 2,
          Word.has w.value (attributeBit area + rw) =
            Word.has (w.own (attributeRegister area)) (attributeBit area + rw) := by
  have hwide : ∀ area ≤ memAreaF0000, (wideWritten w s w.length).i440fx.memoryType area =
      if w.Covers (attributeRegister area) ∧
          s.conf w.fn (attributeRegister area) ≠ w.own (attributeRegister area) then
        fun rw : Fin 2 => Word.has w.value (attributeBit area + rw)
      else s.i440fx.memoryType area := by
    intro area harea
    rw [i440fx_wideWritten hhost]
    refine (memoryType_foldl harea w.length).trans ?_
    have hmem := attributeRegister_mem harea
    by_cases hcovers : w.Covers (attributeRegister area)
    · rw [Nat.add_sub_cancel' hcovers.1, hregister _ hcovers hmem.1 (by omega)]
      rfl
    · rw [if_neg fun h => hcovers h.1, if_neg fun h => hcovers h.1]
  have hbytes : ∀ area ≤ memAreaF0000, (bytesWritten w s w.length).i440fx.memoryType area =
      if w.Covers (attributeRegister area) ∧
          s.conf w.fn (attributeRegister area) ≠ w.own (attributeRegister area) then
        fun rw : Fin 2 => Word.has ((w.own (attributeRegister area)).setWidth 32)
          (attributeBit area + rw)
      else s.i440fx.memoryType area := by
    intro area harea
    rw [i440fx_bytesWritten hhost]
    exact memoryType_foldl harea w.length
  have hbit : ∀ area, ∀ rw : Fin 2, ∀ b : BitVec 8,
      Word.has (b.setWidth 32) (attributeBit area + rw) = Word.has b (attributeBit area + rw) := by
    intro area rw b
    have hlt : attributeBit area + rw < 32 := by
      have := rw.isLt
      unfold attributeBit
      split_ifs
      · omega
      · omega
    rw [Word.has_setWidth, decide_eq_true hlt, Bool.true_and]
  constructor
  · intro h area harea hcovers hne rw
    have hsame := congrFun (congrFun h area) rw
    rwa [hwide area harea, hbytes area harea, if_pos ⟨hcovers, hne⟩, if_pos ⟨hcovers, hne⟩,
      hbit] at hsame
  · intro h
    funext area rw
    by_cases harea : area ≤ memAreaF0000
    · rw [hwide area harea, hbytes area harea]
      by_cases hset : w.Covers (attributeRegister area) ∧
          s.conf w.fn (attributeRegister area) ≠ w.own (attributeRegister area)
      · rw [if_pos hset, if_pos hset, hbit]
        exact h area harea hset.1 hset.2 rw
      · rw [if_neg hset, if_neg hset]
    · have hlt : memAreaF0000 < area := Nat.lt_of_not_le harea
      rw [i440fx_wideWritten hhost, i440fx_bytesWritten hhost]
      exact congrFun ((memoryType_foldl_of_lt hlt _).trans (memoryType_foldl_of_lt hlt _).symm) rw

/-- The rows that are detected agree when each comparison does. -/
lemma detect_agree_iff (hhost : w.fn = i440fxFunction) (hlength : w.length ≤ 4) :
    (wideWritten w s w.length).i440fx.dramDetect = (bytesWritten w s w.length).i440fx.dramDetect ↔
      ∀ x, 0x60 ≤ x → x ≤ 0x67 → w.Covers x →
        (byteAt w.value 0 ≠ s.i440fx.drb (BitVec.ofNat 3 x) ↔
          w.own x ≠ s.i440fx.drb (BitVec.ofNat 3 x)) := by
  have hfirst : 0x5d ≤ w.offset.toNat → w.offset.toNat ≤ 0x67 → ∀ old,
      i440fxRegister w.offset.toNat old (bridgeByte w.value 0) = byteAt w.value 0 := by
    intro hle hge old
    unfold i440fxRegister
    repeat rw [if_neg (by omega)]
    rfl
  have hwide : ∀ j < 8, Word.has (wideWritten w s w.length).i440fx.dramDetect j =
      if w.Covers (0x60 + j) then
        decide (byteAt w.value 0 ≠ s.i440fx.drb (BitVec.ofNat 3 (0x60 + j)))
      else Word.has s.i440fx.dramDetect j := by
    intro j hj
    rw [i440fx_wideWritten hhost]
    refine (detect_foldl hj w.length).trans ?_
    by_cases hcovers : w.Covers (0x60 + j)
    · have h1 := hcovers.1
      have h2 := hcovers.2
      rw [hfirst (by omega) (by omega)]
      rfl
    · exact (if_neg hcovers).trans (if_neg hcovers).symm
  have hbytes : ∀ j < 8, Word.has (bytesWritten w s w.length).i440fx.dramDetect j =
      if w.Covers (0x60 + j) then
        decide (w.own (0x60 + j) ≠ s.i440fx.drb (BitVec.ofNat 3 (0x60 + j)))
      else Word.has s.i440fx.dramDetect j := by
    intro j hj
    rw [i440fx_bytesWritten hhost]
    exact detect_foldl hj w.length
  constructor
  · intro h x hle hge hcovers
    obtain ⟨j, rfl⟩ := Nat.exists_eq_add_of_le hle
    have hsame := congrArg (fun b : BitVec 8 => Word.has b j) h
    simp only [hwide j (by omega), hbytes j (by omega), if_pos hcovers] at hsame
    exact decide_eq_decide.mp hsame
  · intro h
    refine Word.ext_has fun j hj => ?_
    rw [hwide j hj, hbytes j hj]
    by_cases hcovers : w.Covers (0x60 + j)
    · rw [if_pos hcovers, if_pos hcovers]
      exact decide_eq_decide.mpr (h (0x60 + j) (by omega) (by omega) hcovers)
    · rw [if_neg hcovers, if_neg hcovers]

/-- A write from an ignored register on does not come to what the host bridge derives. -/
lemma i440fx_ignored (hhost : w.fn = i440fxFunction) (hlength : w.length ≤ 4)
    (hignored : Ignored w.offset.toNat) : (bytesWritten w s w.length).i440fx = s.i440fx := by
  rw [i440fx_bytesWritten hhost]
  refine foldl_range_keep id fun i hi f => hostTurn_of_not ?_
  have := hignored.2
  omega

lemma piix3_host (hhost : w.fn = i440fxFunction) (n : ℕ) :
    (wideWritten w s n).piix3 = s.piix3 ∧ (bytesWritten w s n).piix3 = s.piix3 := by
  constructor
  · refine foldl_range_keep PciSystem.piix3 fun i _ s => ?_
    rw [wideTurn, if_pos hhost, piix3_i440fxWriteByte]
  · refine foldl_range_keep PciSystem.piix3 fun i _ s => ?_
    unfold bridgeByteWrite
    split_ifs
    · rfl
    · rfl
    · exact piix3_i440fxWriteByte _ _

lemma i440fx_isa (hisa : w.fn ≠ i440fxFunction) (n : ℕ) :
    (wideWritten w s n).i440fx = s.i440fx ∧ (bytesWritten w s n).i440fx = s.i440fx := by
  constructor
  · refine foldl_range_keep PciSystem.i440fx fun i _ s => ?_
    rw [wideTurn, if_neg hisa, i440fx_piix3WriteByte]
  · refine foldl_range_keep PciSystem.i440fx fun i _ s => ?_
    unfold bridgeByteWrite
    split_ifs
    · rfl
    · rfl
    · exact i440fx_piix3WriteByte _

end Host

/-! ## Every wide write -/

section

variable {w : PciWrite}

/-- What the two bridges derive agrees, where the registers do. -/
lemma derived_agree_iff (hlength : w.length ≤ 4)
    (hregister : ∀ x, w.Covers x →
      (if Ignored w.offset.toNat then s.conf w.fn x
        else bridgeRule w.fn x (s.conf w.fn x) (w.taken x)) =
      if Ignored x then s.conf w.fn x else bridgeRule w.fn x (s.conf w.fn x) (w.own x)) :
    ((if Ignored w.offset.toNat then s else wideWritten w s w.length).i440fx.memoryType =
        (bytesWritten w s w.length).i440fx.memoryType ∧
      (if Ignored w.offset.toNat then s else wideWritten w s w.length).i440fx.dramDetect =
        (bytesWritten w s w.length).i440fx.dramDetect ∧
      (if Ignored w.offset.toNat then s else wideWritten w s w.length).piix3.irqRegister =
        (bytesWritten w s w.length).piix3.irqRegister) ↔
    (w.fn = i440fxFunction → ∀ area ≤ memAreaF0000, w.Covers (attributeRegister area) →
      s.conf w.fn (attributeRegister area) ≠ w.own (attributeRegister area) → ∀ rw : Fin 2,
        Word.has w.value (attributeBit area + rw) =
          Word.has (w.own (attributeRegister area)) (attributeBit area + rw)) ∧
    (w.fn = i440fxFunction → ∀ x, 0x60 ≤ x → x ≤ 0x67 → w.Covers x →
      (byteAt w.value 0 ≠ s.i440fx.drb (BitVec.ofNat 3 x) ↔
        w.own x ≠ s.i440fx.drb (BitVec.ofNat 3 x))) := by
  by_cases hhost : w.fn = i440fxFunction
  · simp only [hhost, true_imp_iff]
    rw [← hhost]
    have hroutes :
        (if Ignored w.offset.toNat then s else wideWritten w s w.length).piix3.irqRegister =
        (bytesWritten w s w.length).piix3.irqRegister := by
      rw [(piix3_host hhost w.length).2]
      split_ifs
      · rfl
      · rw [(piix3_host hhost w.length).1]
    rw [and_iff_left hroutes]
    by_cases hignored : Ignored w.offset.toNat
    · rw [if_pos hignored, i440fx_ignored hhost hlength hignored]
      have hbound := hignored.2
      refine iff_of_true ⟨rfl, rfl⟩ ⟨fun area harea hcovers => ?_, fun x hle _ hcovers => ?_⟩
      · have h1 := (attributeRegister_mem harea).1
        have h2 := hcovers.2
        omega
      · have h2 := hcovers.2
        omega
    · rw [if_neg hignored, detect_agree_iff hhost hlength, memoryType_agree_iff hhost]
      intro x hcovers hle hge
      have hsame := hregister x hcovers
      have hnot : ¬ Ignored x := fun h => by
        have := h.2
        omega
      have hrule : ∀ old byte, bridgeRule w.fn x old byte = byte := by
        intro old byte
        unfold bridgeRule i440fxRegister
        rw [if_pos hhost]
        repeat rw [if_neg (by omega)]
      rwa [if_neg hignored, if_neg hnot, hrule, hrule] at hsame
  · have hhost' : ∀ p : Prop, (w.fn = i440fxFunction → p) ↔ True :=
      fun p => iff_true_intro fun h => absurd h hhost
    rw [hhost', hhost', piix3_agree hhost hregister, (i440fx_isa hhost w.length).2]
    refine iff_of_true ⟨?_, ?_, rfl⟩ ⟨trivial, trivial⟩
    · split_ifs
      · rfl
      · rw [(i440fx_isa hhost w.length).1]
    · split_ifs
      · rfl
      · rw [(i440fx_isa hhost w.length).1]

end

/-- A wide write to a bridge leaves what the byte writes leave exactly when what the bridge takes
for each register does there what its own byte does. -/
theorem wide_write_as_bytes_iff {s : PciSystem} {w : PciWrite}
    (hfn : w.fn = i440fxFunction ∨ w.fn = piix3Function) (hbars : WithoutBars w.fn s)
    (hpassed : w.Passed s.bus) (hlength : w.length = 2 ∨ w.length = 4) :
    WideAsBytes s w ↔ WideAgrees s w := by
  have hwide := pciSystemWrite_wide hfn hpassed
  have hbytes : run pciSystemWrite s w.bytewise = .ok (bytesWritten w s w.length) :=
    run_bytewise hfn hbars hpassed.1.2.2
  have hsame : WideAsBytes s w ↔ SameBridge w.fn
      (if Ignored w.offset.toNat then s else wideWritten w s w.length)
      (bytesWritten w s w.length) := by
    constructor
    · rintro ⟨t, u, ht, hu, h⟩
      obtain rfl : _ = t := Except.ok.inj (hwide.symm.trans ht)
      obtain rfl : _ = u := Except.ok.inj (hbytes.symm.trans hu)
      exact h
    · intro h
      exact ⟨_, _, hwide, hbytes, h⟩
  have hle : w.length ≤ 4 := by omega
  rw [hsame, SameBridge, conf_agree_iff]
  constructor
  · rintro ⟨⟨hregister, hpin⟩, hderived⟩
    obtain ⟨htype, hdetect⟩ := (derived_agree_iff hle hregister).mp hderived
    exact ⟨hregister, hpin, htype, hdetect⟩
  · intro h
    exact ⟨⟨h.register, h.interruptPin⟩,
      (derived_agree_iff hle h.register).mpr ⟨h.memoryType, h.detect⟩⟩

/-- The system with one function that has registered its handlers. -/
def pciRegistered (fn : PciFunction) : PciSystem :=
  { pciSystemInitialState with bus := pciRegisterConfigHandler fn pciInitialState }

/-- Two attribute registers of the host bridge, which hold ones: the second byte is the first one
shifted, and their areas get the same types. -/
theorem wide_write_as_bytes_attributes :
    WideAsBytes (pciRegistered i440fxFunction) ⟨i440fxFunction, 0x5a, 0xbb77, 2⟩ ∧
      (pciRegistered i440fxFunction).conf i440fxFunction 0x5a = 0xff ∧
      ∃ t, pciSystemWrite (pciRegistered i440fxFunction) ⟨i440fxFunction, 0x5a, 0xbb77, 2⟩ = .ok t ∧
        t.conf i440fxFunction 0x5a = 0x77 ∧ t.conf i440fxFunction 0x5b = 0xbb := by
  have hcovers : ∀ x, PciWrite.Covers ⟨i440fxFunction, 0x5a, 0xbb77, 2⟩ x →
      x = 0x5a ∨ x = 0x5b := by
    rintro x ⟨hle, hlt⟩
    have h1 : 0x5a ≤ x := hle
    have h2 : x < 0x5c := hlt
    omega
  have hagrees : WideAgrees (pciRegistered i440fxFunction) ⟨i440fxFunction, 0x5a, 0xbb77, 2⟩ := by
    refine ⟨fun x hx => ?_, fun hline => ?_, fun _ => by decide, fun _ x hle _ hx => ?_⟩
    · rcases hcovers x hx with rfl | rfl
      · decide
      · decide
    · exact absurd hline (by decide)
    · rcases hcovers x hx with rfl | rfl <;> exact absurd hle (by decide)
  obtain ⟨t, ht, hregisters⟩ := exists_of_ends (fun t : PciSystem =>
    t.conf i440fxFunction 0x5a = 0x77 ∧ t.conf i440fxFunction 0x5b = 0xbb)
    (show ends _ (pciSystemWrite (pciRegistered i440fxFunction)
      ⟨i440fxFunction, 0x5a, 0xbb77, 2⟩) = true by decide +kernel)
  exact ⟨(wide_write_as_bytes_iff (Or.inl rfl) ⟨by decide, fun _ => rfl⟩ (by decide)
    (Or.inl rfl)).mpr hagrees, rfl, t, ht, hregisters⟩

/-- A write of two bytes to the host bridge puts another byte into the second register than the byte
writes. -/
theorem wide_write_shifts : ∃ t u,
    pciSystemWrite (pciRegistered i440fxFunction) ⟨i440fxFunction, 0x40, 0x0201, 2⟩ = .ok t ∧
    run pciSystemWrite (pciRegistered i440fxFunction)
      (PciWrite.bytewise ⟨i440fxFunction, 0x40, 0x0201, 2⟩) = .ok u ∧
    t.conf i440fxFunction 0x41 = 0x00 ∧ u.conf i440fxFunction 0x41 = 0x02 ∧
    ¬ WideAsBytes (pciRegistered i440fxFunction) ⟨i440fxFunction, 0x40, 0x0201, 2⟩ := by
  obtain ⟨t, ht, hwide⟩ := exists_of_ends (fun t : PciSystem => t.conf i440fxFunction 0x41 = 0x00)
    (show ends _ (pciSystemWrite (pciRegistered i440fxFunction)
      ⟨i440fxFunction, 0x40, 0x0201, 2⟩) = true by decide +kernel)
  obtain ⟨u, hu, hbytes⟩ := exists_of_ends (fun t : PciSystem => t.conf i440fxFunction 0x41 = 0x02)
    (show ends _ (run pciSystemWrite (pciRegistered i440fxFunction)
      (PciWrite.bytewise ⟨i440fxFunction, 0x40, 0x0201, 2⟩)) = true by decide +kernel)
  refine ⟨t, u, ht, hu, hwide, hbytes, ?_⟩
  rintro ⟨t', u', ht', hu', hsame, -⟩
  obtain rfl : t = t' := Except.ok.inj (ht.symm.trans ht')
  obtain rfl : u = u' := Except.ok.inj (hu.symm.trans hu')
  have hbyte := hsame 0x41
  rw [hwide, hbytes] at hbyte
  exact absurd hbyte (by decide)

end Svmm
