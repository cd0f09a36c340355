import Svmm.Properties.Vga.WriteModes

/-!
# Reads and writes of the aperture of the VGA

`aperture_agrees_iff` says when, with the write modes set to store the byte as it is in all planes,
a byte that is written is read back and no other address changes.  A write and a read decode the
same offset; they differ in what they make of it.  A read honours chain-four in every mode, a write
in the graphics modes but for the CGA ones, where it stores at the offset itself, and not in the
text modes, where it stores into all planes.
-/

namespace Svmm

variable {s : VgaCore} {a b address : BitVec 64} {offset : BitVec 32} {v : BitVec 8}

/-! ## The setting -/

/-- Read mode 0, and writes that store the byte as it is into all planes. -/
structure VgaCore.StoresAsIs (s : VgaCore) : Prop where
  readMode : s.graphicsCtrl.readMode = 0
  writeMode : s.graphicsCtrl.writeMode = 0
  bitmask : s.graphicsCtrl.bitmask = 0xff
  rasterOp : s.graphicsCtrl.rasterOp = 0
  enableSetReset : s.graphicsCtrl.enableSetReset = 0
  dataRotate : s.graphicsCtrl.dataRotate = 0
  mapMask : s.sequencer.mapMask = 0x0f

/-- The addresses of a memory mapping, of those of at most 64 KB. -/
def VgaCore.apertureBase (s : VgaCore) : ℕ :=
  if s.graphicsCtrl.memoryMapping = 1 then 0xa0000
  else if s.graphicsCtrl.memoryMapping = 2 then 0xb0000
  else 0xb8000

def VgaCore.apertureSize (s : VgaCore) : ℕ :=
  if s.graphicsCtrl.memoryMapping = 1 then 0x10000 else 0x8000

/-- The address is inside the aperture. -/
def VgaCore.InAperture (s : VgaCore) (address : BitVec 64) : Prop :=
  s.apertureBase ≤ address.toNat ∧ address.toNat < s.apertureBase + s.apertureSize

/-- The offset in the aperture. -/
def VgaCore.apertureOffset (s : VgaCore) (address : BitVec 64) : BitVec 32 :=
  BitVec.ofNat 32 (address.toNat - s.apertureBase)

/-- After `v` is written at `a`, the write completed, it is read there, and `b` reads as before. -/
structure ApertureAgrees (a b : BitVec 64) (v : BitVec 8) (s : VgaCore)
    (t : VgaCore × List VgaAccess) : Prop where
  readBack : (t.1.mmioRead a).1 = v
  others : (t.1.mmioRead b).1 = (s.mmioRead b).1
  completed : ∀ x ∈ t.2, x.InBounds ∧ x.Defined

/-- The place of the memory that a read of an offset returns. -/
def VgaCore.readIndex (s : VgaCore) (offset : BitVec 32) : ℕ :=
  if s.sequencer.chainFour then chainedIndex offset
  else planeIndex (Fin.ofNat 4 s.graphicsCtrl.readMapSelect.toNat) offset

/-- In a CGA mode: with chain-four the offset is a multiple of 4, without it plane 0 is read, or the
byte is there already.  In a text mode with chain-four: the offset of `a` is a multiple of 4 and `b`
is not in the same four bytes, or has the byte already; or it is no multiple, and the byte is
there.  In the modes that store into planes: the line offset is not 0 in shift mode 2. -/
def ApertureHarmless (a b : BitVec 64) (v : BitVec 8) (s : VgaCore) : Prop :=
  let i := s.apertureOffset a
  let j := s.apertureOffset b
  (s.IsCga →
    (if s.sequencer.chainFour then i.toNat % 4 = 0 else s.graphicsCtrl.readMapSelect = 0) ∨
      s.memory (s.readIndex i) = v) ∧
  (¬ s.IsCga → ¬ s.IsChained →
    (s.graphicsCtrl.shiftReg = 2 → s.lineOffset ≠ 0) ∧
      (s.sequencer.chainFour = true →
        if i.toNat % 4 = 0 then i.toNat / 4 = j.toNat / 4 → s.memory (chainedIndex j) = v
        else s.memory (chainedIndex i) = v))

/-! ## What is decoded -/

lemma apertureOffset_toNat (h : s.InAperture address) :
    (s.apertureOffset address).toNat = address.toNat - s.apertureBase ∧
      address.toNat - s.apertureBase < 0x10000 := by
  obtain ⟨-, hlt⟩ := h
  have hsize : s.apertureSize ≤ 0x10000 := by
    unfold VgaCore.apertureSize
    split <;> decide
  rw [VgaCore.apertureOffset, BitVec.toNat_ofNat]
  omega

/-- The settings of the memory mapping but for that of 128 KB. -/
lemma memoryMapping_cases (h : s.graphicsCtrl.memoryMapping ≠ 0) :
    s.graphicsCtrl.memoryMapping = 1 ∨ s.graphicsCtrl.memoryMapping = 2 ∨
      s.graphicsCtrl.memoryMapping = 3 :=
  (twoBits_cases _).resolve_left h

/-- The low bits of an address. -/
lemma setWidth_and_mask (address : BitVec 64) (k : ℕ) (hk : k ≤ 32) :
    (address &&& BitVec.ofNat 64 (2 ^ k - 1)).setWidth 32 =
      BitVec.ofNat 32 (address.toNat % 2 ^ k) := by
  have hle : 2 ^ k ≤ 2 ^ 32 := Nat.pow_le_pow_right (by decide) hk
  apply BitVec.eq_of_toNat_eq
  rw [BitVec.toNat_setWidth, BitVec.toNat_and, BitVec.toNat_ofNat, BitVec.toNat_ofNat,
    Nat.mod_eq_of_lt (show 2 ^ k - 1 < 2 ^ 64 by omega), Nat.and_two_pow_sub_one_eq_mod]

/-- A read masks the offset out of the address. -/
lemma readOffset_eq (hmap : s.graphicsCtrl.memoryMapping ≠ 0) (h : s.InAperture address) :
    s.readOffset address = some (s.apertureOffset address) := by
  obtain ⟨hle, hlt⟩ := h
  unfold VgaCore.readOffset VgaCore.apertureOffset
  unfold VgaCore.apertureSize at hlt
  unfold VgaCore.apertureBase at hle hlt ⊢
  rcases memoryMapping_cases hmap with hm | hm | hm
  · simp only [hm, BitVec.reduceEq, if_true, if_false] at hle hlt ⊢
    have hmask := setWidth_and_mask address 16 (by decide)
    rw [show address.toNat % 2 ^ 16 = address.toNat - 0xa0000 by omega] at hmask
    rw [if_neg (by simp [BitVec.lt_def]; omega)]
    exact congrArg some hmask
  · simp only [hm, BitVec.reduceEq, if_true, if_false] at hle hlt ⊢
    have hmask := setWidth_and_mask address 15 (by decide)
    rw [show address.toNat % 2 ^ 15 = address.toNat - 0xb0000 by omega] at hmask
    rw [if_neg (by simp [BitVec.lt_def]; omega)]
    exact congrArg some hmask
  · simp only [hm, BitVec.reduceEq, if_true, if_false] at hle hlt ⊢
    have hmask := setWidth_and_mask address 15 (by decide)
    rw [show address.toNat % 2 ^ 15 = address.toNat - 0xb8000 by omega] at hmask
    rw [if_neg (by simp [BitVec.lt_def]; omega)]
    exact congrArg some hmask

/-- The difference in the type of the offset. -/
lemma setWidth_sub_base {base : ℕ} (hle : base ≤ address.toNat) (hlt : address.toNat < 2 ^ 32) :
    address.setWidth 32 - BitVec.ofNat 32 base = BitVec.ofNat 32 (address.toNat - base) := by
  apply BitVec.eq_of_toNat_eq
  rw [BitVec.toNat_sub, BitVec.toNat_setWidth, BitVec.toNat_ofNat, BitVec.toNat_ofNat]
  omega

/-- A write subtracts the start of the aperture. -/
lemma writeOffset_eq (hmap : s.graphicsCtrl.memoryMapping ≠ 0) (h : s.InAperture address) :
    s.writeOffset address = some (s.apertureOffset address) := by
  obtain ⟨hle, hlt⟩ := h
  unfold VgaCore.writeOffset VgaCore.apertureOffset
  unfold VgaCore.apertureSize at hlt
  unfold VgaCore.apertureBase at hle hlt ⊢
  rcases memoryMapping_cases hmap with hm | hm | hm
  · simp only [hm, BitVec.reduceEq, if_true, if_false] at hle hlt ⊢
    rw [if_neg (by simp [BitVec.lt_def]; omega)]
    exact congrArg some (setWidth_sub_base hle (by omega))
  · simp only [hm, BitVec.reduceEq, if_true, if_false] at hle hlt ⊢
    rw [if_neg (by simp [BitVec.lt_def]; omega)]
    exact congrArg some (setWidth_sub_base hle (by omega))
  · simp only [hm, BitVec.reduceEq, if_true, if_false] at hle hlt ⊢
    rw [if_neg (by simp [BitVec.lt_def]; omega)]
    exact congrArg some (setWidth_sub_base hle (by omega))

/-- Different addresses have different offsets. -/
lemma apertureOffset_inj (ha : s.InAperture a) (hb : s.InAperture b) (hab : a ≠ b) :
    (s.apertureOffset a).toNat ≠ (s.apertureOffset b).toNat := by
  have hoffset := apertureOffset_toNat ha
  have hoffset' := apertureOffset_toNat hb
  have hne : a.toNat ≠ b.toNat := fun h => hab (BitVec.eq_of_toNat_eq h)
  have hle := ha.1
  have hle' := hb.1
  omega

/-! ## What is stored and read -/

/-- The two low bits cleared. -/
lemma toNat_and_not_three (offset : BitVec 32) :
    (offset &&& ~~~ (0x03 : BitVec 32)).toNat = 4 * (offset.toNat / 4) := by
  have hshift : offset &&& ~~~ (0x03 : BitVec 32) = (offset >>> 2) <<< 2 := by
    apply BitVec.eq_of_getLsbD_eq
    intro i hi
    have hthree : (0x03 : BitVec 32).getLsbD i = decide (i < 2) := by
      revert i
      decide
    simp only [BitVec.getLsbD_and, BitVec.getLsbD_not, hi, hthree, BitVec.getLsbD_shiftLeft,
      BitVec.getLsbD_ushiftRight, decide_true, Bool.true_and]
    by_cases hlow : i < 2
    · simp [hlow]
    · have heq : 2 + (i - 2) = i := by omega
      simp [hlow, heq]
  rw [hshift, BitVec.toNat_shiftLeft, BitVec.toNat_ushiftRight, Nat.shiftRight_eq_div_pow,
    Nat.shiftLeft_eq]
  have := offset.isLt
  omega

/-- The place of a chained byte. -/
lemma chainedIndex_eq (h : offset.toNat < 0x20000) :
    chainedIndex offset = 4 * (offset.toNat / 4) + offset.toNat % 4 * 0x10000 := by
  have hmul : (offset % 4 * 65536).toNat = offset.toNat % 4 * 65536 := by
    rw [BitVec.toNat_mul, BitVec.toNat_umod]
    show offset.toNat % 4 * 65536 % 2 ^ 32 = _
    omega
  rw [chainedIndex, BitVec.toNat_add, hmul, toNat_and_not_three]
  omega

/-- A read gives the byte at its place. -/
lemma mmioRead_value (hmode : s.graphicsCtrl.readMode = 0)
    (hoffset : s.readOffset address = some offset) :
    (s.mmioRead address).1 = s.memory (s.readIndex offset) := by
  unfold VgaCore.mmioRead VgaCore.readIndex
  simp only [hoffset]
  by_cases hchain : s.sequencer.chainFour = true
  · rw [if_pos hchain, if_pos hchain]
  · rw [if_neg hchain, if_neg hchain]
    simp only [hmode, if_true]
    rfl

/-- The byte as it is goes to every plane. -/
lemma newVal_asIs (h : s.StoresAsIs) (p : Fin 4) :
    s.graphicsCtrl.newVal (v.setWidth 32) p = v := by
  have hall : ∀ i < 8, Word.has (0xff : BitVec 8) i = true := by decide
  have hmode : ∀ m : BitVec 2, m ≠ 0 → s.graphicsCtrl.writeMode ≠ m := fun m hm heq =>
    hm (heq.symm.trans h.writeMode)
  refine Word.ext_has fun i hi => ?_
  have hmask : s.graphicsCtrl.maskBit v i = true := by
    rw [VgaGraphics.maskBit, if_neg (hmode 3 (by decide)), h.bitmask, hall i hi]
  have hsource : s.graphicsCtrl.sourceBit v p i = Word.has v i := by
    rw [VgaGraphics.sourceBit, if_pos h.writeMode, h.enableSetReset, VgaGraphics.rotatedData,
      h.dataRotate]
    simp [Word.has_eq_getLsbD, hi]
  rw [VgaGraphics.newVal, if_pos h.writeMode, has_writeMode0 hi h.writeMode,
    definedBit_of_ne (hmode 1 (by decide)), if_pos hmask, h.rasterOp, hsource]
  rfl

/-- Where a write stores, by the mode. -/
def VgaCore.Stores (s : VgaCore) (offset : BitVec 32) (m : ℕ) : Prop :=
  (s.IsCga ∧ m = offset.toNat) ∨ (¬ s.IsCga ∧ s.IsChained ∧ m = chainedIndex offset) ∨
    (¬ s.IsCga ∧ ¬ s.IsChained ∧ ∃ p : Fin 4, m = planeIndex p offset)

lemma store_memory {m : ℕ} (i : ℕ) :
    (m = i → (s.store i v).memory m = v) ∧ (¬ m = i → (s.store i v).memory m = s.memory m) :=
  ⟨fun h => h ▸ Function.update_self .., fun h => Function.update_of_ne h ..⟩

/-- The memory after a write. -/
lemma mmioWrite_memory (h : s.StoresAsIs) (hoffset : s.writeOffset address = some offset) (m : ℕ) :
    (s.Stores offset m → (s.mmioWrite address (v.setWidth 32)).1.memory m = v) ∧
      (¬ s.Stores offset m → (s.mmioWrite address (v.setWidth 32)).1.memory m = s.memory m) := by
  have hv : (v.setWidth 32).setWidth 8 = v := Word.setWidth_setWidth_eq (by decide) v
  by_cases hcga : s.IsCga
  · have hstores : s.Stores offset m ↔ m = offset.toNat := by simp [VgaCore.Stores, hcga]
    rw [mmioWrite_cga hoffset hcga, hstores, hv]
    simp only [markCga_memory]
    exact store_memory offset.toNat
  · by_cases hchained : s.IsChained
    · have hstores : s.Stores offset m ↔ m = chainedIndex offset := by
        simp [VgaCore.Stores, hcga, hchained]
      rw [mmioWrite_chained hoffset hcga hchained, hstores, hv]
      split
      · simp only [markChained_memory]
        exact store_memory _
      · exact store_memory _
    · have hstores : s.Stores offset m ↔ ∃ p : Fin 4, m = planeIndex p offset := by
        simp [VgaCore.Stores, hcga, hchained]
      have hmask : ∀ p : Fin 4, Word.has s.sequencer.mapMask p = true := by
        rw [h.mapMask]
        decide
      rw [mmioWrite_planar ⟨hoffset, hcga, hchained⟩, hstores]
      constructor
      · rintro ⟨p, rfl⟩
        rw [planarWrite_selected (hmask p), newVal_asIs h]
      · intro hnone
        exact planarWrite_memory_of_ne fun p _ heq => hnone ⟨p, heq.symm⟩

/-- A write in an aperture is completed but for the tile that is looked for by a line offset of
0. -/
lemma mmioWrite_completed (value : BitVec 32) (h : s.StoresAsIs)
    (hoffset : s.writeOffset address = some offset) (hlt : offset.toNat < 0x10000) :
    (∀ x ∈ (s.mmioWrite address value).2, x.InBounds ∧ x.Defined) ↔
      (¬ s.IsCga → ¬ s.IsChained → s.graphicsCtrl.shiftReg = 2 → s.lineOffset ≠ 0) := by
  have hne : s.sequencer.mapMask ≠ 0 := by
    rw [h.mapMask]
    decide
  have hbyte : (VgaAccess.memory offset.toNat 1).InBounds := by
    show offset.toNat + 1 ≤ vgaMemsize
    rw [vgaMemsize]
    omega
  have hindex : (VgaAccess.memory (chainedIndex offset) 1).InBounds := by
    show chainedIndex offset + 1 ≤ vgaMemsize
    rw [chainedIndex_eq (by omega), vgaMemsize]
    omega
  rw [forall_mmioWrite hoffset, and_iff_right fun _ => ⟨hbyte, trivial⟩, and_iff_right fun _ _ =>
    ⟨⟨hindex, trivial⟩, fun hline => ⟨trivial, Nat.ne_of_gt (BitVec.lt_def.mp hline)⟩⟩]
  refine imp_congr_right fun _ => imp_congr_right fun _ => ?_
  rw [forall₂_and, and_iff_right (planarWrite_inBounds hlt hne)]
  exact planarWrite_defined hne

/-! ## The property -/

/-- What is read at an address after a write, in terms of what the write stores. -/
lemma mmioRead_after (h : s.StoresAsIs) {i j : BitVec 32} {t : VgaCore}
    (hregs : s.SameRegisters t)
    (hmem : ∀ m, (s.Stores i m → t.memory m = v) ∧ (¬ s.Stores i m → t.memory m = s.memory m))
    (hread : s.readOffset b = some j) :
    ((t.mmioRead b).1 = v ↔ s.Stores i (s.readIndex j) ∨ s.memory (s.readIndex j) = v) ∧
      ((t.mmioRead b).1 = (s.mmioRead b).1 ↔
        (s.Stores i (s.readIndex j) → s.memory (s.readIndex j) = v)) := by
  obtain ⟨memory, tiles, updated, rfl⟩ := hregs
  have hvalue : (VgaCore.mmioRead b
      { s with memory := memory, tileUpdated := tiles, vgaMemUpdated := updated }).1 =
        memory (s.readIndex j) := mmioRead_value h.readMode hread
  rw [hvalue, mmioRead_value h.readMode hread]
  obtain ⟨hin, hout⟩ := hmem (s.readIndex j)
  by_cases hstores : s.Stores i (s.readIndex j)
  · have hv : memory (s.readIndex j) = v := hin hstores
    exact ⟨⟨fun _ => .inl hstores, fun _ => hv⟩,
      ⟨fun heq _ => heq.symm.trans hv, fun himp => hv.trans (himp hstores).symm⟩⟩
  · have hsame : memory (s.readIndex j) = s.memory (s.readIndex j) := hout hstores
    exact ⟨⟨fun heq => .inr (hsame.symm.trans heq),
      fun hor => hsame.trans (hor.resolve_left hstores)⟩,
      ⟨fun _ hc => absurd hc hstores, fun _ => hsame⟩⟩

/-- When a write at an offset stores where a read of another one looks. -/
lemma stores_readIndex {i j : BitVec 32} (hi : i.toNat < 0x10000) (hj : j.toNat < 0x10000) :
    s.Stores i (s.readIndex j) ↔
      (s.IsCga ∧ i.toNat = j.toNat ∧
        if s.sequencer.chainFour then i.toNat % 4 = 0 else s.graphicsCtrl.readMapSelect = 0) ∨
      (¬ s.IsCga ∧ s.IsChained ∧ i.toNat = j.toNat) ∨
      (¬ s.IsCga ∧ ¬ s.IsChained ∧
        if s.sequencer.chainFour then i.toNat % 4 = 0 ∧ i.toNat / 4 = j.toNat / 4
        else i.toNat = j.toNat) := by
  have hselect : (Fin.ofNat 4 s.graphicsCtrl.readMapSelect.toNat).val =
      s.graphicsCtrl.readMapSelect.toNat := Nat.mod_eq_of_lt s.graphicsCtrl.readMapSelect.isLt
  have hzero : s.graphicsCtrl.readMapSelect = 0 ↔ s.graphicsCtrl.readMapSelect.toNat = 0 :=
    BitVec.toNat_inj.symm
  unfold VgaCore.Stores VgaCore.readIndex
  refine or_congr (and_congr_right fun _ => ?_) (or_congr (and_congr_right fun _ =>
    and_congr_right fun hchained => ?_) (and_congr_right fun _ => and_congr_right fun _ => ?_))
  · by_cases hchain : s.sequencer.chainFour = true
    · rw [if_pos hchain, if_pos hchain, chainedIndex_eq (by omega)]
      omega
    · rw [if_neg hchain, if_neg hchain, planeIndex_eq, hselect, hzero]
      omega
  · rw [if_pos hchained.2, chainedIndex_eq (by omega), chainedIndex_eq (by omega)]
    omega
  · by_cases hchain : s.sequencer.chainFour = true
    · rw [if_pos hchain, if_pos hchain, chainedIndex_eq (by omega)]
      simp only [planeIndex_eq]
      constructor
      · rintro ⟨p, hp⟩
        omega
      · intro h
        exact ⟨⟨j.toNat % 4, by omega⟩, by simp only; omega⟩
    · rw [if_neg hchain, if_neg hchain]
      simp only [planeIndex_eq]
      constructor
      · rintro ⟨p, hp⟩
        omega
      · intro h
        exact ⟨_, by rw [h]⟩

theorem aperture_agrees_iff (h : s.StoresAsIs) (hmap : s.graphicsCtrl.memoryMapping ≠ 0)
    (ha : s.InAperture a) (hb : s.InAperture b) (hab : a ≠ b) :
    ApertureAgrees a b v s (s.mmioWrite a (v.setWidth 32)) ↔ ApertureHarmless a b v s := by
  have hi : (s.apertureOffset a).toNat < 0x10000 := by
    rw [(apertureOffset_toNat ha).1]
    exact (apertureOffset_toNat ha).2
  have hj : (s.apertureOffset b).toNat < 0x10000 := by
    rw [(apertureOffset_toNat hb).1]
    exact (apertureOffset_toNat hb).2
  have hwrite := writeOffset_eq hmap ha
  have hregs : s.SameRegisters (s.mmioWrite a (v.setWidth 32)).1 := VgaCore.SameRegisters.mmioWrite
  have hmem := mmioWrite_memory (v := v) h hwrite
  have hback := (mmioRead_after h hregs hmem (readOffset_eq hmap ha)).1
  have hothers := (mmioRead_after h hregs hmem (readOffset_eq hmap hb)).2
  have hcompleted := mmioWrite_completed (v.setWidth 32) h hwrite hi
  have hne := apertureOffset_inj ha hb hab
  have hagrees : ApertureAgrees a b v s (s.mmioWrite a (v.setWidth 32)) ↔ _ ∧ _ ∧ _ :=
    ⟨fun h => ⟨h.1, h.2, h.3⟩, fun h => ⟨h.1, h.2.1, h.2.2⟩⟩
  rw [hagrees, hback, hothers, hcompleted, stores_readIndex hi hi, stores_readIndex hi hj]
  unfold ApertureHarmless
  by_cases hcga : s.IsCga
  · simp [hcga, hne]
  · by_cases hchained : s.IsChained
    · simp [hcga, hchained, hne]
    · by_cases hchain : s.sequencer.chainFour = true
      · by_cases hmod : (s.apertureOffset a).toNat % 4 = 0
        · simp [hcga, hchained, hchain, hmod, VgaCore.readIndex]
          grind
        · simp [hcga, hchained, hchain, hmod, VgaCore.readIndex]
          grind
      · simp [hcga, hchained, hchain, hne]

/-- A graphics mode with chain-four that stores the byte as it is. -/
private def chainedState (memoryMapping : BitVec 2) : VgaCore :=
  { VgaCore.initialState with
    graphicsCtrl :=
      { VgaCore.initialState.graphicsCtrl with
        memoryMapping := memoryMapping, graphicsAlpha := true, bitmask := 0xff }
    sequencer := { VgaCore.initialState.sequencer with mapMask := 0x0f, chainFour := true } }

private lemma chainedState_storesAsIs (m : BitVec 2) : (chainedState m).StoresAsIs :=
  ⟨rfl, rfl, rfl, rfl, rfl, rfl, rfl⟩

/-- At the addresses from `0xa0000`. -/
theorem aperture_agrees_chained :
    ApertureAgrees 0xa0001 0xa0002 0x55 (chainedState 1)
      ((chainedState 1).mmioWrite 0xa0001 (BitVec.setWidth 32 (0x55 : BitVec 8))) :=
  (aperture_agrees_iff (chainedState_storesAsIs 1) (by decide)
    ⟨by decide +kernel, by decide +kernel⟩ ⟨by decide +kernel, by decide +kernel⟩ (by decide)).mpr
    ⟨fun h => absurd h.2 (by decide), fun _ h => absurd ⟨rfl, rfl⟩ h⟩

/-- At the addresses from `0xb8000` the byte is stored at its offset and read from plane 1. -/
theorem aperture_read_elsewhere :
    ¬ ∀ (s : VgaCore) (a b : BitVec 64) (v : BitVec 8), s.StoresAsIs →
      s.graphicsCtrl.memoryMapping ≠ 0 → s.InAperture a → s.InAperture b → a ≠ b →
        ApertureAgrees a b v s (s.mmioWrite a (v.setWidth 32)) := by
  intro h
  have hagrees := h (chainedState 3) 0xb8001 0xb8002 0x55 (chainedState_storesAsIs 3) (by decide)
    ⟨by decide +kernel, by decide +kernel⟩ ⟨by decide +kernel, by decide +kernel⟩ (by decide)
  have hread := hagrees.readBack
  revert hread
  decide +kernel

end Svmm
