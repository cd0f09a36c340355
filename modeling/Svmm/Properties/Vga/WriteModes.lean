import Svmm.Properties.Vga.Planes

/-!
# The write modes of the VGA

`planar_writes_defined_iff` says when a write that goes through the write modes does to each plane,
bit by bit, what the VGA defines.  Modes 0 to 2 do, with each raster operation.  Mode 3 takes its
mask from the data before it rotates it, so that the mask is `bitmask & data` where the VGA has
`bitmask & rotated data`; it makes no difference where the two results agree.  An offset from 64 KB
on is not one of a plane, and the tile of a byte is looked for by a division by the line offset in
shift mode 2.
-/

namespace Svmm

variable {s : VgaCore} {offset : BitVec 32} {data : BitVec 8} {p : Fin 4} {g : VgaGraphics}

/-! ## What the VGA defines -/

/-- A raster operation on a bit. -/
def rasterBit (op : BitVec 2) (source latch : Bool) : Bool :=
  if op = 0 then source
  else if op = 1 then source && latch
  else if op = 2 then source || latch
  else source != latch

namespace VgaGraphics

/-- The data as the VGA rotates it. -/
def rotatedData (g : VgaGraphics) (data : BitVec 8) : BitVec 8 :=
  data.rotateRight g.dataRotate.toNat

/-- Bit `i` of what comes from the CPU for a plane: in mode 0 the rotated data, or set/reset where
it is enabled; in mode 2 the bit of the plane; in mode 3 set/reset. -/
def sourceBit (g : VgaGraphics) (data : BitVec 8) (p : Fin 4) (i : ℕ) : Bool :=
  if g.writeMode = 0 then
    if Word.has g.enableSetReset p then Word.has g.setReset p else Word.has (g.rotatedData data) i
  else if g.writeMode = 2 then Word.has data p
  else Word.has g.setReset p

/-- Bit `i` of the mask: in mode 3 the rotated data masks too. -/
def maskBit (g : VgaGraphics) (data : BitVec 8) (i : ℕ) : Bool :=
  if g.writeMode = 3 then Word.has g.bitmask i && Word.has (g.rotatedData data) i
  else Word.has g.bitmask i

/-- Bit `i` of the byte of a plane after a write. -/
def definedBit (g : VgaGraphics) (data : BitVec 8) (p : Fin 4) (i : ℕ) : Bool :=
  if g.writeMode ≠ 1 ∧ g.maskBit data i = true then
    rasterBit g.rasterOp (g.sourceBit data p i) (Word.has (g.latch p) i)
  else Word.has (g.latch p) i

/-- Where a data bit is masked by itself and not by the rotated data, or the other way round, the
operation gives the latch anyway. -/
def RotationHarmless (g : VgaGraphics) (data : BitVec 8) (p : Fin 4) : Prop :=
  ∀ i < 8, Word.has g.bitmask i = true →
    (Word.has data i = false → Word.has (g.rotatedData data) i = true →
      rasterBit g.rasterOp (Word.has g.setReset p) (Word.has (g.latch p) i) =
        Word.has (g.latch p) i) ∧
    (Word.has data i = true → Word.has (g.rotatedData data) i = false →
      rasterBit g.rasterOp false (Word.has (g.latch p) i) = Word.has (g.latch p) i)

instance (g : VgaGraphics) (data : BitVec 8) (p : Fin 4) : Decidable (g.RotationHarmless data p) :=
  inferInstanceAs (Decidable (∀ i < 8, _))

end VgaGraphics

/-- The byte at the offset of each plane of the map mask is the one that is defined, the other bytes
are the same, and the write is completed. -/
structure WritesPlanes (offset : BitVec 32) (data : BitVec 8) (s : VgaCore)
    (t : VgaCore × List VgaAccess) : Prop where
  selected : ∀ p : Fin 4, Word.has s.sequencer.mapMask p = true →
    offset.toNat < 0x10000 ∧ ∀ i < 8, Word.has (t.1.memory (planeIndex p offset)) i =
      s.graphicsCtrl.definedBit data p i
  others : ∀ (p : Fin 4) (o : ℕ), o < 0x10000 →
    ¬ (Word.has s.sequencer.mapMask p = true ∧ o = offset.toNat) →
      t.1.memory (p.val * 0x10000 + o) = s.memory (p.val * 0x10000 + o)
  completed : ∀ a ∈ t.2, a.InBounds ∧ a.Defined

/-- No plane is selected; or the offset is one of a plane, the tile is looked for with a line offset
above 0, and in mode 3 the rotation makes no difference. -/
def PlanarHarmless (offset : BitVec 32) (data : BitVec 8) (s : VgaCore) : Prop :=
  s.sequencer.mapMask = 0 ∨
    (offset.toNat < 0x10000 ∧ (s.graphicsCtrl.shiftReg = 2 → s.lineOffset ≠ 0) ∧
      (s.graphicsCtrl.writeMode = 3 → ∀ p : Fin 4, Word.has s.sequencer.mapMask p = true →
        s.graphicsCtrl.RotationHarmless data p))

/-! ## The bits of the expressions -/

/-- The rotation in a wider type is that of a byte. -/
lemma has_rotated (data : BitVec 8) {i : ℕ} (hi : i < 8) :
    Word.has ((g.rotated (data.setWidth 32)).setWidth 8) i = Word.has (g.rotatedData data) i := by
  have hr := g.dataRotate.isLt
  unfold VgaGraphics.rotated VgaGraphics.rotatedData
  by_cases hzero : g.dataRotate ≠ 0
  · rw [if_pos hzero]
    simp only [Word.has_eq_getLsbD, BitVec.getLsbD_setWidth, BitVec.getLsbD_or,
      BitVec.getLsbD_ushiftRight, BitVec.getLsbD_shiftLeft, hi, decide_true, Bool.true_and]
    rw [BitVec.getLsbD_rotateRight_of_lt hr]
    by_cases hlow : i < 8 - g.dataRotate.toNat
    · have hin : g.dataRotate.toNat + i < 32 := by omega
      simp [hlow, hin]
    · have hout : data.getLsbD (g.dataRotate.toNat + i) = false :=
        BitVec.getLsbD_of_ge _ _ (by omega)
      have hin : i < 32 := by omega
      have hin' : i - (8 - g.dataRotate.toNat) < 32 := by omega
      simp [hlow, hout, hin, hin', hi]
  · have heq : g.dataRotate = 0 := not_not.mp hzero
    rw [if_neg hzero, heq]
    simp [Word.has_eq_getLsbD, hi]

/-- A byte of which the mask takes one part from the latch. -/
lemma has_masked {latch mask x : BitVec 8} {i : ℕ} (hi : i < 8) :
    Word.has ((latch &&& ~~~ mask) ||| x) i =
      ((Word.has latch i && !Word.has mask i) || Word.has x i) := by
  rw [Word.has_or, Word.has_and, Word.has_not, decide_eq_true hi, Bool.true_and]

/-- A raster operation as the modes write it out: the source under the mask is all of it or nothing,
or the data. -/
lemma has_operation {latch mask x : BitVec 8} {op : BitVec 2} {source : Bool} {i : ℕ} (hi : i < 8)
    (hx : Word.has x i = (Word.has mask i && rasterBit op source (Word.has latch i))) :
    Word.has ((latch &&& ~~~ mask) ||| x) i =
      if Word.has mask i = true then rasterBit op source (Word.has latch i)
      else Word.has latch i := by
  rw [has_masked hi, hx]
  cases Word.has mask i with
  | false => simp
  | true => simp

/-- The values of a field of two bits. -/
lemma twoBits_cases (op : BitVec 2) : op = 0 ∨ op = 1 ∨ op = 2 ∨ op = 3 := by
  revert op
  decide

/-- The operations on a source that is the same for all bits. -/
lemma has_expanded {latch mask : BitVec 8} {op : BitVec 2} {source : Bool} {i : ℕ} (hi : i < 8) :
    Word.has (if op = 0 then (if source then mask else 0)
      else if op = 1 then (if source then latch &&& mask else 0)
      else if op = 2 then (if source then mask else latch &&& mask)
      else (if source then ~~~ latch &&& mask else latch &&& mask)) i =
    (Word.has mask i && rasterBit op source (Word.has latch i)) := by
  have hlt := decide_eq_true hi
  cases source with
  | true =>
      rcases twoBits_cases op with rfl | rfl | rfl | rfl <;>
        simp [rasterBit, hlt, Bool.and_comm]
  | false =>
      rcases twoBits_cases op with rfl | rfl | rfl | rfl <;>
        simp [rasterBit, Bool.and_comm]

/-- The operations on the data. -/
lemma has_ofData {latch mask value : BitVec 8} {op : BitVec 2} {i : ℕ} :
    Word.has (if op = 0 then value &&& mask
      else if op = 1 then (value &&& latch) &&& mask
      else if op = 2 then (value ||| latch) &&& mask
      else (value ^^^ latch) &&& mask) i =
    (Word.has mask i && rasterBit op (Word.has value i) (Word.has latch i)) := by
  rcases twoBits_cases op with rfl | rfl | rfl | rfl <;> simp [rasterBit, Bool.and_comm]

/-- The bit that is defined, of a mode that writes. -/
lemma definedBit_of_ne {i : ℕ} (hmode : g.writeMode ≠ 1) :
    g.definedBit data p i = if g.maskBit data i = true then
      rasterBit g.rasterOp (g.sourceBit data p i) (Word.has (g.latch p) i)
    else Word.has (g.latch p) i := by
  rw [VgaGraphics.definedBit]
  by_cases hmask : g.maskBit data i = true
  · rw [if_pos ⟨hmode, hmask⟩, if_pos hmask]
  · rw [if_neg fun h => hmask h.2, if_neg hmask]

lemma has_writeMode0 {i : ℕ} (hi : i < 8) (hmode : g.writeMode = 0) :
    Word.has (g.writeMode0 (data.setWidth 32) p) i = g.definedBit data p i := by
  have hmask : g.maskBit data i = Word.has g.bitmask i := by
    rw [VgaGraphics.maskBit, hmode, if_neg (by decide)]
  rw [definedBit_of_ne (by rw [hmode]; decide), hmask, VgaGraphics.sourceBit, if_pos hmode]
  refine has_operation hi ?_
  cases Word.has g.enableSetReset p with
  | true => exact has_expanded hi
  | false =>
      simp only [Bool.false_eq_true, if_false]
      rw [has_ofData, has_rotated data hi]

lemma has_writeMode2 {i : ℕ} (hi : i < 8) (hmode : g.writeMode = 2) :
    Word.has (g.writeMode2 (data.setWidth 32) p) i = g.definedBit data p i := by
  have hmask : g.maskBit data i = Word.has g.bitmask i := by
    rw [VgaGraphics.maskBit, hmode, if_neg (by decide)]
  have hbit : Word.has (data.setWidth 32) p = Word.has data p := by
    have hp := p.isLt
    rw [Word.has_setWidth, decide_eq_true (by omega), Bool.true_and]
  have hsource : g.sourceBit data p i = Word.has (data.setWidth 32) p := by
    rw [VgaGraphics.sourceBit, hmode, if_neg (by decide), if_pos rfl, hbit]
  rw [definedBit_of_ne (by rw [hmode]; decide), hmask, hsource]
  exact has_operation hi (has_expanded hi)

/-- What write mode 3 gives: the mask is of the data, and the source of the rotated data. -/
lemma has_writeMode3 {i : ℕ} (hi : i < 8) :
    Word.has (g.writeMode3 (data.setWidth 32) p) i =
      if (Word.has g.bitmask i && Word.has data i) = true then
        rasterBit g.rasterOp (Word.has g.setReset p && Word.has (g.rotatedData data) i)
          (Word.has (g.latch p) i)
      else Word.has (g.latch p) i := by
  have hdata : (data.setWidth 32).setWidth 8 = data := Word.setWidth_setWidth_eq (by decide) data
  have hmask : Word.has (g.bitmask &&& data) i = (Word.has g.bitmask i && Word.has data i) :=
    Word.has_and ..
  unfold VgaGraphics.writeMode3
  simp only [hdata]
  rw [has_masked hi, hmask, ← has_rotated data hi]
  cases hset : Word.has g.setReset p with
  | false =>
      rcases twoBits_cases g.rasterOp with hop | hop | hop | hop <;> rw [hop] <;>
        simp [rasterBit] <;> grind
  | true =>
      rcases twoBits_cases g.rasterOp with hop | hop | hop | hop <;> rw [hop] <;>
        simp [rasterBit] <;> grind

/-- The bits of mode 3 are those that are defined just when the rotation makes no difference. -/
lemma writeMode3_iff (hmode : g.writeMode = 3) :
    (∀ i < 8, Word.has (g.writeMode3 (data.setWidth 32) p) i = g.definedBit data p i) ↔
      g.RotationHarmless data p := by
  have hbit : ∀ i < 8, (Word.has (g.writeMode3 (data.setWidth 32) p) i = g.definedBit data p i ↔
      (Word.has g.bitmask i = true →
        (Word.has data i = false → Word.has (g.rotatedData data) i = true →
          rasterBit g.rasterOp (Word.has g.setReset p) (Word.has (g.latch p) i) =
            Word.has (g.latch p) i) ∧
        (Word.has data i = true → Word.has (g.rotatedData data) i = false →
          rasterBit g.rasterOp false (Word.has (g.latch p) i) = Word.has (g.latch p) i))) := by
    intro i hi
    have hmask : g.maskBit data i = (Word.has g.bitmask i && Word.has (g.rotatedData data) i) := by
      rw [VgaGraphics.maskBit, if_pos hmode]
    have hsource : g.sourceBit data p i = Word.has g.setReset p := by
      rw [VgaGraphics.sourceBit, hmode, if_neg (by decide), if_neg (by decide)]
    rw [has_writeMode3 hi, definedBit_of_ne (by rw [hmode]; decide), hmask, hsource]
    cases Word.has g.bitmask i with
    | false => simp
    | true =>
        cases Word.has data i <;> cases Word.has (g.rotatedData data) i <;> simp [eq_comm]
  exact forall₂_congr hbit

/-- What a mode gives for a plane is what is defined, but for the rotation in mode 3. -/
lemma newVal_iff :
    (∀ i < 8, Word.has (g.newVal (data.setWidth 32) p) i = g.definedBit data p i) ↔
      (g.writeMode = 3 → g.RotationHarmless data p) := by
  unfold VgaGraphics.newVal
  rcases twoBits_cases g.writeMode with hmode | hmode | hmode | hmode
  · rw [hmode]
    exact ⟨fun _ h => absurd h (by decide), fun _ i hi => has_writeMode0 hi hmode⟩
  · have hdefined : ∀ i, g.definedBit data p i = Word.has (g.latch p) i := fun i => by
      rw [VgaGraphics.definedBit, if_neg fun h => h.1 hmode]
    rw [hmode]
    exact ⟨fun _ h => absurd h (by decide), fun _ i _ => (hdefined i).symm⟩
  · rw [hmode]
    exact ⟨fun _ h => absurd h (by decide), fun _ i hi => has_writeMode2 hi hmode⟩
  · rw [hmode]
    exact (writeMode3_iff hmode).trans ⟨fun h _ => h, fun h => h rfl⟩

/-! ## The write -/

theorem planar_writes_defined_iff {address : BitVec 64} (h : s.TakesPlanes address offset) :
    WritesPlanes offset data s (s.mmioWrite address (data.setWidth 32)) ↔
      PlanarHarmless offset data s := by
  rw [mmioWrite_planar h]
  by_cases hzero : s.sequencer.mapMask = 0
  · refine ⟨fun _ => .inl hzero, fun _ => ?_⟩
    rw [planarWrite_of_eq hzero]
    exact
      { selected := fun p hp => by rw [hzero] at hp; simp [Word.has] at hp
        others := fun _ _ _ _ => rfl
        completed := List.forall_mem_nil _ }
  · constructor
    · intro hwrites
      obtain ⟨q, hq⟩ := exists_plane hzero
      have hoffset := (hwrites.selected q hq).1
      refine .inr ⟨hoffset, (planarWrite_defined hzero).mp fun a ha => (hwrites.completed a ha).2,
        fun hmode p hp => ?_⟩
      have hbits := (hwrites.selected p hp).2
      rw [planarWrite_selected hp] at hbits
      exact newVal_iff.mp hbits hmode
    · intro hharmless
      obtain ⟨hoffset, hdivisor, hrotation⟩ := hharmless.resolve_left hzero
      exact
        { selected := fun p hp => by
            refine ⟨hoffset, ?_⟩
            rw [planarWrite_selected hp]
            exact newVal_iff.mpr fun hmode => hrotation hmode p hp
          others := fun p o ho hother => by
            refine planarWrite_memory_of_ne fun q hq heq => hother ?_
            rw [planeIndex_eq] at heq
            have hpq : q = p := Fin.ext (by omega)
            rw [hpq] at hq heq
            exact ⟨hq, by omega⟩
          completed := fun a ha =>
            ⟨planarWrite_inBounds hoffset hzero a ha,
              (planarWrite_defined hzero).mpr hdivisor a ha⟩ }

/-- A mode with all planes selected, in which a write takes its source from set/reset. -/
private def setResetState (dataRotate : BitVec 3) : VgaCore :=
  { VgaCore.initialState with
    graphicsCtrl :=
      { VgaCore.initialState.graphicsCtrl with
        memoryMapping := 1, graphicsAlpha := true, writeMode := 3, bitmask := 0xff
        setReset := 0x0f, dataRotate := dataRotate }
    sequencer := { VgaCore.initialState.sequencer with mapMask := 0x0f } }

private lemma setResetState_takesPlanes (dataRotate : BitVec 3) :
    (setResetState dataRotate).TakesPlanes 0xa0010 0x10 where
  decoded := rfl
  notCga := fun h => absurd (show (1 : BitVec 2) = 3 from h.2) (by decide)
  notChained := fun h => Bool.false_ne_true h.2

/-- Mode 3 without a rotation. -/
theorem planar_writes_defined_unrotated :
    WritesPlanes 0x10 0x35 (setResetState 0)
      ((setResetState 0).mmioWrite 0xa0010 (BitVec.setWidth 32 (0x35 : BitVec 8))) :=
  (planar_writes_defined_iff (setResetState_takesPlanes 0)).mpr
    (.inr ⟨by decide, by decide, fun _ p _ => by revert p; decide +kernel⟩)

/-- With a rotation by 1 the byte 1 should set bit 7 of the planes, and sets none. -/
theorem planar_write_rotation_ignored :
    ¬ ∀ (s : VgaCore) (address : BitVec 64) (offset : BitVec 32) (data : BitVec 8),
      s.TakesPlanes address offset →
        WritesPlanes offset data s (s.mmioWrite address (data.setWidth 32)) := by
  intro h
  have hwrites := h _ _ _ 1 (setResetState_takesPlanes 1)
  have hbit := (hwrites.selected 0 (by decide)).2 7 (by decide)
  revert hbit
  decide +kernel

end Svmm
