import Svmm.Construction.Vga.Memory

/-!
# The planes of the VGA

What the stores of a write to the planes leave in the memory (`planarWrite_selected` and
`planarWrite_memory_of_ne`) and what they access (`planarWrite_accesses`).  The tiles that are
marked after it are no part of the memory, and no write changes a register (`SameRegisters`).
-/

namespace Svmm

variable {s : VgaCore} {address : BitVec 64} {offset : BitVec 32} {p : Fin 4}

/-- The byte of a plane. -/
lemma planeIndex_eq (p : Fin 4) (offset : BitVec 32) :
    planeIndex p offset = p.val * 0x10000 + offset.toNat := by
  rw [planeIndex, Nat.shiftLeft_eq]

/-- The bytes of different planes are different. -/
lemma planeIndex_inj {p q : Fin 4} (h : planeIndex p offset = planeIndex q offset) : p = q := by
  rw [planeIndex_eq, planeIndex_eq] at h
  exact Fin.ext (by omega)

/-- A tile that is marked leaves the memory. -/
@[simp] lemma setTileUpdated_memory (x y : ℕ) (v : Bool) :
    (s.setTileUpdated x y v).memory = s.memory := by
  unfold VgaCore.setTileUpdated
  split <;> rfl

lemma markCga_memory : (s.markCga offset).memory = s.memory := by
  have hif : ∀ (c : Prop) [Decidable c] (t u : VgaCore), t.memory = s.memory →
      u.memory = s.memory → (if c then t else u).memory = s.memory := by
    intro c _ t u ht hu
    split
    · exact ht
    · exact hu
  unfold VgaCore.markCga
  exact hif _ _ _ (by simp only [setTileUpdated_memory]) (by simp only [setTileUpdated_memory])

lemma markChained_memory : (s.markChained offset).memory = s.memory :=
  setTileUpdated_memory ..

lemma markPlanar_memory : (s.markPlanar offset).1.memory = s.memory := by
  unfold VgaCore.markPlanar
  split
  · exact setTileUpdated_memory ..
  · unfold VgaCore.markUpper VgaCore.markLower VgaCore.markByte
    grind [setTileUpdated_memory]

/-- The store of a plane, where the map mask selects it. -/
def storePlane (offset : BitVec 32) (value : Fin 4 → BitVec 8) (s : VgaCore) (p : Fin 4) :
    VgaCore :=
  if Word.has s.sequencer.mapMask p then s.store (planeIndex p offset) (value p) else s

lemma storePlanes_eq (value : Fin 4 → BitVec 8) :
    s.storePlanes offset value = (List.finRange 4).foldl (storePlane offset value) s := rfl

lemma storePlane_sequencer (value : Fin 4 → BitVec 8) (p : Fin 4) :
    (storePlane offset value s p).sequencer = s.sequencer := by
  unfold storePlane
  split <;> rfl

lemma storePlane_memory_of_ne {value : Fin 4 → BitVec 8} {m : ℕ}
    (h : Word.has s.sequencer.mapMask p = true → planeIndex p offset ≠ m) :
    (storePlane offset value s p).memory m = s.memory m := by
  unfold storePlane
  split
  · exact Function.update_of_ne (h ‹_›).symm ..
  · rfl

/-- What is not stored is not changed. -/
lemma foldl_storePlane_memory_of_ne {value : Fin 4 → BitVec 8} {m : ℕ} (planes : List (Fin 4)) :
    ∀ s : VgaCore, (∀ p ∈ planes, Word.has s.sequencer.mapMask p = true → planeIndex p offset ≠ m) →
      (planes.foldl (storePlane offset value) s).memory m = s.memory m := by
  induction planes with
  | nil => exact fun _ _ => rfl
  | cons q planes ih =>
      intro s h
      rw [List.foldl_cons, ih _ fun p hp => ?_]
      · exact storePlane_memory_of_ne (h q (List.mem_cons_self ..))
      · rw [storePlane_sequencer]
        exact h p (List.mem_cons_of_mem q hp)

/-- A plane of the map mask takes its byte. -/
lemma foldl_storePlane_memory {value : Fin 4 → BitVec 8} (planes : List (Fin 4)) :
    ∀ s : VgaCore, Word.has s.sequencer.mapMask p = true → p ∈ planes →
      (planes.foldl (storePlane offset value) s).memory (planeIndex p offset) = value p := by
  induction planes with
  | nil => exact fun _ _ h => absurd h (List.not_mem_nil)
  | cons q planes ih =>
      intro s hmask hmem
      rw [List.foldl_cons]
      by_cases htail : p ∈ planes
      · exact ih _ (by rw [storePlane_sequencer]; exact hmask) htail
      · have hp : p = q := (List.mem_cons.mp hmem).resolve_right htail
        subst hp
        have hother : ∀ r ∈ planes, planeIndex r offset ≠ planeIndex p offset := by
          intro r hr heq
          rw [planeIndex_inj heq] at hr
          exact htail hr
        rw [foldl_storePlane_memory_of_ne planes _ fun r hr _ => hother r hr,
          storePlane, if_pos hmask]
        exact Function.update_self ..

lemma storePlanes_memory {value : Fin 4 → BitVec 8}
    (hmask : Word.has s.sequencer.mapMask p = true) :
    (s.storePlanes offset value).memory (planeIndex p offset) = value p :=
  foldl_storePlane_memory _ s hmask (List.mem_finRange p)

lemma storePlanes_memory_of_ne {value : Fin 4 → BitVec 8} {m : ℕ}
    (h : ∀ p : Fin 4, Word.has s.sequencer.mapMask p = true → planeIndex p offset ≠ m) :
    (s.storePlanes offset value).memory m = s.memory m :=
  foldl_storePlane_memory_of_ne _ s fun p _ => h p

/-- What no store changes, the stores of the planes do not change. -/
lemma storePlanes_keeps {α : Type} (f : VgaCore → α)
    (hf : ∀ (s : VgaCore) (m : ℕ) (b : BitVec 8), f (s.store m b) = f s)
    {value : Fin 4 → BitVec 8} : f (s.storePlanes offset value) = f s := by
  rw [storePlanes_eq]
  generalize List.finRange 4 = planes
  induction planes generalizing s with
  | nil => rfl
  | cons p planes ih =>
      rw [List.foldl_cons, ih, storePlane]
      split
      · exact hf ..
      · rfl

/-! ## What a write leaves -/

/-- Only the memory and the tiles differ. -/
def VgaCore.SameRegisters (s t : VgaCore) : Prop :=
  ∃ (memory : ℕ → BitVec 8) (tiles : ℕ → ℕ → Bool) (updated : Bool),
    t = { s with memory := memory, tileUpdated := tiles, vgaMemUpdated := updated }

namespace VgaCore.SameRegisters

lemma refl (s : VgaCore) : SameRegisters s s := ⟨s.memory, s.tileUpdated, s.vgaMemUpdated, rfl⟩

lemma trans {s t u : VgaCore} (h : SameRegisters s t) (h' : SameRegisters t u) :
    SameRegisters s u := by
  obtain ⟨m, k, b, rfl⟩ := h
  obtain ⟨m', k', b', rfl⟩ := h'
  exact ⟨m', k', b', rfl⟩

lemma sequencer {t : VgaCore} (h : SameRegisters s t) : t.sequencer = s.sequencer := by
  obtain ⟨m, k, b, rfl⟩ := h
  rfl

lemma graphicsCtrl {t : VgaCore} (h : SameRegisters s t) : t.graphicsCtrl = s.graphicsCtrl := by
  obtain ⟨m, k, b, rfl⟩ := h
  rfl

lemma lineOffset {t : VgaCore} (h : SameRegisters s t) : t.lineOffset = s.lineOffset := by
  obtain ⟨m, k, b, rfl⟩ := h
  rfl

lemma writeOffset {t : VgaCore} (h : SameRegisters s t) :
    t.writeOffset address = s.writeOffset address := by
  obtain ⟨m, k, b, rfl⟩ := h
  rfl

lemma store (m : ℕ) (b : BitVec 8) : SameRegisters s (s.store m b) :=
  ⟨_, s.tileUpdated, s.vgaMemUpdated, rfl⟩

lemma memUpdated (b : Bool) : SameRegisters s { s with vgaMemUpdated := b } :=
  ⟨s.memory, s.tileUpdated, b, rfl⟩

lemma setTileUpdated (x y : ℕ) (v : Bool) : SameRegisters s (s.setTileUpdated x y v) := by
  unfold VgaCore.setTileUpdated
  split
  · exact ⟨s.memory, _, s.vgaMemUpdated, rfl⟩
  · exact refl s

lemma ite {t u : VgaCore} {c : Prop} [Decidable c] (ht : SameRegisters s t)
    (hu : SameRegisters s u) : SameRegisters s (if c then t else u) := by
  split
  · exact ht
  · exact hu

lemma markCga : SameRegisters s (s.markCga offset) := by
  have hfirst : ∀ x y : ℕ,
      SameRegisters s (({ s with vgaMemUpdated := true }).setTileUpdated x y true) := fun _ _ =>
    (memUpdated true).trans (setTileUpdated ..)
  unfold VgaCore.markCga
  exact ite ((hfirst ..).trans (setTileUpdated ..)) (hfirst ..)

lemma markChained : SameRegisters s (s.markChained offset) :=
  (memUpdated true).trans (setTileUpdated ..)

lemma markPlanar : SameRegisters s (s.markPlanar offset).1 := by
  have hlower : SameRegisters s (s.markLower offset) := by
    unfold VgaCore.markLower
    split
    · exact setTileUpdated ..
    · exact refl s
  have hupper : ∀ s : VgaCore, SameRegisters s (s.markUpper offset) := by
    intro s
    unfold VgaCore.markUpper
    split
    · exact setTileUpdated ..
    · exact refl s
  unfold VgaCore.markPlanar
  split
  · exact setTileUpdated ..
  · exact hlower.trans (hupper _)

lemma storePlanes {value : Fin 4 → BitVec 8} : SameRegisters s (s.storePlanes offset value) := by
  rw [storePlanes_eq]
  have hplane : ∀ (s : VgaCore) (p : Fin 4), SameRegisters s (storePlane offset value s p) := by
    intro s p
    unfold storePlane
    split
    · exact store ..
    · exact refl s
  generalize List.finRange 4 = planes
  induction planes generalizing s with
  | nil => exact refl s
  | cons p planes ih => exact (hplane s p).trans ih

lemma planarWrite {value : BitVec 32} : SameRegisters s (s.planarWrite offset value).1 := by
  unfold VgaCore.planarWrite
  split
  · exact (memUpdated true).trans (storePlanes.trans markPlanar)
  · exact refl s

lemma mmioWrite {value : BitVec 32} :
    SameRegisters s (s.mmioWrite address value).1 := by
  unfold VgaCore.mmioWrite
  split
  · exact refl s
  · split
    · exact (store ..).trans markCga
    · split
      · simp only
        split
        · exact (store ..).trans markChained
        · exact store ..
      · exact planarWrite

end VgaCore.SameRegisters

/-! ## A write to the planes -/

/-- A write with no plane selected does nothing. -/
lemma planarWrite_of_eq {value : BitVec 32} (h : s.sequencer.mapMask = 0) :
    s.planarWrite offset value = (s, []) := by
  rw [VgaCore.planarWrite, if_neg (not_not.mpr h)]

/-- The planes that take their bytes, before the tiles are marked. -/
lemma planarWrite_of_ne {value : BitVec 32} (h : s.sequencer.mapMask ≠ 0) :
    s.planarWrite offset value =
      let t := ({ s with vgaMemUpdated := true }).storePlanes offset fun p =>
        s.graphicsCtrl.newVal value p
      ((t.markPlanar offset).1, (s.selectedPlanes.map fun p => .memory (planeIndex p offset) 1) ++
        (t.markPlanar offset).2) := by
  rw [VgaCore.planarWrite, if_pos h]

lemma planarWrite_selected {value : BitVec 32} (hmask : Word.has s.sequencer.mapMask p = true) :
    (s.planarWrite offset value).1.memory (planeIndex p offset) =
      s.graphicsCtrl.newVal value p := by
  have hne : s.sequencer.mapMask ≠ 0 := by
    intro h
    rw [h] at hmask
    simp [Word.has] at hmask
  rw [planarWrite_of_ne hne]
  simp only [markPlanar_memory]
  exact storePlanes_memory (s := { s with vgaMemUpdated := true }) hmask

lemma planarWrite_memory_of_ne {value : BitVec 32} {m : ℕ}
    (h : ∀ p : Fin 4, Word.has s.sequencer.mapMask p = true → planeIndex p offset ≠ m) :
    (s.planarWrite offset value).1.memory m = s.memory m := by
  by_cases hzero : s.sequencer.mapMask = 0
  · rw [planarWrite_of_eq hzero]
  · rw [planarWrite_of_ne hzero]
    simp only [markPlanar_memory]
    exact storePlanes_memory_of_ne (s := { s with vgaMemUpdated := true }) h

/-- What the tiles are looked for by. -/
lemma markPlanar_defined :
    (∀ a ∈ (s.markPlanar offset).2, a.Defined) ↔
      (s.graphicsCtrl.shiftReg = 2 → s.lineOffset ≠ 0) := by
  unfold VgaCore.markPlanar
  by_cases hshift : s.graphicsCtrl.shiftReg = 2
  · rw [if_pos hshift]
    simp only [List.mem_singleton, forall_eq, VgaAccess.Defined]
    exact ⟨fun h _ hzero => h (by rw [hzero]; rfl),
      fun h hzero => h hshift (BitVec.eq_of_toNat_eq hzero)⟩
  · rw [if_neg hshift]
    refine ⟨fun _ h => absurd h hshift, fun _ a ha => ?_⟩
    by_cases hline : 0 < s.lineOffset
    · rw [if_pos hline, List.mem_singleton] at ha
      rw [ha]
      exact fun h => absurd (BitVec.lt_def.mp hline) (by simp [h])
    · rw [if_neg hline] at ha
      exact absurd ha List.not_mem_nil

lemma markPlanar_inBounds : ∀ a ∈ (s.markPlanar offset).2, a.InBounds := by
  unfold VgaCore.markPlanar
  intro a ha
  split at ha
  · rw [List.mem_singleton] at ha
    rw [ha]
    trivial
  · split at ha
    · rw [List.mem_singleton] at ha
      rw [ha]
      trivial
    · exact absurd ha List.not_mem_nil

lemma markPlanar_accesses {t : VgaCore} (h : s.SameRegisters t) :
    (t.markPlanar offset).2 = (s.markPlanar offset).2 := by
  obtain ⟨m, k, b, rfl⟩ := h
  unfold VgaCore.markPlanar
  split <;> rfl

/-- The accesses of a write to the planes, with what it marks. -/
lemma planarWrite_accesses {value : BitVec 32} (hne : s.sequencer.mapMask ≠ 0) :
    (s.planarWrite offset value).2 =
      (s.selectedPlanes.map fun p => .memory (planeIndex p offset) 1) ++
        (s.markPlanar offset).2 := by
  rw [planarWrite_of_ne hne]
  simp only [List.append_cancel_left_eq]
  exact markPlanar_accesses ((VgaCore.SameRegisters.memUpdated true).trans
    VgaCore.SameRegisters.storePlanes)

lemma mem_selectedPlanes : p ∈ s.selectedPlanes ↔ Word.has s.sequencer.mapMask p = true := by
  simp [VgaCore.selectedPlanes]

/-- What a write to the planes divides by. -/
lemma planarWrite_defined {value : BitVec 32} (hne : s.sequencer.mapMask ≠ 0) :
    (∀ a ∈ (s.planarWrite offset value).2, a.Defined) ↔
      (s.graphicsCtrl.shiftReg = 2 → s.lineOffset ≠ 0) := by
  rw [planarWrite_accesses hne, List.forall_mem_append]
  refine Iff.trans ⟨fun h => h.2, fun h => ⟨?_, h⟩⟩ markPlanar_defined
  intro a ha
  obtain ⟨p, -, rfl⟩ := List.mem_map.mp ha
  trivial

/-- A write within the planes is in bounds. -/
lemma planarWrite_inBounds {value : BitVec 32} (hoffset : offset.toNat < 0x10000)
    (hne : s.sequencer.mapMask ≠ 0) :
    ∀ a ∈ (s.planarWrite offset value).2, a.InBounds := by
  rw [planarWrite_accesses hne, List.forall_mem_append]
  refine ⟨fun a ha => ?_, markPlanar_inBounds⟩
  obtain ⟨p, -, rfl⟩ := List.mem_map.mp ha
  have hp := p.isLt
  show planeIndex p offset + 1 ≤ vgaMemsize
  rw [planeIndex_eq, vgaMemsize]
  omega

/-- A map mask that is not 0 has a plane. -/
lemma exists_plane (h : s.sequencer.mapMask ≠ 0) :
    ∃ p : Fin 4, Word.has s.sequencer.mapMask p = true := by
  revert h
  generalize s.sequencer.mapMask = m
  revert m
  decide

/-! ## The paths of a write -/

/-- A mode of the CGA. -/
def VgaCore.IsCga (s : VgaCore) : Prop :=
  s.graphicsCtrl.graphicsAlpha = true ∧ s.graphicsCtrl.memoryMapping = 3

/-- A mode in which a write is chained. -/
def VgaCore.IsChained (s : VgaCore) : Prop :=
  s.graphicsCtrl.graphicsAlpha = true ∧ s.sequencer.chainFour = true

/-- A write that goes through the write modes. -/
structure VgaCore.TakesPlanes (s : VgaCore) (address : BitVec 64) (offset : BitVec 32) : Prop where
  decoded : s.writeOffset address = some offset
  notCga : ¬ (s.graphicsCtrl.graphicsAlpha = true ∧ s.graphicsCtrl.memoryMapping = 3)
  notChained : ¬ (s.graphicsCtrl.graphicsAlpha = true ∧ s.sequencer.chainFour = true)

/-- A byte outside the mapping is not written. -/
lemma mmioWrite_none {value : BitVec 32} (h : s.writeOffset address = none) :
    s.mmioWrite address value = (s, []) := by
  rw [VgaCore.mmioWrite, h]

lemma mmioWrite_cga {value : BitVec 32} (hoffset : s.writeOffset address = some offset)
    (hcga : s.IsCga) :
    s.mmioWrite address value =
      ((s.store offset.toNat (value.setWidth 8)).markCga offset, [.memory offset.toNat 1]) := by
  unfold VgaCore.mmioWrite
  rw [hoffset]
  exact if_pos hcga

lemma mmioWrite_chained {value : BitVec 32} (hoffset : s.writeOffset address = some offset)
    (hcga : ¬ s.IsCga) (hchained : s.IsChained) :
    s.mmioWrite address value =
      (if 0 < s.lineOffset then
        ((s.store (chainedIndex offset) (value.setWidth 8)).markChained offset,
          [.memory (chainedIndex offset) 1, .divisor s.lineOffset.toNat])
      else (s.store (chainedIndex offset) (value.setWidth 8),
        [.memory (chainedIndex offset) 1])) := by
  unfold VgaCore.mmioWrite
  rw [hoffset]
  exact (if_neg hcga).trans (if_pos hchained)

lemma mmioWrite_planar {value : BitVec 32} (h : s.TakesPlanes address offset) :
    s.mmioWrite address value = s.planarWrite offset value := by
  unfold VgaCore.mmioWrite
  rw [h.decoded]
  simp only [if_neg h.notCga, if_neg h.notChained]

/-- A property of what a byte that is written accesses, by its path. -/
lemma forall_mmioWrite {value : BitVec 32} {P : VgaAccess → Prop}
    (hoffset : s.writeOffset address = some offset) :
    (∀ a ∈ (s.mmioWrite address value).2, P a) ↔
      (s.IsCga → P (.memory offset.toNat 1)) ∧
        (¬ s.IsCga → s.IsChained → P (.memory (chainedIndex offset) 1) ∧
          (0 < s.lineOffset → P (.divisor s.lineOffset.toNat))) ∧
        (¬ s.IsCga → ¬ s.IsChained → ∀ a ∈ (s.planarWrite offset value).2, P a) := by
  by_cases hcga : s.IsCga
  · rw [mmioWrite_cga hoffset hcga, List.forall_mem_singleton]
    exact ⟨fun h => ⟨fun _ => h, fun hc => absurd hcga hc, fun hc => absurd hcga hc⟩,
      fun h => h.1 hcga⟩
  · rw [and_iff_right fun hc => absurd hc hcga]
    by_cases hchained : s.IsChained
    · have haccesses : (∀ a ∈ (s.mmioWrite address value).2, P a) ↔
          P (.memory (chainedIndex offset) 1) ∧
            (0 < s.lineOffset → P (.divisor s.lineOffset.toNat)) := by
        rw [mmioWrite_chained hoffset hcga hchained]
        split
        · rename_i hline
          rw [List.forall_mem_cons, List.forall_mem_singleton]
          exact and_congr_right fun _ => (imp_iff_right hline).symm
        · rename_i hline
          rw [List.forall_mem_singleton]
          exact (and_iff_left fun hc => absurd hc hline).symm
      rw [haccesses]
      exact ⟨fun h => ⟨fun _ _ => h, fun _ hc => absurd hchained hc⟩, fun h => h.1 hcga hchained⟩
    · rw [mmioWrite_planar ⟨hoffset, hcga, hchained⟩]
      exact ⟨fun h => ⟨fun _ hc => absurd hc hchained, fun _ _ => h⟩, fun h => h.2 hcga hchained⟩

end Svmm
