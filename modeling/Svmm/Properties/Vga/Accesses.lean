import Svmm.Construction.Vga.Step
import Svmm.Properties.Vga.Planes
import Mathlib.Data.List.Nodup

/-!
# What the VGA accesses

What a byte written or read accesses depends on the registers alone, so that a property of the
accesses of a handler is one of the bytes by themselves; a property of those of a painting is one of
the tiles that were due.
-/

namespace Svmm

variable {s t : VgaCore} {P : VgaAccess → Prop}

namespace VgaCore

/-! ## The handlers of the memory -/

/-- What a byte written accesses. -/
def writeAccesses (address : BitVec 64) (s : VgaCore) : List VgaAccess := (s.mmioWrite address 0).2

/-- What a byte read accesses. -/
def readAccesses (address : BitVec 64) (s : VgaCore) : List VgaAccess := (s.mmioRead address).2.2

lemma planarWrite_writeAccesses {offset value : BitVec 32} (h : SameRegisters s t) :
    (t.planarWrite offset value).2 = (s.planarWrite offset 0).2 := by
  have hsequencer := h.sequencer
  by_cases hmask : s.sequencer.mapMask = 0
  · rw [planarWrite_of_eq hmask, planarWrite_of_eq (by rw [hsequencer]; exact hmask)]
  · rw [planarWrite_accesses hmask, planarWrite_accesses (by rw [hsequencer]; exact hmask),
      markPlanar_accesses h, selectedPlanes, hsequencer]
    rfl

/-- Neither the byte nor what was written before it matters. -/
lemma mmioWrite_writeAccesses {address : BitVec 64} {value : BitVec 32} (h : SameRegisters s t) :
    (t.mmioWrite address value).2 = s.writeAccesses address := by
  have hsequencer := h.sequencer
  have hgraphics := h.graphicsCtrl
  unfold writeAccesses
  cases hoffset : s.writeOffset address with
  | none =>
      rw [mmioWrite_none hoffset, mmioWrite_none (h.writeOffset.trans hoffset)]
  | some offset =>
      have hoffset' := h.writeOffset.trans hoffset
      have hcga' : t.IsCga ↔ s.IsCga := by rw [IsCga, IsCga, hgraphics]
      have hchained' : t.IsChained ↔ s.IsChained := by
        rw [IsChained, IsChained, hgraphics, hsequencer]
      by_cases hcga : s.IsCga
      · rw [mmioWrite_cga hoffset hcga, mmioWrite_cga hoffset' (hcga'.mpr hcga)]
      · have hncga := fun hc => hcga (hcga'.mp hc)
        by_cases hchained : s.IsChained
        · rw [mmioWrite_chained hoffset hcga hchained,
            mmioWrite_chained hoffset' hncga (hchained'.mpr hchained), h.lineOffset]
          split <;> rfl
        · rw [mmioWrite_planar ⟨hoffset, hcga, hchained⟩,
            mmioWrite_planar ⟨hoffset', hncga, fun hc => hchained (hchained'.mp hc)⟩]
          exact planarWrite_writeAccesses h

/-- The bytes of a handler, one after the other. -/
lemma forall_bytes {Q : BitVec 32 → Prop} {address : BitVec 32} {n : ℕ} :
    (∀ i < n + 1, Q (address + BitVec.ofNat 32 i)) ↔
      Q address ∧ ∀ i < n, Q (address + 1 + BitVec.ofNat 32 i) := by
  have hnext : ∀ i : ℕ, address + BitVec.ofNat 32 (i + 1) = address + 1 + BitVec.ofNat 32 i := by
    intro i
    rw [BitVec.ofNat_add, BitVec.add_assoc, BitVec.add_comm (BitVec.ofNat 32 i)]
    rfl
  rw [Nat.forall_lt_succ_left]
  simp only [hnext]
  exact and_congr_left fun _ => by rw [BitVec.add_zero]

/-- A property of what is accessed for some bytes that are written. -/
lemma forall_mmioWriteHandler (data : List (BitVec 8)) (address : BitVec 32)
    (h : SameRegisters s t) :
    (∀ a ∈ (t.mmioWriteHandler address data).2, P a) ↔
      ∀ i < data.length,
        ∀ a ∈ s.writeAccesses ((address + BitVec.ofNat 32 i).setWidth 64), P a := by
  induction data generalizing t address with
  | nil => simp [mmioWriteHandler]
  | cons byte bytes ih =>
      rw [mmioWriteHandler, List.length_cons,
        forall_bytes (Q := fun b => ∀ a ∈ s.writeAccesses (b.setWidth 64), P a)]
      simp only [List.forall_mem_append]
      rw [mmioWrite_writeAccesses h, ih _ (h.trans SameRegisters.mmioWrite)]

/-- A read changes the latches. -/
lemma mmioRead_latches (address : BitVec 64) (s : VgaCore) :
    ∃ latch, (s.mmioRead address).2.1 =
      { s with graphicsCtrl := { s.graphicsCtrl with latch := latch } } := by
  unfold mmioRead
  split
  · exact ⟨s.graphicsCtrl.latch, rfl⟩
  · split
    · exact ⟨s.graphicsCtrl.latch, rfl⟩
    · exact ⟨_, rfl⟩

/-- The latches do not matter for what is accessed. -/
lemma readAccesses_latches {address : BitVec 64} {latch : Fin 4 → BitVec 8} :
    readAccesses address { s with graphicsCtrl := { s.graphicsCtrl with latch := latch } } =
      s.readAccesses address := by
  have hoffset : readOffset address
      { s with graphicsCtrl := { s.graphicsCtrl with latch := latch } } =
        s.readOffset address := rfl
  unfold readAccesses mmioRead
  rw [hoffset]
  cases s.readOffset address with
  | none => rfl
  | some offset =>
      simp only
      split <;> rfl

/-- A property of what is accessed for some bytes that are read. -/
lemma forall_mmioReadHandler {length : ℕ} {address : BitVec 32} :
    (∀ a ∈ (s.mmioReadHandler address length).2.2, P a) ↔
      ∀ i < length, ∀ a ∈ s.readAccesses ((address + BitVec.ofNat 32 i).setWidth 64), P a := by
  induction length generalizing s address with
  | zero => simp [mmioReadHandler]
  | succ length ih =>
      obtain ⟨latch, hlatch⟩ := mmioRead_latches (address.setWidth 64) s
      rw [mmioReadHandler,
        forall_bytes (Q := fun b => ∀ a ∈ s.readAccesses (b.setWidth 64), P a)]
      simp only [List.forall_mem_append]
      rw [ih, hlatch]
      simp only [readAccesses_latches]
      rfl

/-- A read divides by nothing. -/
lemma readAccesses_defined {address : BitVec 64} : ∀ a ∈ s.readAccesses address, a.Defined := by
  unfold readAccesses mmioRead
  split
  · exact List.forall_mem_nil _
  · split
    · exact List.forall_mem_singleton.mpr trivial
    · intro a ha
      obtain ⟨p, -, rfl⟩ := List.mem_map.mp ha
      trivial

/-! ## The ports -/

/-- A port written reads a set of characters at most, which is inside the memory. -/
lemma applyChanges_accesses (changes : VgaChanges) :
    ∀ a ∈ (s.applyChanges changes).2, a.InBounds ∧ a.Defined := by
  unfold applyChanges
  simp only
  split
  · rw [List.forall_mem_singleton]
    have hlt := s.charmapAddress.isLt
    exact ⟨show 0x20000 + s.charmapAddress.toNat + 0x2000 ≤ vgaMemsize by rw [vgaMemsize]; omega,
      trivial⟩
  · exact List.forall_mem_nil _

lemma portIoWriteHandler_accesses (address : BitVec 64) (value length : BitVec 32) :
    ∀ a ∈ (s.portIoWriteHandler address value length).2, a.InBounds ∧ a.Defined := by
  have hcore : ∀ (s : VgaCore) (address : BitVec 64) (value : BitVec 32),
      ∀ a ∈ (s.coreWriteByte address value).2, a.InBounds ∧ a.Defined := by
    intro s address value
    unfold coreWriteByte
    split
    · exact List.forall_mem_nil _
    · exact applyChanges_accesses _
  have hbyte : ∀ (s : VgaCore) (address : BitVec 64) (value : BitVec 32),
      ∀ a ∈ (s.portWriteByte address value).2, a.InBounds ∧ a.Defined := by
    intro s address value
    unfold portWriteByte
    split_ifs
    all_goals first
      | exact hcore s address value
      | exact List.forall_mem_nil _
  unfold portIoWriteHandler
  split
  · exact List.forall_mem_append.mpr ⟨hbyte _ _ _, hbyte _ _ _⟩
  · exact hbyte _ _ _

/-! ## Painting -/

/-- A tile divides by nothing. -/
lemma tileAccesses_defined (tile : ℕ × ℕ) : ∀ a ∈ s.tileAccesses tile, a.Defined := by
  intro a ha
  obtain ⟨r, -, hr⟩ := List.mem_flatMap.mp ha
  obtain ⟨c, -, hc⟩ := List.mem_flatMap.mp hr
  obtain ⟨place, -, rfl⟩ := List.mem_map.mp hc
  trivial

lemma getTileUpdated_setTileUpdated {x y x' y' : ℕ} {v : Bool} (h : (x', y') ≠ (x, y)) :
    (s.setTileUpdated x y v).getTileUpdated x' y' = s.getTileUpdated x' y' := by
  have hne : ¬ (x' = x ∧ y' = y) := fun heq => h (by rw [heq.1, heq.2])
  unfold setTileUpdated
  split
  · unfold getTileUpdated
    simp only [if_neg hne]
  · rfl

/-- A property of what is accessed for a painting. -/
lemma forall_paintTiles {all : Bool} {use : ℕ × ℕ → List VgaAccess} {tiles : List (ℕ × ℕ)}
    (hnodup : tiles.Nodup) :
    (∀ a ∈ (s.paintTiles all use tiles).2, P a) ↔
      ∀ tile ∈ tiles, (all || s.getTileUpdated tile.2 tile.1) = true → ∀ a ∈ use tile, P a := by
  induction tiles generalizing s with
  | nil => simp [paintTiles]
  | cons tile tiles ih =>
      obtain ⟨hnot, hnodup⟩ := List.nodup_cons.mp hnodup
      have hothers : ∀ tile' ∈ tiles,
          (s.setTileUpdated tile.2 tile.1 false).getTileUpdated tile'.2 tile'.1 =
            s.getTileUpdated tile'.2 tile'.1 := by
        intro tile' hmem
        refine getTileUpdated_setTileUpdated fun heq => hnot ?_
        have hfst := congrArg Prod.fst heq
        have hsnd := congrArg Prod.snd heq
        rwa [Prod.ext hsnd hfst] at hmem
      rw [paintTiles, List.forall_mem_cons]
      by_cases hdue : (all || s.getTileUpdated tile.2 tile.1) = true
      · rw [if_pos hdue]
        simp only [List.forall_mem_append, ih hnodup]
        refine and_congr ⟨fun h _ => h, fun h => h hdue⟩ (forall₂_congr fun tile' hmem => ?_)
        rw [hothers tile' hmem]
      · rw [if_neg hdue, ih hnodup]
        exact ⟨fun h => ⟨fun hc => absurd hc hdue, h⟩, fun h => h.2⟩

lemma screenTiles_nodup : s.screenTiles.Nodup :=
  List.Nodup.product List.nodup_range List.nodup_range

/-- Painting a tile leaves the registers and the memory. -/
lemma SameRegisters.paintTiles {all : Bool} {use : ℕ × ℕ → List VgaAccess} (tiles : List (ℕ × ℕ)) :
    ∀ s : VgaCore, SameRegisters s (s.paintTiles all use tiles).1 := by
  induction tiles with
  | nil => exact fun s => SameRegisters.refl s
  | cons tile tiles ih =>
      intro s
      rw [VgaCore.paintTiles]
      split
      · exact (SameRegisters.setTileUpdated ..).trans (ih _)
      · exact ih s

/-- What the flags of a port's write ask for leaves the registers. -/
lemma SameRegisters.applyChanges (changes : VgaChanges) :
    SameRegisters s (s.applyChanges changes).1 := by
  have hredraw : ∀ s : VgaCore, SameRegisters s s.vgaRedrawArea := by
    intro s
    unfold VgaCore.vgaRedrawArea VgaCore.redrawArea
    refine ite (refl s) (ite ?_ (memUpdated true))
    exact ⟨s.memory, _, true, rfl⟩
  unfold VgaCore.applyChanges
  have hcharmap := ite (c := changes.charmapUpdate) (memUpdated (s := s) true) (refl s)
  exact ite (hcharmap.trans (hredraw _)) hcharmap

end VgaCore

/-! ## The rows of a text -/

/-- A property of what is accessed for any number of rows. -/
lemma TextScreen.forall_textLoop {screen : TextScreen} {row : TextRow} :
    (∀ fuel, ∀ a ∈ (screen.textLoop fuel row).1, P a) ↔
      (∀ a ∈ screen.rowAccesses row, P a) ∧
        ((screen.nextRow row).rows ≠ 0 →
          ∀ fuel, ∀ a ∈ (screen.textLoop fuel (screen.nextRow row)).1, P a) := by
  constructor
  · intro h
    have hsucc := fun fuel => h (fuel + 1)
    simp only [textLoop] at hsucc
    by_cases hzero : (screen.nextRow row).rows = 0
    · simp only [if_pos hzero] at hsucc
      exact ⟨hsucc 0, fun hc => absurd hzero hc⟩
    · simp only [if_neg hzero, List.forall_mem_append] at hsucc
      exact ⟨(hsucc 0).1, fun _ fuel => (hsucc fuel).2⟩
  · rintro ⟨hrow, hnext⟩ fuel
    cases fuel with
    | zero => exact List.forall_mem_nil _
    | succ fuel =>
        rw [textLoop]
        simp only
        split
        · exact hrow
        · rename_i hzero
          exact List.forall_mem_append.mpr ⟨hrow, hnext hzero fuel⟩

end Svmm
