import Svmm.Properties.Vga.StalePixels
import Svmm.Properties.Vga.TextDraw
import Svmm.Properties.Vga.Views

/-!
# The accesses of the VGA are its accesses

The functions of the VGA give the accesses that they make, and this is what the lists say of the
functions: the memory of the VGA is changed only at the places that a list names (`effect_memory`),
and what is read, painted and drawn is the same with two memories that agree there
(`mmioReadHandler_congr`, `getVgaPixel_of_tile`, `drawText_congr`).  The snapshot of a text is
changed where it is copied and at the cursor (`drawText_snapshot`).
-/

namespace Svmm

variable {s : VgaCore} {t : VgaText} {m : ℕ → BitVec 8} {place : ℕ}
  {accesses accesses' : List VgaAccess}

/-- The accesses name a place of the memory. -/
def Named (accesses : List VgaAccess) (place : ℕ) : Prop :=
  ∃ index length, VgaAccess.memory index length ∈ accesses ∧ index ≤ place ∧
    place < index + length

/-- The memory `m` agrees with that of the VGA where the accesses name it. -/
def VgaCore.AgreesOn (accesses : List VgaAccess) (m : ℕ → BitVec 8) (s : VgaCore) : Prop :=
  ∀ place, Named accesses place → m place = s.memory place

/-- The VGA with another memory. -/
def VgaCore.withMemory (m : ℕ → BitVec 8) (s : VgaCore) : VgaCore := { s with memory := m }

lemma named_append : Named (accesses ++ accesses') place ↔
    Named accesses place ∨ Named accesses' place := by
  simp only [Named, List.mem_append, or_and_right, exists_or]

lemma named_of_mem (h : VgaAccess.memory place 1 ∈ accesses) : Named accesses place :=
  ⟨place, 1, h, le_refl place, Nat.lt_succ_self place⟩

namespace VgaCore

lemma AgreesOn.left (h : s.AgreesOn (accesses ++ accesses') m) : s.AgreesOn accesses m :=
  fun place hplace => h place (named_append.mpr (Or.inl hplace))

lemma AgreesOn.right (h : s.AgreesOn (accesses ++ accesses') m) : s.AgreesOn accesses' m :=
  fun place hplace => h place (named_append.mpr (Or.inr hplace))

/-! ## What is changed -/

/-- A byte that is written changes no place that is not named. -/
lemma mmioWrite_memory (address : BitVec 64) (value : BitVec 32)
    (h : ¬ Named (s.mmioWrite address value).2 place) :
    (s.mmioWrite address value).1.memory place = s.memory place := by
  cases hoffset : s.writeOffset address with
  | none => rw [mmioWrite_none hoffset]
  | some offset =>
      by_cases hcga : s.IsCga
      · rw [mmioWrite_cga hoffset hcga] at h ⊢
        have hne : place ≠ offset.toNat := by
          rintro rfl
          exact h (named_of_mem (List.mem_singleton_self _))
        exact (congrFun markCga_memory place).trans (Function.update_of_ne hne _ _)
      · by_cases hchained : s.IsChained
        · have hne : place ≠ chainedIndex offset := by
            rintro rfl
            rw [mmioWrite_chained hoffset hcga hchained] at h
            refine h (named_of_mem ?_)
            split <;> exact List.mem_cons_self
          rw [mmioWrite_chained hoffset hcga hchained]
          split
          · exact (congrFun markChained_memory place).trans (Function.update_of_ne hne _ _)
          · exact Function.update_of_ne hne _ _
        · rw [mmioWrite_planar ⟨hoffset, hcga, hchained⟩] at h ⊢
          refine planarWrite_memory_of_ne fun p hp hplace => h ?_
          have hmask : s.sequencer.mapMask ≠ 0 := by
            intro hzero
            rw [hzero] at hp
            simp [Word.has] at hp
          rw [planarWrite_accesses hmask]
          refine named_of_mem (List.mem_append_left _ (List.mem_map.mpr ⟨p, ?_, ?_⟩))
          · exact mem_selectedPlanes.mpr hp
          · rw [hplace]

lemma mmioWriteHandler_memory (data : List (BitVec 8)) (address : BitVec 32) :
    ∀ s : VgaCore, ¬ Named (s.mmioWriteHandler address data).2 place →
      (s.mmioWriteHandler address data).1.memory place = s.memory place := by
  induction data generalizing address with
  | nil => exact fun _ _ => rfl
  | cons byte bytes ih =>
      intro s h
      rw [mmioWriteHandler] at h ⊢
      obtain ⟨hfirst, hrest⟩ := not_or.mp (mt named_append.mpr h)
      exact (ih (address + 1) _ hrest).trans (mmioWrite_memory _ _ hfirst)

end VgaCore

/-! ## What changes nothing -/

namespace Keeps

lemma memory_vgaRedrawArea : Keeps VgaCore.memory s s.vgaRedrawArea := by
  unfold VgaCore.vgaRedrawArea VgaCore.redrawArea
  exact iteState (refl s) (iteState rfl rfl)

lemma memory_applyChanges (changes : VgaChanges) :
    Keeps VgaCore.memory s (s.applyChanges changes).1 := by
  unfold VgaCore.applyChanges
  have hcharmap : Keeps VgaCore.memory s
      (if changes.charmapUpdate then { s with vgaMemUpdated := true } else s) :=
    iteState rfl (refl s)
  exact iteState (hcharmap.trans memory_vgaRedrawArea) hcharmap

lemma memory_writePort (address : BitVec 64) (value : BitVec 32) :
    Keeps VgaCore.memory s (s.writePort address value).1 := by
  unfold VgaCore.writePort
  exact ite (writeAttribute (f := VgaCore.memory) (fun _ _ => rfl) value) <| ite rfl <| ite rfl <|
    ite rfl <| ite (writeSequencer (f := VgaCore.memory) (fun _ _ _ _ => rfl) value) <|
    ite (ite rfl rfl) <| ite rfl <| ite rfl <| ite rfl <| ite rfl <|
    ite (writeGraphics (f := VgaCore.memory) (fun _ _ _ => rfl) value) <| ite rfl <|
    ite (writeCrtc (f := VgaCore.memory) (fun _ _ _ _ _ _ _ => rfl) value) rfl

/-- A write to a port leaves the memory. -/
lemma memory_portIoWriteHandler (address : BitVec 64) (value length : BitVec 32) :
    Keeps VgaCore.memory s (s.portIoWriteHandler address value length).1 := by
  have hcore : ∀ (s : VgaCore) address value,
      Keeps VgaCore.memory s (s.coreWriteByte address value).1 := by
    intro s address value
    unfold VgaCore.coreWriteByte
    exact ite (refl s) ((memory_writePort _ _).trans (memory_applyChanges _))
  refine portIoWriteHandler (fun s address value => ?_) address value length
  unfold VgaCore.portWriteByte
  refine ite (refl s) (ite ?_ (hcore ..))
  split
  · exact ite (hcore ..) (refl s)
  · exact refl s

/-- So does a read of one. -/
lemma memory_portIoReadHandler (address : BitVec 64) (length : BitVec 32) :
    Keeps VgaCore.memory s (s.portIoReadHandler address length).2 := by
  have hbyte : ∀ (s : VgaCore) address, Keeps VgaCore.memory s (s.portReadByte address).2 := by
    intro s address
    have hpel : Keeps VgaCore.memory s s.readPelData.2 := by
      unfold VgaCore.readPelData
      exact iteRight rfl (refl s)
    unfold VgaCore.portReadByte
    exact iteRight rfl <| iteRight rfl <| iteRight rfl <| iteRight rfl <| iteRight rfl <|
      iteRight rfl <| iteRight rfl <| iteRight rfl <| iteRight rfl <| iteRight rfl <|
      iteRight hpel <| iteRight rfl <| iteRight rfl <| iteRight rfl <| iteRight rfl <|
      iteRight rfl rfl
  unfold VgaCore.portIoReadHandler
  exact iteRight ((hbyte ..).trans (hbyte ..)) (hbyte ..)

lemma memory_mmioReadHandler (length : ℕ) :
    ∀ (s : VgaCore) (address : BitVec 32),
      Keeps VgaCore.memory s (s.mmioReadHandler address length).2.1 := by
  induction length with
  | zero => exact fun s _ => refl s
  | succ length ih =>
      intro s address
      obtain ⟨latch, hlatch⟩ := VgaCore.mmioRead_latches (address.setWidth 64) s
      have hfirst : Keeps VgaCore.memory s (s.mmioRead (address.setWidth 64)).2.1 := by
        rw [hlatch]
        rfl
      exact hfirst.trans (ih _ (address + 1))

lemma memory_paintTiles {all : Bool} {use : ℕ × ℕ → List VgaAccess} (tiles : List (ℕ × ℕ)) :
    ∀ s : VgaCore, Keeps VgaCore.memory s (s.paintTiles all use tiles).1 := by
  induction tiles with
  | nil => exact fun s => refl s
  | cons tile tiles ih =>
      intro s
      rw [VgaCore.paintTiles]
      split
      · exact (show Keeps VgaCore.memory s _ from setTileUpdated_memory ..).trans (ih _)
      · exact ih s

/-- An update leaves the memory. -/
lemma memory_update (fuel : ℕ) : Keeps VgaCore.memory s (s.update fuel).1 := by
  have hgraphics : ∀ (s : VgaCore) csToggle,
      Keeps VgaCore.memory s (s.updateGraphics csToggle).1 := by
    intro s csToggle
    have hsize : Keeps VgaCore.memory s s.withScreenSize := by
      unfold VgaCore.withScreenSize
      exact iteState rfl (refl s)
    unfold VgaCore.updateGraphics
    exact ite hsize (hsize.trans (memory_paintTiles _ s.withScreenSize.skipUpdate.2))
  have htext : ∀ s : VgaCore, Keeps VgaCore.memory s (s.updateText fuel).1 := by
    intro s
    have hsize : Keeps VgaCore.memory s s.withTextSize := by
      unfold VgaCore.withTextSize
      exact iteState rfl (refl s)
    unfold VgaCore.updateText
    exact ite (refl s) (ite hsize (ite hsize hsize))
  have hcount : Keeps VgaCore.memory s s.countUpdate.1 := by
    unfold VgaCore.countUpdate
    exact ite rfl <| ite (ite rfl <| ite rfl rfl) rfl
  unfold VgaCore.update
  revert hcount
  rcases s.countUpdate with ⟨u, _ | csToggle⟩ <;> intro hcount
  · exact hcount
  · exact ite (hcount.trans (hgraphics u csToggle)) (hcount.trans (htext u))

end Keeps

/-- No event changes the memory but at the places that it names. -/
theorem effect_memory (fuel : ℕ) (event : VgaEvent) (h : ¬ Named (event.effect fuel s).2.1 place) :
    (event.effect fuel s).1.memory place = s.memory place := by
  cases event with
  | portWrite address value length =>
      exact congrFun (Keeps.memory_portIoWriteHandler address value length) place
  | portRead address length => exact congrFun (Keeps.memory_portIoReadHandler address length) place
  | memoryWrite address data => exact VgaCore.mmioWriteHandler_memory data address s h
  | memoryRead address length =>
      exact congrFun (Keeps.memory_mmioReadHandler length s address) place
  | update => exact congrFun (Keeps.memory_update fuel) place

/-! ## What is read -/

namespace VgaCore

/-- A byte that is read comes from the places that are named. -/
lemma mmioRead_congr (address : BitVec 64) (h : s.AgreesOn (s.mmioRead address).2.2 m) :
    (s.withMemory m).mmioRead address =
      ((s.mmioRead address).1, (s.mmioRead address).2.1.withMemory m,
        (s.mmioRead address).2.2) := by
  have hoffset : (s.withMemory m).readOffset address = s.readOffset address := rfl
  unfold mmioRead at h ⊢
  rw [hoffset]
  cases hdecoded : s.readOffset address with
  | none => rfl
  | some offset =>
      rw [hdecoded] at h
      simp only at h ⊢
      by_cases hchained : s.sequencer.chainFour = true
      · rw [if_pos hchained] at h
        rw [if_pos hchained,
          if_pos (show (s.withMemory m).sequencer.chainFour = true from hchained)]
        have hbyte := h (chainedIndex offset) (named_of_mem (List.mem_singleton_self _))
        exact congrArg (·, _) hbyte
      · rw [if_neg hchained] at h
        rw [if_neg hchained,
          if_neg (show ¬ (s.withMemory m).sequencer.chainFour = true from hchained)]
        have hlatch : (fun p : Fin 4 => m (planeIndex p offset)) =
            fun p => s.memory (planeIndex p offset) := by
          funext p
          exact h _ (named_of_mem (List.mem_map.mpr ⟨p, List.mem_finRange p, rfl⟩))
        have hload : (s.withMemory m).loadLatches offset = (s.loadLatches offset).withMemory m := by
          unfold loadLatches withMemory
          simp only
          rw [hlatch]
        rw [hload]
        rfl

/-- So do so many of them, and what is left beside the memory is the same. -/
theorem mmioReadHandler_congr (length : ℕ) :
    ∀ (s : VgaCore) (address : BitVec 32), s.AgreesOn (s.mmioReadHandler address length).2.2 m →
      (s.withMemory m).mmioReadHandler address length =
        ((s.mmioReadHandler address length).1,
          (s.mmioReadHandler address length).2.1.withMemory m,
          (s.mmioReadHandler address length).2.2) := by
  induction length with
  | zero => exact fun _ _ _ => rfl
  | succ length ih =>
      intro s address h
      have hmemory : (s.mmioRead (address.setWidth 64)).2.1.memory = s.memory := by
        obtain ⟨latch, hlatch⟩ := mmioRead_latches (address.setWidth 64) s
        rw [hlatch]
      rw [mmioReadHandler] at h
      have hfirst := mmioRead_congr (address.setWidth 64) h.left
      have hrest := ih (s.mmioRead (address.setWidth 64)).2.1 (address + 1) fun place hplace => by
        rw [hmemory]
        exact h.right place hplace
      rw [mmioReadHandler, hfirst]
      simp only
      rw [hrest]
      rfl

/-- The places of a pixel of a tile are named for the tile. -/
lemma named_tileAccesses {tile : ℕ × ℕ} {x y : ℕ} (hx : x / xTilesize = tile.2)
    (hy : y / yTilesize = tile.1) (h : place ∈ s.pixelPlaces x y) :
    Named (s.tileAccesses tile) place := by
  have hcolumn : tile.2 * xTilesize + x % xTilesize = x := by
    rw [← hx, Nat.mul_comm]
    exact Nat.div_add_mod x xTilesize
  have hrow : tile.1 * yTilesize + y % yTilesize = y := by
    rw [← hy, Nat.mul_comm]
    exact Nat.div_add_mod y yTilesize
  refine named_of_mem (List.mem_flatMap.mpr ⟨y % yTilesize, ?_, List.mem_flatMap.mpr
    ⟨x % xTilesize, ?_, List.mem_map.mpr ⟨place, ?_, rfl⟩⟩⟩)
  · exact List.mem_range.mpr (Nat.mod_lt y (by decide))
  · exact List.mem_range.mpr (Nat.mod_lt x (by decide))
  · rw [hcolumn, hrow]
    exact h

/-- The colour of a pixel of the planes comes from the places that are named for its tile. -/
theorem getVgaPixel_of_tile {tile : ℕ × ℕ} {x y : ℕ} {bs : Bool} (hx : x / xTilesize = tile.2)
    (hy : y / yTilesize = tile.1) (hshift : s.graphicsCtrl.shiftReg = 0)
    (hserial : Word.has (s.crtc.reg 0x17) 0 = true) (h : s.AgreesOn (s.tileAccesses tile) m) :
    (s.withMemory m).getVgaPixel x (s.pixelLine y) s.startAddr.toNat s.shownLineCompare bs =
      s.getVgaPixel x (s.pixelLine y) s.startAddr.toNat s.shownLineCompare bs := by
  have hregs : s.SameRegisters (s.withMemory m) := ⟨m, s.tileUpdated, s.vgaMemUpdated, rfl⟩
  exact getVgaPixel_congr hregs hshift hserial fun place hplace =>
    h place (named_tileAccesses hx hy hplace)

end VgaCore

/-! ## What is drawn -/

section Drawn

variable {layout : TextLayout} {force : Bool} {cursor : TextCursor} {old new : ℕ → BitVec 8}

/-- A row is drawn from the characters that are named for it. -/
lemma TextLayout.drawRow_congr {pen : TextPen} {n : ℕ} {w : TextWindow}
    (h : ∀ place, Named (layout.screen.rowAccesses pen.row) place → m place = new place) :
    layout.drawRow force cursor old m pen n w = layout.drawRow force cursor old new pen n w := by
  refine List.foldl_ext _ _ w fun w x hx => ?_
  have hcharacter : VgaAccess.memory (pen.row.newText + 2 * x) 2 ∈
      layout.screen.rowAccesses pen.row := List.mem_map.mpr ⟨x, hx, rfl⟩
  have hcode := h (pen.row.newText + 2 * x) ⟨_, 2, hcharacter, le_refl _, by omega⟩
  have hattribute := h (pen.row.newText + 2 * x + 1) ⟨_, 2, hcharacter, by omega, by omega⟩
  unfold TextLayout.drawAt TextLayout.due
  rw [hcode, hattribute]

lemma TextLayout.drawRows_congr (fuel : ℕ) :
    ∀ (n : ℕ) (pen : TextPen) (w : TextWindow),
      (∀ place, Named (layout.screen.textLoop fuel pen.row).1 place → m place = new place) →
      layout.drawRows force cursor old m fuel n pen w =
        layout.drawRows force cursor old new fuel n pen w := by
  induction fuel with
  | zero => exact fun _ _ _ _ => rfl
  | succ fuel ih =>
      intro n pen w h
      rw [TextScreen.textLoop] at h
      rw [drawRows, drawRows]
      simp only [nextPen_row] at h ⊢
      by_cases hlast : (layout.screen.nextRow pen.row).rows = 0
      · rw [if_pos hlast] at h
        rw [if_pos hlast, if_pos hlast, drawRow_congr h]
      · rw [if_neg hlast] at h
        rw [if_neg hlast, if_neg hlast,
          drawRow_congr fun place hplace => h place (named_append.mpr (Or.inl hplace))]
        refine ih (n + 1) (layout.nextPen pen) _ fun place hplace => ?_
        rw [nextPen_row] at hplace
        exact h place (named_append.mpr (Or.inr hplace))

/-- The text is drawn, and the snapshot taken, from what is named of the memory. -/
theorem VgaText.drawText_congr (fuel : ℕ) (csToggle : Bool)
    (h : s.AgreesOn (s.textUpdateCommon fuel).1 m)
    (hcopied : s.vgaMemUpdated = true → s.AgreesOn [.memory 0 s.copiedLength] m) :
    t.drawText fuel csToggle (s.withMemory m) = t.drawText fuel csToggle s := by
  have hrows := h.right
  have hold : invalidated (s.withMemory m) t.snapshot = invalidated s t.snapshot := by
    unfold invalidated
    by_cases hcursor : s.textCursor < 0xffff
    · have hbyte : m s.textCursor = s.memory s.textCursor := by
        refine h.left.left s.textCursor (named_of_mem ?_)
        rw [if_pos hcursor]
        exact List.mem_singleton_self _
      rw [if_pos hcursor, ← hbyte]
      exact if_pos hcursor
    · rw [if_neg hcursor]
      exact if_neg hcursor
  have hsnapshot : copied (s.withMemory m) (invalidated s t.snapshot) =
      copied s (invalidated s t.snapshot) := by
    funext a
    unfold copied
    by_cases ha : s.vgaMemUpdated = true ∧ a < s.copiedLength
    · rw [if_pos ha]
      refine (if_pos ha).trans (hcopied ha.1 a ⟨0, s.copiedLength, ?_, Nat.zero_le a, ?_⟩)
      · exact List.mem_singleton_self _
      · rw [Nat.zero_add]
        exact ha.2
    · rw [if_neg ha]
      exact if_neg ha
  unfold VgaText.drawText
  rw [hold]
  simp only
  rw [hsnapshot]
  have hdrawn : s.textLayout.drawRows (forceUpdate csToggle s t) s.drawnCursor
        (invalidated s t.snapshot) m fuel 0 s.textLayout.firstPen t.window =
      s.textLayout.drawRows (forceUpdate csToggle s t) s.drawnCursor
        (invalidated s t.snapshot) s.memory fuel 0 s.textLayout.firstPen t.window :=
    TextLayout.drawRows_congr fuel 0 _ _ hrows
  rw [← hdrawn]
  rfl

/-- The snapshot is changed within the length that is copied, and at the cursor. -/
theorem VgaText.drawText_snapshot (fuel : ℕ) (csToggle : Bool)
    (hcopied : ¬ (s.vgaMemUpdated = true ∧ place < s.copiedLength))
    (hcursor : s.textCursor < 0xffff → place ≠ s.textCursor) :
    (t.drawText fuel csToggle s).snapshot place = t.snapshot place := by
  show copied s (invalidated s t.snapshot) place = _
  rw [copied, if_neg hcopied, invalidated]
  split
  · exact Function.update_of_ne (hcursor ‹_›) _ _
  · rfl

end Drawn

end Svmm
