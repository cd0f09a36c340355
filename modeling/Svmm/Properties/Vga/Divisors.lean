import Svmm.Properties.Vga.Views

/-!
# The divisions of the VGA

`vga_divisors_nonzero_iff` says in which runs no division is by zero: those in which the line offset
is not 0 at a write that marks a tile of shift mode 2.  The other marks look at the line offset
first.  What the text update divides by is set together with the size of the characters, before its
first use (`WindowSet`).
-/

namespace Svmm

open TransitionRun

variable {s t : VgaCore}

/-- Nothing an event divides by is 0. -/
def DivisorsNonzero (s : VgaCore) (event : VgaEvent) : Prop :=
  ∀ fuel, ∀ a ∈ (event.effect fuel s).2.1, a.Defined

/-- In shift mode 2, with a plane selected and a line offset of 0, no byte is written to the
planes. -/
def DivisionHarmless (s : VgaCore) : VgaEvent → Prop
  | .memoryWrite address data =>
      s.graphicsCtrl.shiftReg = 2 → s.sequencer.mapMask ≠ 0 → s.lineOffset = 0 →
        ∀ i < data.length, ∀ offset,
          ¬ s.TakesPlanes ((address + BitVec.ofNat 32 i).setWidth 64) offset
  | _ => True

/-! ## The size of the window -/

/-- The size of the characters was never set, or it has no 0. -/
def WindowSet (s : VgaCore) : Prop :=
  s.lastFw = 0 ∨ s.window.guestFwidth ≠ 0 ∧ s.window.guestFheight ≠ 0

/-- What the size of the characters rests on is the same. -/
def SameWindow (s t : VgaCore) : Prop := t.lastFw = s.lastFw ∧ t.window = s.window

namespace SameWindow

lemma refl (s : VgaCore) : SameWindow s s := ⟨rfl, rfl⟩

lemma trans {u : VgaCore} (h : SameWindow s t) (h' : SameWindow t u) : SameWindow s u :=
  ⟨h'.1.trans h.1, h'.2.trans h.2⟩

lemma windowSet (h : SameWindow s t) (hs : WindowSet s) : WindowSet t := by
  rw [WindowSet, h.1, h.2]
  exact hs

/-- The size as a view: no byte written to a port and no memory access touches it. -/
private def size (s : VgaCore) : BitVec 8 × VgaWindow := (s.lastFw, s.window)

lemma of_keeps (h : Keeps size s t) : SameWindow s t :=
  ⟨congrArg Prod.fst h, congrArg Prod.snd h⟩

private lemma size_view : VgaView size where
  registers := by
    rintro s t ⟨m, k, b, rfl⟩
    rfl
  latches _ _ := rfl
  flipFlop _ _ := rfl
  sequencerIndex _ _ := rfl
  graphicsIndex _ _ := rfl
  crtcAddress _ _ := rfl
  pel _ _ := rfl
  misc _ _ := rfl
  enabled _ _ := rfl
  counter _ _ _ := rfl

lemma portIoWriteHandler (address : BitVec 64) (value length : BitVec 32) :
    SameWindow s (s.portIoWriteHandler address value length).1 := by
  refine of_keeps (Keeps.portIoWriteHandler (fun s a v => ?_) ..)
  refine .portWriteByte size_view (.writePort size_view ?_ ?_ ?_ ?_)
  · exact fun _ => Keeps.writeAttribute (f := size) (fun _ _ => rfl) v
  · exact fun _ => Keeps.writeSequencer (f := size) (fun _ _ _ _ => rfl) v
  · exact fun _ => Keeps.writeGraphics (f := size) (fun _ _ _ => rfl) v
  · exact fun _ => Keeps.writeCrtc (f := size) (fun _ _ _ _ _ _ _ => rfl) v

lemma portIoReadHandler (address : BitVec 64) (length : BitVec 32) :
    SameWindow s (s.portIoReadHandler address length).2 :=
  of_keeps (Keeps.portIoReadHandler size_view ..)

lemma mmioWriteHandler (data : List (BitVec 8)) (s : VgaCore) (address : BitVec 32) :
    SameWindow s (s.mmioWriteHandler address data).1 :=
  of_keeps (Keeps.mmioWriteHandler size_view ..)

lemma mmioReadHandler (length : ℕ) (s : VgaCore) (address : BitVec 32) :
    SameWindow s (s.mmioReadHandler address length).2.1 :=
  of_keeps (Keeps.mmioReadHandler size_view ..)

lemma countUpdate : SameWindow s s.countUpdate.1 := of_keeps (Keeps.countUpdate size_view)

lemma updateGraphics (csToggle : Bool) : SameWindow s (s.updateGraphics csToggle).1 := by
  have hsize : SameWindow s s.withScreenSize := by
    unfold VgaCore.withScreenSize
    split
    · exact ⟨rfl, rfl⟩
    · exact refl s
  have hskip : SameWindow s s.withScreenSize.skipUpdate.2 := hsize.trans ⟨rfl, rfl⟩
  have hpaint : ∀ {t u : VgaCore}, t.SameRegisters u → SameWindow t u := fun h =>
    of_keeps (size_view.registers h)
  unfold VgaCore.updateGraphics
  simp only
  split
  · exact hskip
  · exact hskip.trans (trans (hpaint (.paintTiles _ _)) ⟨rfl, rfl⟩)

end SameWindow

/-- The width of a character. -/
lemma textCellWidth_pos : 0 < s.textCellWidth ∧ s.textCellWidth < 256 := by
  unfold VgaCore.textCellWidth
  split <;> split <;> decide

/-- The lines of a character. -/
lemma textCells_lt : s.textCells.2 < 32 := by
  have hmask : (s.crtc.reg 0x09 &&& 0x1f).toNat < 32 := by
    have h := Word.toNat_and_mask (k := 5) (show (0x1f : BitVec 8).toNat = 2 ^ 5 - 1 by decide)
      (s.crtc.reg 0x09)
    rw [h]
    exact Nat.mod_lt _ (by decide)
  unfold VgaCore.textCells
  simp only
  split_ifs <;> omega

/-- After the text update has looked at the size, it has no 0. -/
lemma withTextSize_window (h : WindowSet s) :
    s.withTextSize.window.guestFwidth ≠ 0 ∧ s.withTextSize.window.guestFheight ≠ 0 := by
  have hwidth := textCellWidth_pos (s := s)
  have hcells := textCells_lt (s := s)
  have hofNat : ∀ n : ℕ, 0 < n → n < 256 → BitVec.ofNat 8 n ≠ 0 := by
    intro n hpos hlt hzero
    have htoNat := congrArg BitVec.toNat hzero
    rw [BitVec.toNat_ofNat, Nat.mod_eq_of_lt hlt] at htoNat
    exact Nat.ne_of_gt hpos htoNat
  unfold VgaCore.withTextSize
  simp only
  split
  · exact ⟨hofNat _ hwidth.1 hwidth.2, hofNat _ (by omega) (by omega)⟩
  · rename_i hsame
    refine h.resolve_left fun hzero => ?_
    have heq : s.textCellWidth = s.lastFw.toNat := by
      by_contra hne
      exact hsame (.inr (.inr (.inl hne)))
    rw [heq, hzero] at hwidth
    exact absurd hwidth.1 (Nat.lt_irrefl 0)

/-- A text update keeps that the size is set. -/
lemma windowSet_updateText (fuel : ℕ) (h : WindowSet s) : WindowSet (s.updateText fuel).1 := by
  have hwindow : WindowSet s.withTextSize.skipUpdate.2 := .inr (withTextSize_window h)
  unfold VgaCore.updateText
  simp only
  split_ifs
  · exact h
  · exact hwindow
  · exact hwindow
  · exact hwindow

lemma windowSet_update (fuel : ℕ) (h : WindowSet s) : WindowSet (s.update fuel).1 := by
  have hcount := SameWindow.countUpdate.windowSet h
  unfold VgaCore.update
  revert hcount
  rcases s.countUpdate with ⟨t, _ | csToggle⟩ <;> intro hcount
  · exact hcount
  · simp only
    split
    · exact (SameWindow.updateGraphics csToggle).windowSet hcount
    · exact windowSet_updateText fuel hcount

lemma windowSet_effect (fuel : ℕ) (event : VgaEvent) (h : WindowSet s) :
    WindowSet (event.effect fuel s).1 := by
  cases event with
  | portWrite address value length => exact (SameWindow.portIoWriteHandler ..).windowSet h
  | portRead address length => exact (SameWindow.portIoReadHandler ..).windowSet h
  | memoryWrite address data => exact (SameWindow.mmioWriteHandler ..).windowSet h
  | memoryRead address length => exact (SameWindow.mmioReadHandler ..).windowSet h
  | update => exact windowSet_update fuel h

lemma windowSet_vgaStep {event : VgaEvent} (h : WindowSet s) (hstep : vgaStep s event = .ok t) :
    WindowSet t := by
  rw [effect_of_vgaStep hstep]
  exact windowSet_effect textFuel event h

/-! ## The divisions -/

/-- What a byte written divides by. -/
lemma writeAccesses_defined {address : BitVec 64} :
    (∀ a ∈ s.writeAccesses address, a.Defined) ↔
      (s.graphicsCtrl.shiftReg = 2 → s.sequencer.mapMask ≠ 0 → s.lineOffset = 0 →
        ∀ offset, ¬ s.TakesPlanes address offset) := by
  unfold VgaCore.writeAccesses
  cases hoffset : s.writeOffset address with
  | none =>
      refine iff_of_true ?_ fun _ _ _ offset h => ?_
      · rw [mmioWrite_none hoffset]
        exact List.forall_mem_nil _
      · cases hoffset.symm.trans h.decoded
  | some offset =>
      rw [forall_mmioWrite hoffset]
      constructor
      · rintro ⟨-, -, h⟩ hshift hmask hline offset' htakes
        exact (planarWrite_defined hmask).mp (h htakes.notCga htakes.notChained) hshift hline
      · intro h
        refine ⟨fun _ => trivial, fun _ _ => ⟨trivial, fun hline => ?_⟩, fun hcga hchained => ?_⟩
        · exact Nat.ne_of_gt (BitVec.lt_def.mp hline)
        by_cases hmask : s.sequencer.mapMask = 0
        · rw [planarWrite_of_eq hmask]
          exact List.forall_mem_nil _
        · exact (planarWrite_defined hmask).mpr fun hshift hline =>
            h hshift hmask hline offset ⟨hoffset, hcga, hchained⟩

lemma updateGraphics_defined (csToggle : Bool) :
    ∀ a ∈ (s.updateGraphics csToggle).2, a.Defined := by
  have hpaint : ∀ (t u : VgaCore) (all : Bool),
      ∀ a ∈ (t.paintTiles all u.tileAccesses u.screenTiles).2, a.Defined := fun t u all =>
    (VgaCore.forall_paintTiles VgaCore.screenTiles_nodup).mpr fun tile _ _ =>
      VgaCore.tileAccesses_defined tile
  unfold VgaCore.updateGraphics
  simp only
  split
  · exact List.forall_mem_nil _
  · exact hpaint _ _ _

/-- The rows of a text divide by nothing. -/
lemma textLoop_defined {screen : TextScreen} (fuel : ℕ) :
    ∀ row, ∀ a ∈ (screen.textLoop fuel row).1, a.Defined := by
  have hrow : ∀ row, ∀ a ∈ screen.rowAccesses row, a.Defined := by
    intro row a ha
    obtain ⟨x, -, rfl⟩ := List.mem_map.mp ha
    trivial
  induction fuel with
  | zero => exact fun _ => List.forall_mem_nil _
  | succ fuel ih =>
      intro row
      rw [TextScreen.textLoop]
      simp only
      split
      · exact hrow row
      · exact List.forall_mem_append.mpr ⟨hrow row, ih _⟩

lemma updateText_defined (fuel : ℕ) (h : WindowSet s) :
    ∀ a ∈ (s.updateText fuel).2.1, a.Defined := by
  have hcell : (VgaAccess.divisor (s.textCells.2 + 1)).Defined := Nat.succ_ne_zero _
  have hwindow := withTextSize_window h
  have hcommon : ∀ a ∈ (s.withTextSize.skipUpdate.2.textUpdateCommon fuel).1, a.Defined := by
    unfold VgaCore.textUpdateCommon
    simp only [List.forall_mem_append, List.forall_mem_cons]
    have hne : ∀ b : BitVec 8, b ≠ 0 → (VgaAccess.divisor b.toNat).Defined := fun b hb hzero =>
      hb (BitVec.eq_of_toNat_eq hzero)
    refine ⟨⟨?_, hne _ hwindow.2, hne _ hwindow.1, List.forall_mem_nil _⟩,
      textLoop_defined fuel _⟩
    split
    · exact List.forall_mem_singleton.mpr trivial
    · exact List.forall_mem_nil _
  unfold VgaCore.updateText
  simp only
  split_ifs
  · exact List.forall_mem_singleton.mpr hcell
  · exact List.forall_mem_singleton.mpr hcell
  · rw [List.cons_append, List.forall_mem_cons, List.forall_mem_append]
    refine ⟨hcell, hcommon, ?_⟩
    rw [List.forall_mem_cons, List.forall_mem_singleton]
    exact ⟨trivial, trivial⟩
  · exact List.forall_mem_cons.mpr ⟨hcell, hcommon⟩

lemma update_defined (fuel : ℕ) (h : WindowSet s) : ∀ a ∈ (s.update fuel).2.1, a.Defined := by
  have hcount := SameWindow.countUpdate.windowSet h
  unfold VgaCore.update
  revert hcount
  rcases s.countUpdate with ⟨t, _ | csToggle⟩ <;> intro hcount
  · exact List.forall_mem_nil _
  · simp only
    split
    · exact updateGraphics_defined csToggle
    · exact updateText_defined fuel hcount

/-- When an event divides by nothing that is 0. -/
lemma divisorsNonzero_iff (event : VgaEvent) (h : WindowSet s) :
    DivisorsNonzero s event ↔ DivisionHarmless s event := by
  cases event with
  | portWrite address value length =>
      exact iff_of_true (fun _ a ha => (VgaCore.portIoWriteHandler_accesses _ _ _ a ha).2) trivial
  | portRead address length =>
      exact iff_of_true (fun _ => List.forall_mem_nil _) trivial
  | memoryWrite address data =>
      have hwrite := VgaCore.forall_mmioWriteHandler (P := VgaAccess.Defined) data address
        (VgaCore.SameRegisters.refl s)
      refine (forall_const ℕ).trans (hwrite.trans ?_)
      simp only [writeAccesses_defined]
      constructor
      · exact fun h hshift hmask hline i hi => h i hi hshift hmask hline
      · exact fun h i hi hshift hmask hline => h hshift hmask hline i hi
  | memoryRead address length =>
      exact iff_of_true (fun _ => VgaCore.forall_mmioReadHandler.mpr fun _ _ =>
        VgaCore.readAccesses_defined) trivial
  | update => exact iff_of_true (fun fuel => update_defined fuel h) trivial

theorem vga_divisors_nonzero_iff (events : List VgaEvent) :
    Meets vgaStep DivisorsNonzero VgaCore.initialState events ↔
      Meets vgaStep DivisionHarmless VgaCore.initialState events :=
  Meets.congr_of_invariant (fun _ _ _ => windowSet_vgaStep)
    (fun _ event => divisorsNonzero_iff event) (.inl rfl)

/-- Map mask 15, shift mode 2, and a write of register 0x14 after which the line offset is 0. -/
private def zeroLineOffset : List VgaEvent :=
  [.portWrite 0x3c4 2 1, .portWrite 0x3c5 0x0f 1, .portWrite 0x3ce 5 1, .portWrite 0x3cf 0x40 1,
    .portWrite 0x3d4 0x14 1, .portWrite 0x3d5 1 1]

/-- The next byte written divides by 0. -/
theorem vga_write_divides_by_zero :
    ¬ ∀ events : List VgaEvent, Meets vgaStep DivisorsNonzero VgaCore.initialState events := by
  intro h
  have hends : ends
      (fun t => ¬ ∀ a ∈ ((VgaEvent.memoryWrite 0xb0000 [0x41]).effect 0 t).2.1, a.Defined)
      (run vgaStep VgaCore.initialState zeroLineOffset) = true := by
    decide +kernel
  obtain ⟨t, hrun, hzero⟩ := exists_of_ends _ hends
  exact hzero (Meets.after (h (zeroLineOffset ++ [.memoryWrite 0xb0000 [0x41]])) hrun 0)

end Svmm
