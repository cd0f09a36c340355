import Svmm.Construction.Vga.TextDraw
import Svmm.Properties.Vga.TextRows
import Svmm.Properties.Vga.Views

/-!
# The characters that an update draws

What the two loops of `text_update_common` do at a place (`drawRows_apply`), where in the memory the
characters above the split are (`onLine`), and that no change of the memory or of the place of the
cursor goes unnoticed between two updates (`Noticed.effect`).
-/

namespace Svmm

open TransitionRun

/-! ## Drawing -/

namespace TextWindow

variable {n m x y : ℕ} {d : CharDraw} {w : TextWindow}

end TextWindow

namespace TextLayout

variable {layout : TextLayout} {force : Bool} {cursor : TextCursor} {old new : ℕ → BitVec 8}
variable {pen : TextPen} {n m x y fuel : ℕ} {w : TextWindow}

/-- The row is one of those that the loop comes to. -/
def Comes (layout : TextLayout) (pen : TextPen) (k : ℕ) : Prop :=
  ∀ j < k, (layout.nextPen^[j + 1] pen).row.rows ≠ 0

lemma Comes.next (h : layout.Comes pen (m + 1)) : layout.Comes (layout.nextPen pen) m := by
  intro j hj
  have hnext := h (j + 1) (Nat.succ_lt_succ hj)
  rwa [Function.iterate_succ_apply] at hnext

lemma nextPen_row : (layout.nextPen pen).row = layout.screen.nextRow pen.row := by
  unfold nextPen
  split <;> rfl

/-- The place in the memory of the first character of a row, and of the row. -/
def lineStart (layout : TextLayout) (n : ℕ) : ℕ :=
  layout.start.toNat + n * layout.screen.lineOffset

/-- Above the split the places of `new_text` and `old_text` and the offset are those of the line. -/
structure OnLine (layout : TextLayout) (pen : TextPen) (n : ℕ) : Prop where
  newText : pen.row.newText = layout.lineStart n
  oldText : pen.oldText = layout.lineStart n
  loffset : pen.loffset = BitVec.ofNat 16 (layout.lineStart n)

lemma lineStart_succ (n : ℕ) :
    layout.lineStart (n + 1) = layout.lineStart n + layout.screen.lineOffset := by
  rw [lineStart, lineStart, Nat.add_mul, Nat.one_mul, Nat.add_assoc]

lemma OnLine.next (h : layout.OnLine pen n) (hsplit : (layout.nextPen pen).split = false) :
    layout.OnLine (layout.nextPen pen) (n + 1) := by
  have hrow : pen.row.y ≠ layout.screen.splitTextrow := by
    intro hy
    rw [nextPen, if_pos hy] at hsplit
    cases hsplit
  have hnext : layout.screen.nextRow pen.row =
      { pen.row with
        rows := pen.row.rows - 1, y := pen.row.y + 1
        newText := pen.row.newText + layout.screen.lineOffset } := by
    rw [TextScreen.nextRow, if_neg hrow]
  refine ⟨?_, ?_, ?_⟩
  · rw [nextPen_row, hnext, lineStart_succ, ← h.newText]
  · rw [nextPen, if_neg hrow, lineStart_succ, ← h.oldText]
  · rw [nextPen, if_neg hrow, lineStart_succ, BitVec.ofNat_add, ← h.loffset]

end TextLayout

/-! ## What is noticed of the text and of the cursor -/

/-- A change of the memory or of the place of the cursor sets `vga_mem_updated`. -/
def Noticed (s t : VgaCore) : Prop :=
  t.vgaMemUpdated = false → s.vgaMemUpdated = false ∧ t.memory = s.memory ∧
    t.crtc.reg 0x0e = s.crtc.reg 0x0e ∧ t.crtc.reg 0x0f = s.crtc.reg 0x0f

/-- What `Noticed` is about. -/
def VgaCore.textView (s : VgaCore) : Bool × (ℕ → BitVec 8) × BitVec 8 × BitVec 8 :=
  (s.vgaMemUpdated, s.memory, s.crtc.reg 0x0e, s.crtc.reg 0x0f)

namespace Noticed

variable {s t u : VgaCore} {address : BitVec 64} {value : BitVec 32}

lemma refl (s : VgaCore) : Noticed s s := fun h => ⟨h, rfl, rfl, rfl⟩

lemma trans (h : Noticed s t) (h' : Noticed t u) : Noticed s u := by
  intro hu
  obtain ⟨ht, hmemory, hhigh, hlow⟩ := h' hu
  obtain ⟨hs, hmemory', hhigh', hlow'⟩ := h ht
  exact ⟨hs, hmemory.trans hmemory', hhigh.trans hhigh', hlow.trans hlow'⟩

lemma of_flag (h : t.vgaMemUpdated = true) : Noticed s t := fun hnot => by
  rw [h] at hnot
  cases hnot

lemma of_keeps (h : Keeps VgaCore.textView s t) : Noticed s t := by
  intro ht
  obtain ⟨hflag, hmemory, hhigh, hlow⟩ : t.vgaMemUpdated = s.vgaMemUpdated ∧
      t.memory = s.memory ∧ t.crtc.reg 0x0e = s.crtc.reg 0x0e ∧
        t.crtc.reg 0x0f = s.crtc.reg 0x0f := by
    simpa only [Keeps, VgaCore.textView, Prod.mk.injEq] using h
  exact ⟨hflag ▸ ht, hmemory, hhigh, hlow⟩

lemma ite {β : Type} {c : Prop} [Decidable c] {x y : VgaCore × β} (hx : Noticed s x.1)
    (hy : Noticed s y.1) : Noticed s (if c then x else y).1 := by
  split
  · exact hx
  · exact hy

/-! ### Port writes -/

lemma crtcChanged (i : Fin 0x19) : Noticed s (s.crtcChanged i value).1 := by
  unfold VgaCore.crtcChanged
  exact ite (of_keeps rfl) <| ite (refl s) <| ite (of_keeps rfl) <| ite (of_flag rfl) <|
    ite (ite (refl s) (of_flag rfl)) <| ite (of_keeps rfl) <| ite (of_keeps rfl) <|
    ite (of_keeps rfl) <| ite (of_keeps rfl) (refl s)

lemma crtcChanged_cursor {i : Fin 0x19} (h : i = 0x0e ∨ i = 0x0f) :
    (s.crtcChanged i value).1.vgaMemUpdated = true := by
  unfold VgaCore.crtcChanged
  rcases h with rfl | rfl <;> rfl

/-- A register other than the two of the cursor. -/
lemma withCrtcReg {i : Fin 0x19} {v : BitVec 8} (h : ¬ (i = 0x0e ∨ i = 0x0f)) :
    Noticed s (s.withCrtcReg i v) := by
  obtain ⟨hhigh, hlow⟩ := not_or.mp h
  refine fun hflag => ⟨hflag, rfl, ?_, ?_⟩
  · exact Function.update_of_ne (Ne.symm hhigh) _ _
  · exact Function.update_of_ne (Ne.symm hlow) _ _

lemma writeCrtc : Noticed s (s.writeCrtc value).1 := by
  unfold VgaCore.writeCrtc
  split
  · simp only
    split_ifs with hprotect hseven hchanged
    · refine (withCrtcReg ?_).trans (of_keeps rfl)
      rw [hseven]
      decide
    · exact refl s
    · by_cases hcursor : (⟨s.crtc.address.toNat, ‹_›⟩ : Fin 0x19) = 0x0e ∨
          (⟨s.crtc.address.toNat, ‹_›⟩ : Fin 0x19) = 0x0f
      · exact of_flag (crtcChanged_cursor hcursor)
      · exact (withCrtcReg hcursor).trans (crtcChanged _)
    · exact refl s
  · exact refl s

lemma writePort : Noticed s (s.writePort address value).1 := by
  by_cases hport : address = 0x03b5 ∨ address = 0x03d5
  · have hcrtc : s.writePort address value = s.writeCrtc value := by
      rcases hport with rfl | rfl <;> rfl
    rw [hcrtc]
    exact writeCrtc
  · apply of_keeps
    unfold VgaCore.writePort
    exact .ite (.writeAttribute (f := VgaCore.textView) (fun _ _ => rfl) value) <| .ite rfl <|
      .ite rfl <| .ite rfl <|
      .ite (.writeSequencer (f := VgaCore.textView) (fun _ _ _ _ => rfl) value) <|
      .ite (.ite rfl rfl) <| .ite rfl <| .ite rfl <| .ite rfl <| .ite rfl <|
      .ite (.writeGraphics (f := VgaCore.textView) (fun _ _ _ => rfl) value) <|
      .ite rfl <| .iteOf (fun h => absurd h hport) rfl

lemma vgaRedrawArea : Noticed s s.vgaRedrawArea := by
  unfold VgaCore.vgaRedrawArea VgaCore.redrawArea
  simp only
  split_ifs
  · exact refl s
  · exact of_flag rfl
  · exact of_flag rfl

lemma applyChanges (changes : VgaChanges) : Noticed s (s.applyChanges changes).1 := by
  unfold VgaCore.applyChanges
  simp only
  split_ifs
  · exact of_flag rfl |>.trans vgaRedrawArea
  · exact vgaRedrawArea
  · exact of_flag rfl
  · exact refl s

lemma coreWriteByte : Noticed s (s.coreWriteByte address value).1 := by
  unfold VgaCore.coreWriteByte
  split
  · exact refl s
  · exact writePort.trans (applyChanges _)

lemma portWriteByte : Noticed s (s.portWriteByte address value).1 := by
  unfold VgaCore.portWriteByte
  split_ifs
  · exact refl s
  · exact coreWriteByte
  · exact refl s
  · exact refl s
  · exact coreWriteByte

lemma portIoWriteHandler {length : BitVec 32} :
    Noticed s (s.portIoWriteHandler address value length).1 := by
  unfold VgaCore.portIoWriteHandler
  split
  · exact portWriteByte.trans portWriteByte
  · exact portWriteByte

/-! ### Writes to the memory, and reads -/

lemma setTileUpdated_flag (x y : ℕ) (v : Bool) :
    (s.setTileUpdated x y v).vgaMemUpdated = s.vgaMemUpdated := by
  unfold VgaCore.setTileUpdated
  split <;> rfl

lemma markPlanar_flag {offset : BitVec 32} :
    (s.markPlanar offset).1.vgaMemUpdated = s.vgaMemUpdated := by
  have hlower : (s.markLower offset).vgaMemUpdated = s.vgaMemUpdated := by
    unfold VgaCore.markLower
    split
    · exact setTileUpdated_flag ..
    · rfl
  have hupper : ∀ s : VgaCore, (s.markUpper offset).vgaMemUpdated = s.vgaMemUpdated := by
    intro s
    unfold VgaCore.markUpper
    split
    · exact setTileUpdated_flag ..
    · rfl
  unfold VgaCore.markPlanar
  split
  · exact setTileUpdated_flag ..
  · exact (hupper _).trans hlower

/-- In a text mode every write that stores something sets the flag. -/
lemma mmioWrite (htext : s.graphicsCtrl.graphicsAlpha = false) :
    Noticed s (s.mmioWrite address value).1 := by
  unfold VgaCore.mmioWrite
  split
  · exact refl s
  · rw [if_neg (by simp [htext]), if_neg (by simp [htext])]
    unfold VgaCore.planarWrite
    split
    · apply of_flag
      show (VgaCore.markPlanar _ _).1.vgaMemUpdated = true
      rw [markPlanar_flag]
      exact storePlanes_keeps VgaCore.vgaMemUpdated fun _ _ _ => rfl
    · exact refl s

lemma mmioWriteHandler (data : List (BitVec 8)) {address : BitVec 32}
    (htext : s.graphicsCtrl.graphicsAlpha = false) :
    Noticed s (s.mmioWriteHandler address data).1 := by
  induction data generalizing s address with
  | nil => exact refl s
  | cons byte bytes ih =>
      have hgraphics : (s.mmioWrite (address.setWidth 64) (byte.setWidth 32)).1.graphicsCtrl =
          s.graphicsCtrl := VgaCore.SameRegisters.mmioWrite.graphicsCtrl
      exact (mmioWrite htext).trans (ih (by rw [hgraphics, htext]))

lemma portIoReadHandler {length : BitVec 32} :
    Noticed s (s.portIoReadHandler address length).2 := by
  have hbyte : ∀ (s : VgaCore) (address : BitVec 64),
      Keeps VgaCore.textView s (s.portReadByte address).2 := by
    intro s address
    have hpel : Keeps VgaCore.textView s s.readPelData.2 := by
      unfold VgaCore.readPelData
      exact .iteRight rfl rfl
    unfold VgaCore.portReadByte
    exact .iteRight rfl <| .iteRight rfl <| .iteRight rfl <| .iteRight rfl <| .iteRight rfl <|
      .iteRight rfl <| .iteRight rfl <| .iteRight rfl <| .iteRight rfl <| .iteRight rfl <|
      .iteRight hpel <| .iteRight rfl <| .iteRight rfl <| .iteRight rfl <| .iteRight rfl <|
      .iteRight rfl rfl
  apply of_keeps
  unfold VgaCore.portIoReadHandler
  exact .iteRight ((hbyte _ _).trans (hbyte _ _)) (hbyte _ _)

lemma mmioReadHandler (length : ℕ) {address : BitVec 32} :
    Noticed s (s.mmioReadHandler address length).2.1 := by
  induction length generalizing s address with
  | zero => exact refl s
  | succ length ih =>
      obtain ⟨latch, hlatch⟩ := VgaCore.mmioRead_latches (address.setWidth 64) s
      have hfirst : Noticed s (s.mmioRead (address.setWidth 64)).2.1 := by
        rw [hlatch]
        exact of_keeps rfl
      exact hfirst.trans ih

/-- Whatever happens in a text mode, but for an update. -/
lemma effect {fuel : ℕ} {event : VgaEvent} (hevent : event ≠ .update)
    (htext : s.graphicsCtrl.graphicsAlpha = false) : Noticed s (event.effect fuel s).1 := by
  cases event with
  | portWrite address value length => exact portIoWriteHandler
  | portRead address length => exact portIoReadHandler
  | memoryWrite address data => exact mmioWriteHandler data htext
  | memoryRead address length => exact mmioReadHandler length
  | update => exact absurd rfl hevent

end Noticed

end Svmm
