import Svmm.Construction.Vga.Update

/-!
# The text update of the VGA

What `VgaCoreUpdate` of `vgacore.c` does in the text modes, with `text_update_common` of `gui.c` as
the window is set up (`new_text_api` 1, `snapshot_mode` 0) and what `dimension_update` of
`win32gui.c` keeps of the size.  A character is read whether it is drawn or not.  The rows are
counted down in a `WORD` and the loop starts them anew at the split, so that it need not end:
`textLoop` goes on for as many rows as it is told.
-/

namespace Svmm

/-! ## The rows -/

/-- What `text_update_common` does not change over the rows: `text_cols`, `split_textrow`, the rows
from the split on, and what it uses of `bx_vga_tminfo_t`. -/
structure TextScreen where
  columns : BitVec 16
  splitTextrow : BitVec 8
  splitRows : BitVec 16
  lineOffset : ℕ
  splitHpanning : Bool

/-- What it changes: `rows`, `y`, the place of `new_text`, and whether `h_panning` is above 0. -/
structure TextRow where
  rows : BitVec 16
  y : BitVec 8
  newText : ℕ
  panned : Bool

/-- How often `do … while (--n)` goes round. -/
def roundsDown (n : BitVec 16) : ℕ := if n = 0 then 0x10000 else n.toNat

/-- What is read for a row. -/
def TextScreen.rowAccesses (screen : TextScreen) (row : TextRow) : List VgaAccess :=
  let hchars := if row.panned then screen.columns + 1 else screen.columns
  (List.range (roundsDown hchars)).map fun x => .memory (row.newText + 2 * x) 2

/-- The row after a row. -/
def TextScreen.nextRow (screen : TextScreen) (row : TextRow) : TextRow :=
  if row.y = screen.splitTextrow then
    { rows := screen.splitRows - 1
      y := row.y + 1
      newText := 0
      panned := row.panned && !screen.splitHpanning }
  else
    { row with
      rows := row.rows - 1
      y := row.y + 1
      newText := row.newText + screen.lineOffset }

/-- So many rows of the loop: what is read for them, and whether the loop ends with them. -/
def TextScreen.textLoop (screen : TextScreen) : ℕ → TextRow → List VgaAccess × Bool
  | 0, _ => ([], false)
  | fuel + 1, row =>
      let next := screen.nextRow row
      if next.rows = 0 then (screen.rowAccesses row, true)
      else
        let (accesses, ended) := screen.textLoop fuel next
        (screen.rowAccesses row ++ accesses, ended)

namespace VgaCore

/-! ## The screen -/

/-- The columns and `MSL`, with what stands in for them before they are set. -/
def textCells (s : VgaCore) : ℕ × ℕ :=
  let msl := (s.crtc.reg 0x09 &&& 0x1f).toNat
  let cols := (s.crtc.reg 0x01).toNat + 1
  let (cols, msl) := if cols = 1 ∨ msl = 0 then (80, 15) else (cols, msl)
  (cols, if msl = 1 ∧ s.verticalDisplayEnd = 399 then 3 else msl)

/-- `rows`. -/
def textRows (s : VgaCore) : ℕ := (s.verticalDisplayEnd.toNat + 1) / (s.textCells.2 + 1)

/-- `cWidth`. -/
def textCellWidth (s : VgaCore) : ℕ :=
  let width := if Word.has s.sequencer.reg1 0 then 8 else 9
  if s.xDotclockdiv2 then 2 * width else width

/-- `iWidth` and `iHeight`. -/
def textWidth (s : VgaCore) : ℕ := s.textCellWidth * s.textCells.1
def textHeight (s : VgaCore) : ℕ := s.verticalDisplayEnd.toNat + 1

/-- `tm_info.start_address`. -/
def textStart (s : VgaCore) : BitVec 16 := s.startAddr <<< 1

/-- `tm_info.v_panning`. -/
def textVpanning (s : VgaCore) : ℕ := (s.crtc.reg 0x08 &&& 0x1f).toNat

/-- `tm_info.h_panning`. -/
def textHpanning (s : VgaCore) : BitVec 4 :=
  let h := s.attributeCtrl.horizPelPanning
  if Word.has s.sequencer.reg1 0 then h &&& 0x07 else if h ≥ 8 then 0 else h + 1

/-- `cursor_address`, `0xffff` where it is not on the screen. -/
def textCursor (s : VgaCore) : ℕ :=
  let cursor := ((s.crtc.reg 0x0e ++ s.crtc.reg 0x0f : BitVec 16) <<< 1).toNat
  if cursor < s.textStart.toNat ∨
      s.textStart.toNat + s.lineOffset.toNat * s.textRows < cursor then 0xffff
  else cursor

/-- The size of the window and of the characters, if it differs. -/
def withTextSize (s : VgaCore) : VgaCore :=
  let (_, msl) := s.textCells
  if s.textWidth ≠ s.lastXres.toNat ∨ s.textHeight ≠ s.lastYres.toNat ∨
      s.textCellWidth ≠ s.lastFw.toNat ∨ msl + 1 ≠ s.lastFh.toNat ∨ s.lastBpp > 8 then
    { s with
      window :=
        { guestFwidth := BitVec.ofNat 8 s.textCellWidth
          guestFheight := BitVec.ofNat 8 (msl + 1)
          guestXres := BitVec.ofNat 16 s.textWidth
          guestYres := BitVec.ofNat 16 s.textHeight }
      lastXres := BitVec.ofNat 16 s.textWidth
      lastYres := BitVec.ofNat 16 s.textHeight
      lastFw := BitVec.ofNat 8 s.textCellWidth
      lastFh := BitVec.ofNat 8 (msl + 1)
      lastBpp := 8 }
  else s

/-- What `text_update_common` takes before the loop. -/
def textScreen (s : VgaCore) : TextScreen where
  columns := s.window.guestXres / s.window.guestFwidth.setWidth 16
  splitTextrow :=
    if s.lineCompare < 0x3ff then
      BitVec.ofNat 8 ((s.lineCompare.toNat + s.textVpanning) / s.window.guestFheight.toNat)
    else 0xff
  splitRows :=
    BitVec.ofInt 16 (((s.window.guestYres.toNat : ℤ) - s.lineCompare.toNat +
      s.window.guestFheight.toNat - 2).tdiv s.window.guestFheight.toNat + 1)
  lineOffset := s.lineOffset.toNat
  splitHpanning := s.attributeCtrl.modeCtrl.pixelPanningCompat

/-- The first row. -/
def firstRow (s : VgaCore) : TextRow where
  rows :=
    let rows := s.window.guestYres / s.window.guestFheight.setWidth 16
    if 0 < s.textVpanning then rows + 1 else rows
  y := 0
  newText := s.textStart.toNat
  panned := decide (0 < s.textHpanning)

/-- `text_update_common`, for so many rows. -/
def textUpdateCommon (fuel : ℕ) (s : VgaCore) : List VgaAccess × Bool :=
  let cursor := if s.textCursor < 0xffff then [VgaAccess.memory s.textCursor 1] else []
  let (rows, ended) := s.textScreen.textLoop fuel s.firstRow
  (cursor ++ [.divisor s.window.guestFheight.toNat, .divisor s.window.guestFwidth.toNat] ++ rows,
    ended)

/-- `VgaCoreUpdate` in the text modes, for so many rows: the state, what is accessed, and whether it
returns. -/
def updateText (fuel : ℕ) (s : VgaCore) : VgaCore × List VgaAccess × Bool :=
  let cell := VgaAccess.divisor (s.textCells.2 + 1)
  if 1 <<< 17 < s.textRows * s.lineOffset.toNat then (s, [cell], true)
  else
    let (skip, s) := s.withTextSize.skipUpdate
    if skip then (s, [cell], true)
    else
      let (accesses, ended) := s.textUpdateCommon fuel
      if ended && s.vgaMemUpdated then
        let length := s.lineOffset.toNat * s.textRows + s.textStart.toNat
        ({ s with vgaMemUpdated := false },
          cell :: accesses ++ [.memory 0 length, .snapshot length], true)
      else (s, cell :: accesses, ended)

end VgaCore

end Svmm
