import Svmm.Construction.Vga.Step
import Mathlib.Data.Fintype.Card

/-!
# The characters of the text window

What `text_update_common` of `gui.c` draws: `Construction/Vga/Text.lean` has its rows by what they
read, here each character of a row is compared with the snapshot of the last update and drawn where
it differs.  The window is known by the last call of `draw_char` for each place, a place being the
number of a row and of a character in the two loops; what `draw_char` puts there of the font and
the palette belongs to `win32gui.c`.  The fonts change only in `set_font`, which an update calls
before it draws every character again.

The parameter `cursor_address` hides the variable of that name, so that the branch for a cursor that
has moved compares it with itself and is left out.
-/

namespace Svmm

/-! ## A character -/

/-- Where a character is drawn: `xc`, `yc`, `fw`, `fh`, `fx` and `fy` of `draw_char`. -/
structure CharPlace where
  xc : BitVec 16
  yc : BitVec 16
  fw : BitVec 8
  fh : BitVec 8
  fx : BitVec 8
  fy : BitVec 8
  deriving DecidableEq

/-- A call of `draw_char`, with the lines of the cursor if `curs` is set. -/
structure CharDraw where
  place : CharPlace
  ch : BitVec 8
  fc : BitVec 8
  bc : BitVec 8
  gfxcharw9 : Bool
  curs : Option (BitVec 8 × BitVec 8)
  deriving DecidableEq

/-- What the window shows of each place, if a character was drawn there since it was cleared or
painted over. -/
abbrev TextWindow := ℕ → ℕ → Option CharDraw

/-- `draw_char` at a place. -/
def TextWindow.put (n x : ℕ) (d : CharDraw) (w : TextWindow) : TextWindow :=
  Function.update w n (Function.update (w n) x (some d))

/-- What `text_update_common` takes of the window and of `bx_vga_tminfo_t` to draw a character. -/
structure TextStyle where
  fwidth : BitVec 8
  fheight : BitVec 8
  yres : BitVec 16
  lineCompare : BitVec 10
  hPanning : BitVec 8
  vPanning : BitVec 8
  lineGraphics : Bool
  blinkMode : Bool
  palette : BitVec 4 → BitVec 8

/-- What it takes of them that an update may find changed without drawing everything: `curs`,
`cs_start` and `cs_end`, and `blink_state`. -/
structure TextCursor where
  curs : BitVec 16
  lines : BitVec 8 × BitVec 8
  blinkState : Bool

/-- Where the loop over the rows is: its row, the place of `old_text`, `loffset`, `yc` and
`split_screen`. -/
structure TextPen where
  row : TextRow
  oldText : ℕ
  loffset : BitVec 16
  yc : BitVec 16
  split : Bool

/-- The geometry of the text: the rows, `guest_fwidth` and what else an update does not change. -/
structure TextLayout where
  screen : TextScreen
  first : TextRow
  start : BitVec 16
  rows : ℕ
  style : TextStyle

namespace TextStyle

/-- `fgcolor` and `bgcolor`. -/
def colors (attr : BitVec 8) (blinkState : Bool) (style : TextStyle) : BitVec 8 × BitVec 8 :=
  let fg := style.palette (attr.setWidth 4)
  if style.blinkMode then
    let bg := style.palette ((attr >>> 4 &&& 0x07).setWidth 4)
    (if !blinkState ∧ Word.has attr 7 then bg else fg, bg)
  else (fg, style.palette ((attr >>> 4).setWidth 4))

/-- `gfxcharw9`. -/
def gfxcharw9 (ch : BitVec 8) (style : TextStyle) : Bool :=
  style.lineGraphics && ch &&& 0xe0 == 0xc0

end TextStyle

namespace TextLayout

variable (layout : TextLayout)

/-- `hchars`. -/
def hchars (pen : TextPen) : BitVec 16 :=
  if pen.row.panned then layout.screen.columns + 1 else layout.screen.columns

/-- `split_fontrows`. -/
def splitFontrows : BitVec 8 :=
  if layout.style.lineCompare < 0x3ff then
    BitVec.ofNat 8 ((layout.style.lineCompare.toNat + layout.style.vPanning.toNat) %
      layout.style.fheight.toNat + 1)
  else 0

/-- The height of the last row below the split. -/
def lastHeight : BitVec 8 :=
  let left := BitVec.ofInt 8 (((layout.style.yres.toNat : ℤ) - layout.style.lineCompare.toNat -
    1).tmod layout.style.fheight.toNat)
  if left = 0 then layout.style.fheight else left

/-- `cfheight` and `cfrow`. -/
def charRows (pen : TextPen) : BitVec 8 × BitVec 8 :=
  let v := layout.style.vPanning
  let (cfheight, cfrow) :=
    if pen.split then
      if pen.row.rows = 1 then (layout.lastHeight, 0) else (layout.style.fheight, 0)
    else if 0 < v then
      if pen.row.y = 0 then (layout.style.fheight - v, v)
      else if pen.row.rows = 1 then (v, 0)
      else (layout.style.fheight, 0)
    else (layout.style.fheight, 0)
  if pen.row.y = layout.screen.splitTextrow then (layout.splitFontrows - cfrow, cfrow)
  else (cfheight, cfrow)

/-- `cfwidth` and `cfcol` of a character of the row; its number is a byte. -/
def charCols (pen : TextPen) (x : ℕ) : BitVec 8 × BitVec 8 :=
  let h := layout.style.hPanning
  if pen.row.panned then
    if BitVec.ofNat 8 x = 0 then (layout.style.fwidth - h, h)
    else if x + 1 = roundsDown (layout.hchars pen) then (h, 0)
    else (layout.style.fwidth, 0)
  else (layout.style.fwidth, 0)

/-- `xc`. -/
def charX (pen : TextPen) (x : ℕ) : BitVec 16 :=
  (List.range x).foldl (fun xc i => xc + (layout.charCols pen i).1.setWidth 16) 0

/-- The place of a character of a row. -/
def charPlace (pen : TextPen) (x : ℕ) : CharPlace :=
  let (cfheight, cfrow) := layout.charRows pen
  let (cfwidth, cfcol) := layout.charCols pen x
  { xc := layout.charX pen x
    yc := pen.yc
    fw := cfwidth
    fh := cfheight
    fx := cfcol
    fy := cfrow }

/-- A character of a row as it is drawn. -/
def charDraw (cursor : TextCursor) (pen : TextPen) (x : ℕ) (ch attr : BitVec 8) : CharDraw :=
  let (fg, bg) := layout.style.colors attr cursor.blinkState
  { place := layout.charPlace pen x
    ch := ch
    fc := fg
    bc := bg
    gfxcharw9 := layout.style.gfxcharw9 ch
    curs :=
      if pen.loffset + BitVec.ofNat 16 (2 * x) = cursor.curs then some cursor.lines else none }

/-! ## The loops -/

/-- A character is drawn if everything is, or if it is not that of the snapshot. -/
def due (force : Bool) (old new : ℕ → BitVec 8) (pen : TextPen) (x : ℕ) : Bool :=
  force || pen.split || new (pen.row.newText + 2 * x) != old (pen.oldText + 2 * x) ||
    new (pen.row.newText + 2 * x + 1) != old (pen.oldText + 2 * x + 1)

/-- A turn of the loop over the characters of a row. -/
def drawAt (force : Bool) (cursor : TextCursor) (old new : ℕ → BitVec 8) (pen : TextPen) (n x : ℕ)
    (w : TextWindow) : TextWindow :=
  if due force old new pen x then
    w.put n x (layout.charDraw cursor pen x (new (pen.row.newText + 2 * x))
      (new (pen.row.newText + 2 * x + 1)))
  else w

/-- The loop over the characters of a row. -/
def drawRow (force : Bool) (cursor : TextCursor) (old new : ℕ → BitVec 8) (pen : TextPen) (n : ℕ)
    (w : TextWindow) : TextWindow :=
  (List.range (roundsDown (layout.hchars pen))).foldl
    (fun w x => layout.drawAt force cursor old new pen n x w) w

/-- The row after a row; at the split `old_text` stays behind the last character. -/
def nextPen (pen : TextPen) : TextPen :=
  let row := layout.screen.nextRow pen.row
  let yc := pen.yc + (layout.charRows pen).1.setWidth 16
  if pen.row.y = layout.screen.splitTextrow then
    { row := row
      oldText := pen.oldText + 2 * roundsDown (layout.hchars pen)
      loffset := 0
      yc := yc
      split := true }
  else
    { row := row
      oldText := pen.oldText + layout.screen.lineOffset
      loffset := pen.loffset + BitVec.ofNat 16 layout.screen.lineOffset
      yc := yc
      split := pen.split }

/-- The loop over the rows, for so many of them. -/
def drawRows (force : Bool) (cursor : TextCursor) (old new : ℕ → BitVec 8) :
    ℕ → ℕ → TextPen → TextWindow → TextWindow
  | 0, _, _, w => w
  | fuel + 1, n, pen, w =>
      let w := layout.drawRow force cursor old new pen n w
      let next := layout.nextPen pen
      if next.row.rows = 0 then w else drawRows force cursor old new fuel (n + 1) next w

/-- The pen at the first row. -/
def firstPen : TextPen where
  row := layout.first
  oldText := layout.start.toNat
  loffset := layout.start
  yc := 0
  split := false

end TextLayout

namespace VgaCore

/-! ## What an update draws with -/

/-- What is drawn with, from the registers. -/
def textStyle (s : VgaCore) : TextStyle where
  fwidth := s.window.guestFwidth
  fheight := s.window.guestFheight
  yres := s.window.guestYres
  lineCompare := s.lineCompare
  hPanning := s.textHpanning.setWidth 8
  vPanning := BitVec.ofNat 8 s.textVpanning
  lineGraphics := s.attributeCtrl.modeCtrl.enableLineGraphics
  blinkMode := s.attributeCtrl.modeCtrl.blinkIntensity
  palette := fun i => s.attributeCtrl.paletteReg i &&& s.pel.mask

/-- The geometry of the text. -/
def textLayout (s : VgaCore) : TextLayout where
  screen := s.textScreen
  first := s.firstRow
  start := s.textStart
  rows := s.textRows
  style := s.textStyle

/-- `cs_start` and `cs_end`. -/
def cursorLines (s : VgaCore) : BitVec 8 × BitVec 8 :=
  (s.crtc.reg 0x0a &&& 0x3f, s.crtc.reg 0x0b &&& 0x1f)

/-- `cursor_visible`. -/
def cursorVisible (s : VgaCore) : Bool :=
  decide (s.cursorLines.1 ≤ s.cursorLines.2 ∧ s.cursorLines.1 < s.window.guestFheight) &&
    (!s.attributeCtrl.modeCtrl.blinkIntensity || s.csVisible)

/-- What is drawn of the cursor. -/
def drawnCursor (s : VgaCore) : TextCursor where
  curs := if s.cursorVisible then BitVec.ofNat 16 s.textCursor else 0xffff
  lines := s.cursorLines
  blinkState := s.attributeCtrl.modeCtrl.blinkIntensity && s.csVisible

/-- What `memcpy` copies into the snapshot. -/
def copiedLength (s : VgaCore) : ℕ := s.lineOffset.toNat * s.textRows + s.textStart.toNat

/-- The write reaches `clear_screen`. -/
def clearsScreen (address : BitVec 64) (value : BitVec 32) (s : VgaCore) : Bool :=
  decide (address = 0x03c0) && !s.attributeCtrl.flipFlop && !Word.has value 5

/-- `redraw_area` clears the snapshot, with the flags of a write. -/
def clearsSnapshot (changes : VgaChanges) (s : VgaCore) : Bool :=
  changes.needsUpdate && s.lastXres != 0 && s.lastYres != 0 && !s.graphicsCtrl.graphicsAlpha

/-- A byte that is written goes to the set of characters. -/
def writesCharacter (address : BitVec 64) (s : VgaCore) : Bool :=
  match s.writeOffset address with
  | none => false
  | some offset =>
      !(s.graphicsCtrl.graphicsAlpha && (s.graphicsCtrl.memoryMapping == 3 ||
        s.sequencer.chainFour)) &&
        Word.has s.sequencer.mapMask 2 && (offset &&& 0xe000) == s.charmapAddress.setWidth 32

end VgaCore

/-! ## The VGA with its window -/

/-- The VGA with `text_snapshot`, `charmap_updated` and the fields of `tm_info` that `gui.c` keeps,
and the window. -/
structure VgaText where
  core : VgaCore
  snapshot : ℕ → BitVec 8
  charmapUpdated : Bool
  hPanning : BitVec 8
  vPanning : BitVec 8
  lineCompare : BitVec 10
  window : TextWindow

/-- The window without a character. -/
def TextWindow.cleared : TextWindow := fun _ _ => none

namespace VgaText

/-- `forceUpdate`, before the rows. -/
def forceUpdate (csToggle : Bool) (s : VgaCore) (t : VgaText) : Bool :=
  s.textStyle.blinkMode && csToggle || t.charmapUpdated ||
    (s.textStyle.hPanning != t.hPanning || s.textStyle.vPanning != t.vPanning ||
      s.lineCompare != t.lineCompare)

/-- The snapshot with the character at the cursor made one to be drawn. -/
def invalidated (s : VgaCore) (old : ℕ → BitVec 8) : ℕ → BitVec 8 :=
  if s.textCursor < 0xffff then
    Function.update old s.textCursor (~~~ s.memory s.textCursor)
  else old

/-- The snapshot after an update. -/
def copied (s : VgaCore) (old : ℕ → BitVec 8) : ℕ → BitVec 8 := fun a =>
  if s.vgaMemUpdated ∧ a < s.copiedLength then s.memory a else old a

/-- `text_update_common` and the copy after it, for so many rows. -/
def drawText (fuel : ℕ) (csToggle : Bool) (s : VgaCore) (t : VgaText) : VgaText :=
  let old := invalidated s t.snapshot
  { t with
    snapshot := copied s old
    charmapUpdated := false
    hPanning := s.textStyle.hPanning
    vPanning := s.textStyle.vPanning
    lineCompare := s.lineCompare
    window := s.textLayout.drawRows (forceUpdate csToggle s t) s.drawnCursor old s.memory fuel 0
      s.textLayout.firstPen t.window }

/-- The request to clear the screen. -/
def clearOn (s : VgaCore) (t : VgaText) : VgaText :=
  if s.sequencer.clearScreen then { t with window := .cleared } else t

/-- `VgaCoreUpdate` after its count, by what it does beside the VGA itself. -/
def updateWindow (fuel : ℕ) (csToggle : Bool) (s : VgaCore) (t : VgaText) : VgaText :=
  if s.graphicsCtrl.graphicsAlpha then
    -- the tiles are painted over the characters
    if s.withScreenSize.skipUpdate.1 then t.clearOn s else { t with window := .cleared }
  else if 1 <<< 17 < s.textRows * s.lineOffset.toNat then t
  else if s.withTextSize.skipUpdate.1 then t.clearOn s
  else (t.clearOn s).drawText fuel csToggle s.withTextSize.skipUpdate.2

/-- The VGA itself replaced. -/
def withCore (core : VgaCore) (t : VgaText) : VgaText := { t with core := core }

/-- `VgaCoreUpdate`, for so many rows of a text. -/
def update (fuel : ℕ) (t : VgaText) : VgaText :=
  match t.core.countUpdate with
  | (_, none) => t.withCore (t.core.update fuel).1
  | (s, some csToggle) => (t.updateWindow fuel csToggle s).withCore (t.core.update fuel).1

/-- `VgaCorePortIoWriteHandler` for a byte. -/
def coreWriteByte (address : BitVec 64) (value : BitVec 32) (t : VgaText) : VgaText :=
  if t.core.otherEmulation address then t
  else
    let (s, changes) := t.core.writePort address value
    { t with
      core := (s.applyChanges changes).1
      snapshot := if s.clearsSnapshot changes then fun _ => 0 else t.snapshot
      charmapUpdated := t.charmapUpdated || changes.charmapUpdate
      window := if t.core.clearsScreen address value then .cleared else t.window }

/-- `VgaPortIoWriteHandler` for a byte. -/
def portWriteByte (address : BitVec 64) (value : BitVec 32) (t : VgaText) : VgaText :=
  if t.core.otherEmulation address then t
  else if address = 0x03b5 ∨ address = 0x03d5 then
    if h : t.core.crtc.address.toNat < 0x19 then
      if value ≠ (t.core.crtc.reg ⟨t.core.crtc.address.toNat, h⟩).setWidth 32 then
        t.coreWriteByte address value
      else t
    else t
  else t.coreWriteByte address value

/-- `VgaPortIoWriteHandler`. -/
def portIoWriteHandler (address : BitVec 64) (value length : BitVec 32) (t : VgaText) : VgaText :=
  if length = 2 then
    (t.portWriteByte address (value &&& 0xff)).portWriteByte (address + 1)
      ((value >>> 8) &&& 0xff)
  else t.portWriteByte address value

/-- `VgaCoreMMIOWriteHandler`. -/
def mmioWriteHandler (address : BitVec 32) : List (BitVec 8) → VgaText → VgaText
  | [], t => t
  | byte :: bytes, t =>
      mmioWriteHandler (address + 1) bytes
        { t with
          core := (t.core.mmioWrite (address.setWidth 64) (byte.setWidth 32)).1
          charmapUpdated := t.charmapUpdated || t.core.writesCharacter (address.setWidth 64) }

/-- What an event does, for so many rows of a text. -/
def after (fuel : ℕ) (t : VgaText) : VgaEvent → VgaText
  | .portWrite address value length => t.portIoWriteHandler address value length
  | .portRead address length => { t with core := (t.core.portIoReadHandler address length).2 }
  | .memoryWrite address data => t.mmioWriteHandler address data
  | .memoryRead address length => { t with core := (t.core.mmioReadHandler address length).2.1 }
  | .update => t.update fuel

/-- A step of the VGA with its window. -/
def step (t : VgaText) (event : VgaEvent) : Except VgaStop VgaText := do
  let _ ← vgaStep t.core event
  return t.after textFuel event

end VgaText

end Svmm
