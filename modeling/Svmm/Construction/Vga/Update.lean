import Svmm.Construction.Vga.State
import Mathlib.Data.List.ProdSigma

/-!
# The graphics update of the VGA

What `VgaCoreUpdate` of `vgacore.c` does in the graphics modes: it paints each tile of the screen
that is due, by the places of the memory that its pixels come from.  The colours of a tile go to the
window; those of the planes are `VgaCoreGetVgaPixel`, and the others are not modelled.
-/

namespace Svmm

namespace VgaCore

/-! ## The screen -/

/-- `VgaCoreDetermineScreenDimensions`, the width. -/
def screenWidth (s : VgaCore) : ℕ :=
  let h := ((s.crtc.reg 0x01).toNat + 1) * 8
  if s.xDotclockdiv2 then 2 * h else h

/-- `VgaCoreDetermineScreenDimensions`, the height. -/
def screenHeight (s : VgaCore) : ℕ :=
  let reg7 : BitVec 10 := (s.crtc.reg 0x07).setWidth 10
  ((s.crtc.reg 0x12).setWidth 10 ||| (reg7 &&& 0x02) <<< 7 ||| (reg7 &&& 0x40) <<< 3).toNat + 1

/-- `VgaCoreSkipUpdate`, which also takes the request to clear the screen. -/
def skipUpdate (s : VgaCore) : Bool × VgaCore :=
  let s := { s with sequencer := { s.sequencer with clearScreen := false } }
  (!s.vgaEnabled || !s.attributeCtrl.videoEnabled ||
    s.attributeCtrl.modeCtrl.graphicsAlpha != s.graphicsCtrl.graphicsAlpha ||
    !s.sequencer.reset2 || !s.sequencer.reset1 || Word.has s.sequencer.reg1 5, s)

/-! ## The places of a pixel -/

/-- A line of the picture, which is shown twice with `y_doublescan`. -/
def pixelLine (y : ℕ) (s : VgaCore) : ℕ := if s.yDoublescan then y / 2 else y

/-- `line_compare`, halved with the lines. -/
def shownLineCompare (s : VgaCore) : ℕ :=
  if s.yDoublescan then s.lineCompare.toNat / 2 else s.lineCompare.toNat

/-- `byte_offset` of `VgaCoreGetVgaPixel`. -/
def vgaPixelOffset (x y saddr lc : ℕ) (s : VgaCore) : ℕ :=
  let x := if s.xDotclockdiv2 then x / 2 else x
  if lc < y then x / 8 + (y - lc - 1) * s.lineOffset.toNat
  else saddr + x / 8 + y * s.lineOffset.toNat

/-- `VgaCoreGetVgaPixel`. -/
def getVgaPixel (x y saddr lc : ℕ) (bs : Bool) (s : VgaCore) : BitVec 8 :=
  let byteOffset := s.vgaPixelOffset x y saddr lc
  let bitNo := 7 - (if s.xDotclockdiv2 then x / 2 else x) % 8
  let planeBit (p : ℕ) : BitVec 4 :=
    if Word.has (s.memory (p * 65536 + byteOffset)) bitNo then Word.bit p else 0
  let color := (planeBit 0 ||| planeBit 1 ||| planeBit 2 ||| planeBit 3) &&&
    s.attributeCtrl.colorPlaneEnable
  let color := if s.attributeCtrl.modeCtrl.blinkIntensity then
      if bs then color ||| 0x08 else color ^^^ 0x08
    else color
  let value := s.attributeCtrl.paletteReg color
  let select : BitVec 8 := s.attributeCtrl.colorSelect.setWidth 8
  let dac := if s.attributeCtrl.modeCtrl.internalPaletteSize then (value &&& 0x0f) ||| select <<< 4
    else (value &&& 0x3f) ||| (select &&& 0x0c) <<< 4
  dac &&& s.pel.mask

/-- The place of a pixel of the CGA modes, with so many pixels in a byte. -/
def cgaPlace (pixels x y : ℕ) (s : VgaCore) : ℕ :=
  s.startAddr.toNat + (y % 2) * 0x2000 + 320 / 4 * (y / 2) + x / pixels

/-- The place of a pixel of the modes of a byte a pixel: doubleword, byte and word mode. -/
def bytePlace (x y : ℕ) (s : VgaCore) : ℕ :=
  let pixelx := x / 2
  let plane := pixelx % 4
  let line := y * s.lineOffset.toNat
  if Word.has (s.crtc.reg 0x14) 6 then
    s.startAddr.toNat + plane * 65536 + line + pixelx / 4 * 4
  else if Word.has (s.crtc.reg 0x17) 6 then
    s.startAddr.toNat + (plane * 65536 + line + pixelx / 4)
  else s.startAddr.toNat + (plane * 65536 + line + pixelx / 2 / 2 * 2)

/-- The standard EGA/VGA format. -/
def serialPlanes (s : VgaCore) : Bool :=
  s.graphicsCtrl.shiftReg = 0 && Word.has (s.crtc.reg 0x17) 0

/-- The places of the memory that a pixel of the screen comes from. -/
def pixelPlaces (x y : ℕ) (s : VgaCore) : List ℕ :=
  let y := s.pixelLine y
  if s.graphicsCtrl.shiftReg = 0 then
    if Word.has (s.crtc.reg 0x17) 0 then
      (List.range 4).map fun p =>
        p * 65536 + s.vgaPixelOffset x y s.startAddr.toNat s.shownLineCompare
    else [s.cgaPlace 8 x y]
  else if s.graphicsCtrl.shiftReg = 1 then
    [s.cgaPlace 4 (if s.xDotclockdiv2 then x / 2 else x) y]
  else [s.bytePlace x y]

/-! ## Painting -/

/-- What is read for the tile of a row and a column. -/
def tileAccesses (s : VgaCore) (tile : ℕ × ℕ) : List VgaAccess :=
  (List.range yTilesize).flatMap fun r => (List.range xTilesize).flatMap fun c =>
    (s.pixelPlaces (tile.2 * xTilesize + c) (tile.1 * yTilesize + r)).map fun place =>
      .memory place 1

/-- The rows and columns of the tiles of the screen. -/
def screenTiles (s : VgaCore) : List (ℕ × ℕ) :=
  List.range ((s.screenHeight + yTilesize - 1) / yTilesize) ×ˢ
    List.range ((s.screenWidth + xTilesize - 1) / xTilesize)

/-- The loops over the tiles: a tile that is due is painted and marked as such. -/
def paintTiles (all : Bool) (use : ℕ × ℕ → List VgaAccess) :
    List (ℕ × ℕ) → VgaCore → VgaCore × List VgaAccess
  | [], s => (s, [])
  | tile :: tiles, s =>
      if all || s.getTileUpdated tile.2 tile.1 then
        let (s, accesses) := paintTiles all use tiles (s.setTileUpdated tile.2 tile.1 false)
        (s, use tile ++ accesses)
      else paintTiles all use tiles s

/-- The size that the screen has now. -/
def withScreenSize (s : VgaCore) : VgaCore :=
  if s.screenWidth ≠ s.lastXres.toNat ∨ s.screenHeight ≠ s.lastYres.toNat ∨ s.lastBpp > 8 then
    { s with
      lastXres := BitVec.ofNat 16 s.screenWidth
      lastYres := BitVec.ofNat 16 s.screenHeight
      lastBpp := 8 }
  else s

/-- `VgaCoreUpdate` in the graphics modes; with the cursor toggled every tile of the planes is
due. -/
def updateGraphics (csToggle : Bool) (s : VgaCore) : VgaCore × List VgaAccess :=
  let (skip, s) := s.withScreenSize.skipUpdate
  if skip then (s, [])
  else
    let (t, accesses) := s.paintTiles (csToggle && s.serialPlanes) s.tileAccesses s.screenTiles
    ({ t with vgaMemUpdated := false }, accesses)

end VgaCore

end Svmm
