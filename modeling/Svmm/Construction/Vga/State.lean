import Svmm.Framework.Word
import Mathlib.Logic.Function.Basic

/-!
# The state of the VGA

`struct VgaCore` of `vgacore.h`, with the counters that `VgaCoreUpdate` keeps between calls and the
size that the window was last given by `dimension_update`.  A field that every write masks has the
width of the mask.  `plane_shift` is 16, `ext_offset`, `ext_y_dblsize` and `vga_override` are 0 and
`blink_counter` is 1 throughout.  The times of the retrace are not read by any function here.

A function gives, with the state, the accesses it makes to what has a limit: the places of
`VgaCore.memory` that it reads or writes, the length it copies into `text_snapshot`, and the numbers
it divides by.
-/

namespace Svmm

/-- What a function of the VGA does that may go wrong: it uses a part of `VgaCore.memory`, it copies
into `VgaCore.text_snapshot`, it divides. -/
inductive VgaAccess where
  | memory (index length : ℕ)
  | snapshot (length : ℕ)
  | divisor (value : ℕ)
  deriving DecidableEq, Repr

/-- `VgaCore.memsize` and the size of `text_snapshot`. -/
def vgaMemsize : ℕ := 0x40000
def textSnapshotSize : ℕ := 128 * 1024

/-- The access is within the memory or the snapshot. -/
def VgaAccess.InBounds : VgaAccess → Prop
  | .memory index length => index + length ≤ vgaMemsize
  | .snapshot length => length ≤ textSnapshotSize
  | .divisor _ => True

/-- The access is no division by zero. -/
def VgaAccess.Defined : VgaAccess → Prop
  | .divisor value => value ≠ 0
  | _ => True

instance (a : VgaAccess) : Decidable a.InBounds := by
  unfold VgaAccess.InBounds
  split <;> infer_instance

instance (a : VgaAccess) : Decidable a.Defined := by
  unfold VgaAccess.Defined
  split <;> infer_instance

/-! ## The registers -/

/-- `misc_output`. -/
structure VgaMisc where
  colorEmulation : Bool
  enableRam : Bool
  clockSelect : BitVec 2
  selectHighBank : Bool
  horizSyncPol : Bool
  vertSyncPol : Bool

/-- The literals of the CRT controller's register numbers use this one. -/
instance crtcRegisters_neZero : NeZero 0x19 := ⟨by decide⟩

/-- `CRTC`. -/
structure VgaCrtc where
  address : BitVec 6
  reg : Fin 0x19 → BitVec 8
  writeProtect : Bool

/-- `attribute_ctrl.mode_ctrl`. -/
structure VgaModeCtrl where
  graphicsAlpha : Bool
  displayType : Bool
  enableLineGraphics : Bool
  blinkIntensity : Bool
  pixelPanningCompat : Bool
  pixelClockSelect : Bool
  internalPaletteSize : Bool

/-- `attribute_ctrl`. -/
structure VgaAttribute where
  flipFlop : Bool
  address : BitVec 5
  videoEnabled : Bool
  paletteReg : BitVec 4 → BitVec 8
  overscanColor : BitVec 6
  colorPlaneEnable : BitVec 4
  horizPelPanning : BitVec 4
  colorSelect : BitVec 4
  modeCtrl : VgaModeCtrl

/-- A colour of `pel.data`. -/
structure VgaColor where
  red : BitVec 8
  green : BitVec 8
  blue : BitVec 8

/-- `pel`. -/
structure VgaPel where
  writeDataRegister : BitVec 8
  writeDataCycle : BitVec 8
  readDataRegister : BitVec 8
  readDataCycle : BitVec 8
  dacState : BitVec 8
  data : BitVec 8 → VgaColor
  mask : BitVec 8

/-- `graphics_ctrl`. -/
structure VgaGraphics where
  index : BitVec 8
  setReset : BitVec 4
  enableSetReset : BitVec 4
  colorCompare : BitVec 4
  dataRotate : BitVec 3
  rasterOp : BitVec 2
  readMapSelect : BitVec 2
  writeMode : BitVec 2
  readMode : BitVec 1
  oddEven : Bool
  chainOddEven : Bool
  shiftReg : BitVec 2
  graphicsAlpha : Bool
  memoryMapping : BitVec 2
  colorDontCare : BitVec 4
  bitmask : BitVec 8
  latch : Fin 4 → BitVec 8

/-- `sequencer`. -/
structure VgaSequencer where
  index : BitVec 8
  mapMask : BitVec 4
  reset1 : Bool
  reset2 : Bool
  reg1 : BitVec 8
  charMapSelect : BitVec 6
  extendedMem : Bool
  oddEven : Bool
  chainFour : Bool
  clearScreen : Bool

/-- `guest_fwidth` and what else `dimension_update` sets of `gui.c`. -/
structure VgaWindow where
  guestFwidth : BitVec 8
  guestFheight : BitVec 8
  guestXres : BitVec 16
  guestYres : BitVec 16

/-- `struct VgaCore`, and `cs_counter` and `cs_visible` of `VgaCoreUpdate`. -/
structure VgaCore where
  miscOutput : VgaMisc
  crtc : VgaCrtc
  attributeCtrl : VgaAttribute
  pel : VgaPel
  graphicsCtrl : VgaGraphics
  sequencer : VgaSequencer
  vgaEnabled : Bool
  vgaMemUpdated : Bool
  lineOffset : BitVec 11
  lineCompare : BitVec 10
  verticalDisplayEnd : BitVec 10
  tileUpdated : ℕ → ℕ → Bool
  memory : ℕ → BitVec 8
  charmapAddress : BitVec 16
  xDotclockdiv2 : Bool
  yDoublescan : Bool
  lastXres : BitVec 16
  lastYres : BitVec 16
  lastBpp : BitVec 8
  lastFw : BitVec 8
  lastFh : BitVec 8
  csCounter : BitVec 32
  csVisible : Bool
  window : VgaWindow

/-! ## Tiles -/

/-- `X_TILESIZE` and `Y_TILESIZE`. -/
def xTilesize : ℕ := 16
def yTilesize : ℕ := 24

/-- `num_x_tiles` and `num_y_tiles`, from a screen of 800 by 600. -/
def numXTiles : ℕ := 50
def numYTiles : ℕ := 25

namespace VgaCore

/-- `SET_TILE_UPDATED`. -/
def setTileUpdated (xtile ytile : ℕ) (value : Bool) (s : VgaCore) : VgaCore :=
  if xtile < numXTiles ∧ ytile < numYTiles then
    { s with
      tileUpdated := fun x y => if x = xtile ∧ y = ytile then value else s.tileUpdated x y }
  else s

/-- `GET_TILE_UPDATED`. -/
def getTileUpdated (xtile ytile : ℕ) (s : VgaCore) : Bool :=
  if xtile < numXTiles ∧ ytile < numYTiles then s.tileUpdated xtile ytile else false

/-- `(CRTC.reg[0x0c] << 8) | CRTC.reg[0x0d]`. -/
def startAddr (s : VgaCore) : BitVec 16 := s.crtc.reg 0x0c ++ s.crtc.reg 0x0d

/-- A store into `VgaCore.memory`. -/
def store (index : ℕ) (value : BitVec 8) (s : VgaCore) : VgaCore :=
  { s with memory := Function.update s.memory index value }

/-- `redraw_area` from the corner of the screen, with a width and a height above 0. -/
def redrawArea (width height : ℕ) (s : VgaCore) : VgaCore :=
  let s := { s with vgaMemUpdated := true }
  if s.graphicsCtrl.graphicsAlpha then
    { s with
      tileUpdated := fun x y =>
        if x ≤ (width - 1) / xTilesize ∧ y ≤ (height - 1) / yTilesize ∧
            x < numXTiles ∧ y < numYTiles then true
        else s.tileUpdated x y }
  else s

/-- `vga_redraw_area(0, 0, last_xres, last_yres)`. -/
def vgaRedrawArea (s : VgaCore) : VgaCore :=
  if s.lastXres = 0 ∨ s.lastYres = 0 then s
  else s.redrawArea s.lastXres.toNat s.lastYres.toNat

/-- `VgaCoreInitialize`. -/
def initialState : VgaCore where
  miscOutput :=
    { colorEmulation := true, enableRam := true, clockSelect := 0, selectHighBank := false
      horizSyncPol := true, vertSyncPol := true }
  crtc := { address := 0, reg := fun _ => 0, writeProtect := false }
  attributeCtrl :=
    { flipFlop := false, address := 0, videoEnabled := true, paletteReg := fun _ => 0
      overscanColor := 0, colorPlaneEnable := 0x0f, horizPelPanning := 0, colorSelect := 0
      modeCtrl :=
        { graphicsAlpha := false, displayType := false, enableLineGraphics := true
          blinkIntensity := false, pixelPanningCompat := false, pixelClockSelect := false
          internalPaletteSize := false } }
  pel :=
    { writeDataRegister := 0, writeDataCycle := 0, readDataRegister := 0, readDataCycle := 0
      dacState := 0x01, data := fun _ => ⟨0, 0, 0⟩, mask := 0xff }
  graphicsCtrl :=
    { index := 0, setReset := 0, enableSetReset := 0, colorCompare := 0, dataRotate := 0
      rasterOp := 0, readMapSelect := 0, writeMode := 0, readMode := 0, oddEven := false
      chainOddEven := false, shiftReg := 0, graphicsAlpha := false, memoryMapping := 2
      colorDontCare := 0, bitmask := 0, latch := fun _ => 0 }
  sequencer :=
    { index := 0, mapMask := 0, reset1 := true, reset2 := true, reg1 := 0, charMapSelect := 0
      extendedMem := true, oddEven := true, chainFour := false, clearScreen := false }
  vgaEnabled := true
  vgaMemUpdated := false
  lineOffset := 80
  lineCompare := 1023
  verticalDisplayEnd := 399
  tileUpdated := fun _ _ => false
  memory := fun _ => 0
  charmapAddress := 0
  xDotclockdiv2 := false
  yDoublescan := false
  lastXres := 0
  lastYres := 0
  lastBpp := 8
  lastFw := 0
  lastFh := 0
  csCounter := 1
  csVisible := false
  window := ⟨0, 0, 0, 0⟩

end VgaCore

end Svmm
