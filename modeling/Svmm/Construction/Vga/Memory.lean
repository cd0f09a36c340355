import Svmm.Construction.Vga.State

/-!
# The memory of the VGA

`_VgaCoreMMIOReadHandler` and `_VgaCoreMMIOWriteHandler` of `vgacore.c`, which the handlers of the
aperture call for each byte.  The four planes are at multiples of 64 KB of `VgaCore.memory`.  The
expressions that the source writes out for each plane are one definition with the plane; the table
`ccdat` has `0xff` where the bit of its row is set.  What `set_text_charbyte` keeps of the
characters is not read here.

Of the numbers that are divided by, those listed are the ones that are not constants.
-/

namespace Svmm

/-- `&VgaCore.memory[p << VgaCore.plane_shift]` and an offset. -/
def planeIndex (p : Fin 4) (offset : BitVec 32) : ℕ := p.val <<< 16 + offset.toNat

/-- The place of a byte in the chained representation. -/
def chainedIndex (offset : BitVec 32) : ℕ := ((offset &&& ~~~ 0x03) + (offset % 4) * 65536).toNat

/-- A row of `ccdat`. -/
def ccdat (color : BitVec 4) (p : Fin 4) : BitVec 8 := if Word.has color p then 0xff else 0

namespace VgaGraphics

/-- The CPU data, rotated in the type of the parameter. -/
def rotated (value : BitVec 32) (g : VgaGraphics) : BitVec 32 :=
  if g.dataRotate ≠ 0 then
    value >>> g.dataRotate.toNat ||| value <<< (8 - g.dataRotate.toNat)
  else value

/-- Write mode 0 for a plane. -/
def writeMode0 (value : BitVec 32) (p : Fin 4) (g : VgaGraphics) : BitVec 8 :=
  let value := (g.rotated value).setWidth 8
  let latch := g.latch p
  let enable := Word.has g.enableSetReset p
  let set := Word.has g.setReset p
  (latch &&& ~~~ g.bitmask) |||
    if g.rasterOp = 0 then
      if enable then (if set then g.bitmask else 0) else value &&& g.bitmask
    else if g.rasterOp = 1 then
      if enable then (if set then latch &&& g.bitmask else 0) else (value &&& latch) &&& g.bitmask
    else if g.rasterOp = 2 then
      if enable then (if set then g.bitmask else latch &&& g.bitmask)
      else (value ||| latch) &&& g.bitmask
    else
      if enable then (if set then ~~~ latch &&& g.bitmask else latch &&& g.bitmask)
      else (value ^^^ latch) &&& g.bitmask

/-- Write mode 2 for a plane. -/
def writeMode2 (value : BitVec 32) (p : Fin 4) (g : VgaGraphics) : BitVec 8 :=
  let latch := g.latch p
  let set := Word.has value p
  (latch &&& ~~~ g.bitmask) |||
    if g.rasterOp = 0 then (if set then g.bitmask else 0)
    else if g.rasterOp = 1 then (if set then latch &&& g.bitmask else 0)
    else if g.rasterOp = 2 then (if set then g.bitmask else latch &&& g.bitmask)
    else (if set then ~~~ latch &&& g.bitmask else latch &&& g.bitmask)

/-- Write mode 3 for a plane; the mask is taken before the data is rotated. -/
def writeMode3 (value : BitVec 32) (p : Fin 4) (g : VgaGraphics) : BitVec 8 :=
  let bitmask := g.bitmask &&& value.setWidth 8
  let value := (g.rotated value).setWidth 8 &&& bitmask
  let latch := g.latch p
  let set := if Word.has g.setReset p then value else 0
  (latch &&& ~~~ bitmask) |||
    if g.rasterOp = 0 then set
    else if g.rasterOp = 1 then set &&& latch
    else if g.rasterOp = 2 then set ||| latch
    else set ^^^ latch

/-- `new_val` of a plane. -/
def newVal (value : BitVec 32) (p : Fin 4) (g : VgaGraphics) : BitVec 8 :=
  if g.writeMode = 0 then g.writeMode0 value p
  else if g.writeMode = 1 then g.latch p
  else if g.writeMode = 2 then g.writeMode2 value p
  else g.writeMode3 value p

end VgaGraphics

namespace VgaCore

/-! ## Reads -/

/-- The offset that a read decodes. -/
def readOffset (address : BitVec 64) (s : VgaCore) : Option (BitVec 32) :=
  if s.graphicsCtrl.memoryMapping = 1 then
    if address > 0xaffff then none else some ((address &&& 0xffff).setWidth 32)
  else if s.graphicsCtrl.memoryMapping = 2 then
    if address < 0xb0000 ∨ address > 0xb7fff then none
    else some ((address &&& 0x7fff).setWidth 32)
  else if s.graphicsCtrl.memoryMapping = 3 then
    if address < 0xb8000 then none else some ((address &&& 0x7fff).setWidth 32)
  else some ((address &&& 0x1ffff).setWidth 32)

/-- The latches take a byte of each plane. -/
def loadLatches (offset : BitVec 32) (s : VgaCore) : VgaCore :=
  { s with
    graphicsCtrl := { s.graphicsCtrl with latch := fun p => s.memory (planeIndex p offset) } }

/-- What read mode 1 gives for the latches. -/
def compareColor (g : VgaGraphics) : BitVec 8 :=
  let differs (p : Fin 4) := (g.latch p ^^^ ccdat g.colorCompare p) &&& ccdat g.colorDontCare p
  ~~~ (differs 0 ||| differs 1 ||| differs 2 ||| differs 3)

/-- `_VgaCoreMMIOReadHandler`. -/
def mmioRead (address : BitVec 64) (s : VgaCore) : BitVec 8 × VgaCore × List VgaAccess :=
  match s.readOffset address with
  | none => (0xff, s, [])
  | some offset =>
      if s.sequencer.chainFour then
        (s.memory (chainedIndex offset), s, [.memory (chainedIndex offset) 1])
      else
        let t := s.loadLatches offset
        let value := if s.graphicsCtrl.readMode = 0 then
            t.graphicsCtrl.latch (Fin.ofNat 4 t.graphicsCtrl.readMapSelect.toNat)
          else compareColor t.graphicsCtrl
        (value, t, (List.finRange 4).map fun p => .memory (planeIndex p offset) 1)

/-! ## Writes -/

/-- The offset that a write decodes. -/
def writeOffset (address : BitVec 64) (s : VgaCore) : Option (BitVec 32) :=
  if s.graphicsCtrl.memoryMapping = 1 then
    if address < 0xa0000 ∨ address > 0xaffff then none
    else some (address.setWidth 32 - 0xa0000)
  else if s.graphicsCtrl.memoryMapping = 2 then
    if address < 0xb0000 ∨ address > 0xb7fff then none
    else some (address.setWidth 32 - 0xb0000)
  else if s.graphicsCtrl.memoryMapping = 3 then
    if address < 0xb8000 ∨ address > 0xbffff then none
    else some (address.setWidth 32 - 0xb8000)
  else
    if address < 0xa0000 ∨ address > 0xbffff then none
    else some (address.setWidth 32 - 0xa0000)

/-- The line of tiles of a line of the picture. -/
def lineTile (line : ℕ) (s : VgaCore) : ℕ :=
  if s.yDoublescan then line / (yTilesize / 2) else line / yTilesize

/-- The tiles of a byte of the CGA modes. -/
def markCga (offset : BitVec 32) (s : VgaCore) : VgaCore :=
  let offset := (offset - s.startAddr.setWidth 32).toNat
  let (y, x) := if 0x2000 ≤ offset then
      (2 * ((offset - 0x2000) / (320 / 4)) + 1, 4 * ((offset - 0x2000) % (320 / 4)))
    else (2 * (offset / (320 / 4)), 4 * (offset % (320 / 4)))
  let (x, x2) := if s.graphicsCtrl.shiftReg = 0 then (x * 2, x + 7) else (x, x + 3)
  let width := if s.xDotclockdiv2 then xTilesize / 2 else xTilesize
  let s := ({ s with vgaMemUpdated := true }).setTileUpdated (x / width) (s.lineTile y) true
  if x2 / width ≠ x / width then s.setTileUpdated (x2 / width) (s.lineTile y) true else s

/-- The tile of a byte of the chained representation. -/
def markChained (offset : BitVec 32) (s : VgaCore) : VgaCore :=
  let offset := (offset - s.startAddr.setWidth 32).toNat
  ({ s with vgaMemUpdated := true }).setTileUpdated
    (offset % s.lineOffset.toNat / (xTilesize / 2)) (s.lineTile (offset / s.lineOffset.toNat)) true

/-- The tile of a byte whose bits go to one pixel each, in a line of tiles. -/
def markByte (offset yTileno : ℕ) (s : VgaCore) : VgaCore :=
  s.setTileUpdated
    (offset % s.lineOffset.toNat / (if s.xDotclockdiv2 then xTilesize / 16 else xTilesize / 8))
    yTileno true

/-- The tile below the split of the screen. -/
def markLower (offset : BitVec 32) (s : VgaCore) : VgaCore :=
  if s.lineCompare < s.verticalDisplayEnd ∧ 0 < s.lineOffset then
    let line := offset.toNat / s.lineOffset.toNat
    s.markByte offset.toNat
      ((if s.yDoublescan then line * 2 + s.lineCompare.toNat + 1
        else line + s.lineCompare.toNat + 1) / yTilesize)
  else s

/-- The tile above the split of the screen. -/
def markUpper (offset : BitVec 32) (s : VgaCore) : VgaCore :=
  if s.startAddr.toNat ≤ offset.toNat ∧ 0 < s.lineOffset then
    let offset := offset.toNat - s.startAddr.toNat
    s.markByte offset (s.lineTile (offset / s.lineOffset.toNat))
  else s

/-- The tiles of a byte of the planes. -/
def markPlanar (offset : BitVec 32) (s : VgaCore) : VgaCore × List VgaAccess :=
  if s.graphicsCtrl.shiftReg = 2 then
    let offset := (offset - s.startAddr.setWidth 32).toNat
    (s.setTileUpdated (offset % s.lineOffset.toNat * 4 / (xTilesize / 2))
      (s.lineTile (offset / s.lineOffset.toNat)) true, [.divisor s.lineOffset.toNat])
  else
    ((s.markLower offset).markUpper offset,
      if 0 < s.lineOffset then [.divisor s.lineOffset.toNat] else [])

/-- The planes of the map mask take their bytes. -/
def storePlanes (offset : BitVec 32) (value : Fin 4 → BitVec 8) (s : VgaCore) : VgaCore :=
  (List.finRange 4).foldl (fun (s : VgaCore) (p : Fin 4) =>
    if Word.has s.sequencer.mapMask p then s.store (planeIndex p offset) (value p) else s) s

/-- The planes of the map mask. -/
def selectedPlanes (s : VgaCore) : List (Fin 4) :=
  (List.finRange 4).filter fun p => Word.has s.sequencer.mapMask p

/-- A write that goes through the write modes. -/
def planarWrite (offset value : BitVec 32) (s : VgaCore) : VgaCore × List VgaAccess :=
  if s.sequencer.mapMask ≠ 0 then
    let accesses := s.selectedPlanes.map fun p => .memory (planeIndex p offset) 1
    let s := ({ s with vgaMemUpdated := true }).storePlanes offset fun p =>
      s.graphicsCtrl.newVal value p
    let (s, divisors) := s.markPlanar offset
    (s, accesses ++ divisors)
  else (s, [])

/-- `_VgaCoreMMIOWriteHandler`. -/
def mmioWrite (address : BitVec 64) (value : BitVec 32) (s : VgaCore) : VgaCore × List VgaAccess :=
  match s.writeOffset address with
  | none => (s, [])
  | some offset =>
      if s.graphicsCtrl.graphicsAlpha ∧ s.graphicsCtrl.memoryMapping = 3 then
        ((s.store offset.toNat (value.setWidth 8)).markCga offset, [.memory offset.toNat 1])
      else if s.graphicsCtrl.graphicsAlpha ∧ s.sequencer.chainFour then
        let s := s.store (chainedIndex offset) (value.setWidth 8)
        let accesses := [VgaAccess.memory (chainedIndex offset) 1]
        if 0 < s.lineOffset then (s.markChained offset, accesses ++ [.divisor s.lineOffset.toNat])
        else (s, accesses)
      else s.planarWrite offset value

end VgaCore

end Svmm
