import Svmm.Construction.Vga.State

/-!
# The ports of the VGA

`VgaPortIoWriteHandler` of `vga.c`, with `Vga.vbe.enabled` 0, and `VgaCorePortIoWriteHandler` and
`VgaCorePortIoReadHandler` of `vgacore.c`.  The part of the core handler for each unit gives the
state and the flags `needs_update` and `charmap_update`.  `palette_change_common` gives 1, because
the depth that the window is given is never 16, and `clear_screen` and the characters belong to the
window.
-/

namespace Svmm

/-- `charmap_offset`. -/
def charmapOffset (index : BitVec 3) : BitVec 16 :=
  [0x0000, 0x4000, 0x8000, 0xc000, 0x2000, 0x6000, 0xa000, 0xe000].getD index.toNat 0

/-- The flags of `VgaCorePortIoWriteHandler`. -/
structure VgaChanges where
  needsUpdate : Bool
  charmapUpdate : Bool

/-- No flag is set. -/
def VgaChanges.none : VgaChanges := ⟨false, false⟩

/-- `needs_update`. -/
def VgaChanges.update : VgaChanges := ⟨true, false⟩

namespace VgaCore

/-- A change of the attribute controller. -/
def withAttribute (a : VgaAttribute) (s : VgaCore) : VgaCore := { s with attributeCtrl := a }

/-- A change of the sequencer. -/
def withSequencer (q : VgaSequencer) (s : VgaCore) : VgaCore := { s with sequencer := q }

/-- A change of the graphics controller. -/
def withGraphics (g : VgaGraphics) (s : VgaCore) : VgaCore := { s with graphicsCtrl := g }

/-- A change of the palette. -/
def withPel (p : VgaPel) (s : VgaCore) : VgaCore := { s with pel := p }

/-- A store into a register of the CRTC. -/
def withCrtcReg (i : Fin 0x19) (value : BitVec 8) (s : VgaCore) : VgaCore :=
  { s with crtc := { s.crtc with reg := Function.update s.crtc.reg i value } }

/-! ## The attribute controller -/

/-- Address mode of port 0x3c0. -/
def writeAttributeAddress (value : BitVec 32) (s : VgaCore) : VgaCore × VgaChanges :=
  let a := s.attributeCtrl
  let enabled := Word.has value 5
  (s.withAttribute { a with videoEnabled := enabled, address := value.setWidth 5 },
    ⟨enabled && !a.videoEnabled, false⟩)

/-- Data-write mode of port 0x3c0. -/
def writeAttributeData (value : BitVec 32) (s : VgaCore) : VgaCore × VgaChanges :=
  let a := s.attributeCtrl
  if a.address < 0x10 then
    let i := a.address.setWidth 4
    if value ≠ (a.paletteReg i).setWidth 32 then
      (s.withAttribute { a with paletteReg := Function.update a.paletteReg i (value.setWidth 8) },
        .update)
    else (s, .none)
  else if a.address = 0x10 then
    let m := a.modeCtrl
    (s.withAttribute
      { a with
        modeCtrl :=
          { graphicsAlpha := Word.has value 0
            displayType := Word.has value 1
            enableLineGraphics := Word.has value 2
            blinkIntensity := Word.has value 3
            pixelPanningCompat := Word.has value 5
            pixelClockSelect := Word.has value 6
            internalPaletteSize := Word.has value 7 } },
      ⟨Word.has value 7 != m.internalPaletteSize, Word.has value 2 != m.enableLineGraphics⟩)
  else if a.address = 0x11 then
    (s.withAttribute { a with overscanColor := value.setWidth 6 }, .none)
  else if a.address = 0x12 then
    (s.withAttribute { a with colorPlaneEnable := value.setWidth 4 }, .update)
  else if a.address = 0x13 then
    (s.withAttribute { a with horizPelPanning := value.setWidth 4 }, .update)
  else if a.address = 0x14 then
    (s.withAttribute { a with colorSelect := value.setWidth 4 }, .update)
  else (s, .none)

/-- Port 0x3c0. -/
def writeAttribute (value : BitVec 32) (s : VgaCore) : VgaCore × VgaChanges :=
  let (s, changes) := if s.attributeCtrl.flipFlop then s.writeAttributeData value
    else s.writeAttributeAddress value
  (s.withAttribute { s.attributeCtrl with flipFlop := !s.attributeCtrl.flipFlop }, changes)

/-! ## The other units -/

/-- Port 0x3c2. -/
def writeMisc (value : BitVec 32) (s : VgaCore) : VgaCore :=
  { s with
    miscOutput :=
      { colorEmulation := Word.has value 0
        enableRam := Word.has value 1
        clockSelect := (value >>> 2).setWidth 2
        selectHighBank := Word.has value 5
        horizSyncPol := Word.has value 6
        vertSyncPol := Word.has value 7 } }

/-- Port 0x3c5. -/
def writeSequencer (value : BitVec 32) (s : VgaCore) : VgaCore × VgaChanges :=
  let q := s.sequencer
  if q.index = 0 then
    let reset := q.reset1 && !Word.has value 0
    let t := if reset then { s with charmapAddress := 0 } else s
    (t.withSequencer
      { q with
        charMapSelect := if reset then 0 else q.charMapSelect
        reset1 := Word.has value 0
        reset2 := Word.has value 1 },
      ⟨false, reset⟩)
  else if q.index = 1 then
    let changed := (value ^^^ q.reg1.setWidth 32) &&& 0x29 ≠ 0
    let t := if changed then { s with xDotclockdiv2 := Word.has value 3 } else s
    (t.withSequencer
      { q with
        clearScreen := if changed then Word.has value 5 else q.clearScreen
        reg1 := (value &&& 0x3d).setWidth 8 },
      ⟨changed, false⟩)
  else if q.index = 2 then (s.withSequencer { q with mapMask := value.setWidth 4 }, .none)
  else if q.index = 3 then
    -- a value of `charmap1` above 3 has bit 4 set
    let charmap1 : BitVec 3 := (value &&& 3).setWidth 3
    let charmap1 := if Word.has value 4 then charmap1 + 4 else charmap1
    let t := if s.crtc.reg 0x09 > 0 then { s with charmapAddress := charmapOffset charmap1 } else s
    (t.withSequencer { q with charMapSelect := value.setWidth 6 },
      ⟨false, decide (s.crtc.reg 0x09 > 0)⟩)
  else if q.index = 4 then
    (s.withSequencer
      { q with
        extendedMem := Word.has value 1, oddEven := Word.has value 2
        chainFour := Word.has value 3 },
      .none)
  else (s, .none)

/-- Port 0x3c9. -/
def writePelData (value : BitVec 32) (s : VgaCore) : VgaCore × VgaChanges :=
  let p := s.pel
  let color := p.data p.writeDataRegister
  let value : BitVec 8 := value.setWidth 8
  let color := if p.writeDataCycle = 0 then { color with red := value }
    else if p.writeDataCycle = 1 then { color with green := value }
    else if p.writeDataCycle = 2 then { color with blue := value }
    else color
  let last := p.writeDataCycle + 1 ≥ 3
  (s.withPel
    { p with
      data := Function.update p.data p.writeDataRegister color
      writeDataCycle := if last then 0 else p.writeDataCycle + 1
      writeDataRegister := if last then p.writeDataRegister + 1 else p.writeDataRegister },
    ⟨decide (p.writeDataCycle = 2), false⟩)

/-- Port 0x3cf. -/
def writeGraphics (value : BitVec 32) (s : VgaCore) : VgaCore × VgaChanges :=
  let g := s.graphicsCtrl
  if g.index = 0 then (s.withGraphics { g with setReset := value.setWidth 4 }, .none)
  else if g.index = 1 then (s.withGraphics { g with enableSetReset := value.setWidth 4 }, .none)
  else if g.index = 2 then (s.withGraphics { g with colorCompare := value.setWidth 4 }, .none)
  else if g.index = 3 then
    (s.withGraphics
      { g with dataRotate := value.setWidth 3, rasterOp := (value >>> 3).setWidth 2 }, .none)
  else if g.index = 4 then (s.withGraphics { g with readMapSelect := value.setWidth 2 }, .none)
  else if g.index = 5 then
    (s.withGraphics
      { g with
        writeMode := value.setWidth 2
        readMode := (value >>> 3).setWidth 1
        oddEven := Word.has value 4
        shiftReg := (value >>> 5).setWidth 2 },
      .none)
  else if g.index = 6 then
    let alpha := Word.has value 0
    let mapping := (value >>> 2).setWidth 2
    let t := s.withGraphics
      { g with graphicsAlpha := alpha, chainOddEven := Word.has value 1, memoryMapping := mapping }
    (if alpha != g.graphicsAlpha then { t with lastYres := 0 } else t,
      ⟨decide (mapping ≠ g.memoryMapping) || alpha != g.graphicsAlpha, false⟩)
  else if g.index = 7 then (s.withGraphics { g with colorDontCare := value.setWidth 4 }, .none)
  else if g.index = 8 then (s.withGraphics { g with bitmask := value.setWidth 8 }, .none)
  else (s, .none)

/-! ## The CRTC -/

/-- `line_compare` with bit 8 from register 7. -/
def lineCompare8 (s : VgaCore) : BitVec 10 :=
  let lineCompare := s.lineCompare &&& 0x2ff
  if Word.has (s.crtc.reg 0x07) 4 then lineCompare ||| 0x100 else lineCompare

/-- `vertical_display_end` with bits 8 and 9 from register 7. -/
def verticalDisplayEnd89 (s : VgaCore) : BitVec 10 :=
  let vde := s.verticalDisplayEnd &&& 0x0ff
  let vde := if Word.has (s.crtc.reg 0x07) 1 then vde ||| 0x100 else vde
  if Word.has (s.crtc.reg 0x07) 6 then vde ||| 0x200 else vde

/-- `line_offset` from registers 0x13, 0x14 and 0x17. -/
def lineOffsetOfRegs (s : VgaCore) : BitVec 11 :=
  let lineOffset : BitVec 11 := (s.crtc.reg 0x13).setWidth 11 <<< 1
  if Word.has (s.crtc.reg 0x14) 6 then lineOffset <<< 2
  else if Word.has (s.crtc.reg 0x17) 6 then lineOffset
  else lineOffset <<< 1

/-- What follows from a changed register. -/
def crtcChanged (i : Fin 0x19) (value : BitVec 32) (s : VgaCore) : VgaCore × VgaChanges :=
  if i = 0x07 then
    ({ s with verticalDisplayEnd := s.verticalDisplayEnd89, lineCompare := s.lineCompare8 },
      .update)
  else if i = 0x08 then (s, .update)
  else if i = 0x09 then
    let lineCompare := s.lineCompare &&& 0x1ff
    ({ s with
      yDoublescan := decide (value &&& 0x9f > 0)
      lineCompare :=
        if Word.has (s.crtc.reg 0x09) 6 then lineCompare ||| 0x200 else lineCompare },
      ⟨true, true⟩)
  else if i = 0x0a ∨ i = 0x0b ∨ i = 0x0e ∨ i = 0x0f then ({ s with vgaMemUpdated := true }, .none)
  else if i = 0x0c ∨ i = 0x0d then
    if s.graphicsCtrl.graphicsAlpha then (s, .update) else ({ s with vgaMemUpdated := true }, .none)
  else if i = 0x11 then
    ({ s with crtc := { s.crtc with writeProtect := Word.has (s.crtc.reg 0x11) 7 } }, .none)
  else if i = 0x12 then
    ({ s with
      verticalDisplayEnd := (s.verticalDisplayEnd &&& 0x300) ||| (s.crtc.reg 0x12).setWidth 10 },
      .none)
  else if i = 0x13 ∨ i = 0x14 ∨ i = 0x17 then ({ s with lineOffset := s.lineOffsetOfRegs }, .update)
  else if i = 0x18 then
    ({ s with lineCompare := (s.lineCompare &&& 0x300) ||| (s.crtc.reg 0x18).setWidth 10 }, .update)
  else (s, .none)

/-- Ports 0x3b5 and 0x3d5. -/
def writeCrtc (value : BitVec 32) (s : VgaCore) : VgaCore × VgaChanges :=
  if h : s.crtc.address.toNat < 0x19 then
    let i : Fin 0x19 := ⟨s.crtc.address.toNat, h⟩
    if s.crtc.writeProtect ∧ i < 0x08 then
      if i = 0x07 then
        let s := s.withCrtcReg i ((s.crtc.reg i &&& ~~~ 0x10) ||| (value &&& 0x10).setWidth 8)
        ({ s with lineCompare := s.lineCompare8 }, .update)
      else (s, .none)
    else if value ≠ (s.crtc.reg i).setWidth 32 then
      (s.withCrtcReg i (value.setWidth 8)).crtcChanged i value
    else (s, .none)
  else (s, .none)

/-! ## The handlers -/

/-- Some of the ports are those of the other emulation. -/
def otherEmulation (address : BitVec 64) (s : VgaCore) : Prop :=
  (0x03b0 ≤ address ∧ address ≤ 0x03bf ∧ s.miscOutput.colorEmulation) ∨
    (0x03d0 ≤ address ∧ address ≤ 0x03df ∧ !s.miscOutput.colorEmulation)

instance (address : BitVec 64) (s : VgaCore) : Decidable (s.otherEmulation address) :=
  inferInstanceAs (Decidable (_ ∨ _))

/-- The switch of `VgaCorePortIoWriteHandler`. -/
def writePort (address : BitVec 64) (value : BitVec 32) (s : VgaCore) : VgaCore × VgaChanges :=
  if address = 0x03c0 then s.writeAttribute value
  else if address = 0x03c2 then (s.writeMisc value, .none)
  else if address = 0x03c3 then ({ s with vgaEnabled := Word.has value 0 }, .none)
  else if address = 0x03c4 then
    (s.withSequencer { s.sequencer with index := value.setWidth 8 }, .none)
  else if address = 0x03c5 then s.writeSequencer value
  else if address = 0x03c6 then
    if value ≠ s.pel.mask.setWidth 32 then
      (s.withPel { s.pel with mask := value.setWidth 8 }, .update)
    else (s, .none)
  else if address = 0x03c7 then
    (s.withPel
      { s.pel with readDataRegister := value.setWidth 8, readDataCycle := 0, dacState := 0x03 },
      .none)
  else if address = 0x03c8 then
    (s.withPel
      { s.pel with writeDataRegister := value.setWidth 8, writeDataCycle := 0, dacState := 0x00 },
      .none)
  else if address = 0x03c9 then s.writePelData value
  else if address = 0x03ce then
    (s.withGraphics { s.graphicsCtrl with index := value.setWidth 8 }, .none)
  else if address = 0x03cf then s.writeGraphics value
  else if address = 0x03b4 ∨ address = 0x03d4 then
    ({ s with crtc := { s.crtc with address := value.setWidth 6 } }, .none)
  else if address = 0x03b5 ∨ address = 0x03d5 then s.writeCrtc value
  else (s, .none)

/-- What the flags ask for; `set_text_charmap` copies a set of characters. -/
def applyChanges (changes : VgaChanges) (s : VgaCore) : VgaCore × List VgaAccess :=
  let t := if changes.charmapUpdate then { s with vgaMemUpdated := true } else s
  (if changes.needsUpdate then t.vgaRedrawArea else t,
    if changes.charmapUpdate then [.memory (0x20000 + s.charmapAddress.toNat) 0x2000] else [])

/-- `VgaCorePortIoWriteHandler` for a byte. -/
def coreWriteByte (address : BitVec 64) (value : BitVec 32) (s : VgaCore) :
    VgaCore × List VgaAccess :=
  if s.otherEmulation address then (s, [])
  else
    let (s, changes) := s.writePort address value
    s.applyChanges changes

/-- `VgaPortIoWriteHandler` for a byte. -/
def portWriteByte (address : BitVec 64) (value : BitVec 32) (s : VgaCore) :
    VgaCore × List VgaAccess :=
  if s.otherEmulation address then (s, [])
  else if address = 0x03b5 ∨ address = 0x03d5 then
    if h : s.crtc.address.toNat < 0x19 then
      if value ≠ (s.crtc.reg ⟨s.crtc.address.toNat, h⟩).setWidth 32 then
        s.coreWriteByte address value
      else (s, [])
    else (s, [])
  else s.coreWriteByte address value

/-- `VgaPortIoWriteHandler`. -/
def portIoWriteHandler (address : BitVec 64) (value length : BitVec 32) (s : VgaCore) :
    VgaCore × List VgaAccess :=
  if length = 2 then
    let (s, first) := s.portWriteByte address (value &&& 0xff)
    let (s, second) := s.portWriteByte (address + 1) ((value >>> 8) &&& 0xff)
    (s, first ++ second)
  else s.portWriteByte address value

/-! ## Reads -/

/-- A flag moved to its bit. -/
def flagBit (flag : Bool) (i : ℕ) : BitVec 8 := if flag then Word.bit i else 0

/-- Port 0x3c1. -/
def readAttribute (a : VgaAttribute) : BitVec 8 :=
  if a.address < 0x10 then a.paletteReg (a.address.setWidth 4)
  else if a.address = 0x10 then
    flagBit a.modeCtrl.graphicsAlpha 0 ||| flagBit a.modeCtrl.displayType 1 |||
      flagBit a.modeCtrl.enableLineGraphics 2 ||| flagBit a.modeCtrl.blinkIntensity 3 |||
      flagBit a.modeCtrl.pixelPanningCompat 5 ||| flagBit a.modeCtrl.pixelClockSelect 6 |||
      flagBit a.modeCtrl.internalPaletteSize 7
  else if a.address = 0x11 then a.overscanColor.setWidth 8
  else if a.address = 0x12 then a.colorPlaneEnable.setWidth 8
  else if a.address = 0x13 then a.horizPelPanning.setWidth 8
  else if a.address = 0x14 then a.colorSelect.setWidth 8
  else 0

/-- Port 0x3c5. -/
def readSequencer (q : VgaSequencer) : BitVec 8 :=
  if q.index = 0 then flagBit q.reset1 0 ||| flagBit q.reset2 1
  else if q.index = 1 then q.reg1
  else if q.index = 2 then q.mapMask.setWidth 8
  else if q.index = 3 then q.charMapSelect.setWidth 8
  else if q.index = 4 then
    flagBit q.extendedMem 1 ||| flagBit q.oddEven 2 ||| flagBit q.chainFour 3
  else 0

/-- Port 0x3c9. -/
def readPelData (s : VgaCore) : BitVec 8 × VgaCore :=
  let p := s.pel
  if p.dacState = 0x03 then
    let color := p.data p.readDataRegister
    let value := if p.readDataCycle = 0 then color.red
      else if p.readDataCycle = 1 then color.green
      else if p.readDataCycle = 2 then color.blue
      else 0
    let last := p.readDataCycle + 1 ≥ 3
    (value, s.withPel
      { p with
        readDataCycle := if last then 0 else p.readDataCycle + 1
        readDataRegister := if last then p.readDataRegister + 1 else p.readDataRegister })
  else (0x3f, s)

/-- Port 0x3cf; register 5 is given only if one of two of its fields is set, and register 6 has
`odd_even` of register 5. -/
def readGraphics (g : VgaGraphics) : BitVec 8 :=
  if g.index = 0 then g.setReset.setWidth 8
  else if g.index = 1 then g.enableSetReset.setWidth 8
  else if g.index = 2 then g.colorCompare.setWidth 8
  else if g.index = 3 then g.rasterOp.setWidth 8 <<< 3 ||| g.dataRotate.setWidth 8
  else if g.index = 4 then g.readMapSelect.setWidth 8
  else if g.index = 5 then
    if g.oddEven ∨ g.shiftReg ≠ 0 then
      g.shiftReg.setWidth 8 <<< 5 ||| flagBit g.oddEven 4 ||| g.readMode.setWidth 8 <<< 3 |||
        g.writeMode.setWidth 8
    else 0
  else if g.index = 6 then
    g.memoryMapping.setWidth 8 <<< 2 ||| flagBit g.oddEven 1 ||| flagBit g.graphicsAlpha 0
  else if g.index = 7 then g.colorDontCare.setWidth 8
  else if g.index = 8 then g.bitmask
  else 0

/-- Ports 0x3b5 and 0x3d5. -/
def readCrtc (s : VgaCore) : BitVec 8 :=
  if s.crtc.address = 0x22 then
    s.graphicsCtrl.latch (Fin.ofNat 4 s.graphicsCtrl.readMapSelect.toNat)
  else if h : s.crtc.address.toNat < 0x19 then s.crtc.reg ⟨s.crtc.address.toNat, h⟩
  else 0

/-- Port 0x3cc. -/
def readMisc (m : VgaMisc) : BitVec 8 :=
  flagBit m.colorEmulation 0 ||| flagBit m.enableRam 1 ||| m.clockSelect.setWidth 8 <<< 2 |||
    flagBit m.selectHighBank 5 ||| flagBit m.horizSyncPol 6 ||| flagBit m.vertSyncPol 7

/-- `VgaCorePortIoReadHandler` for a byte. -/
def portReadByte (address : BitVec 64) (s : VgaCore) : BitVec 8 × VgaCore :=
  if s.otherEmulation address then (0xff, s)
  else if address = 0x03ba ∨ address = 0x03ca ∨ address = 0x03da then
    (0, s.withAttribute { s.attributeCtrl with flipFlop := false })
  else if address = 0x03c0 then
    (if s.attributeCtrl.flipFlop then 0
      else flagBit s.attributeCtrl.videoEnabled 5 ||| s.attributeCtrl.address.setWidth 8, s)
  else if address = 0x03c1 then (readAttribute s.attributeCtrl, s)
  else if address = 0x03c3 then (flagBit s.vgaEnabled 0, s)
  else if address = 0x03c4 then (s.sequencer.index, s)
  else if address = 0x03c5 then (readSequencer s.sequencer, s)
  else if address = 0x03c6 then (s.pel.mask, s)
  else if address = 0x03c7 then (s.pel.dacState, s)
  else if address = 0x03c8 then (s.pel.writeDataRegister, s)
  else if address = 0x03c9 then s.readPelData
  else if address = 0x03cc then (readMisc s.miscOutput, s)
  else if address = 0x03ce then (s.graphicsCtrl.index, s)
  else if address = 0x03cf then (readGraphics s.graphicsCtrl, s)
  else if address = 0x03d4 then (s.crtc.address.setWidth 8, s)
  else if address = 0x03b5 ∨ address = 0x03d5 then (s.readCrtc, s)
  else (0, s)

/-- `VgaCorePortIoReadHandler`. -/
def portIoReadHandler (address : BitVec 64) (length : BitVec 32) (s : VgaCore) :
    BitVec 32 × VgaCore :=
  if length = 2 then
    let (low, s) := s.portReadByte address
    let (high, s) := s.portReadByte (address + 1)
    ((high ++ low).setWidth 32, s)
  else
    let (value, s) := s.portReadByte address
    (value.setWidth 32, s)

end VgaCore

end Svmm
