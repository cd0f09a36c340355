import Svmm.Construction.Vga.Step
import Svmm.Framework.Run
import Svmm.Properties.Vga.Planes

/-!
# Stale pixels of the VGA

`planar_pixels_marked_iff` says when a byte that is written to the planes marks the tile of each
pixel that is painted from it.  Above the split it always does, and below it in single scan; in
double scan the line of a byte below the split is that of the pixel if the line compare is odd, and
the one before it if it is even, which is in another tile at the top of a tile.  A byte that a pixel
finds in the next plane, because its offset is past 64 KB, is looked for elsewhere.
-/

namespace Svmm

open TransitionRun

variable {s t : VgaCore} {address : BitVec 64} {offset : BitVec 32} {value : BitVec 32}

/-- The standard planar mode, with lines that are as long as the screen is wide and a screen within
the tiles. -/
structure VgaCore.StandardPlanar (s : VgaCore) : Prop where
  graphics : s.graphicsCtrl.graphicsAlpha = true
  shiftReg : s.graphicsCtrl.shiftReg = 0
  serial : Word.has (s.crtc.reg 0x17) 0 = true
  lineOffset : 0 < s.lineOffset
  width : s.screenWidth ≤ (if s.xDotclockdiv2 then 16 else 8) * s.lineOffset.toNat
  columns : s.screenWidth ≤ numXTiles * xTilesize
  rows : s.screenHeight ≤ numYTiles * yTilesize

/-- The tile of each pixel of the screen that is painted from a byte of a selected plane at the
offset is marked. -/
def PixelsMarked (offset : BitVec 32) (s t : VgaCore) : Prop :=
  ∀ x < s.screenWidth, ∀ y < s.screenHeight, ∀ p : Fin 4, Word.has s.sequencer.mapMask p = true →
    planeIndex p offset ∈ s.pixelPlaces x y →
      t.getTileUpdated (x / xTilesize) (y / yTilesize) = true

namespace VgaCore

/-- The colour of a pixel is computed from the bytes at its places alone. -/
lemma getVgaPixel_congr {x y : ℕ} {bs : Bool} (hregs : s.SameRegisters t)
    (hshift : s.graphicsCtrl.shiftReg = 0) (hserial : Word.has (s.crtc.reg 0x17) 0 = true)
    (hbytes : ∀ place ∈ s.pixelPlaces x y, t.memory place = s.memory place) :
    t.getVgaPixel x (s.pixelLine y) s.startAddr.toNat s.shownLineCompare bs =
      s.getVgaPixel x (s.pixelLine y) s.startAddr.toNat s.shownLineCompare bs := by
  obtain ⟨memory, tiles, updated, rfl⟩ := hregs
  unfold pixelPlaces at hbytes
  simp only [hshift, hserial, if_true, List.forall_mem_map, List.mem_range] at hbytes
  have hplane : ∀ p < 4,
      memory (p * 65536 +
          s.vgaPixelOffset x (s.pixelLine y) s.startAddr.toNat s.shownLineCompare) =
        s.memory (p * 65536 +
          s.vgaPixelOffset x (s.pixelLine y) s.startAddr.toNat s.shownLineCompare) := hbytes
  have hoffset : vgaPixelOffset x (s.pixelLine y) s.startAddr.toNat s.shownLineCompare
      { s with memory := memory, tileUpdated := tiles, vgaMemUpdated := updated } =
        s.vgaPixelOffset x (s.pixelLine y) s.startAddr.toNat s.shownLineCompare := rfl
  unfold getVgaPixel
  simp only [hoffset, hplane 0 (by decide), hplane 1 (by decide), hplane 2 (by decide),
    hplane 3 (by decide)]

/-! ## The tiles of an offset -/

/-- The bytes of a line in a tile. -/
def tileBytes (s : VgaCore) : ℕ := if s.xDotclockdiv2 then xTilesize / 16 else xTilesize / 8

/-- The tile that is marked for an offset below the split. -/
def tileBelow (s : VgaCore) (offset : BitVec 32) : ℕ × ℕ :=
  let line := offset.toNat / s.lineOffset.toNat
  (offset.toNat % s.lineOffset.toNat / s.tileBytes,
    (if s.yDoublescan then line * 2 + s.lineCompare.toNat + 1
      else line + s.lineCompare.toNat + 1) / yTilesize)

/-- The tile that is marked for an offset above the split. -/
def tileAbove (s : VgaCore) (offset : BitVec 32) : ℕ × ℕ :=
  let place := offset.toNat - s.startAddr.toNat
  (place % s.lineOffset.toNat / s.tileBytes, s.lineTile (place / s.lineOffset.toNat))

/-- A pixel of the byte at the offset is above the split, or it is below in single scan, or with an
odd line compare, or not on the first two lines of its tile.  A pixel that has the byte from another
plane, or is below the split with nothing marked there, is in the tile of one of the lines that the
offset would have by itself.  Or the tile is marked already. -/
def PixelHarmless (offset : BitVec 32) (x y : ℕ) (s : VgaCore) : Prop :=
  let line := s.pixelLine y
  let tile := (x / xTilesize, y / yTilesize)
  let inAbove := s.startAddr.toNat ≤ offset.toNat ∧ tile = s.tileAbove offset
  s.getTileUpdated tile.1 tile.2 = true ∨
    if s.vgaPixelOffset x line s.startAddr.toNat s.shownLineCompare = offset.toNat then
      line ≤ s.shownLineCompare ∨
        (if s.lineCompare < s.verticalDisplayEnd then
          s.yDoublescan = false ∨ s.lineCompare.toNat % 2 = 1 ∨ 2 ≤ y % yTilesize
        else inAbove)
    else (s.lineCompare < s.verticalDisplayEnd ∧ tile = s.tileBelow offset) ∨ inAbove

instance (offset : BitVec 32) (x y : ℕ) (s : VgaCore) : Decidable (s.PixelHarmless offset x y) :=
  inferInstanceAs (Decidable (_ ∨ _))

end VgaCore

/-- Every pixel of the screen that is painted from a byte of a selected plane at the offset is
harmless. -/
def StaleHarmless (offset : BitVec 32) (s : VgaCore) : Prop :=
  ∀ x < s.screenWidth, ∀ y < s.screenHeight, ∀ p : Fin 4, Word.has s.sequencer.mapMask p = true →
    planeIndex p offset ∈ s.pixelPlaces x y → s.PixelHarmless offset x y

namespace VgaCore

lemma getTileUpdated_mark {x y x' y' : ℕ} (hx : x < numXTiles) (hy : y < numYTiles) :
    (s.setTileUpdated x' y' true).getTileUpdated x y = true ↔
      s.getTileUpdated x y = true ∨ (x, y) = (x', y') := by
  unfold setTileUpdated getTileUpdated
  simp only [if_pos (And.intro hx hy), Prod.mk.injEq]
  split
  · by_cases hsame : x = x' ∧ y = y'
    · simp [hsame]
    · simp [hsame]
  · rename_i hout
    refine (or_iff_left ?_).symm
    rintro ⟨rfl, rfl⟩
    exact hout ⟨hx, hy⟩

/-- What a write marks below the split. -/
lemma markLower_eq (hline : 0 < s.lineOffset) :
    s.markLower offset = if s.lineCompare < s.verticalDisplayEnd then
      s.setTileUpdated (s.tileBelow offset).1 (s.tileBelow offset).2 true else s := by
  unfold markLower
  simp only [hline, and_true]
  rfl

/-- What a write marks above the split. -/
lemma markUpper_eq (hline : 0 < s.lineOffset) :
    s.markUpper offset = if s.startAddr.toNat ≤ offset.toNat then
      s.setTileUpdated (s.tileAbove offset).1 (s.tileAbove offset).2 true else s := by
  unfold markUpper
  simp only [hline, and_true]
  rfl

/-- The tile that is marked below the split. -/
lemma getTileUpdated_markLower (hline : 0 < s.lineOffset) {x y : ℕ} (hx : x < numXTiles)
    (hy : y < numYTiles) :
    (s.markLower offset).getTileUpdated x y = true ↔
      s.getTileUpdated x y = true ∨
        (s.lineCompare < s.verticalDisplayEnd ∧ (x, y) = s.tileBelow offset) := by
  rw [markLower_eq hline]
  split
  · rename_i hlower
    rw [getTileUpdated_mark hx hy, and_iff_right hlower]
  · rename_i hlower
    exact (or_iff_left fun h => hlower h.1).symm

/-- The tile that is marked above the split. -/
lemma getTileUpdated_markUpper (hline : 0 < s.lineOffset) {x y : ℕ} (hx : x < numXTiles)
    (hy : y < numYTiles) :
    (s.markUpper offset).getTileUpdated x y = true ↔
      s.getTileUpdated x y = true ∨
        (s.startAddr.toNat ≤ offset.toNat ∧ (x, y) = s.tileAbove offset) := by
  rw [markUpper_eq hline]
  split
  · rename_i hupper
    rw [getTileUpdated_mark hx hy, and_iff_right hupper]
  · rename_i hupper
    exact (or_iff_left fun h => hupper h.1).symm

/-- The tiles do not depend on the memory or on what is marked. -/
lemma SameRegisters.tiles (offset : BitVec 32) (h : s.SameRegisters t) :
    t.tileBelow offset = s.tileBelow offset ∧ t.tileAbove offset = s.tileAbove offset ∧
      t.startAddr = s.startAddr ∧ t.lineCompare = s.lineCompare ∧
      t.verticalDisplayEnd = s.verticalDisplayEnd := by
  obtain ⟨m, k, b, rfl⟩ := h
  exact ⟨rfl, rfl, rfl, rfl, rfl⟩

/-- The tiles that are marked after a write to the planes. -/
lemma getTileUpdated_planarWrite (hline : 0 < s.lineOffset) (hshift : s.graphicsCtrl.shiftReg = 0)
    (hmask : s.sequencer.mapMask ≠ 0) {x y : ℕ} (hx : x < numXTiles) (hy : y < numYTiles) :
    (s.planarWrite offset value).1.getTileUpdated x y = true ↔
      s.getTileUpdated x y = true ∨
        (s.lineCompare < s.verticalDisplayEnd ∧ (x, y) = s.tileBelow offset) ∨
        (s.startAddr.toNat ≤ offset.toNat ∧ (x, y) = s.tileAbove offset) := by
  have hmark : ∀ t : VgaCore, s.SameRegisters t →
      t.getTileUpdated x y = s.getTileUpdated x y →
      ((t.markPlanar offset).1.getTileUpdated x y = true ↔
        s.getTileUpdated x y = true ∨
          (s.lineCompare < s.verticalDisplayEnd ∧ (x, y) = s.tileBelow offset) ∨
          (s.startAddr.toNat ≤ offset.toNat ∧ (x, y) = s.tileAbove offset)) := by
    intro t hregs hsame
    have hlower : t.SameRegisters (t.markLower offset) := by
      unfold markLower markByte
      split
      · exact SameRegisters.setTileUpdated ..
      · exact SameRegisters.refl t
    have hline' : ∀ u, s.SameRegisters u → 0 < u.lineOffset := fun u h => by
      rw [h.lineOffset]
      exact hline
    obtain ⟨hbelow, -, -, hcompare, hend⟩ := hregs.tiles offset
    obtain ⟨-, habove, hstart, -, -⟩ := (hregs.trans hlower).tiles offset
    have hnotWide : ¬ t.graphicsCtrl.shiftReg = 2 := by
      rw [hregs.graphicsCtrl, hshift]
      decide
    rw [markPlanar, if_neg hnotWide]
    simp only
    rw [getTileUpdated_markUpper (hline' _ (hregs.trans hlower)) hx hy,
      getTileUpdated_markLower (hline' _ hregs) hx hy, hsame, hbelow, hcompare, hend, habove,
      hstart, or_assoc]
  rw [planarWrite_of_ne hmask]
  refine hmark _ ((SameRegisters.memUpdated true).trans SameRegisters.storePlanes) ?_
  exact storePlanes_keeps (fun s => s.getTileUpdated x y) fun _ _ _ => rfl

/-! ## The place of a pixel -/

/-- The byte of a pixel in its line. -/
def pixelByte (s : VgaCore) (x : ℕ) : ℕ := (if s.xDotclockdiv2 then x / 2 else x) / 8

/-- A pixel of the screen is in a byte of its line, in the tile of that byte. -/
lemma pixelByte_spec (h : s.StandardPlanar) {x : ℕ} (hx : x < s.screenWidth) :
    s.pixelByte x < s.lineOffset.toNat ∧ s.pixelByte x / s.tileBytes = x / xTilesize := by
  have hwidth := h.width
  unfold pixelByte tileBytes xTilesize
  split at hwidth
  · rename_i hdot
    rw [if_pos hdot, if_pos hdot]
    omega
  · rename_i hdot
    rw [if_neg hdot, if_neg hdot]
    omega

/-- The byte and the line of a place. -/
lemma place_div_mod {b n m : ℕ} (h : b < m) : (b + n * m) / m = n ∧ (b + n * m) % m = b := by
  have hm : 0 < m := Nat.lt_of_le_of_lt (Nat.zero_le b) h
  rw [Nat.add_mul_div_right _ _ hm, Nat.add_mul_mod_self_right, Nat.div_eq_of_lt h,
    Nat.mod_eq_of_lt h, Nat.zero_add]
  exact ⟨rfl, rfl⟩

/-- The line of tiles of a line of the picture is that of the lines of the screen. -/
lemma lineTile_pixelLine (y : ℕ) : s.lineTile (s.pixelLine y) = y / yTilesize := by
  unfold lineTile pixelLine yTilesize
  split
  · omega
  · rfl

/-- A pixel above the split is in the tile that is marked for its byte. -/
lemma tile_of_above (h : s.StandardPlanar) {x y : ℕ} (hx : x < s.screenWidth)
    (hline : s.pixelLine y ≤ s.shownLineCompare)
    (hplace : s.vgaPixelOffset x (s.pixelLine y) s.startAddr.toNat s.shownLineCompare =
      offset.toNat) :
    s.startAddr.toNat ≤ offset.toNat ∧ (x / xTilesize, y / yTilesize) = s.tileAbove offset := by
  obtain ⟨hbyte, htile⟩ := pixelByte_spec h hx
  have hplace : s.startAddr.toNat + s.pixelByte x + s.pixelLine y * s.lineOffset.toNat =
      offset.toNat := by
    rw [← hplace, vgaPixelOffset]
    exact (if_neg (Nat.not_lt.mpr hline)).symm
  have hsub : offset.toNat - s.startAddr.toNat =
      s.pixelByte x + s.pixelLine y * s.lineOffset.toNat := by
    omega
  obtain ⟨hdiv, hmod⟩ := place_div_mod (n := s.pixelLine y) hbyte
  refine ⟨by omega, ?_⟩
  unfold tileAbove
  simp only
  rw [hsub, hdiv, hmod, htile, lineTile_pixelLine]

/-- The line of a pixel below the split, by its byte. -/
lemma place_of_below (h : s.StandardPlanar) {x y : ℕ} (hx : x < s.screenWidth)
    (hline : s.shownLineCompare < s.pixelLine y)
    (hplace : s.vgaPixelOffset x (s.pixelLine y) s.startAddr.toNat s.shownLineCompare =
      offset.toNat) :
    offset.toNat / s.lineOffset.toNat = s.pixelLine y - s.shownLineCompare - 1 ∧
      offset.toNat % s.lineOffset.toNat = s.pixelByte x := by
  have hplace : s.pixelByte x +
      (s.pixelLine y - s.shownLineCompare - 1) * s.lineOffset.toNat = offset.toNat := by
    rw [← hplace, vgaPixelOffset]
    exact (if_pos hline).symm
  rw [← hplace]
  exact place_div_mod (pixelByte_spec h hx).1

/-- When a pixel below the split is in the tile that is marked for its byte there. -/
lemma tile_of_below (h : s.StandardPlanar) {x y : ℕ} (hx : x < s.screenWidth)
    (hline : s.shownLineCompare < s.pixelLine y)
    (hplace : s.vgaPixelOffset x (s.pixelLine y) s.startAddr.toNat s.shownLineCompare =
      offset.toNat) :
    (x / xTilesize, y / yTilesize) = s.tileBelow offset ↔
      s.yDoublescan = false ∨ s.lineCompare.toNat % 2 = 1 ∨ 2 ≤ y % yTilesize := by
  obtain ⟨hdiv, hmod⟩ := place_of_below h hx hline hplace
  unfold tileBelow
  simp only
  rw [hdiv, hmod, (pixelByte_spec h hx).2, Prod.mk.injEq, and_iff_right rfl]
  unfold pixelLine shownLineCompare at hline ⊢
  unfold yTilesize
  cases hdouble : s.yDoublescan with
  | false =>
      simp only [hdouble, Bool.false_eq_true, if_false, true_or, iff_true] at hline ⊢
      omega
  | true =>
      simp only [hdouble, if_true, Bool.true_eq_false, false_or] at hline ⊢
      omega

/-- A pixel below the split that is not in the tile marked there is not in the one marked above. -/
lemma tile_of_below_above (h : s.StandardPlanar) {x y : ℕ} (hx : x < s.screenWidth)
    (hline : s.shownLineCompare < s.pixelLine y)
    (hplace : s.vgaPixelOffset x (s.pixelLine y) s.startAddr.toNat s.shownLineCompare =
      offset.toNat)
    (htile : (x / xTilesize, y / yTilesize) = s.tileAbove offset) :
    s.yDoublescan = false ∨ s.lineCompare.toNat % 2 = 1 ∨ 2 ≤ y % yTilesize := by
  obtain ⟨hdiv, -⟩ := place_of_below h hx hline hplace
  have hle : (offset.toNat - s.startAddr.toNat) / s.lineOffset.toNat ≤
      s.pixelLine y - s.shownLineCompare - 1 := by
    rw [← hdiv]
    exact Nat.div_le_div_right (Nat.sub_le ..)
  have hrow : y / yTilesize =
      s.lineTile ((offset.toNat - s.startAddr.toNat) / s.lineOffset.toNat) :=
    congrArg Prod.snd htile
  revert hle hrow
  generalize (offset.toNat - s.startAddr.toNat) / s.lineOffset.toNat = above
  intro hle hrow
  unfold lineTile at hrow
  unfold pixelLine shownLineCompare at hline hle
  unfold yTilesize at hrow ⊢
  cases hdouble : s.yDoublescan with
  | false => exact .inl rfl
  | true =>
      simp only [hdouble, if_true] at hrow hline hle
      omega

end VgaCore

/-- A pixel of the screen is in a tile. -/
lemma tile_lt (h : s.StandardPlanar) {x y : ℕ} (hx : x < s.screenWidth) (hy : y < s.screenHeight) :
    x / xTilesize < numXTiles ∧ y / yTilesize < numYTiles :=
  ⟨Nat.div_lt_of_lt_mul (Nat.mul_comm .. ▸ Nat.lt_of_lt_of_le hx h.columns),
    Nat.div_lt_of_lt_mul (Nat.mul_comm .. ▸ Nat.lt_of_lt_of_le hy h.rows)⟩

theorem planar_pixels_marked_iff (hmode : s.StandardPlanar) (h : s.TakesPlanes address offset) :
    PixelsMarked offset s (s.mmioWrite address value).1 ↔ StaleHarmless offset s := by
  rw [mmioWrite_planar h]
  unfold PixelsMarked StaleHarmless
  refine forall₂_congr fun x hx => forall₂_congr fun y hy => forall₂_congr fun p hp =>
    imp_congr_right fun _ => ?_
  have hmask : s.sequencer.mapMask ≠ 0 := by
    intro hzero
    rw [hzero] at hp
    simp [Word.has] at hp
  obtain ⟨hcol, hrow⟩ := tile_lt hmode hx hy
  rw [VgaCore.getTileUpdated_planarWrite hmode.lineOffset hmode.shiftReg hmask hcol hrow]
  unfold VgaCore.PixelHarmless
  simp only
  refine or_congr_right ?_
  split
  · rename_i hplace
    by_cases hline : s.pixelLine y ≤ s.shownLineCompare
    · exact iff_of_true (.inr (VgaCore.tile_of_above hmode hx hline hplace)) (.inl hline)
    · have hbelow := Nat.not_le.mp hline
      rw [or_iff_right hline]
      split
      · rename_i hlower
        rw [and_iff_right hlower, VgaCore.tile_of_below hmode hx hbelow hplace]
        exact or_iff_left_of_imp fun h =>
          VgaCore.tile_of_below_above hmode hx hbelow hplace h.2
      · rename_i hlower
        exact or_iff_right fun h => hlower h.1
  · exact Iff.rfl

instance : DecidablePred VgaCore.StandardPlanar := fun _ =>
  decidable_of_iff (_ ∧ _ ∧ _ ∧ _ ∧ _ ∧ _ ∧ _)
    ⟨fun ⟨hgraphics, hshift, hserial, hoffset, hwidth, hcolumns, hrows⟩ =>
        ⟨hgraphics, hshift, hserial, hoffset, hwidth, hcolumns, hrows⟩,
      fun h => ⟨h.graphics, h.shiftReg, h.serial, h.lineOffset, h.width, h.columns, h.rows⟩⟩

instance (address : BitVec 64) (offset : BitVec 32) (s : VgaCore) :
    Decidable (s.TakesPlanes address offset) :=
  decidable_of_iff (_ ∧ (¬ (_ ∧ _)) ∧ ¬ (_ ∧ _))
    ⟨fun ⟨hdecoded, hcga, hchained⟩ => ⟨hdecoded, hcga, hchained⟩,
      fun h => ⟨h.decoded, h.notCga, h.notChained⟩⟩

instance (offset : BitVec 32) (s : VgaCore) : Decidable (StaleHarmless offset s) :=
  inferInstanceAs (Decidable (∀ x < s.screenWidth, ∀ y < s.screenHeight, _))

/-- A screen of 25 lines in double scan, split after its first line: what the guest writes to the
sequencer, the graphics controller and the CRTC. -/
private def splitScreen (lineCompare : BitVec 32) : List VgaEvent :=
  [(0x3c4, 0x02, 0x0f), (0x3ce, 0x06, 0x05), (0x3d4, 0x07, 0x01), (0x3d4, 0x09, 0x80),
    (0x3d4, 0x12, 0x18), (0x3d4, 0x13, 0x01), (0x3d4, 0x17, 0x41), (0x3d4, 0x18, 0xff),
    (0x3d4, 0x18, lineCompare)].flatMap fun (port, i, value) =>
      [.portWrite port i 1, .portWrite (port + 1) value 1]

/-- With an odd line compare. -/
theorem planar_pixels_marked_odd :
    ∃ s, run vgaStep VgaCore.initialState (splitScreen 1) = .ok s ∧ s.lineCompare = 1 ∧
      PixelsMarked 22 s (s.mmioWrite 0xa0016 0x55).1 := by
  have hends : ends (fun s : VgaCore => s.lineCompare = 1 ∧ s.StandardPlanar ∧
      s.TakesPlanes 0xa0016 22 ∧ StaleHarmless 22 s)
      (run vgaStep VgaCore.initialState (splitScreen 1)) = true := by
    decide +kernel
  obtain ⟨s, hrun, hline, hmode, htakes, hharmless⟩ := exists_of_ends _ hends
  exact ⟨s, hrun, hline, (planar_pixels_marked_iff hmode htakes).mpr hharmless⟩

/-- With an even one the first line of the second row of tiles is marked in the first row. -/
theorem planar_pixel_stale :
    ¬ ∀ (s : VgaCore) (address : BitVec 64) (offset value : BitVec 32), s.StandardPlanar →
      s.TakesPlanes address offset → PixelsMarked offset s (s.mmioWrite address value).1 := by
  intro h
  have hends : ends (fun s : VgaCore => s.StandardPlanar ∧ s.TakesPlanes 0xa0016 22 ∧
      (0 < s.screenWidth ∧ 24 < s.screenHeight ∧ Word.has s.sequencer.mapMask 0 = true ∧
        planeIndex 0 22 ∈ s.pixelPlaces 0 24) ∧
      (s.mmioWrite 0xa0016 0x55).1.getTileUpdated (0 / xTilesize) (24 / yTilesize) = false)
      (run vgaStep VgaCore.initialState (splitScreen 0)) = true := by
    decide +kernel
  obtain ⟨s, -, hmode, htakes, ⟨hx, hy, hmask, hplace⟩, hstale⟩ := exists_of_ends _ hends
  have hmarked := h s _ _ 0x55 hmode htakes 0 hx 24 hy 0 hmask hplace
  exact absurd (hmarked.symm.trans hstale) (by decide)

end Svmm
