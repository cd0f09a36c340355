import Svmm.Properties.Vga.Aperture
import Svmm.Properties.Vga.TextRows
import Svmm.Framework.Run

/-!
# The bounds of the VGA

`vga_accesses_in_bounds_iff` says in which runs every access to the memory, and every copy into the
snapshot, is within its bounds.  Three things leave them: a byte from 64 KB on in the mapping of 128
KB, which plane 3 does not have; a tile whose last line is past its plane; and the rows of a text,
or their copy, where start, line offset and rows are too much together.  The ports and the CGA modes
are always within bounds.
-/

namespace Svmm

open TransitionRun

variable {s : VgaCore} {address : BitVec 64} {offset : BitVec 32}

/-- Everything an event accesses is there. -/
def AccessesInBounds (s : VgaCore) (event : VgaEvent) : Prop :=
  ∀ fuel, ∀ a ∈ (event.effect fuel s).2.1, a.InBounds

namespace VgaCore

/-! ## The condition -/

/-- In the mapping of 128 KB, a byte of the second half is not chained into plane 3, and not written
to it. -/
def WriteFits (s : VgaCore) (address : BitVec 64) : Prop :=
  s.graphicsCtrl.memoryMapping = 0 → 0xb0000 ≤ address.toNat → address.toNat ≤ 0xbffff →
    (s.IsChained → address.toNat % 4 ≠ 3) ∧
      (¬ s.IsChained → Word.has s.sequencer.mapMask 3 = false)

/-- In the mapping of 128 KB, a byte of the second half is chained, and not into plane 3. -/
def ReadFits (s : VgaCore) (address : BitVec 64) : Prop :=
  s.graphicsCtrl.memoryMapping = 0 → 0x10000 ≤ address.toNat % 0x20000 →
    s.sequencer.chainFour = true ∧ address.toNat % 4 ≠ 3

/-- The last byte of the tile is one of a plane: of its lines above the split and of those below in
the format of the planes, of its last line in the modes of a byte a pixel. -/
def TileFits (s : VgaCore) (tile : ℕ × ℕ) : Prop :=
  let top := s.pixelLine (tile.1 * yTilesize)
  let bottom := s.pixelLine (tile.1 * yTilesize + 23)
  let start := s.startAddr.toNat
  let lineCompare := s.shownLineCompare
  if s.graphicsCtrl.shiftReg = 0 then
    Word.has (s.crtc.reg 0x17) 0 = true →
      let last := if s.xDotclockdiv2 then tile.2 else 2 * tile.2 + 1
      (top ≤ lineCompare → start + last + min bottom lineCompare * s.lineOffset.toNat < 0x10000) ∧
        (lineCompare < bottom → last + (bottom - lineCompare - 1) * s.lineOffset.toNat < 0x10000)
  else if s.graphicsCtrl.shiftReg = 1 then True
  else
    start + bottom * s.lineOffset.toNat +
      (if Word.has (s.crtc.reg 0x14) 6 then 8 * tile.2 + 4
        else if Word.has (s.crtc.reg 0x17) 6 then 2 * tile.2 + 1
        else 4 * tile.2 + 2) < 0x10000

/-- The tiles that a graphics update paints. -/
def GraphicsFit (csToggle : Bool) (s : VgaCore) : Prop :=
  s.skipUpdate.1 = false → ∀ tile ∈ s.screenTiles,
    (csToggle && s.serialPlanes || s.getTileUpdated tile.2 tile.1) = true → s.TileFits tile

/-- The rows that a text update reads, and its copy if it comes to an end. -/
def TextFits (s : VgaCore) : Prop :=
  s.textRows * s.lineOffset.toNat ≤ 1 <<< 17 → s.skipUpdate.1 = false →
    let screen := s.withTextSize.textScreen
    let row := s.withTextSize.firstRow
    screen.RowsFit row ∧
      (screen.Splits row → screen.RowsFit (screen.afterSplit row.panned)) ∧
      (¬ screen.GoesRound row → s.vgaMemUpdated = true →
        s.lineOffset.toNat * s.textRows + s.textStart.toNat ≤ textSnapshotSize)

/-- What an update paints or reads. -/
def UpdateFits (s : VgaCore) : Prop :=
  ∀ csToggle, s.countUpdate.2 = some csToggle →
    if s.graphicsCtrl.graphicsAlpha then s.countUpdate.1.GraphicsFit csToggle
    else s.countUpdate.1.TextFits

end VgaCore

/-- The bytes, or what is painted or read, fit. -/
def BoundsHarmless (s : VgaCore) : VgaEvent → Prop
  | .memoryWrite address data =>
      ∀ i < data.length, s.WriteFits ((address + BitVec.ofNat 32 i).setWidth 64)
  | .memoryRead address length =>
      ∀ i < length, s.ReadFits ((address + BitVec.ofNat 32 i).setWidth 64)
  | .update => s.UpdateFits
  | _ => True

namespace VgaCore

/-! ## A byte -/

/-- An offset from a base. -/
lemma toNat_setWidth_sub (base : ℕ) (hle : base ≤ address.toNat) (hlt : address.toNat ≤ 0xbffff) :
    (address.setWidth 32 - BitVec.ofNat 32 base).toNat = address.toNat - base := by
  rw [setWidth_sub_base hle (by omega), BitVec.toNat_ofNat]
  omega

/-- Where a byte that is written goes, by the mapping. -/
lemma writeOffset_cases (h : s.writeOffset address = some offset) :
    (s.graphicsCtrl.memoryMapping ≠ 0 ∧ offset.toNat < 0x10000) ∨
      (s.graphicsCtrl.memoryMapping = 0 ∧ offset.toNat < 0x20000 ∧
        address.toNat = 0xa0000 + offset.toNat) := by
  unfold writeOffset at h
  rcases twoBits_cases s.graphicsCtrl.memoryMapping with hm | hm | hm | hm <;>
    simp only [hm, BitVec.reduceEq, if_true, if_false] at h <;> split at h <;> try cases h
  · rename_i hin
    simp only [BitVec.lt_def, gt_iff_lt, not_or, Nat.not_lt, BitVec.reduceToNat] at hin
    have hoffset := toNat_setWidth_sub 0xa0000 hin.1 hin.2
    refine .inr ⟨hm, ?_⟩
    show (address.setWidth 32 - BitVec.ofNat 32 0xa0000).toNat < 0x20000 ∧
      address.toNat = 0xa0000 + (address.setWidth 32 - BitVec.ofNat 32 0xa0000).toNat
    omega
  all_goals
    rename_i hin
    simp only [BitVec.lt_def, gt_iff_lt, not_or, Nat.not_lt, BitVec.reduceToNat] at hin
    refine .inl ⟨by rw [hm]; decide, ?_⟩
  · have hoffset := toNat_setWidth_sub 0xa0000 hin.1 (by omega)
    show (address.setWidth 32 - BitVec.ofNat 32 0xa0000).toNat < 0x10000
    omega
  · have hoffset := toNat_setWidth_sub 0xb0000 hin.1 (by omega)
    show (address.setWidth 32 - BitVec.ofNat 32 0xb0000).toNat < 0x10000
    omega
  · have hoffset := toNat_setWidth_sub 0xb8000 hin.1 (by omega)
    show (address.setWidth 32 - BitVec.ofNat 32 0xb8000).toNat < 0x10000
    omega

/-- A byte that is not written is outside the mapping. -/
lemma writeOffset_none (h : s.writeOffset address = none)
    (hmap : s.graphicsCtrl.memoryMapping = 0) :
    ¬ (0xa0000 ≤ address.toNat ∧ address.toNat ≤ 0xbffff) := by
  unfold writeOffset at h
  simp only [hmap, BitVec.reduceEq, if_false] at h
  split at h
  · rename_i hout
    simp only [BitVec.lt_def, gt_iff_lt, BitVec.reduceToNat] at hout
    omega
  · cases h

/-- The place of a chained byte is one of the memory, but in the second half of the mapping of
128 KB for plane 3. -/
lemma chainedIndex_inBounds (h : offset.toNat < 0x20000) :
    (VgaAccess.memory (chainedIndex offset) 1).InBounds ↔
      (0x10000 ≤ offset.toNat → offset.toNat % 4 ≠ 3) := by
  show chainedIndex offset + 1 ≤ vgaMemsize ↔ _
  rw [chainedIndex_eq h, vgaMemsize]
  omega

/-- The place of a byte of a plane is one of the memory, but in the second half for plane 3. -/
lemma planeIndex_inBounds (p : Fin 4) (h : offset.toNat < 0x20000) :
    (VgaAccess.memory (planeIndex p offset) 1).InBounds ↔ (0x10000 ≤ offset.toNat → p ≠ 3) := by
  have hp := p.isLt
  show planeIndex p offset + 1 ≤ vgaMemsize ↔ _
  rw [planeIndex_eq, vgaMemsize, Ne, Fin.ext_iff]
  show _ ↔ (0x10000 ≤ offset.toNat → ¬ p.val = 3)
  omega

/-- What a byte that is written to the planes accesses. -/
lemma planarWrite_inBounds_iff {value : BitVec 32} (h : offset.toNat < 0x20000) :
    (∀ a ∈ (s.planarWrite offset value).2, a.InBounds) ↔
      (0x10000 ≤ offset.toNat → Word.has s.sequencer.mapMask 3 = false) := by
  by_cases hmask : s.sequencer.mapMask = 0
  · rw [planarWrite_of_eq hmask]
    refine iff_of_true (List.forall_mem_nil _) fun _ => ?_
    rw [hmask]
    rfl
  · rw [planarWrite_accesses hmask, List.forall_mem_append]
    simp only [List.forall_mem_map, mem_selectedPlanes, planeIndex_inBounds _ h]
    constructor
    · rintro ⟨hplanes, -⟩ hhalf
      by_contra hthree
      exact hplanes 3 (Bool.not_eq_false _ ▸ hthree) hhalf rfl
    · refine fun hthree => ⟨?_, markPlanar_inBounds⟩
      rintro p hp hhalf rfl
      rw [show ((3 : Fin 4) : ℕ) = 3 from rfl, hthree hhalf] at hp
      exact Bool.false_ne_true hp

/-- What a byte that is written accesses. -/
lemma writeAccesses_inBounds :
    (∀ a ∈ s.writeAccesses address, a.InBounds) ↔ s.WriteFits address := by
  unfold writeAccesses WriteFits
  cases hoffset : s.writeOffset address with
  | none =>
      refine iff_of_true ?_ fun hmap hle hlt => ?_
      · rw [mmioWrite_none hoffset]
        exact List.forall_mem_nil _
      · exact absurd ⟨by omega, hlt⟩ (writeOffset_none hoffset hmap)
  | some offset =>
      have hcases := writeOffset_cases hoffset
      have hlt : offset.toNat < 0x20000 := by omega
      rw [forall_mmioWrite hoffset, chainedIndex_inBounds hlt, planarWrite_inBounds_iff hlt]
      rcases hcases with ⟨hmap, hlow⟩ | ⟨hmap, -, haddress⟩
      · have hfits : (VgaAccess.memory offset.toNat 1).InBounds := by
          show offset.toNat + 1 ≤ vgaMemsize
          rw [vgaMemsize]
          omega
        have hhalf : ¬ 0x10000 ≤ offset.toNat := Nat.not_le.mpr hlow
        exact iff_of_true ⟨fun _ => hfits, fun _ _ => ⟨fun hc => absurd hc hhalf, fun _ => trivial⟩,
          fun _ _ hc => absurd hc hhalf⟩ fun hc => absurd hc hmap
      · have hncga : ¬ s.IsCga := by
          rintro ⟨-, hc⟩
          exact absurd (hc.symm.trans hmap) (by decide)
        have hmod : address.toNat % 4 = offset.toNat % 4 := by omega
        rw [hmod]
        constructor
        · rintro ⟨-, hchained, hplanes⟩ _ hle _
          exact ⟨fun hc => (hchained hncga hc).1 (by omega), fun hc => hplanes hncga hc (by omega)⟩
        · intro h
          have h := fun hhalf : 0x10000 ≤ offset.toNat => h hmap (by omega) (by omega)
          refine ⟨fun hc => absurd hc hncga, fun _ hc => ⟨fun hhalf => ?_, fun _ => trivial⟩,
            fun _ hc hhalf => (h hhalf).2 hc⟩
          exact (h hhalf).1 hc

/-- Where a byte that is read is, by the mapping. -/
lemma readOffset_cases (h : s.readOffset address = some offset) :
    (s.graphicsCtrl.memoryMapping ≠ 0 ∧ offset.toNat < 0x10000) ∨
      (s.graphicsCtrl.memoryMapping = 0 ∧ offset.toNat = address.toNat % 0x20000) := by
  have hmask : ∀ k ≤ 32, ((address &&& BitVec.ofNat 64 (2 ^ k - 1)).setWidth 32).toNat =
      address.toNat % 2 ^ k := by
    intro k hk
    have hlt := Nat.mod_lt address.toNat (Nat.two_pow_pos k)
    have hle := Nat.pow_le_pow_right (show 0 < 2 by decide) hk
    rw [setWidth_and_mask address k hk, BitVec.toNat_ofNat, Nat.mod_eq_of_lt (by omega)]
  have hlow : ∀ k ≤ 16, ((address &&& BitVec.ofNat 64 (2 ^ k - 1)).setWidth 32).toNat <
      0x10000 := by
    intro k hk
    have hlt := Nat.mod_lt address.toNat (Nat.two_pow_pos k)
    have hle := Nat.pow_le_pow_right (show 0 < 2 by decide) hk
    rw [hmask k (by omega)]
    omega
  unfold readOffset at h
  rcases twoBits_cases s.graphicsCtrl.memoryMapping with hm | hm | hm | hm <;>
    simp only [hm, BitVec.reduceEq, if_true, if_false] at h
  · rw [← Option.some.inj h]
    exact .inr ⟨hm, hmask 17 (by decide)⟩
  all_goals
    split at h
    · cases h
    · rw [← Option.some.inj h]
      refine .inl ⟨by rw [hm]; decide, ?_⟩
      first
        | exact hlow 16 (by decide)
        | exact hlow 15 (by decide)

/-- What a byte that is read accesses. -/
lemma readAccesses_inBounds :
    (∀ a ∈ s.readAccesses address, a.InBounds) ↔ s.ReadFits address := by
  unfold readAccesses mmioRead ReadFits
  cases hoffset : s.readOffset address with
  | none =>
      refine iff_of_true (List.forall_mem_nil _) fun hmap => ?_
      unfold readOffset at hoffset
      simp only [hmap, BitVec.reduceEq, if_false] at hoffset
      cases hoffset
  | some offset =>
      have hcases := readOffset_cases hoffset
      have hlt : offset.toNat < 0x20000 := by omega
      simp only
      by_cases hchain : s.sequencer.chainFour = true
      · rw [if_pos hchain, List.forall_mem_singleton, chainedIndex_inBounds hlt]
        simp only [hchain, true_and]
        rcases hcases with ⟨hmap, hlow⟩ | ⟨hmap, heq⟩
        · exact iff_of_true (fun hc => absurd hc (by omega)) fun hc => absurd hc hmap
        · simp only [hmap, true_imp_iff]
          omega
      · rw [if_neg hchain]
        simp only [List.forall_mem_map, List.mem_finRange, true_imp_iff, planeIndex_inBounds _ hlt,
          hchain, Bool.false_eq_true, false_and]
        rcases hcases with ⟨hmap, hlow⟩ | ⟨hmap, heq⟩
        · exact iff_of_true (fun p hc => absurd hc (by omega)) fun hc => absurd hc hmap
        · simp only [hmap, true_imp_iff]
          exact ⟨fun h hle => h 3 (by omega) rfl, fun h p hle => (h (by omega)).elim⟩

/-! ## A tile -/

/-- What a tile reads, by its pixels. -/
lemma tileAccesses_inBounds {tile : ℕ × ℕ} :
    (∀ a ∈ s.tileAccesses tile, a.InBounds) ↔
      ∀ r < yTilesize, ∀ c < xTilesize,
        ∀ place ∈ s.pixelPlaces (tile.2 * xTilesize + c) (tile.1 * yTilesize + r),
          place < vgaMemsize := by
  unfold tileAccesses
  simp only [List.forall_mem_flatMap, List.forall_mem_map, List.mem_range]
  rfl

/-- The lines of a tile are all those from its first to its last. -/
lemma pixelLine_iff (s : VgaCore) (row y : ℕ) :
    (∃ r < yTilesize, s.pixelLine (row * yTilesize + r) = y) ↔
      s.pixelLine (row * yTilesize) ≤ y ∧ y ≤ s.pixelLine (row * yTilesize + 23) := by
  unfold pixelLine yTilesize
  split
  · constructor
    · rintro ⟨r, hr, rfl⟩
      omega
    · rintro ⟨htop, hbottom⟩
      exact ⟨2 * y - row * 24, by omega, by omega⟩
  · constructor
    · rintro ⟨r, hr, rfl⟩
      omega
    · rintro ⟨htop, hbottom⟩
      exact ⟨y - row * 24, by omega, by omega⟩

/-- The screen is at most 4096 by 1024. -/
lemma screen_le : s.screenWidth ≤ 4096 ∧ s.screenHeight ≤ 1024 := by
  have hreg := (s.crtc.reg 0x01).isLt
  constructor
  · unfold screenWidth
    simp only
    split <;> omega
  · exact Nat.succ_le_of_lt (BitVec.isLt _)

lemma mem_screenTiles {tile : ℕ × ℕ} (h : tile ∈ s.screenTiles) : tile.1 < 43 ∧ tile.2 < 256 := by
  obtain ⟨hrow, hcol⟩ := List.pair_mem_product.mp h
  have hscreen := screen_le (s := s)
  rw [List.mem_range] at hrow hcol
  unfold yTilesize at hrow
  unfold xTilesize at hcol
  omega

/-- The CGA modes are inside the memory. -/
lemma cgaPlace_lt {pixels x y : ℕ} (hx : x < 4096) (hy : y < 1032) :
    s.cgaPlace pixels x y < vgaMemsize := by
  have hstart := s.startAddr.isLt
  have hdiv := Nat.div_le_self x pixels
  unfold cgaPlace vgaMemsize
  omega

/-- The last byte of a line of a tile. -/
def lastByte (s : VgaCore) (col : ℕ) : ℕ := if s.xDotclockdiv2 then col else 2 * col + 1

/-- The bytes of a line of a tile in the format of the planes. -/
lemma vgaPixelOffset_le (col y : ℕ) {c : ℕ} (hc : c < xTilesize) (start lc : ℕ) :
    s.vgaPixelOffset (col * xTilesize + c) y start lc ≤
      if lc < y then s.lastByte col + (y - lc - 1) * s.lineOffset.toNat
      else start + s.lastByte col + y * s.lineOffset.toNat := by
  have hbyte : (if s.xDotclockdiv2 then (col * xTilesize + c) / 2 else col * xTilesize + c) / 8 ≤
      s.lastByte col := by
    unfold lastByte
    unfold xTilesize at hc ⊢
    split <;> omega
  unfold vgaPixelOffset
  simp only
  split <;> omega

/-- The last byte of a line is the one of its last pixel. -/
lemma vgaPixelOffset_last {col y : ℕ} (start lc : ℕ) :
    s.vgaPixelOffset (col * xTilesize + 15) y start lc =
      if lc < y then s.lastByte col + (y - lc - 1) * s.lineOffset.toNat
      else start + s.lastByte col + y * s.lineOffset.toNat := by
  have hbyte : (if s.xDotclockdiv2 then (col * xTilesize + 15) / 2 else col * xTilesize + 15) / 8 =
      s.lastByte col := by
    unfold lastByte xTilesize
    split <;> omega
  unfold vgaPixelOffset
  simp only
  rw [hbyte]

/-- A tile in the format of the planes. -/
lemma planarTile_inBounds {tile : ℕ × ℕ} (start lc : ℕ) :
    (∀ r < yTilesize, ∀ c < xTilesize, ∀ p < 4,
      p * 65536 + s.vgaPixelOffset (tile.2 * xTilesize + c)
        (s.pixelLine (tile.1 * yTilesize + r)) start lc < vgaMemsize) ↔
      (s.pixelLine (tile.1 * yTilesize) ≤ lc → start + s.lastByte tile.2 +
          min (s.pixelLine (tile.1 * yTilesize + 23)) lc * s.lineOffset.toNat < 0x10000) ∧
        (lc < s.pixelLine (tile.1 * yTilesize + 23) → s.lastByte tile.2 +
          (s.pixelLine (tile.1 * yTilesize + 23) - lc - 1) * s.lineOffset.toNat < 0x10000) := by
  have hsize : vgaMemsize = 3 * 65536 + 0x10000 := rfl
  have hrange := pixelLine_iff s tile.1
  have hle : s.pixelLine (tile.1 * yTilesize) ≤ s.pixelLine (tile.1 * yTilesize + 23) := by
    unfold pixelLine
    split <;> omega
  constructor
  · intro h
    constructor
    · intro htop
      obtain ⟨r, hr, hy⟩ := (hrange (min (s.pixelLine (tile.1 * yTilesize + 23)) lc)).mpr (by omega)
      have hlast := h r hr 15 (by decide) 3 (by decide)
      rw [hy, vgaPixelOffset_last, if_neg (by omega)] at hlast
      omega
    · intro hbottom
      have hlast := h 23 (by decide) 15 (by decide) 3 (by decide)
      rw [vgaPixelOffset_last, if_pos hbottom] at hlast
      omega
  · rintro ⟨hupper, hlower⟩ r hr c hc p hp
    obtain ⟨htop, hbottom⟩ := (hrange _).mp ⟨r, hr, rfl⟩
    generalize s.pixelLine (tile.1 * yTilesize + r) = y at htop hbottom ⊢
    have hbyte := vgaPixelOffset_le (s := s) tile.2 y hc start lc
    split at hbyte
    · rename_i hbelow
      have hmul := Nat.mul_le_mul_right s.lineOffset.toNat
        (show y - lc - 1 ≤ s.pixelLine (tile.1 * yTilesize + 23) - lc - 1 by omega)
      have := hlower (by omega)
      omega
    · rename_i habove
      have hmul := Nat.mul_le_mul_right s.lineOffset.toNat
        (show y ≤ min (s.pixelLine (tile.1 * yTilesize + 23)) lc by omega)
      have := hupper (by omega)
      omega

/-- The last byte of a line of a tile of a byte a pixel. -/
def lastColumn (s : VgaCore) (col : ℕ) : ℕ :=
  if Word.has (s.crtc.reg 0x14) 6 then 8 * col + 4
  else if Word.has (s.crtc.reg 0x17) 6 then 2 * col + 1
  else 4 * col + 2

/-- The bytes of a line of a tile of a byte a pixel. -/
lemma bytePlace_le (col y : ℕ) {c : ℕ} (hc : c < xTilesize) :
    s.bytePlace (col * xTilesize + c) y ≤
      3 * 65536 + (s.startAddr.toNat + y * s.lineOffset.toNat + s.lastColumn col) := by
  unfold bytePlace lastColumn
  unfold xTilesize at hc ⊢
  simp only
  split_ifs <;> omega

lemma bytePlace_last (col y : ℕ) :
    s.bytePlace (col * xTilesize + 15) y =
      3 * 65536 + (s.startAddr.toNat + y * s.lineOffset.toNat + s.lastColumn col) := by
  unfold bytePlace lastColumn xTilesize
  simp only
  split_ifs <;> omega

lemma byteTile_inBounds {tile : ℕ × ℕ} :
    (∀ r < yTilesize, ∀ c < xTilesize,
      s.bytePlace (tile.2 * xTilesize + c) (s.pixelLine (tile.1 * yTilesize + r)) < vgaMemsize) ↔
      s.startAddr.toNat + s.pixelLine (tile.1 * yTilesize + 23) * s.lineOffset.toNat +
        s.lastColumn tile.2 < 0x10000 := by
  have hsize : vgaMemsize = 3 * 65536 + 0x10000 := rfl
  constructor
  · intro h
    have hlast := h 23 (by decide) 15 (by decide)
    rw [bytePlace_last] at hlast
    omega
  · intro h r hr c hc
    obtain ⟨-, hbottom⟩ := (pixelLine_iff s tile.1 _).mp ⟨r, hr, rfl⟩
    have hmul := Nat.mul_le_mul_right s.lineOffset.toNat hbottom
    have hplace := bytePlace_le (s := s) tile.2 (s.pixelLine (tile.1 * yTilesize + r)) hc
    omega

/-- When a tile of the screen is inside the memory. -/
lemma tileFits_iff {tile : ℕ × ℕ} (htile : tile ∈ s.screenTiles) :
    (∀ a ∈ s.tileAccesses tile, a.InBounds) ↔ s.TileFits tile := by
  obtain ⟨hrow, hcol⟩ := mem_screenTiles htile
  have hline : ∀ r < yTilesize, s.pixelLine (tile.1 * yTilesize + r) < 1032 := by
    unfold pixelLine yTilesize
    intro r hr
    split <;> omega
  have hpixel : ∀ c < xTilesize, tile.2 * xTilesize + c < 4096 := by
    unfold xTilesize
    omega
  rw [tileAccesses_inBounds]
  unfold pixelPlaces TileFits
  simp only
  by_cases hzero : s.graphicsCtrl.shiftReg = 0
  · simp only [if_pos hzero]
    by_cases hplanes : Word.has (s.crtc.reg 0x17) 0 = true
    · simp only [hplanes, if_true, true_imp_iff, List.forall_mem_map, List.mem_range]
      exact planarTile_inBounds _ _
    · simp only [if_neg hplanes]
      refine iff_of_true (fun r hr c hc => List.forall_mem_singleton.mpr ?_) fun h =>
        absurd h hplanes
      exact cgaPlace_lt (hpixel c hc) (hline r hr)
  · simp only [if_neg hzero]
    by_cases hone : s.graphicsCtrl.shiftReg = 1
    · simp only [if_pos hone]
      refine iff_of_true (fun r hr c hc => List.forall_mem_singleton.mpr ?_) trivial
      refine cgaPlace_lt ?_ (hline r hr)
      have := hpixel c hc
      split <;> omega
    · simp only [if_neg hone, List.forall_mem_singleton]
      exact byteTile_inBounds

/-! ## An update -/

/-- What a graphics update reads, in terms of the state before it. -/
lemma updateGraphics_accesses (csToggle : Bool) :
    ∃ t : VgaCore, t.tileUpdated = s.tileUpdated ∧ (s.updateGraphics csToggle).2 =
      if s.skipUpdate.1 = true then []
      else (t.paintTiles (csToggle && s.serialPlanes) s.tileAccesses s.screenTiles).2 := by
  have hsize : ∃ x y b, s.withScreenSize =
      { s with lastXres := x, lastYres := y, lastBpp := b } := by
    unfold withScreenSize
    split
    · exact ⟨_, _, _, rfl⟩
    · exact ⟨s.lastXres, s.lastYres, s.lastBpp, rfl⟩
  obtain ⟨x, y, b, hsize⟩ := hsize
  refine ⟨{ s with lastXres := x, lastYres := y, lastBpp := b }.skipUpdate.2, rfl, ?_⟩
  unfold updateGraphics
  rw [hsize]
  by_cases hskip : s.skipUpdate.1 = true
  · rw [if_pos hskip]
    exact congrArg Prod.snd (if_pos hskip)
  · rw [if_neg hskip]
    exact (congrArg Prod.snd (if_neg hskip)).trans rfl

/-- The tiles that a graphics update reads. -/
lemma updateGraphics_inBounds (csToggle : Bool) :
    (∀ a ∈ (s.updateGraphics csToggle).2, a.InBounds) ↔ s.GraphicsFit csToggle := by
  obtain ⟨t, htiles, haccesses⟩ := updateGraphics_accesses (s := s) csToggle
  have hdue : ∀ x y, t.getTileUpdated x y = s.getTileUpdated x y := by
    intro x y
    rw [getTileUpdated, getTileUpdated, htiles]
  rw [haccesses, GraphicsFit]
  by_cases hskip : s.skipUpdate.1 = true
  · rw [if_pos hskip]
    exact iff_of_true (List.forall_mem_nil _) fun hc =>
      absurd (hskip.symm.trans hc) (by decide)
  · rw [if_neg hskip, forall_paintTiles screenTiles_nodup]
    simp only [hdue, Bool.eq_false_iff.mpr hskip, true_imp_iff]
    refine forall₂_congr fun tile htile => imp_congr_right fun _ => ?_
    exact tileFits_iff htile

/-- What is read of a text, with the cursor. -/
lemma textUpdateCommon_inBounds (fuel : ℕ) :
    (∀ a ∈ (s.textUpdateCommon fuel).1, a.InBounds) ↔
      ∀ a ∈ (s.textScreen.textLoop fuel s.firstRow).1, a.InBounds := by
  have hcursor : ∀ a ∈ (if s.textCursor < 0xffff then [VgaAccess.memory s.textCursor 1] else []),
      a.InBounds := by
    split
    · rename_i hlt
      refine List.forall_mem_singleton.mpr ?_
      show s.textCursor + 1 ≤ vgaMemsize
      rw [vgaMemsize]
      omega
    · exact List.forall_mem_nil _
  unfold textUpdateCommon
  simp only [List.forall_mem_append]
  refine and_iff_right ⟨hcursor, ?_⟩
  simp [VgaAccess.InBounds]

lemma textUpdateCommon_ended (fuel : ℕ) :
    (s.textUpdateCommon fuel).2 = (s.textScreen.textLoop fuel s.firstRow).2 := rfl

/-- The rows do not depend on what is skipped. -/
lemma skipUpdate_rows (s : VgaCore) :
    s.skipUpdate.2.textScreen = s.textScreen ∧ s.skipUpdate.2.firstRow = s.firstRow :=
  ⟨rfl, rfl⟩

/-- The size does not change what else a text is read by. -/
lemma withTextSize_eq : ∃ w x y b fw fh, s.withTextSize =
    { s with
      window := w, lastXres := x, lastYres := y, lastBpp := b, lastFw := fw, lastFh := fh } := by
  unfold withTextSize
  simp only
  split
  · exact ⟨_, _, _, _, _, _, rfl⟩
  · exact ⟨s.window, s.lastXres, s.lastYres, s.lastBpp, s.lastFw, s.lastFh, rfl⟩

/-- What a text update that is not skipped accesses. -/
lemma updateText_accesses {fuel : ℕ} (hlarge : ¬ 1 <<< 17 < s.textRows * s.lineOffset.toNat)
    (hskip : s.withTextSize.skipUpdate.1 = false) :
    let t := s.withTextSize.skipUpdate.2
    let length := t.lineOffset.toNat * t.textRows + t.textStart.toNat
    (s.updateText fuel).2.1 =
      .divisor (s.textCells.2 + 1) :: (t.textUpdateCommon fuel).1 ++
        if (t.textUpdateCommon fuel).2 = true ∧ t.vgaMemUpdated = true then
          [VgaAccess.memory 0 length, .snapshot length]
        else [] := by
  unfold updateText
  simp only [if_neg hlarge]
  rcases hpair : s.withTextSize.skipUpdate with ⟨skip, t⟩
  rw [hpair] at hskip
  have hskip : skip = false := hskip
  subst hskip
  simp only [Bool.false_eq_true, if_false, Bool.and_eq_true]
  split
  · rfl
  · exact (List.append_nil _).symm

/-- The copy of so many bytes is made under a condition. -/
lemma copy_inBounds {c : Prop} [Decidable c] {length : ℕ} :
    (∀ a ∈ (if c then [VgaAccess.memory 0 length, .snapshot length] else []), a.InBounds) ↔
      (c → length ≤ textSnapshotSize) := by
  have hsize : textSnapshotSize ≤ vgaMemsize := by decide
  split
  · rename_i hc
    rw [List.forall_mem_cons, List.forall_mem_singleton]
    constructor
    · exact fun h _ => h.2
    · intro h
      have hle : length ≤ textSnapshotSize := h hc
      exact ⟨show 0 + length ≤ vgaMemsize by omega, hle⟩
  · rename_i hc
    exact iff_of_true (List.forall_mem_nil _) fun h => absurd h hc

/-- What a text update reads for so many rows, in terms of the state before it. -/
lemma updateText_inBounds_of_fuel (fuel : ℕ) :
    (∀ a ∈ (s.updateText fuel).2.1, a.InBounds) ↔
      (s.textRows * s.lineOffset.toNat ≤ 1 <<< 17 → s.skipUpdate.1 = false →
        (∀ a ∈ (s.withTextSize.textScreen.textLoop fuel s.withTextSize.firstRow).1, a.InBounds) ∧
          ((s.withTextSize.textScreen.textLoop fuel s.withTextSize.firstRow).2 = true →
            s.vgaMemUpdated = true →
              s.lineOffset.toNat * s.textRows + s.textStart.toNat ≤ textSnapshotSize)) := by
  have hcell : (VgaAccess.divisor (s.textCells.2 + 1)).InBounds := trivial
  obtain ⟨w, x, y, b, fw, fh, hsize⟩ := withTextSize_eq (s := s)
  have hskips : s.withTextSize.skipUpdate.1 = s.skipUpdate.1 := by
    rw [hsize]
    rfl
  by_cases hlarge : 1 <<< 17 < s.textRows * s.lineOffset.toNat
  · refine iff_of_true ?_ fun hc => absurd hlarge (Nat.not_lt.mpr hc)
    unfold updateText
    simp only [if_pos hlarge, List.forall_mem_singleton]
    exact hcell
  · by_cases hskip : s.skipUpdate.1 = true
    · refine iff_of_true ?_ fun _ hc => absurd (hskip.symm.trans hc) (by decide)
      have hskip' := hskips.trans hskip
      unfold updateText
      simp only [if_neg hlarge]
      rcases hpair : s.withTextSize.skipUpdate with ⟨skip, t⟩
      rw [hpair] at hskip'
      have hskip' : skip = true := hskip'
      subst hskip'
      exact List.forall_mem_singleton.mpr hcell
    · have hskip := Bool.eq_false_iff.mpr hskip
      have hcommon := textUpdateCommon_inBounds (s := s.withTextSize.skipUpdate.2) fuel
      have hended := textUpdateCommon_ended (s := s.withTextSize.skipUpdate.2) fuel
      rw [(skipUpdate_rows s.withTextSize).1, (skipUpdate_rows s.withTextSize).2] at hcommon hended
      have hmem : s.withTextSize.skipUpdate.2.vgaMemUpdated = s.vgaMemUpdated := by
        rw [hsize]
        rfl
      have hlength : s.withTextSize.skipUpdate.2.lineOffset.toNat *
            s.withTextSize.skipUpdate.2.textRows + s.withTextSize.skipUpdate.2.textStart.toNat =
          s.lineOffset.toNat * s.textRows + s.textStart.toNat := by
        rw [hsize]
        rfl
      have hall : (∀ a ∈ (s.updateText fuel).2.1, a.InBounds) ↔
          (∀ a ∈ (s.withTextSize.textScreen.textLoop fuel s.withTextSize.firstRow).1,
            a.InBounds) ∧
          ((s.withTextSize.textScreen.textLoop fuel s.withTextSize.firstRow).2 = true ∧
            s.vgaMemUpdated = true →
              s.lineOffset.toNat * s.textRows + s.textStart.toNat ≤ textSnapshotSize) := by
        rw [updateText_accesses hlarge (hskips.trans hskip)]
        rw [hmem, hlength, hended, List.cons_append, List.forall_mem_cons, List.forall_mem_append,
          hcommon, copy_inBounds]
        exact and_iff_right hcell
      rw [hall, and_imp]
      exact ⟨fun h _ _ => h, fun h => h (Nat.not_lt.mp hlarge) hskip⟩

/-- The rows that a text update reads, and its copy. -/
lemma updateText_inBounds :
    (∀ fuel, ∀ a ∈ (s.updateText fuel).2.1, a.InBounds) ↔ s.TextFits := by
  simp only [updateText_inBounds_of_fuel, TextFits]
  rw [← TextScreen.textLoop_ends_iff]
  constructor
  · intro h hlarge hskip
    have hrows := TextScreen.textLoop_inBounds_iff.mp fun fuel => (h fuel hlarge hskip).1
    refine ⟨hrows.1, hrows.2, ?_⟩
    rintro ⟨fuel, hended⟩ hmem
    exact (h fuel hlarge hskip).2 hended hmem
  · intro h fuel hlarge hskip
    obtain ⟨hfit, hafter, hcopy⟩ := h hlarge hskip
    exact ⟨TextScreen.textLoop_inBounds_iff.mpr ⟨hfit, hafter⟩ fuel,
      fun hended hmem => hcopy ⟨fuel, hended⟩ hmem⟩

/-- What an update accesses. -/
lemma update_inBounds :
    (∀ fuel, ∀ a ∈ (s.update fuel).2.1, a.InBounds) ↔ s.UpdateFits := by
  have halpha : s.countUpdate.1.graphicsCtrl.graphicsAlpha = s.graphicsCtrl.graphicsAlpha := by
    unfold countUpdate
    simp only
    split_ifs <;> rfl
  unfold update UpdateFits
  revert halpha
  rcases s.countUpdate with ⟨t, _ | csToggle⟩ <;> intro halpha
  · exact iff_of_true (fun _ => List.forall_mem_nil _) fun _ hc => nomatch hc
  · have halpha : t.graphicsCtrl.graphicsAlpha = s.graphicsCtrl.graphicsAlpha := halpha
    simp only [Option.some.injEq, forall_eq', halpha]
    by_cases hgraphics : s.graphicsCtrl.graphicsAlpha = true
    · simp only [if_pos hgraphics, forall_const]
      exact updateGraphics_inBounds csToggle
    · simp only [if_neg hgraphics]
      exact updateText_inBounds

end VgaCore

/-! ## The runs -/

/-- When everything an event accesses is there. -/
lemma accessesInBounds_iff (event : VgaEvent) :
    AccessesInBounds s event ↔ BoundsHarmless s event := by
  cases event with
  | portWrite address value length =>
      exact iff_of_true (fun _ a ha => (VgaCore.portIoWriteHandler_accesses _ _ _ a ha).1) trivial
  | portRead address length =>
      exact iff_of_true (fun _ => List.forall_mem_nil _) trivial
  | memoryWrite address data =>
      refine (forall_const ℕ).trans
        ((VgaCore.forall_mmioWriteHandler _ _ (VgaCore.SameRegisters.refl s)).trans ?_)
      exact forall₂_congr fun i _ => VgaCore.writeAccesses_inBounds
  | memoryRead address length =>
      refine (forall_const ℕ).trans (VgaCore.forall_mmioReadHandler.trans ?_)
      exact forall₂_congr fun i _ => VgaCore.readAccesses_inBounds
  | update => exact VgaCore.update_inBounds

theorem vga_accesses_in_bounds_iff (events : List VgaEvent) :
    Meets vgaStep AccessesInBounds VgaCore.initialState events ↔
      Meets vgaStep BoundsHarmless VgaCore.initialState events :=
  Meets.congr fun _ event => accessesInBounds_iff event

/-- The mapping of 128 KB and map mask 15. -/
private def largeMapping : List VgaEvent :=
  [.portWrite 0x3ce 6 1, .portWrite 0x3cf 0 1, .portWrite 0x3c4 2 1, .portWrite 0x3c5 0x0f 1]

/-- The last byte of the mapping is past the memory in plane 3. -/
theorem vga_write_past_memory :
    ¬ ∀ events : List VgaEvent, Meets vgaStep AccessesInBounds VgaCore.initialState events := by
  intro h
  have hends : ends
      (fun t => ¬ ∀ a ∈ ((VgaEvent.memoryWrite 0xbffff [0x41]).effect 0 t).2.1, a.InBounds)
      (run vgaStep VgaCore.initialState largeMapping) = true := by
    decide +kernel
  obtain ⟨t, hrun, hout⟩ := exists_of_ends _ hends
  exact hout (Meets.after (h (largeMapping ++ [.memoryWrite 0xbffff [0x41]])) hrun 0)

end Svmm
