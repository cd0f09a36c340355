import Mathlib.Data.Fintype.Basic
import Mathlib.Tactic.FinCases
import Mathlib.Tactic.IntervalCases
import Svmm.Properties.Vga.Views

/-!
# Reading back the indexed registers of the VGA

`register_read_back` says what a read of a register of the graphics controller, the sequencer or the
attribute controller gives, after it was written and anything but another write of it has happened.

The byte that a register holds (`VgaRegister.contents`) is put together from the fields that a write
takes it apart into.  A write leaves the writable bits of its byte there, no other write changes it
but a reset of the sequencer (`ResetsSequencer`), and a read gives it.
-/

namespace Svmm

open TransitionRun

/-- The indexed registers of the three units. -/
inductive VgaRegister where
  | graphics (i : Fin 9)
  | sequencer (i : Fin 5)
  | attributes (i : Fin 21)
  deriving DecidableEq

variable {s t u : VgaCore} {value : BitVec 32}

namespace VgaRegister

/-- The port that the data of the unit is written to. -/
def writePort : VgaRegister → BitVec 64
  | .graphics _ => 0x03cf
  | .sequencer _ => 0x03c5
  | .attributes _ => 0x03c0

/-- The port that the data of the unit is read from. -/
def readPort : VgaRegister → BitVec 64
  | .graphics _ => 0x03cf
  | .sequencer _ => 0x03c5
  | .attributes _ => 0x03c1

/-- The bits of a register that a write keeps. -/
def writable : VgaRegister → BitVec 8
  | .graphics i => [0x0f, 0x0f, 0x0f, 0x1f, 0x03, 0x7b, 0x0f, 0x0f, 0xff].getD i 0
  | .sequencer i => [0x03, 0x3d, 0x0f, 0x3f, 0x0e].getD i 0
  | .attributes i => if i.val < 0x10 then 0xff else [0xef, 0x3f, 0x0f, 0x0f, 0x0f].getD (i - 0x10) 0

/-- The index of the unit is that of the register. -/
def Selected : VgaRegister → VgaCore → Prop
  | .graphics i, s => s.graphicsCtrl.index = BitVec.ofNat 8 i
  | .sequencer i, s => s.sequencer.index = BitVec.ofNat 8 i
  | .attributes i, s => s.attributeCtrl.address = BitVec.ofNat 5 i

/-- A byte written to the data port goes to the register; that of the attribute controller takes
indices in turn. -/
def Ready : VgaRegister → VgaCore → Prop
  | .attributes i, s => Selected (.attributes i) s ∧ s.attributeCtrl.flipFlop = true
  | r, s => r.Selected s

/-- A byte is written to the register. -/
def Writes (r : VgaRegister) (w : VgaByteWrite) : Prop :=
  w.address = r.writePort ∧ r.Ready w.state

/-- What a register of the graphics controller holds. -/
def graphicsContents (g : VgaGraphics) : Fin 9 → BitVec 8
  | 0 => g.setReset.setWidth 8
  | 1 => g.enableSetReset.setWidth 8
  | 2 => g.colorCompare.setWidth 8
  | 3 => g.rasterOp.setWidth 8 <<< 3 ||| g.dataRotate.setWidth 8
  | 4 => g.readMapSelect.setWidth 8
  | 5 =>
      g.shiftReg.setWidth 8 <<< 5 ||| VgaCore.flagBit g.oddEven 4 |||
        g.readMode.setWidth 8 <<< 3 |||
        g.writeMode.setWidth 8
  | 6 =>
      g.memoryMapping.setWidth 8 <<< 2 ||| VgaCore.flagBit g.chainOddEven 1 |||
        VgaCore.flagBit g.graphicsAlpha 0
  | 7 => g.colorDontCare.setWidth 8
  | 8 => g.bitmask

/-- What a register of the sequencer holds. -/
def sequencerContents (q : VgaSequencer) : Fin 5 → BitVec 8
  | 0 => VgaCore.flagBit q.reset1 0 ||| VgaCore.flagBit q.reset2 1
  | 1 => q.reg1
  | 2 => q.mapMask.setWidth 8
  | 3 => q.charMapSelect.setWidth 8
  | 4 =>
      VgaCore.flagBit q.extendedMem 1 ||| VgaCore.flagBit q.oddEven 2 |||
        VgaCore.flagBit q.chainFour 3

/-- The byte that a register holds. -/
def contents : VgaRegister → VgaCore → BitVec 8
  | .graphics i, s => graphicsContents s.graphicsCtrl i
  | .sequencer i, s => sequencerContents s.sequencer i
  | .attributes i, s => VgaCore.readAttribute { s.attributeCtrl with address := BitVec.ofNat 5 i }

lemma contents_view (r : VgaRegister) : SizelessView r.contents := by
  cases r with
  | graphics i => exact settings_view.comp fun x => graphicsContents x.graphicsCtrl i
  | sequencer i => exact settings_view.comp fun x => sequencerContents x.sequencer i
  | attributes i =>
      exact settings_view.comp fun x =>
        VgaCore.readAttribute { x.attributeCtrl with address := BitVec.ofNat 5 i }

/-! ## A write of the register -/

lemma has_flagBit (c : Bool) {i b : ℕ} (hb : b < 8) :
    Word.has (VgaCore.flagBit c i) b = (c && decide (i = b)) := by
  unfold VgaCore.flagBit
  cases c <;> simp [hb]

/-- A field of the low bits. -/
lemma lowField (value : BitVec 32) {k : ℕ} {mask : BitVec 8} (hk : k ≤ 8)
    (hmask : mask.toNat = 2 ^ k - 1) :
    (value.setWidth k).setWidth 8 = value.setWidth 8 &&& mask := by
  refine BitVec.eq_of_toNat_eq ?_
  have hdvd : 2 ^ k ∣ 2 ^ 8 := Nat.pow_dvd_pow 2 hk
  have hlt : value.toNat % 2 ^ k < 2 ^ 8 :=
    Nat.lt_of_lt_of_le (Nat.mod_lt _ (Nat.two_pow_pos k)) (Nat.pow_le_pow_right (by decide) hk)
  rw [Word.toNat_and_mask hmask, BitVec.toNat_setWidth, BitVec.toNat_setWidth,
    BitVec.toNat_setWidth, Nat.mod_eq_of_lt hlt, Nat.mod_mod_of_dvd _ hdvd]

/-- The bits of a field that is moved down and back. -/
lemma has_field (value : BitVec 32) {k i b : ℕ} (hb : b < 8) :
    Word.has (((value >>> i).setWidth k).setWidth 8 <<< i : BitVec 8) b =
      (decide (i ≤ b) && decide (b < i + k) && Word.has value b) := by
  by_cases hi : i ≤ b
  · obtain ⟨j, rfl⟩ := Nat.exists_eq_add_of_le hi
    have hlt : j < 8 ∧ j + i < 8 ∧ (j + i < i + k ↔ j < k) := by omega
    simp [Word.has_eq_getLsbD, hlt, Nat.add_comm i j]
  · simp [Word.has_eq_getLsbD, hi, Nat.lt_of_not_le hi]

lemma contents_writeGraphics {i : Fin 9} (hi : Selected (.graphics i) s) :
    contents (.graphics i) (s.writeGraphics value).1 =
      value.setWidth 8 &&& writable (.graphics i) := by
  have hindex : s = s.withGraphics { s.graphicsCtrl with index := BitVec.ofNat 8 i } := by
    rw [← (show s.graphicsCtrl.index = BitVec.ofNat 8 i from hi)]
    rfl
  rw [hindex]
  generalize s.graphicsCtrl = g
  fin_cases i
  · exact lowField value (k := 4) (by decide) rfl
  · exact lowField value (k := 4) (by decide) rfl
  · exact lowField value (k := 4) (by decide) rfl
  · refine Word.ext_has fun b hb => ?_
    change Word.has (((value >>> 3).setWidth 2).setWidth 8 <<< 3 ||| (value.setWidth 3).setWidth 8)
      b = Word.has (value.setWidth 8 &&& 0x1f) b
    rw [Word.has_or, has_field value hb]
    interval_cases b <;> simp [Word.has_eq_getLsbD]
  · exact lowField value (k := 2) (by decide) rfl
  · refine Word.ext_has fun b hb => ?_
    change Word.has (((value >>> 5).setWidth 2).setWidth 8 <<< 5 |||
      VgaCore.flagBit (Word.has value 4) 4 ||| ((value >>> 3).setWidth 1).setWidth 8 <<< 3 |||
      (value.setWidth 2).setWidth 8) b = Word.has (value.setWidth 8 &&& 0x7b) b
    rw [Word.has_or, Word.has_or, Word.has_or, has_field value hb, has_field value hb,
      has_flagBit _ hb]
    interval_cases b <;> simp [Word.has_eq_getLsbD]
  · have hmode : ∀ (c : Prop) [Decidable c] (t : VgaCore),
        contents (.graphics 6) (if c then { t with lastYres := 0 } else t) =
          contents (.graphics 6) t := by
      intro c _ t
      split <;> rfl
    refine (hmode ..).trans (Word.ext_has fun b hb => ?_)
    change Word.has (((value >>> 2).setWidth 2).setWidth 8 <<< 2 |||
      VgaCore.flagBit (Word.has value 1) 1 ||| VgaCore.flagBit (Word.has value 0) 0) b =
        Word.has (value.setWidth 8 &&& 0x0f) b
    rw [Word.has_or, Word.has_or, has_field value hb, has_flagBit _ hb, has_flagBit _ hb]
    interval_cases b <;> simp [Word.has_eq_getLsbD]
  · exact lowField value (k := 4) (by decide) rfl
  · change value.setWidth 8 = value.setWidth 8 &&& 0xff
    exact (BitVec.and_allOnes (x := value.setWidth 8)).symm

lemma contents_writeSequencer {i : Fin 5} (hi : Selected (.sequencer i) s) :
    contents (.sequencer i) (s.writeSequencer value).1 =
      value.setWidth 8 &&& writable (.sequencer i) := by
  have hindex : s = s.withSequencer { s.sequencer with index := BitVec.ofNat 8 i } := by
    rw [← (show s.sequencer.index = BitVec.ofNat 8 i from hi)]
    rfl
  rw [hindex]
  generalize s.sequencer = q
  fin_cases i
  · refine Word.ext_has fun b hb => ?_
    change Word.has (VgaCore.flagBit (Word.has value 0) 0 ||| VgaCore.flagBit (Word.has value 1) 1)
      b = Word.has (value.setWidth 8 &&& 0x03) b
    rw [Word.has_or, has_flagBit _ hb, has_flagBit _ hb]
    interval_cases b <;> simp [Word.has_eq_getLsbD]
  · refine Word.ext_has fun b hb => ?_
    change Word.has ((value &&& 0x3d).setWidth 8) b = Word.has (value.setWidth 8 &&& 0x3d) b
    interval_cases b <;> simp [Word.has_eq_getLsbD]
  · exact lowField value (k := 4) (by decide) rfl
  · exact lowField value (k := 6) (by decide) rfl
  · refine Word.ext_has fun b hb => ?_
    change Word.has (VgaCore.flagBit (Word.has value 1) 1 |||
      VgaCore.flagBit (Word.has value 2) 2 ||| VgaCore.flagBit (Word.has value 3) 3) b =
        Word.has (value.setWidth 8 &&& 0x0e) b
    rw [Word.has_or, Word.has_or, has_flagBit _ hb, has_flagBit _ hb, has_flagBit _ hb]
    interval_cases b <;> simp [Word.has_eq_getLsbD]

lemma contents_palette {i : Fin 21} (hlt : i.val < 0x10) (s : VgaCore) :
    contents (.attributes i) s = s.attributeCtrl.paletteReg (BitVec.ofNat 4 i) := by
  have hlow : BitVec.ofNat 5 i < 0x10 := by
    rw [BitVec.lt_def, BitVec.toNat_ofNat]
    exact Nat.lt_of_le_of_lt (Nat.mod_le ..) hlt
  unfold contents VgaCore.readAttribute
  simp only [if_pos hlow]
  exact congrArg _ (BitVec.setWidth_ofNat_of_le (by decide) i.val)

/-- A palette register takes the byte whether or not it differs. -/
lemma contents_writePalette {i : Fin 21} (hi : Selected (.attributes i) s) (hlt : i.val < 0x10) :
    contents (.attributes i) (s.writeAttributeData value).1 = value.setWidth 8 := by
  have haddress : s.attributeCtrl.address = BitVec.ofNat 5 i := hi
  have hentry : s.attributeCtrl.address.setWidth 4 = BitVec.ofNat 4 i := by
    rw [haddress, BitVec.setWidth_ofNat_of_le (by decide)]
  have hlow : s.attributeCtrl.address < 0x10 := by
    rw [haddress, BitVec.lt_def, BitVec.toNat_ofNat]
    exact Nat.lt_of_le_of_lt (Nat.mod_le ..) hlt
  rw [contents_palette hlt]
  unfold VgaCore.writeAttributeData
  simp only [if_pos hlow, hentry]
  by_cases hne : value ≠ (s.attributeCtrl.paletteReg (BitVec.ofNat 4 i)).setWidth 32
  · rw [if_pos hne]
    exact Function.update_self ..
  · rw [if_neg hne, not_not.mp hne, Word.setWidth_setWidth_eq (by decide)]

lemma attributes_cases :
    ∀ i : Fin 21, ¬ i.val < 0x10 → i = 16 ∨ i = 17 ∨ i = 18 ∨ i = 19 ∨ i = 20 := by
  decide

lemma contents_writeAttributeData {i : Fin 21} (hi : Selected (.attributes i) s) :
    contents (.attributes i) (s.writeAttributeData value).1 =
      value.setWidth 8 &&& writable (.attributes i) := by
  by_cases hlt : i.val < 0x10
  · have hmask : writable (.attributes i) = BitVec.allOnes 8 := if_pos hlt
    rw [contents_writePalette hi hlt, hmask, BitVec.and_allOnes]
  have hindex : s = s.withAttribute { s.attributeCtrl with address := BitVec.ofNat 5 i } := by
    rw [← (show s.attributeCtrl.address = BitVec.ofNat 5 i from hi)]
    rfl
  rw [hindex]
  generalize s.attributeCtrl = a
  obtain rfl | rfl | rfl | rfl | rfl := attributes_cases i hlt
  · refine Word.ext_has fun b hb => ?_
    change Word.has (VgaCore.flagBit (Word.has value 0) 0 |||
      VgaCore.flagBit (Word.has value 1) 1 ||| VgaCore.flagBit (Word.has value 2) 2 |||
      VgaCore.flagBit (Word.has value 3) 3 ||| VgaCore.flagBit (Word.has value 5) 5 |||
      VgaCore.flagBit (Word.has value 6) 6 ||| VgaCore.flagBit (Word.has value 7) 7) b =
        Word.has (value.setWidth 8 &&& 0xef) b
    simp only [Word.has_or, has_flagBit _ hb]
    interval_cases b <;> simp [Word.has_eq_getLsbD]
  · exact lowField value (k := 6) (by decide) rfl
  · exact lowField value (k := 4) (by decide) rfl
  · exact lowField value (k := 4) (by decide) rfl
  · exact lowField value (k := 4) (by decide) rfl

lemma writePort_range (r : VgaRegister) : 0x03c0 ≤ r.writePort ∧ r.writePort ≤ 0x03cf := by
  have hport : r.writePort = 0x03cf ∨ r.writePort = 0x03c5 ∨ r.writePort = 0x03c0 := by
    cases r <;> simp [writePort]
  rcases hport with h | h | h <;> rw [h] <;> decide

/-- The register takes the writable bits of the byte. -/
lemma contents_portWriteByte {r : VgaRegister} (hready : r.Ready s) :
    r.contents (s.portWriteByte r.writePort value).1 = value.setWidth 8 &&& r.writable := by
  have hchanges := r.contents_view.registers
    (.applyChanges (s := (s.writePort r.writePort value).1) (s.writePort r.writePort value).2)
  rw [portWriteByte_eq r.writePort_range.1 r.writePort_range.2]
  refine Eq.trans hchanges ?_
  cases r with
  | graphics i => exact contents_writeGraphics hready
  | sequencer i => exact contents_writeSequencer hready
  | attributes i =>
      obtain ⟨hselected, hflip⟩ := hready
      change contents (.attributes i) (s.writeAttribute value).1 = _
      unfold VgaCore.writeAttribute
      rw [if_pos hflip]
      exact contents_writeAttributeData hselected

/-! ## Other writes -/

/-- A write of register 0 of the sequencer resets the unit. -/
def ResetsSequencer (w : VgaByteWrite) : Prop :=
  w.address = 0x03c5 ∧ w.state.sequencer.index = 0 ∧ w.state.sequencer.reset1 = true ∧
    Word.has w.value 0 = false

instance (w : VgaByteWrite) : Decidable (ResetsSequencer w) := inferInstanceAs (Decidable (_ ∧ _))

lemma keeps_writeGraphics {i : Fin 9} (hi : ¬ Selected (.graphics i) s) :
    Keeps (contents (.graphics i)) s (s.writeGraphics value).1 := by
  have hindex : s.graphicsCtrl.index ≠ BitVec.ofNat 8 i := hi
  unfold VgaCore.writeGraphics
  fin_cases i
  all_goals
    refine .iteOf ?_ <| .iteOf ?_ <| .iteOf ?_ <| .iteOf ?_ <| .iteOf ?_ <| .iteOf ?_ <|
      .iteOf ?_ <| .iteOf ?_ <| .iteOf ?_ rfl
  all_goals first
    | exact fun h => absurd h hindex
    | exact fun _ => rfl
    | exact fun _ => .iteState rfl rfl

lemma keeps_writeSequencer {i : Fin 5} (hi : ¬ Selected (.sequencer i) s)
    (hreset : i = 3 → ¬ ResetsSequencer ⟨s, 0x03c5, value⟩) :
    Keeps (contents (.sequencer i)) s (s.writeSequencer value).1 := by
  have hindex : s.sequencer.index ≠ BitVec.ofNat 8 i := hi
  -- register 0 leaves the character maps unless it resets the unit
  have hmaps : i = 3 → s.sequencer.index = 0 →
      (s.sequencer.reset1 && !Word.has value 0) = false := by
    intro hthree hzero
    have hnot := hreset hthree
    cases hreset1 : s.sequencer.reset1 with
    | false => rfl
    | true =>
        cases hvalue : Word.has value 0 with
        | false => exact absurd ⟨rfl, hzero, hreset1, hvalue⟩ hnot
        | true => rfl
  unfold VgaCore.writeSequencer
  fin_cases i
  all_goals refine .iteOf ?_ <| .iteOf ?_ <| .iteOf ?_ <| .iteOf ?_ <| .iteOf ?_ rfl
  all_goals first
    | exact fun h => absurd h hindex
    | exact fun _ => rfl
    | skip
  intro hzero
  change (if (s.sequencer.reset1 && !Word.has value 0) = true then 0
    else s.sequencer.charMapSelect : BitVec 6).setWidth 8 = _
  rw [if_neg (Bool.eq_false_iff.mp (hmaps rfl hzero))]
  rfl

lemma keeps_writeAttributeData {i : Fin 21} (hi : ¬ Selected (.attributes i) s) :
    Keeps (contents (.attributes i)) s (s.writeAttributeData value).1 := by
  have haddress : s.attributeCtrl.address ≠ BitVec.ofNat 5 i := hi
  by_cases hlt : i.val < 0x10
  · have hentry : s.attributeCtrl.address < 0x10 →
        BitVec.ofNat 4 i ≠ s.attributeCtrl.address.setWidth 4 := by
      intro hlow heq
      have htoNat := congrArg BitVec.toNat heq
      rw [BitVec.toNat_ofNat, BitVec.toNat_setWidth] at htoNat
      refine haddress (BitVec.eq_of_toNat_eq ?_)
      have hbound : s.attributeCtrl.address.toNat < 16 := hlow
      rw [BitVec.toNat_ofNat]
      omega
    have hview : contents (.attributes i) =
        fun s => s.attributeCtrl.paletteReg (BitVec.ofNat 4 i) := funext (contents_palette hlt)
    rw [hview]
    unfold VgaCore.writeAttributeData
    refine .iteOf (fun hlow => .ite ?_ rfl) <| .ite rfl <| .ite rfl <| .ite rfl <| .ite rfl <|
      .ite rfl rfl
    exact Function.update_of_ne (hentry hlow) ..
  · unfold VgaCore.writeAttributeData
    obtain rfl | rfl | rfl | rfl | rfl := attributes_cases i hlt
    all_goals
      refine .ite (.ite rfl rfl) <| .iteOf ?_ <| .iteOf ?_ <| .iteOf ?_ <| .iteOf ?_ <|
        .iteOf ?_ rfl
    all_goals first
      | exact fun h => absurd h haddress
      | exact fun _ => rfl

lemma keeps_writeAttribute {i : Fin 21} (hi : ¬ Ready (.attributes i) s) :
    Keeps (contents (.attributes i)) s (s.writeAttribute value).1 := by
  have hfirst : Keeps (contents (.attributes i)) s (if s.attributeCtrl.flipFlop then
      s.writeAttributeData value else s.writeAttributeAddress value).1 :=
    .iteOf (fun hflip => keeps_writeAttributeData fun hselected => hi ⟨hselected, hflip⟩) rfl
  exact hfirst.trans rfl

lemma keeps_portWriteByte {r : VgaRegister} {address : BitVec 64}
    (hother : ¬ r.Writes ⟨s, address, value⟩)
    (hreset : r = .sequencer 3 → ¬ ResetsSequencer ⟨s, address, value⟩) :
    Keeps r.contents s (s.portWriteByte address value).1 := by
  have hview := r.contents_view.toVgaView
  have hnot : address = r.writePort → ¬ r.Ready s := fun h hready => hother ⟨h, hready⟩
  refine .portWriteByte hview ?_
  cases r with
  | graphics i =>
      exact .writePort hview
        (fun _ => .writeAttribute (f := contents (.graphics i)) (fun _ _ => rfl) value)
        (fun _ => .writeSequencer (f := contents (.graphics i)) (fun _ _ _ _ => rfl) value)
        (fun h => keeps_writeGraphics (hnot h))
        (fun _ => .writeCrtc (f := contents (.graphics i)) (fun _ _ _ _ _ _ _ => rfl) value)
  | sequencer i =>
      refine .writePort hview
        (fun _ => .writeAttribute (f := contents (.sequencer i)) (fun _ _ => rfl) value)
        (fun h => keeps_writeSequencer (hnot h) ?_)
        (fun _ => .writeGraphics (f := contents (.sequencer i)) (fun _ _ _ => rfl) value)
        (fun _ => .writeCrtc (f := contents (.sequencer i)) (fun _ _ _ _ _ _ _ => rfl) value)
      rintro rfl
      exact h ▸ hreset rfl
  | attributes i =>
      exact .writePort hview (fun h => keeps_writeAttribute (hnot h))
        (fun _ => .writeSequencer (f := contents (.attributes i)) (fun _ _ _ _ => rfl) value)
        (fun _ => .writeGraphics (f := contents (.attributes i)) (fun _ _ _ => rfl) value)
        (fun _ => .writeCrtc (f := contents (.attributes i)) (fun _ _ _ _ _ _ _ => rfl) value)

/-- A reset of the sequencer clears its character maps. -/
lemma contents_reset (w : VgaByteWrite) (hreset : ResetsSequencer w) :
    contents (.sequencer 3) w.after = 0 := by
  obtain ⟨s, address, value⟩ := w
  obtain ⟨rfl, hindex, hreset1, hvalue⟩ := hreset
  have hchanges := (contents_view (.sequencer 3)).registers
    (.applyChanges (s := (s.writePort 0x03c5 value).1) (s.writePort 0x03c5 value).2)
  change contents (.sequencer 3) (s.portWriteByte 0x03c5 value).1 = 0
  rw [portWriteByte_eq (by decide) (by decide)]
  refine Eq.trans hchanges ?_
  change contents (.sequencer 3) (s.writeSequencer value).1 = 0
  have hcond : (s.sequencer.reset1 && !Word.has value 0) = true := by
    rw [hreset1, hvalue]
    rfl
  unfold VgaCore.writeSequencer
  rw [if_pos (show s.sequencer.index = 0 from hindex)]
  change (if (s.sequencer.reset1 && !Word.has value 0) = true then 0
    else s.sequencer.charMapSelect : BitVec 6).setWidth 8 = 0
  rw [if_pos hcond]
  rfl

/-! ## Runs -/

/-- An event does not write the register. -/
def LeavesAlone (r : VgaRegister) (s : VgaCore) (event : VgaEvent) : Prop :=
  ∀ w ∈ event.byteWrites s, ¬ r.Writes w

/-- An event clears the register without a write of it. -/
def Clears (r : VgaRegister) (s : VgaCore) (event : VgaEvent) : Prop :=
  r = .sequencer 3 ∧ ∃ w ∈ event.byteWrites s, ResetsSequencer w

instance : ∀ (r : VgaRegister) (s : VgaCore), Decidable (r.Selected s)
  | .graphics _, _ => inferInstanceAs (Decidable (_ = _))
  | .sequencer _, _ => inferInstanceAs (Decidable (_ = _))
  | .attributes _, _ => inferInstanceAs (Decidable (_ = _))

instance : ∀ (r : VgaRegister) (s : VgaCore), Decidable (r.Ready s)
  | .graphics i, s => inferInstanceAs (Decidable (Selected (.graphics i) s))
  | .sequencer i, s => inferInstanceAs (Decidable (Selected (.sequencer i) s))
  | .attributes _, _ => inferInstanceAs (Decidable (_ ∧ _))

instance (r : VgaRegister) (w : VgaByteWrite) : Decidable (r.Writes w) :=
  inferInstanceAs (Decidable (_ ∧ _))

instance (r : VgaRegister) (s : VgaCore) (event : VgaEvent) : Decidable (r.LeavesAlone s event) :=
  inferInstanceAs (Decidable (∀ w ∈ _, _))

instance (r : VgaRegister) (s : VgaCore) (event : VgaEvent) : Decidable (r.Clears s event) :=
  inferInstanceAs (Decidable (_ ∧ _))

lemma contents_step_of_keeps {r : VgaRegister} {event : VgaEvent} (halone : r.LeavesAlone s event)
    (hclears : ¬ r.Clears s event) (hstep : vgaStep s event = .ok t) :
    r.contents t = r.contents s := by
  refine vgaStep_keeps r.contents_view hstep fun w hw => ?_
  exact keeps_portWriteByte (halone w hw) fun hr hreset => hclears ⟨hr, w, hw, hreset⟩

lemma contents_step_of_clears {r : VgaRegister} {event : VgaEvent} (halone : r.LeavesAlone s event)
    (hclears : r.Clears s event) (hstep : vgaStep s event = .ok t) : r.contents t = 0 := by
  obtain ⟨rfl, hreset⟩ := hclears
  have hkeep : ∀ w : VgaByteWrite, ¬ Writes (.sequencer 3) w →
      contents (.sequencer 3) w.state = 0 → contents (.sequencer 3) w.after = 0 := by
    intro w hw hzero
    by_cases h : ResetsSequencer w
    · exact contents_reset w h
    · exact Eq.trans (keeps_portWriteByte hw fun _ => h) hzero
  obtain ⟨hw, -⟩ | ⟨w, hw, rfl, rfl⟩ | ⟨w, w', hw, rfl, hstate, rfl⟩ :=
    vgaStep_byteWrites (contents_view (.sequencer 3)) hstep
  · simp [hw] at hreset
  · rw [hw] at hreset
    exact contents_reset w (by simpa using hreset)
  · rw [LeavesAlone, hw, List.forall_mem_cons, List.forall_mem_singleton] at halone
    rw [hw] at hreset
    simp only [List.mem_cons, List.not_mem_nil, or_false, exists_eq_or_imp,
      exists_eq_left] at hreset
    rcases hreset with hreset | hreset
    · exact hkeep w' halone.2 (hstate ▸ contents_reset w hreset)
    · exact contents_reset w' hreset

/-! ## A read of the register -/

/-- What a read of the data port gives. -/
def readBack (r : VgaRegister) (s : VgaCore) : BitVec 32 := (s.portIoReadHandler r.readPort 1).1

/-- What the selected register gives. -/
def given : VgaRegister → VgaCore → BitVec 8
  | .graphics _, s => VgaCore.readGraphics s.graphicsCtrl
  | .sequencer _, s => VgaCore.readSequencer s.sequencer
  | .attributes _, s => VgaCore.readAttribute s.attributeCtrl

lemma readBack_eq (r : VgaRegister) (s : VgaCore) : r.readBack s = (r.given s).setWidth 32 := by
  have hport : r.readPort = 0x03cf ∨ r.readPort = 0x03c5 ∨ r.readPort = 0x03c1 := by
    cases r <;> simp [readPort]
  have hother : ¬ s.otherEmulation r.readPort := by
    rcases hport with h | h | h <;> rw [h] <;> exact not_otherEmulation (by decide) (by decide)
  unfold readBack VgaCore.portIoReadHandler VgaCore.portReadByte
  rw [if_neg (show (1 : BitVec 32) ≠ 2 by decide), if_neg hother]
  cases r <;> rfl

/-- A register that is selected gives what it holds, but for two of the graphics controller. -/
lemma given_eq_contents {r : VgaRegister} (hselected : r.Selected s) (hmode : r ≠ .graphics 5)
    (hmisc : r ≠ .graphics 6) : r.given s = r.contents s := by
  cases r with
  | graphics i =>
      have hindex : s.graphicsCtrl.index = BitVec.ofNat 8 i := hselected
      change VgaCore.readGraphics s.graphicsCtrl = graphicsContents s.graphicsCtrl i
      have hself : s.graphicsCtrl = { s.graphicsCtrl with index := BitVec.ofNat 8 i } := by
        rw [← hindex]
      rw [hself]
      fin_cases i
      all_goals first
        | rfl
        | exact absurd rfl hmode
        | exact absurd rfl hmisc
  | sequencer i =>
      have hindex : s.sequencer.index = BitVec.ofNat 8 i := hselected
      change VgaCore.readSequencer s.sequencer = sequencerContents s.sequencer i
      have hself : s.sequencer = { s.sequencer with index := BitVec.ofNat 8 i } := by
        rw [← hindex]
      rw [hself]
      fin_cases i <;> rfl
  | attributes i =>
      have haddress : s.attributeCtrl.address = BitVec.ofNat 5 i := hselected
      change VgaCore.readAttribute s.attributeCtrl =
        VgaCore.readAttribute { s.attributeCtrl with address := BitVec.ofNat 5 i }
      rw [← haddress]

/-- The mode register is given if bits 4 to 6 are not all 0. -/
lemma given_mode (hselected : Selected (.graphics 5) s)
    (hslip : contents (.graphics 5) s &&& 0x70 ≠ 0 ∨ contents (.graphics 5) s = 0) :
    given (.graphics 5) s = contents (.graphics 5) s := by
  have hindex : s.graphicsCtrl.index = 5 := hselected
  have hgiven : given (.graphics 5) s =
      if s.graphicsCtrl.oddEven ∨ s.graphicsCtrl.shiftReg ≠ 0 then contents (.graphics 5) s
      else 0 := by
    change VgaCore.readGraphics s.graphicsCtrl = _
    unfold VgaCore.readGraphics
    rw [hindex]
    rfl
  rw [hgiven]
  by_cases h : s.graphicsCtrl.oddEven ∨ s.graphicsCtrl.shiftReg ≠ 0
  · exact if_pos h
  · rw [if_neg h]
    obtain ⟨hodd, hshift⟩ := not_or.mp h
    refine (hslip.resolve_left (not_not_intro ?_)).symm
    change (s.graphicsCtrl.shiftReg.setWidth 8 <<< 5 |||
      VgaCore.flagBit s.graphicsCtrl.oddEven 4 |||
      s.graphicsCtrl.readMode.setWidth 8 <<< 3 ||| s.graphicsCtrl.writeMode.setWidth 8) &&& 0x70 = 0
    rw [not_not.mp hshift, Bool.eq_false_iff.mpr hodd]
    refine Word.ext_has fun b hb => ?_
    interval_cases b <;> simp [Word.has_eq_getLsbD, VgaCore.flagBit]

/-- Bit 1 of the miscellaneous register is that of another register. -/
lemma has_given_misc (hselected : Selected (.graphics 6) s) {b : ℕ} (hb : b ≠ 1) :
    Word.has (given (.graphics 6) s) b = Word.has (contents (.graphics 6) s) b := by
  have hindex : s.graphicsCtrl.index = 6 := hselected
  have hgiven : given (.graphics 6) s = s.graphicsCtrl.memoryMapping.setWidth 8 <<< 2 |||
      VgaCore.flagBit s.graphicsCtrl.oddEven 1 |||
        VgaCore.flagBit s.graphicsCtrl.graphicsAlpha 0 := by
    change VgaCore.readGraphics s.graphicsCtrl = _
    unfold VgaCore.readGraphics
    rw [hindex]
    rfl
  have hflag : ∀ c, Word.has (VgaCore.flagBit c 1) b = false := by
    intro c
    cases c <;> simp [VgaCore.flagBit, Ne.symm hb]
  change _ = Word.has (s.graphicsCtrl.memoryMapping.setWidth 8 <<< 2 |||
    VgaCore.flagBit s.graphicsCtrl.chainOddEven 1 |||
      VgaCore.flagBit s.graphicsCtrl.graphicsAlpha 0) b
  rw [hgiven]
  simp only [Word.has_or, hflag]

/-! ## The round trip -/

/-- A byte is written to the data port. -/
def write (r : VgaRegister) (v : BitVec 8) (s : VgaCore) : VgaCore :=
  s.writeByte r.writePort v

/-- The writable bits of what is written to a register are read back, whatever else is written. -/
def ReadsBack (r : VgaRegister) : Prop :=
  ∀ (s t : VgaCore) (v : BitVec 8) (events : List VgaEvent), r.Ready s →
    run vgaStep (r.write v s) events = .ok t →
    Meets vgaStep r.LeavesAlone (r.write v s) events → r.Selected t →
      r.readBack t = (v &&& r.writable).setWidth 32

/-- What the register holds after a run that does not write it. -/
lemma contents_run {r : VgaRegister} {v : BitVec 8} {events : List VgaEvent} (hready : r.Ready s)
    (hrun : run vgaStep (r.write v s) events = .ok t)
    (halone : Meets vgaStep r.LeavesAlone (r.write v s) events) :
    r.contents t =
      if Occurs vgaStep r.Clears (r.write v s) events then 0 else v &&& r.writable := by
  have hwrite : r.contents (r.write v s) = v &&& r.writable := by
    have h : r.contents (s.portWriteByte r.writePort (v.setWidth 32)).1 =
        (v.setWidth 32).setWidth 8 &&& r.writable := contents_portWriteByte hready
    rw [Word.setWidth_setWidth_eq (by decide)] at h
    exact h
  obtain ⟨hcleared, hkept⟩ := Occurs.value_of_clears
    (fun _ _ _ => contents_step_of_clears) (fun _ _ _ => contents_step_of_keeps) halone hrun
  split
  · exact hcleared ‹_›
  · exact (hkept ‹_›).trans hwrite

/-- The mode register with a bit of 4 to 6, or with nothing in it. -/
lemma mode_slip {v : BitVec 8} (h : v &&& 0x70 ≠ 0 ∨ v &&& 0x0b = 0) :
    v &&& 0x7b &&& 0x70 ≠ 0 ∨ v &&& 0x7b = 0 := by
  have hhigh : v &&& 0x7b &&& 0x70 = v &&& 0x70 := by
    rw [BitVec.and_assoc]
    rfl
  have hboth : v &&& 0x7b = (v &&& 0x70) ||| (v &&& 0x0b) := by
    rw [← BitVec.and_or_distrib_left]
    rfl
  by_cases hzero : v &&& 0x70 = 0
  · refine .inr ?_
    rw [hboth, hzero, h.resolve_left (not_not_intro hzero)]
    rfl
  · exact .inl (hhigh ▸ hzero)

lemma not_readsBack {r : VgaRegister} (s : VgaCore) (v : BitVec 8) (events : List VgaEvent)
    (hready : r.Ready s) (halone : Meets vgaStep r.LeavesAlone (r.write v s) events)
    (hends : ends (fun t => r.Selected t ∧ r.readBack t ≠ (v &&& r.writable).setWidth 32)
      (run vgaStep (r.write v s) events) = true) : ¬ r.ReadsBack := by
  obtain ⟨t, hrun, hselected, hne⟩ := exists_of_ends _ hends
  exact fun h => hne (h s t v events hready hrun halone hselected)

end VgaRegister

open VgaRegister

/-- A register reads back, but for the character maps after a reset of the sequencer.  Nothing is
said of the mode register when none of its bits 4 to 6 is set, nor of bit 1 of the miscellaneous
register. -/
theorem register_read_back {r : VgaRegister} {v : BitVec 8} {events : List VgaEvent}
    (hready : r.Ready s) (hrun : run vgaStep (r.write v s) events = .ok t)
    (halone : Meets vgaStep r.LeavesAlone (r.write v s) events) (hselected : r.Selected t)
    (hslip : r = .graphics 5 → v &&& 0x70 ≠ 0 ∨ v &&& 0x0b = 0) :
    let held := if Occurs vgaStep r.Clears (r.write v s) events then 0 else v &&& r.writable
    (r ≠ .graphics 6 → r.readBack t = held.setWidth 32) ∧
      ∀ b ≠ 1, Word.has (r.readBack t) b = Word.has held b := by
  intro held
  have hcontents : r.contents t = held := contents_run hready hrun halone
  have hmode : r = .graphics 5 → r.given t = r.contents t := by
    rintro rfl
    refine given_mode hselected ?_
    rw [hcontents]
    unfold held
    split
    · exact .inr rfl
    · exact mode_slip (hslip rfl)
  have hgiven : r ≠ .graphics 6 → r.given t = held := by
    intro hmisc
    by_cases hfive : r = .graphics 5
    · exact (hmode hfive).trans hcontents
    · exact (given_eq_contents hselected hfive hmisc).trans hcontents
  refine ⟨fun hmisc => ?_, fun b hb => ?_⟩
  · rw [readBack_eq, hgiven hmisc]
  · have hbit : Word.has (r.given t) b = Word.has held b := by
      by_cases hmisc : r = .graphics 6
      · subst hmisc
        exact (has_given_misc hselected hb).trans (congrArg (Word.has · b) hcontents)
      · rw [hgiven hmisc]
    rw [readBack_eq, Word.has_setWidth, hbit]
    cases hheld : Word.has held b with
    | false => exact Bool.and_false _
    | true =>
        exact (Bool.and_true _).trans (decide_eq_true (by have := Word.lt_of_has hheld; omega))

/-- Other registers of the three units are written, and the index of the data rotation again. -/
private def otherRegisters : List VgaEvent :=
  [.portWrite 0x3ce 0x0b05 2, .portWrite 0x3ce 0x0f06 2, .portWrite 0x3c4 0x0000 2,
    .portWrite 0x3c0 0x10 1, .portWrite 0x3c0 0xff 1, .portWrite 0x3ce 3 1]

theorem register_read_back_rotation :
    ∃ t, run vgaStep (write (.graphics 3) 0xff (VgaCore.initialState.writeByte 0x3ce 3))
        otherRegisters = .ok t ∧ readBack (.graphics 3) t = 0x1f := by
  have hends : ends (Selected (.graphics 3))
      (run vgaStep (write (.graphics 3) 0xff (VgaCore.initialState.writeByte 0x3ce 3))
        otherRegisters) = true := by
    decide +kernel
  obtain ⟨t, hrun, hselected⟩ := exists_of_ends _ hends
  have h := register_read_back (r := .graphics 3) (by decide) hrun (by decide +kernel) hselected
    (fun h => by cases h)
  exact ⟨t, hrun, (h.1 (by decide)).trans (by decide +kernel)⟩

/-- A reset between the write and the read, a mode with no bit of 4 to 6, and bit 1 of the
miscellaneous register. -/
theorem registers_not_read_back :
    ¬ ReadsBack (.sequencer 3) ∧ ¬ ReadsBack (.graphics 5) ∧ ¬ ReadsBack (.graphics 6) :=
  ⟨not_readsBack (VgaCore.initialState.writeByte 0x3c4 3) 0x3f
      [.portWrite 0x3c4 0x0000 2, .portWrite 0x3c4 3 1] (by decide) (by decide +kernel)
      (by decide +kernel),
    not_readsBack (VgaCore.initialState.writeByte 0x3ce 5) 0x01 [] (by decide) trivial
      (by decide +kernel),
    not_readsBack (VgaCore.initialState.writeByte 0x3ce 6) 0x02 [] (by decide) trivial
      (by decide +kernel)⟩

end Svmm
