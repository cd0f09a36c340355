import Mathlib.Data.Fintype.Basic
import Mathlib.Tactic.FinCases
import Mathlib.Tactic.IntervalCases
import Svmm.Properties.Vga.Views

/-!
# What the CRTC's registers stand for

`line_compare`, `vertical_display_end`, `line_offset` and `y_doublescan` are put together from bits
of the registers, each part by a write of its own register that changes it.  `crtc_derived_iff` says
after which runs they are what the registers say (`CrtcMatches`): after those in which each part was
put together once (`Refreshes`).  The values of the initialisation are not those of registers that
are all 0, so that a register that is only written 0, or only while it is protected, is not enough.

For each part, what it is and what its registers say agree after a step exactly when they agreed
before or the step puts the part together (`PutTogether.agrees_written`).
-/

namespace Svmm

open TransitionRun

/-- The registers of the CRTC. -/
abbrev CrtcRegs := Fin 0x19 → BitVec 8

namespace VgaCore

/-- The derived values are those that the registers give. -/
structure CrtcMatches (s : VgaCore) : Prop where
  lineCompare : s.lineCompare =
    BitVec.ofBool (Word.has (s.crtc.reg 0x09) 6) ++ BitVec.ofBool (Word.has (s.crtc.reg 0x07) 4) ++
      s.crtc.reg 0x18
  verticalDisplayEnd : s.verticalDisplayEnd =
    BitVec.ofBool (Word.has (s.crtc.reg 0x07) 6) ++ BitVec.ofBool (Word.has (s.crtc.reg 0x07) 1) ++
      s.crtc.reg 0x12
  lineOffset : s.lineOffset.toNat = (s.crtc.reg 0x13).toNat *
    if Word.has (s.crtc.reg 0x14) 6 then 8 else if Word.has (s.crtc.reg 0x17) 6 then 2 else 4
  yDoublescan : s.yDoublescan = decide (s.crtc.reg 0x09 &&& 0x9f ≠ 0)

end VgaCore

/-- A byte is written to a register of the CRTC. -/
def WritesCrtc (i : Fin 0x19) (w : VgaByteWrite) : Prop :=
  (w.address = 0x03b5 ∨ w.address = 0x03d5) ∧ ¬ w.state.otherEmulation w.address ∧
    w.state.crtc.address.toNat = i

/-- A byte is written to a register of the CRTC, and differs from what it holds. -/
def ChangesCrtc (i : Fin 0x19) (w : VgaByteWrite) : Prop :=
  WritesCrtc i w ∧ w.value ≠ (w.state.crtc.reg i).setWidth 32

instance (i : Fin 0x19) (w : VgaByteWrite) : Decidable (WritesCrtc i w) :=
  inferInstanceAs (Decidable (_ ∧ _))

instance (i : Fin 0x19) (w : VgaByteWrite) : Decidable (ChangesCrtc i w) :=
  inferInstanceAs (Decidable (_ ∧ _))

/-- The register is protected. -/
def VgaCore.Protected (i : Fin 0x19) (s : VgaCore) : Prop := s.crtc.writeProtect = true ∧ i < 0x08

instance (i : Fin 0x19) (s : VgaCore) : Decidable (s.Protected i) :=
  inferInstanceAs (Decidable (_ ∧ _))

/-- An event writes to a register. -/
def WritesCrtcRegister (i : Fin 0x19) (s : VgaCore) (event : VgaEvent) : Prop :=
  ∃ w ∈ event.byteWrites s, WritesCrtc i w

/-- An event changes a register that is not protected. -/
def Refreshes (i : Fin 0x19) (s : VgaCore) (event : VgaEvent) : Prop :=
  ∃ w ∈ event.byteWrites s, ChangesCrtc i w ∧ ¬ w.state.Protected i

instance (i : Fin 0x19) (s : VgaCore) (event : VgaEvent) :
    Decidable (WritesCrtcRegister i s event) :=
  inferInstanceAs (Decidable (∃ w ∈ _, _))

instance (i : Fin 0x19) (s : VgaCore) (event : VgaEvent) : Decidable (Refreshes i s event) :=
  inferInstanceAs (Decidable (∃ w ∈ _, _))

variable {s t : VgaCore} {i : Fin 0x19} {value : BitVec 32}

namespace VgaCore

/-! ## A write to the CRTC -/

/-- The protected register 7 takes bit 4 only. -/
def protectedWrite (value : BitVec 32) (s : VgaCore) : VgaCore :=
  let s := s.withCrtcReg 0x07 ((s.crtc.reg 0x07 &&& ~~~ 0x10) ||| (value &&& 0x10).setWidth 8)
  { s with lineCompare := s.lineCompare8 }

/-- What is left by a write that changes a register. -/
def written (i : Fin 0x19) (value : BitVec 32) (s : VgaCore) : VgaCore :=
  if s.Protected i then if i = 0x07 then s.protectedWrite value else s
  else ((s.withCrtcReg i (value.setWidth 8)).crtcChanged i value).1

lemma writeCrtc_eq (hi : s.crtc.address.toNat = i) (hne : value ≠ (s.crtc.reg i).setWidth 32) :
    (s.writeCrtc value).1 = s.written i value := by
  have hlt : s.crtc.address.toNat < 0x19 := hi ▸ i.isLt
  have hindex : (⟨s.crtc.address.toNat, hlt⟩ : Fin 0x19) = i := Fin.ext hi
  unfold writeCrtc written
  rw [dif_pos hlt]
  simp only [hindex, if_pos hne]
  by_cases hprotected : s.Protected i
  · rw [if_pos (show s.crtc.writeProtect = true ∧ i < 0x08 from hprotected), if_pos hprotected]
    by_cases hseven : i = 0x07
    · subst hseven
      rw [if_pos rfl, if_pos rfl]
      rfl
    · rw [if_neg hseven, if_neg hseven]
  · rw [if_neg (show ¬ (s.crtc.writeProtect = true ∧ i < 0x08) from hprotected),
      if_neg hprotected]

/-- The start address is no part of what is derived. -/
lemma crtcChanged_start (h : i = 0x0c ∨ i = 0x0d) : (s.crtcChanged i value).1 =
    { s with vgaMemUpdated := if s.graphicsCtrl.graphicsAlpha then s.vgaMemUpdated else true } := by
  have hchoice : ∀ b : Bool, s.graphicsCtrl.graphicsAlpha = b →
      (if s.graphicsCtrl.graphicsAlpha then (s, VgaChanges.update)
        else ({ s with vgaMemUpdated := true }, .none)).1 =
        { s with vgaMemUpdated := if b then s.vgaMemUpdated else true } := by
    rintro (_ | _) hb <;> rw [hb] <;> rfl
  rcases h with rfl | rfl <;> exact hchoice _ rfl

lemma crtcChanged_reg : (s.crtcChanged i value).1.crtc.reg = s.crtc.reg := by
  fin_cases i <;> first | rfl | rw [crtcChanged_start (by decide)]

lemma crtcChanged_lineCompare : (s.crtcChanged i value).1.lineCompare =
    if i = 0x07 then s.lineCompare8
    else if i = 0x09 then
      let lineCompare := s.lineCompare &&& 0x1ff
      if Word.has (s.crtc.reg 0x09) 6 then lineCompare ||| 0x200 else lineCompare
    else if i = 0x18 then (s.lineCompare &&& 0x300) ||| (s.crtc.reg 0x18).setWidth 10
    else s.lineCompare := by
  fin_cases i <;> first | rfl | (rw [crtcChanged_start (by decide)]; rfl)

lemma crtcChanged_verticalDisplayEnd : (s.crtcChanged i value).1.verticalDisplayEnd =
    if i = 0x07 then s.verticalDisplayEnd89
    else if i = 0x12 then (s.verticalDisplayEnd &&& 0x300) ||| (s.crtc.reg 0x12).setWidth 10
    else s.verticalDisplayEnd := by
  fin_cases i <;> first | rfl | (rw [crtcChanged_start (by decide)]; rfl)

lemma crtcChanged_lineOffset : (s.crtcChanged i value).1.lineOffset =
    if i = 0x13 ∨ i = 0x14 ∨ i = 0x17 then s.lineOffsetOfRegs else s.lineOffset := by
  fin_cases i <;> first | rfl | (rw [crtcChanged_start (by decide)]; rfl)

lemma crtcChanged_yDoublescan : (s.crtcChanged i value).1.yDoublescan =
    if i = 0x09 then decide (value &&& 0x9f > 0) else s.yDoublescan := by
  fin_cases i <;> first | rfl | (rw [crtcChanged_start (by decide)]; rfl)

/-! ## The parts -/

/-- A part of the derived values is what the registers give. -/
def Agrees {β : Type} (part : VgaDerived → β) (given : CrtcRegs → β) (s : VgaCore) : Prop :=
  part s.derived = given s.crtc.reg

instance {β : Type} [DecidableEq β] (part : VgaDerived → β) (given : CrtcRegs → β) (s : VgaCore) :
    Decidable (Agrees part given s) :=
  inferInstanceAs (Decidable (_ = _))

lemma agrees_view {β : Type} (part : VgaDerived → β) (given : CrtcRegs → β) :
    SizelessView (Agrees part given) :=
  settings_view.comp fun x => part x.derived = given x.crtcReg

/-- A byte that changes a register of the CRTC. -/
lemma portWriteByte_changes {address : BitVec 64} (h : ChangesCrtc i ⟨s, address, value⟩) :
    ∃ changes, (s.portWriteByte address value).1 =
      ((s.written i value).applyChanges changes).1 := by
  obtain ⟨⟨hport, hother, hindex⟩, hne⟩ := h
  have hlt : s.crtc.address.toNat < 0x19 := hindex ▸ i.isLt
  have hreg : (⟨s.crtc.address.toNat, hlt⟩ : Fin 0x19) = i := Fin.ext hindex
  have hwrite : s.writePort address value = s.writeCrtc value := by
    rcases hport with rfl | rfl <;> rfl
  refine ⟨(s.writeCrtc value).2, ?_⟩
  unfold portWriteByte coreWriteByte
  rw [if_neg hother, if_pos hport, dif_pos hlt, hreg, if_pos hne, if_neg hother, hwrite,
    ← writeCrtc_eq hindex hne]

/-- A byte that changes no register of the CRTC. -/
lemma Keeps.portWriteByte_of_unchanged {β : Type} {part : VgaDerived → β} {given : CrtcRegs → β}
    {address : BitVec 64} (h : ∀ i, ¬ ChangesCrtc i ⟨s, address, value⟩) :
    Keeps (Agrees part given) s (s.portWriteByte address value).1 := by
  have hview := (agrees_view part given).toVgaView
  by_cases hport : address = 0x03b5 ∨ address = 0x03d5
  · have hsame : (s.portWriteByte address value).1 = s := by
      unfold portWriteByte
      by_cases hother : s.otherEmulation address
      · rw [if_pos hother]
      rw [if_neg hother, if_pos hport]
      split
      · rename_i hlt
        have heq : ¬ value ≠ (s.crtc.reg ⟨s.crtc.address.toNat, hlt⟩).setWidth 32 := fun hne =>
          h ⟨s.crtc.address.toNat, hlt⟩ ⟨⟨hport, hother, rfl⟩, hne⟩
        rw [if_neg heq]
      · rfl
    rw [hsame]
    exact Keeps.refl s
  · refine .portWriteByte hview (.writePort hview ?_ ?_ ?_ fun hcrtc => absurd hcrtc hport)
    · exact fun _ => .writeAttribute (f := Agrees part given) (fun _ _ => rfl) value
    · exact fun _ => .writeSequencer (f := Agrees part given) (fun _ _ _ _ => rfl) value
    · exact fun _ => .writeGraphics (f := Agrees part given) (fun _ _ _ => rfl) value

/-- Where a write that changes a register brings a part to agree exactly under a condition, so does
a byte written to a port. -/
lemma agrees_portWrite {β : Type} {part : VgaDerived → β} {given : CrtcRegs → β}
    {brings : Fin 0x19 → VgaCore → Prop}
    (hwritten : ∀ (s : VgaCore) i value,
      Agrees part given (s.written i value) ↔ Agrees part given s ∨ brings i s)
    (w : VgaByteWrite) : Agrees part given w.after ↔
      Agrees part given w.state ∨ ∃ i, ChangesCrtc i w ∧ brings i w.state := by
  obtain ⟨s, address, value⟩ := w
  by_cases hchanges : ∃ i, ChangesCrtc i ⟨s, address, value⟩
  · obtain ⟨i, hi⟩ := hchanges
    obtain ⟨changes, hafter⟩ := portWriteByte_changes hi
    have hkeep :
        Keeps (Agrees part given) (s.written i value) (s.portWriteByte address value).1 := by
      rw [hafter]
      exact (agrees_view part given).registers (.applyChanges changes)
    have honly : (∃ j, ChangesCrtc j ⟨s, address, value⟩ ∧ brings j s) ↔ brings i s := by
      constructor
      · rintro ⟨j, hj, hbrings⟩
        obtain rfl : j = i := Fin.ext (hj.1.2.2.symm.trans hi.1.2.2)
        exact hbrings
      · exact fun hbrings => ⟨i, hi, hbrings⟩
    rw [honly, ← hwritten s i value]
    exact iff_of_eq hkeep
  · have hnone := not_exists.mp hchanges
    have hkeep : Agrees part given _ = _ := Keeps.portWriteByte_of_unchanged hnone
    refine (iff_of_eq hkeep).trans (or_iff_left ?_).symm
    rintro ⟨i, hi, -⟩
    exact hnone i hi

/-! ## Masks of the derived values -/

/-- The masks keep the bits that they are to keep. -/
lemma masks_has : ∀ b < 10,
    Word.has (0x2ff : BitVec 10) b = decide (b ≠ 8) ∧
      Word.has (0x1ff : BitVec 10) b = decide (b ≠ 9) ∧
      Word.has (0x300 : BitVec 10) b = decide (8 ≤ b) ∧
      Word.has (0x0ff : BitVec 10) b = decide (b < 8) ∧
      Word.has (0x100 : BitVec 10) b = decide (b = 8) ∧
      Word.has (0x200 : BitVec 10) b = decide (b = 9) := by
  decide

/-- Register 7 gives bit 8 of `line_compare`. -/
lemma has_lineCompare8 {b : ℕ} (hb : b < 10) : Word.has s.lineCompare8 b =
    if b = 8 then Word.has (s.crtc.reg 0x07) 4 else Word.has s.lineCompare b := by
  obtain ⟨h, -, -, -, h', -⟩ := masks_has b hb
  unfold lineCompare8
  cases Word.has (s.crtc.reg 0x07) 4 <;> by_cases hbit : b = 8 <;>
    simp only [if_true, if_false, Bool.false_eq_true, Word.has_and, Word.has_or, h, h'] <;>
    simp [hbit]

/-- Register 7 gives bits 8 and 9 of `vertical_display_end`. -/
lemma has_verticalDisplayEnd89 {b : ℕ} (hb : b < 10) : Word.has s.verticalDisplayEnd89 b =
    if b = 8 then Word.has (s.crtc.reg 0x07) 1 else if b = 9 then Word.has (s.crtc.reg 0x07) 6
    else Word.has s.verticalDisplayEnd b := by
  obtain ⟨-, -, -, h, h', h''⟩ := masks_has b hb
  unfold verticalDisplayEnd89
  have hcases : b < 8 ∨ b = 8 ∨ b = 9 := by omega
  cases Word.has (s.crtc.reg 0x07) 1 <;> cases Word.has (s.crtc.reg 0x07) 6 <;>
    simp only [if_true, if_false, Bool.false_eq_true, Word.has_and, Word.has_or, h, h', h''] <;>
    rcases hcases with hlt | rfl | rfl <;> grind

/-- A register gives the low bits. -/
lemma has_low (x : BitVec 10) (r : BitVec 8) {b : ℕ} (hb : b < 10) :
    Word.has ((x &&& 0x300) ||| r.setWidth 10) b =
      if b < 8 then Word.has r b else Word.has x b := by
  obtain ⟨-, -, h, -⟩ := masks_has b hb
  rw [Word.has_or, Word.has_and, h, Word.has_setWidth]
  by_cases hlow : b < 8
  · simp [hlow, hb, Nat.not_le.mpr hlow]
  · have hr : Word.has r b = false := by
      rw [Word.has_eq_getLsbD]
      exact BitVec.getLsbD_of_ge r b (Nat.not_lt.mp hlow)
    simp [hlow, hr, Nat.not_lt.mp hlow]

/-- Register 9 gives bit 9 of `line_compare`. -/
lemma has_lineCompare9 (x : BitVec 10) (c : Bool) {b : ℕ} (hb : b < 10) :
    Word.has (if c then (x &&& 0x1ff) ||| 0x200 else x &&& 0x1ff) b =
      if b = 9 then c else Word.has x b := by
  obtain ⟨-, h, -, -, -, h'⟩ := masks_has b hb
  cases c <;> by_cases hbit : b = 9 <;>
    simp only [if_true, if_false, Bool.false_eq_true, Word.has_and, Word.has_or, h, h'] <;>
    simp [hbit]

/-- Ten bits from two flags and a byte. -/
lemma eq_append_iff (x : BitVec 10) (c d : Bool) (low : BitVec 8) :
    x = BitVec.ofBool c ++ BitVec.ofBool d ++ low ↔
      x.setWidth 8 = low ∧ Word.has x 8 = d ∧ Word.has x 9 = c := by
  have hbits : ∀ b < 10, Word.has (BitVec.ofBool c ++ BitVec.ofBool d ++ low : BitVec 10) b =
      if b < 8 then Word.has low b else if b = 8 then d else c := by
    intro b hb
    have hcases : b < 8 ∨ b = 8 ∨ b = 9 := by omega
    rw [Word.has_eq_getLsbD, BitVec.getLsbD_append, BitVec.getLsbD_append, ← Word.has_eq_getLsbD]
    rcases hcases with hlt | rfl | rfl <;> simp [*]
  constructor
  · rintro rfl
    refine ⟨Word.ext_has fun b hb => ?_, hbits 8 (by decide), hbits 9 (by decide)⟩
    rw [Word.has_setWidth, hbits b (by omega), if_pos hb, decide_eq_true hb, Bool.true_and]
  · rintro ⟨rfl, rfl, rfl⟩
    refine Word.ext_has fun b hb => ?_
    have hcases : b < 8 ∨ b = 8 ∨ b = 9 := by omega
    rw [hbits b hb, Word.has_setWidth]
    rcases hcases with hlt | rfl | rfl <;> simp [*]

/-- The bits of `line_compare` after a register has changed. -/
lemma has_crtcChanged_lineCompare {b : ℕ} (hb : b < 10) :
    Word.has (s.crtcChanged i value).1.lineCompare b =
      if i = 0x07 ∧ b = 8 then Word.has (s.crtc.reg 0x07) 4
      else if i = 0x09 ∧ b = 9 then Word.has (s.crtc.reg 0x09) 6
      else if i = 0x18 ∧ b < 8 then Word.has (s.crtc.reg 0x18) b
      else Word.has s.lineCompare b := by
  rw [crtcChanged_lineCompare]
  by_cases hseven : i = 0x07
  · subst hseven
    rw [if_pos rfl, has_lineCompare8 hb]
    simp
  by_cases hnine : i = 0x09
  · subst hnine
    rw [if_neg hseven, if_pos rfl]
    simp only
    rw [has_lineCompare9 _ _ hb]
    simp
  by_cases hlow : i = 0x18
  · subst hlow
    rw [if_neg hseven, if_neg hnine, if_pos rfl, has_low _ _ hb]
    simp
  · simp [hseven, hnine, hlow]

/-- The bits of `vertical_display_end` after a register has changed. -/
lemma has_crtcChanged_verticalDisplayEnd {b : ℕ} (hb : b < 10) :
    Word.has (s.crtcChanged i value).1.verticalDisplayEnd b =
      if i = 0x07 ∧ b = 8 then Word.has (s.crtc.reg 0x07) 1
      else if i = 0x07 ∧ b = 9 then Word.has (s.crtc.reg 0x07) 6
      else if i = 0x12 ∧ b < 8 then Word.has (s.crtc.reg 0x12) b
      else Word.has s.verticalDisplayEnd b := by
  rw [crtcChanged_verticalDisplayEnd]
  by_cases hseven : i = 0x07
  · subst hseven
    rw [if_pos rfl, has_verticalDisplayEnd89 hb]
    simp
  by_cases hlow : i = 0x12
  · subst hlow
    rw [if_neg hseven, if_pos rfl, has_low _ _ hb]
    simp
  · simp [hseven, hlow]

lemma protectedWrite_reg (h : i ≠ 0x07) :
    (s.protectedWrite value).crtc.reg i = s.crtc.reg i :=
  Function.update_of_ne h ..

/-- The protected register 7 keeps the other bits. -/
lemma has_protectedWrite_reg {b : ℕ} (hb : b ≠ 4) (hlt : b < 8) :
    Word.has ((s.protectedWrite value).crtc.reg 0x07) b = Word.has (s.crtc.reg 0x07) b := by
  have hreg : (s.protectedWrite value).crtc.reg 0x07 =
      (s.crtc.reg 0x07 &&& ~~~ 0x10) ||| (value &&& 0x10).setWidth 8 := by
    simp only [protectedWrite, withCrtcReg, Function.update_self]
  rw [hreg, show (0x10 : BitVec 8) = Word.bit 4 from rfl,
    show (0x10 : BitVec 32) = Word.bit 4 from rfl]
  simp [hlt, Ne.symm hb]

/-- The protected register 7 gives bit 8 of `line_compare`. -/
lemma has_protectedWrite_lineCompare {b : ℕ} (hb : b < 10) :
    Word.has (s.protectedWrite value).lineCompare b =
      if b = 8 then Word.has ((s.protectedWrite value).crtc.reg 0x07) 4
      else Word.has s.lineCompare b :=
  has_lineCompare8 hb

/-! ## Each part -/

/-- A part that a write of its own registers puts together. -/
structure PutTogether {β : Type} (part : VgaDerived → β) (given : CrtcRegs → β)
    (own : Fin 0x19 → Prop) (takes : Prop) : Prop where
  changed : ∀ (s : VgaCore) i value, own i → s.crtc.reg i = value.setWidth 8 →
    part (s.crtcChanged i value).1.derived = given s.crtc.reg
  others : ∀ (s : VgaCore) i value, ¬ own i →
    part (s.crtcChanged i value).1.derived = part s.derived
  given_others : ∀ (reg : CrtcRegs) i b, ¬ own i → given (Function.update reg i b) = given reg
  /-- What a write of the protected register 7 does. -/
  protectedWrite : ∀ (s : VgaCore) value,
    Agrees part given (s.protectedWrite value) ↔ Agrees part given s ∨ own 0x07 ∧ takes

/-- A part agrees after a write that changes a register, if it did before or the register is one of
its own and not protected. -/
lemma PutTogether.agrees_written {β : Type} {part : VgaDerived → β} {given : CrtcRegs → β}
    {own : Fin 0x19 → Prop} {takes : Prop} (h : PutTogether part given own takes) (s : VgaCore)
    (i : Fin 0x19) (value : BitVec 32) :
    Agrees part given (s.written i value) ↔
      Agrees part given s ∨ own i ∧ (¬ s.Protected i ∨ i = 0x07 ∧ takes) := by
  unfold written
  by_cases hprotected : s.Protected i
  · rw [if_pos hprotected]
    simp only [hprotected, not_true_eq_false, false_or]
    by_cases hseven : i = 0x07
    · subst hseven
      rw [if_pos rfl, h.protectedWrite s value]
      simp
    · rw [if_neg hseven]
      simp [hseven]
  · rw [if_neg hprotected]
    simp only [hprotected, not_false_eq_true, true_or, and_true]
    unfold Agrees
    rw [crtcChanged_reg]
    have hderived : (s.withCrtcReg i (value.setWidth 8)).derived = s.derived := rfl
    by_cases hown : own i
    · refine iff_of_true (h.changed _ i value hown ?_) (.inr hown)
      exact Function.update_self ..
    · rw [h.others _ i value hown, hderived, or_iff_left hown]
      exact iff_of_eq (congrArg _ (h.given_others s.crtc.reg i (value.setWidth 8) hown))

lemma agrees_kept {β : Type} {part : VgaDerived → β} {given : CrtcRegs → β} {p : Prop}
    (hpart : part t.derived = part s.derived) (hgiven : given t.crtc.reg = given s.crtc.reg) :
    Agrees part given t ↔ Agrees part given s ∨ p ∧ False := by
  unfold Agrees
  rw [hpart, hgiven, and_false, or_false]

lemma putTogether_lineCompareLow :
    PutTogether (fun x => x.lineCompare.setWidth 8) (fun reg => reg 0x18) (· = 0x18) False where
  changed s i value hi hreg := by
    subst hi
    refine Word.ext_has fun b hb => ?_
    rw [Word.has_setWidth, decide_eq_true hb, Bool.true_and]
    exact (has_crtcChanged_lineCompare (by omega)).trans (by simp [hb])
  others s i value hi := by
    refine Word.ext_has fun b hb => ?_
    rw [Word.has_setWidth, Word.has_setWidth]
    refine congrArg _ ((has_crtcChanged_lineCompare (by omega)).trans ?_)
    have hhigh : b ≠ 8 ∧ b ≠ 9 := by omega
    simp [hi, hhigh, derived]
  given_others reg i b hi := Function.update_of_ne (Ne.symm hi) ..
  protectedWrite s value := by
    refine agrees_kept (Word.ext_has fun b hb => ?_) (protectedWrite_reg (by decide))
    rw [Word.has_setWidth, Word.has_setWidth]
    refine congrArg _ ((has_protectedWrite_lineCompare (by omega)).trans (if_neg (by omega)))

lemma putTogether_lineCompare8 :
    PutTogether (fun x => Word.has x.lineCompare 8) (fun reg => Word.has (reg 0x07) 4) (· = 0x07)
      True where
  changed s i value hi hreg := by
    subst hi
    exact has_crtcChanged_lineCompare (by decide)
  others s i value hi := by
    refine (has_crtcChanged_lineCompare (by decide)).trans ?_
    simp [hi, derived]
  given_others reg i b hi := congrArg (Word.has · 4) (Function.update_of_ne (Ne.symm hi) ..)
  protectedWrite s value :=
    iff_of_true (has_protectedWrite_lineCompare (by decide)) (.inr ⟨rfl, trivial⟩)

lemma putTogether_lineCompare9 :
    PutTogether (fun x => Word.has x.lineCompare 9) (fun reg => Word.has (reg 0x09) 6) (· = 0x09)
      False where
  changed s i value hi hreg := by
    subst hi
    exact has_crtcChanged_lineCompare (by decide)
  others s i value hi := by
    refine (has_crtcChanged_lineCompare (by decide)).trans ?_
    simp [hi, derived]
  given_others reg i b hi := congrArg (Word.has · 6) (Function.update_of_ne (Ne.symm hi) ..)
  protectedWrite s value :=
    agrees_kept (has_protectedWrite_lineCompare (by decide))
      (congrArg (Word.has · 6) (protectedWrite_reg (by decide)))

lemma putTogether_verticalDisplayEndLow :
    PutTogether (fun x => x.verticalDisplayEnd.setWidth 8) (fun reg => reg 0x12) (· = 0x12)
      False where
  changed s i value hi hreg := by
    subst hi
    refine Word.ext_has fun b hb => ?_
    rw [Word.has_setWidth, decide_eq_true hb, Bool.true_and]
    exact (has_crtcChanged_verticalDisplayEnd (by omega)).trans (by simp [hb])
  others s i value hi := by
    refine Word.ext_has fun b hb => ?_
    rw [Word.has_setWidth, Word.has_setWidth]
    refine congrArg _ ((has_crtcChanged_verticalDisplayEnd (by omega)).trans ?_)
    have hhigh : b ≠ 8 ∧ b ≠ 9 := by omega
    simp [hi, hhigh, derived]
  given_others reg i b hi := Function.update_of_ne (Ne.symm hi) ..
  protectedWrite s value := agrees_kept rfl (protectedWrite_reg (by decide))

lemma putTogether_verticalDisplayEndHigh :
    PutTogether (fun x => (Word.has x.verticalDisplayEnd 8, Word.has x.verticalDisplayEnd 9))
      (fun reg => (Word.has (reg 0x07) 1, Word.has (reg 0x07) 6)) (· = 0x07) False where
  changed s i value hi hreg := by
    subst hi
    exact congrArg₂ Prod.mk (has_crtcChanged_verticalDisplayEnd (by decide))
      (has_crtcChanged_verticalDisplayEnd (by decide))
  others s i value hi := by
    refine congrArg₂ Prod.mk ((has_crtcChanged_verticalDisplayEnd (by decide)).trans ?_)
      ((has_crtcChanged_verticalDisplayEnd (by decide)).trans ?_)
    all_goals simp [hi, derived]
  given_others reg i b hi := by
    rw [Function.update_of_ne (Ne.symm hi)]
  protectedWrite s value :=
    agrees_kept rfl (congrArg₂ Prod.mk (has_protectedWrite_reg (by decide) (by decide))
      (has_protectedWrite_reg (by decide) (by decide)))

/-- The line offset that the registers give. -/
def lineOffsetGiven (reg : CrtcRegs) : ℕ :=
  (reg 0x13).toNat *
    if Word.has (reg 0x14) 6 then 8 else if Word.has (reg 0x17) 6 then 2 else 4

/-- The shifts lose no bit. -/
lemma lineOffsetOfRegs_toNat : s.lineOffsetOfRegs.toNat = lineOffsetGiven s.crtc.reg := by
  have hlt := (s.crtc.reg 0x13).isLt
  have hshift : ∀ n ≤ 3, (((s.crtc.reg 0x13).setWidth 11 : BitVec 11) <<< n).toNat =
      (s.crtc.reg 0x13).toNat * 2 ^ n := by
    intro n hn
    rw [BitVec.toNat_shiftLeft, BitVec.toNat_setWidth, Nat.shiftLeft_eq]
    interval_cases n <;> omega
  unfold lineOffsetOfRegs lineOffsetGiven
  simp only [← BitVec.shiftLeft_add]
  cases Word.has (s.crtc.reg 0x14) 6 <;> cases Word.has (s.crtc.reg 0x17) 6
  · exact hshift 2 (by decide)
  · exact hshift 1 (by decide)
  · exact hshift 3 (by decide)
  · exact hshift 3 (by decide)

lemma putTogether_lineOffset :
    PutTogether (fun x => x.lineOffset.toNat) lineOffsetGiven
      (fun i => i = 0x13 ∨ i = 0x14 ∨ i = 0x17) False where
  changed s i value hi _ := by
    change (s.crtcChanged i value).1.lineOffset.toNat = _
    rw [crtcChanged_lineOffset, if_pos hi, lineOffsetOfRegs_toNat]
  others s i value hi := by
    change (s.crtcChanged i value).1.lineOffset.toNat = _
    rw [crtcChanged_lineOffset, if_neg hi]
    rfl
  given_others reg i b hi := by
    obtain ⟨h, h', h''⟩ := not_or.mp hi |>.imp_right not_or.mp
    unfold lineOffsetGiven
    rw [Function.update_of_ne (Ne.symm h), Function.update_of_ne (Ne.symm h'),
      Function.update_of_ne (Ne.symm h'')]
  protectedWrite s value := by
    refine agrees_kept rfl ?_
    unfold lineOffsetGiven
    rw [protectedWrite_reg (by decide), protectedWrite_reg (by decide),
      protectedWrite_reg (by decide)]

/-- The write looks at the byte that the register takes. -/
lemma doublescan_iff : value &&& 0x9f > 0 ↔ value.setWidth 8 &&& (0x9f : BitVec 8) ≠ 0 := by
  have hmask : (0x9f : BitVec 32) = (0x9f : BitVec 8).setWidth 32 := rfl
  rw [hmask]
  refine (BitVec.pos_iff_ne_zero _).trans ?_
  refine Word.ne_zero_iff.trans (Iff.trans (exists_congr fun b => ?_) Word.ne_zero_iff.symm)
  simp only [Word.has_and, Word.has_setWidth, Bool.and_eq_true, decide_eq_true_eq]
  constructor
  · rintro ⟨hvalue, -, hbit⟩
    exact ⟨⟨Word.lt_of_has hbit, hvalue⟩, hbit⟩
  · rintro ⟨⟨hlt, hvalue⟩, hbit⟩
    exact ⟨hvalue, by omega, hbit⟩

lemma putTogether_yDoublescan :
    PutTogether (fun x => x.yDoublescan) (fun reg => decide (reg 0x09 &&& 0x9f ≠ 0)) (· = 0x09)
      False where
  changed s i value hi hreg := by
    subst hi
    change (s.crtcChanged 0x09 value).1.yDoublescan = _
    rw [crtcChanged_yDoublescan, if_pos rfl, hreg]
    exact decide_eq_decide.mpr doublescan_iff
  others s i value hi := by
    change (s.crtcChanged i value).1.yDoublescan = _
    rw [crtcChanged_yDoublescan, if_neg hi]
    rfl
  given_others reg i b hi := by
    rw [Function.update_of_ne (Ne.symm hi)]
  protectedWrite s value := by
    refine agrees_kept rfl ?_
    rw [protectedWrite_reg (by decide)]

/-- A part agrees after a run if it did before or one of its registers was changed. -/
lemma PutTogether.agrees_run {β : Type} {part : VgaDerived → β} {given : CrtcRegs → β}
    {own : Fin 0x19 → Prop} {takes : Prop} (h : PutTogether part given own takes)
    {events : List VgaEvent} (hrun : run vgaStep s events = .ok t) :
    Agrees part given t ↔ Agrees part given s ∨
      ∃ i : {i // own i}, Occurs vgaStep (fun s event => ∃ w ∈ event.byteWrites s,
        ChangesCrtc i w ∧ (¬ w.state.Protected i ∨ i.1 = 0x07 ∧ takes)) s events := by
  rw [← Occurs.exists_iff]
  refine Occurs.iff_of_latch (fun s event t hstep => ?_) hrun
  rw [vgaStep_latch (agrees_view part given) (agrees_portWrite h.agrees_written) hstep]
  refine or_congr_right ?_
  constructor
  · rintro ⟨w, hw, i, hchanges, hown, hopen⟩
    exact ⟨⟨i, hown⟩, w, hw, hchanges, hopen⟩
  · rintro ⟨i, w, hw, hchanges, hopen⟩
    exact ⟨w, hw, i, hchanges, i.2, hopen⟩

lemma PutTogether.agrees_run_iff {β : Type} {part : VgaDerived → β} {given : CrtcRegs → β}
    {own : Fin 0x19 → Prop} (h : PutTogether part given own False)
    {events : List VgaEvent} (hrun : run vgaStep s events = .ok t) :
    Agrees part given t ↔
      Agrees part given s ∨ ∃ i, own i ∧ Occurs vgaStep (Refreshes i) s events := by
  rw [h.agrees_run hrun, Subtype.exists]
  simp only [and_false, or_false, exists_prop]
  rfl

/-- The parts together. -/
lemma crtcMatches_iff : s.CrtcMatches ↔
    Agrees (fun x => x.lineCompare.setWidth 8) (fun reg => reg 0x18) s ∧
      Agrees (fun x => Word.has x.lineCompare 8) (fun reg => Word.has (reg 0x07) 4) s ∧
      Agrees (fun x => Word.has x.lineCompare 9) (fun reg => Word.has (reg 0x09) 6) s ∧
      Agrees (fun x => x.verticalDisplayEnd.setWidth 8) (fun reg => reg 0x12) s ∧
      Agrees (fun x => (Word.has x.verticalDisplayEnd 8, Word.has x.verticalDisplayEnd 9))
        (fun reg => (Word.has (reg 0x07) 1, Word.has (reg 0x07) 6)) s ∧
      Agrees (fun x => x.lineOffset.toNat) lineOffsetGiven s ∧
      Agrees (fun x => x.yDoublescan) (fun reg => decide (reg 0x09 &&& 0x9f ≠ 0)) s := by
  constructor
  · rintro ⟨hcompare, hend, hoffset, hscan⟩
    obtain ⟨hlow, h8, h9⟩ := (eq_append_iff ..).mp hcompare
    obtain ⟨hlow', h8', h9'⟩ := (eq_append_iff ..).mp hend
    exact ⟨hlow, h8, h9, hlow', congrArg₂ Prod.mk h8' h9', hoffset, hscan⟩
  · rintro ⟨hlow, h8, h9, hlow', hhigh, hoffset, hscan⟩
    exact ⟨(eq_append_iff ..).mpr ⟨hlow, h8, h9⟩,
      (eq_append_iff ..).mpr ⟨hlow', congrArg Prod.fst hhigh, congrArg Prod.snd hhigh⟩,
      hoffset, hscan⟩

end VgaCore

open VgaCore

/-- After a run from the initialisation the derived values are those of the registers if and only if
each of the registers 0x07, 0x09, 0x12 and 0x18, and one of 0x13, 0x14 and 0x17, was changed in it
by a write that was not protected. -/
theorem crtc_derived_iff {events : List VgaEvent}
    (hrun : run vgaStep initialState events = .ok t) :
    t.CrtcMatches ↔
      (∀ i ∈ ([0x07, 0x09, 0x12, 0x18] : List (Fin 0x19)),
          Occurs vgaStep (Refreshes i) initialState events) ∧
        ∃ i ∈ ([0x13, 0x14, 0x17] : List (Fin 0x19)),
          Occurs vgaStep (Refreshes i) initialState events := by
  -- what the initialisation sets is not what registers of 0 give
  have hlow := (putTogether_lineCompareLow.agrees_run_iff hrun).trans (or_iff_right (by decide))
  have h9 := (putTogether_lineCompare9.agrees_run_iff hrun).trans (or_iff_right (by decide))
  have hlow' :=
    (putTogether_verticalDisplayEndLow.agrees_run_iff hrun).trans (or_iff_right (by decide))
  have hhigh :=
    (putTogether_verticalDisplayEndHigh.agrees_run_iff hrun).trans (or_iff_right (by decide))
  have hoffset := (putTogether_lineOffset.agrees_run_iff hrun).trans (or_iff_right (by decide))
  have hscan := (putTogether_yDoublescan.agrees_run_iff hrun).mpr (.inl (by decide))
  -- bit 8 of `line_compare` follows from register 7 with the two bits of `vertical_display_end`
  have h8 : Occurs vgaStep (Refreshes 0x07) initialState events →
      Agrees (fun x => Word.has x.lineCompare 8) (fun reg => Word.has (reg 0x07) 4) t := by
    intro h
    refine (putTogether_lineCompare8.agrees_run hrun).mpr (.inr ⟨⟨0x07, rfl⟩, h.mono ?_⟩)
    rintro s event ⟨w, hw, hchanges, hopen⟩
    exact ⟨w, hw, hchanges, .inl hopen⟩
  simp only [exists_eq_left] at hlow h9 hlow' hhigh
  rw [crtcMatches_iff, hlow, h9, hlow', hhigh, hoffset, List.forall_mem_cons, List.forall_mem_cons,
    List.forall_mem_cons, List.forall_mem_singleton]
  simp only [List.mem_cons, List.not_mem_nil, or_false]
  constructor
  · rintro ⟨h18, -, h09, h12, h07, hone, -⟩
    exact ⟨⟨h07, h09, h12, h18⟩, hone⟩
  · rintro ⟨⟨h07, h09, h12, h18⟩, hone⟩
    exact ⟨h18, h8 h07, h09, h12, h07, hone, hscan⟩

/-- The registers of a text mode, the protected ones first. -/
private def textMode : List VgaEvent :=
  [(0x07, 0x1f), (0x09, 0x4f), (0x12, 0x8f), (0x13, 0x28), (0x14, 0x1f), (0x17, 0xa3),
    (0x18, 0xff)].flatMap fun (i, value) =>
      [.portWrite 0x3d4 i 1, .portWrite 0x3d5 value 1]

theorem crtc_derived_text_mode :
    ∃ t, run vgaStep initialState textMode = .ok t ∧ t.CrtcMatches :=
  exists_of_completes (by decide +kernel) fun _ hrun =>
    (crtc_derived_iff hrun).mpr (by decide +kernel)

/-- All seven registers are written 0, which they hold already. -/
private def zeroMode : List VgaEvent :=
  [0x07, 0x09, 0x12, 0x13, 0x14, 0x17, 0x18].flatMap fun i =>
    [.portWrite 0x3d4 i 1, .portWrite 0x3d5 0 1]

theorem crtc_derived_stale : ¬ ∀ (events : List VgaEvent) (t : VgaCore),
    run vgaStep initialState events = .ok t →
    (∀ i ∈ ([0x07, 0x09, 0x12, 0x13, 0x14, 0x17, 0x18] : List (Fin 0x19)),
      Occurs vgaStep (WritesCrtcRegister i) initialState events) → t.CrtcMatches := by
  intro h
  have hends : ends (fun t => t.lineOffset = 80 ∧ t.crtc.reg 0x13 = 0)
      (run vgaStep initialState zeroMode) = true := by
    decide +kernel
  obtain ⟨t, hrun, hoffset, hreg⟩ := exists_of_ends _ hends
  have hmatch := (h zeroMode t hrun (by decide +kernel)).lineOffset
  rw [hoffset, hreg] at hmatch
  exact absurd hmatch (by simp)

end Svmm
