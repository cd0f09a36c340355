import Svmm.Construction.Vga.Retrace
import Mathlib.Tactic.Common

/-!
# The times of the retrace are total

`retrace_timing_total`: whatever the registers hold, the times are left as they are, where the clock
is one that the table does not have, or all divisions and products of 32 bits are defined and the
blanking and the retrace end no earlier than they start.  A line takes between 40 and 2340 clocks,
and a screen at most 1025 lines, so that at the lowest clock 5379 lines go to a second.
-/

namespace Svmm

namespace VgaCore

variable (s : VgaCore)

/-! ## The bounds of the registers -/

/-- Bits of a register that are moved up. -/
lemma toNat_bits_le (x m : BitVec 8) (n : ℕ) :
    ((x &&& m).setWidth 16 <<< n).toNat ≤ m.toNat * 2 ^ n := by
  have hand : (x &&& m).toNat ≤ m.toNat := by
    rw [BitVec.toNat_and]
    exact Nat.and_le_right
  have hwidth : ((x &&& m).setWidth 16).toNat ≤ m.toNat := by
    rw [BitVec.toNat_setWidth]
    exact Nat.le_trans (Nat.mod_le _ _) hand
  rw [BitVec.toNat_shiftLeft, Nat.shiftLeft_eq]
  exact Nat.le_trans (Nat.mod_le _ _) (Nat.mul_le_mul_right _ hwidth)

lemma htotal_bounds : 5 ≤ s.htotal.toNat ∧ s.htotal.toNat ≤ 260 := by
  have hreg := (s.crtc.reg 0x00).isLt
  have htotal : s.htotal.toNat = (s.crtc.reg 0x00).toNat + 5 := by
    unfold htotal crtcParams
    rw [BitVec.toNat_setWidth, BitVec.toNat_add, BitVec.toNat_setWidth]
    show ((s.crtc.reg 0x00).toNat % 2 ^ 16 + 5) % 2 ^ 16 % 2 ^ 32 = _
    omega
  omega

lemma vtotal_bounds : 2 ≤ s.vtotal.toNat ∧ s.vtotal.toNat ≤ 1025 := by
  have hreg := (s.crtc.reg 0x06).isLt
  have hlow := toNat_bits_le (s.crtc.reg 0x07) 0x01 8
  have hhigh := toNat_bits_le (s.crtc.reg 0x07) 0x20 4
  have hone : (0x01 : BitVec 8).toNat * 2 ^ 8 = 256 := by decide
  have hfive : (0x20 : BitVec 8).toNat * 2 ^ 4 = 512 := by decide
  unfold vtotal crtcParams
  simp only [BitVec.toNat_setWidth, BitVec.toNat_add]
  generalize ((s.crtc.reg 0x07 &&& 0x01).setWidth 16 <<< 8).toNat = low at hlow ⊢
  generalize ((s.crtc.reg 0x07 &&& 0x20).setWidth 16 <<< 4).toNat = high at hhigh ⊢
  have htwo : (2 : BitVec 16).toNat = 2 := rfl
  omega

lemma vrstart_le : s.vrstart.toNat ≤ 1023 := by
  have hreg := (s.crtc.reg 0x10).isLt
  have hlow := toNat_bits_le (s.crtc.reg 0x07) 0x04 6
  have hhigh := toNat_bits_le (s.crtc.reg 0x07) 0x80 2
  have htwo : (0x04 : BitVec 8).toNat * 2 ^ 6 = 256 := by decide
  have hseven : (0x80 : BitVec 8).toNat * 2 ^ 2 = 512 := by decide
  unfold vrstart crtcParams
  simp only [BitVec.toNat_setWidth, BitVec.toNat_add]
  generalize ((s.crtc.reg 0x07 &&& 0x04).setWidth 16 <<< 6).toNat = low at hlow ⊢
  generalize ((s.crtc.reg 0x07 &&& 0x80).setWidth 16 <<< 2).toNat = high at hhigh ⊢
  omega

/-- A masked difference is at most the mask. -/
lemma toNat_and_le (x m : BitVec 32) : (x &&& m).toNat ≤ m.toNat := by
  rw [BitVec.toNat_and]
  exact Nat.and_le_right

lemma vrend_bounds : s.vrstart.toNat ≤ s.vrend.toNat ∧ s.vrend.toNat ≤ 1038 := by
  have hstart := s.vrstart_le
  have hmask := toNat_and_le ((s.crtc.reg 0x11 &&& 0x0f).setWidth 32 - s.vrstart) 0x0f
  have hfifteen : (0x0f : BitVec 32).toNat = 15 := rfl
  have hsum : s.vrend.toNat =
      (((s.crtc.reg 0x11 &&& 0x0f).setWidth 32 - s.vrstart) &&& 0x0f).toNat +
        s.vrstart.toNat := by
    unfold vrend
    rw [BitVec.toNat_add]
    omega
  omega

lemma hbstart_le : s.hbstart.toNat ≤ 255 := by
  have hreg := (s.crtc.reg 0x02).isLt
  unfold hbstart
  rw [BitVec.toNat_setWidth]
  omega

lemma hbend_bounds : s.hbstart.toNat ≤ s.hbend.toNat ∧ s.hbend.toNat ≤ 318 := by
  have hstart := s.hbstart_le
  unfold hbend
  simp only
  generalize (s.crtc.reg 0x03 &&& 0x1f).setWidth 32 +
    ((s.crtc.reg 0x05 &&& 0x80).setWidth 32 >>> 2) - s.hbstart = difference
  have hmask := toNat_and_le difference 0x3f
  have hsixtythree : (0x3f : BitVec 32).toNat = 63 := rfl
  rw [BitVec.toNat_add]
  omega

lemma cwidth_bounds : 8 ≤ s.cwidth.toNat ∧ s.cwidth.toNat ≤ 9 := by
  unfold cwidth
  split <;> decide

lemma verticalDisplayEnd_le : (s.verticalDisplayEnd.setWidth 32).toNat ≤ 1023 := by
  have hlt := s.verticalDisplayEnd.isLt
  rw [BitVec.toNat_setWidth]
  omega

/-- The clocks of the table, and their halves. -/
lemma vclock_bounds (h : s.vclock ≠ 0) :
    12587500 ≤ s.vclock.toNat ∧ s.vclock.toNat ≤ 28322000 := by
  revert h
  unfold vclock vgaVclk
  generalize s.miscOutput.clockSelect = select
  generalize s.xDotclockdiv2 = halved
  revert select halved
  decide

/-! ## The frequencies -/

/-- The clocks of a line. -/
lemma line_bounds :
    (s.htotal * s.cwidth).toNat = s.htotal.toNat * s.cwidth.toNat ∧
      40 ≤ s.htotal.toNat * s.cwidth.toNat ∧ s.htotal.toNat * s.cwidth.toNat ≤ 2340 := by
  obtain ⟨hlow, hhigh⟩ := s.htotal_bounds
  obtain ⟨hwide, hwidth⟩ := s.cwidth_bounds
  have hmin : 5 * 8 ≤ s.htotal.toNat * s.cwidth.toNat := Nat.mul_le_mul hlow hwide
  have hmax : s.htotal.toNat * s.cwidth.toNat ≤ 260 * 9 := Nat.mul_le_mul hhigh hwidth
  refine ⟨BitVec.toNat_mul_of_lt ?_, by omega, by omega⟩
  exact Nat.lt_of_le_of_lt hmax (by decide)

/-- The lines of a second. -/
lemma hfreq_bounds (h : s.vclock ≠ 0) : 5379 ≤ s.hfreq.toNat := by
  obtain ⟨hline, hmin, hmax⟩ := s.line_bounds
  obtain ⟨hclock, -⟩ := s.vclock_bounds h
  unfold hfreq
  rw [BitVec.toNat_udiv, hline, Nat.le_div_iff_mul_le (by omega)]
  calc 5379 * (s.htotal.toNat * s.cwidth.toNat) ≤ 5379 * 2340 := Nat.mul_le_mul_left _ hmax
    _ ≤ s.vclock.toNat := by omega

lemma vfreq_pos (h : s.vclock ≠ 0) : 0 < s.vfreq.toNat := by
  obtain ⟨hpos, hmax⟩ := s.vtotal_bounds
  have hfreq := s.hfreq_bounds h
  unfold vfreq
  rw [BitVec.toNat_udiv]
  exact Nat.div_pos (by omega) (by omega)

/-- The microseconds of a line. -/
lemma lineUsec_le (h : s.vclock ≠ 0) : (1000000 / s.hfreq : BitVec 32).toNat ≤ 185 := by
  have hfreq := s.hfreq_bounds h
  rw [BitVec.toNat_udiv]
  calc (1000000 : BitVec 32).toNat / s.hfreq.toNat ≤ 1000000 / 5379 :=
        Nat.div_le_div_left hfreq (by decide)
    _ ≤ 185 := by decide

/-! ## The times -/

/-- Some lines in microseconds. -/
lemma lines_lt (h : s.vclock ≠ 0) {n : BitVec 32} (hn : n.toNat ≤ 1038) :
    (1000000 / s.hfreq : BitVec 32).toNat * n.toNat < 2 ^ 32 :=
  Nat.lt_of_le_of_lt (Nat.mul_le_mul (s.lineUsec_le h) hn) (by decide)

/-- Some characters in microseconds. -/
lemma chars_lt {n : BitVec 32} (hn : n.toNat ≤ 318) :
    (1000000 : BitVec 32).toNat * n.toNat < 2 ^ 32 ∧
      (1000000 * n).toNat = 1000000 * n.toNat ∧ (1000000 * n).toNat * s.cwidth.toNat < 2 ^ 32 := by
  obtain ⟨-, hwidth⟩ := s.cwidth_bounds
  have hmillion : (1000000 : BitVec 32).toNat = 1000000 := rfl
  have hfits : (1000000 : BitVec 32).toNat * n.toNat < 2 ^ 32 := by
    rw [hmillion]
    omega
  have hproduct : (1000000 * n).toNat = 1000000 * n.toNat := BitVec.toNat_mul_of_lt hfits
  refine ⟨hfits, hproduct, ?_⟩
  rw [hproduct]
  calc 1000000 * n.toNat * s.cwidth.toNat ≤ 1000000 * 318 * 9 :=
        Nat.mul_le_mul (Nat.mul_le_mul_left _ hn) hwidth
    _ < 2 ^ 32 := by decide

lemma retraceOps_total (r : VgaRetrace) : ∀ op ∈ (s.calculateRetraceTiming r).2, op.Total := by
  unfold calculateRetraceTiming
  split
  · exact List.forall_mem_nil _
  · rename_i h
    have hne : ∀ {n : BitVec 32}, 0 < n.toNat → n ≠ 0 := fun hpos hzero => by
      rw [hzero] at hpos
      exact absurd hpos (by decide)
    obtain ⟨hline, hmin, hmax⟩ := s.line_bounds
    obtain ⟨hlines, -⟩ := s.vtotal_bounds
    obtain ⟨hrend, hrendle⟩ := s.vrend_bounds
    obtain ⟨hbend, hbendle⟩ := s.hbend_bounds
    obtain ⟨hstart, -, hstartwidth⟩ := s.chars_lt (Nat.le_trans hbend hbendle)
    obtain ⟨hend, -, hendwidth⟩ := s.chars_lt hbendle
    have hfreq := s.hfreq_bounds h
    simp only [List.forall_mem_cons]
    exact ⟨Nat.lt_of_le_of_lt hmax (by decide), hne (by omega), hne (by omega), hstart,
      hstartwidth, h, hend, hendwidth, h, hne (by omega), hne (s.vfreq_pos h),
      s.lines_lt h (Nat.le_trans s.verticalDisplayEnd_le (by decide)),
      s.lines_lt h (Nat.le_trans hrend hrendle), s.lines_lt h hrendle, List.forall_mem_nil _⟩

/-- The blanking ends no earlier than it starts. -/
lemma hbstartUsec_le (r : VgaRetrace) (h : s.vclock ≠ 0) :
    (s.calculateRetraceTiming r).1.hbstartUsec ≤ (s.calculateRetraceTiming r).1.hbendUsec := by
  obtain ⟨hbend, hbendle⟩ := s.hbend_bounds
  obtain ⟨-, hstart, hstartwidth⟩ := s.chars_lt (Nat.le_trans hbend hbendle)
  obtain ⟨-, hend, hendwidth⟩ := s.chars_lt hbendle
  rw [calculateRetraceTiming, if_neg h, BitVec.le_def, BitVec.toNat_udiv, BitVec.toNat_udiv,
    BitVec.toNat_mul_of_lt hstartwidth, BitVec.toNat_mul_of_lt hendwidth, hstart, hend]
  exact Nat.div_le_div_right (Nat.mul_le_mul_right _ (Nat.mul_le_mul_left _ hbend))

/-- The retrace ends no earlier than it starts. -/
lemma vrstartUsec_le (r : VgaRetrace) (h : s.vclock ≠ 0) :
    (s.calculateRetraceTiming r).1.vrstartUsec ≤ (s.calculateRetraceTiming r).1.vrendUsec := by
  obtain ⟨hrend, hrendle⟩ := s.vrend_bounds
  rw [calculateRetraceTiming, if_neg h, BitVec.le_def,
    BitVec.toNat_mul_of_lt (s.lines_lt h (Nat.le_trans hrend hrendle)),
    BitVec.toNat_mul_of_lt (s.lines_lt h hrendle)]
  exact Nat.mul_le_mul_left _ hrend

end VgaCore

theorem retrace_timing_total (s : VgaCore) (r : VgaRetrace) :
    (s.vclock = 0 ∧ s.calculateRetraceTiming r = (r, [])) ∨
      (0 < s.hfreq ∧ 0 < s.vfreq ∧ (∀ op ∈ (s.calculateRetraceTiming r).2, op.Total) ∧
        (s.calculateRetraceTiming r).1.hbstartUsec ≤ (s.calculateRetraceTiming r).1.hbendUsec ∧
        (s.calculateRetraceTiming r).1.vrstartUsec ≤ (s.calculateRetraceTiming r).1.vrendUsec) := by
  by_cases h : s.vclock = 0
  · exact .inl ⟨h, if_pos h⟩
  · have hfreq := s.hfreq_bounds h
    refine .inr ⟨BitVec.lt_def.mpr ?_, BitVec.lt_def.mpr (s.vfreq_pos h), s.retraceOps_total r,
      s.hbstartUsec_le r h, s.vrstartUsec_le r h⟩
    exact Nat.lt_of_lt_of_le (by decide) hfreq

end Svmm
