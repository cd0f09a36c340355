import Svmm.Properties.Vga.Accesses

/-!
# The rows of a text

`text_update_common` counts its rows down and at the split starts them anew at the top of the
memory.  `textLoop_inBounds_iff` says when all that it reads is inside the memory, and
`textLoop_ends_iff` when it ends: a screen of 256 rows or more below the split meets the row of the
split again, as the number of a row is a byte, and goes round for good.
-/

namespace Svmm

namespace TextScreen

variable {screen : TextScreen} {row : TextRow}

/-! ## A row -/

lemma roundsDown_pos (n : BitVec 16) : 0 < roundsDown n := by
  unfold roundsDown
  split
  · decide
  · rename_i h
    exact Nat.pos_of_ne_zero fun hzero => h (BitVec.eq_of_toNat_eq hzero)

/-- The rows that are left after one, if any. -/
lemma roundsDown_sub_one {n : BitVec 16} (h : n - 1 ≠ 0) :
    roundsDown (n - 1) + 1 = roundsDown n := by
  have hn := n.isLt
  have hsub : (n - 1).toNat = (2 ^ 16 - 1 + n.toNat) % 2 ^ 16 := BitVec.toNat_sub ..
  have hne : (n - 1).toNat ≠ 0 := fun hzero => h (BitVec.eq_of_toNat_eq hzero)
  have hzero : n = 0 ↔ n.toNat = 0 := BitVec.toNat_inj.symm
  unfold roundsDown
  rw [if_neg h]
  split
  · rename_i hn
    have := hzero.mp hn
    omega
  · rename_i hn
    have := mt hzero.mpr hn
    omega

lemma roundsDown_eq_one {n : BitVec 16} (h : n - 1 = 0) : roundsDown n = 1 := by
  have hn : n = 1 := by
    have hlt := n.isLt
    have hsub : (2 ^ 16 - 1 + n.toNat) % 2 ^ 16 = 0 :=
      (BitVec.toNat_sub n 1).symm.trans (congrArg BitVec.toNat h)
    apply BitVec.eq_of_toNat_eq
    show n.toNat = 1
    omega
  rw [hn]
  rfl

/-- The characters of a row. -/
def rowChars (screen : TextScreen) (panned : Bool) : ℕ :=
  roundsDown (if panned then screen.columns + 1 else screen.columns)

/-- A row is inside the memory if its last character is. -/
lemma rowAccesses_inBounds :
    (∀ a ∈ screen.rowAccesses row, a.InBounds) ↔
      row.newText + 2 * screen.rowChars row.panned ≤ vgaMemsize := by
  unfold rowAccesses rowChars
  simp only [List.forall_mem_map, List.mem_range]
  have hpos := roundsDown_pos (if row.panned then screen.columns + 1 else screen.columns)
  constructor
  · intro h
    have hlast := h (roundsDown (if row.panned then screen.columns + 1 else screen.columns) - 1)
      (Nat.sub_lt hpos (by decide))
    have hlast : row.newText + 2 * (_ - 1) + 2 ≤ vgaMemsize := hlast
    omega
  · intro h x hx
    show row.newText + 2 * x + 2 ≤ vgaMemsize
    omega

/-! ## The rows up to the split -/

/-- The rows before the one of the split. -/
def beforeSplit (screen : TextScreen) (row : TextRow) : ℕ := (screen.splitTextrow - row.y).toNat

/-- The row after that of the split. -/
def afterSplit (screen : TextScreen) (panned : Bool) : TextRow where
  rows := screen.splitRows - 1
  y := screen.splitTextrow + 1
  newText := 0
  panned := panned && !screen.splitHpanning

lemma nextRow_of_eq (h : screen.beforeSplit row = 0) :
    screen.nextRow row = screen.afterSplit row.panned := by
  have hy : row.y = screen.splitTextrow := by
    have hs := screen.splitTextrow.isLt
    have hr := row.y.isLt
    rw [beforeSplit, BitVec.toNat_sub] at h
    apply BitVec.eq_of_toNat_eq
    omega
  rw [nextRow, if_pos hy, hy]
  rfl

lemma nextRow_of_pos {n : ℕ} (h : screen.beforeSplit row = n + 1) :
    screen.nextRow row =
        { row with
          rows := row.rows - 1, y := row.y + 1, newText := row.newText + screen.lineOffset } ∧
      screen.beforeSplit (screen.nextRow row) = n := by
  have hy : row.y ≠ screen.splitTextrow := by
    intro hy
    rw [beforeSplit, hy, BitVec.sub_self] at h
    exact absurd h (by simp)
  have hnext : screen.nextRow row =
      { row with
        rows := row.rows - 1, y := row.y + 1, newText := row.newText + screen.lineOffset } := by
    rw [nextRow, if_neg hy]
  refine ⟨hnext, ?_⟩
  rw [hnext]
  unfold beforeSplit at h ⊢
  have hs := screen.splitTextrow.isLt
  have hr := row.y.isLt
  rw [BitVec.toNat_sub] at h ⊢
  rw [BitVec.toNat_add]
  show (2 ^ 8 - (row.y.toNat + 1) % 2 ^ 8 + screen.splitTextrow.toNat) % 2 ^ 8 = n
  omega

/-- What the rows up to the split reach. -/
def RowsFit (screen : TextScreen) (row : TextRow) : Prop :=
  row.newText + min (roundsDown row.rows - 1) (screen.beforeSplit row) * screen.lineOffset +
    2 * screen.rowChars row.panned ≤ vgaMemsize

/-- The rows reach the split and go on after it. -/
def Splits (screen : TextScreen) (row : TextRow) : Prop :=
  screen.beforeSplit row < roundsDown row.rows ∧ screen.splitRows - 1 ≠ 0

/-- The row by itself. -/
def RowFits (screen : TextScreen) (row : TextRow) : Prop :=
  row.newText + 2 * screen.rowChars row.panned ≤ vgaMemsize

lemma RowsFit.first (h : screen.RowsFit row) : screen.RowFits row := by
  unfold RowsFit at h
  unfold RowFits
  omega

/-- A row that is not the last one and not that of the split. -/
lemma rowsFit_next {n : ℕ} (hrow : screen.beforeSplit row = n + 1) (hmore : row.rows - 1 ≠ 0) :
    (screen.RowsFit row ↔ screen.RowsFit (screen.nextRow row)) ∧
      (screen.Splits row ↔ screen.Splits (screen.nextRow row)) := by
  obtain ⟨hnext, hbefore⟩ := nextRow_of_pos hrow
  have hrounds := roundsDown_sub_one hmore
  have hpos := roundsDown_pos (row.rows - 1)
  have hmin : min (roundsDown row.rows - 1) (n + 1) =
      min (roundsDown (row.rows - 1) - 1) n + 1 := by
    omega
  have hsplit : n + 1 < roundsDown row.rows ↔ n < roundsDown (row.rows - 1) := by
    omega
  rw [RowsFit, RowsFit, Splits, Splits, hbefore, hrow, hnext]
  refine ⟨?_, and_congr_left fun _ => hsplit⟩
  simp only
  rw [hmin, Nat.add_one_mul (min (roundsDown (row.rows - 1) - 1) n)]
  generalize min (roundsDown (row.rows - 1) - 1) n * screen.lineOffset = size
  omega

/-- A row that is the last one or that of the split. -/
lemma rowsFit_last (h : screen.beforeSplit row = 0 ∨ row.rows - 1 = 0) :
    screen.RowsFit row ↔ screen.RowFits row := by
  have hzero : min (roundsDown row.rows - 1) (screen.beforeSplit row) = 0 := by
    rcases h with hsplit | hlast
    · rw [hsplit, Nat.min_zero]
    · rw [roundsDown_eq_one hlast, Nat.sub_self, Nat.zero_min]
  rw [RowsFit, RowFits, hzero, Nat.zero_mul, Nat.add_zero]

/-- What is read is inside the memory for the rows up to the split, and those after it. -/
lemma forall_textLoop_inBounds_split (n : ℕ) :
    ∀ row, screen.beforeSplit row = n →
      ((∀ fuel, ∀ a ∈ (screen.textLoop fuel row).1, a.InBounds) ↔
        screen.RowsFit row ∧
          (screen.Splits row → ∀ fuel,
            ∀ a ∈ (screen.textLoop fuel (screen.afterSplit row.panned)).1, a.InBounds)) := by
  induction n with
  | zero =>
      intro row hrow
      rw [forall_textLoop, rowAccesses_inBounds, nextRow_of_eq hrow, rowsFit_last (.inl hrow),
        Splits, hrow]
      exact and_congr_right fun _ => imp_congr_left ⟨fun h => ⟨roundsDown_pos _, h⟩, fun h => h.2⟩
  | succ n ih =>
      intro row hrow
      obtain ⟨hnext, hbefore⟩ := nextRow_of_pos hrow
      have hrows : (screen.nextRow row).rows = row.rows - 1 := by rw [hnext]
      have hpanned : (screen.nextRow row).panned = row.panned := by rw [hnext]
      rw [forall_textLoop, rowAccesses_inBounds, ih _ hbefore, hrows, hpanned]
      by_cases hmore : row.rows - 1 = 0
      · have hends : ¬ screen.Splits row := by
          rw [Splits, hrow, roundsDown_eq_one hmore]
          exact fun hs => absurd hs.1 (by omega)
        rw [rowsFit_last (.inr hmore)]
        exact and_congr_right fun _ =>
          iff_of_true (fun hc => absurd hmore hc) fun hs => absurd hs hends
      · obtain ⟨hfit, hsplits⟩ := rowsFit_next hrow hmore
        rw [← hfit, ← hsplits]
        exact ⟨fun h => h.2 hmore, fun h => ⟨h.1.first, fun _ => h⟩⟩

/-! ## The rows after the split -/

/-- All rows after the split are before the next one, by the byte that counts them. -/
lemma beforeSplit_afterSplit (panned : Bool) :
    screen.beforeSplit (screen.afterSplit panned) = 255 := by
  have hs := screen.splitTextrow.isLt
  unfold beforeSplit afterSplit
  rw [BitVec.toNat_sub, BitVec.toNat_add]
  show (2 ^ 8 - (screen.splitTextrow.toNat + 1) % 2 ^ 8 + screen.splitTextrow.toNat) % 2 ^ 8 = 255
  omega

/-- At the next split nothing changes. -/
lemma afterSplit_afterSplit (panned : Bool) :
    screen.afterSplit (screen.afterSplit panned).panned = screen.afterSplit panned := by
  unfold afterSplit
  cases panned <;> cases screen.splitHpanning <;> rfl

/-- What so many rows read is inside the memory, if that of the rows up to the split is, and that of
fewer rows after it. -/
lemma textLoop_inBounds_of (fuel : ℕ) :
    ∀ row, screen.RowsFit row →
      (screen.Splits row → ∀ k < fuel,
        ∀ a ∈ (screen.textLoop k (screen.afterSplit row.panned)).1, a.InBounds) →
      ∀ a ∈ (screen.textLoop fuel row).1, a.InBounds := by
  induction fuel with
  | zero => exact fun _ _ _ => List.forall_mem_nil _
  | succ fuel ih =>
      intro row hfit hafter
      have hrow := rowAccesses_inBounds.mpr hfit.first
      rw [textLoop]
      simp only
      split
      · exact hrow
      · rename_i hmore
        refine List.forall_mem_append.mpr ⟨hrow, ?_⟩
        cases hbefore : screen.beforeSplit row with
        | zero =>
            rw [nextRow_of_eq hbefore] at hmore ⊢
            have hsplits : screen.Splits row := ⟨hbefore ▸ roundsDown_pos _, hmore⟩
            exact hafter hsplits fuel (Nat.lt_succ_self fuel)
        | succ n =>
            obtain ⟨hnext, -⟩ := nextRow_of_pos hbefore
            have hrows : (screen.nextRow row).rows = row.rows - 1 := by rw [hnext]
            have hpanned : (screen.nextRow row).panned = row.panned := by rw [hnext]
            obtain ⟨hfits, hsplits⟩ := rowsFit_next hbefore (hrows ▸ hmore)
            refine ih _ (hfits.mp hfit) fun h k hk => ?_
            rw [hpanned]
            exact hafter (hsplits.mpr h) k (Nat.lt_succ_of_lt hk)

/-- The rows after the split are inside the memory just when those up to the next split are. -/
lemma forall_textLoop_afterSplit (panned : Bool) :
    (∀ fuel, ∀ a ∈ (screen.textLoop fuel (screen.afterSplit panned)).1, a.InBounds) ↔
      screen.RowsFit (screen.afterSplit panned) := by
  constructor
  · intro h
    exact ((forall_textLoop_inBounds_split 255 _ (beforeSplit_afterSplit panned)).mp h).1
  · intro hfit fuel
    induction fuel using Nat.strongRecOn with
    | ind fuel ih =>
        refine textLoop_inBounds_of fuel _ hfit fun _ k hk => ?_
        rw [afterSplit_afterSplit]
        exact ih k hk

/-- When all that is read is inside the memory. -/
theorem textLoop_inBounds_iff :
    (∀ fuel, ∀ a ∈ (screen.textLoop fuel row).1, a.InBounds) ↔
      screen.RowsFit row ∧ (screen.Splits row → screen.RowsFit (screen.afterSplit row.panned)) := by
  rw [forall_textLoop_inBounds_split _ row rfl, forall_textLoop_afterSplit]

/-! ## The end -/

/-- The rows after the split meet it again. -/
def GoesRound (screen : TextScreen) (row : TextRow) : Prop :=
  screen.Splits row ∧ screen.Splits (screen.afterSplit row.panned)

lemma textLoop_succ_ended (fuel : ℕ) (row : TextRow) :
    (screen.textLoop (fuel + 1) row).2 =
      if (screen.nextRow row).rows = 0 then true
      else (screen.textLoop fuel (screen.nextRow row)).2 := by
  rw [textLoop]
  simp only
  split <;> rfl

/-- Rows that do not reach the split, or have none after it, come to an end. -/
lemma textLoop_ended_of_not_splits (fuel : ℕ) :
    ∀ row, ¬ screen.Splits row → screen.beforeSplit row < fuel →
      (screen.textLoop fuel row).2 = true := by
  induction fuel with
  | zero => exact fun _ _ h => absurd h (Nat.not_lt_zero _)
  | succ fuel ih =>
      intro row hsplits hfuel
      rw [textLoop_succ_ended]
      split
      · rfl
      · rename_i hmore
        cases hbefore : screen.beforeSplit row with
        | zero =>
            rw [nextRow_of_eq hbefore] at hmore
            exact absurd ⟨hbefore ▸ roundsDown_pos _, hmore⟩ hsplits
        | succ n =>
            obtain ⟨hnext, hbefore'⟩ := nextRow_of_pos hbefore
            have hrows : (screen.nextRow row).rows = row.rows - 1 := by rw [hnext]
            have hsplits' := (rowsFit_next hbefore (hrows ▸ hmore)).2
            exact ih _ (fun h => hsplits (hsplits'.mpr h)) (by omega)

/-- Rows that go on after the split end with those after it. -/
lemma textLoop_ended_split (n : ℕ) :
    ∀ row fuel, screen.Splits row → screen.beforeSplit row = n →
      (screen.textLoop fuel row).2 =
        (if n < fuel then (screen.textLoop (fuel - (n + 1)) (screen.afterSplit row.panned)).2
        else false) := by
  induction n with
  | zero =>
      intro row fuel hsplits hbefore
      cases fuel with
      | zero => rfl
      | succ fuel =>
          rw [textLoop_succ_ended, nextRow_of_eq hbefore, if_pos (Nat.succ_pos fuel)]
          exact if_neg hsplits.2
  | succ n ih =>
      intro row fuel hsplits hbefore
      have hmore : row.rows - 1 ≠ 0 := by
        intro hzero
        have hlt := hsplits.1
        rw [roundsDown_eq_one hzero, hbefore] at hlt
        omega
      obtain ⟨hnext, hbefore'⟩ := nextRow_of_pos hbefore
      have hrows : (screen.nextRow row).rows = row.rows - 1 := by rw [hnext]
      have hpanned : (screen.nextRow row).panned = row.panned := by rw [hnext]
      have hsplits' := (rowsFit_next hbefore hmore).2.mp hsplits
      cases fuel with
      | zero => rfl
      | succ fuel =>
          rw [textLoop_succ_ended, hrows, if_neg hmore, ih _ fuel hsplits' hbefore', hpanned,
            Nat.add_sub_add_right]
          simp only [Nat.add_lt_add_iff_right]

/-- Rows that meet the split again after it do not end. -/
lemma textLoop_goes_round (h : screen.GoesRound row) (fuel : ℕ) :
    (screen.textLoop fuel row).2 = false := by
  have hafter : ∀ fuel, (screen.textLoop fuel (screen.afterSplit row.panned)).2 = false := by
    intro fuel
    induction fuel using Nat.strongRecOn with
    | ind fuel ih =>
        rw [textLoop_ended_split 255 _ fuel h.2 (beforeSplit_afterSplit _), afterSplit_afterSplit]
        split
        · exact ih _ (by omega)
        · rfl
  rw [textLoop_ended_split _ _ fuel h.1 rfl]
  split
  · exact hafter _
  · rfl

/-- The loop ends after 512 rows, or it never does. -/
theorem textLoop_ended_iff {fuel : ℕ} (hfuel : 512 ≤ fuel) :
    (screen.textLoop fuel row).2 = true ↔ ¬ screen.GoesRound row := by
  have hbefore : screen.beforeSplit row < 256 := BitVec.isLt _
  constructor
  · intro hended hround
    rw [textLoop_goes_round hround] at hended
    exact Bool.false_ne_true hended
  · intro hround
    by_cases hsplits : screen.Splits row
    · have hafter := fun h => hround ⟨hsplits, h⟩
      rw [textLoop_ended_split _ _ fuel hsplits rfl, if_pos (by omega)]
      refine textLoop_ended_of_not_splits _ _ hafter ?_
      rw [beforeSplit_afterSplit]
      omega
    · exact textLoop_ended_of_not_splits _ _ hsplits (by omega)

theorem textLoop_ends_iff :
    (∃ fuel, (screen.textLoop fuel row).2 = true) ↔ ¬ screen.GoesRound row := by
  refine ⟨?_, fun h => ⟨512, (textLoop_ended_iff (Nat.le_refl 512)).mpr h⟩⟩
  rintro ⟨fuel, hended⟩ hround
  rw [textLoop_goes_round hround] at hended
  exact Bool.false_ne_true hended

lemma textLoop_textFuel :
    (screen.textLoop textFuel row).2 = true ↔ ∃ fuel, (screen.textLoop fuel row).2 = true :=
  (textLoop_ended_iff (by decide)).trans textLoop_ends_iff.symm

end TextScreen

namespace VgaCore

variable {s : VgaCore}

/-- A text update always returns, or just when its rows end. -/
lemma updateText_returns (s : VgaCore) :
    (∀ fuel, (s.updateText fuel).2.2 = true) ∨
      ∃ screen row, ∀ fuel, (s.updateText fuel).2.2 = (TextScreen.textLoop screen fuel row).2 := by
  unfold updateText
  split
  · exact .inl fun _ => rfl
  · rcases s.withTextSize.skipUpdate with ⟨_ | _, t⟩
    · refine .inr ⟨t.textScreen, t.firstRow, fun fuel => ?_⟩
      show (if (t.textUpdateCommon fuel).2 && t.vgaMemUpdated then _ else _ :
        VgaCore × List VgaAccess × Bool).2.2 = (t.textUpdateCommon fuel).2
      split
      · rename_i h
        exact (Bool.and_eq_true_iff.mp h).1.symm
      · rfl
    · exact .inl fun _ => rfl

/-- An update that has not returned after the rows of a step never does. -/
theorem update_returns_iff :
    (s.update textFuel).2.2 = true ↔ ∃ fuel, (s.update fuel).2.2 = true := by
  unfold update
  rcases s.countUpdate with ⟨t, _ | csToggle⟩
  · exact (exists_const ℕ).symm
  · by_cases halpha : t.graphicsCtrl.graphicsAlpha = true
    · simp only [if_pos halpha, exists_const]
    · simp only [if_neg halpha]
      rcases t.updateText_returns with h | ⟨screen, row, h⟩
      · simp only [h, exists_const]
      · simp only [h]
        exact TextScreen.textLoop_textFuel

end VgaCore

end Svmm
