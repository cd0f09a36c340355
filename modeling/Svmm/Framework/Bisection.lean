import Mathlib.Tactic.Common
import Mathlib.Order.Basic
import Mathlib.Data.Int.Notation

/-!
# Bisection with an inclusive right bound

A loop halves the interval from `left` to `right`, both included, until it meets an index where the
comparison says equal or the interval is empty.  `bisect` is the list of the indices it looks at;
what the code goes on with is the last one.

On a table that is below up to `k` and above from there on, the last index is one of the two
neighbours of the gap; which one is told by the length of the table and `k` alone.
-/

namespace Bisection

variable {cmp cmp' : ℕ → Ordering} {n k i l : ℕ} {r : ℤ}

/-- The indices that the loop looks at, in order. -/
def bisect (cmp : ℕ → Ordering) (left : ℕ) (right : ℤ) : List ℕ :=
  if _h : (left : ℤ) ≤ right then
    let i := (left + right.toNat) / 2
    match cmp i with
    | .lt => i :: bisect cmp (i + 1) right
    | .eq => [i]
    | .gt => i :: bisect cmp left ((i : ℤ) - 1)
  else []
termination_by (right + 1 - left).toNat
decreasing_by all_goals omega

/-- The index that the loop ends at, `d` when it made no turn. -/
def last (cmp : ℕ → Ordering) (left : ℕ) (right : ℤ) (d : ℕ) : ℕ :=
  (bisect cmp left right).getLastD d

/-- A table that is below up to `k` and above from there on. -/
def gap (k i : ℕ) : Ordering := if i < k then .lt else .gt

/-- The neighbour of the gap at `k` that the bisection of `0..n` looks at last. -/
def gapProbe (n k : ℕ) : ℕ := last (gap k) 0 n 0

/-! ## The indices that are looked at -/

/-- The right bound of a table of `n` entries is not looked at when an entry is not below. -/
lemma lt_of_mem (hkn : k < n) (hnot : ∀ i, k ≤ i → i < n → cmp i ≠ .lt) (l : ℕ) (r : ℤ)
    (hl : l ≤ k) (hr : r ≤ n) : ∀ i ∈ bisect cmp l r, i < n := by
  fun_induction bisect cmp l r with
  | case1 l r h mid hlt ih =>
      have hmid : mid < n := by omega
      have hmk : mid < k := by
        by_contra hge
        exact hnot mid (Nat.not_lt.mp hge) hmid hlt
      intro i hi
      rcases List.mem_cons.mp hi with rfl | hi
      · exact hmid
      · exact ih hmk hr i hi
  | case2 l r h mid heq =>
      intro i hi
      rw [List.mem_singleton.mp hi]
      omega
  | case3 l r h mid hgt ih =>
      intro i hi
      rcases List.mem_cons.mp hi with rfl | hi
      · omega
      · exact ih hl (by omega) i hi
  | case4 l r h => simp

/-- When every entry is below, the loop comes to its right bound. -/
lemma right_mem (l : ℕ) (r : ℤ) (hlow : ∀ i : ℕ, i < r → cmp i = .lt) (hl : (l : ℤ) ≤ r) :
    r.toNat ∈ bisect cmp l r := by
  fun_induction bisect cmp l r with
  | case1 l r h mid hlt ih =>
      rcases eq_or_ne mid r.toNat with heq | hne
      · rw [heq]
        exact List.mem_cons_self
      · exact List.mem_cons_of_mem _ (ih hlow (by omega))
  | case2 l r h mid heq =>
      have hend : mid = r.toNat := by
        by_contra hne
        rw [hlow mid (by omega)] at heq
        cases heq
      rw [hend]
      exact List.mem_singleton_self _
  | case3 l r h mid hgt ih =>
      have hend : mid = r.toNat := by
        by_contra hne
        rw [hlow mid (by omega)] at hgt
        cases hgt
      rw [hend]
      exact List.mem_cons_self
  | case4 l r h => exact absurd hl h

/-! ## The index that the loop ends at -/

/-- What the loop does is told by the entries that it looks at. -/
lemma bisect_congr (l : ℕ) (r : ℤ) (h : ∀ i ∈ bisect cmp l r, cmp i = cmp' i) :
    bisect cmp l r = bisect cmp' l r := by
  fun_induction bisect cmp l r with
  | case1 l r hle mid hlt ih =>
      have hmid : cmp' mid = .lt := (h mid List.mem_cons_self).symm.trans hlt
      conv_rhs => rw [bisect, dif_pos hle]
      simp only [mid] at hmid
      simp only [hmid]
      rw [ih fun i hi => h i (List.mem_cons_of_mem _ hi)]
  | case2 l r hle mid heq =>
      have hmid : cmp' mid = .eq := (h mid (List.mem_singleton_self _)).symm.trans heq
      conv_rhs => rw [bisect, dif_pos hle]
      simp only [mid] at hmid
      simp only [hmid, mid]
  | case3 l r hle mid hgt ih =>
      have hmid : cmp' mid = .gt := (h mid List.mem_cons_self).symm.trans hgt
      conv_rhs => rw [bisect, dif_pos hle]
      simp only [mid] at hmid
      simp only [hmid]
      rw [ih fun i hi => h i (List.mem_cons_of_mem _ hi)]
  | case4 l r hle => rw [bisect, dif_neg hle]

/-- An equal entry between entries below and entries above is found. -/
lemma last_of_compare (hcmp : ∀ i < n, cmp i = compare i k) (l : ℕ) (r : ℤ) (d : ℕ)
    (hkn : k < n) (hl : l ≤ k) (hkr : k ≤ r) (hr : r ≤ n) : last cmp l r d = k := by
  unfold last
  fun_induction bisect cmp l r generalizing d with
  | case1 l r h mid hlt ih =>
      have hmk : mid < k := Nat.compare_eq_lt.mp ((hcmp mid (by omega)).symm.trans hlt)
      rw [List.getLastD_cons]
      exact ih mid hmk hkr hr
  | case2 l r h mid heq => exact Nat.compare_eq_eq.mp ((hcmp mid (by omega)).symm.trans heq)
  | case3 l r h mid hgt ih =>
      rw [List.getLastD_cons]
      by_cases hmid : mid < n
      · have hmk : k < mid := Nat.compare_eq_gt.mp ((hcmp mid hmid).symm.trans hgt)
        exact ih mid hl (by omega) (by omega)
      · exact ih mid hl (by omega) (by omega)
  | case4 l r h => omega

lemma gap_of_lt (h : i < k) : gap k i = .lt := if_pos h

lemma gap_of_le (h : k ≤ i) : gap k i = .gt := if_neg (Nat.not_lt.mpr h)

/-- Without an equal entry, the loop ends beside the gap. -/
lemma last_gap (l : ℕ) (r : ℤ) (d : ℕ) (hl : l ≤ k) (hlr : (l : ℤ) ≤ r) (hkr : k ≤ r + 1) :
    last (gap k) l r d = k ∨ last (gap k) l r d + 1 = k := by
  unfold last
  fun_induction bisect (gap k) l r generalizing d with
  | case1 l r h mid hlt ih =>
      have hmk : mid < k := by
        by_contra hge
        rw [gap_of_le (Nat.not_lt.mp hge)] at hlt
        cases hlt
      rw [List.getLastD_cons]
      by_cases hend : ((mid + 1 : ℕ) : ℤ) ≤ r
      · exact ih mid hmk hend hkr
      · rw [bisect, dif_neg hend]
        exact Or.inr (by simp only [List.getLastD_nil]; omega)
  | case2 l r h mid heq =>
      unfold gap at heq
      split at heq <;> cases heq
  | case3 l r h mid hgt ih =>
      have hkm : k ≤ mid := by
        by_contra hlt
        rw [gap_of_lt (Nat.not_le.mp hlt)] at hgt
        cases hgt
      rw [List.getLastD_cons]
      by_cases hend : (l : ℤ) ≤ (mid : ℤ) - 1
      · exact ih mid hl hend (by omega)
      · rw [bisect, dif_neg hend]
        exact Or.inl (by simp only [List.getLastD_nil]; omega)
  | case4 l r h => exact absurd hlr h

lemma gapProbe_eq (hkn : k ≤ n) : gapProbe n k = k ∨ gapProbe n k + 1 = k :=
  last_gap 0 n 0 (Nat.zero_le k) (by omega) (by omega)

/-- A table that is below up to `k` and above from there on is searched as its gap tells. -/
lemma last_of_gap (hcmp : ∀ i < n, cmp i = gap k i) (hkn : k < n) :
    last cmp 0 n 0 = gapProbe n k := by
  unfold gapProbe last
  rw [bisect_congr 0 n]
  intro i hi
  refine hcmp i (lt_of_mem hkn (fun j hkj hjn => ?_) 0 n (Nat.zero_le k) (Int.le_refl _) i hi)
  rw [hcmp j hjn, gap_of_le hkj]
  decide

end Bisection
