import Mathlib.Tactic.Common
import Mathlib.Order.Basic

/-!
# Bounded search loops

Two loop shapes recur in priority logic.  `for (i = n; i >= 1; i--) if (p(i)) return i;`
followed by `return i;` falls through to `0`, which is also what it answers when only `p 0`
holds: that is `lastUpTo`.  `for (i = 0; i <= n; i++) if (p(i)) break;` stops at the first
hit or past the end: that is `firstUpTo`.
-/

namespace Scan

/-- The greatest `i` in `1..n` with `p i`, and `0` when there is none. -/
def lastUpTo (p : ℕ → Bool) : ℕ → ℕ
  | 0 => 0
  | n + 1 => if p (n + 1) then n + 1 else lastUpTo p n

/-- The least `i` in `0..n` with `p i`. -/
def firstUpTo (p : ℕ → Bool) (n : ℕ) : Option ℕ := (List.range (n + 1)).find? p

lemma lastUpTo_le (p : ℕ → Bool) (n : ℕ) : lastUpTo p n ≤ n := by
  induction n with
  | zero => simp [lastUpTo]
  | succ n ih =>
      unfold lastUpTo
      split
      · exact Nat.le_refl _
      · exact Nat.le_succ_of_le ih

/-- Nothing above the answer satisfies the predicate. -/
lemma le_lastUpTo {p : ℕ → Bool} {i n : ℕ} (hp : p i = true) (hi : i ≤ n) :
    i ≤ lastUpTo p n := by
  induction n with
  | zero => simpa [lastUpTo] using hi
  | succ n ih =>
      unfold lastUpTo
      split
      · exact hi
      · rename_i hn
        rcases Nat.lt_or_ge i (n + 1) with hlt | hge
        · exact ih (Nat.lt_succ_iff.mp hlt)
        · obtain rfl : i = n + 1 := Nat.le_antisymm hi hge
          exact absurd hp hn

/-- The answer satisfies the predicate as soon as some candidate does. -/
lemma lastUpTo_spec {p : ℕ → Bool} {n : ℕ} (h : ∃ i ≤ n, p i = true) :
    p (lastUpTo p n) = true := by
  induction n with
  | zero =>
      obtain ⟨i, hi, hp⟩ := h
      obtain rfl : i = 0 := Nat.le_zero.mp hi
      simpa [lastUpTo] using hp
  | succ n ih =>
      unfold lastUpTo
      split
      · assumption
      · rename_i hn
        obtain ⟨i, hi, hp⟩ := h
        have hne : i ≠ n + 1 := by
          rintro rfl
          exact hn hp
        exact ih ⟨i, by omega, hp⟩

/-- A positive answer always satisfies the predicate. -/
lemma lastUpTo_of_pos {p : ℕ → Bool} {n : ℕ} (h : 0 < lastUpTo p n) :
    p (lastUpTo p n) = true := by
  induction n with
  | zero => simp [lastUpTo] at h
  | succ n ih =>
      unfold lastUpTo at h ⊢
      split
      · assumption
      · rename_i hn
        rw [if_neg hn] at h
        exact ih h

lemma firstUpTo_eq_some_iff {p : ℕ → Bool} {n i : ℕ} :
    firstUpTo p n = some i ↔ i ≤ n ∧ p i = true ∧ ∀ j < i, p j = false := by
  simp only [firstUpTo, List.find?_range_eq_some, List.mem_range, Nat.lt_succ_iff,
    Bool.not_eq_true']
  tauto

lemma firstUpTo_eq_none_iff {p : ℕ → Bool} {n : ℕ} :
    firstUpTo p n = none ↔ ∀ i ≤ n, p i = false := by
  simp only [firstUpTo, List.find?_eq_none, List.mem_range, Nat.lt_succ_iff,
    Bool.not_eq_true]

lemma exists_firstUpTo {p : ℕ → Bool} {n i : ℕ} (hi : i ≤ n) (hp : p i = true) :
    ∃ k, firstUpTo p n = some k := by
  cases h : firstUpTo p n with
  | some k => exact ⟨k, rfl⟩
  | none =>
      rw [firstUpTo_eq_none_iff] at h
      exact absurd hp (by simp [h i hi])

end Scan
