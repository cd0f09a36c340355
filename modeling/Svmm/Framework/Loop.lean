import Mathlib.Tactic.Common
import Mathlib.Order.Basic

/-!
# Loops over an index

A loop `for (i = 0; i < n; i++)` is a fold over `List.range n`.  When every turn changes a cell of
its own, what is in a cell after the loop is told by the one turn that owns it: a cell that no turn
changes is kept, a cell that one turn changes holds what that turn makes of it, and a cell that a
turn sets, whatever it held, holds that when no later turn changes it.
-/

namespace Loop

variable {σ β : Type*} {f : σ → ℕ → σ} {n : ℕ} {s : σ}

lemma foldl_range_succ (f : σ → ℕ → σ) (n : ℕ) (s : σ) :
    (List.range (n + 1)).foldl f s = f ((List.range n).foldl f s) n := by
  rw [List.range_succ, List.foldl_append, List.foldl_cons, List.foldl_nil]

/-- What no turn changes is kept. -/
lemma foldl_range_keep (get : σ → β) (h : ∀ i < n, ∀ s, get (f s i) = get s) :
    get ((List.range n).foldl f s) = get s := by
  induction n with
  | zero => rfl
  | succ n ih =>
      rw [foldl_range_succ, h n (Nat.lt_succ_self n)]
      exact ih fun i hi => h i (Nat.lt_succ_of_lt hi)

/-- What one turn sets, and no later one changes. -/
lemma foldl_range_last (get : σ → β) {i : ℕ} {b : β} (hi : i < n) (hset : ∀ s, get (f s i) = b)
    (hkeep : ∀ j < n, i < j → ∀ s, get (f s j) = get s) :
    get ((List.range n).foldl f s) = b := by
  induction n with
  | zero => exact absurd hi (Nat.not_lt_zero i)
  | succ n ih =>
      rw [foldl_range_succ]
      rcases Nat.lt_succ_iff_lt_or_eq.mp hi with hlt | rfl
      · rw [hkeep n (Nat.lt_succ_self n) hlt]
        exact ih hlt fun j hj => hkeep j (Nat.lt_succ_of_lt hj)
      · exact hset _

/-- What one turn changes, and no other one. -/
lemma foldl_range_once (get : σ → β) (g : β → β) {i : ℕ} (hi : i < n)
    (hset : ∀ s, get (f s i) = g (get s))
    (hkeep : ∀ j < n, j ≠ i → ∀ s, get (f s j) = get s) :
    get ((List.range n).foldl f s) = g (get s) := by
  induction n with
  | zero => exact absurd hi (Nat.not_lt_zero i)
  | succ n ih =>
      rw [foldl_range_succ]
      rcases Nat.lt_succ_iff_lt_or_eq.mp hi with hlt | rfl
      · rw [hkeep n (Nat.lt_succ_self n) (Nat.ne_of_gt hlt)]
        exact ih hlt fun j hj => hkeep j (Nat.lt_succ_of_lt hj)
      · rw [hset, foldl_range_keep get fun j hj => hkeep j (Nat.lt_succ_of_lt hj) (Nat.ne_of_lt hj)]

/-- Loops whose turns do the same in the states that the first one goes through end in the same. -/
lemma foldl_range_congr {g : σ → ℕ → σ}
    (h : ∀ i < n, f ((List.range i).foldl f s) i = g ((List.range i).foldl f s) i) :
    (List.range n).foldl f s = (List.range n).foldl g s := by
  induction n with
  | zero => rfl
  | succ n ih =>
      rw [foldl_range_succ, foldl_range_succ, h n (Nat.lt_succ_self n),
        ih fun i hi => h i (Nat.lt_succ_of_lt hi)]

end Loop
