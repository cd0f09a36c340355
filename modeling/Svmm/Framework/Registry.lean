import Mathlib.Data.Set.Basic
import Mathlib.Logic.Function.Basic

/-!
# Registries

A registry says who owns a key.  `moved` is what a registry becomes when an owner gives up some keys
and takes others, one at a time and in any order: `remove_moved` and `register_moved` are the two
steps, and `owned_moved` and `other_moved` say who owns what at the end.
-/

namespace Registry

variable {κ ο : Type*} [DecidableEq κ] (t : κ → Option ο) (o : ο) (olds news : List κ)

/-- The registry after an owner has given up the keys of one list and taken those of the other. -/
def moved (k : κ) : Option ο := if k ∈ news then some o else if k ∈ olds then none else t k

variable {t o olds news}

@[simp] lemma moved_nil : moved t o [] [] = t := by
  funext k
  simp [moved]

lemma moved_congr {olds' : List κ} (h : ∀ k, k ∈ olds ↔ k ∈ olds') :
    moved t o olds news = moved t o olds' news := by
  funext k
  simp only [moved, h k]

lemma remove_moved {k : κ} (h : k ∉ news) :
    Function.update (moved t o olds news) k none = moved t o (olds ++ [k]) news := by
  funext x
  by_cases hx : x = k
  · subst hx
    rw [Function.update_self, moved, if_neg h, if_pos (by simp)]
  · simp [moved, hx]

/-- One key is given up. -/
lemma update_none (k : κ) : Function.update t k none = moved t o [k] [] := by
  rw [← moved_nil (t := t) (o := o), remove_moved (List.not_mem_nil), List.nil_append, moved_nil]

lemma register_moved (k : κ) :
    Function.update (moved t o olds news) k (some o) = moved t o olds (news ++ [k]) := by
  funext x
  by_cases hx : x = k
  · subst hx
    rw [Function.update_self, moved, if_pos (by simp)]
  · simp [moved, hx]

/-- The owner has the keys it took, if it gave up all it had. -/
lemma owned_moved (h : ∀ k, t k = some o → k ∈ olds) (k : κ) :
    moved t o olds news k = some o ↔ k ∈ news := by
  unfold moved
  by_cases hnew : k ∈ news
  · simp [hnew]
  · by_cases hold : k ∈ olds
    · simp [hnew, hold]
    · simp only [hnew, hold, if_false, iff_false]
      exact fun hk => hold (h k hk)

/-- Nobody else gains or loses a key, if the owner gave up its own and took free ones or its own. -/
lemma other_moved {o' : ο} (ho : o' ≠ o) (hold : ∀ k ∈ olds, t k = some o)
    (hnew : ∀ k ∈ news, t k = none ∨ t k = some o) (k : κ) :
    moved t o olds news k = some o' ↔ t k = some o' := by
  have hne : ¬ some o = some o' := fun h => ho (Option.some.inj h).symm
  unfold moved
  by_cases hk : k ∈ news
  · rw [if_pos hk]
    rcases hnew k hk with h | h <;> simp [h, ho.symm]
  · rw [if_neg hk]
    by_cases hk' : k ∈ olds
    · rw [if_pos hk', hold k hk']
      simp [ho.symm]
    · rw [if_neg hk']

end Registry
