import Svmm.Framework.Run

/-!
# Machines that answer

A machine whose steps give an answer, next to an abstract state that says what the answers should
be.  `Follows` is the run of the two side by side: no call stops the machine, and each answer is
right.  The rule is the usual one, with a condition on the steps: a relation that every step of the
condition keeps, and under which its answer is right, carries a whole run.
-/

namespace TransitionRun

variable {σ α ι ο ε : Type*} (step : σ → ι → Except ε (σ × ο)) (next : α → ι → α)
  (Answers : α → ι → ο → Prop)

/-- The machine without its answers. -/
def advance (s : σ) (i : ι) : Except ε σ := (step s i).map Prod.fst

/-- The machine goes through a list of inputs, and its answers are those of the abstract state. -/
def Follows : σ → α → List ι → Prop
  | _, _, [] => True
  | s, a, i :: is =>
      ∃ t o, step s i = .ok (t, o) ∧ Answers a i o ∧ Follows t (next a i) is

variable {step next Answers}

lemma advance_ok {s t : σ} {i : ι} {o : ο} (h : step s i = .ok (t, o)) :
    advance step s i = .ok t := by
  rw [advance, h]
  rfl

lemma Follows.of_simulation {R : σ → α → Prop} {P : σ → ι → Prop}
    (hstep : ∀ s a i, R s a → P s i →
      ∃ t o, step s i = .ok (t, o) ∧ Answers a i o ∧ R t (next a i))
    {s : σ} {a : α} {is : List ι} (h : R s a) (hP : Meets (advance step) P s is) :
    Follows step next Answers s a is := by
  induction is generalizing s a with
  | nil => trivial
  | cons i is ih =>
      obtain ⟨t, o, ht, ho, hR⟩ := hstep s a i h hP.1
      exact ⟨t, o, ht, ho, ih hR (hP.2 t (advance_ok ht))⟩

end TransitionRun
