import Svmm.Framework.Run

/-!
# Machines that keep an account

A machine can be given an account beside its state, which is brought up to date at every step and
never stops one.  What such a machine does is what the machine alone does; so a condition on the
states of a run may be put as one on the account, where an invariant ties the two together.  An
account of the inputs alone needs no state beside it.
-/

namespace TransitionRun

variable {σ γ ι ε : Type*} {step : σ → ι → Except ε σ}
  {step' : σ × γ → ι → Except ε (σ × γ)}

/-- The second machine is the first with an account beside its state. -/
structure Carries (step : σ → ι → Except ε σ) (step' : σ × γ → ι → Except ε (σ × γ)) : Prop where
  state : ∀ {s g a t g'}, step' (s, g) a = .ok (t, g') → step s a = .ok t
  account : ∀ {s g a t}, step s a = .ok t → ∃ g', step' (s, g) a = .ok (t, g')

namespace Carries

variable {s t : σ} {g g' : γ} {as : List ι}

lemma run_state (h : Carries step step') (hrun : run step' (s, g) as = .ok (t, g')) :
    run step s as = .ok t := by
  induction as generalizing s g with
  | nil =>
      obtain ⟨rfl, -⟩ := Prod.mk.inj (Except.ok.inj hrun)
      rfl
  | cons a as ih =>
      obtain ⟨⟨u, k⟩, hu, hrest⟩ := run_cons_ok.mp hrun
      exact run_cons_ok.mpr ⟨u, h.state hu, ih hrest⟩

lemma run_account (h : Carries step step') (g : γ) (hrun : run step s as = .ok t) :
    ∃ g', run step' (s, g) as = .ok (t, g') := by
  induction as generalizing s g with
  | nil =>
      obtain rfl := Except.ok.inj hrun
      exact ⟨g, rfl⟩
  | cons a as ih =>
      obtain ⟨u, hu, hrest⟩ := run_cons_ok.mp hrun
      obtain ⟨k, hk⟩ := h.account (g := g) hu
      obtain ⟨g', hg'⟩ := ih k hrest
      exact ⟨g', run_cons_ok.mpr ⟨(u, k), hk, hg'⟩⟩

/-- Conditions that agree where an account is in order agree along the runs of the two machines. -/
lemma meets_iff (h : Carries step step') {R : σ → γ → Prop} {P : σ → ι → Prop}
    {Q : σ × γ → ι → Prop} (hR : ∀ {s g a t g'}, R s g → step' (s, g) a = .ok (t, g') → R t g')
    (hPQ : ∀ {s g a}, R s g → (P s a ↔ Q (s, g) a)) (hs : R s g) :
    Meets step P s as ↔ Meets step' Q (s, g) as := by
  induction as generalizing s g with
  | nil => exact Iff.rfl
  | cons a as ih =>
      refine and_congr (hPQ hs) ⟨fun hrest => ?_, fun hrest t ht => ?_⟩
      · rintro ⟨t, k⟩ ht
        exact (ih (hR hs ht)).mp (hrest t (h.state ht))
      · obtain ⟨k, hk⟩ := h.account (g := g) ht
        exact (ih (hR hs hk)).mpr (hrest (t, k) hk)

/-- An account that every step keeps in order is in order after a run. -/
lemma run_keeps {R : σ → γ → Prop}
    (hR : ∀ {s g a t g'}, R s g → step' (s, g) a = .ok (t, g') → R t g') (hs : R s g)
    (hrun : run step' (s, g) as = .ok (t, g')) : R t g' :=
  run_invariant (I := fun p : σ × γ => R p.1 p.2) (P := fun _ _ => True)
    (fun _ _ _ hp _ hu => hR hp hu) hs (Meets.always _ _) hrun

end Carries

/-- A machine goes through a run exactly when an account that is kept from the inputs alone allows
each of them. -/
lemma completes_iff_meets {R : σ → γ → Prop} {Q : γ → ι → Prop} {next : γ → ι → γ} {s : σ} {g : γ}
    {as : List ι} (hok : ∀ {s g a}, R s g → ((∃ t, step s a = .ok t) ↔ Q g a))
    (hR : ∀ {s g a t}, R s g → step s a = .ok t → R t (next g a)) (hs : R s g) :
    (∃ t, run step s as = .ok t) ↔
      Meets (fun g a => (.ok (next g a) : Except ε γ)) Q g as := by
  induction as generalizing s g with
  | nil => exact iff_of_true ⟨s, rfl⟩ trivial
  | cons a as ih =>
      constructor
      · rintro ⟨u, hu⟩
        obtain ⟨t, ht, hrest⟩ := run_cons_ok.mp hu
        refine ⟨(hok hs).mp ⟨t, ht⟩, fun k hk => ?_⟩
        rw [← Except.ok.inj hk]
        exact (ih (hR hs ht)).mp ⟨u, hrest⟩
      · rintro ⟨hallowed, hrest⟩
        obtain ⟨t, ht⟩ := (hok hs).mpr hallowed
        obtain ⟨u, hu⟩ := (ih (hR hs ht)).mpr (hrest _ rfl)
        exact ⟨u, run_cons_ok.mpr ⟨t, ht, hu⟩⟩

end TransitionRun
