import Mathlib.Tactic.Common
import Mathlib.Order.Basic

/-!
# Runs of a partial, input-driven machine

A machine takes an input and either moves to a next state or stops for good.  A run feeds it
a list of inputs; it has a final state only when no input stopped it.  `Meets step P s as`
says that every step of the run of `as` from `s` meets `P` at the state it starts from: it is
used both for what a run is allowed to do and for what each of its steps then achieves.
`run_invariant` and `Meets.of_invariant` are the two inductions over runs.
-/

namespace TransitionRun

universe u v

/-- `x >>= f` succeeds exactly when both halves do. -/
lemma bind_eq_ok {ε : Type u} {α β : Type v} {x : Except ε α} {f : α → Except ε β} {b : β} :
    (x >>= f) = .ok b ↔ ∃ a, x = .ok a ∧ f a = .ok b := by
  cases x <;> simp [Bind.bind, Except.bind]

/-- `x >>= f` has a result exactly when `x` has one and `f` has one at it. -/
lemma exists_bind_eq_ok {ε : Type u} {α β : Type v} {x : Except ε α} {f : α → Except ε β} :
    (∃ b, (x >>= f) = .ok b) ↔ ∃ a, x = .ok a ∧ ∃ b, f a = .ok b := by
  simp only [bind_eq_ok]
  constructor
  · rintro ⟨b, a, ha, hb⟩
    exact ⟨a, ha, b, hb⟩
  · rintro ⟨a, ha, b, hb⟩
    exact ⟨b, a, ha, hb⟩

@[simp] lemma ok_bind {ε : Type u} {α β : Type v} (a : α) (f : α → Except ε β) :
    ((Except.ok a : Except ε α) >>= f) = f a := rfl

lemma foldlM_singleton {ε : Type u} {α : Type v} {β : Type v} (f : β → α → Except ε β) (b : β)
    (a : α) : [a].foldlM f b = f b a := by
  rw [List.foldlM_cons]
  cases f b a <;> rfl

/-- A fold whose items do not touch each other's conditions goes through exactly when every item
meets its condition at the start. -/
lemma exists_foldlM_eq_ok {ε : Type u} {α : Type v} {β : Type v} {f : β → α → Except ε β}
    {I : β → Prop} {R : β → α → Prop} (hI : ∀ b a b', I b → f b a = .ok b' → I b')
    (hR : ∀ b a, I b → ((∃ t, f b a = .ok t) ↔ R b a))
    (hkeep : ∀ b a b' a', f b a = .ok b' → a' ≠ a → (R b' a' ↔ R b a')) {l : List α}
    (hl : l.Nodup) {b : β} (hb : I b) : (∃ t, l.foldlM f b = .ok t) ↔ ∀ a ∈ l, R b a := by
  induction l generalizing b with
  | nil => exact iff_of_true ⟨b, rfl⟩ (by simp)
  | cons a as ih =>
      obtain ⟨hnot, hnodup⟩ := List.nodup_cons.mp hl
      simp only [List.foldlM_cons, exists_bind_eq_ok, List.forall_mem_cons]
      constructor
      · rintro ⟨c, hc, hrest⟩
        refine ⟨(hR b a hb).mp ⟨c, hc⟩, fun a' ha' => ?_⟩
        have hne : a' ≠ a := fun h => hnot (h ▸ ha')
        exact (hkeep b a c a' hc hne).mp ((ih hnodup (hI b a c hb hc)).mp hrest a' ha')
      · rintro ⟨hhead, hrest⟩
        obtain ⟨c, hc⟩ := (hR b a hb).mpr hhead
        refine ⟨c, hc, (ih hnodup (hI b a c hb hc)).mpr fun a' ha' => ?_⟩
        have hne : a' ≠ a := fun h => hnot (h ▸ ha')
        exact (hkeep b a c a' hc hne).mpr (hrest a' ha')

variable {σ ι ε : Type*} (step : σ → ι → Except ε σ)

/-- Feed a list of inputs to the machine. -/
def run : σ → List ι → Except ε σ
  | s, [] => .ok s
  | s, a :: as => step s a >>= fun t => run t as

/-- Every step the run of a list takes meets `P` at the state it starts from. -/
def Meets (P : σ → ι → Prop) : σ → List ι → Prop
  | _, [] => True
  | s, a :: as => P s a ∧ ∀ t, step s a = .ok t → Meets P t as

/-- The result is a state with the property: how a concrete run is evaluated. -/
def ends (p : σ → Prop) [DecidablePred p] : Except ε σ → Bool
  | .ok s => decide (p s)
  | .error _ => false

lemma exists_of_ends (p : σ → Prop) [DecidablePred p] {r : Except ε σ}
    (h : ends p r = true) : ∃ s, r = .ok s ∧ p s := by
  cases r with
  | ok s => exact ⟨s, rfl, of_decide_eq_true h⟩
  | error e => cases h

/-- What holds of the result of a run that was not stopped. -/
lemma exists_of_completes {p : σ → Prop} {r : Except ε σ} (h : ends (fun _ => True) r = true)
    (hall : ∀ s, r = .ok s → p s) : ∃ s, r = .ok s ∧ p s := by
  obtain ⟨s, hs, -⟩ := exists_of_ends _ h
  exact ⟨s, hs, hall s hs⟩

variable {step}

@[simp] lemma run_nil (s : σ) : run step s [] = .ok s := rfl

lemma run_cons_ok {s t : σ} {a : ι} {as : List ι} :
    run step s (a :: as) = .ok t ↔ ∃ u, step s a = .ok u ∧ run step u as = .ok t := by
  simp only [run, bind_eq_ok]

lemma run_append_ok {s t : σ} {as bs : List ι} :
    run step s (as ++ bs) = .ok t ↔ ∃ u, run step s as = .ok u ∧ run step u bs = .ok t := by
  induction as generalizing s with
  | nil => simp
  | cons a as ih =>
      simp only [List.cons_append, run_cons_ok, ih]
      constructor
      · rintro ⟨v, hv, u, hu, ht⟩
        exact ⟨u, ⟨v, hv, hu⟩, ht⟩
      · rintro ⟨u, ⟨v, hv, hu⟩, ht⟩
        exact ⟨v, hv, u, hu, ht⟩

lemma run_append (s : σ) (as bs : List ι) :
    run step s (as ++ bs) = run step s as >>= fun t => run step t bs := by
  induction as generalizing s with
  | nil => rfl
  | cons a as ih =>
      rw [List.cons_append, run, run]
      cases step s a with
      | error e => rfl
      | ok u => exact ih u

/-- `Meets`, computed along the run. -/
def meetsBool (step : σ → ι → Except ε σ) (P : σ → ι → Prop) [∀ s a, Decidable (P s a)] :
    σ → List ι → Bool
  | _, [] => true
  | s, a :: as =>
      decide (P s a) &&
        match step s a with
        | .ok t => meetsBool step P t as
        | .error _ => true

lemma meetsBool_iff {P : σ → ι → Prop} [∀ s a, Decidable (P s a)] {s : σ} {as : List ι} :
    meetsBool step P s as = true ↔ Meets step P s as := by
  induction as generalizing s with
  | nil => simp [meetsBool, Meets]
  | cons a as ih =>
      simp only [meetsBool, Meets, Bool.and_eq_true, decide_eq_true_eq]
      refine and_congr_right fun _ => ?_
      cases h : step s a with
      | ok t => simp [ih]
      | error e => simp

instance (P : σ → ι → Prop) [∀ s a, Decidable (P s a)] (s : σ) (as : List ι) :
    Decidable (Meets step P s as) :=
  decidable_of_iff _ meetsBool_iff

lemma Meets.always (s : σ) (as : List ι) : Meets step (fun _ _ => True) s as := by
  induction as generalizing s with
  | nil => trivial
  | cons a as ih => exact ⟨trivial, fun t _ => ih t⟩

/-- A condition on the inputs alone. -/
lemma Meets.of_forall {p : ι → Prop} {s : σ} {as : List ι} (h : ∀ a ∈ as, p a) :
    Meets step (fun _ a => p a) s as := by
  induction as generalizing s with
  | nil => trivial
  | cons a as ih =>
      obtain ⟨hhead, htail⟩ := List.forall_mem_cons.mp h
      exact ⟨hhead, fun t _ => ih htail⟩

lemma Meets.congr {P Q : σ → ι → Prop} (h : ∀ s a, P s a ↔ Q s a) {s : σ} {as : List ι} :
    Meets step P s as ↔ Meets step Q s as := by
  induction as generalizing s with
  | nil => exact Iff.rfl
  | cons a as ih =>
      exact and_congr (h s a) (forall_congr' fun t => imp_congr_right fun _ => ih)

/-- On a run that was not stopped, conditions that agree on the steps that succeed agree. -/
lemma Meets.congr_of_run {P Q : σ → ι → Prop}
    (h : ∀ s a t, step s a = .ok t → (P s a ↔ Q s a)) {s t : σ} {as : List ι}
    (hrun : run step s as = .ok t) : Meets step P s as ↔ Meets step Q s as := by
  induction as generalizing s with
  | nil => exact Iff.rfl
  | cons a as ih =>
      obtain ⟨u, hu, hrun⟩ := run_cons_ok.mp hrun
      refine and_congr (h s a u hu) (forall_congr' fun v => imp_congr_right fun hv => ?_)
      obtain rfl : u = v := Except.ok.inj (hu.symm.trans hv)
      exact ih hrun

/-- A step after the first ones meets the condition at the state that they end in. -/
lemma Meets.after {P : σ → ι → Prop} {s t : σ} {as bs : List ι} {a : ι}
    (h : Meets step P s (as ++ a :: bs)) (hrun : run step s as = .ok t) : P t a := by
  induction as generalizing s with
  | nil =>
      obtain rfl : s = t := by simpa using hrun
      exact h.1
  | cons b as ih =>
      obtain ⟨u, hu, hrun⟩ := run_cons_ok.mp hrun
      exact ih (h.2 u hu) hrun

lemma Meets.and {P Q : σ → ι → Prop} {s : σ} {as : List ι} (hP : Meets step P s as)
    (hQ : Meets step Q s as) : Meets step (fun s a => P s a ∧ Q s a) s as := by
  induction as generalizing s with
  | nil => trivial
  | cons a as ih => exact ⟨⟨hP.1, hQ.1⟩, fun t ht => ih (hP.2 t ht) (hQ.2 t ht)⟩

/-- An invariant that each allowed step keeps holds at the end of every allowed run. -/
lemma run_invariant {I : σ → Prop} {P : σ → ι → Prop}
    (hstep : ∀ s a t, I s → P s a → step s a = .ok t → I t)
    {s t : σ} {as : List ι} (hs : I s) (hP : Meets step P s as)
    (hrun : run step s as = .ok t) : I t := by
  induction as generalizing s with
  | nil =>
      obtain rfl : s = t := by simpa using hrun
      exact hs
  | cons a as ih =>
      obtain ⟨u, hu, hrun⟩ := run_cons_ok.mp hrun
      exact ih (hstep s a u hs hP.1 hu) (hP.2 u hu) hrun

/-- What every allowed step achieves from a state of the invariant, every step of an allowed
run achieves. -/
lemma Meets.of_invariant {I : σ → Prop} {P Q : σ → ι → Prop}
    (hstep : ∀ s a t, I s → P s a → step s a = .ok t → I t)
    (hQ : ∀ s a, I s → P s a → Q s a)
    {s : σ} {as : List ι} (hs : I s) (hP : Meets step P s as) : Meets step Q s as := by
  induction as generalizing s with
  | nil => trivial
  | cons a as ih =>
      exact ⟨hQ s a hs hP.1, fun t ht => ih (hstep s a t hs hP.1 ht) (hP.2 t ht)⟩

/-- Conditions that agree in the states of an invariant agree along every run from one. -/
lemma Meets.congr_of_invariant {I : σ → Prop} {P Q : σ → ι → Prop}
    (hstep : ∀ s a t, I s → step s a = .ok t → I t) (h : ∀ s a, I s → (P s a ↔ Q s a))
    {s : σ} {as : List ι} (hs : I s) : Meets step P s as ↔ Meets step Q s as := by
  induction as generalizing s with
  | nil => exact Iff.rfl
  | cons a as ih =>
      refine and_congr (h s a hs) (forall_congr' fun t => imp_congr_right fun ht => ?_)
      exact ih (hstep s a t hs ht)

/-- Where a step from a state of the invariant ends in one exactly under a condition, the states of
a run are all in the invariant exactly when its steps all meet the condition. -/
lemma Meets.iff_of_exact {I : σ → Prop} {P : σ → ι → Prop}
    (hstep : ∀ s a t, I s → step s a = .ok t → (I t ↔ P s a))
    {s t : σ} {as : List ι} (hs : I s) (hrun : run step s as = .ok t) :
    Meets step (fun s a => ∀ t, step s a = .ok t → I t) s as ↔ Meets step P s as := by
  induction as generalizing s with
  | nil => exact Iff.rfl
  | cons a as ih =>
      obtain ⟨u, hu, hrun⟩ := run_cons_ok.mp hrun
      constructor
      · rintro ⟨hhead, htail⟩
        have hI := hhead u hu
        refine ⟨(hstep s a u hs hu).mp hI, fun v hv => ?_⟩
        obtain rfl : u = v := Except.ok.inj (hu.symm.trans hv)
        exact (ih hI hrun).mp (htail u hu)
      · rintro ⟨hhead, htail⟩
        have hI := (hstep s a u hs hu).mpr hhead
        refine ⟨fun v hv => ?_, fun v hv => ?_⟩
        · obtain rfl : u = v := Except.ok.inj (hu.symm.trans hv)
          exact hI
        · obtain rfl : u = v := Except.ok.inj (hu.symm.trans hv)
          exact (ih hI hrun).mpr (htail u hu)

/-- `Meets.iff_of_exact`, with an invariant that every step keeps and for runs that may be stopped
by a step that meets the condition. -/
lemma Meets.iff_of_exact_within {I J : σ → Prop} {P : σ → ι → Prop}
    (hkeep : ∀ s a t, J s → step s a = .ok t → J t)
    (hstep : ∀ s a t, J s → I s → step s a = .ok t → (I t ↔ P s a))
    (hstop : ∀ s a, J s → (∀ t, step s a ≠ .ok t) → P s a)
    {s : σ} {as : List ι} (hJ : J s) (hI : I s) :
    Meets step (fun s a => ∀ t, step s a = .ok t → I t) s as ↔ Meets step P s as := by
  induction as generalizing s with
  | nil => exact Iff.rfl
  | cons a as ih =>
      have hhead : (∀ t, step s a = .ok t → I t) ↔ P s a := by
        cases hs : step s a with
        | error e =>
            refine iff_of_true (fun t ht => nomatch ht) (hstop s a hJ fun t ht => ?_)
            cases hs.symm.trans ht
        | ok t =>
            rw [← hstep s a t hJ hI hs]
            constructor
            · exact fun h => h t rfl
            · intro h u hu
              exact Except.ok.inj hu ▸ h
      constructor
      · rintro ⟨hfirst, hrest⟩
        refine ⟨hhead.mp hfirst, fun t ht => ?_⟩
        exact (ih (hkeep s a t hJ ht) (hfirst t ht)).mp (hrest t ht)
      · rintro ⟨hfirst, hrest⟩
        have hnext := hhead.mpr hfirst
        refine ⟨hnext, fun t ht => ?_⟩
        exact (ih (hkeep s a t hJ ht) (hnext t ht)).mpr (hrest t ht)

/-- A property that a step adds exactly its own condition to holds at the end of a run exactly
when it held at the start and every step met the condition: how a log is judged. -/
lemma Meets.iff_of_step {L : σ → Prop} {P : σ → ι → Prop}
    (hstep : ∀ s a t, step s a = .ok t → (L t ↔ L s ∧ P s a))
    {s t : σ} {as : List ι} (hrun : run step s as = .ok t) :
    L t ↔ L s ∧ Meets step P s as := by
  induction as generalizing s with
  | nil =>
      obtain rfl : s = t := by simpa using hrun
      simp [Meets]
  | cons a as ih =>
      obtain ⟨u, hu, hrun⟩ := run_cons_ok.mp hrun
      have hrest : Meets step P s (a :: as) ↔ P s a ∧ Meets step P u as := by
        refine and_congr_right fun _ => ⟨fun h => h u hu, fun h v hv => ?_⟩
        obtain rfl : u = v := Except.ok.inj (hu.symm.trans hv)
        exact h
      rw [ih hrun, hstep s a u hu, hrest, and_assoc]

/-! ## What a run has come by -/

/-- Some step the run of a list takes meets `P` at the state it starts from. -/
def Occurs (step : σ → ι → Except ε σ) (P : σ → ι → Prop) : σ → List ι → Prop
  | _, [] => False
  | s, a :: as => P s a ∨ ∃ t, step s a = .ok t ∧ Occurs step P t as

lemma occurs_iff_not_meets {P : σ → ι → Prop} {s : σ} {as : List ι} :
    Occurs step P s as ↔ ¬ Meets step (fun s a => ¬ P s a) s as := by
  induction as generalizing s with
  | nil => exact iff_of_false id (not_not_intro trivial)
  | cons a as ih =>
      simp only [Occurs, Meets, not_and_or, not_not, not_forall, ih, exists_prop]

instance (P : σ → ι → Prop) [∀ s a, Decidable (P s a)] (s : σ) (as : List ι) :
    Decidable (Occurs step P s as) :=
  decidable_of_iff _ occurs_iff_not_meets.symm

lemma Occurs.mono {P Q : σ → ι → Prop} (h : ∀ s a, P s a → Q s a) {s : σ} {as : List ι}
    (hP : Occurs step P s as) : Occurs step Q s as := by
  induction as generalizing s with
  | nil => exact hP
  | cons a as ih =>
      rcases hP with hP | ⟨t, ht, hP⟩
      · exact .inl (h s a hP)
      · exact .inr ⟨t, ht, ih hP⟩

lemma Occurs.exists_iff {κ : Type*} {P : κ → σ → ι → Prop} {s : σ} {as : List ι} :
    Occurs step (fun s a => ∃ k, P k s a) s as ↔ ∃ k, Occurs step (P k) s as := by
  constructor
  · intro h
    induction as generalizing s with
    | nil => exact h.elim
    | cons a as ih =>
        rcases h with ⟨k, hk⟩ | ⟨t, ht, h⟩
        · exact ⟨k, .inl hk⟩
        · obtain ⟨k, hk⟩ := ih h
          exact ⟨k, .inr ⟨t, ht, hk⟩⟩
  · rintro ⟨k, h⟩
    exact h.mono fun s a hP => ⟨k, hP⟩

/-- Every step of a run is one that the run takes. -/
lemma Meets.of_occurs {Q : σ → ι → Prop} {s : σ} {as : List ι}
    (h : ∀ s' a, (∀ P : σ → ι → Prop, P s' a → Occurs step P s as) → Q s' a) :
    Meets step Q s as := by
  suffices hsuffix : ∀ (bs : List ι) (u : σ),
      (∀ P : σ → ι → Prop, Occurs step P u bs → Occurs step P s as) → Meets step Q u bs from
    hsuffix as s fun _ hP => hP
  intro bs
  induction bs with
  | nil => exact fun _ _ => trivial
  | cons b bs ih =>
      intro u hu
      refine ⟨h u b fun P hP => hu P (.inl hP), fun v hv => ih v fun P hP => ?_⟩
      exact hu P (.inr ⟨v, hv, hP⟩)

/-- A property that an allowed step meeting a condition brings about, and that is otherwise as it
was, holds at the end of an allowed run exactly when it held at the start or some step met the
condition. -/
lemma Occurs.iff_of_latch_within {I J : σ → Prop} {P A : σ → ι → Prop}
    (hkeep : ∀ s a t, J s → A s a → step s a = .ok t → J t)
    (hstep : ∀ s a t, J s → A s a → step s a = .ok t → (I t ↔ I s ∨ P s a))
    {s t : σ} {as : List ι} (hJ : J s) (hA : Meets step A s as) (hrun : run step s as = .ok t) :
    I t ↔ I s ∨ Occurs step P s as := by
  induction as generalizing s with
  | nil =>
      obtain rfl : s = t := by simpa using hrun
      exact (or_iff_left id).symm
  | cons a as ih =>
      obtain ⟨u, hu, hrun⟩ := run_cons_ok.mp hrun
      have hrest := ih (hkeep s a u hJ hA.1 hu) (hA.2 u hu) hrun
      have hocc : Occurs step P s (a :: as) ↔ P s a ∨ Occurs step P u as := by
        refine or_congr_right ⟨?_, fun h => ⟨u, hu, h⟩⟩
        rintro ⟨v, hv, h⟩
        obtain rfl : u = v := Except.ok.inj (hu.symm.trans hv)
        exact h
      rw [hrest, hstep s a u hJ hA.1 hu, hocc, or_assoc]

/-- `Occurs.iff_of_latch_within` over every run. -/
lemma Occurs.iff_of_latch {I : σ → Prop} {P : σ → ι → Prop}
    (hstep : ∀ s a t, step s a = .ok t → (I t ↔ I s ∨ P s a))
    {s t : σ} {as : List ι} (hrun : run step s as = .ok t) : I t ↔ I s ∨ Occurs step P s as :=
  Occurs.iff_of_latch_within (J := fun _ => True) (fun _ _ _ _ _ _ => trivial)
    (fun s a t _ _ ht => hstep s a t ht) trivial (Meets.always s as) hrun

/-- What a step meeting a condition brings about, and every step keeps, holds at the end of a run
in which some step met the condition. -/
lemma Occurs.brings_about {I : σ → Prop} {P : σ → ι → Prop}
    (hnew : ∀ s a t, P s a → step s a = .ok t → I t)
    (hkeep : ∀ s a t, I s → step s a = .ok t → I t)
    {s t : σ} {as : List ι} (hocc : Occurs step P s as) (hrun : run step s as = .ok t) : I t := by
  induction as generalizing s with
  | nil => exact hocc.elim
  | cons a as ih =>
      obtain ⟨u, hu, hrun⟩ := run_cons_ok.mp hrun
      rcases hocc with hP | ⟨v, hv, hocc⟩
      · exact run_invariant (fun s a t hs _ ht => hkeep s a t hs ht) (hnew s a u hP hu)
          (Meets.always u as) hrun
      · obtain rfl : u = v := Except.ok.inj (hu.symm.trans hv)
        exact ih hocc hrun

/-- A value that some steps clear, and no other step of an allowed run changes. -/
lemma Occurs.value_of_clears {α : Type*} {f : σ → α} {z : α} {P C : σ → ι → Prop}
    (hclear : ∀ s a t, P s a → C s a → step s a = .ok t → f t = z)
    (hkeep : ∀ s a t, P s a → ¬ C s a → step s a = .ok t → f t = f s)
    {s t : σ} {as : List ι} (hP : Meets step P s as) (hrun : run step s as = .ok t) :
    (Occurs step C s as → f t = z) ∧ (¬ Occurs step C s as → f t = f s) := by
  -- a value that is cleared stays so, whether or not it is cleared again
  have hstays : ∀ {as : List ι} {s : σ}, Meets step P s as → run step s as = .ok t →
      f s = z → f t = z := by
    intro as s hP hrun hs
    refine run_invariant (I := fun s => f s = z) (fun s a t hs hP ht => ?_) hs hP hrun
    by_cases hC : C s a
    · exact hclear s a t hP hC ht
    · exact (hkeep s a t hP hC ht).trans hs
  induction as generalizing s with
  | nil =>
      obtain rfl : s = t := by simpa using hrun
      exact ⟨False.elim, fun _ => rfl⟩
  | cons a as ih =>
      obtain ⟨u, hu, hrun⟩ := run_cons_ok.mp hrun
      have hrest := ih (hP.2 u hu) hrun
      constructor
      · rintro (hC | ⟨v, hv, hocc⟩)
        · exact hstays (hP.2 u hu) hrun (hclear s a u hP.1 hC hu)
        · obtain rfl : u = v := Except.ok.inj (hu.symm.trans hv)
          exact hrest.1 hocc
      · intro hnone
        have hC : ¬ C s a := fun hC => hnone (.inl hC)
        exact (hrest.2 fun hocc => hnone (.inr ⟨u, hu, hocc⟩)).trans (hkeep s a u hP.1 hC hu)

end TransitionRun
