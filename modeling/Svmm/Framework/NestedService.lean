import Mathlib.Order.Basic
import Mathlib.Data.Set.Insert
import Mathlib.Data.List.Pairwise

/-!
# Priority-nested service

A server accepts requests, takes one into service only when it outranks everything already
in service, and retires the one it took last.  That is what an interrupt controller is for:
the requests in service form a stack whose ranks strictly increase towards the top.

`Run` relates a log of events, latest first, to the server it leads to from the empty one.
Two functions of the log alone say what the discipline promises: `outstanding` lists what was
taken into service and not yet retired, and `AcceptedSinceServe` says that a request was
accepted after it was last taken.  `Run.serving_eq` and `Run.requested_iff` identify the state
of the server with them.
-/

namespace NestedService

variable {α : Type*}

/-- What a server does. -/
inductive Event (α : Type*) where
  | accept (a : α)
  | serve (a : α)
  | retire (a : α)
  deriving DecidableEq

/-- The requests waiting, and those in service, latest first. -/
structure Server (α : Type*) where
  requested : Set α
  serving : List α

/-- A server with nothing to do. -/
def Server.empty : Server α := ⟨∅, []⟩

/-- The discipline, for a ranking of the requests. -/
inductive Step (rank : α → ℕ) : Server α → Event α → Server α → Prop where
  | accept {s : Server α} {a : α} (ha : a ∉ s.requested) :
      Step rank s (.accept a) ⟨insert a s.requested, s.serving⟩
  | serve {s : Server α} {a : α} (ha : a ∈ s.requested)
      (habove : ∀ b ∈ s.serving, rank b < rank a) :
      Step rank s (.serve a) ⟨s.requested \ {a}, a :: s.serving⟩
  | retire {s : Server α} {a : α} {rest : List α} (ha : s.serving = a :: rest) :
      Step rank s (.retire a) ⟨s.requested, rest⟩

/-- The servers a log leads to, the latest event at its head. -/
inductive Run (rank : α → ℕ) : List (Event α) → Server α → Prop where
  | nil : Run rank [] Server.empty
  | cons {log : List (Event α)} {s t : Server α} {e : Event α}
      (hrun : Run rank log s) (hstep : Step rank s e t) : Run rank (e :: log) t

section Log

variable [DecidableEq α]

/-- What a log took into service and did not retire, latest first. -/
def outstanding : List (Event α) → List α
  | [] => []
  | .accept _ :: log => outstanding log
  | .serve a :: log => a :: outstanding log
  | .retire a :: log => (outstanding log).erase a

end Log

/-- The log accepted `a` after the last time it took `a` into service. -/
def AcceptedSinceServe (a : α) : List (Event α) → Prop
  | [] => False
  | .accept b :: log => b = a ∨ AcceptedSinceServe a log
  | .serve b :: log => b ≠ a ∧ AcceptedSinceServe a log
  | .retire _ :: log => AcceptedSinceServe a log

variable {rank : α → ℕ} {log : List (Event α)} {s : Server α}

/-- The ranks in service strictly increase towards the top of the stack. -/
lemma Run.pairwise (h : Run rank log s) :
    s.serving.Pairwise fun a b => rank b < rank a := by
  induction h with
  | nil => exact List.Pairwise.nil
  | cons _ hstep ih =>
      cases hstep with
      | accept ha => exact ih
      | serve ha habove => exact List.pairwise_cons.mpr ⟨habove, ih⟩
      | retire ha =>
          rw [ha] at ih
          exact (List.pairwise_cons.mp ih).2

/-- The stack is what the log took and did not retire. -/
lemma Run.serving_eq [DecidableEq α] (h : Run rank log s) : s.serving = outstanding log := by
  induction h with
  | nil => rfl
  | cons _ hstep ih =>
      cases hstep with
      | accept ha => exact ih
      | serve ha habove => simp [outstanding, ih]
      | retire ha =>
          rw [ha] at ih
          simp [outstanding, ← ih]

/-- A request waits exactly when it was accepted since it was last taken. -/
lemma Run.requested_iff (h : Run rank log s) (a : α) :
    a ∈ s.requested ↔ AcceptedSinceServe a log := by
  induction h with
  | nil => simp [Server.empty, AcceptedSinceServe]
  | cons _ hstep ih =>
      cases hstep with
      | accept hb => simp [AcceptedSinceServe, ih, eq_comm]
      | serve hb habove => simp [AcceptedSinceServe, ih, and_comm, eq_comm]
      | retire hb => exact ih

/-- Two members of the stack with the same rank are the same. -/
lemma Run.eq_of_rank_eq (h : Run rank log s) {a b : α} (ha : a ∈ s.serving)
    (hb : b ∈ s.serving) (hab : rank a = rank b) : a = b := by
  have hpair := h.pairwise
  generalize s.serving = l at ha hb hpair
  induction l with
  | nil => simp at ha
  | cons c l ih =>
      obtain ⟨habove, hpair⟩ := List.pairwise_cons.mp hpair
      rcases List.mem_cons.mp ha with rfl | hal
      · rcases List.mem_cons.mp hb with rfl | hbl
        · rfl
        · have := habove b hbl
          omega
      · rcases List.mem_cons.mp hb with rfl | hbl
        · have := habove a hal
          omega
        · exact ih hal hbl hpair

/-- A member of the stack that nothing in it outranks is the one taken last. -/
lemma Run.top_of_rank_le (h : Run rank log s) {a : α} (ha : a ∈ s.serving)
    (hmax : ∀ b ∈ s.serving, rank b ≤ rank a) : ∃ rest, s.serving = a :: rest := by
  have hpair := h.pairwise
  generalize s.serving = l at ha hmax hpair
  cases l with
  | nil => simp at ha
  | cons c l =>
      obtain ⟨habove, -⟩ := List.pairwise_cons.mp hpair
      rcases List.mem_cons.mp ha with rfl | hmem
      · exact ⟨l, rfl⟩
      · have hlt := habove a hmem
        have hle := hmax c List.mem_cons_self
        omega

/-- Nothing appears twice in the stack. -/
lemma Run.not_mem_of_top (h : Run rank log s) {a : α} {rest : List α}
    (htop : s.serving = a :: rest) : a ∉ rest := by
  intro hmem
  have hpair := h.pairwise
  rw [htop] at hpair
  have := (List.pairwise_cons.mp hpair).1 a hmem
  omega

end NestedService
