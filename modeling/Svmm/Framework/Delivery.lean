import Mathlib.Algebra.GroupWithZero.Nat
import Svmm.Framework.Run

/-!
# Delivering a stream

A device that is read in pieces delivers a stream when the pieces, put together in the order in
which they were read, are a beginning of it.  A session is the device with what has been received
from it so far.  It is enough to know, for every position in the stream, what one read gives and
where it leads: `Follows` says that of a device, and `Delivering` is then kept by every run of
reads.
-/

namespace StreamDelivery

open TransitionRun

universe u

variable {σ α : Type u} {ι ε : Type*}

/-- A device and what has been received from it. -/
structure Session (σ α : Type u) where
  device : σ
  received : List α

/-- The first `p` elements of a stream. -/
def prefixOf (stream : ℕ → α) (p : ℕ) : List α := (List.range p).map stream

@[simp] lemma prefixOf_length (stream : ℕ → α) (p : ℕ) : (prefixOf stream p).length = p := by
  simp [prefixOf]

/-- A piece that starts where the prefix ends extends it. -/
lemma prefixOf_append (stream : ℕ → α) (p k : ℕ) :
    prefixOf stream p ++ (List.range k).map (fun j => stream (p + j)) =
      prefixOf stream (p + k) := by
  rw [prefixOf, prefixOf, List.range_add, List.map_append, List.map_map]
  rfl

lemma take_prefixOf (stream : ℕ → α) {p q : ℕ} (h : p ≤ q) :
    (prefixOf stream q).take p = prefixOf stream p := by
  rw [prefixOf, prefixOf, ← List.map_take, List.take_range, Nat.min_eq_left h]

/-- A read of the device, recorded in the session. -/
def sessionStep (read : σ → ι → Except ε (σ × List α)) (s : Session σ α) (i : ι) :
    Except ε (Session σ α) := do
  let (device, piece) ← read s.device i
  return { device := device, received := s.received ++ piece }

/-- From every position before the end a read gives the elements that come next; a device that is
done stays so. -/
structure Follows (read : σ → ι → Except ε (σ × List α)) (stream : ℕ → α) (total : ℕ)
    (At : ℕ → σ → Prop) (Done : σ → Prop) : Prop where
  read_at : ∀ p d i, At p d → ∃ d' k,
    read d i = .ok (d', (List.range k).map fun j => stream (p + j)) ∧
      (p + k < total ∧ At (p + k) d' ∨ p + k = total ∧ Done d')
  read_done : ∀ d i, Done d → ∃ d' piece, read d i = .ok (d', piece) ∧ Done d'

/-- What was received is a beginning of the stream and the device is at its end, or it is all of
the stream, with whatever a device that is done gives after it. -/
def Delivering (stream : ℕ → α) (total : ℕ) (At : ℕ → σ → Prop) (Done : σ → Prop)
    (s : Session σ α) : Prop :=
  (∃ p < total, At p s.device ∧ s.received = prefixOf stream p) ∨
    Done s.device ∧ ∃ rest, s.received = prefixOf stream total ++ rest

section Runs

variable {read : σ → ι → Except ε (σ × List α)} {stream : ℕ → α} {total : ℕ}
  {At : ℕ → σ → Prop} {Done : σ → Prop} {s t : Session σ α}

lemma Delivering.step (hfollows : Follows read stream total At Done)
    (h : Delivering stream total At Done s) (i : ι) :
    ∃ t, sessionStep read s i = .ok t ∧ Delivering stream total At Done t := by
  rcases h with ⟨p, -, hat, hreceived⟩ | ⟨hdone, rest, hreceived⟩
  · obtain ⟨d', k, hread, hnext⟩ := hfollows.read_at p s.device i hat
    refine ⟨{ device := d', received := prefixOf stream (p + k) }, ?_, ?_⟩
    · rw [sessionStep, hread, ok_bind, ← prefixOf_append, ← hreceived]
      rfl
    · rcases hnext with ⟨hlt, hat'⟩ | ⟨hend, hdone⟩
      · exact Or.inl ⟨p + k, hlt, hat', rfl⟩
      · refine Or.inr ⟨hdone, [], ?_⟩
        rw [List.append_nil, ← hend]
  · obtain ⟨d', piece, hread, hdone'⟩ := hfollows.read_done s.device i hdone
    refine ⟨{ device := d', received := s.received ++ piece }, ?_, ?_⟩
    · rw [sessionStep, hread, ok_bind]
      rfl
    · refine Or.inr ⟨hdone', rest ++ piece, ?_⟩
      rw [hreceived, List.append_assoc]

/-- A device that follows a stream is never stopped, and every run of reads delivers it. -/
lemma Delivering.run (hfollows : Follows read stream total At Done)
    (h : Delivering stream total At Done s) (reads : List ι) :
    ∃ t, TransitionRun.run (sessionStep read) s reads = .ok t ∧
      Delivering stream total At Done t := by
  induction reads generalizing s with
  | nil => exact ⟨s, rfl, h⟩
  | cons i reads ih =>
      obtain ⟨u, hstep, hu⟩ := h.step hfollows i
      obtain ⟨t, hrun, ht⟩ := ih hu
      exact ⟨t, run_cons_ok.mpr ⟨u, hstep, hrun⟩, ht⟩

/-- However much has been received, it agrees with the stream up to its end. -/
lemma Delivering.take_received (h : Delivering stream total At Done s) :
    s.received.take total = (prefixOf stream total).take s.received.length := by
  rcases h with ⟨p, hlt, -, hreceived⟩ | ⟨-, rest, hreceived⟩
  · have hlength : s.received.length = p := by rw [hreceived, prefixOf_length]
    rw [List.take_of_length_le (by omega), hlength, take_prefixOf stream (Nat.le_of_lt hlt),
      hreceived]
  · have hlength : total ≤ s.received.length := by
      rw [hreceived, List.length_append, prefixOf_length]
      omega
    have hall : (prefixOf stream total).take s.received.length = prefixOf stream total :=
      List.take_of_length_le (by rwa [prefixOf_length])
    rw [hall, hreceived, List.take_left' (prefixOf_length stream total)]

/-- The device is at the end of what was received, or done when all was. -/
lemma Delivering.device (h : Delivering stream total At Done s) :
    s.received.length < total ∧ At s.received.length s.device ∨
      total ≤ s.received.length ∧ Done s.device := by
  rcases h with ⟨p, hlt, hat, hreceived⟩ | ⟨hdone, rest, hreceived⟩
  · have hlength : s.received.length = p := by rw [hreceived, prefixOf_length]
    refine Or.inl ⟨by omega, ?_⟩
    rw [hlength]
    exact hat
  · refine Or.inr ⟨?_, hdone⟩
    rw [hreceived, List.length_append, prefixOf_length]
    omega

/-- Reads whose pieces have known lengths add these up. -/
lemma received_length {size : ι → ℕ}
    (hsize : ∀ d i d' piece, read d i = .ok (d', piece) → piece.length = size i) {reads : List ι}
    (hrun : TransitionRun.run (sessionStep read) s reads = .ok t) :
    t.received.length = s.received.length + (reads.map size).sum := by
  induction reads generalizing s with
  | nil =>
      obtain rfl : s = t := by simpa using hrun
      simp
  | cons i reads ih =>
      obtain ⟨u, hstep, hrun⟩ := run_cons_ok.mp hrun
      obtain ⟨⟨d', piece⟩, hread, hu⟩ := bind_eq_ok.mp hstep
      obtain rfl := Except.ok.inj hu
      rw [ih hrun, List.length_append, hsize _ _ _ _ hread, List.map_cons, List.sum_cons,
        Nat.add_assoc]

end Runs

/-! ## Batches

A batch of reads is one read of the device as far as a session is concerned: what it gives is what
its reads give, put together.
-/

/-- Reads made one after the other, and their pieces put together. -/
def batch (read : σ → ι → Except ε (σ × List α)) (s : σ) (is : List ι) :
    Except ε (σ × List α) := do
  let t ← TransitionRun.run (sessionStep read) ⟨s, []⟩ is
  return (t.device, t.received)

section Batches

variable {read : σ → ι → Except ε (σ × List α)}

/-- What was received before a run of reads stays in front of what it gives. -/
lemma run_sessionStep_received (d : σ) (earlier later : List α) (is : List ι) :
    TransitionRun.run (sessionStep read) ⟨d, earlier ++ later⟩ is = do
      let t ← TransitionRun.run (sessionStep read) ⟨d, later⟩ is
      return { t with received := earlier ++ t.received } := by
  induction is generalizing d later with
  | nil => rfl
  | cons i is ih =>
      simp only [TransitionRun.run, sessionStep]
      cases hread : read d i with
      | error e => rfl
      | ok next =>
          simp only [ok_bind]
          rw [List.append_assoc]
          exact ih next.1 (later ++ next.2)

/-- A step of a session of batches is a run of its session of reads. -/
lemma sessionStep_batch (s : Session σ α) (is : List ι) :
    sessionStep (batch read) s is = TransitionRun.run (sessionStep read) s is := by
  have hrun : TransitionRun.run (sessionStep read) ⟨s.device, s.received ++ []⟩ is = _ :=
    run_sessionStep_received s.device s.received [] is
  rw [List.append_nil] at hrun
  rw [sessionStep, batch, hrun]
  cases TransitionRun.run (sessionStep read) ⟨s.device, []⟩ is <;> rfl

/-- However reads are put into batches, a session receives the same. -/
lemma run_batches (s : Session σ α) (batches : List (List ι)) :
    TransitionRun.run (sessionStep (batch read)) s batches =
      TransitionRun.run (sessionStep read) s batches.flatten := by
  induction batches generalizing s with
  | nil => rfl
  | cons is batches ih =>
      rw [TransitionRun.run, sessionStep_batch, List.flatten_cons, run_append]
      cases TransitionRun.run (sessionStep read) s is with
      | error e => rfl
      | ok u => exact ih u

end Batches

/-! ## Two devices with one stream -/

section Related

variable {τ : Type u} {κ δ : Type*} {read : σ → ι → Except ε (σ × List α)}
  {read' : τ → κ → Except δ (τ × List α)} {f : κ → ι} {R : σ → τ → Prop}

/-- A device whose reads give what those of a related device give receives the same. -/
lemma run_related
    (hread : ∀ s t k s' piece, R s t → read s (f k) = .ok (s', piece) →
      ∃ t', read' t k = .ok (t', piece) ∧ R s' t')
    {s s' : Session σ α} {t : τ} (hR : R s.device t) {ks : List κ}
    (hrun : TransitionRun.run (sessionStep read) s (ks.map f) = .ok s') :
    ∃ t', TransitionRun.run (sessionStep read') ⟨t, s.received⟩ ks = .ok ⟨t', s'.received⟩ ∧
      R s'.device t' := by
  induction ks generalizing s t with
  | nil =>
      obtain rfl : s = s' := by simpa using hrun
      exact ⟨t, rfl, hR⟩
  | cons k ks ih =>
      obtain ⟨u, hu, hrun⟩ := run_cons_ok.mp hrun
      obtain ⟨⟨d, piece⟩, hd, hpiece⟩ := bind_eq_ok.mp hu
      obtain rfl := Except.ok.inj hpiece
      obtain ⟨t₁, ht₁, hR₁⟩ := hread s.device t k d piece hR hd
      obtain ⟨t', ht', hR'⟩ := ih hR₁ hrun
      refine ⟨t', run_cons_ok.mpr ⟨⟨t₁, s.received ++ piece⟩, ?_, ht'⟩, hR'⟩
      rw [sessionStep, ht₁, ok_bind]
      rfl

end Related

end StreamDelivery
