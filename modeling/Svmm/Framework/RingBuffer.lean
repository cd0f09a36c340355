import Mathlib.Data.List.Basic
import Mathlib.Logic.Function.Basic
import Mathlib.Tactic.Common

/-!
# Ring buffers

A ring of `n` slots with the index of its first element and of the slot behind its last.  It is
empty when the two are equal and full when the second is just before the first, so that a slot is
always free.  `contents` is the queue it stands for: a push that finds room appends, and a pop takes
the first element.
-/

/-- A ring of `n` slots, with both indices inside. -/
structure RingBuffer (α : Type*) (n : ℕ) where
  slot : ℕ → α
  head : ℕ
  tail : ℕ
  head_lt : head < n
  tail_lt : tail < n

namespace RingBuffer

variable {α : Type*} {n : ℕ} (r : RingBuffer α n)

/-- The index behind an index. -/
def next (n i : ℕ) : ℕ := (i + 1) % n

/-- The number of elements. -/
def count : ℕ := if r.head ≤ r.tail then r.tail - r.head else r.tail + n - r.head

/-- The slot of an element. -/
def index (i : ℕ) : ℕ := if r.head + i < n then r.head + i else r.head + i - n

/-- The elements, the first one first. -/
def contents : List α := (List.range r.count).map fun i => r.slot (r.index i)

def Empty : Prop := r.head = r.tail

def Full : Prop := next n r.tail = r.head

instance : Decidable r.Empty := inferInstanceAs (Decidable (_ = _))

instance : Decidable r.Full := inferInstanceAs (Decidable (_ = _))

include r in
lemma next_lt (i : ℕ) : next n i < n :=
  Nat.mod_lt _ (Nat.lt_of_le_of_lt (Nat.zero_le r.head) r.head_lt)

lemma next_eq {i : ℕ} (h : i < n) : next n i = if i + 1 < n then i + 1 else 0 := by
  unfold next
  split
  · rename_i hlt
    exact Nat.mod_eq_of_lt hlt
  · have heq : i + 1 = n := by omega
    rw [heq, Nat.mod_self]

/-- Store an element behind the last one, if there is room. -/
def push (x : α) : RingBuffer α n :=
  if r.Full then r
  else { r with
    slot := Function.update r.slot r.tail x
    tail := next n r.tail
    tail_lt := r.next_lt r.tail }

/-- Take the first element, if there is one. -/
def pop : Option (α × RingBuffer α n) :=
  if r.Empty then none
  else some (r.slot r.head, { r with head := next n r.head, head_lt := r.next_lt r.head })

/-! ## The queue -/

@[simp] lemma length_contents : r.contents.length = r.count := by simp [contents]

lemma empty_iff : r.Empty ↔ r.contents = [] := by
  have hhead := r.head_lt
  have htail := r.tail_lt
  rw [← List.length_eq_zero_iff, length_contents, Empty, count]
  split <;> omega

/-- A ring is full when all slots but one are taken. -/
lemma full_iff : r.Full ↔ r.contents.length + 1 = n := by
  have hhead := r.head_lt
  have htail := r.tail_lt
  rw [length_contents, Full, next_eq htail, count]
  split <;> split <;> omega

/-- A push appends, unless the ring is full. -/
lemma contents_push (x : α) :
    (r.push x).contents = if r.contents.length + 1 = n then r.contents else r.contents ++ [x] := by
  have hhead := r.head_lt
  have htail := r.tail_lt
  rw [push]
  by_cases hfull : r.Full
  · rw [if_pos hfull, if_pos (r.full_iff.mp hfull)]
  · rw [if_neg hfull, if_neg fun h => hfull (r.full_iff.mpr h)]
    set s : RingBuffer α n := { r with
      slot := Function.update r.slot r.tail x
      tail := next n r.tail
      tail_lt := r.next_lt r.tail }
    have htail' : s.tail = if r.tail + 1 < n then r.tail + 1 else 0 := next_eq htail
    have hhead' : s.head = r.head := rfl
    have hroom : ¬ (if r.tail + 1 < n then r.tail + 1 else 0) = r.head := by
      rw [← next_eq htail]
      exact hfull
    have hcount : s.count = r.count + 1 := by
      rw [count, count, hhead', htail']
      split at hroom <;> split <;> split <;> split <;> omega
    have hold (i : ℕ) (hi : i < r.count) : s.slot (s.index i) = r.slot (r.index i) := by
      have hne : r.index i ≠ r.tail := by
        rw [count] at hi
        rw [index]
        split at hi <;> split <;> omega
      exact Function.update_of_ne hne x r.slot
    have hnew : s.slot (s.index r.count) = x := by
      have heq : r.index r.count = r.tail := by
        rw [index, count]
        split <;> split <;> omega
      show Function.update r.slot r.tail x (r.index r.count) = x
      rw [heq, Function.update_self]
    rw [contents, hcount, List.range_succ, List.map_append, List.map_singleton, hnew, contents]
    congr 1
    exact List.map_congr_left fun i hi => hold i (List.mem_range.mp hi)

/-- A pop takes the first element of the queue. -/
lemma pop_eq : r.pop = none ∧ r.contents = [] ∨
    ∃ x s, r.pop = some (x, s) ∧ r.contents = x :: s.contents := by
  have hhead := r.head_lt
  have htail := r.tail_lt
  by_cases hempty : r.Empty
  · exact Or.inl ⟨if_pos hempty, r.empty_iff.mp hempty⟩
  · refine Or.inr ⟨r.slot r.head, _, if_neg hempty, ?_⟩
    set s : RingBuffer α n := { r with head := next n r.head, head_lt := r.next_lt r.head }
    have hhead' : s.head = if r.head + 1 < n then r.head + 1 else 0 := next_eq hhead
    have htail' : s.tail = r.tail := rfl
    have hne : ¬ r.head = r.tail := hempty
    have hcount : r.count = s.count + 1 := by
      rw [count, count, hhead', htail']
      split <;> split <;> split <;> omega
    have hfirst : r.index 0 = r.head := if_pos hhead
    have hrest (i : ℕ) (hi : i < s.count) : r.index (i + 1) = s.index i := by
      rw [count, hhead', htail'] at hi
      rw [index, index, hhead']
      split at hi <;> split at hi <;> split <;> split <;> omega
    rw [contents, hcount, List.range_succ_eq_map, List.map_cons, List.map_map, hfirst, contents]
    congr 1
    refine List.map_congr_left fun i hi => ?_
    show r.slot (r.index (i + 1)) = s.slot (s.index i)
    rw [hrest i (List.mem_range.mp hi)]

/-- A ring with nothing in it. -/
def start (slot : ℕ → α) (h : 0 < n) : RingBuffer α n :=
  { slot := slot, head := 0, tail := 0, head_lt := h, tail_lt := h }

@[simp] lemma contents_start (slot : ℕ → α) (h : 0 < n) : (start slot h).contents = [] := rfl

end RingBuffer
