import Mathlib.Data.Int.Notation
import Mathlib.Order.MinMax
import Mathlib.Tactic.Common
import Svmm.Framework.Bytes

/-!
# Byte files

A file is a run of bytes and a pointer into it.  A read past its end delivers fewer bytes than
were asked for and leaves the rest of the buffer alone; a write past its end makes it longer, and
what lies between is zero.  `content` is the file without its pointer and its end: every byte it
has, and zero after them.
-/

/-- A file that is open. -/
structure ByteFile where
  size : ℕ
  byte : ℕ → BitVec 8
  position : ℕ

namespace ByteFile

variable (f : ByteFile)

/-- A byte of the file, unless the file ends before it. -/
def get? (p : ℕ) : Option (BitVec 8) := if p < f.size then some (f.byte p) else none

/-- The bytes of the file, with zeros after its end. -/
def content (p : ℕ) : BitVec 8 := if p < f.size then f.byte p else 0

/-- A big-endian number of the file, if the file has its bytes. -/
def number? (w n p : ℕ) : Option (BitVec w) :=
  if p + n ≤ f.size then some (Bytes.bigEndian w (fun j => f.byte (p + j)) n) else none

/-- Move the pointer by a signed distance from a place; never to before the beginning. -/
def seek (origin : ℕ) (distance : BitVec 64) : Option ByteFile :=
  if (origin : ℤ) + distance.toInt < 0 then none
  else some { f with position := ((origin : ℤ) + distance.toInt).toNat }

/-- The number of bytes that a read delivers. -/
def readCount (count : ℕ) : ℕ := min count (f.size - f.position)

/-- The buffer after a read, from what it held before. -/
def readInto (count : ℕ) (buffer : ℕ → BitVec 8) : ℕ → BitVec 8 := fun j =>
  if j < f.readCount count then f.byte (f.position + j) else buffer j

/-- The file after a read. -/
def afterRead (count : ℕ) : ByteFile := { f with position := f.position + f.readCount count }

/-- The file after a write. -/
def write (bytes : List (BitVec 8)) : ByteFile :=
  { size := if bytes = [] then f.size else max f.size (f.position + bytes.length)
    byte := fun p =>
      if f.position ≤ p ∧ p < f.position + bytes.length then bytes.getD (p - f.position) 0
      else f.content p
    position := f.position + bytes.length }

/-! ## Reads -/

variable {f}

lemma get?_eq_some {p : ℕ} {x : BitVec 8} : f.get? p = some x ↔ p < f.size ∧ f.byte p = x := by
  unfold get?
  split
  · rename_i hp
    rw [Option.some_inj, and_iff_right hp]
  · rename_i hp
    exact iff_of_false (fun h => Option.noConfusion rfl (heq_of_eq h)) fun h => hp h.1

lemma get?_of_lt {p : ℕ} (h : p < f.size) : f.get? p = some (f.byte p) := if_pos h

/-- A read of bytes that the file has. -/
lemma readInto_of_le {count j : ℕ} {buffer : ℕ → BitVec 8} (hj : j < count)
    (h : f.position + count ≤ f.size) : f.readInto count buffer j = f.byte (f.position + j) := by
  refine if_pos (lt_min hj ?_)
  omega

/-- Whatever the buffer held before, a read delivers the bytes of the file exactly when the file
has them. -/
lemma readInto_eq_iff {count j : ℕ} (hj : j < count) {x : BitVec 8} :
    (∀ buffer, f.readInto count buffer j = x) ↔ f.get? (f.position + j) = some x := by
  rw [get?_eq_some]
  constructor
  · intro h
    by_cases hp : f.position + j < f.size
    · have hdelivered : j < f.readCount count := lt_min hj (by omega)
      refine ⟨hp, ?_⟩
      have hx := h fun _ => 0
      rwa [readInto, if_pos hdelivered] at hx
    · have hleft : ¬ j < f.readCount count := by
        intro hlt
        have hrest : j < f.size - f.position := hlt.trans_le (min_le_right _ _)
        omega
      have hzero := h fun _ => x + 1
      rw [readInto, if_neg hleft] at hzero
      exact absurd hzero (by simp)
  · rintro ⟨hp, hx⟩ buffer
    have hdelivered : j < f.readCount count := lt_min hj (by omega)
    rw [readInto, if_pos hdelivered, hx]

/-! ## Writes -/

lemma size_le_size_write (bytes : List (BitVec 8)) : f.size ≤ (f.write bytes).size := by
  rw [write]
  split
  · exact le_refl f.size
  · exact le_max_left f.size _

lemma lt_size_write {bytes : List (BitVec 8)} {p : ℕ} (h : f.position ≤ p)
    (hp : p < f.position + bytes.length) : p < (f.write bytes).size := by
  have hnonempty : bytes ≠ [] := by
    rintro rfl
    rw [List.length_nil] at hp
    omega
  rw [write, if_neg hnonempty]
  exact lt_max_of_lt_right hp

/-- A write replaces the bytes from the pointer on, and no others. -/
lemma content_write (bytes : List (BitVec 8)) (p : ℕ) :
    (f.write bytes).content p =
      if f.position ≤ p ∧ p < f.position + bytes.length then bytes.getD (p - f.position) 0
      else f.content p := by
  by_cases hp : f.position ≤ p ∧ p < f.position + bytes.length
  · rw [content, if_pos (lt_size_write hp.1 hp.2)]
    rfl
  · by_cases hend : p < (f.write bytes).size
    · rw [content, if_pos hend]
      rfl
    · have hend' : ¬ p < f.size := fun hlt => hend (hlt.trans_le (size_le_size_write bytes))
      rw [content, if_neg hend, if_neg hp, content, if_neg hend']

end ByteFile
