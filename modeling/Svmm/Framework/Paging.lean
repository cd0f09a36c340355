import Mathlib.Tactic.Common
import Mathlib.Data.Nat.Digits.Lemmas
import Mathlib.Tactic.Ring

/-!
# The x86 page walk

Linear-address translation as the architecture defines it, for the three hierarchical paging
modes: 4-level paging, PAE paging and 32-bit paging.  Addresses and table entries are natural
numbers, and guest-physical memory is a function from addresses to bytes.

Levels are numbered from the last table up, so level 0 is the page table.  A mode says how
wide an entry is, which bits of the address index the table of a level, where the first table
lies, which entries map a large page, and where a page starts and how many bits its offset
has.  Physical addresses have 52 bits.
-/

namespace X86

/-- The field of `n` bits of `x` from bit `lo` up. -/
def bits (x lo n : ℕ) : ℕ := x / 2 ^ lo % 2 ^ n

/-- The `n` bytes from `a` up as a little-endian number. -/
def read (mem : ℕ → BitVec 8) (a n : ℕ) : ℕ :=
  Nat.ofDigits 256 ((List.range n).map fun i => (mem (a + i)).toNat)

/-- A paging mode. -/
structure PagingMode where
  entryBytes : ℕ
  /-- The level of the first table. -/
  top : ℕ
  indexLow : ℕ → ℕ
  indexBits : ℕ → ℕ
  /-- The address of the first table, from CR3. -/
  root : ℕ → ℕ
  /-- The entry of a table of this level maps a page. -/
  largePage : ℕ → ℕ → Bool
  /-- The address of the page that an entry of this level maps. -/
  pageFrame : ℕ → ℕ → ℕ
  offsetBits : ℕ → ℕ

/-- 4-level paging: pages of 4 KB, 2 MB and 1 GB. -/
def fourLevel : PagingMode where
  entryBytes := 8
  top := 3
  indexLow level := 12 + 9 * level
  indexBits _ := 9
  root cr3 := bits cr3 12 40 * 2 ^ 12
  largePage level e := (decide (level = 2) || decide (level = 1)) && e.testBit 7
  pageFrame level e := bits e (12 + 9 * level) (40 - 9 * level) * 2 ^ (12 + 9 * level)
  offsetBits level := 12 + 9 * level

/-- PAE paging: four page-directory pointers, 32-byte aligned, and pages of 4 KB and 2 MB. -/
def pae : PagingMode where
  entryBytes := 8
  top := 2
  indexLow level := 12 + 9 * level
  indexBits level := if level = 2 then 2 else 9
  root cr3 := bits cr3 5 27 * 2 ^ 5
  largePage level e := decide (level = 1) && e.testBit 7
  pageFrame level e := bits e (12 + 9 * level) (40 - 9 * level) * 2 ^ (12 + 9 * level)
  offsetBits level := 12 + 9 * level

/-- 32-bit paging: pages of 4 KB and, with CR4.PSE, of 4 MB, whose frame takes address bits 39
to 32 from entry bits 20 to 13. -/
def legacy (pse : Bool) : PagingMode where
  entryBytes := 4
  top := 1
  indexLow level := 12 + 10 * level
  indexBits _ := 10
  root cr3 := bits cr3 12 20 * 2 ^ 12
  largePage level e := decide (level = 1) && e.testBit 7 && pse
  pageFrame level e :=
    if level = 0 then bits e 12 20 * 2 ^ 12 else bits e 13 8 * 2 ^ 32 + bits e 22 10 * 2 ^ 22
  offsetBits level := 12 + 10 * level

namespace PagingMode

variable (M : PagingMode) (mem : ℕ → BitVec 8) (gva : ℕ)

/-- The entry that translates `gva` in a table of this level. -/
def entry (level table : ℕ) : ℕ :=
  read mem (table + bits gva (M.indexLow level) (M.indexBits level) * M.entryBytes) M.entryBytes

/-- The address of the table an entry points to. -/
def nextTable (e : ℕ) : ℕ := bits e 12 40 * 2 ^ 12

/-- The address that an entry mapping a page gives `gva`. -/
def pageAddress (level e : ℕ) : ℕ := M.pageFrame level e + gva % 2 ^ M.offsetBits level

/-- The walk from a table of this level; `none` when an entry is not present. -/
def walk : ℕ → ℕ → Option ℕ
  | 0, table =>
      let e := M.entry mem gva 0 table
      if e.testBit 0 then some (M.pageAddress gva 0 e) else none
  | level + 1, table =>
      let e := M.entry mem gva (level + 1) table
      if e.testBit 0 then
        if M.largePage (level + 1) e then some (M.pageAddress gva (level + 1) e)
        else walk level (nextTable e)
      else none

/-- The translation of `gva`. -/
def translate (cr3 : ℕ) : Option ℕ := M.walk mem gva M.top (M.root cr3)

end PagingMode

/-! ## Fields -/

lemma bits_lt (x lo n : ℕ) : bits x lo n < 2 ^ n := Nat.mod_lt _ (Nat.two_pow_pos n)

/-- A field in two parts. -/
lemma bits_add (x lo m n : ℕ) : bits x lo (m + n) = bits x (lo + m) n * 2 ^ m + bits x lo m := by
  unfold bits
  rw [Nat.pow_add, Nat.mod_mul, Nat.pow_add, Nat.div_div_eq_div_mul]
  ring

lemma bits_zero (x n : ℕ) : bits x 0 n = x % 2 ^ n := by
  simp [bits]

/-- A little-endian number of `n` bytes. -/
lemma read_lt (mem : ℕ → BitVec 8) (a n : ℕ) : read mem a n < 256 ^ n := by
  have h := Nat.ofDigits_lt_base_pow_length (b := 256)
    (l := (List.range n).map fun i => (mem (a + i)).toNat) (by decide) (by
      intro x hx
      obtain ⟨i, -, rfl⟩ := List.mem_map.mp hx
      exact (mem (a + i)).isLt)
  simpa [read] using h

/-- Masking a field in place. -/
lemma and_mask (x lo n : ℕ) : x &&& (2 ^ n - 1) * 2 ^ lo = bits x lo n * 2 ^ lo := by
  apply Nat.eq_of_testBit_eq
  intro i
  unfold bits
  rw [Nat.testBit_and, ← Nat.shiftLeft_eq, ← Nat.shiftLeft_eq, Nat.testBit_shiftLeft,
    Nat.testBit_shiftLeft, Nat.testBit_two_pow_sub_one, Nat.testBit_mod_two_pow,
    ← Nat.shiftRight_eq_div_pow, Nat.testBit_shiftRight]
  by_cases hle : lo ≤ i
  · rw [Nat.add_sub_cancel' hle]
    simp [hle, Bool.and_comm]
  · simp [hle]

end X86
