import Svmm.Construction.Paging

/-!
# Whether the page walk translates as the architecture does

Guest-physical memory is what `SvmmGetHostPageFromGPA` finds behind a page.  Two things can
make the walk differ from the architecture.  It may read other tables: it drops the low bits of
a PAE root, and takes bit 7 of an entry for a large page where the architecture does not.  Then
nothing relates the two walks.  As long as it reads the same tables, the walks give the same
result exactly when the entries on the way agree with three habits of the code: an entry that
is not present is followed all the same, a large page's address takes every frame bit of the
entry and only 29 or 21 bits of the offset, and the answer 0 stands for failure.
-/

namespace Svmm

open X86

/-! ## The guest's view -/

namespace Machine

variable (m : Machine)

/-- The byte of guest-physical memory at an address. -/
def guestByte (a : ℕ) : BitVec 8 :=
  m.byte (svmmGetHostPageFromGPA m (BitVec.ofNat 64 (a / 4096 * 4096)) + BitVec.ofNat 64 (a % 4096))

/-- The page at this address has host memory. -/
def backed (a : ℕ) : Prop := svmmGetHostPageFromGPA m (BitVec.ofNat 64 a) ≠ 0

/-- The paging mode that the registers select; bit 4 of CR4 is CR4.PSE. -/
def pagingMode : PagingMode :=
  if Word.has m.efer eferLme then fourLevel
  else if Word.has m.cr4 cr4Pae then pae
  else legacy (Word.has m.cr4 4)

/-- The architectural translation of an address. -/
def translate (gva : BitVec 64) : Option ℕ :=
  m.pagingMode.translate m.guestByte gva.toNat m.cr3.toNat

instance (a : ℕ) : Decidable (m.backed a) := inferInstanceAs (Decidable (_ ≠ _))

end Machine

/-- An answer is faithful to a translation: it is 0 exactly when there is none, and else it is
the address. -/
def Faithful (answer : BitVec 64) (translation : Option ℕ) : Prop :=
  (answer = 0 ↔ translation = none) ∧ ∀ a, translation = some a → answer.toNat = a

lemma faithful_none {answer : BitVec 64} : Faithful answer none ↔ answer = 0 := by
  simp [Faithful]

lemma faithful_some {answer : BitVec 64} {a : ℕ} :
    Faithful answer (some a) ↔ answer.toNat = a ∧ a ≠ 0 := by
  unfold Faithful
  constructor
  · rintro ⟨hzero, haddress⟩
    have heq := haddress a rfl
    refine ⟨heq, fun h0 => ?_⟩
    have : answer = 0 := BitVec.eq_of_toNat_eq (by rw [heq, h0]; rfl)
    simpa using hzero.mp this
  · rintro ⟨heq, hne⟩
    refine ⟨⟨fun h0 => ?_, fun h => by cases h⟩, fun b hb => ?_⟩
    · rw [h0] at heq
      exact absurd heq.symm hne
    · rw [heq]
      exact Option.some.inj hb

instance (answer : BitVec 64) : ∀ translation, Decidable (Faithful answer translation)
  | none => decidable_of_iff _ faithful_none.symm
  | some _ => decidable_of_iff _ faithful_some.symm

/-! ## What the code does with an entry -/

/-- The code takes an entry of this level for a large page. -/
def takesForLarge (level e : ℕ) : Bool :=
  (decide (level = 2) || decide (level = 1)) && e.testBit pageLargeEnabled

/-- The bits of the offset that the code adds to an entry of this level. -/
def keptBits (level : ℕ) : ℕ := if level = 2 then 29 else if level = 1 then 21 else 12

section Conditions

variable (m : Machine) (M : PagingMode) (gva : ℕ)

/-- From a table on, the code reads the tables the architecture reads: each has host memory,
and each present entry maps a page for both or for neither. -/
def SameTables : ℕ → ℕ → Prop
  | 0, table => m.backed table
  | level + 1, table =>
      m.backed table ∧
        ((M.entry m.guestByte gva (level + 1) table).testBit 0 = true →
          takesForLarge (level + 1) (M.entry m.guestByte gva (level + 1) table) =
              M.largePage (level + 1) (M.entry m.guestByte gva (level + 1) table) ∧
            (M.largePage (level + 1) (M.entry m.guestByte gva (level + 1) table) = false →
              SameTables level
                (PagingMode.nextTable (M.entry m.guestByte gva (level + 1) table))))

/-- The walk that goes on from an entry as if it were present ends at a page without host
memory, or at address 0. -/
def EndsNowhere : ℕ → ℕ → Prop
  | 0, e =>
      m.backed (PagingMode.nextTable e) → PagingMode.nextTable e = 0 ∧ gva % 2 ^ keptBits 0 = 0
  | level + 1, e =>
      if takesForLarge (level + 1) e then
        PagingMode.nextTable e = 0 ∧ gva % 2 ^ keptBits (level + 1) = 0
      else
        m.backed (PagingMode.nextTable e) →
          EndsNowhere level (M.entry m.guestByte gva level (PagingMode.nextTable e))

/-- What the frame bits of a large page's entry below the page size hold is what the code cuts
off the offset, and the page does not put the address at 0. -/
def PageAgrees (level e : ℕ) : Prop :=
  bits e 12 (M.offsetBits level - 12) * 2 ^ 12 =
      bits gva (keptBits level) (M.offsetBits level - keptBits level) * 2 ^ keptBits level ∧
    M.pageAddress gva level e ≠ 0

/-- The entries from a table on agree with what the code makes of them. -/
def EntriesAgree : ℕ → ℕ → Prop
  | 0, table =>
      if (M.entry m.guestByte gva 0 table).testBit 0 then
        m.backed (PagingMode.nextTable (M.entry m.guestByte gva 0 table)) ∧
          M.pageAddress gva 0 (M.entry m.guestByte gva 0 table) ≠ 0
      else EndsNowhere m M gva 0 (M.entry m.guestByte gva 0 table)
  | level + 1, table =>
      if (M.entry m.guestByte gva (level + 1) table).testBit 0 then
        if M.largePage (level + 1) (M.entry m.guestByte gva (level + 1) table) then
          PageAgrees M gva (level + 1) (M.entry m.guestByte gva (level + 1) table)
        else
          EntriesAgree level (PagingMode.nextTable (M.entry m.guestByte gva (level + 1) table))
      else EndsNowhere m M gva (level + 1) (M.entry m.guestByte gva (level + 1) table)

instance instDecidableSameTables : ∀ level table, Decidable (SameTables m M gva level table)
  | 0, table => inferInstanceAs (Decidable (m.backed table))
  | level + 1, table =>
      have := instDecidableSameTables level
        (PagingMode.nextTable (M.entry m.guestByte gva (level + 1) table))
      inferInstanceAs (Decidable (m.backed table ∧
        ((M.entry m.guestByte gva (level + 1) table).testBit 0 = true →
          takesForLarge (level + 1) (M.entry m.guestByte gva (level + 1) table) =
              M.largePage (level + 1) (M.entry m.guestByte gva (level + 1) table) ∧
            (M.largePage (level + 1) (M.entry m.guestByte gva (level + 1) table) = false →
              SameTables m M gva level
                (PagingMode.nextTable (M.entry m.guestByte gva (level + 1) table))))))

instance instDecidableEndsNowhere : ∀ level e, Decidable (EndsNowhere m M gva level e)
  | 0, e =>
      inferInstanceAs (Decidable (m.backed (PagingMode.nextTable e) →
        PagingMode.nextTable e = 0 ∧ gva % 2 ^ keptBits 0 = 0))
  | level + 1, e =>
      have := instDecidableEndsNowhere level
        (M.entry m.guestByte gva level (PagingMode.nextTable e))
      inferInstanceAs (Decidable (if takesForLarge (level + 1) e then
          PagingMode.nextTable e = 0 ∧ gva % 2 ^ keptBits (level + 1) = 0
        else m.backed (PagingMode.nextTable e) →
          EndsNowhere m M gva level (M.entry m.guestByte gva level (PagingMode.nextTable e))))

instance (level e : ℕ) : Decidable (PageAgrees M gva level e) :=
  inferInstanceAs (Decidable (_ ∧ _))

instance instDecidableEntriesAgree : ∀ level table, Decidable (EntriesAgree m M gva level table)
  | 0, table =>
      inferInstanceAs (Decidable (if (M.entry m.guestByte gva 0 table).testBit 0 then
          m.backed (PagingMode.nextTable (M.entry m.guestByte gva 0 table)) ∧
            M.pageAddress gva 0 (M.entry m.guestByte gva 0 table) ≠ 0
        else EndsNowhere m M gva 0 (M.entry m.guestByte gva 0 table)))
  | level + 1, table =>
      have := instDecidableEntriesAgree level
        (PagingMode.nextTable (M.entry m.guestByte gva (level + 1) table))
      inferInstanceAs (Decidable (if (M.entry m.guestByte gva (level + 1) table).testBit 0 then
          if M.largePage (level + 1) (M.entry m.guestByte gva (level + 1) table) then
            PageAgrees M gva (level + 1) (M.entry m.guestByte gva (level + 1) table)
          else EntriesAgree m M gva level
            (PagingMode.nextTable (M.entry m.guestByte gva (level + 1) table))
        else EndsNowhere m M gva (level + 1) (M.entry m.guestByte gva (level + 1) table)))

end Conditions

/-- The walk reads the tables the architecture reads. -/
def Machine.readsSameTables (m : Machine) (gva : BitVec 64) : Prop :=
  m.pagingMode.root m.cr3.toNat = PagingMode.nextTable m.cr3.toNat ∧
    SameTables m m.pagingMode gva.toNat m.pagingMode.top (m.pagingMode.root m.cr3.toNat)

/-- The entries on the way agree with what the code makes of them. -/
def Machine.entriesAgree (m : Machine) (gva : BitVec 64) : Prop :=
  EntriesAgree m m.pagingMode gva.toNat m.pagingMode.top (m.pagingMode.root m.cr3.toNat)

instance (m : Machine) (gva : BitVec 64) : Decidable (m.readsSameTables gva) :=
  inferInstanceAs (Decidable (_ ∧ _))

instance (m : Machine) (gva : BitVec 64) : Decidable (m.entriesAgree gva) :=
  inferInstanceAs (Decidable (EntriesAgree m _ _ _ _))

/-! ## Arithmetic of the code -/

section Arithmetic

variable (x gva : BitVec 64)

lemma toNat_and_pagingMask : (x &&& pagingMask).toNat = PagingMode.nextTable x.toNat := by
  have hmask : pagingMask.toNat = (2 ^ 40 - 1) * 2 ^ 12 := by decide
  rw [BitVec.toNat_and, hmask, and_mask]
  rfl

lemma nextTable_lt (e : ℕ) : PagingMode.nextTable e < 2 ^ 52 := by
  have h := bits_lt e 12 40
  unfold PagingMode.nextTable
  omega

lemma nextTable_mod (e : ℕ) : PagingMode.nextTable e % 4096 = 0 := by
  unfold PagingMode.nextTable
  omega

lemma ofNat_nextTable (x : BitVec 64) :
    BitVec.ofNat 64 (PagingMode.nextTable x.toNat) = x &&& pagingMask := by
  rw [← toNat_and_pagingMask, BitVec.ofNat_toNat, BitVec.setWidth_eq]

/-- The address the code makes of an entry and the kept bits of the offset. -/
lemma toNat_pageAddress {k : ℕ} (hk : k ≤ 29) {mask : BitVec 64} (hmask : mask.toNat = 2 ^ k - 1) :
    ((x &&& pagingMask) + (gva &&& mask)).toNat =
      PagingMode.nextTable x.toNat + gva.toNat % 2 ^ k := by
  have hoffset : (gva &&& mask).toNat = gva.toNat % 2 ^ k := Word.toNat_and_mask hmask gva
  have hlt : gva.toNat % 2 ^ k < 2 ^ 29 :=
    lt_of_lt_of_le (Nat.mod_lt _ (Nat.two_pow_pos k)) (Nat.pow_le_pow_right (by decide) hk)
  have hframe := nextTable_lt x.toNat
  rw [BitVec.toNat_add, toNat_and_pagingMask, hoffset]
  exact Nat.mod_eq_of_lt (by omega)

/-- The index of the code into a table. -/
lemma toNat_index {s n : ℕ} (hn : n < 64) :
    ((gva >>> s) &&& ((1#64 <<< n) - 1)).toNat = bits gva.toNat s n := by
  have hpow : 2 ^ n < 2 ^ 64 := Nat.pow_lt_pow_right (by decide) hn
  have hone : (1#64 <<< n).toNat = 2 ^ n := by
    rw [BitVec.toNat_shiftLeft, Nat.shiftLeft_eq]
    show 1 * 2 ^ n % 2 ^ 64 = 2 ^ n
    rw [Nat.one_mul, Nat.mod_eq_of_lt hpow]
  have hmask : (1#64 <<< n - 1).toNat = 2 ^ n - 1 := by
    have hpos := Nat.two_pow_pos n
    rw [BitVec.toNat_sub, hone]
    show (2 ^ 64 - 1 + 2 ^ n) % 2 ^ 64 = 2 ^ n - 1
    omega
  rw [Word.toNat_and_mask hmask, BitVec.toNat_ushiftRight, Nat.shiftRight_eq_div_pow]
  rfl

end Arithmetic

/-! ## The three modes -/

/-- The arguments `Levels` and `EntrySize` belong to the mode. -/
structure Walks (M : PagingMode) (levels : List ℕ) (entrySize : ℕ) : Prop where
  size : M.entryBytes = entrySize
  width : entrySize = 4 ∨ entrySize = 8
  length : levels.length = M.top + 1
  low : ∀ level ≤ M.top, bitsSum levels level = M.indexLow level
  index : ∀ level ≤ M.top, levels.getD level 0 = M.indexBits level
  fits : ∀ level ≤ M.top, 2 ^ M.indexBits level * entrySize ≤ 4096
  page : ∀ e gva, e < 256 ^ entrySize →
    M.pageAddress gva 0 e = PagingMode.nextTable e + gva % 2 ^ keptBits 0
  large : ∀ level e gva, e < 256 ^ entrySize → M.largePage level e = true →
    (PagingMode.nextTable e + gva % 2 ^ keptBits level = M.pageAddress gva level e ↔
      bits e 12 (M.offsetBits level - 12) * 2 ^ 12 =
        bits gva (keptBits level) (M.offsetBits level - keptBits level) * 2 ^ keptBits level)

/-- The frame and the offset of a page of 1 GB or 2 MB. -/
lemma nextTable_add_eq_iff {e gva k n : ℕ} (hk : k ≤ n) (hn : 12 ≤ n) (hn' : n ≤ 52) :
    PagingMode.nextTable e + gva % 2 ^ k = bits e n (52 - n) * 2 ^ n + gva % 2 ^ n ↔
      bits e 12 (n - 12) * 2 ^ 12 = bits gva k (n - k) * 2 ^ k := by
  have hframe : PagingMode.nextTable e =
      bits e n (52 - n) * 2 ^ n + bits e 12 (n - 12) * 2 ^ 12 := by
    have hsplit := bits_add e 12 (n - 12) (52 - n)
    rw [show n - 12 + (52 - n) = 40 by omega, show 12 + (n - 12) = n by omega] at hsplit
    rw [PagingMode.nextTable, hsplit, Nat.add_mul, Nat.mul_assoc, ← Nat.pow_add,
      Nat.sub_add_cancel hn]
  have hoffset : gva % 2 ^ n = bits gva k (n - k) * 2 ^ k + gva % 2 ^ k := by
    have hsplit := bits_add gva 0 k (n - k)
    rwa [Nat.add_sub_cancel' hk, bits_zero, bits_zero, Nat.zero_add] at hsplit
  rw [hframe, hoffset]
  omega

lemma walks_fourLevel : Walks fourLevel pml4Levels 8 where
  size := rfl
  width := Or.inr rfl
  length := rfl
  low := by decide
  index := by decide
  fits := by decide
  page e gva _ := rfl
  large level e gva _ h := by
    simp only [fourLevel, Bool.and_eq_true, Bool.or_eq_true, decide_eq_true_eq] at h
    rcases h.1 with rfl | rfl
    · exact nextTable_add_eq_iff (n := 30) (k := 29) (by decide) (by decide) (by decide)
    · exact nextTable_add_eq_iff (n := 21) (k := 21) (by decide) (by decide) (by decide)

lemma walks_pae : Walks pae pdePaeLevels 8 where
  size := rfl
  width := Or.inr rfl
  length := rfl
  low := by decide
  index := by decide
  fits := by decide
  page e gva _ := rfl
  large level e gva _ h := by
    simp only [pae, Bool.and_eq_true, decide_eq_true_eq] at h
    obtain ⟨rfl, -⟩ := h
    exact nextTable_add_eq_iff (n := 21) (k := 21) (by decide) (by decide) (by decide)

lemma walks_legacy (pse : Bool) : Walks (legacy pse) pdeNoPaeLevels 4 where
  size := rfl
  width := Or.inl rfl
  length := rfl
  low := by cases pse <;> decide
  index := by cases pse <;> decide
  fits := by cases pse <;> decide
  page e gva he := by
    have hframe : bits e 12 20 * 2 ^ 12 = PagingMode.nextTable e := by
      unfold PagingMode.nextTable bits
      omega
    show bits e 12 20 * 2 ^ 12 + gva % 2 ^ 12 = _
    rw [hframe]
    rfl
  large level e gva he h := by
    simp only [legacy, Bool.and_eq_true, decide_eq_true_eq] at h
    obtain ⟨⟨rfl, -⟩, -⟩ := h
    show PagingMode.nextTable e + gva % 2 ^ 21 =
        bits e 13 8 * 2 ^ 32 + bits e 22 10 * 2 ^ 22 + gva % 2 ^ 22 ↔
      bits e 12 10 * 2 ^ 12 = bits gva 21 1 * 2 ^ 21
    unfold PagingMode.nextTable bits
    omega

/-! ## One table -/

section Table

variable {m : Machine} {M : PagingMode} {levels : List ℕ} {entrySize : ℕ} {gva : BitVec 64}

/-- The bytes the code reads are the guest's. -/
lemma byte_eq_guestByte {table off : ℕ} (htable : table % 4096 = 0) (hoff : off < 4096) :
    m.byte (svmmGetHostPageFromGPA m (BitVec.ofNat 64 table) + BitVec.ofNat 64 off) =
      m.guestByte (table + off) := by
  have hpage : (table + off) / 4096 * 4096 = table := by omega
  have hrest : (table + off) % 4096 = off := by omega
  rw [Machine.guestByte, hpage, hrest]

/-- The entry the code reads is the architecture's. -/
lemma toNat_readEntry (hw : Walks M levels entrySize) {level table : ℕ} (hlevel : level ≤ M.top)
    (htable : table % 4096 = 0) :
    (m.readEntry (svmmGetHostPageFromGPA m (BitVec.ofNat 64 table) +
        ((gva >>> bitsSum levels level) &&& ((1#64 <<< levels.getD level 0) - 1)) *
          BitVec.ofNat 64 entrySize) entrySize).toNat =
      M.entry m.guestByte gva.toNat level table := by
  have hfits := hw.fits level hlevel
  have hwidth : (if entrySize = 4 then 4 else 8) = entrySize := by
    rcases hw.width with h | h <;> simp [h]
  have hpos : 0 < entrySize := by
    rcases hw.width with h | h <;> omega
  have hbits : M.indexBits level < 64 := by
    by_contra hge
    have hpow := Nat.pow_le_pow_right (n := 2) (by decide) (not_lt.mp hge)
    have hle : 2 ^ M.indexBits level ≤ 2 ^ M.indexBits level * entrySize :=
      Nat.le_mul_of_pos_right _ hpos
    omega
  set idx := bits gva.toNat (M.indexLow level) (M.indexBits level) with hidx
  have hlt : idx < 2 ^ M.indexBits level := bits_lt _ _ _
  have hindex : (gva >>> bitsSum levels level) &&& ((1#64 <<< levels.getD level 0) - 1) =
      BitVec.ofNat 64 idx := by
    rw [hw.low level hlevel, hw.index level hlevel, hidx, ← toNat_index gva hbits,
      BitVec.ofNat_toNat, BitVec.setWidth_eq]
  have hend : ∀ i < entrySize, idx * entrySize + i < 4096 := by
    intro i hi
    have hmul : (idx + 1) * entrySize ≤ 2 ^ M.indexBits level * entrySize :=
      Nat.mul_le_mul_right _ hlt
    rw [Nat.add_mul, Nat.one_mul] at hmul
    omega
  have hread : (Nat.ofDigits 256 ((List.range entrySize).map fun i =>
      (m.byte (svmmGetHostPageFromGPA m (BitVec.ofNat 64 table) +
        BitVec.ofNat 64 idx * BitVec.ofNat 64 entrySize + BitVec.ofNat 64 i)).toNat)) =
      M.entry m.guestByte gva.toNat level table := by
    unfold PagingMode.entry X86.read
    rw [hw.size]
    congr 1
    refine List.map_congr_left fun i hi => ?_
    have hi' := List.mem_range.mp hi
    rw [← BitVec.ofNat_mul, BitVec.add_assoc, ← BitVec.ofNat_add,
      byte_eq_guestByte htable (hend i hi'), Nat.add_assoc]
  have hbound : M.entry m.guestByte gva.toNat level table < 2 ^ 64 := by
    refine lt_of_lt_of_le (read_lt _ _ _) ?_
    rw [hw.size]
    rcases hw.width with h | h <;> simp [h]
  rw [Machine.readEntry, hwidth, hindex, BitVec.toNat_ofNat, hread, Nat.mod_eq_of_lt hbound]

lemma entry_lt (hw : Walks M levels entrySize) (mem : ℕ → BitVec 8) (g level table : ℕ) :
    M.entry mem g level table < 256 ^ entrySize := by
  rw [PagingMode.entry, hw.size]
  exact read_lt _ _ _

/-- The rest of an iteration once its entry is read. -/
def pml4Next (m : Machine) (gva : BitVec 64) (levels : List ℕ) (entrySize leaf : ℕ)
    (entry : BitVec 64) : BitVec 64 :=
  if leaf = 2 ∧ Word.has entry pageLargeEnabled then
    (entry &&& pagingMask) + (gva &&& 0x1fffffff)
  else if leaf = 1 ∧ Word.has entry pageLargeEnabled then
    (entry &&& pagingMask) + (gva &&& 0x1fffff)
  else
    if svmmGetHostPageFromGPA m (entry &&& pagingMask) = 0 then 0
    else pml4Loop m gva levels entrySize leaf
      (svmmGetHostPageFromGPA m (entry &&& pagingMask)) entry

/-- Where the code takes the entry for a large page, it answers at once. -/
lemma toNat_pml4Next_of_takes {leaf : ℕ} {entry : BitVec 64}
    (h : takesForLarge leaf entry.toNat = true) :
    (pml4Next m gva levels entrySize leaf entry).toNat =
      PagingMode.nextTable entry.toNat + gva.toNat % 2 ^ keptBits leaf := by
  unfold takesForLarge at h
  rw [Bool.and_eq_true, Bool.or_eq_true, decide_eq_true_eq, decide_eq_true_eq] at h
  obtain ⟨hleaf, hbit⟩ := h
  have hhas : Word.has entry pageLargeEnabled = true := by
    rw [Word.has_eq_getLsbD]
    exact hbit
  unfold pml4Next
  rcases hleaf with rfl | rfl
  · rw [if_pos ⟨rfl, hhas⟩]
    exact toNat_pageAddress _ _ (by decide) rfl
  · rw [if_neg (by simp), if_pos ⟨rfl, hhas⟩]
    exact toNat_pageAddress _ _ (by decide) rfl

/-- Where it does not, it goes on with the page the entry points to, if there is one. -/
lemma pml4Next_of_not_takes {leaf : ℕ} {entry : BitVec 64}
    (h : takesForLarge leaf entry.toNat = false) :
    pml4Next m gva levels entrySize leaf entry =
      if m.backed (PagingMode.nextTable entry.toNat) then
        pml4Loop m gva levels entrySize leaf
          (svmmGetHostPageFromGPA m (BitVec.ofNat 64 (PagingMode.nextTable entry.toNat))) entry
      else 0 := by
  have hnot : ∀ k, k = 2 ∨ k = 1 → ¬ (leaf = k ∧ Word.has entry pageLargeEnabled = true) := by
    rintro k hk ⟨rfl, hhas⟩
    rw [Word.has_eq_getLsbD] at hhas
    have htakes : takesForLarge leaf entry.toNat = true := by
      unfold takesForLarge
      rw [Bool.and_eq_true, Bool.or_eq_true, decide_eq_true_eq, decide_eq_true_eq]
      exact ⟨hk, hhas⟩
    rw [h] at htakes
    cases htakes
  rw [pml4Next, if_neg (hnot 2 (Or.inl rfl)), if_neg (hnot 1 (Or.inr rfl))]
  by_cases hbacked : m.backed (PagingMode.nextTable entry.toNat)
  · rw [if_pos hbacked]
    rw [Machine.backed, ofNat_nextTable] at hbacked
    rw [ofNat_nextTable, if_neg hbacked]
  · rw [if_neg hbacked]
    rw [Machine.backed, ofNat_nextTable, not_ne_iff] at hbacked
    rw [if_pos hbacked]

/-- One iteration from a table. -/
lemma pml4Loop_succ (m : Machine) (gva : BitVec 64) (hw : Walks M levels entrySize)
    {level table : ℕ} (hlevel : level ≤ M.top) (htable : table % 4096 = 0) (x : BitVec 64) :
    ∃ entry : BitVec 64, entry.toNat = M.entry m.guestByte gva.toNat level table ∧
      pml4Loop m gva levels entrySize (level + 1)
          (svmmGetHostPageFromGPA m (BitVec.ofNat 64 table)) x =
        pml4Next m gva levels entrySize level entry :=
  ⟨_, toNat_readEntry hw hlevel htable, rfl⟩

end Table

/-! ## The walk -/

section Walk

variable {m : Machine} {M : PagingMode} {levels : List ℕ} {entrySize : ℕ} {gva : BitVec 64}

lemma eq_zero_iff_toNat {x : BitVec 64} : x = 0 ↔ x.toNat = 0 := by
  constructor
  · rintro rfl
    rfl
  · exact fun h => BitVec.eq_of_toNat_eq h

/-- What the code makes of an entry is 0 exactly when the entry leads nowhere. -/
lemma pml4Next_eq_zero_iff (hw : Walks M levels entrySize) {level : ℕ} (hlevel : level ≤ M.top)
    (entry : BitVec 64) :
    pml4Next m gva levels entrySize level entry = 0 ↔
      EndsNowhere m M gva.toNat level entry.toNat := by
  induction level generalizing entry with
  | zero =>
      have htakes : takesForLarge 0 entry.toNat = false := by simp [takesForLarge]
      rw [pml4Next_of_not_takes htakes, EndsNowhere]
      split_ifs with hbacked
      · have haddress : (pml4Loop m gva levels entrySize 0
            (svmmGetHostPageFromGPA m (BitVec.ofNat 64 (PagingMode.nextTable entry.toNat)))
            entry).toNat = PagingMode.nextTable entry.toNat + gva.toNat % 2 ^ keptBits 0 :=
          toNat_pageAddress _ _ (by decide) rfl
        rw [eq_zero_iff_toNat, haddress, Nat.add_eq_zero_iff]
        exact ⟨fun h _ => h, fun h => h hbacked⟩
      · exact ⟨fun _ h => absurd h hbacked, fun _ => rfl⟩
  | succ level ih =>
      rw [EndsNowhere]
      cases htakes : takesForLarge (level + 1) entry.toNat with
      | true =>
          rw [if_pos rfl, eq_zero_iff_toNat, toNat_pml4Next_of_takes htakes, Nat.add_eq_zero_iff]
      | false =>
          rw [if_neg (by decide), pml4Next_of_not_takes htakes]
          split_ifs with hbacked
          · obtain ⟨entry', hentry', hloop⟩ := pml4Loop_succ m gva hw
              (Nat.le_of_succ_le hlevel) (nextTable_mod entry.toNat) entry
            rw [hloop, ih (Nat.le_of_succ_le hlevel), hentry']
            exact ⟨fun h _ => h, fun h => h hbacked⟩
          · exact ⟨fun _ h => absurd h hbacked, fun _ => rfl⟩

/-- From a table the two walks give the same exactly when the entries agree. -/
lemma faithful_pml4Loop_iff (hw : Walks M levels entrySize) {level : ℕ} (hlevel : level ≤ M.top)
    {table : ℕ} (htable : table % 4096 = 0) (x : BitVec 64)
    (hsame : SameTables m M gva.toNat level table) :
    Faithful
        (pml4Loop m gva levels entrySize (level + 1)
          (svmmGetHostPageFromGPA m (BitVec.ofNat 64 table)) x)
        (M.walk m.guestByte gva.toNat level table) ↔
      EntriesAgree m M gva.toNat level table := by
  induction level generalizing table x with
  | zero =>
      obtain ⟨entry, hentry, hloop⟩ := pml4Loop_succ m gva hw hlevel htable x
      have hbound := entry_lt hw m.guestByte gva.toNat 0 table
      rw [hloop, PagingMode.walk, EntriesAgree, ← hentry]
      rw [← hentry] at hbound
      cases hpresent : entry.toNat.testBit 0 with
      | false =>
          simp only [Bool.false_eq_true, if_false]
          rw [faithful_none]
          exact pml4Next_eq_zero_iff hw hlevel entry
      | true =>
          have htakes : takesForLarge 0 entry.toNat = false := by simp [takesForLarge]
          simp only [if_true]
          rw [faithful_some, pml4Next_of_not_takes htakes, hw.page _ _ hbound]
          split_ifs with hbacked
          · have haddress : (pml4Loop m gva levels entrySize 0
                (svmmGetHostPageFromGPA m (BitVec.ofNat 64 (PagingMode.nextTable entry.toNat)))
                entry).toNat = PagingMode.nextTable entry.toNat + gva.toNat % 2 ^ keptBits 0 :=
              toNat_pageAddress _ _ (by decide) rfl
            rw [haddress]
            exact ⟨fun h => ⟨hbacked, h.2⟩, fun h => ⟨rfl, h.2⟩⟩
          · constructor
            · rintro ⟨hzero, hne⟩
              exact absurd hzero.symm hne
            · exact fun h => absurd h.1 hbacked
  | succ level ih =>
      obtain ⟨entry, hentry, hloop⟩ := pml4Loop_succ m gva hw hlevel htable x
      have hbound := entry_lt hw m.guestByte gva.toNat (level + 1) table
      rw [SameTables, ← hentry] at hsame
      rw [hloop, PagingMode.walk, EntriesAgree, ← hentry]
      rw [← hentry] at hbound
      cases hpresent : entry.toNat.testBit 0 with
      | false =>
          simp only [Bool.false_eq_true, if_false]
          rw [faithful_none]
          exact pml4Next_eq_zero_iff hw hlevel entry
      | true =>
          obtain ⟨htakes, hnext⟩ := hsame.2 hpresent
          simp only [if_true]
          cases hlarge : M.largePage (level + 1) entry.toNat with
          | true =>
              rw [hlarge] at htakes
              simp only [if_true]
              rw [faithful_some, toNat_pml4Next_of_takes htakes, PageAgrees,
                hw.large (level + 1) entry.toNat gva.toNat hbound hlarge]
          | false =>
              rw [hlarge] at htakes
              have hsame' := hnext hlarge
              have hbacked : m.backed (PagingMode.nextTable entry.toNat) := by
                cases level with
                | zero => exact hsame'
                | succ level => exact hsame'.1
              simp only [Bool.false_eq_true, if_false]
              rw [pml4Next_of_not_takes htakes, if_pos hbacked]
              exact ih (Nat.le_of_succ_le hlevel) (nextTable_mod _) entry hsame'

/-- The walk from CR3. -/
lemma faithful_pml4GetGpaFromGva_iff (hw : Walks M levels entrySize)
    (hroot : M.root m.cr3.toNat = PagingMode.nextTable m.cr3.toNat)
    (hsame : SameTables m M gva.toNat M.top (M.root m.cr3.toNat)) :
    Faithful (pml4GetGpaFromGva m gva levels entrySize)
        (M.translate m.guestByte gva.toNat m.cr3.toNat) ↔
      EntriesAgree m M gva.toNat M.top (M.root m.cr3.toNat) := by
  rw [hroot] at hsame
  have hbacked : m.backed (PagingMode.nextTable m.cr3.toNat) := by
    cases htop : M.top with
    | zero =>
        rw [htop] at hsame
        exact hsame
    | succ level =>
        rw [htop] at hsame
        exact hsame.1
  have hcode : pml4GetGpaFromGva m gva levels entrySize =
      pml4Loop m gva levels entrySize (M.top + 1)
        (svmmGetHostPageFromGPA m (BitVec.ofNat 64 (PagingMode.nextTable m.cr3.toNat))) 0 := by
    unfold Machine.backed at hbacked
    rw [ofNat_nextTable] at hbacked ⊢
    unfold pml4GetGpaFromGva
    dsimp only
    rw [if_neg hbacked, hw.length]
  rw [hcode, PagingMode.translate, hroot]
  exact faithful_pml4Loop_iff hw (Nat.le_refl _) (nextTable_mod _) 0 hsame

end Walk

/-- **The page walk is the architecture's** exactly when the entries on the way agree with what
the code makes of them, wherever the walk reads the tables that the architecture reads. -/
theorem page_walk_faithful_iff (m : Machine) (gva : BitVec 64) (hsame : m.readsSameTables gva) :
    Faithful (svmmGetGpaFromGva m gva) (m.translate gva) ↔ m.entriesAgree gva := by
  obtain ⟨hroot, htables⟩ := hsame
  unfold svmmGetGpaFromGva Machine.translate Machine.entriesAgree
  unfold Machine.pagingMode at hroot htables ⊢
  split_ifs at hroot htables ⊢ with hlme hpae
  · exact faithful_pml4GetGpaFromGva_iff walks_fourLevel hroot htables
  · exact faithful_pml4GetGpaFromGva_iff walks_pae hroot htables
  · exact faithful_pml4GetGpaFromGva_iff (walks_legacy _) hroot htables

/-- A machine in 4-level paging with its first table at 0x1000 and 1 GB of RAM. -/
def fourLevelMachine (byte : BitVec 64 → BitVec 8) : Machine where
  cr3 := 0x1000
  cr4 := 0x20
  efer := 0x100
  smbase := 0x30000
  ram := 0x10000000
  ramSize := 0x40000000
  memoryEnd := 0x50000000 + romSize + pageSize + smmRamSize
  pmConf5b := 0
  byte := byte

/-- Tables at 0x1000 to 0x4000 that map the first page to 0x5000. -/
def pageTables (a : BitVec 64) : BitVec 8 :=
  if a = 0x10001000 ∨ a = 0x10002000 ∨ a = 0x10003000 ∨ a = 0x10004000 then 0x03
  else if a = 0x10001001 then 0x20
  else if a = 0x10002001 then 0x30
  else if a = 0x10003001 then 0x40
  else if a = 0x10004001 then 0x50
  else 0

/-- A small page. -/
theorem page_walk_faithful_small_page :
    (fourLevelMachine pageTables).translate 0x123 = some 0x5123 ∧
      Faithful (svmmGetGpaFromGva (fourLevelMachine pageTables) 0x123)
        ((fourLevelMachine pageTables).translate 0x123) :=
  ⟨by decide, (page_walk_faithful_iff _ _ (by decide)).mpr (by decide)⟩

/-- With nothing but zeros in memory no address is mapped, and the walk answers 0x123. -/
theorem page_walk_follows_absent_entry :
    (fourLevelMachine fun _ => 0).translate 0x123 = none ∧
      svmmGetGpaFromGva (fourLevelMachine fun _ => 0) 0x123 = 0x123 ∧
      ¬ Faithful (svmmGetGpaFromGva (fourLevelMachine fun _ => 0) 0x123)
        ((fourLevelMachine fun _ => 0).translate 0x123) := by
  decide

end Svmm
