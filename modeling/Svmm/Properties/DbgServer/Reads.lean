import Svmm.Construction.MemorySlots
import Svmm.Construction.DbgServer

/-!
# What a memory read answers

A request is refused by a comparison of the host pointer of its first byte with the end of the
memory, and its data is then copied from host memory in chunks, each from the pointer of its first
byte on.  Guest memory is not in one piece there, so that a chunk is the guest's memory only as long
as the addresses in it follow each other in the host as well.
-/

namespace Svmm

/-! ## The answers -/

section Requests

variable (m : Machine) (addr size : BitVec 64)

/-- The address at an offset of a request. -/
def Machine.hostAt (i : ℕ) : BitVec 64 := svmmGetHostPageFromGPA m (addr + BitVec.ofNat 64 i)

/-- The packets are data, and together they are the guest's memory byte by byte. -/
def Machine.IsData (packets : List (List (BitVec 8))) : Prop :=
  [] ∉ packets ∧ packets.flatten.length = size.toNat ∧
    ∀ i < size.toNat, m.hostAt addr i ≠ 0 ∧ packets.flatten[i]? = some (m.byte (m.hostAt addr i))

/-- All addresses of the request have a host pointer. -/
def Machine.InGuestMemory : Prop := ∀ i < size.toNat, m.hostAt addr i ≠ 0

/-- The request is answered with its data or by one empty packet, and with its data when it lies in
guest memory. -/
def Machine.AnswersRead : Prop :=
  (m.IsData addr size (dbgReadMemory m addr size) ∨ dbgReadMemory m addr size = [[]]) ∧
    (m.InGuestMemory addr size → m.IsData addr size (dbgReadMemory m addr size))

/-- The comparison refuses the request. -/
def Machine.RefusesRead : Prop := m.memoryEnd ≤ svmmGetHostPageFromGPA m addr + size

instance : Decidable (m.RefusesRead addr size) := inferInstanceAs (Decidable (_ ≤ _))

/-- The addresses of a request have host pointers, which follow each other in each of its chunks. -/
def Machine.ReadsInPieces : Prop :=
  ∀ i < size.toNat, m.hostAt addr i ≠ 0 ∧
    m.hostAt addr i = m.hostAt addr (dbgMaxPacketDataSize * (i / dbgMaxPacketDataSize)) +
      BitVec.ofNat 64 (i % dbgMaxPacketDataSize)

/-- The request is refused and some address of it has no host pointer; or it has no bytes; or it is
below 2^63 bytes, and its first address has no host pointer or it can be read in pieces. -/
def Machine.ReadsRight : Prop :=
  if m.RefusesRead addr size then ¬ m.InGuestMemory addr size
  else size = 0 ∨ size.toNat < 2 ^ 63 ∧ (m.hostAt addr 0 = 0 ∨ m.ReadsInPieces addr size)

end Requests

/-! ## The loop -/

section Loop

variable {m : Machine} {addr size : BitVec 64} {i : ℕ}

/-- The byte that is sent at an offset, when all goes well. -/
def Machine.chunkByte (m : Machine) (addr : BitVec 64) (i : ℕ) : BitVec 8 :=
  m.byte (m.hostAt addr (dbgMaxPacketDataSize * (i / dbgMaxPacketDataSize)) +
    BitVec.ofNat 64 (i % dbgMaxPacketDataSize))

lemma toInt_of_lt (h : size.toNat < 2 ^ 63) : size.toInt = size.toNat :=
  BitVec.toInt_eq_toNat_of_lt (by omega)

lemma dbgReadLoop_of_le (h : size.toInt ≤ i) : dbgReadLoop m addr size i = [] := by
  rw [dbgReadLoop, if_neg (Int.not_lt.mpr h)]

lemma dbgReadLoop_of_unmapped (hi : (i : ℤ) < size.toInt) (h : m.hostAt addr i = 0) :
    dbgReadLoop m addr size i = [[]] := by
  rw [dbgReadLoop, if_pos hi]
  exact if_pos h

lemma dbgReadLoop_of_mapped (hi : (i : ℤ) < size.toInt) (h : m.hostAt addr i ≠ 0) :
    dbgReadLoop m addr size i = m.bytes (m.hostAt addr i) (dbgChunk size i) ::
      dbgReadLoop m addr size (i + dbgMaxPacketDataSize) := by
  rw [dbgReadLoop, if_pos hi]
  exact if_neg h

/-- A chunk is what it should send. -/
lemma bytes_eq_chunkBytes (m : Machine) (addr : BitVec 64) (k : ℕ) {n : ℕ}
    (hn : n ≤ dbgMaxPacketDataSize) :
    m.bytes (m.hostAt addr (dbgMaxPacketDataSize * k)) n =
      (List.range' (dbgMaxPacketDataSize * k) n).map (m.chunkByte addr) := by
  rw [Machine.bytes, List.range'_eq_map_range, List.map_map]
  refine List.map_congr_left fun j hj => ?_
  have hj := List.mem_range.mp hj
  have hdiv : (dbgMaxPacketDataSize * k + j) / dbgMaxPacketDataSize = k := by
    unfold dbgMaxPacketDataSize at hn ⊢
    omega
  have hmod : (dbgMaxPacketDataSize * k + j) % dbgMaxPacketDataSize = j := by
    unfold dbgMaxPacketDataSize at hn ⊢
    omega
  rw [Function.comp_apply, Machine.chunkByte, hdiv, hmod]

/-- The loop from a chunk on, when all chunks have host pointers. -/
lemma dbgReadLoop_data (hsize : size.toNat < 2 ^ 63) (k : ℕ)
    (h : ∀ j, k ≤ j → dbgMaxPacketDataSize * j < size.toNat →
      m.hostAt addr (dbgMaxPacketDataSize * j) ≠ 0) :
    [] ∉ dbgReadLoop m addr size (dbgMaxPacketDataSize * k) ∧
      (dbgReadLoop m addr size (dbgMaxPacketDataSize * k)).flatten =
        (List.range' (dbgMaxPacketDataSize * k) (size.toNat - dbgMaxPacketDataSize * k)).map
          (m.chunkByte addr) := by
  induction hleft : size.toNat - dbgMaxPacketDataSize * k using Nat.strong_induction_on
    generalizing k with
  | _ left ih =>
      by_cases hlt : dbgMaxPacketDataSize * k < size.toNat
      · have hi : ((dbgMaxPacketDataSize * k : ℕ) : ℤ) < size.toInt := by
          rw [toInt_of_lt hsize]
          omega
        have hbytes := bytes_eq_chunkBytes m addr k
          (Nat.min_le_left dbgMaxPacketDataSize (size.toNat - dbgMaxPacketDataSize * k))
        obtain ⟨hnil, hflatten⟩ := ih (size.toNat - dbgMaxPacketDataSize * (k + 1)) (by
          rw [← hleft]
          unfold dbgMaxPacketDataSize at hlt ⊢
          omega) (k + 1) (fun j hj => h j (by omega)) rfl
        rw [dbgReadLoop_of_mapped hi (h k (Nat.le_refl k) hlt), dbgChunk, hbytes, hleft]
        refine ⟨?_, ?_⟩
        · rw [List.mem_cons, not_or]
          refine ⟨fun hempty => ?_, hnil⟩
          have hlength := congrArg List.length hempty
          rw [List.length_map, List.length_range', List.length_nil] at hlength
          unfold dbgMaxPacketDataSize at *
          omega
        · rw [List.flatten_cons, ← Nat.mul_succ, hflatten, ← List.map_append]
          refine congrArg _ ?_
          rcases Nat.le_total dbgMaxPacketDataSize left with hfull | hlast
          · have hrest : size.toNat - dbgMaxPacketDataSize * (k + 1) =
                left - dbgMaxPacketDataSize := by
              rw [Nat.mul_succ]
              omega
            rw [Nat.min_eq_left hfull, hrest, Nat.mul_succ, List.range'_append_1,
              Nat.add_sub_cancel' hfull]
          · have hrest : size.toNat - dbgMaxPacketDataSize * (k + 1) = 0 := by
              rw [Nat.mul_succ]
              omega
            rw [Nat.min_eq_right hlast, hrest, List.range'_zero, List.append_nil]
      · have hend : size.toInt ≤ (dbgMaxPacketDataSize * k : ℕ) := by
          rw [toInt_of_lt hsize]
          omega
        have hzero : left = 0 := by omega
        rw [dbgReadLoop_of_le hend, hzero]
        exact ⟨List.not_mem_nil, rfl⟩

/-- A chunk without a host pointer ends the answer by an empty packet. -/
lemma nil_mem_dbgReadLoop (hsize : size.toNat < 2 ^ 63) {k j : ℕ} (hkj : k ≤ j)
    (hj : dbgMaxPacketDataSize * j < size.toNat)
    (h : m.hostAt addr (dbgMaxPacketDataSize * j) = 0) :
    [] ∈ dbgReadLoop m addr size (dbgMaxPacketDataSize * k) := by
  have hlt {x : ℕ} (hx : x ≤ j) : ((dbgMaxPacketDataSize * x : ℕ) : ℤ) < size.toInt := by
    rw [toInt_of_lt hsize]
    unfold dbgMaxPacketDataSize at hj ⊢
    omega
  induction hkj using Nat.decreasingInduction with
  | self =>
      rw [dbgReadLoop_of_unmapped (hlt (Nat.le_refl j)) h]
      exact List.mem_singleton_self _
  | of_succ k hk ih =>
      by_cases hmapped : m.hostAt addr (dbgMaxPacketDataSize * k) = 0
      · rw [dbgReadLoop_of_unmapped (hlt (Nat.le_of_lt hk)) hmapped]
        exact List.mem_singleton_self _
      · rw [dbgReadLoop_of_mapped (hlt (Nat.le_of_lt hk)) hmapped]
        exact List.mem_cons_of_mem _ ih

/-- The loop sends the guest's memory exactly when the addresses have host pointers and each chunk
holds the bytes of its addresses. -/
lemma isData_dbgReadLoop_iff (hsize : size.toNat < 2 ^ 63) :
    m.IsData addr size (dbgReadLoop m addr size 0) ↔
      ∀ i < size.toNat, m.hostAt addr i ≠ 0 ∧ m.chunkByte addr i = m.byte (m.hostAt addr i) := by
  have hflat {i : ℕ} (hi : i < size.toNat) :
      ((List.range' 0 size.toNat).map (m.chunkByte addr))[i]? = some (m.chunkByte addr i) := by
    rw [List.getElem?_map, List.getElem?_range' hi, Nat.zero_add, Nat.one_mul]
    rfl
  constructor
  · rintro ⟨hnil, -, hbytes⟩ i hi
    have hmapped (j : ℕ) (_ : 0 ≤ j) (hj : dbgMaxPacketDataSize * j < size.toNat) :
        m.hostAt addr (dbgMaxPacketDataSize * j) ≠ 0 :=
      fun hzero => hnil (nil_mem_dbgReadLoop hsize (Nat.zero_le j) hj hzero)
    have hflatten := (dbgReadLoop_data hsize 0 hmapped).2
    rw [Nat.mul_zero, Nat.sub_zero] at hflatten
    obtain ⟨hhost, hbyte⟩ := hbytes i hi
    rw [hflatten, hflat hi] at hbyte
    exact ⟨hhost, Option.some.inj hbyte⟩
  · intro h
    obtain ⟨hnil, hflatten⟩ := dbgReadLoop_data hsize 0 fun j _ hj => (h _ hj).1
    rw [Nat.mul_zero, Nat.sub_zero] at hflatten
    refine ⟨hnil, ?_, fun i hi => ⟨(h i hi).1, ?_⟩⟩
    · rw [hflatten, List.length_map, List.length_range']
    · rw [hflatten, hflat hi, (h i hi).2]

end Loop

/-! ## The requests that are answered -/

section Contents

variable {m : Machine} {addr size : BitVec 64} {i : ℕ}

/-- The machine with other bytes in the memory of the process. -/
def Machine.withBytes (m : Machine) (byte : BitVec 64 → BitVec 8) : Machine :=
  { m with byte := byte }

/-- For every content of the memory a chunk holds the bytes of its addresses only when the pointers
are the same. -/
lemma chunkByte_eq_iff :
    (∀ byte, (m.withBytes byte).chunkByte addr i = (m.withBytes byte).byte (m.hostAt addr i)) ↔
      m.hostAt addr i = m.hostAt addr (dbgMaxPacketDataSize * (i / dbgMaxPacketDataSize)) +
        BitVec.ofNat 64 (i % dbgMaxPacketDataSize) := by
  constructor
  · intro h
    have hmark := h fun p => if p = m.hostAt addr i then 1 else 0
    by_contra hne
    have hleft : (if m.hostAt addr (dbgMaxPacketDataSize * (i / dbgMaxPacketDataSize)) +
        BitVec.ofNat 64 (i % dbgMaxPacketDataSize) = m.hostAt addr i then (1 : BitVec 8) else 0) =
        if m.hostAt addr i = m.hostAt addr i then 1 else 0 := hmark
    rw [if_neg fun heq => hne heq.symm, if_pos rfl] at hleft
    cases hleft
  · intro h byte
    show byte _ = byte _
    exact congrArg byte h.symm

/-- The answers, when the comparison lets a request of less than 2^63 bytes through. -/
lemma answersRead_of_accepted (haccepted : ¬ m.RefusesRead addr size)
    (hsize : size.toNat < 2 ^ 63) :
    m.AnswersRead addr size ↔
      size = 0 ∨ m.hostAt addr 0 = 0 ∨ m.IsData addr size (dbgReadLoop m addr size 0) := by
  have hpackets : dbgReadMemory m addr size = dbgReadLoop m addr size 0 := if_neg haccepted
  unfold Machine.AnswersRead
  rw [hpackets]
  by_cases hempty : size = 0
  · have hdata : m.IsData addr size (dbgReadLoop m addr size 0) := by
      rw [isData_dbgReadLoop_iff hsize, hempty]
      exact fun i hi => absurd hi (Nat.not_lt_zero i)
    exact iff_of_true ⟨Or.inl hdata, fun _ => hdata⟩ (Or.inl hempty)
  have hpos : 0 < size.toNat := by
    rw [Nat.pos_iff_ne_zero]
    exact fun h => hempty (BitVec.eq_of_toNat_eq h)
  have hfirst : ((0 : ℕ) : ℤ) < size.toInt := by
    rw [toInt_of_lt hsize]
    omega
  rw [or_iff_right hempty]
  by_cases hmapped : m.hostAt addr 0 = 0
  · refine iff_of_true ⟨Or.inr (dbgReadLoop_of_unmapped hfirst hmapped), fun hin => ?_⟩
      (Or.inl hmapped)
    exact absurd hmapped (hin 0 hpos)
  · rw [or_iff_right hmapped]
    have hnotRefused : dbgReadLoop m addr size 0 ≠ [[]] := by
      rw [dbgReadLoop_of_mapped hfirst hmapped, dbgChunk]
      intro h
      have hlength := congrArg List.length (List.cons.inj h).1
      rw [Machine.bytes, List.length_map, List.length_range, List.length_nil] at hlength
      unfold dbgMaxPacketDataSize at hlength
      omega
    constructor
    · rintro ⟨hdata | hrefused, -⟩
      · exact hdata
      · exact absurd hrefused hnotRefused
    · exact fun hdata => ⟨Or.inl hdata, fun _ => hdata⟩

end Contents

/-- A read request is answered with the guest's memory, or refused by one empty packet and then not
in guest memory, whatever the memory holds, exactly when the comparison refuses it and some of its
addresses have no host pointer; or it lets it through, and the request has no bytes, or it has less
than 2^63 and its first address has no host pointer, or all have one and they follow each other
inside of its chunks. -/
theorem dbg_read_answers_iff (m : Machine) (addr size : BitVec 64) :
    (∀ byte, (m.withBytes byte).AnswersRead addr size) ↔ m.ReadsRight addr size := by
  unfold Machine.ReadsRight
  split_ifs with hrefuses
  · have hrefused (byte : BitVec 64 → BitVec 8) :
        dbgReadMemory (m.withBytes byte) addr size = [[]] :=
      if_pos hrefuses
    have hnoData (byte : BitVec 64 → BitVec 8) : ¬ (m.withBytes byte).IsData addr size [[]] :=
      fun hdata => hdata.1 (List.mem_singleton_self _)
    constructor
    · intro h hin
      have hanswers := (h m.byte).2 hin
      rw [hrefused] at hanswers
      exact hnoData m.byte hanswers
    · intro hout byte
      exact ⟨Or.inr (hrefused byte), fun hin => absurd hin hout⟩
  · by_cases hsize : size.toNat < 2 ^ 63
    · have hanswers (byte : BitVec 64 → BitVec 8) := answersRead_of_accepted (m := m.withBytes byte)
        hrefuses hsize
      simp only [hanswers, and_iff_right hsize]
      by_cases hempty : size = 0
      · exact iff_of_true (fun _ => Or.inl hempty) (Or.inl hempty)
      by_cases hmapped : m.hostAt addr 0 = 0
      · exact iff_of_true (fun _ => Or.inr (Or.inl hmapped)) (Or.inr (Or.inl hmapped))
      rw [or_iff_right hempty, or_iff_right hmapped]
      constructor
      · intro h i hi
        have hdata (byte : BitVec 64 → BitVec 8) := (isData_dbgReadLoop_iff (m := m.withBytes byte)
          hsize).mp (((h byte).resolve_left hempty).resolve_left hmapped) i hi
        exact ⟨(hdata m.byte).1, chunkByte_eq_iff.mp fun byte => (hdata byte).2⟩
      · intro h byte
        refine Or.inr (Or.inr ((isData_dbgReadLoop_iff hsize).mpr fun i hi => ?_))
        obtain ⟨hhost, hpiece⟩ := h i hi
        exact ⟨hhost, chunkByte_eq_iff.mpr hpiece byte⟩
    · -- the loop compares with a negative number, and nothing is sent
      have hnegative : size.toInt ≤ 0 := by
        rw [BitVec.toInt_eq_toNat_cond, if_neg (by omega)]
        have hlt := size.isLt
        omega
      have hloop : dbgReadMemory m addr size = dbgReadLoop m addr size 0 := if_neg hrefuses
      have hnone : dbgReadMemory m addr size = [] := by
        rw [hloop, dbgReadLoop_of_le hnegative]
      have hpos : 0 < size.toNat := by omega
      refine iff_of_false (fun h => ?_) ?_
      · rcases (h m.byte).1 with hdata | hrefused
        · have hlength := hdata.2.1
          rw [Machine.withBytes, hnone] at hlength
          exact absurd hlength (Nat.ne_of_lt hpos)
        · rw [Machine.withBytes, hnone] at hrefused
          cases hrefused
      · rintro (rfl | ⟨hlt, -⟩)
        · exact absurd hpos (Nat.lt_irrefl 0)
        · exact hsize hlt

/-- Two bytes across the start of the BIOS range: the second one is sent from low memory.  And the
last byte of SMM RAM, which is refused. -/
theorem dbg_read_crosses_bios :
    ¬ ((bootMachine 0x10000).withBytes fun p => if p = 0x400F0000 then 1 else 0).AnswersRead
        0xDFFFF 2 ∧
      ¬ ({ bootMachine 0x10000 with pmConf5b := 2 } : Machine).AnswersRead 0x4FFFF 1 := by
  constructor
  · rw [answersRead_of_accepted (by decide +kernel) (by decide), isData_dbgReadLoop_iff (by decide)]
    rintro (hempty | hzero | h)
    · exact absurd hempty (by decide)
    · exact absurd hzero (by decide +kernel)
    · exact absurd (h 1 (by decide)).2 (by decide +kernel)
  · rintro ⟨-, h⟩
    have hpackets : dbgReadMemory { bootMachine 0x10000 with pmConf5b := 2 } 0x4FFFF 1 = [[]] :=
      if_pos (by decide +kernel)
    have hin : Machine.InGuestMemory { bootMachine 0x10000 with pmConf5b := 2 } 0x4FFFF 1 := by
      unfold Machine.InGuestMemory
      decide +kernel
    have hdata := h hin
    rw [hpackets] at hdata
    exact hdata.1 (List.mem_singleton_self _)

end Svmm
