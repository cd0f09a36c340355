import Svmm.Framework.Word
import Svmm.Framework.Paging

/-!
# Guest addresses

`SvmmGetHostPageFromGPA`, `Pml4GetGpaFromGva` and `SvmmGetGpaFromGva` of `SVMM.c`: from a
guest-physical address to a host pointer, and from a guest-virtual address to a guest-physical
one by a walk through the guest's page tables.

A host pointer is its 64-bit value, `NULL` is 0, and the process's memory is a function from
pointers to bytes.  Both walks answer 0 when they fail.
-/

namespace Svmm

/-! ## Constants -/

def pageSize : BitVec 64 := 0x1000
def smmRamSize : BitVec 64 := 0x20000
def biosRomSz : BitVec 64 := 1 <<< 21
def exRomSize : BitVec 64 := 0x20000
def romSize : BitVec 64 := biosRomSz + exRomSize

/-- `PAGING_MASK` and `BX_CR3_PAGING_MASK`. -/
def pagingMask : BitVec 64 := 0x000ffffffffff000

/-- Bit of `PAGE_1GB_ENABLED` and `PAGE_2MB_ENABLED`. -/
def pageLargeEnabled : ℕ := 7

/-- Bit of `EFER_LME`. -/
def eferLme : ℕ := 8

/-- Bit of `CR4_PAE`. -/
def cr4Pae : ℕ := 5

/-! ## The machine -/

/-- The registers and globals that the address functions read. -/
structure Machine where
  cr3 : BitVec 64
  cr4 : BitVec 64
  efer : BitVec 32
  smbase : BitVec 64
  ram : BitVec 64
  ramSize : BitVec 64
  memoryEnd : BitVec 64
  /-- `PciDevices[0][BX_PCI_DEVICE(1, 3)].conf[0x5b]`. -/
  pmConf5b : BitVec 8
  /-- The memory of the process. -/
  byte : BitVec 64 → BitVec 8

/-- `SvmmGetHostPageFromGPA`. -/
def svmmGetHostPageFromGPA (m : Machine) (gpaAddress : BitVec 64) : BitVec 64 :=
  let hostAddress :=
    if 0xFFFE0000 ≤ gpaAddress ∧ gpaAddress ≤ 0xFFFFFFFF then
      m.ram + m.ramSize + 0xE0000 + (gpaAddress - 0xFFFE0000)
    else if 0xE0000 ≤ gpaAddress ∧ gpaAddress ≤ 0xFFFFF then m.ram + m.ramSize + gpaAddress
    else if Word.has m.pmConf5b 1 ∧ m.smbase ≤ gpaAddress ∧
        gpaAddress ≤ m.smbase + smmRamSize then
      m.ram + m.ramSize + romSize + pageSize + ((gpaAddress - m.smbase) &&& (smmRamSize - 1))
    else m.ram + gpaAddress
  if m.memoryEnd ≤ hostAddress then 0 else hostAddress

/-! ## The walk -/

/-- `*(ULONG*)pte` with 4-byte entries, `*(ULONG64*)pte` otherwise. -/
def Machine.readEntry (m : Machine) (pte : BitVec 64) (entrySize : ℕ) : BitVec 64 :=
  BitVec.ofNat 64 (Nat.ofDigits 256
    ((List.range (if entrySize = 4 then 4 else 8)).map fun i =>
      (m.byte (pte + BitVec.ofNat 64 i)).toNat))

/-- `12` plus the `Levels` below `leaf`. -/
def bitsSum (levels : List ℕ) (leaf : ℕ) : ℕ := 12 + (levels.take leaf).sum

/-- The loop of `Pml4GetGpaFromGva`, entered with `leaf` counting the iterations left. -/
def pml4Loop (m : Machine) (gva : BitVec 64) (levels : List ℕ) (entrySize : ℕ) :
    ℕ → BitVec 64 → BitVec 64 → BitVec 64
  | 0, _, entry => (entry &&& pagingMask) + (gva &&& 0xfff)
  | leaf + 1, phys, _ =>
      let pte := phys + ((gva >>> bitsSum levels leaf) &&& ((1#64 <<< levels.getD leaf 0) - 1)) *
        BitVec.ofNat 64 entrySize
      let entry := m.readEntry pte entrySize
      if leaf = 2 ∧ Word.has entry pageLargeEnabled then
        (entry &&& pagingMask) + (gva &&& 0x1fffffff)
      else if leaf = 1 ∧ Word.has entry pageLargeEnabled then
        (entry &&& pagingMask) + (gva &&& 0x1fffff)
      else
        let phys := svmmGetHostPageFromGPA m (entry &&& pagingMask)
        if phys = 0 then 0 else pml4Loop m gva levels entrySize leaf phys entry

/-- `Pml4GetGpaFromGva`; `LevelSize` is the length of `Levels`. -/
def pml4GetGpaFromGva (m : Machine) (gva : BitVec 64) (levels : List ℕ) (entrySize : ℕ) :
    BitVec 64 :=
  let phys := svmmGetHostPageFromGPA m (m.cr3 &&& pagingMask)
  if phys = 0 then 0 else pml4Loop m gva levels entrySize levels.length phys 0

def pml4Levels : List ℕ := [9, 9, 9, 9]
def pdePaeLevels : List ℕ := [9, 9, 2]
def pdeNoPaeLevels : List ℕ := [10, 10]

/-- `SvmmGetGpaFromGva`. -/
def svmmGetGpaFromGva (m : Machine) (gva : BitVec 64) : BitVec 64 :=
  if Word.has m.efer eferLme then pml4GetGpaFromGva m gva pml4Levels 8
  else if Word.has m.cr4 cr4Pae then pml4GetGpaFromGva m gva pdePaeLevels 8
  else pml4GetGpaFromGva m gva pdeNoPaeLevels 4

end Svmm
