import Svmm.Construction.MemorySlots

/-!
# Where the VMM finds guest memory

`SvmmGetHostPageFromGPA` repeats in a chain of range tests the layout that `gvm_init` writes as
a table of slots, and device models and the debugger call it with addresses that nothing has
checked.  Both questions about it are questions about the offset from `Ram` at which the chain
puts an address: `hostOffset` is that offset as a number, and
`toNat_svmmGetHostPageFromGPA` reduces the function to it.
-/

namespace Svmm

namespace Machine

variable (m : Machine)

/-- The address passes the test for the window of SMM RAM. -/
def InSmmTest (gpa : BitVec 64) : Prop :=
  Word.has m.pmConf5b 1 ∧ m.smbase ≤ gpa ∧ gpa ≤ m.smbase + smmRamSize

instance (gpa : BitVec 64) : Decidable (m.InSmmTest gpa) := inferInstanceAs (Decidable (_ ∧ _))

/-- The offset from `Ram` at which the lookup puts an address. -/
def hostOffset (gpa : BitVec 64) : ℕ :=
  if 0xFFFE0000 ≤ gpa.toNat ∧ gpa.toNat ≤ 0xFFFFFFFF then
    0x400E0000 + (gpa.toNat - 0xFFFE0000)
  else if 0xE0000 ≤ gpa.toNat ∧ gpa.toNat ≤ 0xFFFFF then 0x40000000 + gpa.toNat
  else if m.InSmmTest gpa then 0x40221000 + (gpa.toNat - m.smbase.toNat) % 0x20000
  else gpa.toNat

end Machine

/-- The offset of SMM RAM from the start of the memory block. -/
def smmRamOffset : BitVec 64 := bootRamSize + romSize + pageSize

lemma toNat_smmRamOffset : smmRamOffset.toNat = 0x40221000 := by decide

lemma toNat_bootRamSize : bootRamSize.toNat = 0x40000000 := by decide

lemma toNat_smmRamSize : smmRamSize.toNat = 0x20000 := by decide

lemma toNat_bootMemorySize : bootMemorySize.toNat = 0x40241000 := by decide

lemma bootMachine_booted : (bootMachine 0x10000).Booted where
  ramSize_eq := rfl
  memoryEnd_eq := rfl
  ram_pos := by decide
  ram_fits := by decide

namespace Machine.Booted

variable {m : Machine} (hb : m.Booted)
include hb

lemma ram_lt : m.ram.toNat + 0x40241000 < 2 ^ 64 := by
  have := hb.ram_fits
  rwa [toNat_bootMemorySize] at this

lemma toNat_memoryEnd : m.memoryEnd.toNat = m.ram.toNat + 0x40241000 := by
  have hend : m.memoryEnd = m.ram + bootMemorySize := by
    rw [hb.memoryEnd_eq]
    simp only [bootMemorySize, BitVec.add_assoc]
  rw [hend, BitVec.toNat_add, toNat_bootMemorySize]
  exact Nat.mod_eq_of_lt hb.ram_lt

end Machine.Booted

lemma toNat_and_smmRamMask (x : BitVec 64) :
    (x &&& (smmRamSize - 1)).toNat = x.toNat % 0x20000 := by
  have hmask : (smmRamSize - 1).toNat = 2 ^ 17 - 1 := rfl
  exact Word.toNat_and_mask hmask x

/-- The lookup adds the offset to `Ram`, as the machine adds, and cuts off at `MemoryEnd`. -/
lemma toNat_svmmGetHostPageFromGPA {m : Machine} (hb : m.Booted) (gpa : BitVec 64) :
    (svmmGetHostPageFromGPA m gpa).toNat =
      if m.memoryEnd.toNat ≤ (m.ram.toNat + m.hostOffset gpa) % 2 ^ 64 then 0
      else (m.ram.toNat + m.hostOffset gpa) % 2 ^ 64 := by
  have hcut : ∀ a : BitVec 64, a.toNat = (m.ram.toNat + m.hostOffset gpa) % 2 ^ 64 →
      (if m.memoryEnd ≤ a then 0 else a).toNat =
        if m.memoryEnd.toNat ≤ (m.ram.toNat + m.hostOffset gpa) % 2 ^ 64 then 0
        else (m.ram.toNat + m.hostOffset gpa) % 2 ^ 64 := by
    intro a ha
    rw [← ha]
    by_cases hpast : m.memoryEnd ≤ a
    · rw [if_pos hpast, if_pos (BitVec.le_def.mp hpast)]
      rfl
    · rw [if_neg hpast, if_neg (mt BitVec.le_def.mpr hpast)]
  have hhigh : (0xFFFE0000 ≤ gpa ∧ gpa ≤ 0xFFFFFFFF) ↔
      0xFFFE0000 ≤ gpa.toNat ∧ gpa.toNat ≤ 0xFFFFFFFF := by
    simp [BitVec.le_def]
  have hbios : (0xE0000 ≤ gpa ∧ gpa ≤ 0xFFFFF) ↔
      0xE0000 ≤ gpa.toNat ∧ gpa.toNat ≤ 0xFFFFF := by
    simp [BitVec.le_def]
  have hsmm : (Word.has m.pmConf5b 1 ∧ m.smbase ≤ gpa ∧ gpa ≤ m.smbase + smmRamSize) ↔
      m.InSmmTest gpa := Iff.rfl
  unfold svmmGetHostPageFromGPA
  apply hcut
  simp only [hhigh, hbios, hsmm, hb.ramSize_eq]
  unfold Machine.hostOffset
  split_ifs with h1 h2 h3
  · have hsub : (gpa - 0xFFFE0000).toNat = gpa.toNat - 0xFFFE0000 :=
      BitVec.toNat_sub_of_le (hhigh.mpr h1).1
    have hrom : (0xE0000 : BitVec 64).toNat = 0xE0000 := by decide
    rw [BitVec.toNat_add, BitVec.toNat_add, BitVec.toNat_add, toNat_bootRamSize, hsub, hrom]
    omega
  · rw [BitVec.toNat_add, BitVec.toNat_add, toNat_bootRamSize]
    omega
  · have hoffset : m.ram + bootRamSize + romSize + pageSize = m.ram + smmRamOffset := by
      simp only [smmRamOffset, BitVec.add_assoc]
    rw [hoffset, BitVec.toNat_add, BitVec.toNat_add, toNat_smmRamOffset, toNat_and_smmRamMask,
      BitVec.toNat_sub_of_le h3.2.1]
    omega
  · rw [BitVec.toNat_add]

/-! ## Agreement with the slots -/

/-- The lookup and the slot give the address the same host memory. -/
def Machine.AgreesOn (m : Machine) (r : UserspaceMemoryRegion) (gpa : BitVec 64) : Prop :=
  svmmGetHostPageFromGPA m gpa = r.userspaceAddr + gpa - r.guestPhysAddr

/-- Where the two layouts agree.  The lookup keeps the VGA range in low RAM, which the slots
put behind the end of RAM.  It finds SMM RAM at `smbase` only, but for one address more than
SMM RAM has. -/
def Machine.SlotAgreement (m : Machine) (r : UserspaceMemoryRegion) (gpa : BitVec 64) : Prop :=
  if r.addressSpace = 0 then ¬ (0xA0000 ≤ gpa.toNat ∧ gpa.toNat < 0xE0000)
  else m.smbase = r.guestPhysAddr ∨
    m.smbase + smmRamSize = r.guestPhysAddr ∧ gpa = r.guestPhysAddr

/-- The lookup agrees with a slot when the offsets do. -/
lemma agreesOn_iff {m : Machine} (hb : m.Booted) {r : UserspaceMemoryRegion} {gpa : BitVec 64}
    {offset : ℕ} (hr : r.userspaceAddr = m.ram + BitVec.ofNat 64 offset)
    (hoffset : offset + (gpa.toNat - r.guestPhysAddr.toNat) < 0x40241000)
    (hhost : m.hostOffset gpa < 0x40241000) (hgpa : r.guestPhysAddr.toNat ≤ gpa.toNat) :
    m.AgreesOn r gpa ↔ m.hostOffset gpa = offset + (gpa.toNat - r.guestPhysAddr.toNat) := by
  have hlt := hb.ram_lt
  have hmap : (r.userspaceAddr + gpa - r.guestPhysAddr).toNat =
      m.ram.toNat + (offset + (gpa.toNat - r.guestPhysAddr.toNat)) := by
    rw [hr]
    simp only [BitVec.toNat_add, BitVec.toNat_sub, BitVec.toNat_ofNat]
    omega
  have hfind : (svmmGetHostPageFromGPA m gpa).toNat = m.ram.toNat + m.hostOffset gpa := by
    rw [toNat_svmmGetHostPageFromGPA hb, hb.toNat_memoryEnd, if_neg (by omega)]
    omega
  unfold Machine.AgreesOn
  rw [← BitVec.toNat_inj, hmap, hfind, Nat.add_left_cancel_iff]

/-- The four kinds of slots: RAM where the guest sees it, the VGA range and the BIOS behind
RAM, the BIOS below 4 GB, and SMM RAM. -/
lemma gvmInit_cases {ram gpa : BitVec 64} {r : UserspaceMemoryRegion}
    (hr : r ∈ gvmInit ram bootRamSize) (hgpa : r.Contains gpa) :
    (r.addressSpace = 0 ∧ r.userspaceAddr = ram + r.guestPhysAddr ∧
        (gpa.toNat < 0xA0000 ∨ 0x100000 ≤ gpa.toNat ∧ gpa.toNat < 0x40000000)) ∨
      (r.addressSpace = 0 ∧ r.userspaceAddr = ram + (bootRamSize + r.guestPhysAddr) ∧
        0xA0000 ≤ r.guestPhysAddr.toNat ∧ gpa.toNat < 0x100000) ∨
      (r.addressSpace = 0 ∧ r.userspaceAddr = ram + (bootRamSize + 0xE0000) ∧
        r.guestPhysAddr = 0xFFFE0000 ∧ gpa.toNat ≤ 0xFFFFFFFF) ∨
      (r.addressSpace = 1 ∧ r.userspaceAddr = ram + smmRamOffset ∧
        (r.guestPhysAddr = 0x30000 ∨ r.guestPhysAddr = 0xA0000) ∧
        gpa.toNat < r.guestPhysAddr.toNat + 0x20000) := by
  have hsmm : ram + bootRamSize + romSize + pageSize = ram + smmRamOffset := by
    simp only [smmRamOffset, BitVec.add_assoc]
  obtain ⟨hlow, hhigh⟩ := hgpa
  simp only [gvmInit, List.mem_cons, List.not_mem_nil, or_false] at hr
  rcases hr with rfl | rfl | rfl | rfl | rfl | rfl | rfl | rfl | rfl | rfl
  all_goals
    simp only [UserspaceMemoryRegion.addressSpace, BitVec.ofNat_eq_ofNat, BitVec.toNat_ofNat,
      Nat.reducePow, Nat.reduceMod] at hlow hhigh ⊢
  · exact Or.inl ⟨by decide, (BitVec.add_zero ram).symm, Or.inl (by omega)⟩
  · exact Or.inl ⟨by decide, trivial, Or.inl (by omega)⟩
  · exact Or.inl ⟨by decide, trivial, Or.inl (by omega)⟩
  · exact Or.inr (Or.inl ⟨by decide, BitVec.add_assoc .., by decide, by omega⟩)
  · exact Or.inr (Or.inl ⟨by decide, BitVec.add_assoc .., by decide, by omega⟩)
  · exact Or.inr (Or.inl ⟨by decide, BitVec.add_assoc .., by decide, by omega⟩)
  · rw [show (bootRamSize - 1048576#64).toNat = 0x3FF00000 by decide] at hhigh
    exact Or.inl ⟨by decide, trivial, Or.inr (by omega)⟩
  · exact Or.inr (Or.inr (Or.inl ⟨by decide, BitVec.add_assoc .., by decide, by omega⟩))
  · exact Or.inr (Or.inr (Or.inr ⟨by decide, hsmm, by decide, hhigh⟩))
  · exact Or.inr (Or.inr (Or.inr ⟨by decide, hsmm, by decide, hhigh⟩))

lemma UserspaceMemoryRegion.Active.smm {r : UserspaceMemoryRegion} {m : Machine}
    (h : r.Active m) : Word.has m.pmConf5b 1 = true ↔ r.addressSpace ≠ 0 := by
  unfold UserspaceMemoryRegion.Active at h
  split_ifs at h with hbit
  · simp [hbit, h]
  · simp [hbit, h]

/-- Without SMM access the lookup moves the BIOS ranges only. -/
lemma hostOffset_of_not_smm {m : Machine} {gpa : BitVec 64} (h : Word.has m.pmConf5b 1 ≠ true) :
    m.hostOffset gpa =
      if 0xFFFE0000 ≤ gpa.toNat ∧ gpa.toNat ≤ 0xFFFFFFFF then
        0x400E0000 + (gpa.toNat - 0xFFFE0000)
      else if 0xE0000 ≤ gpa.toNat ∧ gpa.toNat ≤ 0xFFFFF then 0x40000000 + gpa.toNat
      else gpa.toNat := by
  have hno : ¬ m.InSmmTest gpa := fun hin => h hin.1
  simp only [Machine.hostOffset, if_neg hno]

/-- In the range of a SMM slot the lookup finds SMM RAM exactly when it is there. -/
lemma hostOffset_eq_smm_iff {m : Machine} {gpa base : BitVec 64}
    (hbit : Word.has m.pmConf5b 1 = true) (hbase : 0x30000 ≤ base.toNat ∧ base.toNat ≤ 0xA0000)
    (hlow : base.toNat ≤ gpa.toNat) (hhigh : gpa.toNat < base.toNat + 0x20000) :
    m.hostOffset gpa = 0x40221000 + (gpa.toNat - base.toNat) ↔
      m.smbase = base ∨ m.smbase + smmRamSize = base ∧ gpa = base := by
  have hsm := m.smbase.isLt
  have htest : m.InSmmTest gpa ↔ m.smbase.toNat ≤ gpa.toNat ∧
      gpa.toNat ≤ (m.smbase.toNat + 0x20000) % 18446744073709551616 := by
    unfold Machine.InSmmTest
    rw [BitVec.le_def, BitVec.le_def, BitVec.toNat_add, toNat_smmRamSize]
    simp [hbit]
  have hsum : (m.smbase + smmRamSize).toNat = (m.smbase.toNat + 0x20000) % 2 ^ 64 := by
    rw [BitVec.toNat_add, toNat_smmRamSize]
  unfold Machine.hostOffset
  rw [if_neg (by omega), if_neg (by omega)]
  simp only [htest, ← BitVec.toNat_inj, hsum]
  split_ifs
  · omega
  · omega

/-- The lookup agrees with a slot of the start-up code on an address of it, in the state in
which the slot is in use, exactly when the address is not in the VGA range and, with SMM
access, SMM RAM is at the slot. -/
theorem host_lookup_agrees_with_slots_iff {m : Machine} (hb : m.Booted)
    {r : UserspaceMemoryRegion} (hr : r ∈ gvmInit m.ram m.ramSize) {gpa : BitVec 64}
    (hgpa : r.Contains gpa) (hactive : r.Active m) :
    m.AgreesOn r gpa ↔ m.SlotAgreement r gpa := by
  have hlow : r.guestPhysAddr.toNat ≤ gpa.toNat := hgpa.1
  have hbit := hactive.smm
  unfold Machine.SlotAgreement
  rw [hb.ramSize_eq] at hr
  rcases gvmInit_cases hr hgpa with ⟨hspace, haddr, hrange⟩ | ⟨hspace, haddr, hbase, hrange⟩ |
    ⟨hspace, haddr, hbase, hrange⟩ | ⟨hspace, haddr, hbase, hrange⟩
  · -- RAM
    have hhost : m.hostOffset gpa = gpa.toNat := by
      rw [hostOffset_of_not_smm (by simp [hbit, hspace]), if_neg (by omega), if_neg (by omega)]
    have hram : r.userspaceAddr = m.ram + BitVec.ofNat 64 r.guestPhysAddr.toNat := by
      rw [haddr, BitVec.ofNat_toNat, BitVec.setWidth_eq]
    rw [agreesOn_iff hb hram (by omega) (by omega) hlow, hhost, if_pos hspace]
    omega
  · -- the VGA range and the BIOS
    have hhost : m.hostOffset gpa =
        if 0xE0000 ≤ gpa.toNat then 0x40000000 + gpa.toNat else gpa.toNat := by
      rw [hostOffset_of_not_smm (by simp [hbit, hspace]), if_neg (by omega)]
      simp only [show gpa.toNat ≤ 0xFFFFF by omega, and_true]
    have hram : r.userspaceAddr = m.ram + BitVec.ofNat 64 (0x40000000 + r.guestPhysAddr.toNat) := by
      rw [haddr, BitVec.ofNat_add, BitVec.ofNat_toNat, BitVec.setWidth_eq]
      rfl
    rw [agreesOn_iff hb hram (by omega) (by rw [hhost]; split_ifs <;> omega) hlow, hhost,
      if_pos hspace]
    split_ifs
    · omega
    · omega
  · -- the BIOS below 4 GB
    have hbase' : r.guestPhysAddr.toNat = 0xFFFE0000 := by
      rw [hbase]
      decide
    have hhost : m.hostOffset gpa = 0x400E0000 + (gpa.toNat - 0xFFFE0000) := by
      rw [hostOffset_of_not_smm (by simp [hbit, hspace]), if_pos (by omega)]
    have hram : r.userspaceAddr = m.ram + BitVec.ofNat 64 0x400E0000 := by
      rw [haddr]
      congr 1
    rw [agreesOn_iff hb hram (by omega) (by omega) hlow, hhost, if_pos hspace, hbase']
    omega
  · -- SMM RAM
    have hbase' : 0x30000 ≤ r.guestPhysAddr.toNat ∧ r.guestPhysAddr.toNat ≤ 0xA0000 := by
      rcases hbase with h | h <;> rw [h] <;> decide
    have hsmm : Word.has m.pmConf5b 1 = true := hbit.mpr (by rw [hspace]; decide)
    have hhost : m.hostOffset gpa < 0x40241000 := by
      unfold Machine.hostOffset
      split_ifs <;> omega
    have hram : r.userspaceAddr = m.ram + BitVec.ofNat 64 0x40221000 := by
      rw [haddr]
      congr 1
    rw [agreesOn_iff hb hram (by omega) hhost hlow, if_neg (by rw [hspace]; decide)]
    exact hostOffset_eq_smm_iff hsmm hbase' hlow hrange

/-- The VGA ROM at 0xC0000: the slot points to the place behind RAM where the ROM is loaded, the
lookup to RAM. -/
theorem host_lookup_misses_vga_rom :
    (bootMachine 0x10000).Booted ∧
      ∃ r ∈ gvmInit (bootMachine 0x10000).ram (bootMachine 0x10000).ramSize,
        r.Contains 0xC0000 ∧ r.Active (bootMachine 0x10000) ∧
          r.userspaceAddr + 0xC0000 - r.guestPhysAddr = 0x400D0000 ∧
          svmmGetHostPageFromGPA (bootMachine 0x10000) 0xC0000 = 0xD0000 ∧
          ¬ (bootMachine 0x10000).AgreesOn r 0xC0000 :=
  ⟨bootMachine_booted,
    ⟨4, 0xc0000, 0x20000, (bootMachine 0x10000).ram + (bootMachine 0x10000).ramSize + 0xc0000⟩,
    by simp [gvmInit], by decide, by decide, by decide, by decide, by
      unfold Machine.AgreesOn
      decide⟩

theorem host_lookup_agrees_above_first_megabyte :
    ∃ r ∈ gvmInit (bootMachine 0x10000).ram (bootMachine 0x10000).ramSize,
      (bootMachine 0x10000).AgreesOn r 0x100000 ↔
        (bootMachine 0x10000).SlotAgreement r 0x100000 := by
  have hmem : ⟨6, 0x100000, (bootMachine 0x10000).ramSize - 0x100000,
      (bootMachine 0x10000).ram + 0x100000⟩ ∈
      gvmInit (bootMachine 0x10000).ram (bootMachine 0x10000).ramSize := by simp [gvmInit]
  refine ⟨_, hmem, ?_⟩
  apply host_lookup_agrees_with_slots_iff bootMachine_booted hmem
  · decide
  · decide

/-! ## Confinement -/

namespace Machine

variable (m : Machine)

def InRam (gpa : BitVec 64) : Prop := gpa.toNat < m.ramSize.toNat

/-- The window of SMM RAM while it is enabled. -/
def InSmmWindow (gpa : BitVec 64) : Prop :=
  Word.has m.pmConf5b 1 = true ∧ m.smbase.toNat ≤ gpa.toNat ∧
    gpa.toNat < m.smbase.toNat + smmRamSize.toNat

/-- The BIOS below 1 MB and below 4 GB. -/
def InRom (gpa : BitVec 64) : Prop :=
  0xE0000 ≤ gpa.toNat ∧ gpa.toNat ≤ 0xFFFFF ∨ 0xFFFE0000 ≤ gpa.toNat ∧ gpa.toNat ≤ 0xFFFFFFFF

/-- The pointer lies in the storage of RAM, of the ROM or of SMM RAM: in the memory block, but
not in its guard page. -/
def InStorage (p : BitVec 64) : Prop :=
  m.ram.toNat ≤ p.toNat ∧ p.toNat < m.ram.toNat + (bootRamSize + romSize).toNat ∨
    m.ram.toNat + smmRamOffset.toNat ≤ p.toNat ∧ p.toNat < m.memoryEnd.toNat

/-- The lookup stays inside the memory block, and finds no storage for an address that no
region has. -/
def Confined (gpa : BitVec 64) : Prop :=
  (svmmGetHostPageFromGPA m gpa = 0 ∨
    m.ram ≤ svmmGetHostPageFromGPA m gpa ∧ svmmGetHostPageFromGPA m gpa < m.memoryEnd) ∧
  (¬ (m.InRam gpa ∨ m.InSmmWindow gpa ∨ InRom gpa) →
    ¬ m.InStorage (svmmGetHostPageFromGPA m gpa))

/-- The address one past the window of SMM RAM, above RAM. -/
def PastSmm (gpa : BitVec 64) : Prop :=
  Word.has m.pmConf5b 1 = true ∧ gpa.toNat = m.smbase.toNat + smmRamSize.toNat ∧ ¬ m.InRam gpa

/-- The address is above RAM, and as an offset into the memory block it reaches the ROM or SMM
RAM. -/
def PastRam (gpa : BitVec 64) : Prop :=
  ¬ m.InSmmTest gpa ∧ ¬ m.InRam gpa ∧
    (gpa.toNat < (bootRamSize + romSize).toNat ∨
      smmRamOffset.toNat ≤ gpa.toNat ∧ gpa.toNat < bootMemorySize.toNat)

/-- The sum of `Ram` and the address goes over the top of the address space. -/
def WrapsAround (gpa : BitVec 64) : Prop :=
  ¬ m.InSmmTest gpa ∧ 2 ^ 64 < m.ram.toNat + gpa.toNat

instance (gpa : BitVec 64) : Decidable (m.InRam gpa) := inferInstanceAs (Decidable (_ < _))
instance (gpa : BitVec 64) : Decidable (m.InSmmWindow gpa) := inferInstanceAs (Decidable (_ ∧ _))
instance (gpa : BitVec 64) : Decidable (InRom gpa) := inferInstanceAs (Decidable (_ ∨ _))
instance (p : BitVec 64) : Decidable (m.InStorage p) := inferInstanceAs (Decidable (_ ∨ _))
instance (gpa : BitVec 64) : Decidable (m.Confined gpa) := inferInstanceAs (Decidable (_ ∧ _))
instance (gpa : BitVec 64) : Decidable (m.PastSmm gpa) := inferInstanceAs (Decidable (_ ∧ _))
instance (gpa : BitVec 64) : Decidable (m.PastRam gpa) := inferInstanceAs (Decidable (_ ∧ _))
instance (gpa : BitVec 64) : Decidable (m.WrapsAround gpa) := inferInstanceAs (Decidable (_ ∧ _))

end Machine

/-- Confinement, in offsets from `Ram`. -/
lemma confined_iff {m : Machine} (hb : m.Booted) {gpa : BitVec 64} {p : ℕ}
    (hp : (svmmGetHostPageFromGPA m gpa).toNat = p) :
    m.Confined gpa ↔
      (p = 0 ∨ m.ram.toNat ≤ p ∧ p < m.ram.toNat + 0x40241000) ∧
        (¬ (m.InRam gpa ∨ m.InSmmWindow gpa ∨ Machine.InRom gpa) →
          ¬ (m.ram.toNat ≤ p ∧ p < m.ram.toNat + 0x40220000 ∨
            m.ram.toNat + 0x40221000 ≤ p ∧ p < m.ram.toNat + 0x40241000)) := by
  have hrom : (bootRamSize + romSize).toNat = 0x40220000 := by decide
  have hzero : svmmGetHostPageFromGPA m gpa = 0 ↔ p = 0 := by
    rw [← BitVec.toNat_inj, hp]
    rfl
  unfold Machine.Confined Machine.InStorage
  rw [hzero, BitVec.le_def, BitVec.lt_def, hp, hb.toNat_memoryEnd, hrom, toNat_smmRamOffset]

/-- The window test takes in the window and the address one past it. -/
lemma inSmmTest_iff {m : Machine} {gpa : BitVec 64} :
    m.InSmmTest gpa ↔
      m.InSmmWindow gpa ∧ m.smbase.toNat + 0x20000 < 18446744073709551616 ∨
        Word.has m.pmConf5b 1 = true ∧ gpa.toNat = m.smbase.toNat + 0x20000 := by
  have hsm := m.smbase.isLt
  have hgpa := gpa.isLt
  unfold Machine.InSmmTest Machine.InSmmWindow
  rw [BitVec.le_def, BitVec.le_def, BitVec.toNat_add, toNat_smmRamSize]
  by_cases hbit : Word.has m.pmConf5b 1 = true
  · simp only [hbit, true_and]
    omega
  · simp [hbit]

/-- The lookup of an address is confined exactly when the address is one of the BIOS, or is
neither one past the SMM window, nor an offset past RAM into the memory block, nor so high that
the sum with `Ram` wraps around. -/
theorem host_lookup_confined_iff {m : Machine} (hb : m.Booted) (gpa : BitVec 64) :
    m.Confined gpa ↔
      Machine.InRom gpa ∨ ¬ (m.PastSmm gpa ∨ m.PastRam gpa ∨ m.WrapsAround gpa) := by
  have hlt := hb.ram_lt
  have hpos := hb.ram_pos
  have hgpa := gpa.isLt
  have hfind := toNat_svmmGetHostPageFromGPA hb gpa
  have hram : m.InRam gpa ↔ gpa.toNat < 0x40000000 := by
    rw [Machine.InRam, hb.ramSize_eq, toNat_bootRamSize]
  have hromEnd : (bootRamSize + romSize).toNat = 0x40220000 := by decide
  rw [hb.toNat_memoryEnd] at hfind
  rw [confined_iff hb hfind]
  by_cases hrom : Machine.InRom gpa
  · -- the BIOS
    have hhost : m.hostOffset gpa < 0x40200000 ∧ 0x40000000 ≤ m.hostOffset gpa := by
      unfold Machine.hostOffset
      unfold Machine.InRom at hrom
      split_ifs <;> omega
    simp only [hrom, or_true, not_true_eq_false, false_imp_iff, and_true, true_or, iff_true]
    split_ifs <;> omega
  · have hnotRom := hrom
    unfold Machine.InRom at hnotRom
    simp only [hrom, or_false, false_or]
    by_cases htest : m.InSmmTest gpa
    · -- the window test
      have hhost : m.hostOffset gpa < 0x40241000 ∧ 0x40221000 ≤ m.hostOffset gpa := by
        unfold Machine.hostOffset
        rw [if_neg (by omega), if_neg (by omega), if_pos htest]
        omega
      rw [if_neg (by omega), Nat.mod_eq_of_lt (by omega)]
      simp only [Machine.PastRam, Machine.WrapsAround, htest, not_true_eq_false,
        false_and, or_false]
      unfold Machine.PastSmm
      rcases inSmmTest_iff.mp htest with ⟨hwindow, -⟩ | ⟨hbit, hone⟩
      · have hinside : ¬ gpa.toNat = m.smbase.toNat + smmRamSize.toNat :=
          fun h => absurd hwindow.2.2 (by omega)
        simp only [hwindow, hinside, or_true, not_true_eq_false, false_imp_iff, and_true,
          false_and, and_false, not_false_eq_true, iff_true]
        omega
      · have houtside : ¬ m.InSmmWindow gpa := fun h => absurd h.2.2 (by
          rw [toNat_smmRamSize]
          omega)
        simp only [hbit, hram, toNat_smmRamSize, hone, houtside, or_false, true_and]
        omega
    · -- RAM and above
      have hhost : m.hostOffset gpa = gpa.toNat := by
        unfold Machine.hostOffset
        rw [if_neg (by omega), if_neg (by omega), if_neg htest]
      have hpast : ¬ m.PastSmm gpa := fun h => htest (inSmmTest_iff.mpr (Or.inr ⟨h.1, h.2.1⟩))
      rw [hhost]
      simp only [hpast, false_or, Machine.PastRam, Machine.WrapsAround, htest, not_false_eq_true,
        true_and, hram, hromEnd, toNat_smmRamOffset, toNat_bootMemorySize]
      have hwrap : m.InSmmWindow gpa → 18446744073709551616 ≤ m.smbase.toNat + 0x20000 := by
        intro hwindow
        by_contra hno
        exact htest (inSmmTest_iff.mpr (Or.inl ⟨hwindow, by omega⟩))
      by_cases hwindow : m.InSmmWindow gpa
      · have hfar := hwrap hwindow
        have hlow := hwindow.2.1
        simp only [hwindow, or_true, not_true_eq_false, false_imp_iff, and_true]
        split_ifs <;> omega
      · simp only [hwindow, or_false]
        split_ifs <;> omega

/-- The first address above RAM, 0x40000000, finds the storage of the ROM; the last address there
is finds the byte before `Ram`. -/
theorem host_lookup_escapes :
    (bootMachine 0x10000).Booted ∧
      svmmGetHostPageFromGPA (bootMachine 0x10000) 0x40000000 =
        (bootMachine 0x10000).ram + bootRamSize ∧
      ¬ (bootMachine 0x10000).Confined 0x40000000 ∧
      svmmGetHostPageFromGPA (bootMachine 0x10000) 0xFFFFFFFFFFFFFFFF =
        (bootMachine 0x10000).ram - 1 ∧
      ¬ (bootMachine 0x10000).Confined 0xFFFFFFFFFFFFFFFF :=
  ⟨bootMachine_booted, by decide, by decide, by decide, by decide⟩

theorem host_lookup_confined_at_end_of_ram :
    (bootMachine 0x10000).Confined 0x3FFFFFFF ↔
      Machine.InRom 0x3FFFFFFF ∨ ¬ ((bootMachine 0x10000).PastSmm 0x3FFFFFFF ∨
        (bootMachine 0x10000).PastRam 0x3FFFFFFF ∨ (bootMachine 0x10000).WrapsAround 0x3FFFFFFF) :=
  host_lookup_confined_iff bootMachine_booted 0x3FFFFFFF

end Svmm
