import Svmm.Construction.Paging

/-!
# The guest memory of the start-up code

`main` allocates the memory of the guest as one block, RAM first, then the ROM, a guard page
and SMM RAM.  `gvm_init` then hands the hypervisor driver a table of user memory slots, which
says where the virtual CPU finds each guest-physical address.  The upper half of a slot's
number is its address space: 1 is the one the driver uses with SMM access.
-/

namespace Svmm

/-- `1024 * MB`, the `RamSize` of `main`. -/
def bootRamSize : BitVec 64 := 1024 * (1 <<< 20)

/-- The bytes that `main` allocates. -/
def bootMemorySize : BitVec 64 := bootRamSize + romSize + pageSize + smmRamSize

/-- The globals are as `main` sets them, and the block that `VirtualAlloc` returned is not null
and ends inside the address space. -/
structure Machine.Booted (m : Machine) : Prop where
  ramSize_eq : m.ramSize = bootRamSize
  memoryEnd_eq : m.memoryEnd = m.ram + bootRamSize + romSize + pageSize + smmRamSize
  ram_pos : 0 < m.ram.toNat
  ram_fits : m.ram.toNat + bootMemorySize.toNat < 2 ^ 64

/-- The machine that `main` has just set up, with the memory block at `ram`. -/
def bootMachine (ram : BitVec 64) : Machine where
  cr3 := 0
  cr4 := 0
  efer := 0
  smbase := 0x30000
  ram := ram
  ramSize := bootRamSize
  memoryEnd := ram + bootRamSize + romSize + pageSize + smmRamSize
  pmConf5b := 0
  byte := fun _ => 0

/-- The fields of `struct kvm_userspace_memory_region` that `gvm_init` fills. -/
structure UserspaceMemoryRegion where
  slot : BitVec 32
  guestPhysAddr : BitVec 64
  memorySize : BitVec 64
  userspaceAddr : BitVec 64

namespace UserspaceMemoryRegion

/-- The slot maps the address. -/
def Contains (r : UserspaceMemoryRegion) (gpa : BitVec 64) : Prop :=
  r.guestPhysAddr.toNat ≤ gpa.toNat ∧ gpa.toNat < r.guestPhysAddr.toNat + r.memorySize.toNat

/-- The address space of the slot. -/
def addressSpace (r : UserspaceMemoryRegion) : BitVec 32 := r.slot >>> 16

/-- The slot is in use: address space 1 with SMM access, address space 0 without. -/
def Active (r : UserspaceMemoryRegion) (m : Machine) : Prop :=
  if Word.has m.pmConf5b 1 then r.addressSpace = 1 else r.addressSpace = 0

instance (r : UserspaceMemoryRegion) (gpa : BitVec 64) : Decidable (r.Contains gpa) :=
  inferInstanceAs (Decidable (_ ∧ _))

instance (r : UserspaceMemoryRegion) (m : Machine) : Decidable (r.Active m) :=
  inferInstanceAs (Decidable (if Word.has m.pmConf5b 1 then _ else _))

end UserspaceMemoryRegion

/-- The slots that `gvm_init` installs, in its order. -/
def gvmInit (ram ramSize : BitVec 64) : List UserspaceMemoryRegion := [
  { slot := 0, guestPhysAddr := 0, memorySize := 0x30000, userspaceAddr := ram },
  { slot := 1, guestPhysAddr := 0x30000, memorySize := 0x20000, userspaceAddr := ram + 0x30000 },
  { slot := 2, guestPhysAddr := 0x50000, memorySize := 0x50000, userspaceAddr := ram + 0x50000 },
  -- VGA memory
  { slot := 3, guestPhysAddr := 0xa0000, memorySize := 0x20000
    userspaceAddr := ram + ramSize + 0xa0000 },
  -- VGA ROM
  { slot := 4, guestPhysAddr := 0xc0000, memorySize := 0x20000
    userspaceAddr := ram + ramSize + 0xc0000 },
  -- BIOS ROM
  { slot := 5, guestPhysAddr := 0xe0000, memorySize := 0x20000
    userspaceAddr := ram + ramSize + 0xe0000 },
  { slot := 6, guestPhysAddr := 0x100000, memorySize := ramSize - 0x100000
    userspaceAddr := ram + 0x100000 },
  { slot := 7, guestPhysAddr := 0xfffe0000, memorySize := 0x20000
    userspaceAddr := ram + ramSize + 0xe0000 },
  -- address space 1: both places of SMM RAM
  { slot := 0 ||| 1 <<< 16, guestPhysAddr := 0xa0000, memorySize := 0x20000
    userspaceAddr := ram + ramSize + romSize + pageSize },
  { slot := 1 ||| 1 <<< 16, guestPhysAddr := 0x30000, memorySize := 0x20000
    userspaceAddr := ram + ramSize + romSize + pageSize }]

end Svmm
