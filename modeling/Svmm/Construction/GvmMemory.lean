import Mathlib.Logic.Function.Basic
import Svmm.Framework.Bisection
import Svmm.Construction.MemorySlots

/-!
# Changing the memory slots

`gvm_unmap_memory` and `gvm_map_memory` look for the slot of a range with a binary search over
`mem_slots` and hand the entry that the search ends at to the driver: with size 0, which takes the
slot out of the guest's memory and makes it MMIO, or with another host address.  The two functions
hold the same loop; they differ in the width of the sum `address + size`, and only the first one
looks at the entry again before it uses it.

The driver keeps one region for each slot number.  Whether it accepts a call is its own affair: the
answer is a parameter, and a refused call ends the program.
-/

namespace Svmm

open Bisection

/-- The static data of `gvm.c` that the functions use, and the regions that the driver holds. -/
structure GvmMemory where
  memSlots : ℕ → UserspaceMemoryRegion
  memSlotsNum : ℕ
  driver : BitVec 32 → Option UserspaceMemoryRegion

namespace UserspaceMemoryRegion

/-- The region that a call leaves in the driver: none when its size is 0. -/
def installed (r : UserspaceMemoryRegion) : Option UserspaceMemoryRegion :=
  if r.memorySize = 0 then none else some r

/-- The two tests of the loops, for a range that starts at `address` and whose computed end is
`stop`. -/
def compare (address : BitVec 32) (stop : BitVec 64) (r : UserspaceMemoryRegion) : Ordering :=
  if r.guestPhysAddr + r.memorySize ≤ address.setWidth 64 then .lt
  else if r.guestPhysAddr ≤ address.setWidth 64 ∧ stop ≤ r.guestPhysAddr + r.memorySize then .eq
  else .gt

end UserspaceMemoryRegion

namespace GvmMemory

/-- The indices of `mem_slots` that the loop reads. -/
def probes (s : GvmMemory) (address : BitVec 32) (stop : BitVec 64) : List ℕ :=
  bisect (fun i => (s.memSlots i).compare address stop) 0 s.memSlotsNum

/-- The index `i` after the loop. -/
def search (s : GvmMemory) (address : BitVec 32) (stop : BitVec 64) : ℕ :=
  last (fun i => (s.memSlots i).compare address stop) 0 s.memSlotsNum 0

def setSlot (s : GvmMemory) (i : ℕ) (r : UserspaceMemoryRegion) : GvmMemory :=
  { s with memSlots := Function.update s.memSlots i r }

/-- `DeviceIoControl(hGvmVm, GVM_SET_USER_MEMORY_REGION, &mem_slots[i], ..)`; the program exits when
the driver refuses. -/
def setUserMemoryRegion (answer : Bool) (s : GvmMemory) (i : ℕ) : Except Unit GvmMemory :=
  if answer then
    .ok { s with driver := Function.update s.driver (s.memSlots i).slot (s.memSlots i).installed }
  else .error ()

/-- `gvm_unmap_memory`. -/
def gvmUnmapMemory (answer : Bool) (s : GvmMemory) (address : BitVec 32) (size : BitVec 64) :
    Except Unit GvmMemory :=
  let i := s.search address (address.setWidth 64 + size)
  let slot := s.memSlots i
  if slot.guestPhysAddr > address.setWidth 64 ∨
      slot.guestPhysAddr + slot.memorySize < address.setWidth 64 then .ok s
  else do
    -- a `ULONG`: the size is cut to 32 bits
    let memSize : BitVec 32 := slot.memorySize.setWidth 32
    let s ← setUserMemoryRegion answer (s.setSlot i { slot with memorySize := 0 }) i
    return s.setSlot i { s.memSlots i with memorySize := memSize.setWidth 64 }

/-- `gvm_map_memory`. -/
def gvmMapMemory (answer : Bool) (s : GvmMemory) (address size : BitVec 32) (ram : BitVec 64) :
    Except Unit GvmMemory :=
  let i := s.search address ((address + size).setWidth 64)
  setUserMemoryRegion answer (s.setSlot i { s.memSlots i with userspaceAddr := ram }) i

/-- `gvm_register_mmio`. -/
def gvmRegisterMmio (answer : Bool) (s : GvmMemory) (address : BitVec 32) (size : BitVec 64) :
    Except Unit GvmMemory :=
  s.gvmUnmapMemory answer address size

/-- `gvm_remove_mmio`; `ram` is the global `Ram`. -/
def gvmRemoveMmio (answer : Bool) (ram : BitVec 64) (s : GvmMemory) (address : BitVec 32)
    (size : BitVec 64) : Except Unit GvmMemory :=
  s.gvmMapMemory answer address (size.setWidth 32) (ram + address.setWidth 64)

/-- The table and the driver as `gvm_init` leaves them: the slots of address space 1 are not in the
table. -/
def ofGvmInit (ram ramSize : BitVec 64) : GvmMemory where
  memSlots i := ((gvmInit ram ramSize).take 8).getD i
    { slot := 0, guestPhysAddr := 0, memorySize := 0, userspaceAddr := 0 }
  memSlotsNum := 8
  driver id := (gvmInit ram ramSize).find? fun r => r.slot == id

end GvmMemory

end Svmm
