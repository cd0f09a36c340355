import Svmm.Framework.Bytes
import Svmm.Construction.Dispatch
import Svmm.Construction.HardDisk.Ports

/-!
# Port instructions that leave the guest

At a port instruction the driver comes back with `GVM_EXIT_IO`.  A string instruction is one exit
for all of its items: they lie one behind the other in the page behind `kvm_run`, and the main loop
of `SVMM.c` makes one call for each of them, over the table of handlers of `pci.c`.  Items are moved
as `DWORD`s, whatever their size is.
-/

namespace Svmm

open Bytes

/-! ## The data page -/

/-- The memory from `pio_data` on. -/
abbrev PioData := ℕ → BitVec 8

/-- `*(DWORD*)(pio_data + offset)`. -/
def PioData.load (p : PioData) (offset : ℕ) : BitVec 32 := littleEndian (fun j => p (offset + j)) 4

/-- `*(DWORD*)(pio_data + offset) = value`. -/
def PioData.store (p : PioData) (offset : ℕ) (value : BitVec 32) : PioData := fun j =>
  if offset ≤ j ∧ j < offset + 4 then byteAt value (j - offset) else p j

/-! ## The exit -/

/-- `kvm_run->io`. -/
structure IoExit where
  direction : BitVec 8
  size : BitVec 8
  port : BitVec 16
  count : BitVec 32

/-- `GVM_EXIT_IO_IN`. -/
def gvmExitIoIn : BitVec 8 := 0

/-- A read and a write of a port, over the state of the devices. -/
structure PortFunctions (σ ε : Type) where
  readPort : BitVec 32 → BitVec 32 → σ → Except ε (σ × BitVec 32)
  writePort : BitVec 32 → BitVec 32 → BitVec 32 → σ → Except ε σ

/-- The devices and the data page. -/
structure IoMachine (σ : Type) where
  devices : σ
  pioData : PioData

section Exit

variable {σ ε : Type} (f : PortFunctions σ ε)

/-- The body of the loop. -/
def ioExitItem (e : IoExit) (s : IoMachine σ) (i : ℕ) : Except ε (IoMachine σ) :=
  let offset := i * e.size.toNat
  if e.direction = gvmExitIoIn then do
    let (devices, value) ← f.readPort (e.port.setWidth 32) (e.size.setWidth 32) s.devices
    return { devices := devices, pioData := s.pioData.store offset value }
  else do
    let value := s.pioData.load offset
    let devices ← f.writePort (e.port.setWidth 32) value (e.size.setWidth 32) s.devices
    return { s with devices := devices }

/-- `case GVM_EXIT_IO`. -/
def ioExit (s : IoMachine σ) (e : IoExit) : Except ε (IoMachine σ) :=
  (List.range e.count.toNat).foldlM (ioExitItem f e) s

end Exit

/-! ## The handlers behind the table -/

section Table

variable {σ ε η : Type} (table : σ → Dispatch η) (handler : η → PortFunctions σ ε) (stop : ε)

/-- `ReadPortIoHandler` and `WritePortIoHandler`, with the calls of the handlers.  A port that is
not mapped ends the program. -/
def portIo : PortFunctions σ ε where
  readPort address length s :=
    match (table s).readPortIoHandler address with
    | .ok owner => (handler owner).readPort address length s
    | .error _ => .error stop
  writePort address value length s :=
    match (table s).writePortIoHandler address with
    | .ok owner => (handler owner).writePort address value length s
    | .error _ => .error stop

end Table

/-- Whose handlers a port has: those of `harddisk.c`, or another device's. -/
inductive ExitOwner where
  | hardDisk
  | other (device : ℕ)
  deriving DecidableEq, Repr

/-- The table of ports, the disk controllers, and the other devices. -/
structure PortMachine (τ : Type) where
  ports : Dispatch ExitOwner
  disk : HardDisk
  others : τ

/-- The handlers of a port, by its owner. -/
def ExitOwner.handler {τ : Type} (other : ℕ → PortFunctions (PortMachine τ) HardDiskFault) :
    ExitOwner → PortFunctions (PortMachine τ) HardDiskFault
  | hardDisk =>
      { readPort := fun address length m => do
          let (disk, value) ← hardDiskPortIoReadHandler address length m.disk
          return ({ m with disk := disk }, value)
        writePort := fun address value length m => do
          let disk ← hardDiskPortIoWriteHandler address value length m.disk
          return { m with disk := disk } }
  | ExitOwner.other device => other device

/-- The two port functions of `pci.c`, over these handlers. -/
def PortMachine.portIo {τ : Type} (other : ℕ → PortFunctions (PortMachine τ) HardDiskFault) :
    PortFunctions (PortMachine τ) HardDiskFault :=
  Svmm.portIo PortMachine.ports (ExitOwner.handler other) .exit

/-- The ports that `HardDiskInitialize` registers, in order. -/
def hardDiskPorts : List (BitVec 32) :=
  [((0x1f0 : BitVec 32), 8), (0x3f0, 8), (0x170, 8), (0x370, 8), (0x1e8, 8), (0x3e0, 8), (0x168, 8),
    (0x360, 16)].flatMap fun (base, count) =>
      (List.range count).map fun i => base + BitVec.ofNat 32 i

/-- The registrations of `HardDiskInitialize`. -/
def registerHardDiskPorts (s : Dispatch ExitOwner) : Except Unit (Dispatch ExitOwner) :=
  hardDiskPorts.foldlM (fun s address =>
    s.registerPortIoHandler address (some .hardDisk) (some .hardDisk)) s

/-! ## Exits of a disk transfer -/

/-- The operand sizes of port instructions. -/
inductive IoSize where
  | byte
  | word
  | dword
  deriving DecidableEq, Repr

/-- `kvm_run->io.size`. -/
def IoSize.bytes : IoSize → BitVec 8
  | byte => 1
  | word => 2
  | dword => 4

/-- The exits with which a guest reads a transfer: of the data port, and of either status
register. -/
inductive DiskExit where
  | data (count : BitVec 32)
  | status (size : IoSize) (count : BitVec 32)
  | alternateStatus (size : IoSize) (count : BitVec 32)

/-- `kvm_run->io`, when the data port is read in items of one size. -/
def DiskExit.io (width : IoSize) : DiskExit → IoExit
  | data count => ⟨gvmExitIoIn, width.bytes, 0x1f0, count⟩
  | status size count => ⟨gvmExitIoIn, size.bytes, 0x1f7, count⟩
  | alternateStatus size count => ⟨gvmExitIoIn, size.bytes, 0x3f6, count⟩

/-- The bytes of the data port that the guest takes from the page. -/
def DiskExit.taken (width : IoSize) (p : PioData) : DiskExit → List (BitVec 8)
  | data count => (List.range (count.toNat * width.bytes.toNat)).map p
  | status _ _ | alternateStatus _ _ => []

/-- An exit, and the bytes of the data port that it gives. -/
def exitRead {τ : Type} (other : ℕ → PortFunctions (PortMachine τ) HardDiskFault) (width : IoSize)
    (s : IoMachine (PortMachine τ)) (x : DiskExit) :
    HardDiskOutcome (IoMachine (PortMachine τ) × List (BitVec 8)) := do
  let s ← ioExit (PortMachine.portIo other) s (x.io width)
  return (s, x.taken width s.pioData)

/-- The exit of a byte write to the command register. -/
def commandExit : IoExit := { direction := 1, size := 1, port := 0x1f7, count := 1 }

end Svmm
