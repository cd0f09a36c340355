import Svmm.Construction.GvmMemory

/-!
# The tables of port and MMIO handlers

`pci.c` keeps the handlers of ports and those of the 64 KiB pages of MMIO in arrays, with a bitmap
beside each pair that says which entries are taken.  A bitmap is allocated by the first
registration.  The functions are written twice: first over tables without an end, for those who
only call them, and then with every access to a bitmap or an array checked, so that one past the end
stops with a fault of its own.
-/

namespace Svmm

/-- A bitmap with the two arrays of handlers that it stands for.  `sizeOfBitMap` counts words of 32
bits, and is 0 before the bitmap is allocated. -/
structure HandlerTable (η : Type) where
  sizeOfBitMap : ℕ
  bit : ℕ → Bool
  writeHandlers : ℕ → Option η
  readHandlers : ℕ → Option η

/-- The static data of `pci.c`, with `Ram` and the memory slots that an MMIO registration
changes. -/
structure Dispatch (η : Type) where
  port : HandlerTable η
  mmio : HandlerTable η
  ram : BitVec 64
  memory : GvmMemory

variable {η : Type}

/-- The length of the arrays of handlers. -/
def handlersLength : ℕ := 0xffff

namespace HandlerTable

/-- Static data before anything is registered. -/
def empty : HandlerTable η where
  sizeOfBitMap := 0
  bit _ := false
  writeHandlers _ := none
  readHandlers _ := none

/-- `RtlInitializeBitMap` on a buffer of zeros, when there is no bitmap yet. -/
def initializeBitMap (t : HandlerTable η) : HandlerTable η :=
  if t.sizeOfBitMap = 0 then { t with sizeOfBitMap := 0xffff / 32, bit := fun _ => false } else t

/-- `RtlSetBit`, and the handlers. -/
def register (w r : Option η) (t : HandlerTable η) (i : ℕ) : HandlerTable η where
  sizeOfBitMap := t.sizeOfBitMap
  bit := Function.update t.bit i true
  writeHandlers := Function.update t.writeHandlers i w
  readHandlers := Function.update t.readHandlers i r

/-- `RtlClearBit`, and no handlers. -/
def remove (t : HandlerTable η) (i : ℕ) : HandlerTable η where
  sizeOfBitMap := t.sizeOfBitMap
  bit := Function.update t.bit i false
  writeHandlers := Function.update t.writeHandlers i none
  readHandlers := Function.update t.readHandlers i none

/-- A registration is refused: its first index is beyond the arrays or taken. -/
def Refused (t : HandlerTable η) (i : ℕ) : Prop := handlersLength ≤ i ∨ t.bit i = true

/-- There is nothing to remove or to call. -/
def Unmapped (t : HandlerTable η) (i : ℕ) : Prop := handlersLength ≤ i ∨ t.bit i = false

instance (t : HandlerTable η) (i : ℕ) : Decidable (t.Refused i) :=
  inferInstanceAs (Decidable (_ ∨ _))

instance (t : HandlerTable η) (i : ℕ) : Decidable (t.Unmapped i) :=
  inferInstanceAs (Decidable (_ ∨ _))

/-- The handler that a dispatcher calls. -/
def dispatch (t : HandlerTable η) (handlers : ℕ → Option η) (i : ℕ) : Except Unit η :=
  if t.Unmapped i then .error ()
  else
    match handlers i with
    | some handler => .ok handler
    | none => .error ()

end HandlerTable

namespace Dispatch

/-! ## Ports -/

/-- `RegisterPortIoHandler`. -/
def registerPortIoHandler (address : BitVec 32) (w r : Option η) (s : Dispatch η) :
    Except Unit (Dispatch η) :=
  let port := s.port.initializeBitMap
  if port.Refused address.toNat then .error ()
  else .ok { s with port := port.register w r address.toNat }

/-- `RemovePortIoHandler`. -/
def removePortIoHandler (address : BitVec 32) (s : Dispatch η) : Except Unit (Dispatch η) :=
  if s.port.Unmapped address.toNat then .error ()
  else .ok { s with port := s.port.remove address.toNat }

/-- `ReadPortIoHandler`, up to the call. -/
def readPortIoHandler (address : BitVec 32) (s : Dispatch η) : Except Unit η :=
  s.port.dispatch s.port.readHandlers address.toNat

/-- `WritePortIoHandler`, up to the call. -/
def writePortIoHandler (address : BitVec 32) (s : Dispatch η) : Except Unit η :=
  s.port.dispatch s.port.writeHandlers address.toNat

/-! ## MMIO -/

/-- `index = Address >> 16`. -/
def mmioIndex (address : BitVec 32) : ℕ := (address >>> 16).toNat

/-- The indices that the loop of `MmioRegisterHandler` registers, for a range that ends at `stop`:
the first one, whatever the size is, and then as long as the next page starts before the end. -/
def mmioPages (stop index : ℕ) : List ℕ :=
  index :: if (index + 1) * 2 ^ 16 < stop then mmioPages stop (index + 1) else []
termination_by stop - index * 2 ^ 16

/-- `MmioRegisterHandler`. -/
def mmioRegisterHandler (answer : Bool) (address size : BitVec 32) (w r : Option η)
    (s : Dispatch η) :
    Except Unit (Dispatch η) :=
  let index := mmioIndex address
  let mmio := s.mmio.initializeBitMap
  if mmio.Refused index then .error ()
  else do
    let mmio := (mmioPages (address.toNat + size.toNat) index).foldl
      (HandlerTable.register w r) mmio
    let memory ← s.memory.gvmRegisterMmio answer address (size.setWidth 64)
    return { s with mmio := mmio, memory := memory }

/-- `MmioRemoveHandler`. -/
def mmioRemoveHandler (answer : Bool) (address : BitVec 32) (s : Dispatch η) :
    Except Unit (Dispatch η) :=
  let index := mmioIndex address
  if s.mmio.Unmapped index then .error ()
  else do
    let memory ← s.memory.gvmRemoveMmio answer s.ram address 0x10000
    return { s with mmio := s.mmio.remove index, memory := memory }

/-- `MmioReadHandler`, up to the call. -/
def mmioReadHandler (address : BitVec 32) (s : Dispatch η) : Except Unit η :=
  s.mmio.dispatch s.mmio.readHandlers (mmioIndex address)

/-- `MmioWriteHandler`, up to the call. -/
def mmioWriteHandler (address : BitVec 32) (s : Dispatch η) : Except Unit η :=
  s.mmio.dispatch s.mmio.writeHandlers (mmioIndex address)

/-- The tables before the first registration. -/
def start (ram : BitVec 64) (memory : GvmMemory) : Dispatch η where
  port := .empty
  mmio := .empty
  ram := ram
  memory := memory

end Dispatch

/-! ## Calls -/

/-- A call of one of the functions.  The main loop passes the port of an I/O exit and the lower 32
bits of the address of an MMIO exit to the dispatchers. -/
inductive DispatchCall (η : Type) where
  | registerPort (address : BitVec 32) (w r : Option η)
  | removePort (address : BitVec 32)
  | readPort (address : BitVec 32)
  | writePort (address : BitVec 32)
  | mmioRegister (answer : Bool) (address size : BitVec 32) (w r : Option η)
  | mmioRemove (answer : Bool) (address : BitVec 32)
  | mmioRead (address : BitVec 32)
  | mmioWrite (address : BitVec 32)

open Dispatch

/-- The state after a call; a refused call ends the program. -/
def dispatchStep (s : Dispatch η) : DispatchCall η → Except Unit (Dispatch η)
  | .registerPort address w r => s.registerPortIoHandler address w r
  | .removePort address => s.removePortIoHandler address
  | .readPort address => do
      let _ ← s.readPortIoHandler address
      return s
  | .writePort address => do
      let _ ← s.writePortIoHandler address
      return s
  | .mmioRegister answer address size w r => s.mmioRegisterHandler answer address size w r
  | .mmioRemove answer address => s.mmioRemoveHandler answer address
  | .mmioRead address => do
      let _ ← s.mmioReadHandler address
      return s
  | .mmioWrite address => do
      let _ ← s.mmioWriteHandler address
      return s

/-! ## Checked accesses -/

/-- How a function on the tables goes wrong: it ends the program, or it accesses a bit past the
bitmap or an entry past an array. -/
inductive DispatchFault where
  | exit
  | bitOutside (i : ℕ)
  | handlerOutside (i : ℕ)
  deriving DecidableEq, Repr

abbrev DispatchOutcome := Except DispatchFault

/-- What another function refuses ends the program. -/
def exitOnError {α : Type} : Except Unit α → DispatchOutcome α
  | .ok a => .ok a
  | .error () => .error .exit

/-- `Handlers[i]`, read. -/
def handlerAt (handlers : ℕ → Option η) (i : ℕ) : DispatchOutcome (Option η) :=
  if i < handlersLength then .ok (handlers i) else .error (.handlerOutside i)

/-- `Handlers[i] = handler`. -/
def setHandlerAt (handlers : ℕ → Option η) (i : ℕ) (handler : Option η) :
    DispatchOutcome (ℕ → Option η) :=
  if i < handlersLength then .ok (Function.update handlers i handler)
  else .error (.handlerOutside i)

namespace HandlerTable

/-- `RtlTestBit`. -/
def testBitAt (t : HandlerTable η) (i : ℕ) : DispatchOutcome Bool :=
  if i < 32 * t.sizeOfBitMap then .ok (t.bit i) else .error (.bitOutside i)

/-- `RtlSetBit` and `RtlClearBit`. -/
def changeBitAt (bit : Bool) (t : HandlerTable η) (i : ℕ) : DispatchOutcome (HandlerTable η) :=
  if i < 32 * t.sizeOfBitMap then .ok { t with bit := Function.update t.bit i bit }
  else .error (.bitOutside i)

/-- The bit of an entry is changed, and then its handlers. -/
def changeAt (bit : Bool) (w r : Option η) (t : HandlerTable η) (i : ℕ) :
    DispatchOutcome (HandlerTable η) := do
  let t ← t.changeBitAt bit i
  let writeHandlers ← setHandlerAt t.writeHandlers i w
  let readHandlers ← setHandlerAt t.readHandlers i r
  return { t with writeHandlers := writeHandlers, readHandlers := readHandlers }

/-- `RtlSetBit`, and the handlers. -/
def registerAt (w r : Option η) (t : HandlerTable η) (i : ℕ) : DispatchOutcome (HandlerTable η) :=
  t.changeAt true w r i

/-- `RtlClearBit`, and no handlers. -/
def removeAt (t : HandlerTable η) (i : ℕ) : DispatchOutcome (HandlerTable η) :=
  t.changeAt false none none i

/-- The guard of a function that goes on if the bit of its index is as it says: an index beyond the
arrays is refused before the bit is tested. -/
def guardAt (bit : Bool) (t : HandlerTable η) (i : ℕ) : DispatchOutcome Unit :=
  if handlersLength ≤ i then .error .exit
  else do
    let b ← t.testBitAt i
    if b = bit then return () else .error .exit

/-- The handler that a dispatcher calls. -/
def dispatchAt (t : HandlerTable η) (handlers : ℕ → Option η) (i : ℕ) : DispatchOutcome η := do
  t.guardAt true i
  let handler ← handlerAt handlers i
  match handler with
  | some handler => return handler
  | none => .error .exit

end HandlerTable

namespace Dispatch

/-- `RegisterPortIoHandler`. -/
def registerPortIoHandlerAt (address : BitVec 32) (w r : Option η) (s : Dispatch η) :
    DispatchOutcome (Dispatch η) := do
  let port := s.port.initializeBitMap
  port.guardAt false address.toNat
  let port ← port.registerAt w r address.toNat
  return { s with port := port }

/-- `RemovePortIoHandler`. -/
def removePortIoHandlerAt (address : BitVec 32) (s : Dispatch η) :
    DispatchOutcome (Dispatch η) := do
  s.port.guardAt true address.toNat
  let port ← s.port.removeAt address.toNat
  return { s with port := port }

/-- `ReadPortIoHandler`, up to the call. -/
def readPortIoHandlerAt (address : BitVec 32) (s : Dispatch η) : DispatchOutcome η :=
  s.port.dispatchAt s.port.readHandlers address.toNat

/-- `WritePortIoHandler`, up to the call. -/
def writePortIoHandlerAt (address : BitVec 32) (s : Dispatch η) : DispatchOutcome η :=
  s.port.dispatchAt s.port.writeHandlers address.toNat

/-- `MmioRegisterHandler`, whose loop tests no bit. -/
def mmioRegisterHandlerAt (answer : Bool) (address size : BitVec 32) (w r : Option η)
    (s : Dispatch η) : DispatchOutcome (Dispatch η) := do
  let index := mmioIndex address
  let mmio := s.mmio.initializeBitMap
  mmio.guardAt false index
  let mmio ← (mmioPages (address.toNat + size.toNat) index).foldlM
    (HandlerTable.registerAt w r) mmio
  let memory ← exitOnError (s.memory.gvmRegisterMmio answer address (size.setWidth 64))
  return { s with mmio := mmio, memory := memory }

/-- `MmioRemoveHandler`. -/
def mmioRemoveHandlerAt (answer : Bool) (address : BitVec 32) (s : Dispatch η) :
    DispatchOutcome (Dispatch η) := do
  let index := mmioIndex address
  s.mmio.guardAt true index
  let mmio ← s.mmio.removeAt index
  let memory ← exitOnError (s.memory.gvmRemoveMmio answer s.ram address 0x10000)
  return { s with mmio := mmio, memory := memory }

/-- `MmioReadHandler`, up to the call. -/
def mmioReadHandlerAt (address : BitVec 32) (s : Dispatch η) : DispatchOutcome η :=
  s.mmio.dispatchAt s.mmio.readHandlers (mmioIndex address)

/-- `MmioWriteHandler`, up to the call. -/
def mmioWriteHandlerAt (address : BitVec 32) (s : Dispatch η) : DispatchOutcome η :=
  s.mmio.dispatchAt s.mmio.writeHandlers (mmioIndex address)

end Dispatch

/-- The state after a call with checked accesses. -/
def dispatchStepAt (s : Dispatch η) : DispatchCall η → DispatchOutcome (Dispatch η)
  | .registerPort address w r => s.registerPortIoHandlerAt address w r
  | .removePort address => s.removePortIoHandlerAt address
  | .readPort address => do
      let _ ← s.readPortIoHandlerAt address
      return s
  | .writePort address => do
      let _ ← s.writePortIoHandlerAt address
      return s
  | .mmioRegister answer address size w r => s.mmioRegisterHandlerAt answer address size w r
  | .mmioRemove answer address => s.mmioRemoveHandlerAt answer address
  | .mmioRead address => do
      let _ ← s.mmioReadHandlerAt address
      return s
  | .mmioWrite address => do
      let _ ← s.mmioWriteHandlerAt address
      return s

/-! ## The devices of the program -/

/-- The MMIO registrations of the initialization functions, in the order of `main`. -/
inductive MmioDevice where
  | vgaCore
  | ioApic
  | apic
  | hpet
  | flash
  deriving DecidableEq, Repr

/-- The address and the size that a device registers. -/
def MmioDevice.range : MmioDevice → BitVec 32 × BitVec 32
  | vgaCore => (0xa0000, 0x20000)
  | ioApic => (0xfec00000, 0x1000)
  | apic => (0xfee00000, 0x1000)
  | hpet => (0xfed00000, 0x1000)
  | flash => (0xffc00000, 0x400000 - 128 * 1024)

/-- The registration of a device, with handlers of its own. -/
def MmioDevice.call (d : MmioDevice) : DispatchCall MmioDevice :=
  .mmioRegister true d.range.1 d.range.2 (some d) (some d)

end Svmm
