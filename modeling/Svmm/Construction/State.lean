import Svmm.Framework.Word
import Svmm.Framework.Run
import Mathlib.Logic.Function.Basic
import Mathlib.Data.Fintype.Basic

/-!
# The interrupt state of the VMM

The globals that `apic.c`, `ioapic.c`, `pic.c` and the run loop of `SVMM.c` share, in the
build the repository selects (`GVM` defined, `HAXM` not): the event word `svmm_events`, the
flag `kvm_run->request_interrupt_window`, the local APIC, the I/O APIC and the two PICs.

`NUM_LOCAL_APICS` is 1, so the array `Lapic[NUM_LOCAL_APICS]` is a single record and a loop
over it is one iteration.  `BYTE`, `USHORT`, `DWORD`/`ULONG` are bit vectors of width 8, 16
and 32; an index computed from them is a natural number.

Two things the C code gets from outside are data here.  `gvm` says how the hypervisor driver
answers each `DeviceIoControl`, given the calls made before it.  `busCalls` is a history
variable that no function reads: it records the pin of every call the I/O APIC makes on the
APIC bus, latest first.
-/

namespace Svmm

/-- How the VMM process stops coming back: `exit(-1)`, or a loop that never ends. -/
inductive Halt where
  | exit
  | hang
  deriving DecidableEq, Repr

/-- The result of a C function that may not return. -/
abbrev Outcome := Except Halt

/-! ## The event word -/

/-- Bit of `EVENT_PENDING_INTR`. -/
def eventPendingIntr : ℕ := 10

/-- Bit of `EVENT_PENDING_LAPIC_INTR`. -/
def eventPendingLapicIntr : ℕ := 11

/-! ## The devices -/

/-- A 256-bit register kept as `USHORT[16]`: one word for each priority class. -/
abbrev VectorRegister := Fin 16 → BitVec 16

/-- The fields of `LAPIC` that the modelled functions read or write. -/
structure Lapic where
  taskPriority : BitVec 32
  interruptServiceRegister : VectorRegister
  triggerModeRegister : VectorRegister
  interruptRequestRegister : VectorRegister
  destinationLogical : BitVec 32
  destinationFormat : BitVec 32
  shadowErrorStatus : BitVec 32
  spuriousVector : BitVec 8
  softwareEnable : BitVec 8
  focusDisable : BitVec 8
  msrEnable : BitVec 8
  localVectorTable : Fin 7 → BitVec 32

/-- `IO_REDIRECT_ENTRY`. -/
structure IoRedirectEntry where
  high : BitVec 32
  low : BitVec 32
  deriving DecidableEq

/-- `IOAPIC`. -/
structure IoApic where
  ioRegisterSelect : BitVec 32
  ioApicId : BitVec 32
  ioRedirectTable : Fin 24 → IoRedirectEntry
  irr : BitVec 32

/-- The fields of `PIC` that the code reads: of `InitCmd` only bytes 0 and 2, of
`OperationCmd` only byte 2. -/
structure Pic where
  initCmd0 : BitVec 8
  initCmd2 : BitVec 8
  operationCmd2 : BitVec 8
  edgeLevel : BitVec 8
  interruptMask : BitVec 8
  interruptInService : BitVec 8
  interruptRequest : BitVec 8
  interruptPin : BitVec 8
  interruptNumber : BitVec 8
  currentPriority : BitVec 8
  currentOffset : BitVec 8
  raised : BitVec 8
  state : BitVec 8
  mode : BitVec 8
  deriving DecidableEq

/-- The `DeviceIoControl` requests the modelled functions make on the virtual CPU. -/
inductive Ioctl where
  | gvmInterrupt (irq : BitVec 8)
  | gvmSmi
  | gvmNmi
  deriving DecidableEq, Repr

/-- The shared globals. -/
structure State where
  svmmEvents : BitVec 32
  requestInterruptWindow : BitVec 8
  lapic : Lapic
  ioApic : IoApic
  pic : Fin 2 → Pic
  gvm : List Ioctl → Ioctl → Bool
  ioctls : List Ioctl
  busCalls : List (Fin 24)

namespace State

/-- `svmm_events & EVENT_PENDING_INTR`. -/
def pendingIntr (s : State) : Bool := Word.has s.svmmEvents eventPendingIntr

/-- `svmm_events & EVENT_PENDING_LAPIC_INTR`. -/
def pendingLapicIntr (s : State) : Bool := Word.has s.svmmEvents eventPendingLapicIntr

/-- `svmm_events |= 1 << event`. -/
def setEvent (event : ℕ) (s : State) : State :=
  { s with svmmEvents := Word.set s.svmmEvents event }

/-- `svmm_events &= ~(1 << event)`. -/
def clearEvent (event : ℕ) (s : State) : State :=
  { s with svmmEvents := Word.clear s.svmmEvents event }

/-- `kvm_run->request_interrupt_window = value`. -/
def setWindow (value : BitVec 8) (s : State) : State :=
  { s with requestInterruptWindow := value }

def setLapic (l : Lapic) (s : State) : State := { s with lapic := l }

def setIoApic (a : IoApic) (s : State) : State := { s with ioApic := a }

def setPic (i : Fin 2) (p : Pic) (s : State) : State :=
  { s with pic := Function.update s.pic i p }

/-- `DeviceIoControl(hGvmCpu, call, ..)`: the answer and the state with the call recorded. -/
def deviceIoControl (call : Ioctl) (s : State) : Bool × State :=
  (s.gvm s.ioctls call, { s with ioctls := call :: s.ioctls })

section Projections

variable (s : State) (e : ℕ) (v : BitVec 8) (l : Lapic) (a : IoApic) (i j : Fin 2) (p : Pic)

@[simp] lemma pendingIntr_setEvent :
    (s.setEvent e).pendingIntr = (s.pendingIntr || decide (e = eventPendingIntr)) := by
  have : eventPendingIntr < 32 := by decide
  simp [pendingIntr, setEvent, this]

@[simp] lemma pendingLapicIntr_setEvent :
    (s.setEvent e).pendingLapicIntr =
      (s.pendingLapicIntr || decide (e = eventPendingLapicIntr)) := by
  have : eventPendingLapicIntr < 32 := by decide
  simp [pendingLapicIntr, setEvent, this]

@[simp] lemma pendingIntr_clearEvent :
    (s.clearEvent e).pendingIntr = (s.pendingIntr && !decide (e = eventPendingIntr)) := by
  simp [pendingIntr, clearEvent]

@[simp] lemma pendingLapicIntr_clearEvent :
    (s.clearEvent e).pendingLapicIntr =
      (s.pendingLapicIntr && !decide (e = eventPendingLapicIntr)) := by
  simp [pendingLapicIntr, clearEvent]

@[simp] lemma requestInterruptWindow_setEvent :
    (s.setEvent e).requestInterruptWindow = s.requestInterruptWindow := rfl
@[simp] lemma requestInterruptWindow_clearEvent :
    (s.clearEvent e).requestInterruptWindow = s.requestInterruptWindow := rfl
@[simp] lemma lapic_setEvent : (s.setEvent e).lapic = s.lapic := rfl
@[simp] lemma lapic_clearEvent : (s.clearEvent e).lapic = s.lapic := rfl
@[simp] lemma ioApic_setEvent : (s.setEvent e).ioApic = s.ioApic := rfl
@[simp] lemma ioApic_clearEvent : (s.clearEvent e).ioApic = s.ioApic := rfl
@[simp] lemma pic_setEvent : (s.setEvent e).pic = s.pic := rfl
@[simp] lemma pic_clearEvent : (s.clearEvent e).pic = s.pic := rfl
@[simp] lemma busCalls_setEvent : (s.setEvent e).busCalls = s.busCalls := rfl
@[simp] lemma busCalls_clearEvent : (s.clearEvent e).busCalls = s.busCalls := rfl

@[simp] lemma requestInterruptWindow_setWindow : (s.setWindow v).requestInterruptWindow = v := rfl
@[simp] lemma pendingIntr_setWindow : (s.setWindow v).pendingIntr = s.pendingIntr := rfl
@[simp] lemma pendingLapicIntr_setWindow :
    (s.setWindow v).pendingLapicIntr = s.pendingLapicIntr := rfl
@[simp] lemma lapic_setWindow : (s.setWindow v).lapic = s.lapic := rfl
@[simp] lemma ioApic_setWindow : (s.setWindow v).ioApic = s.ioApic := rfl
@[simp] lemma pic_setWindow : (s.setWindow v).pic = s.pic := rfl
@[simp] lemma busCalls_setWindow : (s.setWindow v).busCalls = s.busCalls := rfl

@[simp] lemma lapic_setLapic : (s.setLapic l).lapic = l := rfl
@[simp] lemma pendingIntr_setLapic : (s.setLapic l).pendingIntr = s.pendingIntr := rfl
@[simp] lemma pendingLapicIntr_setLapic :
    (s.setLapic l).pendingLapicIntr = s.pendingLapicIntr := rfl
@[simp] lemma requestInterruptWindow_setLapic :
    (s.setLapic l).requestInterruptWindow = s.requestInterruptWindow := rfl
@[simp] lemma ioApic_setLapic : (s.setLapic l).ioApic = s.ioApic := rfl
@[simp] lemma pic_setLapic : (s.setLapic l).pic = s.pic := rfl
@[simp] lemma busCalls_setLapic : (s.setLapic l).busCalls = s.busCalls := rfl

@[simp] lemma ioApic_setIoApic : (s.setIoApic a).ioApic = a := rfl
@[simp] lemma lapic_setIoApic : (s.setIoApic a).lapic = s.lapic := rfl
@[simp] lemma pendingIntr_setIoApic : (s.setIoApic a).pendingIntr = s.pendingIntr := rfl
@[simp] lemma pendingLapicIntr_setIoApic :
    (s.setIoApic a).pendingLapicIntr = s.pendingLapicIntr := rfl
@[simp] lemma requestInterruptWindow_setIoApic :
    (s.setIoApic a).requestInterruptWindow = s.requestInterruptWindow := rfl
@[simp] lemma pic_setIoApic : (s.setIoApic a).pic = s.pic := rfl
@[simp] lemma busCalls_setIoApic : (s.setIoApic a).busCalls = s.busCalls := rfl

lemma pic_setPic : (s.setPic i p).pic j = if j = i then p else s.pic j := by
  simp [setPic, Function.update_apply]
@[simp] lemma pic_setPic_self : (s.setPic i p).pic i = p := by simp [pic_setPic]
@[simp] lemma pic_setPic_zero_one : (s.setPic 0 p).pic 1 = s.pic 1 := by simp [pic_setPic]
@[simp] lemma pic_setPic_one_zero : (s.setPic 1 p).pic 0 = s.pic 0 := by simp [pic_setPic]
@[simp] lemma setPic_setPic_self (q : Pic) : (s.setPic i p).setPic i q = s.setPic i q := by
  simp [setPic]
lemma setPic_one_setPic_zero (q : Pic) :
    (s.setPic 1 p).setPic 0 q = (s.setPic 0 q).setPic 1 p := by
  simp only [setPic, Function.update_comm (show (0 : Fin 2) ≠ 1 by decide)]
@[simp] lemma pendingIntr_setPic : (s.setPic i p).pendingIntr = s.pendingIntr := rfl
@[simp] lemma pendingLapicIntr_setPic :
    (s.setPic i p).pendingLapicIntr = s.pendingLapicIntr := rfl
@[simp] lemma requestInterruptWindow_setPic :
    (s.setPic i p).requestInterruptWindow = s.requestInterruptWindow := rfl
@[simp] lemma lapic_setPic : (s.setPic i p).lapic = s.lapic := rfl
@[simp] lemma ioApic_setPic : (s.setPic i p).ioApic = s.ioApic := rfl
@[simp] lemma busCalls_setPic : (s.setPic i p).busCalls = s.busCalls := rfl

@[simp] lemma deviceIoControl_snd_lapic (c : Ioctl) : (s.deviceIoControl c).2.lapic = s.lapic := rfl
@[simp] lemma deviceIoControl_snd_ioApic (c : Ioctl) :
    (s.deviceIoControl c).2.ioApic = s.ioApic := rfl
@[simp] lemma deviceIoControl_snd_pic (c : Ioctl) : (s.deviceIoControl c).2.pic = s.pic := rfl
@[simp] lemma deviceIoControl_snd_busCalls (c : Ioctl) :
    (s.deviceIoControl c).2.busCalls = s.busCalls := rfl
@[simp] lemma deviceIoControl_snd_pendingIntr (c : Ioctl) :
    (s.deviceIoControl c).2.pendingIntr = s.pendingIntr := rfl
@[simp] lemma deviceIoControl_snd_pendingLapicIntr (c : Ioctl) :
    (s.deviceIoControl c).2.pendingLapicIntr = s.pendingLapicIntr := rfl
@[simp] lemma deviceIoControl_snd_requestInterruptWindow (c : Ioctl) :
    (s.deviceIoControl c).2.requestInterruptWindow = s.requestInterruptWindow := rfl

end Projections

end State

end Svmm
