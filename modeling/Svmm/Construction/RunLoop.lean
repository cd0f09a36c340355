import Svmm.Construction.Pic
import Svmm.Construction.Apic.Registers

/-!
# The run loop's part in interrupt delivery

The `GVM_EXIT_IRQ_WINDOW_OPEN` case of `main` in `SVMM.c`, the power-on state, and the inputs that
drive the interrupt fabric: device lines (PCI lines go to the I/O APIC without passing the PICs),
port and MMIO writes of the guest, and the window exit.  Between two guest entries any number of
these can happen, so `State` after any run of `step` is a state the guest can be entered from.
-/

namespace Svmm

/-- `SvmmInterrupt`: inject a vector.  A failed call is only reported on `stderr`. -/
def svmmInterrupt (vector : BitVec 8) (s : State) : State :=
  (s.deviceIoControl (.gvmInterrupt vector)).2

/-- The `GVM_EXIT_IRQ_WINDOW_OPEN` case of the run loop. -/
def irqWindowOpen (s : State) : Outcome State :=
  let s := s.setWindow 0
  if s.pendingIntr then do
    let (vector, t) ← picIAC s
    .ok (svmmInterrupt vector t)
  else if s.pendingLapicIntr then do
    let (vector, t) ← apicAcknowledgeInterrupt s
    .ok (svmmInterrupt vector t)
  else .ok s

/-- The VMM before the guest first runs: no event, no window, the devices as their
`Initialize` functions leave them. -/
def State.initial (gvm : List Ioctl → Ioctl → Bool) : State where
  svmmEvents := 0
  requestInterruptWindow := 0
  lapic := Lapic.initial
  ioApic := IoApic.initial
  pic := fun i => if i = 0 then Pic.initial 0x08 else Pic.initial 0x70
  gvm := gvm
  ioctls := []
  busCalls := []

/-- One input to the interrupt fabric. -/
inductive Op where
  | picRaiseIrq (irqNumber : BitVec 8)
  | picLowerIrq (irqNumber : BitVec 8)
  | picPortIoWrite (address : BitVec 64) (value : BitVec 32)
  | ioApicRaiseIrq (irqNumber : BitVec 8)
  | ioApicLowerIrq (irqNumber : BitVec 8)
  | ioApicMMIOWrite (address value : BitVec 32)
  | apicSetIrq (vector : BitVec 8) (levelSensitive : BitVec 32)
  | apicWriteTaskPriority (value : BitVec 32)
  | apicWriteSpuriousInterrupt (value : BitVec 32)
  | apicReceiveEOI
  | apicAcknowledgeInterrupt
  | irqWindowOpen
  deriving DecidableEq

/-- The effect of one input. -/
def step (s : State) : Op → Outcome State
  | .picRaiseIrq irqNumber => picRaiseIrq irqNumber s
  | .picLowerIrq irqNumber => .ok (picLowerIrq irqNumber s)
  | .picPortIoWrite address value => picPortIoWriteHandler address value s
  | .ioApicRaiseIrq irqNumber => ioApicRaiseIrq irqNumber s
  | .ioApicLowerIrq irqNumber => .ok (ioApicLowerIrq irqNumber s)
  | .ioApicMMIOWrite address value => ioApicMMIOWriteHandler address value s
  | .apicSetIrq vector levelSensitive => .ok (apicSetIrq vector levelSensitive s)
  | .apicWriteTaskPriority value => .ok (apicWriteTaskPriority value s)
  | .apicWriteSpuriousInterrupt value => .ok (apicWriteSpuriousInterrupt value s)
  | .apicReceiveEOI => .ok (apicReceiveEOI s)
  | .apicAcknowledgeInterrupt => (apicAcknowledgeInterrupt s).map Prod.snd
  | .irqWindowOpen => irqWindowOpen s

end Svmm
