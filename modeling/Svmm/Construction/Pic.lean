import Svmm.Construction.IoApic
import Svmm.Framework.Scan

/-!
# The two 8259 interrupt controllers

`pic.c`: `PicService`, `PicIAC`, the raise and lower entry points and the port write handler.
Controller 0 is the master, controller 1 the slave.

An expression `1 << irq` with an `irq` of 32 or more has no meaning in C; compiled for x86 the
count is taken modulo 32, and that is what `irqBit` does.

`PicService` and `PicRaiseIrq(2)` call each other in the source.  The recursion stops at the
second level, because the inner call finds the pin of irq 2 already set; the definitions here
are the two levels written out, and `picRaiseCascade_eq` gives the source's equation back.
-/

namespace Svmm

/-! ## Command words -/

/-- Bits of the initialisation and operation command words. -/
def icw1ReqIcw4 : ℕ := 0
def icw1Init : ℕ := 4
def icw3CascadeEnable : ℕ := 2
def icw3SlaveId : BitVec 8 := 1 <<< 1
def icw4Mask : BitVec 8 := 0xf
def icw4AutoEoi : ℕ := 1
def icw4SpecialFullyNested : ℕ := 4
def ocw3Mask : BitVec 32 := 0x7f
def ocw3SpecialMaskMode : ℕ := 6
def ocw3EspecialMaskMode : ℕ := 5
def ocw3PollMode : ℕ := 2
def ocw3SelectDefault : BitVec 32 := 1 <<< 3

def stateInitializedIcw1 : BitVec 8 := 1
def stateOffsetSetIcw2 : BitVec 8 := 2
def stateSlaveSetIcw3 : BitVec 8 := 3
def stateArchSetIcw4 : BitVec 8 := 4

/-- Bits of `Mode`. -/
def modeFullyNested : ℕ := 0
def modeSpecialFullyNested : ℕ := 1
def modeSpecialMask : ℕ := 4
def modePoll : ℕ := 5
def modeAutoEoi : ℕ := 6
def modeNormalEoi : ℕ := 7

/-! ## One controller -/

/-- `1 << irq` as the mask of a byte register. -/
def irqBit (irq : ℕ) : ℕ := irq % 32

namespace Pic

variable (p : Pic)

def requested (irq : ℕ) : Bool := Word.has p.interruptRequest (irqBit irq)
def masked (irq : ℕ) : Bool := Word.has p.interruptMask (irqBit irq)
def inService (irq : ℕ) : Bool := Word.has p.interruptInService (irqBit irq)
def pin (irq : ℕ) : Bool := Word.has p.interruptPin (irqBit irq)

/-- `Mode & MODE_SPECIAL_MASK`. -/
def specialMask : Bool := Word.has p.mode modeSpecialMask

/-- `Mode & MODE_FULLY_NESTED`. -/
def fullyNested : Bool := Word.has p.mode modeFullyNested

/-- `InitCmd[2] & ICW3_CASCADE_ENABLE`: the controller is the master. -/
def cascade : Bool := Word.has p.initCmd2 icw3CascadeEnable

/-- The scan of `PicService` in fully nested mode: the first irq up to `CurrentPriority` that
is requested, not masked and not in service. -/
def nextIrq : Option ℕ :=
  Scan.firstUpTo (fun irq => !p.masked irq && !p.inService irq && p.requested irq)
    p.currentPriority.toNat

/-- `Raised = 1; InterruptNumber = irq + CurrentOffset`. -/
def latch (irq : ℕ) : Pic :=
  { p with raised := 1, interruptNumber := BitVec.ofNat 8 irq + p.currentOffset }

/-- `InterruptNumber - CurrentOffset` as a `BYTE`. -/
def latchedIrq : ℕ := (p.interruptNumber - p.currentOffset).toNat

/-- The first half of an acknowledge: `Raised = 0`, and an edge request is consumed. -/
def consume (irq : ℕ) : Pic :=
  { p with
    raised := 0
    interruptRequest :=
      if Word.has p.edgeLevel (irqBit irq) then p.interruptRequest
      else Word.clear p.interruptRequest (irqBit irq) }

/-- The second half of an acknowledge: the irq goes into service. -/
def serve (irq : ℕ) : Pic :=
  { p with
    currentPriority := BitVec.ofNat 8 irq
    interruptInService := Word.set p.interruptInService (irqBit irq) }

/-- `InterruptPin |= 1 << irq; InterruptRequest |= 1 << irq`. -/
def raiseLine (irq : ℕ) : Pic :=
  { p with
    interruptPin := Word.set p.interruptPin (irqBit irq)
    interruptRequest := Word.set p.interruptRequest (irqBit irq) }

/-- `InterruptPin &= ~(1 << irq); InterruptRequest &= ~(1 << irq)`. -/
def lowerLine (irq : ℕ) : Pic :=
  { p with
    interruptPin := Word.clear p.interruptPin (irqBit irq)
    interruptRequest := Word.clear p.interruptRequest (irqBit irq) }

/-- A controller after `PicInitialize`. -/
def initial (offset : BitVec 8) : Pic where
  initCmd0 := 0
  initCmd2 := 0
  operationCmd2 := 0
  edgeLevel := 0
  interruptMask := 0xff
  interruptInService := 0
  interruptRequest := 0
  interruptPin := 0
  interruptNumber := 0
  currentPriority := 7
  currentOffset := offset
  raised := 0
  state := 0
  mode := Word.bit modeFullyNested

end Pic

/-! ## Service -/

/-- The special-mask branch of `PicService` over a list of irqs.  A failed `GVM_INTERRUPT`
ends the function. -/
def picServiceSpecialMask (i : Fin 2) : List ℕ → State → State
  | [], s => s
  | irq :: irqs, s =>
      let p := s.pic i
      -- `~InterruptMask & (1 << irq)`: an irq that is not masked is passed over
      if p.masked irq = false then picServiceSpecialMask i irqs s
      else if p.inService irq = false ∧ p.requested irq = true then
        let t := s.setPic i (p.latch irq)
        let (ret, t) := t.deviceIoControl (.gvmInterrupt (p.latch irq).interruptNumber)
        if ret then picServiceSpecialMask i irqs (t.setEvent eventPendingIntr) else t
      else picServiceSpecialMask i irqs s

/-- The body of `PicService` with the call of `PicRaiseIrq(2)` as a parameter. -/
def picServiceWith (raiseIrq2 : State → Outcome State) (i : Fin 2) (s : State) :
    Outcome State :=
  let p := s.pic i
  if p.specialMask then .ok (picServiceSpecialMask i (List.range 8) s)
  else if p.fullyNested then
    match p.nextIrq with
    | none =>
        -- with `CurrentPriority` 255 the `BYTE` counter wraps before it can pass the bound
        if p.currentPriority = 255 then .error .hang else .ok s
    | some irq =>
        let t := s.setPic i (p.latch irq)
        if p.cascade then .ok ((t.setWindow 1).setEvent eventPendingIntr)
        else raiseIrq2 t
  else .ok s

/-- `PicRaiseIrq(2)`, which is not forwarded to the I/O APIC. -/
def picRaiseCascade (s : State) : Outcome State :=
  if (s.pic 0).pin 2 then .ok s
  else picServiceWith .ok 0 (s.setPic 0 ((s.pic 0).raiseLine 2))

/-- `PicService(&Pic[i])`. -/
def picService (i : Fin 2) (s : State) : Outcome State := picServiceWith picRaiseCascade i s

/-! ## Lines -/

/-- The controller and line of an irq number up to 15. -/
def picOf (irqNumber : BitVec 8) : Fin 2 := if 7 < irqNumber.toNat then 1 else 0

/-- The PIC's part of `PicRaiseIrq`. -/
def picRaiseLine (irqNumber : BitVec 8) (s : State) : Outcome State :=
  let i := picOf irqNumber
  let irq := irqNumber.toNat % 8
  if 15 < irqNumber.toNat ∨ (s.pic i).pin irq = true then .ok s
  else picService i (s.setPic i ((s.pic i).raiseLine irq))

/-- `PicRaiseIrq`. -/
def picRaiseIrq (irqNumber : BitVec 8) (s : State) : Outcome State := do
  let t ← if irqNumber ≠ 2 then ioApicRaiseIrq irqNumber s else .ok s
  picRaiseLine irqNumber t

/-- The PIC's part of `PicLowerIrq`. -/
def picLowerLine (irqNumber : BitVec 8) (s : State) : State :=
  let i := picOf irqNumber
  let irq := irqNumber.toNat % 8
  if 7 < irqNumber.toNat ∨ (s.pic i).pin irq = false then s
  else s.setPic i ((s.pic i).lowerLine irq)

/-- `PicLowerIrq`. -/
def picLowerIrq (irqNumber : BitVec 8) (s : State) : State :=
  picLowerLine irqNumber (if irqNumber ≠ 2 then ioApicLowerIrq irqNumber s else s)

/-! ## Acknowledge -/

/-- `PicIAC`: the returned vector and the state after it. -/
def picIAC (s : State) : Outcome (BitVec 8 × State) := do
  let s := s.clearEvent eventPendingIntr
  let irq := (s.pic 0).latchedIrq
  let s := s.setPic 0 ((s.pic 0).consume irq)
  if irq ≠ 2 then
    let s := s.setPic 0 ((s.pic 0).serve irq)
    let t ← picService 0 s
    .ok ((s.pic 0).interruptNumber, t)
  else
    let irq := (s.pic 1).latchedIrq
    let s := s.setPic 1 ((s.pic 1).consume irq)
    let s := s.setPic 0
      { s.pic 0 with interruptPin := Word.clear (s.pic 0).interruptPin (irqBit 2) }
    let s := s.setPic 1 ((s.pic 1).serve irq)
    -- the next interrupt of the slave, then the next of the master
    let t ← picService 1 s
    let u ← picService 0 t
    .ok ((s.pic 1).interruptNumber, u)

/-! ## The port write handler -/

/-- What a command byte does besides changing its controller's registers. -/
inductive PicEffect where
  | none
  | service
  | clearPending
  deriving DecidableEq, Repr

namespace Pic

variable (p : Pic)

/-- ICW1. -/
def writeIcw1 (value : BitVec 32) : Pic × PicEffect :=
  ({ p with
      initCmd0 := (value &&& Word.bit icw1ReqIcw4).setWidth 8
      interruptRequest := 0
      interruptMask := 0
      state := stateInitializedIcw1
      currentPriority := 7
      raised := 0
      mode := 0 }, .clearPending)

/-- OCW3. -/
def writeOcw3 (value : BitVec 32) : Pic × PicEffect :=
  let cmd := value &&& ocw3Mask
  let p := { p with operationCmd2 := cmd.setWidth 8 }
  if value &&& 3 ≠ 0 then (p, .none)
  else if Word.has cmd ocw3SpecialMaskMode ∧ Word.has cmd ocw3EspecialMaskMode then
    ({ p with mode := Word.bit modeSpecialMask }, .service)
  else if Word.has cmd ocw3SpecialMaskMode ∧ Word.has cmd ocw3EspecialMaskMode = false then
    ({ p with mode := Word.bit modeSpecialFullyNested }, .none)
  else if Word.has cmd ocw3PollMode then ({ p with mode := Word.bit modePoll }, .none)
  else (p, .none)

/-- The non-specific EOI: the loop runs a signed counter down from `CurrentPriority`, so a
priority of 128 or more ends it at once. -/
def endOfInterrupt : Pic :=
  if 128 ≤ p.currentPriority.toNat then p
  else
    let irq := Scan.lastUpTo p.inService p.currentPriority.toNat
    if p.inService irq then
      { p with
        interruptInService := Word.clear p.interruptInService (irqBit irq)
        currentPriority := 7 }
    else p

/-- `InterruptInService &= ~(1 << irq)`. -/
def specificEndOfInterrupt (irq : ℕ) : Pic :=
  { p with interruptInService := Word.clear p.interruptInService (irqBit irq) }

/-- OCW2, a `switch` on the low byte of the value. -/
def writeOcw2 (value : BitVec 32) : Pic × PicEffect :=
  let cmd := value.toNat % 256
  if cmd = 0x00 ∨ cmd = 0x80 then
    ({ p with
      mode := if value ≠ 0 then Word.bit modeAutoEoi else Word.bit modeNormalEoi }, .none)
  else if cmd = 0x20 ∨ cmd = 0xA0 then (p.endOfInterrupt, .service)
  else if 0x60 ≤ cmd ∧ cmd ≤ 0x67 then (p.specificEndOfInterrupt (cmd - 0x60), .service)
  else if 0xC0 ≤ cmd ∧ cmd ≤ 0xC7 then
    ({ p with currentPriority := BitVec.ofNat 8 (cmd - 0xC0) }, .none)
  else if 0xE0 ≤ cmd ∧ cmd ≤ 0xE7 then
    ({ p.specificEndOfInterrupt (cmd - 0xE0) with
      currentPriority := BitVec.ofNat 8 (cmd - 0xE0) }, .service)
  else (p, .none)

/-- A write to the command port. -/
def writeCommand (value : BitVec 32) : Pic × PicEffect :=
  if Word.has value icw1Init then p.writeIcw1 value
  else if value &&& 0x18 = ocw3SelectDefault then p.writeOcw3 value
  else p.writeOcw2 value

/-- ICW4.  The special fully nested bit is outside `ICW4_MASK`, so its branch is never
taken. -/
def writeIcw4 (value : BitVec 32) : Pic :=
  let cmd := (value.setWidth 8) &&& icw4Mask
  let mode :=
    if Word.has cmd icw4SpecialFullyNested then Word.set p.mode modeSpecialFullyNested
    else if Word.has cmd modeFullyNested then Word.set p.mode modeFullyNested
    else p.mode
  { p with
    state := stateArchSetIcw4
    mode := if Word.has cmd icw4AutoEoi then Word.set mode modeAutoEoi
            else Word.set mode modeNormalEoi }

/-- A write to the data port of controller `i`: ICW2 to ICW4 in their order, then the
interrupt mask. -/
def writeData (i : Fin 2) (value : BitVec 32) : Pic × PicEffect :=
  if p.state = stateInitializedIcw1 then
    ({ p with state := stateOffsetSetIcw2, currentOffset := value.setWidth 8 }, .none)
  else if p.state = stateOffsetSetIcw2 then
    ({ p with
      initCmd2 :=
        if i = 0 then (value &&& Word.bit icw3CascadeEnable).setWidth 8 else icw3SlaveId
      state := stateSlaveSetIcw3
      interruptPin := p.interruptPin &&& ~~~(value.setWidth 8) }, .none)
  else if p.state.toNat < stateArchSetIcw4.toNat ∧ Word.has p.initCmd0 icw1ReqIcw4 then
    (p.writeIcw4 value, .none)
  else if p.state = stateArchSetIcw4 then
    ({ p with interruptMask := value.setWidth 8 }, .service)
  else (p, .none)

end Pic

/-- Store a controller's registers and carry out the command's effect. -/
def picApply (i : Fin 2) (w : Pic × PicEffect) (s : State) : Outcome State :=
  let t := s.setPic i w.1
  match w.2 with
  | .none => .ok t
  | .service => picService i t
  | .clearPending => .ok (t.clearEvent eventPendingIntr)

/-- `PicPortIoWriteHandler`; the length argument is not used. -/
def picPortIoWriteHandler (address : BitVec 64) (value : BitVec 32) (s : State) :
    Outcome State :=
  let i : Fin 2 := if 0xA0 ≤ address.toNat then 1 else 0
  if address = 0x20 ∨ address = 0xA0 then picApply i ((s.pic i).writeCommand value) s
  else if address = 0x21 ∨ address = 0xA1 then picApply i ((s.pic i).writeData i value) s
  else .ok s

end Svmm
