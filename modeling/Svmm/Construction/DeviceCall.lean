import Svmm.Construction.Timer

/-!
# What devices ask of each other

A device is modelled apart from the others: its functions return its own state and the calls they
make on the interrupt controller and on the timers, in order.
-/

namespace Svmm

/-- `RTC_IRQ`. -/
def rtcIrq : BitVec 8 := 8

/-- The calls of a device on other modules. -/
inductive DeviceCall where
  /-- `PicRaiseIrq`. -/
  | raiseIrq (irqNumber : BitVec 8)
  /-- `PicLowerIrq`. -/
  | lowerIrq (irqNumber : BitVec 8)
  /-- `PciSetIrq`. -/
  | pciSetIrq (pciAddress : BitVec 32) (irqNumber raise : BitVec 8)
  | timer (call : TimerCall)
  deriving DecidableEq

/-- A division by zero stops the program. -/
inductive DivisionFault where
  | divByZero
  deriving DecidableEq, Repr

/-- `a / b`. -/
def divide (a b : BitVec 64) : Except DivisionFault (BitVec 64) :=
  if b = 0 then .error .divByZero else .ok (a / b)

/-- `a % b`. -/
def remainder (a b : BitVec 64) : Except DivisionFault (BitVec 64) :=
  if b = 0 then .error .divByZero else .ok (a % b)

end Svmm
