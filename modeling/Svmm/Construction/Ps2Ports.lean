import Svmm.Construction.DeviceCall
import Svmm.Construction.Ps2

/-!
# The command port of the PS/2 controller

`Ps2PortIoWriteHandler` of `ps2.c`, with the clocks of the two devices.  `Ps2.TimerId` is never
assigned, so that the timer that the clock of the mouse activates is timer 0.
-/

namespace Svmm

/-- `PS2`, with what the commands of the controller keep. -/
structure Ps2Controller where
  ps2 : Ps2
  timerId : BitVec 32
  commandBuffer : BitVec 8
  outputPort : BitVec 8

/-- More bits of the status and the data register, and `OUTPUT_PORT_A20`. -/
def statusSystemTest : ℕ := 2
def statusCommandLast : ℕ := 3
def dataDisableKeyboard : ℕ := 4
def dataDisableMouse : ℕ := 5
def outputPortA20 : ℕ := 1

/-- The commands of the controller. -/
def cmdReadByte : BitVec 8 := 0x20
def cmdWriteByte : BitVec 8 := 0x60
def cmdDisable2ndPs2port : BitVec 8 := 0xa7
def cmdEnable2ndPs2port : BitVec 8 := 0xa8
def cmdTest2ndPs2port : BitVec 8 := 0xa9
def cmdTestController : BitVec 8 := 0xaa
def cmdTest1stPs2port : BitVec 8 := 0xab
def cmdDisable1stPs2port : BitVec 8 := 0xad
def cmdEnable1stPs2port : BitVec 8 := 0xae
def cmdReadInputPort : BitVec 8 := 0xc0
def cmdReadOutputPort : BitVec 8 := 0xd0
def cmdWriteOutputPort : BitVec 8 := 0xd1
def cmdWriteKbObuf : BitVec 8 := 0xd2
def cmdWriteMouse : BitVec 8 := 0xd4
def cmdDisableA20 : BitVec 8 := 0xdd
def cmdEnableA20 : BitVec 8 := 0xdf

/-- The commands that take the next byte of port 0x60. -/
def cmdsWithData : List (BitVec 8) :=
  [cmdWriteByte, cmdWriteOutputPort, cmdWriteMouse, cmdWriteKbObuf, cmdWriteMsObuf]

/-- `NANOSECONDS_PER_MSECOND * 10`. -/
def ps2Delay : BitVec 64 := 1000000 * 10

namespace Ps2

/-- `Ps2EnableKeyboardClock`. -/
def enableKeyboardClock (enable : Bool) (s : Ps2) : Ps2 :=
  if enable then
    let s := if !s.outputFull && !s.keyboard.clockEnabled then s.pendTimer else s
    { s with keyboard := { s.keyboard with clockEnabled := true } }
  else { s with keyboard := { s.keyboard with clockEnabled := false } }

/-- `Ps2EnableMouseClock`; `clockNs` is `TimerGetClockNs()`. -/
def enableMouseClock (timerId : BitVec 32) (clockNs : BitVec 64) (value : Bool) (s : Ps2) :
    Ps2 × List TimerCall :=
  if value then
    if !s.outputFull && !s.mouse.clockEnabled then
      ({ s.pendTimer with mouse := { s.mouse with clockEnabled := true } },
        [.activate timerId (clockNs + ps2Delay) 1])
    else ({ s with mouse := { s.mouse with clockEnabled := true } }, [])
  else ({ s with mouse := { s.mouse with clockEnabled := false } }, [])

/-- A test answers on an output buffer that must be empty. -/
def answerTest (device : Ps2Device) (s : Ps2) : Except Unit Ps2 :=
  if s.outputFull then .error () else s.queueByte 0 device

/-- `CMD_TEST_CONTROLLER`. -/
def testController (s : Ps2) : Except Unit Ps2 :=
  let s := if Word.has s.statusRegister statusSystemTest then s
    else { s with
      statusRegister := Word.clear s.statusRegister statusOutputKbBufferFull
      controllerQueue := [] }
  if s.outputFull then .ok s
  else
    ({ s with statusRegister := Word.set s.statusRegister statusSystemTest }).queueByte 0x55
      .keyboard

end Ps2

namespace Ps2Controller

/-- A controller with what a function left of its output side. -/
def withPs2 (c : Ps2Controller) (ps2 : Except Unit Ps2) :
    Except Unit (Ps2Controller × List TimerCall) := do
  let ps2 ← ps2
  return ({ c with ps2 := ps2 }, [])

/-- The data of the last command. -/
def writeCommandData (clockNs : BitVec 64) (value : BitVec 8) (c : Ps2Controller) :
    Except Unit (Ps2Controller × List TimerCall) :=
  if c.commandBuffer = cmdWriteByte then
    let s := ({ c.ps2 with dataRegister := value }).enableKeyboardClock
      (!Word.has value dataDisableKeyboard)
    let (s, calls) := s.enableMouseClock c.timerId clockNs (!Word.has value dataDisableMouse)
    .ok ({ c with ps2 := s }, calls)
  else if c.commandBuffer = cmdWriteKbObuf then c.withPs2 (c.ps2.queueByte value .keyboard)
  else if c.commandBuffer = cmdWriteMsObuf then c.withPs2 (c.ps2.queueByte value .mouse)
  else if c.commandBuffer = cmdWriteOutputPort then .ok ({ c with outputPort := value }, [])
  -- `Ps2SendMouse` does nothing
  else .ok (c, [])

/-- `Ps2PortIoWriteHandler` for `DATA_REGISTER`. -/
def writeDataRegister (clockNs : BitVec 64) (value : BitVec 8) (c : Ps2Controller) :
    Except Unit (Ps2Controller × List TimerCall) := do
  let (c, calls) ← if Word.has c.ps2.statusRegister statusCommandLast then
    c.writeCommandData clockNs value else c.withPs2 (c.ps2.sendKeyboard value)
  return ({ c with
    ps2 := { c.ps2 with statusRegister := Word.clear c.ps2.statusRegister statusCommandLast }
    commandBuffer := 0 }, calls)

/-- `Ps2PortIoWriteHandler` for `COMMAND_REGISTER`. -/
def writeCommandRegister (clockNs : BitVec 64) (value : BitVec 8) (c : Ps2Controller) :
    Except Unit (Ps2Controller × List TimerCall) :=
  let enableMouse (value : Bool) :=
    let (s, calls) := c.ps2.enableMouseClock c.timerId clockNs value
    ({ c with ps2 := s }, calls)
  if value = cmdReadByte then c.withPs2 (c.ps2.queueByte c.outputPort .keyboard)
  else if value = cmdReadOutputPort then c.withPs2 (c.ps2.queueByte 0x55 .keyboard)
  else if value ∈ cmdsWithData then
    .ok ({ c with
      ps2 := { c.ps2 with statusRegister := Word.set c.ps2.statusRegister statusCommandLast }
      commandBuffer := value }, [])
  else if value = cmdDisable2ndPs2port then .ok (enableMouse false)
  else if value = cmdEnable2ndPs2port then .ok (enableMouse true)
  else if value = cmdTest2ndPs2port then c.withPs2 (c.ps2.answerTest .mouse)
  else if value = cmdTestController then c.withPs2 c.ps2.testController
  else if value = cmdTest1stPs2port then c.withPs2 (c.ps2.answerTest .keyboard)
  else if value = cmdDisable1stPs2port then
    .ok ({ c with ps2 := c.ps2.enableKeyboardClock false }, [])
  else if value = cmdEnable1stPs2port then
    .ok ({ c with ps2 := c.ps2.enableKeyboardClock true }, [])
  else if value = cmdReadInputPort then c.withPs2 (c.ps2.queueByte 0x80 .keyboard)
  else if value = 0xca then c.withPs2 (c.ps2.queueByte 0x01 .keyboard)
  else if value = cmdDisableA20 then
    .ok ({ c with outputPort := Word.clear c.outputPort outputPortA20 }, [])
  else if value = cmdEnableA20 then
    .ok ({ c with outputPort := Word.set c.outputPort outputPortA20 }, [])
  else .ok (c, [])

/-- `Ps2PortIoWriteHandler`. -/
def portIoWriteHandler (clockNs : BitVec 64) (address : BitVec 64) (value : BitVec 32)
    (c : Ps2Controller) : Except Unit (Ps2Controller × List TimerCall) :=
  if address &&& 0xff = 0x60 then c.writeDataRegister clockNs (value.setWidth 8)
  else if address &&& 0xff = 0x64 then c.writeCommandRegister clockNs (value.setWidth 8)
  else .ok (c, [])

/-- `Ps2Initialize`. -/
def initialState : Ps2Controller where
  ps2 := .initialState
  timerId := 0
  commandBuffer := 0
  outputPort := 0

end Ps2Controller

end Svmm
