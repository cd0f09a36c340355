import Mathlib.Data.Nat.Notation
import Svmm.Framework.Word

/-!
# The PS/2 controller

`ps2.c`: the output side of the controller, a keyboard with its own memory, and the timer that moves
bytes from that memory to the output.  A byte waits in the buffer of its device; bytes that come
while one waits go to the controller queue, which does not say whose they are.  The queues are lists
of the length that the source keeps in an index.  The interrupt lines, which the read handler lowers
and the timer raises, belong to the interrupt controllers and are left out.
-/

namespace Svmm

/-- `KEYBOARD_DEVICE` and `MOUSE_DEVICE`. -/
inductive Ps2Device where
  | keyboard
  | mouse
  deriving DecidableEq, Repr

/-- `KEYBOARD`. -/
structure Ps2Keyboard where
  memory : List (BitVec 8)
  clockEnabled : Bool
  scanCodeEnabled : Bool
  scanCodeSet : BitVec 8
  ledState : BitVec 8
  typematic : BitVec 8

/-- `MOUSE`. -/
structure Ps2Mouse where
  memory : List (BitVec 8)
  clockEnabled : Bool

/-- The fields of `PS2` that the output side uses. -/
structure Ps2 where
  dataRegister : BitVec 8
  statusRegister : BitVec 8
  controllerQueue : List (BitVec 8)
  timerPending : BitVec 32
  keyboardBuffer : BitVec 8
  mouseBuffer : BitVec 8
  keyboard : Ps2Keyboard
  mouse : Ps2Mouse

/-- The bits of the status register. -/
def statusOutputKbBufferFull : ℕ := 0
def statusInputBufferFull : ℕ := 1
def statusOutputMsBufferFull : ℕ := 5
def statusReceiveTimeoutError : ℕ := 6

/-- The bits of the data register. -/
def dataKbInterrupt : ℕ := 0
def dataMsInterrupt : ℕ := 1
def dataScanCode : ℕ := 6

/-- `KBD_CONTROLLER_QSIZE`, `KEYBOARD_MEMORY_SIZE` and `MOUSE_MEMORY_SIZE`. -/
def kbdControllerQsize : ℕ := 5
def keyboardMemorySize : ℕ := 16
def mouseMemorySize : ℕ := 48

/-- The replies of the keyboard. -/
def kbdReplyPor : BitVec 8 := 0xaa
def kbdReplyId : BitVec 8 := 0xab
def kbdReplyAck : BitVec 8 := 0xfa
def kbdReplyResend : BitVec 8 := 0xfe

/-- The commands that the keyboard tells apart. -/
def kbdCmdSetLeds : BitVec 8 := 0xed
def kbdCmdEcho : BitVec 8 := 0xee
def kbdCmdScancode : BitVec 8 := 0xf0
def kbdCmdGetId : BitVec 8 := 0xf2
def kbdCmdSetRate : BitVec 8 := 0xf3
def kbdCmdEnable : BitVec 8 := 0xf4
def kbdCmdResetDisable : BitVec 8 := 0xf5
def kbdCmdResetEnable : BitVec 8 := 0xf6
def kbdCmdReset : BitVec 8 := 0xff
def cmdWriteMsObuf : BitVec 8 := 0xd3

namespace Ps2

/-- `Ps2Initialize`. -/
def initialState : Ps2 where
  dataRegister := 0
  statusRegister := 0
  controllerQueue := []
  timerPending := 0
  keyboardBuffer := 0
  mouseBuffer := 0
  keyboard :=
    { memory := [], clockEnabled := false, scanCodeEnabled := false, scanCodeSet := 0, ledState := 0
      typematic := 0 }
  mouse := { memory := [], clockEnabled := false }

/-- `STATUS_OUTPUT_KB_BUFFER_FULL` and `STATUS_OUTPUT_MS_BUFFER_FULL` are set. -/
def outputFull (s : Ps2) : Bool := Word.has s.statusRegister statusOutputKbBufferFull
def outputMouse (s : Ps2) : Bool := Word.has s.statusRegister statusOutputMsBufferFull

/-! ## The output buffer -/

/-- A byte of a device goes to its buffer. -/
def fill (data : BitVec 8) (device : Ps2Device) (s : Ps2) : Ps2 :=
  match device with
  | .keyboard =>
      { s with
        statusRegister :=
          Word.clear (Word.clear (Word.set s.statusRegister statusOutputKbBufferFull)
          statusInputBufferFull) statusOutputMsBufferFull
        keyboardBuffer := data
        dataRegister := Word.set s.dataRegister dataKbInterrupt }
  | .mouse =>
      { s with
        statusRegister := Word.clear (Word.set (Word.set s.statusRegister statusOutputKbBufferFull)
          statusOutputMsBufferFull) statusInputBufferFull
        mouseBuffer := data
        dataRegister := Word.set s.dataRegister dataMsInterrupt }

/-- `Ps2QueueByte`. -/
def queueByte (data : BitVec 8) (device : Ps2Device) (s : Ps2) : Except Unit Ps2 :=
  if s.outputFull then
    if kbdControllerQsize ≤ s.controllerQueue.length then .error ()
    else .ok { s with controllerQueue := s.controllerQueue ++ [data] }
  else .ok (s.fill data device)

/-- A read that took the mouse buffer takes the next byte of the queue for one of the mouse. -/
def refillMouse (s : Ps2) : Ps2 :=
  match s.controllerQueue with
  | [] => s
  | data :: queue =>
      { s with
        mouseBuffer := data
        statusRegister := Word.set (Word.set s.statusRegister statusOutputKbBufferFull)
          statusOutputMsBufferFull
        dataRegister := Word.set s.dataRegister dataMsInterrupt
        controllerQueue := queue }

/-- A read that took the keyboard buffer takes it for one of the keyboard. -/
def refillKeyboard (s : Ps2) : Ps2 :=
  match s.controllerQueue with
  | [] => s
  | data :: queue =>
      { s with
        keyboardBuffer := data
        statusRegister := Word.set s.statusRegister statusOutputKbBufferFull
        dataRegister := Word.set s.dataRegister dataKbInterrupt
        controllerQueue := queue }

/-- `if (!Ps2.TimerPending) Ps2.TimerPending = 1`. -/
def pendTimer (s : Ps2) : Ps2 :=
  { s with timerPending := if s.timerPending = 0 then 1 else s.timerPending }

/-- The three flags that a read of the data register clears. -/
def clearOutput (status : BitVec 8) : BitVec 8 :=
  Word.clear (Word.clear (Word.clear status statusOutputMsBufferFull) statusOutputKbBufferFull)
    statusInputBufferFull

/-- `Ps2PortIoReadHandler` for `DATA_REGISTER`: the value and the state. -/
def readDataRegister (s : Ps2) : BitVec 8 × Ps2 :=
  if s.outputMouse then
    (s.mouseBuffer, pendTimer (refillMouse
      { s with
        statusRegister := clearOutput s.statusRegister
        dataRegister := Word.clear s.dataRegister dataMsInterrupt
        mouseBuffer := 0 }))
  else if s.outputFull then
    (s.keyboardBuffer, pendTimer (refillKeyboard
      { s with
        statusRegister := clearOutput s.statusRegister
        dataRegister := Word.clear s.dataRegister dataKbInterrupt
        keyboardBuffer := 0 }))
  else (s.keyboardBuffer, s)

/-- `Ps2PortIoReadHandler`. -/
def portIoReadHandler (address : BitVec 64) (s : Ps2) : BitVec 32 × Ps2 :=
  if address &&& 0xff = 0x60 then
    let (value, s) := s.readDataRegister
    (value.setWidth 32, s)
  else if address &&& 0xff = 0x64 then
    (s.statusRegister.setWidth 32,
      { s with statusRegister := Word.clear s.statusRegister statusReceiveTimeoutError })
  else (0, s)

/-! ## The keyboard -/

/-- `Ps2WriteKeyboardMemory`; a full memory drops the byte. -/
def writeKeyboardMemory (scanCode : BitVec 8) (s : Ps2) : Ps2 :=
  if keyboardMemorySize ≤ s.keyboard.memory.length then s
  else
    { s with
      keyboard := { s.keyboard with memory := s.keyboard.memory ++ [scanCode] }
      timerPending :=
        if !s.outputFull && s.keyboard.clockEnabled && s.timerPending == 0 then 1
        else s.timerPending }

/-- `Ps2KeyboardReset`. -/
def keyboardReset (s : Ps2) : Ps2 :=
  { s with
    keyboard :=
      { s.keyboard with
        memory := [], typematic := 0, scanCodeEnabled := false, scanCodeSet := 1, ledState := 0 }
    statusRegister := Word.clear s.statusRegister statusOutputKbBufferFull }

/-- The argument of `KBD_CMD_SCANCODE`. -/
def selectScanCodeSet (value : BitVec 8) (s : Ps2) : Ps2 :=
  let s := { s with keyboard := { s.keyboard with scanCodeEnabled := false } }
  if value = 0 then
    (s.writeKeyboardMemory kbdReplyAck).writeKeyboardMemory (1 + s.keyboard.scanCodeSet)
  else if value < 4 then
    ({ s with keyboard := { s.keyboard with scanCodeSet := value - 1 } }).writeKeyboardMemory
      kbdReplyAck
  else s.writeKeyboardMemory 0xff

/-- A command that starts with `Ps2KeyboardReset`. -/
def IsReset (value : BitVec 8) : Prop :=
  value = kbdCmdResetDisable ∨ value = kbdCmdResetEnable ∨ value = kbdCmdReset

instance (value : BitVec 8) : Decidable (IsReset value) := inferInstanceAs (Decidable (_ ∨ _))

/-- The bytes that a command writes to the keyboard memory. -/
def replies (value dataRegister : BitVec 8) : List (BitVec 8) :=
  if value = 0x05 ∨ value = kbdCmdSetLeds then []
  else if value = kbdCmdEcho then [0xee]
  else if value = kbdCmdGetId then
    [kbdReplyAck, kbdReplyId, if Word.has dataRegister dataScanCode then 0x41 else 0x83]
  else if value = kbdCmdReset then [kbdReplyAck, kbdReplyPor]
  else if value = kbdCmdScancode ∨ value = kbdCmdSetRate ∨ value = kbdCmdEnable ∨
      value = kbdCmdResetDisable ∨ value = kbdCmdResetEnable ∨ value = cmdWriteMsObuf then
    [kbdReplyAck]
  else [kbdReplyResend]

/-- `Ps2SendKeyboard`. -/
def sendKeyboard (value : BitVec 8) (s : Ps2) : Except Unit Ps2 :=
  if s.keyboard.scanCodeEnabled then .ok (s.selectScanCodeSet value)
  else if value = kbdCmdSetLeds then s.queueByte kbdReplyAck .keyboard
  else
    let s := if IsReset value then s.keyboardReset else s
    let s := if value = kbdCmdScancode then
      { s with keyboard := { s.keyboard with scanCodeEnabled := true } } else s
    .ok ((replies value s.dataRegister).foldl (fun s scanCode => s.writeKeyboardMemory scanCode) s)

/-! ## The timer -/

/-- `Ps2ReadKeyboardMemory`. -/
def readKeyboardMemory (s : Ps2) : Except Unit (BitVec 8 × Ps2) :=
  match s.keyboard.memory with
  | [] => .error ()
  | scanCode :: memory => .ok
    (scanCode, { s with keyboard := { s.keyboard with memory := memory } })

/-- `Ps2ReadMouse`; it takes a full memory for an empty one. -/
def readMouse (s : Ps2) : Except Unit (BitVec 8 × Ps2) :=
  if mouseMemorySize ≤ s.mouse.memory.length then .error ()
  else
    match s.mouse.memory with
    | [] => .error ()
    | data :: memory => .ok (data, { s with mouse := { s.mouse with memory := memory } })

/-- `Ps2TimerPeriodic`, once the timer has run out: the next byte of the keyboard or of the
mouse. -/
def transfer (s : Ps2) : Except Unit Ps2 :=
  if s.outputFull then .ok s
  else if s.keyboard.memory ≠ [] ∧ s.keyboard.clockEnabled then do
    let (scanCode, s) ← s.readKeyboardMemory
    return { s with
      keyboardBuffer := scanCode
      statusRegister := Word.set s.statusRegister statusOutputKbBufferFull
      dataRegister := Word.set s.dataRegister dataKbInterrupt }
  else if s.mouse.memory ≠ [] ∧ s.mouse.clockEnabled then do
    let (data, s) ← s.readMouse
    return { s with
      mouseBuffer := data
      statusRegister := Word.set (Word.set s.statusRegister statusOutputKbBufferFull)
        statusOutputMsBufferFull
      dataRegister := Word.set s.dataRegister dataMsInterrupt }
  else .ok s

/-- `Ps2TimerPeriodic`: the interrupts that were pending, and the state. -/
def timerPeriodic (seconds : BitVec 32) (s : Ps2) : Except Unit (BitVec 8 × Ps2) := do
  let ret := s.dataRegister &&& (Word.bit dataMsInterrupt ||| Word.bit dataKbInterrupt)
  let s := { s with
    dataRegister := Word.clear (Word.clear s.dataRegister dataMsInterrupt) dataKbInterrupt }
  if s.timerPending = 0 then return (ret, s)
  else if seconds < s.timerPending then
    return (ret, { s with timerPending := s.timerPending - seconds })
  else
    let s ← transfer { s with timerPending := 0 }
    return (ret, s)

end Ps2

end Svmm
