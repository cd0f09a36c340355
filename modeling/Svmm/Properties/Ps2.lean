import Mathlib.Tactic.Common
import Svmm.Framework.Run
import Svmm.Construction.Ps2

/-!
# The output of the PS/2 controller as a queue

What the controller is for is a queue of bytes, each with the device that it comes from: port 0x60
gives the first byte, and a status flag says whether it is one of the mouse.  Two buffers, two flags
and the controller queue stand for it as long as all bytes that wait are of one device, because the
controller queue does not keep the device.  A reset of the keyboard empties the output only by its
flag: it agrees with the queue when there is nothing that the flag alone does not empty.
-/

namespace Svmm

open TransitionRun

/-! ## The queue -/

/-- A byte with the device that it comes from. -/
abbrev Ps2Byte := BitVec 8 × Ps2Device

/-- The controller, and the bytes that wait to be read, the oldest one first. -/
structure Ps2Fifo where
  ps2 : Ps2
  pending : List Ps2Byte

/-- A call of `Ps2QueueByte`, a command for the keyboard, a tick of the timer, and a read of port
0x60. -/
inductive Ps2Event where
  | queue (data : BitVec 8) (device : Ps2Device)
  | command (value : BitVec 8)
  | tick
  | read
  deriving DecidableEq, Repr

namespace Ps2

/-- The byte that a tick takes from the keyboard, or else from the mouse, when nothing waits. -/
def transferred (s : Ps2) : List Ps2Byte :=
  if s.timerPending ≠ 1 then []
  else if s.keyboard.memory ≠ [] ∧ s.keyboard.clockEnabled then
    (s.keyboard.memory.take 1).map fun data => (data, .keyboard)
  else if s.mouse.memory ≠ [] ∧ s.mouse.clockEnabled then
    (s.mouse.memory.take 1).map fun data => (data, .mouse)
  else []

/-- The bytes that an event puts into the queue, which holds the given ones. -/
def enqueued (s : Ps2) (pending : List Ps2Byte) : Ps2Event → List Ps2Byte
  | .queue data device => [(data, device)]
  | .command value =>
      if ¬ s.keyboard.scanCodeEnabled ∧ value = kbdCmdSetLeds then
        [(kbdReplyAck, .keyboard)] else []
  | .tick => if pending = [] then s.transferred else []
  | .read => []

/-- The event resets the keyboard. -/
def Resets (s : Ps2) : Ps2Event → Prop
  | .command value => s.keyboard.scanCodeEnabled = false ∧ IsReset value
  | _ => False

instance (s : Ps2) (e : Ps2Event) : Decidable (s.Resets e) := by
  cases e with
  | command value => exact inferInstanceAs (Decidable (_ ∧ _))
  | queue | tick | read => exact inferInstanceAs (Decidable False)

/-- What waits after an event: a read takes the first byte, a reset of the keyboard discards the
bytes of the keyboard, and what the event puts into the queue comes last. -/
def pendingAfter (s : Ps2) (pending : List Ps2Byte) (e : Ps2Event) : List Ps2Byte :=
  if e = .read then pending.tail
  else if s.Resets e then pending.filter fun b => b.2 = .mouse
  else pending ++ s.enqueued pending e

/-- The controller after an event. -/
def deviceStep (s : Ps2) : Ps2Event → Except Unit Ps2
  | .queue data device => s.queueByte data device
  | .command value => s.sendKeyboard value
  | .tick => do
      let (_, s) ← s.timerPeriodic 1
      return s
  | .read => .ok (s.portIoReadHandler 0x60).2

end Ps2

/-- One event. -/
def ps2Step (s : Ps2Fifo) (e : Ps2Event) : Except Unit Ps2Fifo := do
  let ps2 ← s.ps2.deviceStep e
  return { ps2 := ps2, pending := s.ps2.pendingAfter s.pending e }

namespace Ps2Fifo

/-- Fewer bytes wait than the controller queue holds when one is put into the queue. -/
def HasRoom (s : Ps2Fifo) (e : Ps2Event) : Prop :=
  s.ps2.enqueued s.pending e ≠ [] → s.pending.length < kbdControllerQsize

/-- A byte that an event other than a tick puts into the queue is accepted, and a read gives the
oldest byte that waits, with the flag that tells whether it comes from the mouse; while nothing
waits, the flags say so and a read changes nothing. -/
def Delivers (s : Ps2Fifo) : Ps2Event → Prop
  | .read =>
      (∀ b, s.pending.head? = some b → (s.ps2.portIoReadHandler 0x60).1 = b.1.setWidth 32 ∧
        (s.ps2.outputMouse = true ↔ b.2 = .mouse)) ∧
      (s.ps2.outputFull = true ↔ s.pending ≠ []) ∧
        (s.pending = [] → (s.ps2.portIoReadHandler 0x60).2 = s.ps2)
  | .tick => True
  | e => s.ps2.enqueued s.pending e ≠ [] → ∃ t, ps2Step s e = .ok t

/-- What is put into the queue comes from the device whose bytes wait there, and the keyboard is
reset while at most one byte waits, and that one is of the keyboard. -/
structure Uniform (s : Ps2Fifo) (e : Ps2Event) : Prop where
  device : ∀ b ∈ s.pending, ∀ c ∈ s.ps2.enqueued s.pending e, b.2 = c.2
  reset : s.ps2.Resets e → s.pending.length ≤ 1 ∧ ∀ b ∈ s.pending, b.2 = .keyboard

instance (s : Ps2Fifo) (e : Ps2Event) : Decidable (s.HasRoom e) :=
  inferInstanceAs (Decidable (_ → _))

instance (s : Ps2Fifo) (e : Ps2Event) : Decidable (s.Uniform e) :=
  decidable_of_iff ((∀ b ∈ s.pending, ∀ c ∈ s.ps2.enqueued s.pending e, b.2 = c.2) ∧
      (s.ps2.Resets e → s.pending.length ≤ 1 ∧ ∀ b ∈ s.pending, b.2 = .keyboard))
    ⟨fun h => ⟨h.1, h.2⟩, fun h => ⟨h.device, h.reset⟩⟩

/-- Nothing waits: the flags are clear and the controller queue is empty. -/
structure Idle (s : Ps2Fifo) : Prop where
  pending : s.pending = []
  outputFull : s.ps2.outputFull = false
  outputMouse : s.ps2.outputMouse = false
  controllerQueue : s.ps2.controllerQueue = []

end Ps2Fifo

/-! ## The buffers and flags of the controller -/

namespace Ps2

variable {s t : Ps2} {p : List Ps2Byte} {b : Ps2Byte}

/-- The buffer of a device. -/
def buffer (s : Ps2) : Ps2Device → BitVec 8
  | .keyboard => s.keyboardBuffer
  | .mouse => s.mouseBuffer

/-- The controller stands for a queue. -/
def Represents (s : Ps2) : List Ps2Byte → Prop
  | [] => s.outputFull = false ∧ s.outputMouse = false ∧ s.controllerQueue = []
  | (data, device) :: rest =>
      s.outputFull = true ∧ s.outputMouse = decide (device = .mouse) ∧ s.buffer device = data ∧
        rest = s.controllerQueue.map fun data => (data, device)

/-- Two controllers with the same output. -/
structure SameOutput (s t : Ps2) : Prop where
  outputFull : t.outputFull = s.outputFull
  outputMouse : t.outputMouse = s.outputMouse
  controllerQueue : t.controllerQueue = s.controllerQueue
  keyboardBuffer : t.keyboardBuffer = s.keyboardBuffer
  mouseBuffer : t.mouseBuffer = s.mouseBuffer

lemma SameOutput.refl (s : Ps2) : SameOutput s s := ⟨rfl, rfl, rfl, rfl, rfl⟩

lemma SameOutput.trans {u : Ps2} (h : SameOutput s t) (h' : SameOutput t u) : SameOutput s u where
  outputFull := h'.outputFull.trans h.outputFull
  outputMouse := h'.outputMouse.trans h.outputMouse
  controllerQueue := h'.controllerQueue.trans h.controllerQueue
  keyboardBuffer := h'.keyboardBuffer.trans h.keyboardBuffer
  mouseBuffer := h'.mouseBuffer.trans h.mouseBuffer

lemma Represents.congr (h : s.Represents p) (hsame : SameOutput s t) : t.Represents p := by
  have hbuffer : t.buffer = s.buffer := by
    funext device
    cases device with
    | keyboard => exact hsame.keyboardBuffer
    | mouse => exact hsame.mouseBuffer
  cases p with
  | nil =>
      obtain ⟨hfull, hmouse, hqueue⟩ := h
      exact ⟨hsame.outputFull.trans hfull, hsame.outputMouse.trans hmouse,
        hsame.controllerQueue.trans hqueue⟩
  | cons b rest =>
      obtain ⟨hfull, hmouse, hdata, hrest⟩ := h
      refine ⟨hsame.outputFull.trans hfull, hsame.outputMouse.trans hmouse, ?_, ?_⟩
      · rw [hbuffer]
        exact hdata
      · rw [hsame.controllerQueue]
        exact hrest

/-! ## Putting a byte into the queue -/

lemma fill_represents (h : s.Represents []) (b : Ps2Byte) : (s.fill b.1 b.2).Represents [b] := by
  obtain ⟨-, -, hqueue⟩ := h
  obtain ⟨data, device⟩ := b
  cases device with
  | keyboard =>
      refine ⟨?_, ?_, rfl, ?_⟩
      · simp [fill, outputFull, statusOutputKbBufferFull, statusInputBufferFull,
          statusOutputMsBufferFull]
      · simp [fill, outputMouse, statusOutputMsBufferFull]
      · simp [fill, hqueue]
  | mouse =>
      refine ⟨?_, ?_, rfl, ?_⟩
      · simp [fill, outputFull, statusOutputKbBufferFull, statusInputBufferFull]
      · simp [fill, outputMouse, statusOutputMsBufferFull, statusInputBufferFull]
      · simp [fill, hqueue]

/-- A byte of the device whose bytes wait is put behind them. -/
lemma queueByte_represents (h : s.Represents p) (hroom : p.length < kbdControllerQsize)
    (hdevice : ∀ c ∈ p, c.2 = b.2) :
    ∃ t, s.queueByte b.1 b.2 = .ok t ∧ t.Represents (p ++ [b]) := by
  cases p with
  | nil => exact ⟨_, if_neg (by rw [h.1]; decide), fill_represents h b⟩
  | cons c rest =>
      obtain ⟨hfull, hmouse, hdata, hrest⟩ := h
      have hlength : ¬ kbdControllerQsize ≤ s.controllerQueue.length := by
        have := congrArg List.length hrest
        rw [List.length_map] at this
        rw [List.length_cons] at hroom
        omega
      refine ⟨_, (if_pos hfull).trans (if_neg hlength), hfull, hmouse, hdata, ?_⟩
      have hb : c.2 = b.2 := hdevice c List.mem_cons_self
      rw [hrest, List.map_append, List.map_singleton, hb]
      rfl

/-! ## Reading a byte -/

lemma portIoReadHandler_data (s : Ps2) :
    s.portIoReadHandler 0x60 = (s.readDataRegister.1.setWidth 32, s.readDataRegister.2) :=
  if_pos (by decide)

lemma pendTimer_sameOutput (s : Ps2) : SameOutput s s.pendTimer := ⟨rfl, rfl, rfl, rfl, rfl⟩

/-- The oldest byte of the mouse is read, and the next one is taken for one of the mouse. -/
lemma read_mouse {data : BitVec 8} (h : s.Represents ((data, .mouse) :: p)) :
    s.readDataRegister.1 = data ∧ s.readDataRegister.2.Represents p := by
  obtain ⟨-, hmouse, hdata, hrest⟩ := h
  have hflag : s.outputMouse = true := hmouse.trans (decide_eq_true rfl)
  unfold readDataRegister
  rw [if_pos hflag]
  refine ⟨hdata, Represents.congr ?_ (pendTimer_sameOutput _)⟩
  rw [hrest]
  cases hqueue : s.controllerQueue with
  | nil =>
      simp [refillMouse, Represents, outputFull, outputMouse, clearOutput,
        statusOutputKbBufferFull, statusOutputMsBufferFull]
  | cons next queue =>
      simp [refillMouse, Represents, outputFull, outputMouse, buffer,
        statusOutputKbBufferFull, statusOutputMsBufferFull]

/-- The oldest byte of the keyboard is read, and the next one is taken for one of the keyboard. -/
lemma read_keyboard {data : BitVec 8} (h : s.Represents ((data, .keyboard) :: p)) :
    s.readDataRegister.1 = data ∧ s.readDataRegister.2.Represents p := by
  obtain ⟨hfull, hmouse, hdata, hrest⟩ := h
  have hnot : ¬ s.outputMouse = true := by
    rw [hmouse]
    decide
  unfold readDataRegister
  rw [if_neg hnot, if_pos hfull]
  refine ⟨hdata, Represents.congr ?_ (pendTimer_sameOutput _)⟩
  rw [hrest]
  cases hqueue : s.controllerQueue with
  | nil =>
      simp [refillKeyboard, Represents, outputFull, outputMouse, clearOutput,
        statusOutputKbBufferFull, statusOutputMsBufferFull]
  | cons next queue =>
      simp [refillKeyboard, Represents, outputFull, outputMouse, buffer, clearOutput,
        statusOutputKbBufferFull, statusOutputMsBufferFull]

lemma outputFull_iff (h : s.Represents p) : s.outputFull = true ↔ p ≠ [] := by
  cases p with
  | nil => exact iff_of_false (by rw [h.1]; decide) (not_not_intro rfl)
  | cons b rest => exact iff_of_true h.1 (List.cons_ne_nil b rest)

lemma read_nothing (h : s.Represents []) : (s.portIoReadHandler 0x60).2 = s := by
  rw [portIoReadHandler_data]
  unfold readDataRegister
  rw [if_neg (by rw [h.2.1]; decide), if_neg (by rw [h.1]; decide)]

lemma read_represents (h : s.Represents p) : (s.portIoReadHandler 0x60).2.Represents p.tail := by
  cases p with
  | nil =>
      rw [read_nothing h]
      exact h
  | cons b rest =>
      rw [portIoReadHandler_data]
      obtain ⟨data, device⟩ := b
      cases device with
      | keyboard => exact (read_keyboard h).2
      | mouse => exact (read_mouse h).2

/-- A read gives the oldest byte, and the flag says whether it is one of the mouse. -/
lemma read_head (h : s.Represents (b :: p)) :
    (s.portIoReadHandler 0x60).1 = b.1.setWidth 32 ∧ (s.outputMouse = true ↔ b.2 = .mouse) := by
  rw [portIoReadHandler_data]
  obtain ⟨data, device⟩ := b
  refine ⟨?_, ?_⟩
  · cases device with
    | keyboard => rw [(read_keyboard h).1]
    | mouse => rw [(read_mouse h).1]
  · rw [h.2.1]
    exact decide_eq_true_iff

/-! ## Commands of the keyboard -/

lemma writeKeyboardMemory_sameOutput (s : Ps2) (scanCode : BitVec 8) :
    SameOutput s (s.writeKeyboardMemory scanCode) := by
  unfold writeKeyboardMemory
  split
  · exact .refl s
  · exact ⟨rfl, rfl, rfl, rfl, rfl⟩

lemma foldl_writeKeyboardMemory_sameOutput (scanCodes : List (BitVec 8)) (s : Ps2) :
    SameOutput s (scanCodes.foldl (fun s scanCode => s.writeKeyboardMemory scanCode) s) := by
  induction scanCodes generalizing s with
  | nil => exact .refl s
  | cons scanCode scanCodes ih =>
      exact (writeKeyboardMemory_sameOutput s scanCode).trans (ih (s.writeKeyboardMemory scanCode))

lemma selectScanCodeSet_sameOutput (s : Ps2) (value : BitVec 8) :
    SameOutput s (s.selectScanCodeSet value) := by
  have hkeyboard : ∀ k, SameOutput s { s with keyboard := k } := fun _ => ⟨rfl, rfl, rfl, rfl, rfl⟩
  unfold selectScanCodeSet
  split
  · exact (hkeyboard _).trans ((writeKeyboardMemory_sameOutput _ _).trans
      (writeKeyboardMemory_sameOutput _ _))
  · split
    · exact (hkeyboard _).trans (writeKeyboardMemory_sameOutput _ _)
    · exact (hkeyboard _).trans (writeKeyboardMemory_sameOutput _ _)

/-- A reset empties the output when at most one byte waits, which is one of the keyboard. -/
lemma keyboardReset_represents (h : s.Represents p) (hlength : p.length ≤ 1)
    (hkeyboard : ∀ b ∈ p, b.2 = .keyboard) : s.keyboardReset.Represents [] := by
  have hfull : s.keyboardReset.outputFull = false := by
    simp [keyboardReset, outputFull]
  have hmouse : s.keyboardReset.outputMouse = s.outputMouse := by
    simp [keyboardReset, outputMouse, statusOutputKbBufferFull, statusOutputMsBufferFull]
  cases p with
  | nil => exact ⟨hfull, hmouse.trans h.2.1, h.2.2⟩
  | cons b rest =>
      obtain ⟨-, hflag, -, hrest⟩ := h
      have hempty : rest = [] :=
        List.eq_nil_of_length_eq_zero (by rw [List.length_cons] at hlength; omega)
      rw [hempty] at hrest
      refine ⟨hfull, ?_, List.map_eq_nil_iff.mp hrest.symm⟩
      rw [hmouse, hflag, hkeyboard b List.mem_cons_self]
      rfl

/-- Apart from a reset, a command that is not answered at once leaves the output. -/
lemma exists_sendKeyboard {value : BitVec 8} (henabled : s.keyboard.scanCodeEnabled = false)
    (hleds : value ≠ kbdCmdSetLeds) : ∃ t, s.sendKeyboard value = .ok t ∧
      SameOutput (if IsReset value then s.keyboardReset else s) t := by
  have hnot : ¬ s.keyboard.scanCodeEnabled = true := by
    rw [henabled]
    decide
  refine ⟨_, (if_neg hnot).trans (if_neg hleds), ?_⟩
  refine SameOutput.trans ?_ (foldl_writeKeyboardMemory_sameOutput _ _)
  dsimp only
  generalize (if IsReset value then s.keyboardReset else s) = u
  split
  · exact ⟨rfl, rfl, rfl, rfl, rfl⟩
  · exact .refl u

/-- The command that is answered at once. -/
lemma sendKeyboard_setLeds (henabled : s.keyboard.scanCodeEnabled = false) :
    s.sendKeyboard kbdCmdSetLeds = s.queueByte kbdReplyAck .keyboard := by
  have hnot : ¬ s.keyboard.scanCodeEnabled = true := by
    rw [henabled]
    decide
  exact (if_neg hnot).trans (if_pos rfl)

lemma sendKeyboard_enabled {value : BitVec 8} (henabled : s.keyboard.scanCodeEnabled = true) :
    s.sendKeyboard value = .ok (s.selectScanCodeSet value) := if_pos henabled

/-- Only a command to set the LEDs puts a byte into the queue at once, and it is no reset. -/
lemma enqueued_command {value : BitVec 8}
    (h : ¬ (¬ s.keyboard.scanCodeEnabled ∧ value = kbdCmdSetLeds)) :
    s.enqueued p (.command value) = [] := if_neg h

lemma pendingAfter_command {value : BitVec 8} (hreset : ¬ s.Resets (.command value)) :
    s.pendingAfter p (.command value) = p ++ s.enqueued p (.command value) :=
  (if_neg fun h => by cases h).trans (if_neg hreset)

lemma pendingAfter_command_of_not {value : BitVec 8}
    (h : ¬ (¬ s.keyboard.scanCodeEnabled ∧ value = kbdCmdSetLeds))
    (hreset : ¬ s.Resets (.command value)) :
    s.pendingAfter p (.command value) = p := by
  rw [pendingAfter_command hreset, enqueued_command h, List.append_nil]

lemma pendingAfter_reset {value : BitVec 8} (h : s.Resets (.command value)) :
    s.pendingAfter p (.command value) = p.filter fun b => b.2 = .mouse :=
  (if_neg fun h => by cases h).trans (if_pos h)

lemma command_represents {value : BitVec 8} (h : s.Represents p)
    (hroom : s.enqueued p (.command value) ≠ [] → p.length < kbdControllerQsize)
    (hdevice : ∀ b ∈ p, ∀ c ∈ s.enqueued p (.command value), b.2 = c.2)
    (hreset : s.Resets (.command value) → p.length ≤ 1 ∧ ∀ b ∈ p, b.2 = .keyboard) :
    ∃ t, s.sendKeyboard value = .ok t ∧ t.Represents (s.pendingAfter p (.command value)) := by
  cases henabled : s.keyboard.scanCodeEnabled with
  | true =>
      refine ⟨_, sendKeyboard_enabled henabled, ?_⟩
      rw [pendingAfter_command_of_not (fun hleds => hleds.1 henabled) fun hr => by
        rw [hr.1] at henabled
        cases henabled]
      exact h.congr (selectScanCodeSet_sameOutput s value)
  | false =>
      by_cases hleds : value = kbdCmdSetLeds
      · subst hleds
        have hput : s.enqueued p (.command kbdCmdSetLeds) = [(kbdReplyAck, .keyboard)] :=
          if_pos ⟨by rw [henabled]; decide, rfl⟩
        have hafter : s.pendingAfter p (.command kbdCmdSetLeds) = p ++
            [(kbdReplyAck, .keyboard)] := by
          rw [pendingAfter_command fun hr => absurd hr.2 (by decide), hput]
        rw [hput] at hroom hdevice
        rw [hafter, sendKeyboard_setLeds henabled]
        exact queueByte_represents h (hroom (List.cons_ne_nil _ _))
          fun c hc => hdevice c hc _ (List.mem_singleton_self _)
      · obtain ⟨t, ht, hsame⟩ := exists_sendKeyboard henabled hleds
        refine ⟨t, ht, Represents.congr ?_ hsame⟩
        by_cases hr : IsReset value
        · obtain ⟨hlength, hkeyboard⟩ := hreset ⟨henabled, hr⟩
          have hafter : s.pendingAfter p (.command value) = [] := by
            rw [pendingAfter_reset ⟨henabled, hr⟩, List.filter_eq_nil_iff]
            intro b hb
            rw [hkeyboard b hb]
            decide
          rw [hafter, if_pos hr]
          exact keyboardReset_represents h hlength hkeyboard
        · rw [if_neg hr, pendingAfter_command_of_not (fun hl => hleds hl.2) fun h => hr h.2]
          exact h

/-! ## Ticks -/

/-- When the timer has run out, the next byte goes to the output if nothing waits there. -/
lemma transfer_represents (h : s.Represents []) (hone : s.timerPending = 1)
    (ht : transfer { s with timerPending := 0 } = .ok t) : t.Represents s.transferred := by
  obtain ⟨hfull, hmouse, hqueue⟩ := id h
  have hbit : Word.has s.statusRegister statusOutputMsBufferFull = false := hmouse
  have hnot : ¬ ({ s with timerPending := 0 } : Ps2).outputFull = true := by
    show ¬ s.outputFull = true
    rw [hfull]
    decide
  unfold transfer at ht
  unfold transferred
  rw [if_neg hnot] at ht
  rw [if_neg (not_not.mpr hone)]
  by_cases hkeyboard : s.keyboard.memory ≠ [] ∧ s.keyboard.clockEnabled
  · obtain ⟨scanCode, memory, hmemory⟩ := List.exists_cons_of_ne_nil hkeyboard.1
    rw [if_pos hkeyboard] at ht ⊢
    simp only [readKeyboardMemory, hmemory, ok_bind] at ht
    cases ht
    rw [hmemory]
    refine ⟨?_, ?_, rfl, ?_⟩
    · simp [outputFull, statusOutputKbBufferFull]
    · simpa [outputMouse, statusOutputKbBufferFull, statusOutputMsBufferFull] using hbit
    · simp [hqueue]
  · rw [if_neg hkeyboard] at ht ⊢
    by_cases hmouseByte : s.mouse.memory ≠ [] ∧ s.mouse.clockEnabled
    · obtain ⟨data, memory, hmemory⟩ := List.exists_cons_of_ne_nil hmouseByte.1
      rw [if_pos hmouseByte] at ht ⊢
      obtain ⟨⟨value, u⟩, hread, ht⟩ := bind_eq_ok.mp ht
      simp only [readMouse, hmemory] at hread
      split at hread
      · cases hread
      · cases hread
        cases ht
        rw [hmemory]
        refine ⟨?_, ?_, rfl, ?_⟩
        · simp [outputFull, statusOutputKbBufferFull, statusOutputMsBufferFull]
        · simp [outputMouse, statusOutputMsBufferFull]
        · simp [hqueue]
    · rw [if_neg hmouseByte] at ht ⊢
      cases ht
      exact h

/-- A tick that does not run the timer out leaves the output. -/
lemma pendingAfter_tick_of_ne (hne : s.timerPending ≠ 1) : s.pendingAfter p .tick = p := by
  have hafter : s.pendingAfter p .tick = p ++ if p = [] then s.transferred else [] := rfl
  have htransferred : s.transferred = [] := if_pos hne
  rw [hafter, htransferred, ite_self, List.append_nil]

lemma tick_represents (h : s.Represents p) (ht : s.deviceStep .tick = .ok t) :
    t.Represents (s.pendingAfter p .tick) := by
  have hsame : ∀ (d : BitVec 8) (n : BitVec 32),
      SameOutput s { s with dataRegister := d, timerPending := n } :=
        fun _ _ => ⟨rfl, rfl, rfl, rfl, rfl⟩
  obtain ⟨⟨ret, u⟩, hu, ht⟩ := bind_eq_ok.mp ht
  cases ht
  simp only [timerPeriodic] at hu
  split at hu
  case isTrue hzero =>
    cases hu
    rw [pendingAfter_tick_of_ne (by rw [hzero]; decide)]
    exact h.congr (hsame _ _)
  case isFalse hzero =>
    split at hu
    case isTrue hlt =>
      cases hu
      rw [pendingAfter_tick_of_ne (fun hone => by rw [hone] at hlt; exact absurd hlt (by decide))]
      exact h.congr (hsame _ _)
    case isFalse hle =>
      have hone : s.timerPending = 1 := by
        have hone : s.timerPending.toNat ≤ 1 := by
          rw [BitVec.lt_def] at hle
          exact Nat.not_lt.mp hle
        have hpos : s.timerPending.toNat ≠ 0 := fun h => hzero (BitVec.eq_of_toNat_eq h)
        exact BitVec.eq_of_toNat_eq (Nat.le_antisymm hone (Nat.one_le_iff_ne_zero.mpr hpos))
      obtain ⟨v, hv, hu⟩ := bind_eq_ok.mp hu
      cases hu
      have hcleared := h.congr (hsame (Word.clear (Word.clear s.dataRegister dataMsInterrupt)
        dataKbInterrupt) s.timerPending)
      cases p with
      | nil =>
          exact transfer_represents (s := { s with
            dataRegister :=
              Word.clear (Word.clear s.dataRegister dataMsInterrupt) dataKbInterrupt })
            hcleared hone hv
      | cons b rest =>
          have hkept : s.pendingAfter (b :: rest) .tick = b :: rest := by
            have hafter : s.pendingAfter (b :: rest) .tick = (b :: rest) ++ [] := rfl
            rw [hafter, List.append_nil]
          rw [hkept]
          have hfull : s.outputFull = true := h.1
          obtain rfl := Except.ok.inj ((if_pos hfull).symm.trans hv)
          exact h.congr (hsame _ _)

end Ps2

/-! ## Runs -/

namespace Ps2Fifo

variable {s t : Ps2Fifo} {e : Ps2Event}

/-- The controller stands for the bytes that wait. -/
def Consistent (s : Ps2Fifo) : Prop := s.ps2.Represents s.pending

lemma Idle.consistent (h : s.Idle) : s.Consistent := by
  obtain ⟨hpending, hfull, hmouse, hqueue⟩ := h
  unfold Consistent
  rw [hpending]
  exact ⟨hfull, hmouse, hqueue⟩

/-- An event that puts a byte into the queue is accepted. -/
lemma delivers (hs : s.Consistent) (hroom : s.HasRoom e) (huniform : s.Uniform e) :
    s.Delivers e := by
  cases e with
  | read =>
      refine ⟨fun b hb => ?_, Ps2.outputFull_iff hs, fun hnone => Ps2.read_nothing (hnone ▸ hs)⟩
      obtain ⟨rest, hpending⟩ : ∃ rest, s.pending = b :: rest := by
        cases hp : s.pending with
        | nil =>
            rw [hp] at hb
            cases hb
        | cons c rest =>
            rw [hp] at hb
            obtain rfl := Option.some.inj hb
            exact ⟨rest, rfl⟩
      have hrepresents : s.ps2.Represents (b :: rest) := hpending ▸ hs
      exact Ps2.read_head hrepresents
  | queue data device =>
      intro hne
      obtain ⟨t, ht, -⟩ := Ps2.queueByte_represents (b := (data, device)) hs (hroom hne)
        fun c hc => huniform.device c hc _ (List.mem_singleton_self _)
      exact ⟨_, bind_eq_ok.mpr ⟨t, ht, rfl⟩⟩
  | command value =>
      intro hne
      obtain ⟨t, ht, -⟩ := Ps2.command_represents hs hroom huniform.device huniform.reset
      exact ⟨_, bind_eq_ok.mpr ⟨t, ht, rfl⟩⟩
  | tick => trivial

/-- An event keeps the representation. -/
lemma consistent_step (hs : s.Consistent) (hroom : s.HasRoom e) (huniform : s.Uniform e)
    (h : ps2Step s e = .ok t) : t.Consistent := by
  obtain ⟨u, hu, h⟩ := bind_eq_ok.mp h
  cases h
  cases e with
  | read =>
      cases hu
      exact Ps2.read_represents hs
  | queue data device =>
      obtain ⟨v, hv, hrepresents⟩ := Ps2.queueByte_represents (b := (data, device)) hs
        (hroom (List.cons_ne_nil _ _))
        fun c hc => huniform.device c hc _ (List.mem_singleton_self _)
      obtain rfl : v = u := Except.ok.inj (hv.symm.trans hu)
      exact hrepresents
  | command value =>
      obtain ⟨v, hv, hrepresents⟩ :=
        Ps2.command_represents hs hroom huniform.device huniform.reset
      obtain rfl : v = u := Except.ok.inj (hv.symm.trans hu)
      exact hrepresents
  | tick => exact Ps2.tick_represents hs hu

end Ps2Fifo

/-- From a controller with nothing to read, in every run that puts bytes into the queue only while
it has room, and those of one device at a time, and that resets the keyboard only while nothing but
one byte of the keyboard waits, every read gives the oldest byte that waits and the flag that says
where it comes from, or nothing new while nothing waits. -/
theorem ps2_output_is_fifo {s : Ps2Fifo} (hs : s.Idle) (es : List Ps2Event)
    (hroom : Meets ps2Step Ps2Fifo.HasRoom s es) (huniform : Meets ps2Step Ps2Fifo.Uniform s es) :
    Meets ps2Step Ps2Fifo.Delivers s es :=
  Meets.of_invariant (fun _ _ _ hs h hstep => Ps2Fifo.consistent_step hs h.1 h.2 hstep)
    (fun _ _ hs h => Ps2Fifo.delivers hs h.1 h.2) hs.consistent (hroom.and huniform)

/-- Two bytes of the keyboard, then two of the mouse, and a reset of the keyboard while an answer of
it waits, which is then not read. -/
theorem ps2_output_both_devices :
    Meets ps2Step Ps2Fifo.Delivers { ps2 := .initialState, pending := [] }
      [.queue 0x1c .keyboard, .queue 0x9c .keyboard, .read, .read, .queue 0x08 .mouse,
        .queue 0x05 .mouse, .read, .read, .command kbdCmdSetLeds, .command kbdCmdReset, .read] :=
  ps2_output_is_fifo ⟨rfl, by decide, by decide, rfl⟩ _ (by decide) (by decide)

/-- A byte of the mouse that is queued behind one of the keyboard is read as one of the keyboard. -/
theorem ps2_mouse_byte_mislabelled :
    Meets ps2Step Ps2Fifo.HasRoom { ps2 := .initialState, pending := [] }
        [.queue 0x1c .keyboard, .queue 0x08 .mouse, .read, .read] ∧
      ¬ Meets ps2Step Ps2Fifo.Delivers { ps2 := .initialState, pending := [] }
        [.queue 0x1c .keyboard, .queue 0x08 .mouse, .read, .read] := by
  refine ⟨by decide, fun h => ?_⟩
  have hlast := (((h.2 _ rfl).2 _ rfl).2 _ rfl).1
  exact absurd ((hlast.1 (0x08, .mouse) rfl).2.mpr rfl) (by decide)

end Svmm
