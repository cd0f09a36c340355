import Svmm.Framework.Run
import Svmm.Construction.Ps2Ports
import Svmm.Construction.Scancodes

/-!
# The command byte and the output port

`ps2_requests_reflected_iff` says when a request to the controller shows later, after any ticks, key
events and reads of port 0x60 that leave the output buffer empty: a byte written by command 0x60 or
0xd1, in what command 0x20 or 0xd0 delivers, and the enabling of a port, in its bit of the command
byte.  Command 0x20 delivers the output port and 0xd0 the byte `0x55`; and no command but 0x60
changes the bits of the ports.
-/

namespace Svmm

open TransitionRun

/-- What may happen between a request and a look at it. -/
inductive Ps2Activity where
  | tick
  | key (event : BitVec 32)
  | read
  deriving DecidableEq

namespace Ps2Controller

/-- The controller after an activity. -/
def activity (c : Ps2Controller) : Ps2Activity → Except Unit Ps2Controller
  | .tick => do
      let (_, s) ← c.ps2.timerPeriodic 1
      return { c with ps2 := s }
  | .key event => .ok { c with ps2 := c.ps2.generateScancode event }
  | .read => .ok { c with ps2 := (c.ps2.portIoReadHandler 0x60).2 }

/-- A write of a port. -/
def write (clockNs address : BitVec 64) (value : BitVec 8) (c : Ps2Controller) :
    Except Unit Ps2Controller := do
  let (c, _) ← c.portIoWriteHandler clockNs address (value.setWidth 32)
  return c

/-- Port 0x60 gives the value when a command has been written. -/
def Delivers (clockNs : BitVec 64) (command value : BitVec 8) (c : Ps2Controller) : Prop :=
  ∃ d, c.write clockNs 0x64 command = .ok d ∧
    (d.ps2.portIoReadHandler 0x60).1 = value.setWidth 32

end Ps2Controller

/-- A request: the command byte or the output port is written, or the port of a device is enabled or
disabled. -/
inductive Ps2Request where
  | commandByte (value : BitVec 8)
  | outputPort (value : BitVec 8)
  | port (device : Ps2Device) (enabled : Bool)
  deriving DecidableEq

/-- The bit of the command byte that disables the port of a device. -/
def disableBit : Ps2Device → ℕ
  | .keyboard => dataDisableKeyboard
  | .mouse => dataDisableMouse

/-- The command that enables or disables the port of a device. -/
def portCommand : Ps2Device → Bool → BitVec 8
  | .keyboard, true => cmdEnable1stPs2port
  | .keyboard, false => cmdDisable1stPs2port
  | .mouse, true => cmdEnable2ndPs2port
  | .mouse, false => cmdDisable2ndPs2port

namespace Ps2Request

/-- The port writes of a request. -/
def perform (clockNs : BitVec 64) (c : Ps2Controller) : Ps2Request → Except Unit Ps2Controller
  | .commandByte value => do
      let c ← c.write clockNs 0x64 cmdWriteByte
      c.write clockNs 0x60 value
  | .outputPort value => do
      let c ← c.write clockNs 0x64 cmdWriteOutputPort
      c.write clockNs 0x60 value
  | .port device enabled => c.write clockNs 0x64 (portCommand device enabled)

/-- The request shows. -/
def Reflected (clockNs : BitVec 64) (c : Ps2Controller) : Ps2Request → Prop
  | .commandByte value => c.Delivers clockNs cmdReadByte value
  | .outputPort value => c.Delivers clockNs cmdReadOutputPort value
  | .port device enabled => Word.has c.ps2.dataRegister (disableBit device) = !enabled

/-- The output port is the byte that is written to the command byte; the byte written to the output
port is `0x55`; the bit of the port is as requested. -/
def Harmless (c : Ps2Controller) : Ps2Request → Prop
  | .commandByte value => c.outputPort = value
  | .outputPort value => value = 0x55
  | .port device enabled => Word.has c.ps2.dataRegister (disableBit device) = !enabled

end Ps2Request

/-! ## What activities leave alone -/

namespace Ps2Controller

variable {c d : Ps2Controller} {s t : Ps2} {clockNs : BitVec 64}

/-- The output port, and the bits of the command byte but the two of pending interrupts. -/
structure Kept (c d : Ps2Controller) : Prop where
  outputPort : d.outputPort = c.outputPort
  dataRegister : ∀ i, 2 ≤ i → Word.has d.ps2.dataRegister i = Word.has c.ps2.dataRegister i

lemma Kept.trans {e : Ps2Controller} (h : Kept c d) (h' : Kept d e) : Kept c e :=
  ⟨h'.outputPort.trans h.outputPort,
    fun i hi => (h'.dataRegister i hi).trans (h.dataRegister i hi)⟩

@[simp] lemma dataRegister_writeKeyboardMemory (b : BitVec 8) :
    (s.writeKeyboardMemory b).dataRegister = s.dataRegister := by
  unfold Ps2.writeKeyboardMemory
  split <;> rfl

lemma dataRegister_foldl_write (code : List (BitVec 8)) (s : Ps2) :
    (code.foldl (fun s b => s.writeKeyboardMemory b) s).dataRegister = s.dataRegister := by
  induction code generalizing s with
  | nil => rfl
  | cons b code ih => rw [List.foldl_cons, ih, dataRegister_writeKeyboardMemory]

lemma dataRegister_foldl_sendTranslated (code : List (BitVec 8)) (p : BitVec 8 × Ps2) :
    (code.foldl Ps2.sendTranslated p).2.dataRegister = p.2.dataRegister := by
  induction code generalizing p with
  | nil => rfl
  | cons b code ih =>
      rw [List.foldl_cons, ih, Ps2.sendTranslated]
      split
      · exact dataRegister_writeKeyboardMemory _
      · rfl

/-- A key event does not write the data register. -/
lemma dataRegister_generateScancode (event : BitVec 32) :
    (s.generateScancode event).dataRegister = s.dataRegister := by
  unfold Ps2.generateScancode
  split
  · rfl
  · simp only
    split
    · exact dataRegister_foldl_sendTranslated _ _
    · exact dataRegister_foldl_write _ _

/-- A read of the data register clears and sets the bits of pending interrupts alone. -/
lemma has_dataRegister_read {i : ℕ} (hi : 2 ≤ i) :
    Word.has s.readDataRegister.2.dataRegister i = Word.has s.dataRegister i := by
  have hkb : dataKbInterrupt ≠ i := by unfold dataKbInterrupt; omega
  have hms : dataMsInterrupt ≠ i := by unfold dataMsInterrupt; omega
  unfold Ps2.readDataRegister
  split
  · show Word.has (Ps2.refillMouse _).dataRegister i = _
    unfold Ps2.refillMouse
    split <;> simp [hms]
  · split
    · show Word.has (Ps2.refillKeyboard _).dataRegister i = _
      unfold Ps2.refillKeyboard
      split <;> simp [hkb]
    · rfl

/-- What the timer transfers sets them. -/
lemma has_dataRegister_transfer {i : ℕ} (hi : 2 ≤ i) (h : s.transfer = .ok t) :
    Word.has t.dataRegister i = Word.has s.dataRegister i := by
  have hkb : dataKbInterrupt ≠ i := by unfold dataKbInterrupt; omega
  have hms : dataMsInterrupt ≠ i := by unfold dataMsInterrupt; omega
  unfold Ps2.transfer at h
  split at h
  · exact Except.ok.inj h ▸ rfl
  split at h
  · obtain ⟨⟨b, u⟩, hread, h⟩ := bind_eq_ok.mp h
    have hsame : u.dataRegister = s.dataRegister := by
      unfold Ps2.readKeyboardMemory at hread
      split at hread
      · cases hread
      · cases hread
        rfl
    rw [← Except.ok.inj h]
    simp [hkb, hsame]
  split at h
  · obtain ⟨⟨b, u⟩, hread, h⟩ := bind_eq_ok.mp h
    have hsame : u.dataRegister = s.dataRegister := by
      unfold Ps2.readMouse at hread
      split at hread
      · cases hread
      · split at hread
        · cases hread
        · cases hread
          rfl
    rw [← Except.ok.inj h]
    simp [hms, hsame]
  · exact Except.ok.inj h ▸ rfl

/-- A tick clears them first. -/
lemma has_dataRegister_tick {i : ℕ} {ret : BitVec 8} (hi : 2 ≤ i)
    (h : s.timerPeriodic 1 = .ok (ret, t)) :
    Word.has t.dataRegister i = Word.has s.dataRegister i := by
  have hkb : dataKbInterrupt ≠ i := by unfold dataKbInterrupt; omega
  have hms : dataMsInterrupt ≠ i := by unfold dataMsInterrupt; omega
  have hcleared : Word.has (Word.clear (Word.clear s.dataRegister dataMsInterrupt) dataKbInterrupt)
      i = Word.has s.dataRegister i := by
    simp [hkb, hms]
  simp only [Ps2.timerPeriodic] at h
  split at h
  · cases h
    exact hcleared
  split at h
  · cases h
    exact hcleared
  · obtain ⟨u, hu, h⟩ := bind_eq_ok.mp h
    cases h
    rw [has_dataRegister_transfer hi hu]
    exact hcleared

lemma kept_activity {a : Ps2Activity} (h : c.activity a = .ok d) : Kept c d := by
  cases a with
  | tick =>
      obtain ⟨⟨ret, s⟩, hs, h⟩ := bind_eq_ok.mp h
      cases h
      exact ⟨rfl, fun i hi => has_dataRegister_tick hi hs⟩
  | key event =>
      cases h
      refine ⟨rfl, fun i _ => ?_⟩
      show Word.has (c.ps2.generateScancode event).dataRegister i = _
      rw [dataRegister_generateScancode]
  | read =>
      cases h
      refine ⟨rfl, fun i hi => ?_⟩
      show Word.has (c.ps2.portIoReadHandler 0x60).2.dataRegister i = _
      have hread : (c.ps2.portIoReadHandler 0x60).2 = c.ps2.readDataRegister.2 := by
        rw [Ps2.portIoReadHandler, if_pos (by decide)]
      rw [hread]
      exact has_dataRegister_read hi

/-- No run of them writes the output port or the bits of the ports. -/
lemma kept_run {as : List Ps2Activity} (h : run activity c as = .ok d) : Kept c d := by
  induction as generalizing c with
  | nil =>
      cases h
      exact ⟨rfl, fun _ _ => rfl⟩
  | cons a as ih =>
      obtain ⟨e, he, h⟩ := bind_eq_ok.mp h
      exact (kept_activity he).trans (ih h)

/-! ## What the commands deliver -/

/-- A byte that is queued for an empty output buffer is what port 0x60 gives. -/
lemma read_queued {b : BitVec 8} (hempty : s.outputFull = false) :
    ∃ t, s.queueByte b .keyboard = .ok t ∧ (t.portIoReadHandler 0x60).1 = b.setWidth 32 := by
  refine ⟨s.fill b .keyboard, if_neg (by rw [hempty]; decide), ?_⟩
  have hmouse : (s.fill b .keyboard).outputMouse = false := by
    simp [Ps2.fill, Ps2.outputMouse]
  have hfull : (s.fill b .keyboard).outputFull = true := by
    simp [Ps2.fill, Ps2.outputFull, statusOutputKbBufferFull, statusInputBufferFull,
      statusOutputMsBufferFull]
  rw [Ps2.portIoReadHandler, if_pos (by decide), Ps2.readDataRegister,
    if_neg (by rw [hmouse]; decide), if_pos hfull]
  rfl

lemma setWidth_inj {b v : BitVec 8} : b.setWidth 32 = v.setWidth 32 ↔ b = v := by
  constructor
  · intro h
    rw [← Word.setWidth_setWidth_eq (by decide : 8 ≤ 32) b, h,
      Word.setWidth_setWidth_eq (by decide)]
  · exact fun h => h ▸ rfl

/-- A command that queues a byte for the keyboard delivers that byte. -/
lemma delivers_iff {command b v : BitVec 8} (hempty : c.ps2.outputFull = false)
    (hcommand : c.writeCommandRegister clockNs command = c.withPs2 (c.ps2.queueByte b .keyboard)) :
    c.Delivers clockNs command v ↔ b = v := by
  obtain ⟨t, ht, hread⟩ := read_queued (b := b) hempty
  have hwrite : c.write clockNs 0x64 command = .ok { c with ps2 := t } := by
    rw [write, portIoWriteHandler, if_neg (by decide), if_pos (by decide),
      Word.setWidth_setWidth_eq (by decide), hcommand, ht]
    rfl
  constructor
  · rintro ⟨d, hd, hvalue⟩
    rw [hwrite] at hd
    obtain rfl := Except.ok.inj hd
    exact setWidth_inj.mp (hread.symm.trans hvalue)
  · rintro rfl
    exact ⟨_, hwrite, hread⟩

/-! ## Requests -/

lemma write_eq {value : BitVec 8} : c.write clockNs 0x60 value =
    c.writeDataRegister clockNs value >>= fun p => .ok p.1 := by
  rw [write, portIoWriteHandler, if_pos (by decide),
    Word.setWidth_setWidth_eq (by decide)]
  rfl

/-- A command that takes data waits for it. -/
lemma write_cmdWriteByte : c.write clockNs 0x64 cmdWriteByte = .ok { c with
    ps2 := { c.ps2 with statusRegister := Word.set c.ps2.statusRegister statusCommandLast }
    commandBuffer := cmdWriteByte } := rfl

/-- The command byte is not the output port. -/
lemma outputPort_perform_commandByte {value : BitVec 8}
    (h : (Ps2Request.commandByte value).perform clockNs c = .ok d) :
    d.outputPort = c.outputPort := by
  have hlast : Word.has (Word.set c.ps2.statusRegister statusCommandLast)
      statusCommandLast = true := by
    simp [statusCommandLast]
  rw [Ps2Request.perform, write_cmdWriteByte, ok_bind, write_eq, writeDataRegister] at h
  simp only [hlast, if_true, writeCommandData] at h
  exact Except.ok.inj h ▸ rfl

/-- A command of a port leaves the command byte. -/
lemma dataRegister_perform_port {device : Ps2Device} {enabled : Bool}
    (h : (Ps2Request.port device enabled).perform clockNs c = .ok d) :
    d.ps2.dataRegister = c.ps2.dataRegister := by
  have hkeyboard : ∀ b, (c.ps2.enableKeyboardClock b).dataRegister = c.ps2.dataRegister := by
    intro b
    unfold Ps2.enableKeyboardClock
    split
    · simp only
      split <;> rfl
    · rfl
  have hmouse : ∀ b, (c.ps2.enableMouseClock c.timerId clockNs b).1.dataRegister =
      c.ps2.dataRegister := by
    intro b
    unfold Ps2.enableMouseClock
    split
    · split <;> rfl
    · rfl
  cases device with
  | keyboard =>
      cases enabled with
      | true => exact (congrArg (·.ps2.dataRegister) (Except.ok.inj h)).symm.trans (hkeyboard true)
      | false =>
          exact (congrArg (·.ps2.dataRegister) (Except.ok.inj h)).symm.trans (hkeyboard false)
  | mouse =>
      cases enabled with
      | true => exact (congrArg (·.ps2.dataRegister) (Except.ok.inj h)).symm.trans (hmouse true)
      | false => exact (congrArg (·.ps2.dataRegister) (Except.ok.inj h)).symm.trans (hmouse false)

end Ps2Controller

/-- A request shows later exactly if what is delivered or kept in its place happens to be the
same. -/
theorem ps2_requests_reflected_iff {c d e : Ps2Controller} {request : Ps2Request}
    {clockNs laterNs : BitVec 64} {as : List Ps2Activity}
    (hrequest : request.perform clockNs c = .ok d) (hrun : run Ps2Controller.activity d as = .ok e)
    (hempty : e.ps2.outputFull = false) :
    request.Reflected laterNs e ↔ request.Harmless c := by
  have hkept := Ps2Controller.kept_run hrun
  cases request with
  | commandByte value =>
      show e.Delivers laterNs cmdReadByte value ↔ c.outputPort = value
      rw [Ps2Controller.delivers_iff hempty rfl, hkept.outputPort,
        Ps2Controller.outputPort_perform_commandByte hrequest]
  | outputPort value =>
      show e.Delivers laterNs cmdReadOutputPort value ↔ value = 0x55
      rw [Ps2Controller.delivers_iff hempty rfl]
      exact eq_comm
  | port device enabled =>
      have htwo : 2 ≤ disableBit device := by cases device <;> decide
      show Word.has e.ps2.dataRegister (disableBit device) = !enabled ↔ _
      rw [hkept.dataRegister _ htwo, Ps2Controller.dataRegister_perform_port hrequest]
      exact Iff.rfl

/-- A key event, a tick and a read between a request and a look at it. -/
def keyStroke : List Ps2Activity := [.key 20, .tick, .read, .tick]

/-- The byte that is delivered anyway is written to the output port. -/
theorem ps2_requests_reflected_anyway :
    ∃ d e, (Ps2Request.outputPort 0x55).perform 0 .initialState = .ok d ∧
      run Ps2Controller.activity d keyStroke = .ok e ∧
      (Ps2Request.outputPort 0x55).Reflected 0 e := by
  have hends : ends (fun d => ends (fun e => e.ps2.outputFull = false)
      (run Ps2Controller.activity d keyStroke) = true)
      ((Ps2Request.outputPort 0x55).perform 0 .initialState) = true := by
    decide
  obtain ⟨d, hd, hrest⟩ := exists_of_ends _ hends
  obtain ⟨e, he, hempty⟩ := exists_of_ends _ hrest
  exact ⟨d, e, hd, he, (ps2_requests_reflected_iff hd he hempty).mpr rfl⟩

/-- The command byte 0x47 is written, and 0 is read; 0xdf is written to the output port, and 0x55 is
read; the mouse is disabled, and its bit stays clear. -/
theorem ps2_requests_lost :
    (∃ d, (Ps2Request.commandByte 0x47).perform 0 .initialState = .ok d ∧
        d.Delivers 0 cmdReadByte 0 ∧ ¬ (Ps2Request.commandByte 0x47).Reflected 0 d) ∧
      (∃ d, (Ps2Request.outputPort 0xdf).perform 0 .initialState = .ok d ∧
        d.Delivers 0 cmdReadOutputPort 0x55 ∧ ¬ (Ps2Request.outputPort 0xdf).Reflected 0 d) ∧
      ∃ d, (Ps2Request.port .mouse false).perform 0 .initialState = .ok d ∧
        ¬ (Ps2Request.port .mouse false).Reflected 0 d := by
  refine ⟨⟨_, rfl, (Ps2Controller.delivers_iff rfl rfl).mpr rfl, fun h => ?_⟩,
    ⟨_, rfl, (Ps2Controller.delivers_iff rfl rfl).mpr rfl, fun h => ?_⟩, _, rfl, fun h => ?_⟩
  · exact absurd ((Ps2Controller.delivers_iff rfl rfl).mp h) (by decide)
  · exact absurd ((Ps2Controller.delivers_iff rfl rfl).mp h) (by decide)
  · have hbit : Word.has (0 : BitVec 8) dataDisableMouse = true := h
    exact absurd hbit (by decide)

end Svmm
