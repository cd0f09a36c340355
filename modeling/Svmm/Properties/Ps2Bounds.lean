import Svmm.Framework.Run
import Svmm.Construction.Ps2Ports
import Svmm.Construction.Scancodes

/-!
# The bounds of the PS/2 controller

Whatever is written to its ports, read from them, typed and ticked from `Ps2Initialize` on, the
memory of the keyboard and the controller queue stay within their sizes, and the scan-code set is
one of the three that the table of the keys has.
-/

namespace Svmm

open TransitionRun

/-- What happens to the controller. -/
inductive Ps2Input where
  | write (clockNs address : BitVec 64) (value : BitVec 32)
  | read (address : BitVec 64)
  | key (event : BitVec 32)
  | tick (seconds : BitVec 32)

namespace Ps2Controller

/-- The controller after it. -/
def inputStep (c : Ps2Controller) : Ps2Input → Except Unit Ps2Controller
  | .write clockNs address value => do
      let (c, _) ← c.portIoWriteHandler clockNs address value
      return c
  | .read address => .ok { c with ps2 := (c.ps2.portIoReadHandler address).2 }
  | .key event => .ok { c with ps2 := c.ps2.generateScancode event }
  | .tick seconds => do
      let (_, s) ← c.ps2.timerPeriodic seconds
      return { c with ps2 := s }

end Ps2Controller

namespace Ps2

/-- The memory of the keyboard and the queue are no longer than their arrays, and the scan-code set
is one of the table. -/
structure Bounded (s : Ps2) : Prop where
  memory : s.keyboard.memory.length ≤ keyboardMemorySize
  queue : s.controllerQueue.length ≤ kbdControllerQsize
  scanCodeSet : s.keyboard.scanCodeSet < 3

variable {s t : Ps2}

lemma bounded_initialState : Bounded initialState :=
  ⟨by decide, by decide, by decide⟩

/-! ## The keyboard -/

lemma Bounded.writeKeyboardMemory (hs : s.Bounded) (b : BitVec 8) :
    (s.writeKeyboardMemory b).Bounded := by
  unfold Ps2.writeKeyboardMemory
  split
  · exact hs
  · rename_i hroom
    refine ⟨?_, hs.queue, hs.scanCodeSet⟩
    show (s.keyboard.memory ++ [b]).length ≤ keyboardMemorySize
    rw [List.length_append, List.length_singleton]
    omega

lemma Bounded.writes (code : List (BitVec 8)) (hs : s.Bounded) :
    (code.foldl (fun s b => s.writeKeyboardMemory b) s).Bounded := by
  induction code generalizing s with
  | nil => exact hs
  | cons b code ih => exact ih (hs.writeKeyboardMemory b)

lemma Bounded.keyboardReset (hs : s.Bounded) : s.keyboardReset.Bounded :=
  ⟨Nat.zero_le _, hs.queue, show (1 : BitVec 8) < 3 by decide⟩

/-- No argument selects a fourth set. -/
lemma Bounded.selectScanCodeSet (hs : s.Bounded) (value : BitVec 8) :
    (s.selectScanCodeSet value).Bounded := by
  unfold Ps2.selectScanCodeSet
  have hsame : Bounded { s with keyboard := { s.keyboard with scanCodeEnabled := false } } :=
    ⟨hs.memory, hs.queue, hs.scanCodeSet⟩
  by_cases hzero : value = 0
  · simp only [if_pos hzero]
    exact (hsame.writeKeyboardMemory _).writeKeyboardMemory _
  · simp only [if_neg hzero]
    split
    · rename_i hlt
      refine Bounded.writeKeyboardMemory ?_ _
      refine ⟨hs.memory, hs.queue, ?_⟩
      show value - 1 < 3
      bv_omega
    · exact hsame.writeKeyboardMemory _

lemma Bounded.queueByte {data : BitVec 8} {device : Ps2Device} (hs : s.Bounded)
    (h : s.queueByte data device = .ok t) : t.Bounded := by
  unfold Ps2.queueByte at h
  split at h
  · split at h
    · cases h
    · rename_i hroom
      cases h
      refine ⟨hs.memory, ?_, hs.scanCodeSet⟩
      show (s.controllerQueue ++ [data]).length ≤ kbdControllerQsize
      rw [List.length_append, List.length_singleton]
      omega
  · cases h
    cases device <;> exact ⟨hs.memory, hs.queue, hs.scanCodeSet⟩

lemma Bounded.sendKeyboard {value : BitVec 8} (hs : s.Bounded) (h : s.sendKeyboard value = .ok t) :
    t.Bounded := by
  unfold Ps2.sendKeyboard at h
  split at h
  · cases h
    exact hs.selectScanCodeSet value
  split at h
  · exact hs.queueByte h
  · cases h
    refine Bounded.writes _ ?_
    have hreset : Bounded (if IsReset value then s.keyboardReset else s) := by
      split
      · exact hs.keyboardReset
      · exact hs
    split
    · exact ⟨hreset.memory, hreset.queue, hreset.scanCodeSet⟩
    · exact hreset

lemma Bounded.generateScancode (hs : s.Bounded) (event : BitVec 32) :
    (s.generateScancode event).Bounded := by
  have htranslated : ∀ (code : List (BitVec 8)) (p : BitVec 8 × Ps2), p.2.Bounded →
      (code.foldl sendTranslated p).2.Bounded := by
    intro code
    induction code with
    | nil => exact fun _ h => h
    | cons b code ih =>
        intro p hp
        refine ih _ ?_
        unfold sendTranslated
        split
        · exact hp.writeKeyboardMemory _
        · exact hp
  unfold Ps2.generateScancode
  split
  · exact hs
  · simp only
    split
    · exact htranslated _ _ hs
    · exact hs.writes _

/-! ## The output buffer -/

lemma Bounded.readDataRegister (hs : s.Bounded) : s.readDataRegister.2.Bounded := by
  have hqueue := hs.queue
  unfold Ps2.readDataRegister
  split
  · unfold refillMouse
    simp only
    split
    · exact ⟨hs.memory, hs.queue, hs.scanCodeSet⟩
    · rename_i hcons
      rw [hcons] at hqueue
      exact ⟨hs.memory, Nat.le_of_succ_le hqueue, hs.scanCodeSet⟩
  · split
    · unfold refillKeyboard
      simp only
      split
      · exact ⟨hs.memory, hs.queue, hs.scanCodeSet⟩
      · rename_i hcons
        rw [hcons] at hqueue
        exact ⟨hs.memory, Nat.le_of_succ_le hqueue, hs.scanCodeSet⟩
    · exact hs

lemma Bounded.portIoReadHandler (hs : s.Bounded) (address : BitVec 64) :
    (s.portIoReadHandler address).2.Bounded := by
  unfold Ps2.portIoReadHandler
  split
  · exact hs.readDataRegister
  · split
    · exact ⟨hs.memory, hs.queue, hs.scanCodeSet⟩
    · exact hs

lemma Bounded.transfer (hs : s.Bounded) (h : s.transfer = .ok t) : t.Bounded := by
  have hmemory := hs.memory
  unfold Ps2.transfer at h
  split at h
  · cases h
    exact hs
  split at h
  · obtain ⟨⟨b, u⟩, hread, h⟩ := bind_eq_ok.mp h
    unfold readKeyboardMemory at hread
    split at hread
    · cases hread
    · rename_i hcons
      rw [hcons] at hmemory
      cases hread
      cases h
      exact ⟨Nat.le_of_succ_le hmemory, hs.queue, hs.scanCodeSet⟩
  split at h
  · obtain ⟨⟨b, u⟩, hread, h⟩ := bind_eq_ok.mp h
    unfold readMouse at hread
    split at hread
    · cases hread
    split at hread
    · cases hread
    · cases hread
      cases h
      exact ⟨hs.memory, hs.queue, hs.scanCodeSet⟩
  · cases h
    exact hs

lemma Bounded.timerPeriodic {seconds : BitVec 32} {p : BitVec 8 × Ps2} (hs : s.Bounded)
    (h : s.timerPeriodic seconds = .ok p) : p.2.Bounded := by
  simp only [Ps2.timerPeriodic] at h
  split at h
  · cases h
    exact ⟨hs.memory, hs.queue, hs.scanCodeSet⟩
  split at h
  · cases h
    exact ⟨hs.memory, hs.queue, hs.scanCodeSet⟩
  · obtain ⟨u, hu, h⟩ := bind_eq_ok.mp h
    cases h
    refine Bounded.transfer ?_ hu
    exact ⟨hs.memory, hs.queue, hs.scanCodeSet⟩

/-! ## The commands of the controller -/

lemma Bounded.enableKeyboardClock (hs : s.Bounded) (enable : Bool) :
    (s.enableKeyboardClock enable).Bounded := by
  unfold Ps2.enableKeyboardClock
  split
  · simp only
    split <;> exact ⟨hs.memory, hs.queue, hs.scanCodeSet⟩
  · exact ⟨hs.memory, hs.queue, hs.scanCodeSet⟩

lemma Bounded.enableMouseClock (hs : s.Bounded) (timerId : BitVec 32) (clockNs : BitVec 64)
    (value : Bool) : (s.enableMouseClock timerId clockNs value).1.Bounded := by
  unfold Ps2.enableMouseClock
  split
  · split <;> exact ⟨hs.memory, hs.queue, hs.scanCodeSet⟩
  · exact ⟨hs.memory, hs.queue, hs.scanCodeSet⟩

lemma Bounded.answerTest {device : Ps2Device} (hs : s.Bounded) (h : s.answerTest device = .ok t) :
    t.Bounded := by
  unfold Ps2.answerTest at h
  split at h
  · cases h
  · exact hs.queueByte h

lemma Bounded.testController (hs : s.Bounded) (h : s.testController = .ok t) : t.Bounded := by
  have htested : Bounded (if Word.has s.statusRegister statusSystemTest then s
      else { s with
        statusRegister := Word.clear s.statusRegister statusOutputKbBufferFull
        controllerQueue := [] }) := by
    split
    · exact hs
    · exact ⟨hs.memory, Nat.zero_le _, hs.scanCodeSet⟩
  unfold Ps2.testController at h
  simp only at h
  revert h htested
  generalize (if Word.has s.statusRegister statusSystemTest then s else _) = u
  intro h htested
  split at h
  · cases h
    exact htested
  · refine Bounded.queueByte ?_ h
    exact ⟨htested.memory, htested.queue, htested.scanCodeSet⟩

end Ps2

namespace Ps2Controller

variable {c : Ps2Controller}

/-- What a handler leaves, if anything, is within the bounds. -/
def LeavesBounded (x : Except Unit (Ps2Controller × List TimerCall)) : Prop :=
  ∀ p, x = .ok p → p.1.ps2.Bounded

lemma leavesBounded_ok {calls : List TimerCall} (hc : c.ps2.Bounded) :
    LeavesBounded (.ok (c, calls)) := by
  intro p hp
  cases hp
  exact hc

lemma leavesBounded_withPs2 {x : Except Unit Ps2} (hx : ∀ t, x = .ok t → t.Bounded) :
    LeavesBounded (c.withPs2 x) := by
  intro p hp
  obtain ⟨t, ht, hp⟩ := bind_eq_ok.mp hp
  cases hp
  exact hx t ht

lemma LeavesBounded.ite {q : Prop} [Decidable q]
    {x y : Except Unit (Ps2Controller × List TimerCall)} (hx : LeavesBounded x)
    (hy : LeavesBounded y) : LeavesBounded (if q then x else y) := by
  split
  · exact hx
  · exact hy

lemma leavesBounded_queueByte (hc : c.ps2.Bounded) (data : BitVec 8) (device : Ps2Device) :
    LeavesBounded (c.withPs2 (c.ps2.queueByte data device)) :=
  leavesBounded_withPs2 fun _ ht => hc.queueByte ht

lemma leavesBounded_writeCommandData (hc : c.ps2.Bounded) (clockNs : BitVec 64)
    (value : BitVec 8) : LeavesBounded (c.writeCommandData clockNs value) := by
  have hclocks : ∀ enable : Bool,
      (({ c.ps2 with dataRegister := value } : Ps2).enableKeyboardClock enable).Bounded := by
    intro enable
    refine Ps2.Bounded.enableKeyboardClock ?_ enable
    exact ⟨hc.memory, hc.queue, hc.scanCodeSet⟩
  unfold writeCommandData
  refine .ite (leavesBounded_ok ((hclocks _).enableMouseClock _ _ _)) ?_
  refine .ite (leavesBounded_queueByte hc _ _) ?_
  refine .ite (leavesBounded_queueByte hc _ _) ?_
  exact .ite (leavesBounded_ok hc) (leavesBounded_ok hc)

lemma leavesBounded_writeDataRegister (hc : c.ps2.Bounded) (clockNs : BitVec 64)
    (value : BitVec 8) : LeavesBounded (c.writeDataRegister clockNs value) := by
  have hlast : ∀ x : Except Unit (Ps2Controller × List TimerCall), LeavesBounded x →
      LeavesBounded (x >>= fun q => .ok ({ q.1 with
        ps2 := { q.1.ps2 with
          statusRegister := Word.clear q.1.ps2.statusRegister statusCommandLast }
        commandBuffer := 0 }, q.2)) := by
    intro x hx p hp
    obtain ⟨q, hq, hp⟩ := bind_eq_ok.mp hp
    cases hp
    exact ⟨(hx q hq).memory, (hx q hq).queue, (hx q hq).scanCodeSet⟩
  unfold writeDataRegister
  exact .ite (hlast _ (leavesBounded_writeCommandData hc clockNs value))
    (hlast _ (leavesBounded_withPs2 fun _ ht => hc.sendKeyboard ht))

lemma leavesBounded_writeCommandRegister (hc : c.ps2.Bounded) (clockNs : BitVec 64)
    (value : BitVec 8) : LeavesBounded (c.writeCommandRegister clockNs value) := by
  have hmouse : ∀ enable, LeavesBounded (.ok
      ({ c with ps2 := (c.ps2.enableMouseClock c.timerId clockNs enable).1 },
        (c.ps2.enableMouseClock c.timerId clockNs enable).2)) :=
    fun enable => leavesBounded_ok (hc.enableMouseClock c.timerId clockNs enable)
  unfold writeCommandRegister
  -- the reads of the two bytes, and the commands that wait for data
  refine .ite (leavesBounded_queueByte hc _ _) ?_
  refine .ite (leavesBounded_queueByte hc _ _) ?_
  refine .ite (leavesBounded_ok ⟨hc.memory, hc.queue, hc.scanCodeSet⟩) ?_
  -- the two ports, and their tests
  refine .ite (hmouse false) ?_
  refine .ite (hmouse true) ?_
  refine .ite (leavesBounded_withPs2 fun _ ht => hc.answerTest ht) ?_
  refine .ite (leavesBounded_withPs2 fun _ ht => hc.testController ht) ?_
  refine .ite (leavesBounded_withPs2 fun _ ht => hc.answerTest ht) ?_
  refine .ite (leavesBounded_ok (hc.enableKeyboardClock false)) ?_
  refine .ite (leavesBounded_ok (hc.enableKeyboardClock true)) ?_
  refine .ite (leavesBounded_queueByte hc _ _) ?_
  refine .ite (leavesBounded_queueByte hc _ _) ?_
  -- the output port alone, or nothing
  refine .ite (leavesBounded_ok hc) ?_
  exact .ite (leavesBounded_ok hc) (leavesBounded_ok hc)

lemma bounded_inputStep {d : Ps2Controller} {e : Ps2Input} (hc : c.ps2.Bounded)
    (h : c.inputStep e = .ok d) : d.ps2.Bounded := by
  cases e with
  | write clockNs address value =>
      obtain ⟨p, hp, h⟩ := bind_eq_ok.mp h
      cases h
      exact LeavesBounded.ite (leavesBounded_writeDataRegister hc _ _)
        (.ite (leavesBounded_writeCommandRegister hc _ _) (leavesBounded_ok hc)) p hp
  | read address =>
      cases h
      exact hc.portIoReadHandler address
  | key event =>
      cases h
      exact hc.generateScancode event
  | tick seconds =>
      obtain ⟨⟨b, u⟩, hu, h⟩ := bind_eq_ok.mp h
      cases h
      exact hc.timerPeriodic hu

/-- From `Ps2Initialize` on, nothing that happens to the controller takes it out of its bounds. -/
theorem bounded_of_run {es : List Ps2Input} (h : run inputStep initialState es = .ok c) :
    c.ps2.Bounded :=
  run_invariant (P := fun _ _ => True) (fun _ _ _ hc _ hstep => bounded_inputStep hc hstep)
    Ps2.bounded_initialState (Meets.always _ _) h

end Ps2Controller

namespace Ps2

variable {s : Ps2}

/-- Each key has a row of three sets. -/
lemma length_scancodes :
    scancodes.length = bxKeyNbkeys.toNat ∧ ∀ row ∈ scancodes, row.length = 3 := by
  decide

/-- Within the bounds, what a key event sends is read inside the table. -/
theorem Bounded.scancode_getElem? {key : BitVec 32} (hs : s.Bounded) (hkey : key < bxKeyNbkeys) :
    ∃ row, scancodes[key.toNat]? = some row ∧
      row[s.keyboard.scanCodeSet.toNat]? =
        some (scancode key.toNat s.keyboard.scanCodeSet.toNat) := by
  obtain ⟨hlength, hrows⟩ := length_scancodes
  have hlt : key.toNat < scancodes.length := hlength ▸ hkey
  have hrow := List.getElem?_eq_getElem hlt
  have hset : s.keyboard.scanCodeSet.toNat < scancodes[key.toNat].length :=
    (hrows _ (List.getElem_mem hlt)).symm ▸ hs.scanCodeSet
  refine ⟨_, hrow, ?_⟩
  rw [scancode, List.getD_eq_getElem?_getD, List.getD_eq_getElem?_getD, hrow, Option.getD_some,
    List.getElem?_eq_getElem hset, Option.getD_some]

end Ps2

end Svmm
