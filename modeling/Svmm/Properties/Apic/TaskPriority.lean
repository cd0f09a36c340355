import Svmm.Properties.Apic.Stranding
import Svmm.Properties.Apic.Nesting

/-!
# The task priority at the acknowledge

`ApicService` posts a request only above the task priority, but the guest may raise the
priority before the window opens, so `ApicAcknowledgeInterrupt` compares again.  It compares
with `<`: a request of a lower class is held back, and one of the very class the guest raised
its priority to is taken.  The other operations keep their part in every run: whatever is
above the task priority and the classes in service has the event set.
-/

namespace Svmm

open TransitionRun

/-! ## The runs -/

/-- An input of the local APIC's own, or the opening of the window it asked for. -/
inductive PriorityOp where
  | apicSetIrq (vector : BitVec 8) (levelSensitive : BitVec 32)
  | apicWriteTaskPriority (value : BitVec 32)
  | apicReceiveEOI
  | irqWindowOpen
  deriving DecidableEq

/-- The input as one of the interrupt fabric's. -/
def PriorityOp.toOp : PriorityOp → Op
  | .apicSetIrq vector levelSensitive => .apicSetIrq vector levelSensitive
  | .apicWriteTaskPriority value => .apicWriteTaskPriority value
  | .apicReceiveEOI => .apicReceiveEOI
  | .irqWindowOpen => .irqWindowOpen

/-- The effect of one input. -/
def priorityStep (s : State) (op : PriorityOp) : Outcome State := step s op.toOp

/-! ## What the acknowledge owes the task priority -/

/-- The request an acknowledge decides about. -/
def State.topRequest (s : State) : BitVec 8 := highestVector s.lapic.interruptRequestRegister

/-- The acknowledge returned `v` and left `t`: it took a request of a class above the task
priority into service. -/
def TakesAbove (s t : State) (v : BitVec 8) : Prop :=
  s.requesting v = true ∧ s.lapic.taskPriority.toNat < vectorClass v ∧
    (∀ w, t.requesting w = (s.requesting w && !decide (v = w))) ∧
    ∀ w, t.serving w = (s.serving w || decide (v = w))

/-- It returned the spurious vector and moved nothing, and the request it held back is
presented once the task priority is written with less than its class. -/
def HoldsBack (s t : State) (v : BitVec 8) : Prop :=
  v = s.lapic.spuriousVector ∧
    t.lapic.interruptRequestRegister = s.lapic.interruptRequestRegister ∧
    t.lapic.interruptServiceRegister = s.lapic.interruptServiceRegister ∧
    ∀ value : BitVec 32, value.toNat < vectorClass s.topRequest →
      (apicWriteTaskPriority value t).pendingLapicIntr = true

/-- What an input does is right by the task priority: an acknowledge takes what is above it or
holds back, and after the input whatever is above the task priority and the classes in service
has the event set. -/
def HonoursPriority (s : State) (op : PriorityOp) : Prop :=
  (op = .irqWindowOpen → s.pendingLapicIntr = true →
    ∃ v t, apicAcknowledgeInterrupt (s.setWindow 0) = .ok (v, t) ∧
      (TakesAbove s t v ∨ HoldsBack s t v)) ∧
  ∀ t, priorityStep s op = .ok t → NotStranded t

/-- The acknowledge is made with the task priority off the class of the highest request. -/
def OffTaskPriority (s : State) (op : PriorityOp) : Prop :=
  op = .irqWindowOpen → s.pendingLapicIntr = true →
    (vectorClass s.topRequest : ℕ) ≠ s.lapic.taskPriority.toNat

/-! ## The invariant -/

/-- What every such run keeps: nothing is stranded, the window flag is the local APIC's alone,
and a posted request is above the classes in service. -/
structure PriorityPosted (s : State) : Prop extends ServiceInvariant s where
  windowFree : ¬ s.windowTaken
  noIntr : s.pendingIntr = false
  posted_above : s.pendingLapicIntr = true →
    apicHighestPriority s.lapic.interruptServiceRegister <
      apicHighestPriority s.lapic.interruptRequestRegister

section Invariant

variable {s t : State}

lemma windowFree_apicService (h : ¬ s.windowTaken) : ¬ (apicService s).windowTaken := by
  intro htaken
  rcases window_apicService s with ⟨hw, hp⟩ | ⟨-, hp⟩
  · exact h ⟨hw ▸ htaken.1, hp ▸ htaken.2⟩
  · exact absurd htaken.2 (by simp [hp])

/-- `ApicService` posts what is above the classes in service. -/
lemma PriorityPosted.apicService_of (htpr : s.lapic.taskPriority.toNat ≤ 15)
    (hfree : ¬ s.windowTaken) (hintr : s.pendingIntr = false)
    (hposted : s.pendingLapicIntr = true →
      apicHighestPriority s.lapic.interruptServiceRegister <
        apicHighestPriority s.lapic.interruptRequestRegister) :
    PriorityPosted (apicService s) := by
  refine ⟨⟨?_, notStranded_apicService htpr hfree⟩, windowFree_apicService hfree, ?_, ?_⟩
  · rw [lapic_apicService]
    exact htpr
  · rw [pendingIntr_apicService]
    exact hintr
  · intro hp
    rw [lapic_apicService]
    exact pending_above_apicService htpr hposted hp

lemma PriorityPosted.of_setIrq (h : PriorityPosted s) (vector : BitVec 8) (level : BitVec 32) :
    PriorityPosted (apicSetIrq vector level s) := by
  by_cases hacc : s.lapic.accepts vector
  · rw [apicSetIrq_of_accepts _ _ _ hacc]
    refine PriorityPosted.apicService_of h.taskPriority_le h.windowFree h.noIntr fun hp => ?_
    have hgrown : apicHighestPriority s.lapic.interruptRequestRegister ≤
        apicHighestPriority (setVector s.lapic.interruptRequestRegister vector) := by
      rw [apicHighestPriority_setVector]
      exact le_max_left _ _
    exact lt_of_lt_of_le (h.posted_above hp) hgrown
  · obtain ⟨e, he⟩ := apicSetIrq_of_refused vector level s hacc
    rw [he]
    exact ⟨⟨h.taskPriority_le, h.notStranded⟩, h.windowFree, h.noIntr, h.posted_above⟩

lemma PriorityPosted.of_writeTaskPriority (h : PriorityPosted s) (value : BitVec 32) :
    PriorityPosted (apicWriteTaskPriority value s) := by
  have hservice : ServiceInvariant (apicWriteTaskPriority value s) :=
    h.toServiceInvariant.of_writeTaskPriority fun htaken => absurd htaken h.windowFree
  rcases apicWriteTaskPriority_cases s value with ⟨-, he⟩ | ⟨-, -, he⟩ | ⟨hval, -, he⟩
  · rw [he]
    exact h
  · rw [he] at hservice ⊢
    exact ⟨hservice, h.windowFree, h.noIntr, h.posted_above⟩
  · rw [he]
    exact PriorityPosted.apicService_of hval h.windowFree h.noIntr h.posted_above

lemma PriorityPosted.of_receiveEOI (h : PriorityPosted s) : PriorityPosted (apicReceiveEOI s) := by
  by_cases hspur : s.eoiVector = s.lapic.spuriousVector
  · rw [apicReceiveEOI_of_spurious s hspur]
    exact h
  · obtain ⟨t, ht, hl, -, -, -, hevents, hwindow, -⟩ := exists_apicReceiveEOI s hspur
    have hp : t.pendingLapicIntr = s.pendingLapicIntr := by
      simp only [State.pendingLapicIntr, hevents]
    rw [ht]
    refine PriorityPosted.apicService_of ?_ ?_ ?_ fun hpt => ?_
    · rw [hl]
      exact h.taskPriority_le
    · rw [State.windowTaken, hp, hwindow]
      exact h.windowFree
    · rw [State.pendingIntr, hevents]
      exact h.noIntr
    · rw [hl]
      -- the service register only loses a vector
      refine lt_of_le_of_lt ?_ (h.posted_above (hp ▸ hpt))
      refine apicHighestPriority_mono fun w hw => ?_
      rw [hasVector_clearVector, Bool.and_eq_true] at hw
      exact hw.1

lemma PriorityPosted.of_acknowledge (h : PriorityPosted s) (hwindow : s.requestInterruptWindow = 0)
    {v : BitVec 8} (hack : apicAcknowledgeInterrupt s = .ok (v, t)) : PriorityPosted t := by
  have hservice : ServiceInvariant t := h.toServiceInvariant.of_acknowledge hack
  rcases (apicAcknowledgeInterrupt_cases s hack).2 with ⟨-, -, rfl⟩ | ⟨-, -, rfl⟩
  · refine ⟨hservice, fun htaken => htaken.1 hwindow, ?_, fun hp => ?_⟩
    · simp [h.noIntr]
    · simp at hp
  · refine PriorityPosted.apicService_of h.taskPriority_le (fun htaken => htaken.1 hwindow) ?_ ?_
    · simp [State.acknowledged, h.noIntr]
    · intro hp
      simp [State.acknowledged] at hp

lemma PriorityPosted.setWindow (h : PriorityPosted s) : PriorityPosted (s.setWindow 0) :=
  ⟨⟨h.taskPriority_le, h.notStranded⟩, fun htaken => htaken.1 rfl, h.noIntr, h.posted_above⟩

lemma PriorityPosted.step {op : PriorityOp} (h : PriorityPosted s)
    (hstep : priorityStep s op = .ok t) : PriorityPosted t := by
  cases op with
  | apicSetIrq vector level =>
      obtain rfl := Except.ok.inj hstep
      exact h.of_setIrq vector level
  | apicWriteTaskPriority value =>
      obtain rfl := Except.ok.inj hstep
      exact h.of_writeTaskPriority value
  | apicReceiveEOI =>
      obtain rfl := Except.ok.inj hstep
      exact h.of_receiveEOI
  | irqWindowOpen =>
      rcases irqWindowOpen_cases hstep with ⟨hintr, -⟩ | ⟨-, -, v, u, hack, rfl⟩ | ⟨-, -, rfl⟩
      · rw [h.noIntr] at hintr
        cases hintr
      · have hu := h.setWindow.of_acknowledge rfl hack
        exact ⟨⟨hu.taskPriority_le, hu.notStranded⟩, hu.windowFree, hu.noIntr, hu.posted_above⟩
      · exact h.setWindow

end Invariant

/-! ## One acknowledge -/

section Acknowledge

variable {s : State}

lemma PriorityPosted.requesting_topRequest (h : PriorityPosted s)
    (hp : s.pendingLapicIntr = true) : s.requesting s.topRequest = true :=
  hasVector_highestVector_of_pos (Nat.zero_lt_of_lt (h.posted_above hp))

lemma vectorClass_topRequest (s : State) :
    (vectorClass s.topRequest : ℕ) = apicHighestPriority s.lapic.interruptRequestRegister :=
  vectorClass_highestVector _

/-- A request the acknowledge holds back is above the classes in service, so a lower task
priority is all it waits for. -/
lemma PriorityPosted.presented (h : PriorityPosted s) (hp : s.pendingLapicIntr = true)
    (hbelow : (vectorClass s.topRequest : ℕ) < s.lapic.taskPriority.toNat) {value : BitVec 32}
    (hvalue : value.toNat < vectorClass s.topRequest) :
    (apicWriteTaskPriority value
      ((s.setWindow 0).clearEvent eventPendingLapicIntr)).pendingLapicIntr = true := by
  have hclass := vectorClass_topRequest s
  have habove := h.posted_above hp
  have htop : apicHighestPriority s.lapic.interruptRequestRegister ≤ 15 :=
    apicHighestPriority_le _
  rcases apicWriteTaskPriority_cases ((s.setWindow 0).clearEvent eventPendingLapicIntr) value with
    ⟨hlarge, -⟩ | ⟨-, hge, -⟩ | ⟨hval, -, he⟩
  · omega
  · simp only [State.lapic_clearEvent, State.lapic_setWindow] at hge
    omega
  · rw [he, pendingLapicIntr_apicService_iff]
    refine Or.inr ⟨?_, rfl⟩
    rw [Lapic.deliverable, apicGetProcessPriority_eq hval]
    show max (apicHighestPriority s.lapic.interruptServiceRegister) value.toNat <
      apicHighestPriority s.lapic.interruptRequestRegister
    omega

/-- What the acknowledge of a posted request does, by the class of the request. -/
lemma PriorityPosted.acknowledge_cases (h : PriorityPosted s) (hp : s.pendingLapicIntr = true) :
    ((vectorClass s.topRequest : ℕ) < s.lapic.taskPriority.toNat ∧
      apicAcknowledgeInterrupt (s.setWindow 0) = .ok (s.lapic.spuriousVector,
        (s.setWindow 0).clearEvent eventPendingLapicIntr)) ∨
    (s.lapic.taskPriority.toNat ≤ vectorClass s.topRequest ∧
      apicAcknowledgeInterrupt (s.setWindow 0) =
        .ok (s.topRequest, apicService (s.setWindow 0).acknowledged)) := by
  have hclass := vectorClass_topRequest s
  have habove := h.posted_above hp
  have hppr := apicGetProcessPriority_eq h.taskPriority_le
  unfold apicAcknowledgeInterrupt
  rw [if_neg (by simp [hp])]
  by_cases hlt : (vectorClass s.topRequest : ℕ) < s.lapic.taskPriority.toNat
  · refine Or.inl ⟨hlt, if_pos ?_⟩
    rw [State.lapic_setWindow, hppr]
    omega
  · refine Or.inr ⟨Nat.not_lt.mp hlt, if_neg ?_⟩
    rw [State.lapic_setWindow, hppr]
    omega

lemma takesAbove_acknowledged (hreq : s.requesting s.topRequest = true)
    (habove : s.lapic.taskPriority.toNat < vectorClass s.topRequest) :
    TakesAbove s (apicService (s.setWindow 0).acknowledged) s.topRequest := by
  refine ⟨hreq, habove, fun w => ?_, fun w => ?_⟩
  · rw [State.requesting, lapic_apicService]
    exact requesting_acknowledged w
  · rw [State.serving, lapic_apicService]
    exact serving_acknowledged w

/-- An acknowledge is right by the task priority exactly when the highest request is not of
that very class. -/
lemma PriorityPosted.honours_acknowledge_iff (h : PriorityPosted s)
    (hp : s.pendingLapicIntr = true) :
    (∃ v t, apicAcknowledgeInterrupt (s.setWindow 0) = .ok (v, t) ∧
      (TakesAbove s t v ∨ HoldsBack s t v)) ↔
      (vectorClass s.topRequest : ℕ) ≠ s.lapic.taskPriority.toNat := by
  have hreq := h.requesting_topRequest hp
  rcases h.acknowledge_cases hp with ⟨hlt, hack⟩ | ⟨hge, hack⟩
  · refine ⟨fun _ => Nat.ne_of_lt hlt, fun _ => ⟨_, _, hack, Or.inr ⟨rfl, rfl, rfl, ?_⟩⟩⟩
    exact fun value hvalue => h.presented hp hlt hvalue
  · constructor
    · rintro ⟨v, t, hvt, htake⟩ heq
      obtain ⟨rfl, rfl⟩ : s.topRequest = v ∧ _ = t := by
        rw [hack] at hvt
        exact Prod.mk.inj (Except.ok.inj hvt)
      rcases htake with ⟨-, habove, -, -⟩ | ⟨-, hirr, -, -⟩
      · omega
      · -- the request left the register it is said to have stayed in
        have hgone : (apicService (s.setWindow 0).acknowledged).requesting s.topRequest =
            false := by
          rw [State.requesting, lapic_apicService]
          refine (requesting_acknowledged s.topRequest).trans ?_
          simp [State.topRequest]
        rw [State.requesting, hirr, ← State.requesting, hreq] at hgone
        cases hgone
    · intro hne
      exact ⟨_, _, hack, Or.inl (takesAbove_acknowledged hreq (by omega))⟩

lemma PriorityPosted.honours_iff (h : PriorityPosted s) (op : PriorityOp) :
    HonoursPriority s op ↔ OffTaskPriority s op := by
  constructor
  · intro hop hopen hp
    exact (h.honours_acknowledge_iff hp).mp (hop.1 hopen hp)
  · intro hop
    refine ⟨fun hopen hp => (h.honours_acknowledge_iff hp).mpr (hop hopen hp), fun t ht => ?_⟩
    exact (h.step ht).notStranded

end Acknowledge

lemma priorityPosted_initial (gvm : List Ioctl → Ioctl → Bool) :
    PriorityPosted (State.initial gvm) := by
  have hzero : apicHighestPriority (fun _ => 0#16) = 0 := by decide
  refine ⟨⟨by simp [State.initial, Lapic.initial], ?_⟩, fun htaken => htaken.1 rfl, ?_,
    fun hp => ?_⟩
  · simp [NotStranded, State.processPriority, State.initial, Lapic.initial, hzero]
  · simp [State.pendingIntr, State.initial]
  · exact absurd hp (by simp [State.pendingLapicIntr, State.initial])

/-- **The local APIC honours the task priority**, in a run from power-on, exactly when no
acknowledge is made with the task priority on the class of the highest request. -/
theorem lapic_honours_priority_iff (gvm : List Ioctl → Ioctl → Bool) (ops : List PriorityOp) :
    Meets priorityStep HonoursPriority (State.initial gvm) ops ↔
      Meets priorityStep OffTaskPriority (State.initial gvm) ops :=
  Meets.congr_of_invariant (fun _ _ _ h hstep => h.step hstep) (fun _ op h => h.honours_iff op)
    (priorityPosted_initial gvm)

/-- A request of class 3 is posted, and the guest raises the task priority to 3 before the
window opens: the acknowledge takes the request all the same. -/
theorem lapic_takes_own_class :
    ¬ Meets priorityStep HonoursPriority (State.initial fun _ _ => true)
      [.apicSetIrq 0x31 0, .apicWriteTaskPriority 3, .irqWindowOpen] := by
  intro h
  obtain ⟨v, t, hack, htake⟩ := (((h.2 _ rfl).2 _ rfl).1).1 rfl (by decide)
  have hv := congrArg (Except.map Prod.fst) hack
  obtain rfl : (0x31 : BitVec 8) = v := Except.ok.inj (hv.symm.trans (by decide)).symm
  rcases htake with ⟨-, habove, -⟩ | ⟨hspurious, -⟩
  · exact absurd habove (by decide)
  · exact absurd hspurious (by decide)

end Svmm
