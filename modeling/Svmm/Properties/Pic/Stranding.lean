import Svmm.Properties.Pic.NestedMode

/-!
# Whether the PICs strand a request

A request waits for nothing when it is not masked and neither its irq nor an irq before it is
in service.  Every service that finds such a request ends with the event pending, so the pair
strands none while each controller is serviced whenever a request stops waiting, the service
looks far enough, and line 2 of the master stands for the slave.  A command that leaves fully
nested mode, a specific EOI that leaves `CurrentPriority` behind, or a lowered line 2 breaks
one of the three.
-/

namespace Svmm

open TransitionRun

/-! ## Requests that wait for nothing -/

namespace Pic

variable (p q : Pic) (k : ℕ)

/-- Neither the irq nor one before it is in service. -/
def unblocked : Prop := ∀ j ≤ k, p.inService j = false

/-- The irq is requested, not masked, and waits for nothing in service. -/
def ready : Prop := p.requested k = true ∧ p.masked k = false ∧ p.unblocked k

/-- The scan of a service reaches everything that waits for nothing: `CurrentPriority` is the
lowest level, or in service itself. -/
def looksFar : Prop := 7 ≤ p.currentPriority.toNat ∨ p.inService p.currentPriority.toNat = true

instance : Decidable (p.unblocked k) := inferInstanceAs (Decidable (∀ j ≤ k, _))
instance : Decidable (p.ready k) := inferInstanceAs (Decidable (_ ∧ _ ∧ _))

variable {p q k}

lemma looksFar_congr (h : p.looksFar) (hserv : q.interruptInService = p.interruptInService)
    (hpriority : q.currentPriority = p.currentPriority) : q.looksFar := by
  unfold looksFar inService at h ⊢
  rwa [hserv, hpriority]

/-- A service of a controller that looks far finds something when an irq is ready. -/
lemma exists_nextIrq_of_ready (hfar : p.looksFar) (hk : k < 8) (h : p.ready k) :
    ∃ irq, p.nextIrq = some irq := by
  obtain ⟨hreq, hmask, hunblocked⟩ := h
  refine exists_nextIrq ?_ hreq hmask (hunblocked k (Nat.le_refl k))
  rcases hfar with hlow | hserv
  · omega
  · by_contra hlt
    rw [hunblocked _ (by omega)] at hserv
    cases hserv

/-- After an acknowledge `CurrentPriority` is the irq that went into service. -/
lemma looksFar_serve {irq : ℕ} (hirq : irq < 256) : ((p.consume irq).serve irq).looksFar := by
  have hpriority : ((p.consume irq).serve irq).currentPriority.toNat = irq := by
    show (BitVec.ofNat 8 irq).toNat = irq
    rw [BitVec.toNat_ofNat]
    exact Nat.mod_eq_of_lt hirq
  unfold looksFar
  rw [hpriority]
  rcases Nat.lt_or_ge irq 7 with hlt | hge
  · refine Or.inr ?_
    show Word.has (Word.set p.interruptInService (irqBit irq)) (irqBit irq) = true
    rw [Word.has_set, irqBit_eq (by omega)]
    simp
    omega
  · exact Or.inl hge

lemma looksFar_endOfInterrupt (h : p.looksFar) : p.endOfInterrupt.looksFar := by
  unfold endOfInterrupt
  dsimp only
  split_ifs
  · exact h
  · exact Or.inl (Nat.le_refl 7)
  · exact h

/-- A specific EOI of another irq leaves `CurrentPriority` in service. -/
lemma looksFar_specificEndOfInterrupt {irq : ℕ} (h : p.looksFar) (hirq : irq < 8)
    (hne : p.currentPriority.toNat = irq → 7 ≤ p.currentPriority.toNat) :
    (p.specificEndOfInterrupt irq).looksFar := by
  rcases Nat.lt_or_ge p.currentPriority.toNat 7 with hlt | hge
  · refine Or.inr ?_
    have hserv := h.resolve_left (by omega)
    have hne' : ¬ irq = p.currentPriority.toNat := fun heq => by
      have := hne heq.symm
      omega
    show Word.has (Word.clear p.interruptInService (irqBit irq))
      (irqBit p.currentPriority.toNat) = true
    rw [Word.has_clear, irqBit_eq hirq, irqBit_eq (by omega)]
    unfold inService at hserv
    rw [irqBit_eq (by omega)] at hserv
    simp [hserv, hne']
  · exact Or.inl hge

end Pic

/-! ## The invariant -/

/-- What a service rests on. -/
structure AttentionFrame (s : State) : Prop extends NestedMode s where
  looksFar : ∀ i, (s.pic i).looksFar
  latched : s.pendingIntr = true → (s.pic 0).latchedIrq < 8
  line : (s.pic 0).pin 2 = (s.pic 0).requested 2

/-- A ready irq of the slave has line 2 of the master requested. -/
def SlaveAttended (s : State) : Prop :=
  (∃ k < 8, (s.pic 1).ready k) → (s.pic 0).requested 2 = true

/-- A ready irq of the master has the event pending. -/
def MasterAttended (s : State) : Prop := (∃ k < 8, (s.pic 0).ready k) → s.pendingIntr = true

/-- Nothing is stranded on either controller. -/
structure AttentionInvariant (s : State) : Prop extends AttentionFrame s where
  slaveAttended : SlaveAttended s
  masterAttended : MasterAttended s

section Invariant

variable {s t : State}

lemma AttentionFrame.of_keepsPic (h : AttentionFrame s) (hk : KeepsPic s t) :
    AttentionFrame t where
  toNestedMode := h.toNestedMode.of_pic_eq hk.pic
  looksFar := by
    rw [hk.pic]
    exact h.looksFar
  latched := by
    rw [hk.pic, hk.pendingIntr]
    exact h.latched
  line := by
    rw [hk.pic]
    exact h.line

lemma AttentionInvariant.of_keepsPic (h : AttentionInvariant s) (hk : KeepsPic s t) :
    AttentionInvariant t where
  toAttentionFrame := h.toAttentionFrame.of_keepsPic hk
  slaveAttended := by
    unfold SlaveAttended
    rw [hk.pic]
    exact h.slaveAttended
  masterAttended := by
    unfold MasterAttended
    rw [hk.pic, hk.pendingIntr]
    exact h.masterAttended

/-- A store to the master. -/
lemma AttentionFrame.setPic_zero (h : AttentionFrame s) {p : Pic}
    (hsetup : (s.pic 0).SameSetup p) (hfar : p.looksFar)
    (hirq : p.latchedIrq = (s.pic 0).latchedIrq)
    (hline : p.pin 2 = p.requested 2) : AttentionFrame (s.setPic 0 p) where
  toNestedMode := h.toNestedMode.setPic hsetup
  looksFar := by
    refine State.forall_pic (Q := Pic.looksFar) ?_ ?_
    · rwa [State.pic_setPic_self]
    · rw [State.pic_setPic_zero_one]
      exact h.looksFar 1
  latched := by
    rw [State.pic_setPic_self, hirq]
    exact h.latched
  line := by rwa [State.pic_setPic_self]

/-- A store to the slave. -/
lemma AttentionFrame.setPic_one (h : AttentionFrame s) {p : Pic}
    (hsetup : (s.pic 1).SameSetup p) (hfar : p.looksFar) : AttentionFrame (s.setPic 1 p) where
  toNestedMode := h.toNestedMode.setPic hsetup
  looksFar := by
    refine State.forall_pic (Q := Pic.looksFar) ?_ ?_
    · rw [State.pic_setPic_one_zero]
      exact h.looksFar 0
    · rwa [State.pic_setPic_self]
  latched := by
    rw [State.pic_setPic_one_zero]
    exact h.latched
  line := by
    rw [State.pic_setPic_one_zero]
    exact h.line

/-- A service of the master attends to it. -/
lemma AttentionFrame.service_zero (h : AttentionFrame s) (hslave : SlaveAttended s)
    (hservice : picService 0 s = .ok t) : AttentionInvariant t := by
  rcases h.toNestedMode.service_zero hservice with ⟨hnone, rfl⟩ | ⟨irq, hnext, rfl⟩
  · refine ⟨h, hslave, ?_⟩
    rintro ⟨k, hk, hready⟩
    obtain ⟨irq, hnext⟩ := Pic.exists_nextIrq_of_ready (h.looksFar 0) hk hready
    rw [hnone] at hnext
    cases hnext
  · have hzero : ((((s.setPic 0 ((s.pic 0).latch irq)).setWindow 1).setEvent
        eventPendingIntr).pic 0) = (s.pic 0).latch irq := by simp
    have hone : ((((s.setPic 0 ((s.pic 0).latch irq)).setWindow 1).setEvent
        eventPendingIntr).pic 1) = s.pic 1 := by simp
    have hmode : NestedMode (s.setPic 0 ((s.pic 0).latch irq)) :=
      h.toNestedMode.setPic ⟨rfl, rfl, rfl, rfl⟩
    refine ⟨⟨hmode.of_pic_eq rfl, ?_, fun _ => ?_, ?_⟩, ?_, fun _ => ?_⟩
    · refine State.forall_pic (Q := Pic.looksFar) ?_ ?_
      · rw [hzero]
        exact Pic.looksFar_congr (h.looksFar 0) rfl rfl
      · rw [hone]
        exact h.looksFar 1
    · rw [hzero, latchedIrq_latch (nextIrq_spec hnext).1]
      exact (nextIrq_spec hnext).1
    · rw [hzero]
      exact h.line
    · unfold SlaveAttended
      rw [hzero, hone]
      exact hslave
    · simp

/-- A service of the slave attends to it, and keeps the master attended to. -/
lemma AttentionFrame.service_one (h : AttentionFrame s) (hservice : picService 1 s = .ok t) :
    AttentionFrame t ∧ SlaveAttended t ∧ (MasterAttended s → MasterAttended t) := by
  rcases h.toNestedMode.service_one hservice with ⟨hnone, rfl⟩ | ⟨irq, hnext, hraise⟩
  · refine ⟨h, ?_, id⟩
    rintro ⟨k, hk, hready⟩
    obtain ⟨irq, hnext⟩ := Pic.exists_nextIrq_of_ready (h.looksFar 1) hk hready
    rw [hnone] at hnext
    cases hnext
  have hlatched : AttentionFrame (s.setPic 1 ((s.pic 1).latch irq)) :=
    h.setPic_one ⟨rfl, rfl, rfl, rfl⟩ (Pic.looksFar_congr (h.looksFar 1) rfl rfl)
  rcases hraise with ⟨hpin, rfl⟩ | ⟨-, hservice'⟩
  · refine ⟨hlatched, fun _ => ?_, fun hmaster => ?_⟩
    · rw [State.pic_setPic_one_zero, ← h.line]
      exact hpin
    · unfold MasterAttended
      rw [State.pic_setPic_one_zero]
      exact hmaster
  have htwo : ((s.pic 0).raiseLine 2).requested 2 = true := by
    rw [Pic.requested_raiseLine (by omega) (by omega)]
    simp
  have hraised : AttentionFrame ((s.setPic 1 ((s.pic 1).latch irq)).setPic 0
      ((s.pic 0).raiseLine 2)) := by
    refine hlatched.setPic_zero ?_ (Pic.looksFar_congr (h.looksFar 0) rfl rfl) ?_ ?_
    · rw [State.pic_setPic_one_zero]
      exact ⟨rfl, rfl, rfl, rfl⟩
    · rw [State.pic_setPic_one_zero]
      rfl
    · rw [htwo, pin_raiseLine_two]
  have hinv := hraised.service_zero (fun _ => by rwa [State.pic_setPic_self]) hservice'
  exact ⟨hinv.toAttentionFrame, hinv.slaveAttended, fun _ => hinv.masterAttended⟩

end Invariant

/-! ## Inputs -/

section Input

variable {s t : State}

/-- A store to the master that leaves line 2 alone, followed by a service. -/
lemma AttentionInvariant.serve_zero (h : AttentionInvariant s) {p : Pic}
    (hservice : picService 0 (s.setPic 0 p) = .ok t)
    (hsetup : (s.pic 0).SameSetup p) (hfar : p.looksFar)
    (hirq : p.latchedIrq = (s.pic 0).latchedIrq) (hpin : p.pin 2 = p.requested 2)
    (hrequest : (s.pic 0).requested 2 = true → p.requested 2 = true) : AttentionInvariant t := by
  refine (h.toAttentionFrame.setPic_zero hsetup hfar hirq hpin).service_zero ?_ hservice
  unfold SlaveAttended
  rw [State.pic_setPic_self, State.pic_setPic_zero_one]
  exact fun hready => hrequest (h.slaveAttended hready)

/-- A store to the slave, followed by a service. -/
lemma AttentionInvariant.serve_one (h : AttentionInvariant s) {p : Pic}
    (hservice : picService 1 (s.setPic 1 p) = .ok t)
    (hsetup : (s.pic 1).SameSetup p) (hfar : p.looksFar) : AttentionInvariant t := by
  obtain ⟨hframe, hslave, hmaster⟩ :=
    (h.toAttentionFrame.setPic_one hsetup hfar).service_one hservice
  refine ⟨hframe, hslave, hmaster ?_⟩
  unfold MasterAttended
  rw [State.pic_setPic_one_zero]
  exact h.masterAttended

/-- A store that leaves the lines alone, followed by a service. -/
lemma AttentionInvariant.serve (h : AttentionInvariant s) {i : Fin 2} {p : Pic}
    (hservice : picService i (s.setPic i p) = .ok t)
    (hsetup : (s.pic i).SameSetup p) (hfar : p.looksFar)
    (hirq : p.latchedIrq = (s.pic i).latchedIrq)
    (hpin : p.interruptPin = (s.pic i).interruptPin)
    (hrequest : p.interruptRequest = (s.pic i).interruptRequest) : AttentionInvariant t := by
  have hof : i = 0 ∨ i = 1 := by omega
  rcases hof with rfl | rfl
  · have hpin' : p.pin 2 = (s.pic 0).pin 2 := by
      unfold Pic.pin
      rw [hpin]
    have hrequest' : p.requested 2 = (s.pic 0).requested 2 := by
      unfold Pic.requested
      rw [hrequest]
    refine h.serve_zero hservice hsetup hfar hirq ?_ fun hreq => hrequest' ▸ hreq
    rw [hpin', hrequest', h.line]
  · exact h.serve_one hservice hsetup hfar

lemma AttentionInvariant.raiseLine (h : AttentionInvariant s) {irqNumber : BitVec 8}
    (hraise : picRaiseLine irqNumber s = .ok t) : AttentionInvariant t := by
  rw [picRaiseLine_eq] at hraise
  split_ifs at hraise with hraises
  · unfold State.raised at hraise
    have hlt : irqNumber.toNat % 8 < 8 := Nat.mod_lt _ (by decide)
    have hfar := Pic.looksFar_congr (q := (s.pic (picOf irqNumber)).raiseLine (irqNumber.toNat % 8))
      (h.looksFar (picOf irqNumber)) rfl rfl
    have hof : picOf irqNumber = 0 ∨ picOf irqNumber = 1 := by omega
    rcases hof with hof | hof
    · rw [hof] at hraise hfar
      refine h.serve_zero hraise ⟨rfl, rfl, rfl, rfl⟩ hfar rfl ?_ fun hreq => ?_
      · rw [Pic.requested_raiseLine hlt (by omega), ← h.line]
        exact Pic.pin_raiseLine hlt (by omega)
      · rw [Pic.requested_raiseLine hlt (by omega), hreq, Bool.true_or]
    · rw [hof] at hraise hfar
      exact h.serve_one hraise ⟨rfl, rfl, rfl, rfl⟩ hfar
  · simp only [Except.ok.injEq] at hraise
    rwa [← hraise]

/-- Lowering a line of the master strands nothing, unless it is the slave's. -/
lemma AttentionInvariant.lowerLine (h : AttentionInvariant s) {irqNumber : BitVec 8}
    (htwo : irqNumber = 2 → (s.pic 0).pin 2 = true → ¬ ∃ k < 8, (s.pic 1).ready k) :
    AttentionInvariant (picLowerLine irqNumber s) := by
  rcases picLowerLine_cases irqNumber s with heq | ⟨hnum, hpin, heq⟩
  · rwa [heq]
  · rw [heq]
    have hlt : irqNumber.toNat < 8 := by omega
    have hline : ((s.pic 0).lowerLine irqNumber.toNat).pin 2 =
        ((s.pic 0).lowerLine irqNumber.toNat).requested 2 := by
      rw [Pic.requested_lowerLine hlt (by omega), ← h.line]
      exact Pic.pin_lowerLine hlt (by omega)
    refine ⟨h.toAttentionFrame.setPic_zero ⟨rfl, rfl, rfl, rfl⟩
      (Pic.looksFar_congr (h.looksFar 0) rfl rfl) rfl hline, ?_, ?_⟩
    · unfold SlaveAttended
      rw [State.pic_setPic_self, State.pic_setPic_zero_one]
      intro hready
      have hreq := h.slaveAttended hready
      have hne : irqNumber.toNat ≠ 2 := by
        intro hn
        have heq2 : irqNumber = 2 := BitVec.eq_of_toNat_eq hn
        refine htwo heq2 ?_ hready
        rw [hn] at hpin
        exact hpin
      rw [Pic.requested_lowerLine hlt (by omega), hreq]
      simpa using hne
    · unfold MasterAttended
      rw [State.pic_setPic_self]
      rintro ⟨k, hk, hreq, hmask, hunblocked⟩
      rw [Pic.requested_lowerLine hlt hk, Bool.and_eq_true] at hreq
      exact h.masterAttended ⟨k, hk, hreq.1, hmask, hunblocked⟩

lemma AttentionInvariant.interruptMask (h : AttentionInvariant s) {i : Fin 2} {value : BitVec 32}
    (hwrite : picPortIoWriteHandler (dataPort i) value s = .ok t) : AttentionInvariant t := by
  rw [h.toNestedMode.interruptMask_eq] at hwrite
  exact h.serve hwrite ⟨rfl, rfl, rfl, rfl⟩ (Pic.looksFar_congr (h.looksFar i) rfl rfl) rfl rfl rfl

lemma AttentionInvariant.endOfInterrupt (h : AttentionInvariant s) {i : Fin 2}
    (hwrite : picPortIoWriteHandler (commandPort i) 0x20 s = .ok t) : AttentionInvariant t := by
  rw [endOfInterrupt_eq] at hwrite
  obtain ⟨hsetup, hrequest, hpin, -, hirq⟩ := endOfInterrupt_frame (s.pic i)
  exact h.serve hwrite hsetup (Pic.looksFar_endOfInterrupt (h.looksFar i)) hirq hpin hrequest

lemma AttentionInvariant.specificEndOfInterrupt (h : AttentionInvariant s) {i : Fin 2} {irq : ℕ}
    (hirq : irq < 8)
    (hne : (s.pic i).currentPriority.toNat = irq → 7 ≤ (s.pic i).currentPriority.toNat)
    (hwrite : picPortIoWriteHandler (commandPort i) (BitVec.ofNat 32 (0x60 + irq)) s = .ok t) :
    AttentionInvariant t := by
  rw [specificEndOfInterrupt_eq hirq] at hwrite
  exact h.serve hwrite ⟨rfl, rfl, rfl, rfl⟩
    (Pic.looksFar_specificEndOfInterrupt (h.looksFar i) hirq hne) rfl rfl rfl

lemma AttentionInvariant.picIAC (h : AttentionInvariant s) (hp : s.pendingIntr = true)
    {v : BitVec 8} (hiac : picIAC s = .ok (v, t)) : AttentionInvariant t := by
  have hlt := h.latched hp
  have hbyte : ∀ p : Pic, p.latchedIrq < 256 := fun p => (p.interruptNumber - p.currentOffset).isLt
  rcases picIAC_cases hiac with ⟨hirq, -, hservice⟩ | ⟨hirq, -, u, hone, hzero⟩
  · have hnone := pendingIntr_masterAcknowledged s
    have hrequest : (((s.pic 0).consume (s.pic 0).latchedIrq).serve
        (s.pic 0).latchedIrq).requested 2 = (s.pic 0).requested 2 :=
      Pic.requested_consume_of_ne hlt (by omega) hirq
    refine AttentionFrame.service_zero ⟨h.toNestedMode.of_setup (forall_controller ?_ ?_), ?_,
      fun hp' => ?_, ?_⟩ ?_ hservice
    · rw [masterAcknowledged_zero]
      exact ⟨rfl, rfl, rfl, rfl⟩
    · rw [masterAcknowledged_one]
      exact .refl _
    · refine State.forall_pic (Q := Pic.looksFar) ?_ ?_
      · rw [masterAcknowledged_zero]
        exact Pic.looksFar_serve (hbyte _)
      · rw [masterAcknowledged_one]
        exact h.looksFar 1
    · rw [hnone] at hp'
      cases hp'
    · rw [masterAcknowledged_zero, hrequest, ← h.line]
      rfl
    · unfold SlaveAttended
      rw [masterAcknowledged_zero, masterAcknowledged_one, hrequest]
      exact h.slaveAttended
  · have hnone := pendingIntr_slaveAcknowledged s
    have hframe : AttentionFrame s.slaveAcknowledged := by
      refine ⟨h.toNestedMode.of_setup (forall_controller ?_ ?_), ?_, fun hp' => ?_, ?_⟩
      · rw [slaveAcknowledged_zero]
        exact ⟨rfl, rfl, rfl, rfl⟩
      · rw [slaveAcknowledged_one]
        exact ⟨rfl, rfl, rfl, rfl⟩
      · refine State.forall_pic (Q := Pic.looksFar) ?_ ?_
        · rw [slaveAcknowledged_zero]
          exact Pic.looksFar_congr (h.looksFar 0) rfl rfl
        · rw [slaveAcknowledged_one]
          exact Pic.looksFar_serve (hbyte _)
      · rw [hnone] at hp'
        cases hp'
      · rw [requested_slaveAcknowledged h.edge, slaveAcknowledged_zero]
        show Word.has (Word.clear (s.pic 0).interruptPin (irqBit 2)) (irqBit 2) = false
        simp
    obtain ⟨hframe', hslave, -⟩ := hframe.service_one hone
    exact hframe'.service_zero hslave hzero

end Input

/-! ## Runs -/

/-- Nothing is stranded: the event is pending while the master has a ready irq, and while the
slave has one that line 2 of the master can pass on. -/
def Attended (s : State) : Prop :=
  ((∃ k < 8, (s.pic 0).ready k) → s.pendingIntr = true) ∧
    ((∃ k < 8, (s.pic 1).ready k) → (s.pic 0).masked 2 = false → (s.pic 0).unblocked 2 →
      s.pendingIntr = true)

/-- The inputs after a complete set-up: raises, lowers, acknowledges while the event is pending,
mask writes, and of OCW2 the non-specific EOI, the specific EOIs and the two commands for
rotation in automatic EOI mode. -/
def OperationInput (s : State) : PicOp → Prop
  | .picPortIoWrite address value =>
      (∃ i, address = dataPort i) ∨
        ((∃ i, address = commandPort i) ∧
          (value = 0x20 ∨ value = 0x00 ∨ value = 0x80 ∨
            ∃ irq < 8, value = BitVec.ofNat 32 (0x60 + irq)))
  | .picIAC => s.pendingIntr = true
  | _ => True

/-- An input that strands nothing.
- OCW2 is neither of the two rotation commands.
- A specific EOI is not for the irq `CurrentPriority` stands at, unless that is the lowest.
- `PicLowerIrq(2)` does not take line 2 down while the slave has a ready irq. -/
def AttentionStep (s : State) : PicOp → Prop
  | .picLowerIrq irqNumber =>
      irqNumber = 2 → (s.pic 0).pin 2 = true → ¬ ∃ k < 8, (s.pic 1).ready k
  | .picPortIoWrite address value =>
      ∀ i, address = commandPort i →
        value ≠ 0x00 ∧ value ≠ 0x80 ∧
          ∀ irq < 8, value = BitVec.ofNat 32 (0x60 + irq) →
            (s.pic i).currentPriority.toNat = irq → 7 ≤ (s.pic i).currentPriority.toNat
  | _ => True

instance (s : State) : Decidable (Attended s) := inferInstanceAs (Decidable (_ ∧ _))

instance (s : State) : ∀ op, Decidable (OperationInput s op)
  | .picPortIoWrite address value =>
      inferInstanceAs (Decidable ((∃ i, address = dataPort i) ∨
        ((∃ i, address = commandPort i) ∧ (value = 0x20 ∨ value = 0x00 ∨ value = 0x80 ∨
          ∃ irq < 8, value = BitVec.ofNat 32 (0x60 + irq)))))
  | .picIAC => inferInstanceAs (Decidable (_ = _))
  | .picRaiseIrq _ | .picLowerIrq _ => isTrue trivial

instance (s : State) : ∀ op, Decidable (AttentionStep s op)
  | .picLowerIrq _ => inferInstanceAs (Decidable (_ → _ → _))
  | .picPortIoWrite address value =>
      inferInstanceAs (Decidable (∀ i, address = commandPort i → value ≠ 0x00 ∧ value ≠ 0x80 ∧
        ∀ irq < 8, value = BitVec.ofNat 32 (0x60 + irq) →
          (s.pic i).currentPriority.toNat = irq → 7 ≤ (s.pic i).currentPriority.toNat))
  | .picRaiseIrq _ | .picIAC => isTrue trivial

section Run

variable {s t : State}

lemma AttentionInvariant.step {op : PicOp} (h : AttentionInvariant s)
    (hscope : OperationInput s op) (hop : AttentionStep s op) (hstep : picStep s op = .ok t) :
    AttentionInvariant t := by
  cases op with
  | picRaiseIrq irqNumber =>
      obtain ⟨u, hu, hline⟩ := exists_of_picRaiseIrq hstep
      exact (h.of_keepsPic (ioApicClosed_keepsPic.forward hu)).raiseLine hline
  | picLowerIrq irqNumber =>
      simp only [picStep, Except.ok.injEq] at hstep
      obtain ⟨u, hu, hline⟩ := exists_picLowerIrq irqNumber s
      have hkeeps := ioApicClosed_keepsPic.lowerForward hu
      rw [← hstep, hline]
      refine (h.of_keepsPic hkeeps).lowerLine ?_
      rw [hkeeps.pic]
      exact hop
  | picPortIoWrite address value =>
      rcases hscope with ⟨i, rfl⟩ | ⟨⟨i, rfl⟩, hvalue⟩
      · exact h.interruptMask hstep
      · obtain ⟨hzero, hrotate, hspecific⟩ := hop i rfl
        rcases hvalue with rfl | rfl | rfl | ⟨irq, hirq, rfl⟩
        · exact h.endOfInterrupt hstep
        · exact absurd rfl hzero
        · exact absurd rfl hrotate
        · exact h.specificEndOfInterrupt hirq (hspecific irq hirq rfl) hstep
  | picIAC =>
      obtain ⟨v, hiac⟩ := exists_of_picStep_iac hstep
      exact h.picIAC hscope hiac

lemma AttentionInvariant.attended (h : AttentionInvariant s) : Attended s := by
  refine ⟨h.masterAttended, fun hready hmask hunblocked => ?_⟩
  exact h.masterAttended ⟨2, by decide, h.slaveAttended hready, hmask, hunblocked⟩

lemma Initialised.attentionInvariant (h : Initialised s) : AttentionInvariant s := by
  have hnone : ∀ i k, (s.pic i).requested k = false := by
    intro i k
    unfold Pic.requested
    rw [h.requests i]
    exact Word.has_zero _
  refine ⟨⟨h.toNestedMode, fun i => Or.inl ?_, fun hp => ?_, ?_⟩, ?_, ?_⟩
  · rw [h.priority i]
    decide
  · rw [h.idle] at hp
    cases hp
  · rw [h.line, hnone]
  · rintro ⟨k, -, hreq, -⟩
    rw [hnone] at hreq
    cases hreq
  · rintro ⟨k, -, hreq, -⟩
    rw [hnone] at hreq
    cases hreq

end Run

/-- **The PICs strand no request**, on runs whose commands leave neither fully nested mode nor
`CurrentPriority` behind.  In every state such a run reaches from the set-up of both
controllers, a request that waits for nothing has the event pending. -/
theorem pic_never_strands (s : State) (hs : Initialised s) (ops : List PicOp)
    (hscope : Meets picStep OperationInput s ops) (hops : Meets picStep AttentionStep s ops) :
    ∀ t, run picStep s ops = .ok t → Attended t := by
  intro t hrun
  refine (run_invariant (I := AttentionInvariant)
    (P := fun s op => OperationInput s op ∧ AttentionStep s op) ?_ hs.attentionInvariant
    (hscope.and hops) hrun).attended
  exact fun _ _ _ h hop hstep => h.step hop.1 hop.2 hstep

/-- Irq 3 over a slave interrupt, the slave's ended with a non-specific EOI; then a specific EOI
of an irq that is not in service, with irq 1 requested. -/
def interruptsNested : List PicOp :=
  [.picRaiseIrq 9, .picIAC, .picRaiseIrq 3, .picIAC, .picPortIoWrite 0xA0 0x20, .picRaiseIrq 1,
    .picPortIoWrite 0x20 0x67]

theorem pic_never_strands_nested :
    ∃ s, run picStep (State.initial fun _ _ => true) picPairSetup = .ok s ∧
      ∃ t, run picStep s interruptsNested = .ok t ∧ Attended t := by
  obtain ⟨s, hrun, hs, hscope, hops, hends⟩ :=
    exists_of_ends (fun s => Initialised s ∧ Meets picStep OperationInput s interruptsNested ∧
      Meets picStep AttentionStep s interruptsNested ∧
      ends (fun _ => True) (run picStep s interruptsNested) = true)
      (r := run picStep (State.initial fun _ _ => true) picPairSetup) (by decide)
  exact ⟨s, hrun, exists_of_completes hends (pic_never_strands s hs _ hscope hops)⟩

/-- The rotation command 0x80 takes the master out of fully nested mode for good: irq 3 is
requested and nothing happens. -/
theorem pic_request_stranded :
    ∃ t, run picStep (State.initial fun _ _ => true)
        (picPairSetup ++ [.picPortIoWrite 0x20 0x80, .picRaiseIrq 3]) = .ok t ∧ ¬ Attended t :=
  exists_of_ends (fun t => ¬ Attended t) (by decide)

end Svmm
