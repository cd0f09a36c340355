import Svmm.Properties.Pic.NestedMode

/-!
# Whether the PICs keep the nesting order

In fully nested mode `CurrentPriority` stands for everything in service: the first irq in
service, or 7 when there is none.  While that is so, only irqs before all those in service are
latched, and an EOI retires the first.  But an EOI puts 7 back whatever else is in service, and
an acknowledge of irq 2 puts nothing into service on the master, where the second EOI of the
pair then finds something else.
-/

namespace Svmm

open TransitionRun

/-! ## The order on one controller -/

namespace Pic

variable (p q : Pic) (irq : ℕ)

/-- The irq comes before all those in service. -/
def ahead : Prop := ∀ k < 8, p.inService k = true → irq < k

/-- The latched irq is one of the controller's and comes before all those in service. -/
def latchAhead : Prop := p.latchedIrq < 8 ∧ p.ahead p.latchedIrq

/-- `CurrentPriority` is the first irq in service, or 7 when none is. -/
def Ordered : Prop :=
  ((∀ k < 8, p.inService k = false) ∧ p.currentPriority = 7) ∨
    (p.currentPriority.toNat < 8 ∧ p.inService p.currentPriority.toNat = true ∧
      ∀ k < 8, p.inService k = true → p.currentPriority.toNat ≤ k)

/-- At most one irq is in service. -/
def servesOne : Prop :=
  ∀ j < 8, ∀ k < 8, p.inService j = true → p.inService k = true → j = k

/-- From `p` to `q` the first irq in service was retired, and nothing else changed there. -/
def RetiresFirst : Prop :=
  ∀ k < 8, q.inService k = true ↔ p.inService k = true ∧ ∃ j < k, p.inService j = true

instance : Decidable (p.ahead irq) := inferInstanceAs (Decidable (∀ k < 8, _ → _))
instance : Decidable p.latchAhead := inferInstanceAs (Decidable (_ ∧ _))
instance : Decidable p.servesOne := inferInstanceAs (Decidable (∀ j < 8, ∀ k < 8, _ → _ → _))

variable {p q irq}

lemma Ordered.congr (h : p.Ordered) (hserv : q.interruptInService = p.interruptInService)
    (hpriority : q.currentPriority = p.currentPriority) : q.Ordered := by
  unfold Ordered inService at h ⊢
  rwa [hserv, hpriority]

lemma latchAhead_congr (h : p.latchAhead) (hserv : q.interruptInService = p.interruptInService)
    (hnumber : q.interruptNumber = p.interruptNumber)
    (hoffset : q.currentOffset = p.currentOffset) : q.latchAhead := by
  unfold latchAhead ahead latchedIrq inService at h ⊢
  rwa [hserv, hnumber, hoffset]

/-- What the scan of a controller in order finds comes before all those in service. -/
lemma latchAhead_latch (h : p.Ordered) (hnext : p.nextIrq = some irq) :
    (p.latch irq).latchAhead := by
  obtain ⟨hlt, hle, -, -, hserv⟩ := nextIrq_spec hnext
  unfold latchAhead
  rw [latchedIrq_latch hlt]
  refine ⟨hlt, fun k hk hin => ?_⟩
  have hin' : p.inService k = true := hin
  rcases h with ⟨hnone, -⟩ | ⟨-, -, hfirst⟩
  · rw [hnone k hk] at hin'
    cases hin'
  · have hle' := hfirst k hk hin'
    have hne : irq ≠ k := by
      rintro rfl
      rw [hserv] at hin'
      cases hin'
    omega

lemma inService_serve {k : ℕ} (hirq : irq < 8) (hk : k < 8) :
    ((p.consume irq).serve irq).inService k = (p.inService k || decide (irq = k)) := by
  show Word.has (Word.set p.interruptInService (irqBit irq)) (irqBit k) = _
  rw [Word.has_set, irqBit_eq hirq, irqBit_eq hk]
  simp [hk, inService, irqBit_eq hk]

/-- An irq that comes before all those in service goes into service in order. -/
lemma ordered_serve (hirq : irq < 8) (h : p.ahead irq) : ((p.consume irq).serve irq).Ordered := by
  have hpriority : ((p.consume irq).serve irq).currentPriority.toNat = irq := by
    show (BitVec.ofNat 8 irq).toNat = irq
    rw [BitVec.toNat_ofNat]
    exact Nat.mod_eq_of_lt (by omega)
  refine Or.inr ⟨by omega, ?_, fun k hk hin => ?_⟩
  · rw [hpriority, inService_serve hirq hirq]
    simp
  · rw [inService_serve hirq hk, Bool.or_eq_true, decide_eq_true_eq] at hin
    rw [hpriority]
    rcases hin with hin | rfl
    · exact (h k hk hin).le
    · exact Nat.le_refl _

lemma inService_clear {k : ℕ} (hirq : irq < 8) (hk : k < 8)
    (hserv : q.interruptInService = Word.clear p.interruptInService (irqBit irq)) :
    q.inService k = (p.inService k && !decide (irq = k)) := by
  unfold inService
  rw [hserv, Word.has_clear, irqBit_eq hirq, irqBit_eq hk]

/-- The non-specific EOI of a controller in order. -/
lemma endOfInterrupt_cases (h : p.Ordered) :
    ((∀ k < 8, p.inService k = false) ∧ p.endOfInterrupt = p) ∨
      (p.currentPriority.toNat < 8 ∧ p.inService p.currentPriority.toNat = true ∧
        (∀ k < 8, p.inService k = true → p.currentPriority.toNat ≤ k) ∧
        p.endOfInterrupt = { p with
          interruptInService := Word.clear p.interruptInService (irqBit p.currentPriority.toNat)
          currentPriority := 7 }) := by
  unfold endOfInterrupt
  dsimp only
  rcases h with ⟨hnone, hpriority⟩ | ⟨hlt, hserv, hfirst⟩
  · refine Or.inl ⟨hnone, ?_⟩
    have hle := Scan.lastUpTo_le p.inService p.currentPriority.toNat
    have hseven : p.currentPriority.toNat = 7 := by
      rw [hpriority]
      rfl
    rw [if_neg (by omega), hnone _ (by omega)]
    rfl
  · refine Or.inr ⟨hlt, hserv, hfirst, ?_⟩
    have hlast : Scan.lastUpTo p.inService p.currentPriority.toNat = p.currentPriority.toNat :=
      Nat.le_antisymm (Scan.lastUpTo_le _ _) (Scan.le_lastUpTo hserv (Nat.le_refl _))
    rw [if_neg (by omega), hlast, if_pos hserv]

/-- The EOI of a controller in order retires the first irq in service. -/
lemma Ordered.retiresFirst (h : p.Ordered) : p.RetiresFirst p.endOfInterrupt := by
  intro k hk
  rcases endOfInterrupt_cases h with ⟨hnone, heq⟩ | ⟨hlt, hserv, hfirst, heq⟩
  · rw [heq, hnone k hk]
    simp
  · rw [heq, inService_clear hlt hk rfl, Bool.and_eq_true]
    refine and_congr_right fun hin => ?_
    have hle := hfirst k hk hin
    constructor
    · intro hne
      have hne' : ¬ p.currentPriority.toNat = k := by simpa using hne
      exact ⟨_, by omega, hserv⟩
    · rintro ⟨j, hj, hjin⟩
      have hle' := hfirst j (by omega) hjin
      have hne : ¬ p.currentPriority.toNat = k := by omega
      simp [hne]

/-- The EOI keeps the order when nothing else was in service. -/
lemma Ordered.endOfInterrupt (h : p.Ordered) (hone : p.servesOne) : p.endOfInterrupt.Ordered := by
  rcases endOfInterrupt_cases h with ⟨hnone, heq⟩ | ⟨hlt, hserv, hfirst, heq⟩
  · rwa [heq]
  · rw [heq]
    refine Or.inl ⟨fun k hk => ?_, rfl⟩
    rw [inService_clear hlt hk rfl]
    by_contra hin
    rw [Bool.not_eq_false, Bool.and_eq_true] at hin
    have heq' := hone _ hlt k hk hserv hin.1
    simp [heq'] at hin

lemma retiresFirst_congr {r : Pic} (h : p.RetiresFirst q)
    (hserv : r.interruptInService = q.interruptInService) : p.RetiresFirst r := by
  intro k hk
  unfold inService
  rw [hserv]
  exact h k hk

/-- An EOI leaves the latched irq before all those in service. -/
lemma latchAhead_endOfInterrupt (h : p.latchAhead) : p.endOfInterrupt.latchAhead := by
  unfold endOfInterrupt
  dsimp only
  split_ifs
  · exact h
  · obtain ⟨hlt, hahead⟩ := h
    refine ⟨hlt, fun k hk hin => hahead k hk ?_⟩
    have hin' : Word.has (Word.clear p.interruptInService
        (irqBit (Scan.lastUpTo p.inService p.currentPriority.toNat))) (irqBit k) = true := hin
    rw [Word.has_clear, Bool.and_eq_true] at hin'
    exact hin'.1
  · exact h

end Pic

/-! ## The invariant -/

/-- Both controllers are in order; the latch of a pending event, and the latch of the slave
while the master is to acknowledge line 2, come before all those in service. -/
structure PriorityInvariant (s : State) : Prop extends NestedMode s where
  ordered : ∀ i, (s.pic i).Ordered
  latched : s.pendingIntr = true → (s.pic 0).latchAhead
  cascaded : (s.pic 0).requested 2 = true ∨ (s.pendingIntr = true ∧ (s.pic 0).latchedIrq = 2) →
    (s.pic 1).latchAhead

section Invariant

variable {s t : State}

lemma PriorityInvariant.of_keepsPic (h : PriorityInvariant s) (hk : KeepsPic s t) :
    PriorityInvariant t where
  toNestedMode := h.toNestedMode.of_pic_eq hk.pic
  ordered := by
    rw [hk.pic]
    exact h.ordered
  latched := by
    rw [hk.pic, hk.pendingIntr]
    exact h.latched
  cascaded := by
    rw [hk.pic, hk.pendingIntr]
    exact h.cascaded

/-- A store to the master. -/
lemma PriorityInvariant.setPic_zero (h : PriorityInvariant s) {p : Pic}
    (hsetup : (s.pic 0).SameSetup p) (hordered : p.Ordered)
    (hlatched : s.pendingIntr = true → p.latchAhead)
    (hcascaded : p.requested 2 = true ∨ (s.pendingIntr = true ∧ p.latchedIrq = 2) →
      (s.pic 1).latchAhead) : PriorityInvariant (s.setPic 0 p) where
  toNestedMode := h.toNestedMode.setPic hsetup
  ordered := by
    refine State.forall_pic (Q := Pic.Ordered) ?_ ?_
    · rwa [State.pic_setPic_self]
    · rw [State.pic_setPic_zero_one]
      exact h.ordered 1
  latched := by
    rw [State.pic_setPic_self]
    exact hlatched
  cascaded := by
    rw [State.pic_setPic_self, State.pic_setPic_zero_one]
    exact hcascaded

/-- A store to the slave. -/
lemma PriorityInvariant.setPic_one (h : PriorityInvariant s) {p : Pic}
    (hsetup : (s.pic 1).SameSetup p) (hordered : p.Ordered)
    (hcascaded : (s.pic 0).requested 2 = true ∨
      (s.pendingIntr = true ∧ (s.pic 0).latchedIrq = 2) → p.latchAhead) :
    PriorityInvariant (s.setPic 1 p) where
  toNestedMode := h.toNestedMode.setPic hsetup
  ordered := by
    refine State.forall_pic (Q := Pic.Ordered) ?_ ?_
    · rw [State.pic_setPic_one_zero]
      exact h.ordered 0
    · rwa [State.pic_setPic_self]
  latched := by
    rw [State.pic_setPic_one_zero]
    exact h.latched
  cascaded := by
    rw [State.pic_setPic_one_zero, State.pic_setPic_self]
    exact hcascaded

/-- A service of the master keeps the order: it latches before all those in service. -/
lemma PriorityInvariant.service_zero (h : PriorityInvariant s) (hservice : picService 0 s = .ok t) :
    PriorityInvariant t := by
  rcases h.toNestedMode.service_zero hservice with ⟨-, rfl⟩ | ⟨irq, hnext, rfl⟩
  · exact h
  have hzero : ((((s.setPic 0 ((s.pic 0).latch irq)).setWindow 1).setEvent
      eventPendingIntr).pic 0) =
      (s.pic 0).latch irq := by simp
  have hone : ((((s.setPic 0 ((s.pic 0).latch irq)).setWindow 1).setEvent eventPendingIntr).pic 1) =
      s.pic 1 := by simp
  have hlatch := Pic.latchAhead_latch (h.ordered 0) hnext
  have hmode : NestedMode (s.setPic 0 ((s.pic 0).latch irq)) :=
    h.toNestedMode.setPic ⟨rfl, rfl, rfl, rfl⟩
  refine ⟨hmode.of_pic_eq rfl, ?_, fun _ => ?_, ?_⟩
  · refine State.forall_pic (Q := Pic.Ordered) ?_ ?_
    · rw [hzero]
      exact (h.ordered 0).congr rfl rfl
    · rw [hone]
      exact h.ordered 1
  · rwa [hzero]
  · rw [hzero, hone]
    rintro (hreq | ⟨-, hirq⟩)
    · exact h.cascaded (Or.inl hreq)
    · obtain ⟨hlt, -, hreq, -, -⟩ := nextIrq_spec hnext
      rw [latchedIrq_latch hlt] at hirq
      rw [hirq] at hreq
      exact h.cascaded (Or.inl hreq)

/-- A service of the slave keeps the order. -/
lemma PriorityInvariant.service_one (h : PriorityInvariant s) (hservice : picService 1 s = .ok t) :
    PriorityInvariant t := by
  rcases h.toNestedMode.service_one hservice with ⟨-, rfl⟩ | ⟨irq, hnext, hraise⟩
  · exact h
  have hlatch := Pic.latchAhead_latch (h.ordered 1) hnext
  have hlatched : PriorityInvariant (s.setPic 1 ((s.pic 1).latch irq)) :=
    h.setPic_one ⟨rfl, rfl, rfl, rfl⟩ ((h.ordered 1).congr rfl rfl) fun _ => hlatch
  rcases hraise with ⟨-, rfl⟩ | ⟨-, hservice'⟩
  · exact hlatched
  refine PriorityInvariant.service_zero ?_ hservice'
  refine hlatched.setPic_zero ?_ ?_ ?_ fun _ => ?_
  · rw [State.pic_setPic_one_zero]
    exact ⟨rfl, rfl, rfl, rfl⟩
  · exact (h.ordered 0).congr rfl rfl
  · exact fun hp => Pic.latchAhead_congr (h.latched hp) rfl rfl rfl
  · rwa [State.pic_setPic_self]

lemma PriorityInvariant.service (h : PriorityInvariant s) {i : Fin 2}
    (hservice : picService i s = .ok t) : PriorityInvariant t := by
  have hof : i = 0 ∨ i = 1 := by omega
  rcases hof with rfl | rfl
  · exact h.service_zero hservice
  · exact h.service_one hservice

/-- No service changes what is in service. -/
lemma NestedMode.interruptInService_service (h : NestedMode s) {i : Fin 2}
    (hservice : picService i s = .ok t) (j : Fin 2) :
    (t.pic j).interruptInService = (s.pic j).interruptInService := by
  have hzero : ∀ {u v : State}, NestedMode u → picService 0 u = .ok v → ∀ j,
      (v.pic j).interruptInService = (u.pic j).interruptInService := by
    intro u v hu huv j
    rcases hu.service_zero huv with ⟨-, rfl⟩ | ⟨irq, -, rfl⟩
    · rfl
    · have hof : j = 0 ∨ j = 1 := by omega
      rcases hof with rfl | rfl
      · rw [State.pic_setEvent, State.pic_setWindow, State.pic_setPic_self]
        rfl
      · rw [State.pic_setEvent, State.pic_setWindow, State.pic_setPic_zero_one]
  have hof : i = 0 ∨ i = 1 := by omega
  rcases hof with rfl | rfl
  · exact hzero h hservice j
  rcases h.service_one hservice with ⟨-, rfl⟩ | ⟨irq, -, hraise⟩
  · rfl
  have hlatched : ∀ k, ((s.setPic 1 ((s.pic 1).latch irq)).pic k).interruptInService =
      (s.pic k).interruptInService := by
    intro k
    rw [State.pic_setPic]
    split_ifs with hk
    · rw [hk]
      rfl
    · rfl
  rcases hraise with ⟨-, rfl⟩ | ⟨-, hservice'⟩
  · exact hlatched j
  rw [hzero ?_ hservice' j, State.pic_setPic]
  · split_ifs with hj
    · rw [hj]
      rfl
    · exact hlatched j
  · refine (h.setPic (p := (s.pic 1).latch irq) ⟨rfl, rfl, rfl, rfl⟩).setPic ?_
    rw [State.pic_setPic_one_zero]
    exact ⟨rfl, rfl, rfl, rfl⟩

end Invariant

/-! ## Inputs -/

section Input

variable {s t : State}

lemma PriorityInvariant.raiseLine (h : PriorityInvariant s) {irqNumber : BitVec 8}
    (hline : irqNumber = 2 → (s.pic 0).pin 2 = false → (s.pic 1).latchAhead)
    (hraise : picRaiseLine irqNumber s = .ok t) : PriorityInvariant t := by
  rw [picRaiseLine_eq] at hraise
  split_ifs at hraise with hraises
  · refine PriorityInvariant.service ?_ hraise
    unfold State.raised
    obtain ⟨-, hpin⟩ := hraises
    have hlt : irqNumber.toNat % 8 < 8 := Nat.mod_lt _ (by decide)
    rcases Nat.lt_or_ge 7 irqNumber.toNat with hnum | hnum
    · have hof : picOf irqNumber = 1 := by simp [picOf, hnum]
      rw [hof]
      exact h.setPic_one ⟨rfl, rfl, rfl, rfl⟩ ((h.ordered 1).congr rfl rfl) fun hc =>
        Pic.latchAhead_congr (h.cascaded hc) rfl rfl rfl
    · have hof : picOf irqNumber = 0 := by simp [picOf, Nat.not_lt.mpr hnum]
      have hmod : irqNumber.toNat % 8 = irqNumber.toNat := Nat.mod_eq_of_lt (by omega)
      rw [hof, hmod] at hpin ⊢
      refine h.setPic_zero ⟨rfl, rfl, rfl, rfl⟩ ((h.ordered 0).congr rfl rfl)
        (fun hp => Pic.latchAhead_congr (h.latched hp) rfl rfl rfl) fun hc => ?_
      by_cases htwo : irqNumber = 2
      · refine hline htwo ?_
        rw [htwo] at hpin
        exact hpin
      · have hne : irqNumber.toNat ≠ 2 := fun heq => htwo (BitVec.eq_of_toNat_eq heq)
        refine h.cascaded (hc.imp_left fun hreq => ?_)
        rw [Pic.requested_raiseLine (by omega) (by omega)] at hreq
        simpa [hne] using hreq
  · simp only [Except.ok.injEq] at hraise
    rwa [← hraise]

lemma PriorityInvariant.lowerLine (h : PriorityInvariant s) (irqNumber : BitVec 8) :
    PriorityInvariant (picLowerLine irqNumber s) := by
  rcases picLowerLine_cases irqNumber s with heq | ⟨hnum, -, heq⟩
  · rwa [heq]
  · rw [heq]
    refine h.setPic_zero ⟨rfl, rfl, rfl, rfl⟩ ((h.ordered 0).congr rfl rfl)
      (fun hp => Pic.latchAhead_congr (h.latched hp) rfl rfl rfl) fun hc => ?_
    refine h.cascaded (hc.imp_left fun hreq => ?_)
    rw [Pic.requested_lowerLine (by omega) (by omega), Bool.and_eq_true] at hreq
    exact hreq.1

/-- Stores that leave the order, the latch and line 2 alone. -/
lemma PriorityInvariant.setPic (h : PriorityInvariant s) {i : Fin 2} {p : Pic}
    (hsetup : (s.pic i).SameSetup p) (hordered : p.Ordered)
    (hlatch : (s.pic i).latchAhead → p.latchAhead)
    (hrequest : p.interruptRequest = (s.pic i).interruptRequest)
    (hirq : p.latchedIrq = (s.pic i).latchedIrq) : PriorityInvariant (s.setPic i p) := by
  have hof : i = 0 ∨ i = 1 := by omega
  rcases hof with rfl | rfl
  · refine h.setPic_zero hsetup hordered (fun hp => hlatch (h.latched hp)) fun hc => ?_
    unfold Pic.requested at hc
    rw [hrequest, hirq] at hc
    exact h.cascaded hc
  · exact h.setPic_one hsetup hordered fun hc => hlatch (h.cascaded hc)

lemma PriorityInvariant.interruptMask (h : PriorityInvariant s) {i : Fin 2} {value : BitVec 32}
    (hwrite : picPortIoWriteHandler (dataPort i) value s = .ok t) : PriorityInvariant t := by
  rw [h.toNestedMode.interruptMask_eq] at hwrite
  refine PriorityInvariant.service ?_ hwrite
  exact h.setPic ⟨rfl, rfl, rfl, rfl⟩ ((h.ordered i).congr rfl rfl)
    (fun hl => Pic.latchAhead_congr hl rfl rfl rfl) rfl rfl

lemma PriorityInvariant.endOfInterrupt (h : PriorityInvariant s) {i : Fin 2}
    (hone : (s.pic i).servesOne)
    (hwrite : picPortIoWriteHandler (commandPort i) 0x20 s = .ok t) : PriorityInvariant t := by
  rw [endOfInterrupt_eq] at hwrite
  obtain ⟨hsetup, hrequest, -, -, hirq⟩ := endOfInterrupt_frame (s.pic i)
  exact (h.setPic hsetup ((h.ordered i).endOfInterrupt hone) Pic.latchAhead_endOfInterrupt hrequest
    hirq).service hwrite

/-- What an EOI leaves in service. -/
lemma NestedMode.retiresFirst_endOfInterrupt (h : NestedMode s) {i : Fin 2}
    (hordered : (s.pic i).Ordered)
    (hwrite : picPortIoWriteHandler (commandPort i) 0x20 s = .ok t) :
    (s.pic i).RetiresFirst (t.pic i) ∧
      ∀ j ≠ i, (t.pic j).interruptInService = (s.pic j).interruptInService := by
  rw [endOfInterrupt_eq] at hwrite
  have hmode : NestedMode (s.setPic i (s.pic i).endOfInterrupt) :=
    h.setPic (endOfInterrupt_frame (s.pic i)).1
  constructor
  · refine Pic.retiresFirst_congr hordered.retiresFirst ?_
    rw [hmode.interruptInService_service hwrite, State.pic_setPic_self]
  · intro j hj
    rw [hmode.interruptInService_service hwrite, State.pic_setPic, if_neg hj]

/-- An acknowledge of the latched irq keeps the order. -/
lemma PriorityInvariant.picIAC (h : PriorityInvariant s) (hp : s.pendingIntr = true)
    {v : BitVec 8} (hiac : picIAC s = .ok (v, t)) : PriorityInvariant t := by
  obtain ⟨hlt, hahead⟩ := h.latched hp
  rcases picIAC_cases hiac with ⟨-, -, hservice⟩ | ⟨hirq, -, u, hone, hzero⟩
  · refine PriorityInvariant.service ?_ hservice
    have hnone := pendingIntr_masterAcknowledged s
    refine ⟨h.toNestedMode.of_setup (forall_controller ?_ ?_), ?_, fun hp' => ?_, ?_⟩
    · rw [masterAcknowledged_zero]
      exact ⟨rfl, rfl, rfl, rfl⟩
    · rw [masterAcknowledged_one]
      exact .refl _
    · refine State.forall_pic (Q := Pic.Ordered) ?_ ?_
      · rw [masterAcknowledged_zero]
        exact Pic.ordered_serve hlt hahead
      · rw [masterAcknowledged_one]
        exact h.ordered 1
    · rw [hnone] at hp'
      cases hp'
    · rw [masterAcknowledged_zero, masterAcknowledged_one, hnone]
      rintro (hreq | ⟨hp', -⟩)
      · exact h.cascaded (Or.inl (Pic.requested_of_consume hreq))
      · cases hp'
  · refine PriorityInvariant.service (PriorityInvariant.service ?_ hone) hzero
    have hnone := pendingIntr_slaveAcknowledged s
    obtain ⟨hlt', hahead'⟩ := h.cascaded (Or.inr ⟨hp, hirq⟩)
    refine ⟨h.toNestedMode.of_setup (forall_controller ?_ ?_), ?_, fun hp' => ?_, ?_⟩
    · rw [slaveAcknowledged_zero]
      exact ⟨rfl, rfl, rfl, rfl⟩
    · rw [slaveAcknowledged_one]
      exact ⟨rfl, rfl, rfl, rfl⟩
    · refine State.forall_pic (Q := Pic.Ordered) ?_ ?_
      · rw [slaveAcknowledged_zero]
        exact (h.ordered 0).congr rfl rfl
      · rw [slaveAcknowledged_one]
        exact Pic.ordered_serve hlt' hahead'
    · rw [hnone] at hp'
      cases hp'
    · rw [requested_slaveAcknowledged h.edge, hnone]
      rintro (hreq | ⟨hp', -⟩)
      · cases hreq
      · cases hp'

end Input

/-! ## Runs -/

/-- An input to the pair, or the two EOIs that end a cascaded interrupt: the slave's, then the
master's. -/
inductive NestedOp where
  | input (op : PicOp)
  | endOfCascaded
  deriving DecidableEq

/-- The effect of one input, or of the pair of EOIs. -/
def nestedStep (s : State) : NestedOp → Outcome State
  | .input op => picStep s op
  | .endOfCascaded =>
      run picStep s
        [.picPortIoWrite (commandPort 1) 0x20, .picPortIoWrite (commandPort 0) 0x20]

/-- The inputs of a run in fully nested mode: raises, lowers, mask writes, non-specific EOIs,
acknowledges while the event is pending, and the EOI pair while the slave has an irq in
service. -/
def NestedInput (s : State) : NestedOp → Prop
  | .input (.picPortIoWrite address value) =>
      (∃ i, address = dataPort i) ∨ ((∃ i, address = commandPort i) ∧ value = 0x20)
  | .input .picIAC => s.pendingIntr = true
  | .input _ => True
  | .endOfCascaded => ∃ k < 8, (s.pic 1).inService k = true

/-- What fully nested priority promises of an input.  An acknowledged irq comes before all those
in service on its controller; an EOI retires the first irq in service on its controller and
nothing else; and the EOI pair does so on the slave and leaves the master alone. -/
def KeepsPriorityOrder (s : State) : NestedOp → Prop
  | .input .picIAC =>
      (s.pic 0).ahead (s.pic 0).latchedIrq ∧
        ((s.pic 0).latchedIrq = 2 → (s.pic 1).ahead (s.pic 1).latchedIrq)
  | .input (.picPortIoWrite address value) =>
      value = 0x20 → ∀ i, address = commandPort i → ∀ t,
        picPortIoWriteHandler address value s = .ok t →
          (s.pic i).RetiresFirst (t.pic i) ∧
            ∀ j ≠ i, (t.pic j).interruptInService = (s.pic j).interruptInService
  | .input _ => True
  | .endOfCascaded =>
      ∀ t, nestedStep s .endOfCascaded = .ok t →
        (s.pic 1).RetiresFirst (t.pic 1) ∧
          (t.pic 0).interruptInService = (s.pic 0).interruptInService

/-- An input that keeps the order.
- A non-specific EOI finds at most one irq in service on its controller.
- An EOI pair finds nothing in service on the master.
- Line 2 is raised from outside only while the slave's latched irq comes before all those in
  service there. -/
def PriorityStep (s : State) : NestedOp → Prop
  | .input (.picRaiseIrq irqNumber) =>
      irqNumber = 2 → (s.pic 0).pin 2 = false → (s.pic 1).latchAhead
  | .input (.picPortIoWrite address _) => ∀ i, address = commandPort i → (s.pic i).servesOne
  | .input _ => True
  | .endOfCascaded => (s.pic 1).servesOne ∧ ∀ k < 8, (s.pic 0).inService k = false

instance (s : State) : ∀ op, Decidable (NestedInput s op)
  | .input (.picPortIoWrite address value) =>
      inferInstanceAs (Decidable ((∃ i, address = dataPort i) ∨
        ((∃ i, address = commandPort i) ∧ value = 0x20)))
  | .input .picIAC => inferInstanceAs (Decidable (_ = _))
  | .input (.picRaiseIrq _) | .input (.picLowerIrq _) => isTrue trivial
  | .endOfCascaded => inferInstanceAs (Decidable (∃ k < 8, _))

instance (s : State) : ∀ op, Decidable (PriorityStep s op)
  | .input (.picRaiseIrq _) => inferInstanceAs (Decidable (_ → _ → _))
  | .input (.picPortIoWrite address _) =>
      inferInstanceAs (Decidable (∀ i, address = commandPort i → (s.pic i).servesOne))
  | .input (.picLowerIrq _) | .input .picIAC => isTrue trivial
  | .endOfCascaded => inferInstanceAs (Decidable (_ ∧ ∀ k < 8, _))

section Run

variable {s t : State}

/-- The EOIs of a pair, one after the other. -/
lemma exists_of_endOfCascaded (h : nestedStep s .endOfCascaded = .ok t) :
    ∃ u, picPortIoWriteHandler (commandPort 1) 0x20 s = .ok u ∧
      picPortIoWriteHandler (commandPort 0) 0x20 u = .ok t := by
  obtain ⟨u, hu, h⟩ := run_cons_ok.mp h
  obtain ⟨v, hv, h⟩ := run_cons_ok.mp h
  simp only [run_nil, Except.ok.injEq] at h
  exact ⟨u, hu, h ▸ hv⟩

/-- A controller with nothing in service serves one irq at most. -/
lemma Pic.servesOne_of_idle {p : Pic} (h : ∀ k < 8, p.inService k = false) : p.servesOne := by
  intro j hj k hk hin
  rw [h j hj] at hin
  cases hin

lemma PriorityInvariant.step {op : NestedOp} (h : PriorityInvariant s)
    (hscope : NestedInput s op) (hop : PriorityStep s op) (hstep : nestedStep s op = .ok t) :
    PriorityInvariant t := by
  cases op with
  | input op =>
      cases op with
      | picRaiseIrq irqNumber =>
          obtain ⟨u, hu, hline⟩ := exists_of_picRaiseIrq hstep
          have hkeeps := ioApicClosed_keepsPic.forward hu
          refine (h.of_keepsPic hkeeps).raiseLine ?_ hline
          rw [hkeeps.pic]
          exact hop
      | picLowerIrq irqNumber =>
          simp only [nestedStep, picStep, Except.ok.injEq] at hstep
          obtain ⟨u, hu, hline⟩ := exists_picLowerIrq irqNumber s
          rw [← hstep, hline]
          exact (h.of_keepsPic (ioApicClosed_keepsPic.lowerForward hu)).lowerLine irqNumber
      | picPortIoWrite address value =>
          rcases hscope with ⟨i, rfl⟩ | ⟨⟨i, rfl⟩, rfl⟩
          · exact h.interruptMask hstep
          · exact h.endOfInterrupt (hop i rfl) hstep
      | picIAC =>
          obtain ⟨v, hiac⟩ := exists_of_picStep_iac hstep
          exact h.picIAC hscope hiac
  | endOfCascaded =>
      obtain ⟨u, hslave, hmaster⟩ := exists_of_endOfCascaded hstep
      have hu := h.endOfInterrupt hop.1 hslave
      refine hu.endOfInterrupt (Pic.servesOne_of_idle fun k hk => ?_) hmaster
      have hkept := (h.toNestedMode.retiresFirst_endOfInterrupt (h.ordered 1) hslave).2 0
        (by decide)
      unfold Pic.inService
      rw [hkept]
      exact hop.2 k hk

lemma PriorityInvariant.keepsPriorityOrder {op : NestedOp} (h : PriorityInvariant s)
    (hscope : NestedInput s op) (hop : PriorityStep s op) : KeepsPriorityOrder s op := by
  cases op with
  | input op =>
      cases op with
      | picIAC =>
          refine ⟨(h.latched hscope).2, fun hirq => ?_⟩
          exact (h.cascaded (Or.inr ⟨hscope, hirq⟩)).2
      | picPortIoWrite address value =>
          rintro rfl i rfl t hwrite
          exact h.toNestedMode.retiresFirst_endOfInterrupt (h.ordered i) hwrite
      | _ => trivial
  | endOfCascaded =>
      intro t hstep
      obtain ⟨u, hslave, hmaster⟩ := exists_of_endOfCascaded hstep
      have hu := h.endOfInterrupt hop.1 hslave
      obtain ⟨hretires, hkept⟩ :=
        h.toNestedMode.retiresFirst_endOfInterrupt (h.ordered 1) hslave
      have hzero := hkept 0 (by decide)
      -- the master has nothing in service, so its EOI retires nothing
      have hidle : (u.pic 0).endOfInterrupt = u.pic 0 := by
        rcases Pic.endOfInterrupt_cases (hu.ordered 0) with ⟨-, heq⟩ | ⟨hlt, hserv, -, -⟩
        · exact heq
        · unfold Pic.inService at hserv
          rw [hzero] at hserv
          have hnone := hop.2 _ hlt
          unfold Pic.inService at hnone
          rw [hnone] at hserv
          cases hserv
      rw [endOfInterrupt_eq, hidle] at hmaster
      have hmode : NestedMode (u.setPic 0 (u.pic 0)) := hu.toNestedMode.setPic (.refl _)
      have hsame : ∀ j, (t.pic j).interruptInService = (u.pic j).interruptInService := by
        intro j
        rw [hmode.interruptInService_service hmaster, State.pic_setPic]
        split_ifs with hj
        · rw [hj]
        · rfl
      exact ⟨Pic.retiresFirst_congr hretires (hsame 1), (hsame 0).trans hzero⟩

lemma Initialised.priorityInvariant (h : Initialised s)
    (hidle : ∀ i, (s.pic i).interruptInService = 0) : PriorityInvariant s where
  toNestedMode := h.toNestedMode
  ordered i := by
    refine Or.inl ⟨fun k _ => ?_, h.priority i⟩
    unfold Pic.inService
    rw [hidle i]
    exact Word.has_zero _
  latched := by
    intro hp
    rw [h.idle] at hp
    cases hp
  cascaded := by
    unfold Pic.requested
    rw [h.requests 0, h.idle]
    rintro (hreq | ⟨hp, -⟩)
    · simp at hreq
    · cases hp

end Run

/-- **Fully nested priority**, on runs that never end one of two interrupts of a controller
with a non-specific EOI.  From the set-up of both controllers, with nothing in service, every
input of such a run keeps the order. -/
theorem pic_keeps_priority_order (s : State) (hs : Initialised s)
    (hidle : ∀ i, (s.pic i).interruptInService = 0) (ops : List NestedOp)
    (hscope : Meets nestedStep NestedInput s ops) (hops : Meets nestedStep PriorityStep s ops) :
    Meets nestedStep KeepsPriorityOrder s ops :=
  Meets.of_invariant (I := PriorityInvariant)
    (P := fun s op => NestedInput s op ∧ PriorityStep s op)
    (fun _ _ _ h hop => h.step hop.1 hop.2) (fun _ _ h hop => h.keepsPriorityOrder hop.1 hop.2)
    (hs.priorityInvariant hidle) (hscope.and hops)

/-- A slave interrupt ended by its EOI pair, one on the master ended by its own EOI, and one in
whose service two others are acknowledged, each before the last. -/
def interruptsInTurn : List NestedOp :=
  [.input (.picRaiseIrq 9), .input .picIAC, .endOfCascaded, .input (.picRaiseIrq 5),
    .input .picIAC, .input (.picPortIoWrite 0x20 0x20), .input (.picRaiseIrq 6), .input .picIAC,
    .input (.picRaiseIrq 4), .input .picIAC, .input (.picRaiseIrq 1), .input .picIAC]

theorem pic_keeps_priority_order_in_turn :
    ∃ s, run picStep (State.initial fun _ _ => true) picPairSetup = .ok s ∧
      Meets nestedStep KeepsPriorityOrder s interruptsInTurn := by
  obtain ⟨s, hrun, hs, hidle, hscope, hops⟩ :=
    exists_of_ends (fun s => Initialised s ∧ (∀ i, (s.pic i).interruptInService = 0) ∧
      Meets nestedStep NestedInput s interruptsInTurn ∧
      Meets nestedStep PriorityStep s interruptsInTurn)
      (r := run picStep (State.initial fun _ _ => true) picPairSetup) (by decide)
  exact ⟨s, hrun, pic_keeps_priority_order s hs hidle _ hscope hops⟩

/-- Irq 3 is taken over irq 5 and ended; irq 6 is acknowledged although irq 5 is in service. -/
theorem pic_priority_order_lost :
    ∃ t, run nestedStep (State.initial fun _ _ => true)
        (picPairSetup.map .input ++
          [.input (.picRaiseIrq 5), .input .picIAC, .input (.picRaiseIrq 3), .input .picIAC,
            .input (.picPortIoWrite 0x20 0x20), .input (.picRaiseIrq 6)]) = .ok t ∧
      t.pendingIntr = true ∧ ¬ KeepsPriorityOrder t (.input .picIAC) := by
  obtain ⟨t, hrun, hp, hbehind⟩ :=
    exists_of_ends (fun t => t.pendingIntr = true ∧ ¬ (t.pic 0).ahead (t.pic 0).latchedIrq)
      (r := run nestedStep (State.initial fun _ _ => true)
        (picPairSetup.map .input ++
          [.input (.picRaiseIrq 5), .input .picIAC, .input (.picRaiseIrq 3), .input .picIAC,
            .input (.picPortIoWrite 0x20 0x20), .input (.picRaiseIrq 6)])) (by decide)
  exact ⟨t, hrun, hp, fun h => hbehind h.1⟩

end Svmm
