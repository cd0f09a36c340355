import Svmm.Properties.Pic.Commands
import Svmm.Properties.Window

/-!
# Whether `PicIAC` acknowledges a real request

`PicService` latches the irq to acknowledge in `InterruptNumber`, and `PicIAC` takes it from
there without looking again.  The latch is good while its irq is requested and not masked.
Two latches have to be good: the master's while its event is pending, and the slave's while
line 2 of the master is requested, since the master may latch irq 2 at any service.

Most inputs keep both good or latch anew.  A run on which no input spoils a latch that counts
acknowledges real requests only.
-/

namespace Svmm

open TransitionRun

namespace Pic

variable (p : Pic)

/-- The latched irq is one of the controller's, requested and not masked. -/
def latchGood : Prop :=
  p.latchedIrq < 8 ∧ p.requested p.latchedIrq = true ∧ p.masked p.latchedIrq = false

/-- A service in fully nested mode would latch anew. -/
def relatches : Prop :=
  p.specialMask = false ∧ p.fullyNested = true ∧ p.nextIrq.isSome = true

/-- Between ICW1 and ICW3. -/
def initialising : Prop := p.state = stateInitializedIcw1 ∨ p.state = stateOffsetSetIcw2

/-- Line 2 is requested of a master that is, or is about to be, cascaded. -/
def awaitsSlave : Prop := (p.cascade = true ∨ p.initialising) ∧ p.requested 2 = true

instance : Decidable p.latchGood := inferInstanceAs (Decidable (_ ∧ _))
instance : Decidable p.relatches := inferInstanceAs (Decidable (_ ∧ _))
instance : Decidable p.initialising := inferInstanceAs (Decidable (_ ∨ _))
instance : Decidable p.awaitsSlave := inferInstanceAs (Decidable (_ ∧ _))

variable {p} {irq : ℕ}

lemma latchGood_latch (h : p.nextIrq = some irq) : (p.latch irq).latchGood := by
  obtain ⟨hlt, -, hreq, hmask, -⟩ := nextIrq_spec h
  unfold latchGood
  rw [latchedIrq_latch hlt]
  exact ⟨hlt, hreq, hmask⟩

/-- A raised line keeps a latch good. -/
lemma latchGood_raiseLine (h : p.latchGood) (line : ℕ) : (p.raiseLine line).latchGood := by
  obtain ⟨hlt, hreq, hmask⟩ := h
  refine ⟨hlt, ?_, hmask⟩
  show Word.has (Word.set p.interruptRequest (irqBit line)) (irqBit p.latchedIrq) = true
  rw [Word.has_set, Bool.or_eq_true]
  exact Or.inl hreq

end Pic

/-! ## The invariant -/

/-- What the two latches rest on: how the master is set up while its event is pending, and
during its initialisation. -/
structure LatchFrame (s : State) : Prop where
  pending : s.pendingIntr = true → (s.pic 0).cascade = true ∧ ¬ (s.pic 0).initialising
  initialising : (s.pic 0).initialising → (s.pic 0).fullyNested = false
  slaveCascade : (s.pic 1).cascade = false
  edge : Word.has (s.pic 0).edgeLevel (irqBit 2) = false

/-- Both latches that count are good. -/
structure LatchInvariant (s : State) : Prop extends LatchFrame s where
  master : s.pendingIntr = true → (s.pic 0).latchGood
  slave : (s.pic 0).awaitsSlave → (s.pic 1).latchGood

section Frame

variable {s t : State}

/-- The frame reads the set-up of the master only. -/
lemma LatchFrame.of_setup (h : LatchFrame s) (hintr : t.pendingIntr = true → s.pendingIntr = true)
    (hcmd : (t.pic 0).initCmd2 = (s.pic 0).initCmd2) (hstate : (t.pic 0).state = (s.pic 0).state)
    (hmode : (t.pic 0).mode = (s.pic 0).mode) (hedge : (t.pic 0).edgeLevel = (s.pic 0).edgeLevel)
    (hslave : (t.pic 1).initCmd2 = (s.pic 1).initCmd2) : LatchFrame t where
  pending := by
    intro hp
    simpa only [Pic.cascade, Pic.initialising, hcmd, hstate] using h.pending (hintr hp)
  initialising := by
    intro hi
    simp only [Pic.initialising, hstate] at hi
    simpa only [Pic.fullyNested, hmode] using h.initialising hi
  slaveCascade := by simpa only [Pic.cascade, hslave] using h.slaveCascade
  edge := by rw [hedge]; exact h.edge

lemma LatchInvariant.of_keepsPic (h : LatchInvariant s) (hk : KeepsPic s t) :
    LatchInvariant t where
  toLatchFrame := h.toLatchFrame.of_setup (fun hp => hk.pendingIntr ▸ hp) (by rw [hk.pic])
    (by rw [hk.pic]) (by rw [hk.pic]) (by rw [hk.pic]) (by rw [hk.pic])
  master := by rw [hk.pendingIntr, hk.pic]; exact h.master
  slave := by rw [hk.pic]; exact h.slave

/-- A master in fully nested mode without the cascade bit has no event pending and does not
wait for the slave: nothing counts. -/
lemma LatchInvariant.of_uncascaded (h : LatchFrame t) (hcascade : (t.pic 0).cascade = false)
    (hnested : (t.pic 0).fullyNested = true) : LatchInvariant t where
  toLatchFrame := h
  master := by
    intro hp
    exact absurd (h.pending hp).1 (by simp [hcascade])
  slave := by
    rintro ⟨hc | hi, -⟩
    · rw [hcascade] at hc
      cases hc
    · rw [h.initialising hi] at hnested
      cases hnested

end Frame

/-! ## Service -/

section Service

variable {s t : State}

/-- A store to the master that keeps its set-up. -/
lemma LatchFrame.setPic_zero (h : LatchFrame s) (p : Pic)
    (hcmd : p.initCmd2 = (s.pic 0).initCmd2) (hstate : p.state = (s.pic 0).state)
    (hmode : p.mode = (s.pic 0).mode) (hedge : p.edgeLevel = (s.pic 0).edgeLevel) :
    LatchFrame (s.setPic 0 p) :=
  h.of_setup (fun hp => hp) (by simpa using hcmd) (by simpa using hstate) (by simpa using hmode)
    (by simpa using hedge) (by simp)

/-- A store to the slave that keeps ICW3. -/
lemma LatchFrame.setPic_one (h : LatchFrame s) (p : Pic)
    (hcmd : p.initCmd2 = (s.pic 1).initCmd2) : LatchFrame (s.setPic 1 p) :=
  h.of_setup (fun hp => hp) (by simp) (by simp) (by simp) (by simp) (by simpa using hcmd)

/-- The master opens the window: its event is pending, on the irq it latched. -/
lemma LatchInvariant.opened {irq : ℕ} (hframe : LatchFrame s)
    (hslave : (s.pic 0).awaitsSlave → (s.pic 1).latchGood)
    (hnested : (s.pic 0).fullyNested = true) (hnext : (s.pic 0).nextIrq = some irq)
    (hcascade : (s.pic 0).cascade = true) :
    LatchInvariant (((s.setPic 0 ((s.pic 0).latch irq)).setWindow 1).setEvent
      eventPendingIntr) := by
  have hinit : ¬ (s.pic 0).initialising := by
    intro hi
    rw [hframe.initialising hi] at hnested
    cases hnested
  have hlatch : ((((s.setPic 0 ((s.pic 0).latch irq)).setWindow 1).setEvent
      eventPendingIntr).pic 0) = (s.pic 0).latch irq := by simp
  have hone : ((((s.setPic 0 ((s.pic 0).latch irq)).setWindow 1).setEvent
      eventPendingIntr).pic 1) = s.pic 1 := by simp
  refine ⟨⟨?_, ?_, ?_, ?_⟩, ?_, ?_⟩ <;> simp only [hlatch, hone]
  · exact fun _ => ⟨hcascade, hinit⟩
  · exact hframe.initialising
  · exact hframe.slaveCascade
  · exact hframe.edge
  · exact fun _ => Pic.latchGood_latch hnext
  · exact hslave

/-- A service of the master from a frame: the event's latch is good or is replaced. -/
lemma latchInvariant_of_served {raiseIrq2 : State → Outcome State} (hframe : LatchFrame s)
    (hmaster : s.pendingIntr = true → (s.pic 0).latchGood ∨ (s.pic 0).relatches)
    (hslave : (s.pic 0).awaitsSlave → (s.pic 1).latchGood) (hquiet : ¬ (s.pic 0).injects)
    (hserved : PicServed raiseIrq2 0 s t)
    (hraise : ∀ irq, (s.pic 0).specialMask = false → (s.pic 0).fullyNested = true →
      (s.pic 0).cascade = false → raiseIrq2 (s.setPic 0 ((s.pic 0).latch irq)) = .ok t →
      LatchInvariant t) : LatchInvariant t := by
  have hkept : ¬ (s.pic 0).relatches → LatchInvariant s := by
    intro hnot
    exact ⟨hframe, fun hp => (hmaster hp).resolve_right hnot, hslave⟩
  cases hserved with
  | specialMask hmode =>
      rw [picServiceSpecialMask_of_not_injects hmode hquiet]
      refine hkept fun hre => ?_
      have := hre.1
      rw [hmode] at this
      cases this
  | unmoded hmode hnested =>
      refine hkept fun hre => ?_
      have := hre.2.1
      rw [hnested] at this
      cases this
  | idle hmode hnested hnext =>
      refine hkept fun hre => ?_
      have := hre.2.2
      rw [hnext] at this
      cases this
  | opened hmode hnested hnext hcascade => exact .opened hframe hslave hnested hnext hcascade
  | forwarded hmode hnested hnext hcascade hcall => exact hraise _ hmode hnested hcascade hcall

/-- A service of the master ends with good latches, when it starts with good ones or latches
anew. -/
lemma latchInvariant_picService_zero (hframe : LatchFrame s)
    (hmaster : s.pendingIntr = true → (s.pic 0).latchGood ∨ (s.pic 0).relatches)
    (hslave : (s.pic 0).awaitsSlave → (s.pic 1).latchGood) (hquiet : ¬ (s.pic 0).injects)
    (h : picService 0 s = .ok t) : LatchInvariant t := by
  refine latchInvariant_of_served hframe hmaster hslave hquiet (picServed_of_picService h)
    fun irq hmode hnested hcascade hcall => ?_
  -- without the cascade bit the master raises its own line 2, and nothing counts
  rw [picRaiseCascade_eq, State.pic_setPic_self, State.setPic_setPic_self] at hcall
  split_ifs at hcall with hpin
  · simp only [Except.ok.injEq] at hcall
    rw [← hcall]
    refine .of_uncascaded (hframe.setPic_zero _ rfl rfl rfl rfl) ?_ ?_
    · rw [State.pic_setPic_self]
      exact hcascade
    · rw [State.pic_setPic_self]
      exact hnested
  · generalize hr : s.setPic 0 (((s.pic 0).latch irq).raiseLine 2) = r at hcall
    have hpic : r.pic 0 = ((s.pic 0).latch irq).raiseLine 2 := by rw [← hr, State.pic_setPic_self]
    have hraised : LatchFrame r := by
      rw [← hr]
      exact hframe.setPic_zero _ rfl rfl rfl rfl
    have hc : (r.pic 0).cascade = false := by
      rw [hpic]
      exact hcascade
    have hn : (r.pic 0).fullyNested = true := by
      rw [hpic]
      exact hnested
    have hm : (r.pic 0).specialMask = false := by
      rw [hpic]
      exact hmode
    have hinv := LatchInvariant.of_uncascaded hraised hc hn
    refine latchInvariant_of_served hraised (fun hp => Or.inl (hinv.master hp)) hinv.slave
      (fun hinj => ?_) (picServed_of_picService hcall) fun irq' _ _ _ hcall' => ?_
    · have := hinj.1
      rw [hm] at this
      cases this
    · rw [picRaiseCascade_of_pin] at hcall'
      · simp only [Except.ok.injEq] at hcall'
        rw [← hcall']
        refine .of_uncascaded (hraised.setPic_zero _ rfl rfl rfl rfl) ?_ ?_
        · rw [State.pic_setPic_self]
          exact hc
        · rw [State.pic_setPic_self]
          exact hn
      · rw [State.pic_setPic_self, hpic]
        exact pin_raiseLine_two ((s.pic 0).latch irq)

/-- A service of the slave latches anew, or leaves its good latch alone, and may make the
master latch line 2. -/
lemma latchInvariant_picService_one (hframe : LatchFrame s)
    (hmaster : s.pendingIntr = true → (s.pic 0).latchGood)
    (hslave : (s.pic 0).awaitsSlave → (s.pic 1).latchGood ∨ (s.pic 1).relatches)
    (hquiet : ¬ s.injectsOn 1) (h : picService 1 s = .ok t) : LatchInvariant t := by
  have hkept : ¬ (s.pic 1).relatches → LatchInvariant s := by
    intro hnot
    exact ⟨hframe, hmaster, fun hawaits => (hslave hawaits).resolve_right hnot⟩
  cases picServed_of_picService h with
  | specialMask hmode =>
      rw [picServiceSpecialMask_of_not_injects hmode fun hinj => hquiet (Or.inl hinj)]
      refine hkept fun hre => ?_
      have := hre.1
      rw [hmode] at this
      cases this
  | unmoded hmode hnested =>
      refine hkept fun hre => ?_
      have := hre.2.1
      rw [hnested] at this
      cases this
  | idle hmode hnested hnext =>
      refine hkept fun hre => ?_
      have := hre.2.2
      rw [hnext] at this
      cases this
  | opened hmode hnested hnext hcascade =>
      rw [hframe.slaveCascade] at hcascade
      cases hcascade
  | forwarded hmode hnested hnext hcascade hcall =>
      rename_i irq
      have hlatched : LatchFrame (s.setPic 1 ((s.pic 1).latch irq)) := hframe.setPic_one _ rfl
      have hgood : ((s.setPic 1 ((s.pic 1).latch irq)).pic 1).latchGood := by
        rw [State.pic_setPic_self]
        exact Pic.latchGood_latch hnext
      rw [picRaiseCascade_eq, State.pic_setPic_one_zero] at hcall
      split_ifs at hcall with hpin
      · simp only [Except.ok.injEq] at hcall
        rw [← hcall]
        refine ⟨hlatched, ?_, fun _ => hgood⟩
        rw [State.pic_setPic_one_zero]
        exact hmaster
      · have hraised := hlatched.setPic_zero ((s.pic 0).raiseLine 2)
          (by rw [State.pic_setPic_one_zero]; rfl)
          (by rw [State.pic_setPic_one_zero]; rfl) (by rw [State.pic_setPic_one_zero]; rfl)
          (by rw [State.pic_setPic_one_zero]; rfl)
        refine latchInvariant_picService_zero hraised (fun hp => Or.inl ?_) (fun _ => ?_) ?_ hcall
        · rw [State.pic_setPic_self]
          exact Pic.latchGood_raiseLine (hmaster hp) 2
        · rw [State.pic_setPic_zero_one]
          exact hgood
        · rw [State.pic_setPic_self]
          intro hinj
          exact hquiet (Or.inr ⟨⟨hmode, hnested, by rw [hnext]; rfl, hcascade⟩,
            by simpa using hpin, hinj⟩)

end Service

/-! ## Acknowledge -/

section Acknowledge

variable {s t : State}

/-- After an acknowledge no event is pending, and the latches are good again once the services
have run. -/
lemma latchInvariant_picIAC {v : BitVec 8} (hs : LatchInvariant s)
    (hquiet : ¬ s.iacInjects) (h : picIAC s = .ok (v, t)) : LatchInvariant t := by
  unfold State.iacInjects at hquiet
  rcases picIAC_cases h with ⟨hirq, -, hservice⟩ | ⟨hirq, -, u, hone, hzero⟩
  · rw [if_neg hirq] at hquiet
    have hnone := pendingIntr_masterAcknowledged s
    have hframe : LatchFrame s.masterAcknowledged := by
      refine hs.toLatchFrame.of_setup (fun hp => ?_) (by rw [masterAcknowledged_zero]; rfl)
        (by rw [masterAcknowledged_zero]; rfl) (by rw [masterAcknowledged_zero]; rfl)
        (by rw [masterAcknowledged_zero]; rfl) (by rw [masterAcknowledged_one])
      rw [hnone] at hp
      cases hp
    refine latchInvariant_picService_zero hframe (fun hp => ?_) ?_
      (fun hinj => hquiet (Or.inl hinj)) hservice
    · rw [hnone] at hp
      cases hp
    · rw [masterAcknowledged_zero, masterAcknowledged_one]
      rintro ⟨hc, hreq⟩
      exact hs.slave ⟨hc, Pic.requested_of_consume hreq⟩
  · rw [if_pos hirq, not_or] at hquiet
    have hnone := pendingIntr_slaveAcknowledged s
    have hframe : LatchFrame s.slaveAcknowledged := by
      refine hs.toLatchFrame.of_setup (fun hp => ?_) (by rw [slaveAcknowledged_zero]; rfl)
        (by rw [slaveAcknowledged_zero]; rfl) (by rw [slaveAcknowledged_zero]; rfl)
        (by rw [slaveAcknowledged_zero]; rfl) (by rw [slaveAcknowledged_one]; rfl)
      rw [hnone] at hp
      cases hp
    have hone' : LatchInvariant u := by
      refine latchInvariant_picService_one hframe (fun hp => ?_) (fun hawaits => ?_) hquiet.1 hone
      · rw [hnone] at hp
        cases hp
      · have hreq := hawaits.2
        rw [requested_slaveAcknowledged hs.edge] at hreq
        cases hreq
    have hquiet' : ¬ (u.pic 0).injects := fun hinj =>
      not_injectsOn_zero_of_picService hone hquiet.1 hquiet.2 (Or.inl hinj)
    exact latchInvariant_picService_zero hone'.toLatchFrame (fun hp => Or.inl (hone'.master hp))
      hone'.slave hquiet' hzero

end Acknowledge

/-! ## Port writes -/

section Write

variable {s t : State} {w : Pic × PicEffect}

/-- A port write to the master keeps the frame: ICW2 and ICW3 come after an ICW1, which has
taken the event away and left the nested mode. -/
lemma LatchFrame.write_zero (h : LatchFrame s) (hw : PicWrite 0 (s.pic 0) w)
    (hintr : t.pendingIntr = true → s.pendingIntr = true ∧ w.2 ≠ .clearPending)
    (hzero : t.pic 0 = w.1) (hone : t.pic 1 = s.pic 1) : LatchFrame t := by
  have hidle : (s.pic 0).initialising → ¬ t.pendingIntr = true := fun hi hp =>
    (h.pending (hintr hp).1).2 hi
  refine ⟨fun hp => ?_, fun hi => ?_, ?_, ?_⟩
  · have hsetup := h.pending (hintr hp).1
    rw [hzero]
    cases hw with
    | icw1 value => exact absurd rfl (hintr hp).2
    | icw2 offset hstate => exact absurd hp (hidle (Or.inl hstate))
    | icw3 cmd pins hstate hslave => exact absurd hp (hidle (Or.inr hstate))
    | icw4 value hicw1 hicw2 hstate => exact ⟨hsetup.1, by rintro (hi | hi) <;> cases hi⟩
    | _ => exact hsetup
  · rw [hzero] at hi ⊢
    cases hw with
    | icw1 value => simp [Pic.writeIcw1, Pic.fullyNested]
    | enterSpecialMask cmd =>
        show Word.has (Word.bit modeSpecialMask : BitVec 8) modeFullyNested = false
        decide
    | enterMode cmd mode hnested hmask => exact hnested
    | eoiMode mode hnested hmask => exact hnested
    | icw2 offset hstate => exact h.initialising (Or.inl hstate)
    | icw3 cmd pins hstate hslave => rcases hi with hi | hi <;> cases hi
    | icw4 value hicw1 hicw2 hstate => rcases hi with hi | hi <;> cases hi
    | _ => exact h.initialising hi
  · rw [hone]
    exact h.slaveCascade
  · have hedge := h.edge
    rw [hzero]
    cases hw with
    | _ => exact hedge

/-- A port write to the master makes it wait for the slave only where it did. -/
lemma Pic.awaitsSlave_of_write {p : Pic} (hw : PicWrite 0 p w) (h : w.1.awaitsSlave) :
    p.awaitsSlave := by
  obtain ⟨hc, hreq⟩ := h
  cases hw with
  | icw1 value => simp [Pic.writeIcw1, Pic.requested] at hreq
  | icw2 offset hstate => exact ⟨Or.inr (Or.inl hstate), hreq⟩
  | icw3 cmd pins hstate hslave => exact ⟨Or.inr (Or.inr hstate), hreq⟩
  | icw4 value hicw1 hicw2 hstate =>
      refine ⟨hc.imp id ?_, hreq⟩
      rintro (hi | hi) <;> cases hi
  | _ => exact ⟨hc, hreq⟩

/-- A port write to the slave never makes it the master. -/
lemma Pic.cascade_of_write {p : Pic} (hw : PicWrite 1 p w) (h : p.cascade = false) :
    w.1.cascade = false := by
  cases hw with
  | icw3 cmd pins hstate hslave =>
      rw [hslave rfl]
      show Word.has icw3SlaveId icw3CascadeEnable = false
      decide
  | _ => exact h

end Write

/-! ## Runs -/

/-- What a port write that stores `w` in controller `i` has to do about the latch of that
controller, while it counts: leave it good, or service the controller and latch anew. -/
def State.keepsLatch (s : State) (i : Fin 2) (w : Pic × PicEffect) : Prop :=
  (w.2 = .service → ¬ (s.setPic i w.1).injectsOn i) ∧
    ((if i = 0 then s.pendingIntr = true ∧ w.2 ≠ .clearPending else (s.pic 0).awaitsSlave) →
      w.1.latchGood ∨ (w.2 = .service ∧ w.1.relatches))

/-- An input that spoils no latch that counts.
- No service runs in special-mask mode with an irq to inject.
- Line 2 is raised from outside only while the slave's latch is good.
- The line that is lowered is not the one the pending event latched.
- A port write keeps the latch of its controller. -/
def LatchStep (s : State) : PicOp → Prop
  | .picRaiseIrq irqNumber =>
      s.raises irqNumber →
        ¬ (s.raised irqNumber).injectsOn (picOf irqNumber) ∧
          (irqNumber = 2 → ((s.pic 0).raiseLine 2).awaitsSlave → (s.pic 1).latchGood)
  | .picLowerIrq irqNumber =>
      s.pendingIntr = true ∧ irqNumber.toNat ≤ 7 ∧ (s.pic 0).pin irqNumber.toNat = true →
        (s.pic 0).latchedIrq ≠ irqNumber.toNat
  | .picPortIoWrite address value =>
      ∀ w ∈ picWritten address value s, s.keepsLatch w.1 w.2
  | .picIAC => ¬ s.iacInjects

/-- `PicIAC` is called while the PICs' event is set. -/
def IacWhilePending (s : State) (op : PicOp) : Prop := op = .picIAC → s.pendingIntr = true

/-- What an acknowledge promises.  The irq it acknowledges on the master, and on the slave when
that irq is 2, is requested and not masked, and the vector it returns is the irq of the last
controller it touches, plus that controller's offset. -/
def AcknowledgesRequest (s : State) : PicOp → Prop
  | .picIAC =>
      ∀ v t, picIAC s = .ok (v, t) →
        (s.pic 0).latchGood ∧
          if (s.pic 0).latchedIrq = 2 then
            (s.pic 1).latchGood ∧
              v = BitVec.ofNat 8 (s.pic 1).latchedIrq + (s.pic 1).currentOffset
          else v = BitVec.ofNat 8 (s.pic 0).latchedIrq + (s.pic 0).currentOffset
  | _ => True

instance (s : State) (i : Fin 2) (w : Pic × PicEffect) : Decidable (s.keepsLatch i w) :=
  inferInstanceAs (Decidable (_ ∧ ((if i = 0 then _ else _) → _)))

instance (s : State) : ∀ op, Decidable (LatchStep s op)
  | .picRaiseIrq _ => inferInstanceAs (Decidable (_ → _))
  | .picLowerIrq _ => inferInstanceAs (Decidable (_ → _))
  | .picPortIoWrite address value =>
      inferInstanceAs (Decidable (∀ w ∈ picWritten address value s, s.keepsLatch w.1 w.2))
  | .picIAC => inferInstanceAs (Decidable (¬ _))

instance (s : State) (op : PicOp) : Decidable (IacWhilePending s op) :=
  inferInstanceAs (Decidable (_ → _))

instance (s : State) : ∀ op, Decidable (AcknowledgesRequest s op)
  | .picIAC =>
      match h : picIAC s with
      | .error _ => isTrue fun v t hiac => by
          rw [h] at hiac
          cases hiac
      | .ok (v, t) =>
          decidable_of_iff
            ((s.pic 0).latchGood ∧
              if (s.pic 0).latchedIrq = 2 then
                (s.pic 1).latchGood ∧
                  v = BitVec.ofNat 8 (s.pic 1).latchedIrq + (s.pic 1).currentOffset
              else v = BitVec.ofNat 8 (s.pic 0).latchedIrq + (s.pic 0).currentOffset)
            (by
              constructor
              · intro hgood v' t' hiac
                rw [h, Except.ok.injEq, Prod.mk.injEq] at hiac
                rw [← hiac.1]
                exact hgood
              · intro hall
                exact hall v t h)
  | .picRaiseIrq _ | .picLowerIrq _ | .picPortIoWrite _ _ => isTrue trivial

section Step

variable {s t : State}

lemma latchInvariant_raiseLine {irqNumber : BitVec 8} (hs : LatchInvariant s)
    (hop : s.raises irqNumber →
      ¬ (s.raised irqNumber).injectsOn (picOf irqNumber) ∧
        (irqNumber = 2 → ((s.pic 0).raiseLine 2).awaitsSlave → (s.pic 1).latchGood))
    (h : picRaiseLine irqNumber s = .ok t) : LatchInvariant t := by
  rw [picRaiseLine_eq] at h
  split_ifs at h with hraises
  · obtain ⟨hquiet, htwo⟩ := hop hraises
    rcases Nat.lt_or_ge 7 irqNumber.toNat with hnum | hnum
    · have hof : picOf irqNumber = 1 := by simp [picOf, hnum]
      unfold State.raised at h hquiet
      rw [hof] at h hquiet
      have hframe := hs.toLatchFrame.setPic_one ((s.pic 1).raiseLine (irqNumber.toNat % 8)) rfl
      refine latchInvariant_picService_one hframe (fun hp => ?_) (fun hawaits => ?_) hquiet h
      · rw [State.pic_setPic_one_zero]
        exact hs.master hp
      · rw [State.pic_setPic_one_zero] at hawaits
        rw [State.pic_setPic_self]
        exact Or.inl (Pic.latchGood_raiseLine (hs.slave hawaits) _)
    · have hof : picOf irqNumber = 0 := by simp [picOf, Nat.not_lt.mpr hnum]
      have hmod : irqNumber.toNat % 8 = irqNumber.toNat := Nat.mod_eq_of_lt (by omega)
      unfold State.raised at h hquiet
      rw [hof, hmod] at h hquiet
      have hframe := hs.toLatchFrame.setPic_zero ((s.pic 0).raiseLine irqNumber.toNat) rfl rfl rfl
        rfl
      refine latchInvariant_picService_zero hframe (fun hp => ?_) (fun hawaits => ?_)
        (fun hinj => hquiet (Or.inl hinj)) h
      · rw [State.pic_setPic_self]
        exact Or.inl (Pic.latchGood_raiseLine (hs.master hp) _)
      · rw [State.pic_setPic_self] at hawaits
        rw [State.pic_setPic_zero_one]
        by_cases heq : irqNumber = 2
        · rw [heq] at hawaits
          exact htwo heq hawaits
        · have hne : irqNumber.toNat ≠ 2 := fun hn => heq (BitVec.eq_of_toNat_eq hn)
          have hreq := hawaits.2
          rw [Pic.requested_raiseLine (by omega) (by omega)] at hreq
          refine hs.slave ⟨hawaits.1, ?_⟩
          simpa [hne] using hreq
  · simp only [Except.ok.injEq] at h
    rwa [← h]

lemma latchInvariant_lowerLine {irqNumber : BitVec 8} (hs : LatchInvariant s)
    (hop : s.pendingIntr = true ∧ irqNumber.toNat ≤ 7 ∧ (s.pic 0).pin irqNumber.toNat = true →
      (s.pic 0).latchedIrq ≠ irqNumber.toNat) : LatchInvariant (picLowerLine irqNumber s) := by
  rcases picLowerLine_cases irqNumber s with h | ⟨hnum, hpin, h⟩
  · rwa [h]
  · rw [h]
    refine ⟨hs.toLatchFrame.setPic_zero _ rfl rfl rfl rfl, fun hp => ?_, fun hawaits => ?_⟩
    · obtain ⟨hlt, hreq, hmask⟩ := hs.master hp
      have hne := hop ⟨hp, hnum, hpin⟩
      rw [State.pic_setPic_self]
      refine ⟨hlt, ?_, hmask⟩
      show ((s.pic 0).lowerLine irqNumber.toNat).requested (s.pic 0).latchedIrq = true
      rw [Pic.requested_lowerLine (by omega) hlt, hreq]
      simpa using hne.symm
    · rw [State.pic_setPic_self] at hawaits
      rw [State.pic_setPic_zero_one]
      have hreq := hawaits.2
      rw [Pic.requested_lowerLine (by omega) (by omega), Bool.and_eq_true] at hreq
      exact hs.slave ⟨hawaits.1, hreq.1⟩

lemma latchInvariant_write {address : BitVec 64} {value : BitVec 32} (hs : LatchInvariant s)
    (hop : ∀ w ∈ picWritten address value s, s.keepsLatch w.1 w.2)
    (h : picPortIoWriteHandler address value s = .ok t) : LatchInvariant t := by
  rcases picPortIoWriteHandler_cases h with ⟨-, rfl⟩ | ⟨i, w, hw, heffects⟩
  · exact hs
  have hwrite := picWrite_of_picWritten hw
  obtain ⟨hquiet, hkeeps⟩ := hop (i, w) hw
  have hof : i = 0 ∨ i = 1 := by omega
  rcases hof with rfl | rfl
  · have hslave : w.1.awaitsSlave → (s.pic 1).latchGood := fun hawaits =>
      hs.slave (Pic.awaitsSlave_of_write hwrite hawaits)
    rw [if_pos rfl] at hkeeps
    rcases heffects with ⟨heffect, rfl⟩ | ⟨heffect, rfl⟩ | ⟨heffect, hservice⟩
    · have hne : w.2 ≠ .clearPending := by
        rw [heffect]
        decide
      refine ⟨hs.toLatchFrame.write_zero hwrite (fun hp => ⟨hp, hne⟩) (by simp) (by simp),
        fun hp => ?_, ?_⟩
      · rw [State.pic_setPic_self]
        refine (hkeeps ⟨hp, hne⟩).resolve_right fun hre => ?_
        rw [heffect] at hre
        cases hre.1
      · rw [State.pic_setPic_self, State.pic_setPic_zero_one]
        exact hslave
    · have hnone : ¬ ((s.setPic 0 w.1).clearEvent eventPendingIntr).pendingIntr = true := by simp
      refine ⟨hs.toLatchFrame.write_zero hwrite (fun hp => absurd hp hnone) (by simp) (by simp),
        fun hp => absurd hp hnone, ?_⟩
      rw [State.pic_clearEvent, State.pic_setPic_self, State.pic_setPic_zero_one]
      exact hslave
    · have hne : w.2 ≠ .clearPending := by
        rw [heffect]
        decide
      have hframe : LatchFrame (s.setPic 0 w.1) :=
        hs.toLatchFrame.write_zero hwrite (fun hp => ⟨hp, hne⟩) (by simp) (by simp)
      refine latchInvariant_picService_zero hframe (fun hp => ?_) ?_
        (fun hinj => hquiet heffect (Or.inl hinj)) hservice
      · rw [State.pic_setPic_self]
        exact (hkeeps ⟨hp, hne⟩).imp_right And.right
      · rw [State.pic_setPic_self, State.pic_setPic_zero_one]
        exact hslave
  · have hcascade : w.1.cascade = false := Pic.cascade_of_write hwrite hs.slaveCascade
    have hframe : LatchFrame (s.setPic 1 w.1) := by
      refine ⟨?_, ?_, ?_, ?_⟩
      · rw [State.pic_setPic_one_zero]
        exact hs.pending
      · rw [State.pic_setPic_one_zero]
        exact hs.initialising
      · rw [State.pic_setPic_self]
        exact hcascade
      · rw [State.pic_setPic_one_zero]
        exact hs.edge
    have hmaster : s.pendingIntr = true → ((s.setPic 1 w.1).pic 0).latchGood := by
      rw [State.pic_setPic_one_zero]
      exact hs.master
    rw [if_neg (show ¬ (1 : Fin 2) = 0 by decide)] at hkeeps
    have hslave : ((s.setPic 1 w.1).pic 0).awaitsSlave →
        ((s.setPic 1 w.1).pic 1).latchGood ∨
          (w.2 = .service ∧ ((s.setPic 1 w.1).pic 1).relatches) := by
      rw [State.pic_setPic_one_zero, State.pic_setPic_self]
      exact hkeeps
    rcases heffects with ⟨heffect, rfl⟩ | ⟨heffect, rfl⟩ | ⟨heffect, hservice⟩
    · refine ⟨hframe, hmaster, fun hawaits => (hslave hawaits).resolve_right fun hre => ?_⟩
      rw [heffect] at hre
      cases hre.1
    · have hframe' : LatchFrame ((s.setPic 1 w.1).clearEvent eventPendingIntr) :=
        hframe.of_setup (fun hp => by simp at hp) rfl rfl rfl rfl rfl
      refine ⟨hframe', fun hp => by simp at hp,
        fun hawaits => (hslave hawaits).resolve_right fun hre => ?_⟩
      rw [heffect] at hre
      cases hre.1
    · exact latchInvariant_picService_one hframe hmaster
        (fun hawaits => (hslave hawaits).imp_right And.right) (hquiet heffect) hservice

lemma latchInvariant_step {op : PicOp} (hs : LatchInvariant s) (hop : LatchStep s op)
    (h : picStep s op = .ok t) : LatchInvariant t := by
  cases op with
  | picRaiseIrq irqNumber =>
      obtain ⟨u, hu, hline⟩ := exists_of_picRaiseIrq h
      have hkeeps := ioApicClosed_keepsPic.forward hu
      refine latchInvariant_raiseLine (hs.of_keepsPic hkeeps) (fun hraises => ?_) hline
      have hraised : (u.raised irqNumber).pic = (s.raised irqNumber).pic := by
        simp only [State.raised, State.setPic, hkeeps.pic]
      rw [injectsOn_congr hraised, hkeeps.pic]
      exact hop (by simpa only [State.raises, hkeeps.pic] using hraises)
  | picLowerIrq irqNumber =>
      simp only [picStep, Except.ok.injEq] at h
      obtain ⟨u, hu, hline⟩ := exists_picLowerIrq irqNumber s
      have hkeeps := ioApicClosed_keepsPic.lowerForward hu
      rw [← h, hline]
      refine latchInvariant_lowerLine (hs.of_keepsPic hkeeps) ?_
      rw [hkeeps.pic, hkeeps.pendingIntr]
      exact hop
  | picPortIoWrite address value => exact latchInvariant_write hs hop h
  | picIAC =>
      obtain ⟨v, hiac⟩ := exists_of_picStep_iac h
      exact latchInvariant_picIAC hs hop hiac

lemma latchInvariant_initial (gvm : List Ioctl → Ioctl → Bool) :
    LatchInvariant (State.initial gvm) where
  pending := by
    intro hp
    simp [State.initial, State.pendingIntr] at hp
  initialising := by rintro (hi | hi) <;> cases hi
  slaveCascade := by
    show Word.has (0 : BitVec 8) icw3CascadeEnable = false
    decide
  edge := by
    show Word.has (0 : BitVec 8) (irqBit 2) = false
    decide
  master := by
    intro hp
    simp [State.initial, State.pendingIntr] at hp
  slave := by
    rintro ⟨-, hreq⟩
    simp [State.initial, Pic.initial, Pic.requested] at hreq

/-- Good latches make a real acknowledge. -/
lemma LatchInvariant.acknowledgesRequest {op : PicOp} (hs : LatchInvariant s)
    (hscope : IacWhilePending s op) : AcknowledgesRequest s op := by
  have hvector : ∀ p : Pic, p.interruptNumber = BitVec.ofNat 8 p.latchedIrq + p.currentOffset := by
    intro p
    unfold Pic.latchedIrq
    rw [BitVec.ofNat_toNat, BitVec.setWidth_eq, BitVec.sub_add_cancel]
  cases op with
  | picIAC =>
      intro v t hiac
      have hp := hscope rfl
      have hgood := hs.master hp
      refine ⟨hgood, ?_⟩
      rcases picIAC_cases hiac with ⟨hirq, hv, -⟩ | ⟨hirq, hv, -⟩
      · rw [if_neg hirq, hv]
        exact hvector _
      · rw [if_pos hirq, hv]
        have hreq := hgood.2.1
        rw [hirq] at hreq
        exact ⟨hs.slave ⟨Or.inl (hs.pending hp).1, hreq⟩, hvector _⟩
  | _ => trivial

end Step

/-- **The PICs acknowledge only real requests**, on runs that spoil no latch that counts. -/
theorem pic_acknowledges_requests (gvm : List Ioctl → Ioctl → Bool) (ops : List PicOp)
    (hscope : Meets picStep IacWhilePending (State.initial gvm) ops)
    (hops : Meets picStep LatchStep (State.initial gvm) ops) :
    Meets picStep AcknowledgesRequest (State.initial gvm) ops :=
  Meets.of_invariant (I := LatchInvariant) (P := fun s op => IacWhilePending s op ∧ LatchStep s op)
    (fun _ _ _ hs hop => latchInvariant_step hs hop.2)
    (fun _ _ hs hop => hs.acknowledgesRequest hop.1)
    (latchInvariant_initial gvm) (hscope.and hops)

/-- A slave interrupt over a master interrupt, each acknowledged. -/
theorem pic_acknowledges_requests_cascaded :
    Meets picStep AcknowledgesRequest (State.initial fun _ _ => true)
      (picPairSetup ++ [.picRaiseIrq 5, .picRaiseIrq 9, .picIAC, .picIAC]) :=
  pic_acknowledges_requests _ _ (by decide) (by decide)

/-- A line lowered after it was latched is acknowledged all the same. -/
theorem pic_acknowledges_unrequested :
    Meets picStep IacWhilePending (State.initial fun _ _ => true)
        (picPairSetup ++ [.picRaiseIrq 3, .picLowerIrq 3, .picIAC]) ∧
      ¬ Meets picStep AcknowledgesRequest (State.initial fun _ _ => true)
        (picPairSetup ++ [.picRaiseIrq 3, .picLowerIrq 3, .picIAC]) := by
  decide

end Svmm
