import Svmm.Properties.Pic.Commands

/-!
# The lines of the two PICs

A device raises and lowers its line.  `PicRaiseIrq` acts on a rising edge only, which it
recognises by a pin bit that lowering has to clear; `PicLowerIrq` turns back at every line
above 7, so the pin of a slave line stays set once it was raised, and every later raise of
that line is dropped.
-/

namespace Svmm

open TransitionRun

/-! ## What `PicService` leaves alone -/

/-- A relation that every store of `PicService` respects. -/
structure PicServiceClosed (R : State → State → Prop) : Prop where
  trans : ∀ {s t u}, R s t → R t u → R s u
  latch : ∀ i irq s, R s (s.setPic i ((s.pic i).latch irq))
  raiseTwo : ∀ s, R s (s.setPic 0 ((s.pic 0).raiseLine 2))
  of_pic : ∀ {s t : State}, t.pic = s.pic → R s t

namespace PicServiceClosed

variable {R : State → State → Prop} (hR : PicServiceClosed R) {s t : State}

include hR

lemma refl (s : State) : R s s := hR.of_pic rfl

lemma serviceSpecialMask (i : Fin 2) (irqs : List ℕ) : R s (picServiceSpecialMask i irqs s) := by
  induction irqs generalizing s with
  | nil => exact hR.refl s
  | cons irq irqs ih =>
      unfold picServiceSpecialMask
      dsimp only
      split_ifs
      · exact ih
      · refine hR.trans (hR.latch i irq s) (hR.trans (hR.of_pic ?_) ih)
        rfl
      · exact hR.trans (hR.latch i irq s) (hR.of_pic rfl)
      · exact ih

lemma served {raiseIrq2 : State → Outcome State} {i : Fin 2}
    (hraise : ∀ {u v}, raiseIrq2 u = .ok v → R u v) (h : PicServed raiseIrq2 i s t) : R s t := by
  cases h with
  | specialMask hmode => exact hR.serviceSpecialMask i _
  | unmoded hmode hnested => exact hR.refl s
  | idle hmode hnested hnext => exact hR.refl s
  | opened hmode hnested hnext hcascade => exact hR.trans (hR.latch i _ s) (hR.of_pic rfl)
  | forwarded hmode hnested hnext hcascade hcall => exact hR.trans (hR.latch i _ s) (hraise hcall)

lemma raiseCascade (h : picRaiseCascade s = .ok t) : R s t := by
  unfold picRaiseCascade at h
  split_ifs at h
  · obtain rfl := Except.ok.inj h
    exact hR.refl s
  · refine hR.trans (hR.raiseTwo s) (hR.served (fun hok => ?_) (picServed_of_picServiceWith h))
    obtain rfl := Except.ok.inj hok
    exact hR.refl _

lemma service {i : Fin 2} (h : picService i s = .ok t) : R s t :=
  hR.served hR.raiseCascade (picServed_of_picService h)

end PicServiceClosed

/-! ## Requests -/

/-- No request is withdrawn. -/
def KeepsRequests (s t : State) : Prop :=
  ∀ (j : Fin 2) (k : ℕ), k < 8 → (s.pic j).requested k = true → (t.pic j).requested k = true

lemma picServiceClosed_keepsRequests : PicServiceClosed KeepsRequests where
  trans h h' j k hk hreq := h' j k hk (h j k hk hreq)
  latch i irq s j k _ hreq := by
    by_cases hj : j = i
    · subst hj
      simpa [State.setPic, Pic.latch, Pic.requested] using hreq
    · simpa [State.setPic, hj] using hreq
  raiseTwo s j k hk hreq := by
    by_cases hj : j = 0
    · subst hj
      rw [State.pic_setPic_self, Pic.requested_raiseLine (by omega) hk, hreq, Bool.true_or]
    · simpa [State.setPic, hj] using hreq
  of_pic h j k _ hreq := by
    rw [h]
    exact hreq

/-! ## One lower and the raise after it -/

/-- A line that devices drive: not the one between the two controllers. -/
abbrev DeviceLine : Type := { irqNumber : BitVec 8 // irqNumber.toNat ≤ 15 ∧ irqNumber ≠ 2 }

/-- The PIC's part of `PicRaiseIrq` with the evaluation it ends in as a parameter. -/
def picRaiseLineWith (service : Fin 2 → State → Outcome State) (irqNumber : BitVec 8)
    (s : State) : Outcome State :=
  let i := picOf irqNumber
  let irq := irqNumber.toNat % 8
  if 15 < irqNumber.toNat ∨ (s.pic i).pin irq = true then .ok s
  else service i (s.setPic i ((s.pic i).raiseLine irq))

lemma picRaiseLineWith_picService : picRaiseLineWith picService = picRaiseLine := rfl

/-- The line has its request bit set on the controller that owns it. -/
def State.lineRequested (s : State) (irqNumber : BitVec 8) : Prop :=
  (s.pic (picOf irqNumber)).requested (irqNumber.toNat % 8) = true

/-- The line's pin is set. -/
def State.linePinned (s : State) (irqNumber : BitVec 8) : Prop :=
  (s.pic (picOf irqNumber)).pin (irqNumber.toNat % 8) = true

instance (s : State) (irqNumber : BitVec 8) : Decidable (s.lineRequested irqNumber) :=
  inferInstanceAs (Decidable (_ = _))

instance (s : State) (irqNumber : BitVec 8) : Decidable (s.linePinned irqNumber) :=
  inferInstanceAs (Decidable (_ = _))

/-- A raise that follows a lower of the line from `s` is seen: with the line requested,
the controller that owns it is evaluated, whatever evaluating it does, and the line is still
requested when the raise returns.  `t` is what the I/O APIC's part of the raise leaves; it does
not touch the controllers. -/
structure EdgeSeen (s : State) (irqNumber : BitVec 8) : Prop where
  evaluates : ∀ t : State, t.pic = (picLowerIrq irqNumber s).pic →
    ∃ u : State, u.lineRequested irqNumber ∧
      ∀ service, picRaiseLineWith service irqNumber t = service (picOf irqNumber) u
  requests : ∀ v, picRaiseIrq irqNumber (picLowerIrq irqNumber s) = .ok v →
    v.lineRequested irqNumber

section Edge

variable {s t : State} {irqNumber : BitVec 8}

/-- After a lower, the pin is set of a slave line that had it set, and of no other line. -/
lemma linePinned_picLowerLine :
    (picLowerLine irqNumber s).linePinned irqNumber ↔
      7 < irqNumber.toNat ∧ s.linePinned irqNumber := by
  have hline : irqNumber.toNat % 8 < 8 := Nat.mod_lt _ (by decide)
  unfold picLowerLine State.linePinned
  cases hpin : (s.pic (picOf irqNumber)).pin (irqNumber.toNat % 8) with
  | false => simp [hpin]
  | true =>
      by_cases hslave : 7 < irqNumber.toNat
      · simp [hslave, hpin]
      · simp [hslave, hpin, Pic.pin_lowerLine hline hline]

lemma pic_of_lower (hforward : irqNumber ≠ 2 ∧ t = ioApicLowerIrq irqNumber s ∨
    irqNumber = 2 ∧ t = s) : t.pic = s.pic := by
  rcases hforward with ⟨-, rfl⟩ | ⟨-, rfl⟩
  · exact (ioApicClosed_keepsPic.lowerIrq irqNumber).pic
  · rfl

lemma linePinned_picLowerIrq :
    (picLowerIrq irqNumber s).linePinned irqNumber ↔
      7 < irqNumber.toNat ∧ s.linePinned irqNumber := by
  obtain ⟨u, hforward, hlower⟩ := exists_picLowerIrq irqNumber s
  rw [hlower, linePinned_picLowerLine, State.linePinned, State.linePinned, pic_of_lower hforward]

lemma lineRequested_raised (irqNumber : BitVec 8) (s : State) :
    (s.raised irqNumber).lineRequested irqNumber := by
  have hline : irqNumber.toNat % 8 < 8 := Nat.mod_lt _ (by decide)
  rw [State.lineRequested, State.raised, State.pic_setPic_self,
    Pic.requested_raiseLine hline hline]
  simp

/-- With the pin clear, the raise sets the request bit and evaluates the controller. -/
lemma picRaiseLineWith_of_clear (hle : irqNumber.toNat ≤ 15) (hpin : ¬ s.linePinned irqNumber)
    (service : Fin 2 → State → Outcome State) :
    picRaiseLineWith service irqNumber s = service (picOf irqNumber) (s.raised irqNumber) := by
  refine if_neg ?_
  rintro (hlarge | hset)
  · omega
  · exact hpin hset

/-- With the pin set, the raise is dropped. -/
lemma picRaiseLineWith_of_pinned (hpin : s.linePinned irqNumber)
    (service : Fin 2 → State → Outcome State) : picRaiseLineWith service irqNumber s = .ok s :=
  if_pos (Or.inr hpin)

/-- The edge is seen exactly when the line is the master's or its pin is clear. -/
theorem edgeSeen_iff (s : State) (line : DeviceLine) :
    EdgeSeen s line.1 ↔ line.1.toNat ≤ 7 ∨ ¬ s.linePinned line.1 := by
  obtain ⟨irqNumber, hle, -⟩ := line
  have hlower : (picLowerIrq irqNumber s).linePinned irqNumber ↔ _ := linePinned_picLowerIrq
  constructor
  · intro h
    by_contra hnot
    rw [not_or, not_le, not_not] at hnot
    obtain ⟨u, -, hall⟩ := h.evaluates _ rfl
    -- a dropped raise returns even where evaluating would not
    have hdropped := hall fun _ _ => .error .hang
    rw [picRaiseLineWith_of_pinned (hlower.mpr hnot)] at hdropped
    cases hdropped
  · intro h
    have hclear : ¬ (picLowerIrq irqNumber s).linePinned irqNumber := by
      rw [hlower]
      rintro ⟨hslave, hpin⟩
      rcases h with hmaster | hunpinned
      · exact absurd hslave (Nat.not_lt.mpr hmaster)
      · exact hunpinned hpin
    refine ⟨fun t ht => ⟨t.raised irqNumber, lineRequested_raised irqNumber t, ?_⟩,
      fun v hv => ?_⟩
    · refine picRaiseLineWith_of_clear hle ?_
      rw [State.linePinned, ht]
      exact hclear
    · obtain ⟨u, hforward, hraise⟩ := exists_of_picRaiseIrq hv
      have hpic := (ioApicClosed_keepsPic.forward hforward).pic
      rw [← picRaiseLineWith_picService, picRaiseLineWith_of_clear hle] at hraise
      · exact picServiceClosed_keepsRequests.service hraise _ _ (Nat.mod_lt _ (by decide))
          (lineRequested_raised irqNumber u)
      · rw [State.linePinned, hpic]
        exact hclear

end Edge

/-! ## Runs -/

/-- The line an input lowers has its next edge seen. -/
def LowerKeepsEdges (s : State) (op : Op) : Prop :=
  ∀ line : DeviceLine, op = .picLowerIrq line.1 → EdgeSeen s line.1

/-- No slave line is lowered whose pin is set. -/
def LowersUnpinned (s : State) (op : Op) : Prop :=
  ∀ line : DeviceLine, op = .picLowerIrq line.1 → line.1.toNat ≤ 7 ∨ ¬ s.linePinned line.1

/-- **PIC edges are not swallowed**, in a run from power-on, exactly when no slave line is
lowered while its pin is set. -/
theorem pic_edges_seen_iff (gvm : List Ioctl → Ioctl → Bool) (ops : List Op) :
    Meets step LowerKeepsEdges (State.initial gvm) ops ↔
      Meets step LowersUnpinned (State.initial gvm) ops :=
  Meets.congr fun s _ => forall_congr' fun line => imp_congr_right fun _ => edgeSeen_iff s line

/-- Irq 14 is raised, acknowledged and ended. -/
def slaveIrqServed : List Op :=
  picsSetup ++
    [.picRaiseIrq 14, .irqWindowOpen, .picPortIoWrite 0xA0 0x20, .picPortIoWrite 0x20 0x20]

/-- The next edge of irq 14 is dropped: its request bit is not set again. -/
theorem pic_slave_edge_swallowed :
    ¬ Meets step LowerKeepsEdges (State.initial fun _ _ => true)
      (slaveIrqServed ++ [.picLowerIrq 14]) := by
  intro h
  obtain ⟨s, hrun, hdropped⟩ := exists_of_ends
    (fun s => ends (fun v => ¬ v.lineRequested 14) (picRaiseIrq 14 (picLowerIrq 14 s)) = true)
    (r := run step (State.initial fun _ _ => true) slaveIrqServed) (by decide +kernel)
  obtain ⟨v, hv, hnot⟩ := exists_of_ends _ hdropped
  exact hnot ((h.after hrun ⟨14, by decide⟩ rfl).requests v hv)

end Svmm
