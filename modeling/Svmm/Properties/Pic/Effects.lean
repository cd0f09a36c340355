import Svmm.Construction.Pic

/-!
# What the PIC functions do

One inversion for each function of `Construction/Pic.lean`: which branch it took and the state
it returned.  Everything later in this directory argues from these and does not unfold the
functions.
-/

namespace Svmm

open TransitionRun

/-! ## `PicService` -/

/-- The ways `PicService(&Pic[i])` returns. -/
inductive PicServed (raiseIrq2 : State → Outcome State) (i : Fin 2) (s : State) : State → Prop where
  /-- The special-mask scan. -/
  | specialMask (hmode : (s.pic i).specialMask = true) :
      PicServed raiseIrq2 i s (picServiceSpecialMask i (List.range 8) s)
  /-- Neither mode bit is set. -/
  | unmoded (hmode : (s.pic i).specialMask = false) (hnested : (s.pic i).fullyNested = false) :
      PicServed raiseIrq2 i s s
  /-- Nothing to request. -/
  | idle (hmode : (s.pic i).specialMask = false) (hnested : (s.pic i).fullyNested = true)
      (hnext : (s.pic i).nextIrq = none) : PicServed raiseIrq2 i s s
  /-- The master asks for a window. -/
  | opened {irq : ℕ} (hmode : (s.pic i).specialMask = false)
      (hnested : (s.pic i).fullyNested = true) (hnext : (s.pic i).nextIrq = some irq)
      (hcascade : (s.pic i).cascade = true) :
      PicServed raiseIrq2 i s
        (((s.setPic i ((s.pic i).latch irq)).setWindow 1).setEvent eventPendingIntr)
  /-- A controller without the cascade bit raises line 2 of the master. -/
  | forwarded {irq : ℕ} {t : State} (hmode : (s.pic i).specialMask = false)
      (hnested : (s.pic i).fullyNested = true) (hnext : (s.pic i).nextIrq = some irq)
      (hcascade : (s.pic i).cascade = false)
      (hraise : raiseIrq2 (s.setPic i ((s.pic i).latch irq)) = .ok t) :
      PicServed raiseIrq2 i s t

lemma picServed_of_picServiceWith {raiseIrq2 : State → Outcome State} {i : Fin 2} {s t : State}
    (h : picServiceWith raiseIrq2 i s = .ok t) : PicServed raiseIrq2 i s t := by
  unfold picServiceWith at h
  dsimp only at h
  cases hmode : (s.pic i).specialMask with
  | true =>
      simp only [hmode, if_true, Except.ok.injEq] at h
      exact h ▸ .specialMask hmode
  | false =>
      cases hnested : (s.pic i).fullyNested with
      | false =>
          simp only [hmode, hnested, Bool.false_eq_true, if_false, Except.ok.injEq] at h
          exact h ▸ .unmoded hmode hnested
      | true =>
          simp only [hmode, hnested, Bool.false_eq_true, if_false, if_true] at h
          cases hnext : (s.pic i).nextIrq with
          | none =>
              simp only [hnext] at h
              split_ifs at h
              simp only [Except.ok.injEq] at h
              exact h ▸ .idle hmode hnested hnext
          | some irq =>
              simp only [hnext] at h
              cases hcascade : (s.pic i).cascade with
              | true =>
                  simp only [hcascade, if_true, Except.ok.injEq] at h
                  exact h ▸ .opened hmode hnested hnext hcascade
              | false =>
                  simp only [hcascade, Bool.false_eq_true, if_false] at h
                  exact .forwarded hmode hnested hnext hcascade h

lemma picServed_of_picService {i : Fin 2} {s t : State} (h : picService i s = .ok t) :
    PicServed picRaiseCascade i s t :=
  picServed_of_picServiceWith h

section Cascade

variable {s : State}

lemma picRaiseCascade_of_pin (h : (s.pic 0).pin 2 = true) : picRaiseCascade s = .ok s := by
  rw [picRaiseCascade, if_pos h]

lemma pin_raiseLine_two (p : Pic) : (p.raiseLine 2).pin 2 = true := by
  simp [Pic.raiseLine, Pic.pin, irqBit]

/-- `PicRaiseIrq(2)` is written with `PicService` in the source.  The two levels of
`picRaiseCascade` are enough: the service of the raised master comes back to line 2 only
without the cascade bit, and then finds the pin set. -/
theorem picRaiseCascade_eq (s : State) :
    picRaiseCascade s =
      if (s.pic 0).pin 2 then .ok s
      else picService 0 (s.setPic 0 ((s.pic 0).raiseLine 2)) := by
  unfold picRaiseCascade
  cases hpin : (s.pic 0).pin 2 with
  | true => rfl
  | false =>
      simp only [Bool.false_eq_true, if_false]
      unfold picService picServiceWith
      have hset : ∀ irq, picRaiseCascade ((s.setPic 0 ((s.pic 0).raiseLine 2)).setPic 0
          (((s.pic 0).raiseLine 2).latch irq)) =
          .ok ((s.setPic 0 ((s.pic 0).raiseLine 2)).setPic 0
            (((s.pic 0).raiseLine 2).latch irq)) := by
        intro irq
        refine picRaiseCascade_of_pin ?_
        rw [State.pic_setPic_self]
        exact pin_raiseLine_two (s.pic 0)
      simp only [State.pic_setPic_self, hset]

end Cascade

/-! ## Lines -/

/-- A raise that PIC hardware sees: a line of the pair whose pin is clear. -/
def State.raises (s : State) (irqNumber : BitVec 8) : Prop :=
  irqNumber.toNat ≤ 15 ∧ (s.pic (picOf irqNumber)).pin (irqNumber.toNat % 8) = false

/-- The state in which a raise runs `PicService`. -/
def State.raised (s : State) (irqNumber : BitVec 8) : State :=
  s.setPic (picOf irqNumber) ((s.pic (picOf irqNumber)).raiseLine (irqNumber.toNat % 8))

instance (s : State) (irqNumber : BitVec 8) : Decidable (s.raises irqNumber) :=
  inferInstanceAs (Decidable (_ ∧ _))

lemma picRaiseLine_eq (irqNumber : BitVec 8) (s : State) :
    picRaiseLine irqNumber s =
      if s.raises irqNumber then picService (picOf irqNumber) (s.raised irqNumber) else .ok s := by
  unfold picRaiseLine
  dsimp only
  by_cases h : s.raises irqNumber
  · rw [if_pos h, if_neg]
    · rfl
    · rintro (hnum | hpin)
      · exact absurd h.1 (by omega)
      · rw [h.2] at hpin
        cases hpin
  · rw [if_neg h, if_pos]
    rw [State.raises, not_and_or, not_le, Bool.not_eq_false] at h
    exact h

/-- `PicLowerIrq` acts on lines of the master only, and only while the pin is set. -/
lemma picLowerLine_cases (irqNumber : BitVec 8) (s : State) :
    picLowerLine irqNumber s = s ∨
      irqNumber.toNat ≤ 7 ∧ (s.pic 0).pin irqNumber.toNat = true ∧
        picLowerLine irqNumber s = s.setPic 0 ((s.pic 0).lowerLine irqNumber.toNat) := by
  unfold picLowerLine
  dsimp only
  split_ifs with h
  · exact Or.inl rfl
  · rw [not_or, not_lt] at h
    obtain ⟨hnum, hpin⟩ := h
    have hof : picOf irqNumber = 0 := by simp [picOf, Nat.not_lt.mpr hnum]
    have hmod : irqNumber.toNat % 8 = irqNumber.toNat := Nat.mod_eq_of_lt (by omega)
    rw [hof, hmod] at hpin ⊢
    exact Or.inr ⟨hnum, by simpa using hpin, rfl⟩

/-! ## Port writes -/

/-- The controller a port write is for, and what it stores and asks for. -/
def picWritten (address : BitVec 64) (value : BitVec 32) (s : State) :
    Option (Fin 2 × (Pic × PicEffect)) :=
  let i : Fin 2 := if 0xA0 ≤ address.toNat then 1 else 0
  if address = 0x20 ∨ address = 0xA0 then some (i, (s.pic i).writeCommand value)
  else if address = 0x21 ∨ address = 0xA1 then some (i, (s.pic i).writeData i value)
  else none

/-- A port write does nothing, or stores a controller's registers and carries out one
effect. -/
lemma picPortIoWriteHandler_cases {address : BitVec 64} {value : BitVec 32} {s t : State}
    (h : picPortIoWriteHandler address value s = .ok t) :
    (picWritten address value s = none ∧ t = s) ∨
      ∃ i w, picWritten address value s = some (i, w) ∧
        ((w.2 = .none ∧ t = s.setPic i w.1) ∨
          (w.2 = .clearPending ∧ t = (s.setPic i w.1).clearEvent eventPendingIntr) ∨
          (w.2 = .service ∧ picService i (s.setPic i w.1) = .ok t)) := by
  have happly : ∀ {i : Fin 2} {w : Pic × PicEffect}, picApply i w s = .ok t →
      (w.2 = .none ∧ t = s.setPic i w.1) ∨
        (w.2 = .clearPending ∧ t = (s.setPic i w.1).clearEvent eventPendingIntr) ∨
        (w.2 = .service ∧ picService i (s.setPic i w.1) = .ok t) := by
    intro i w hw
    unfold picApply at hw
    dsimp only at hw
    cases heffect : w.2 with
    | none =>
        simp only [heffect, Except.ok.injEq] at hw
        exact Or.inl ⟨rfl, hw.symm⟩
    | service =>
        simp only [heffect] at hw
        exact Or.inr (Or.inr ⟨rfl, hw⟩)
    | clearPending =>
        simp only [heffect, Except.ok.injEq] at hw
        exact Or.inr (Or.inl ⟨rfl, hw.symm⟩)
  unfold picPortIoWriteHandler at h
  unfold picWritten
  dsimp only at h ⊢
  by_cases hcommand : address = 0x20 ∨ address = 0xA0
  · rw [if_pos hcommand] at h
    rw [if_pos hcommand]
    exact Or.inr ⟨_, _, rfl, happly h⟩
  · rw [if_neg hcommand] at h
    rw [if_neg hcommand]
    by_cases hdata : address = 0x21 ∨ address = 0xA1
    · rw [if_pos hdata] at h
      rw [if_pos hdata]
      exact Or.inr ⟨_, _, rfl, happly h⟩
    · rw [if_neg hdata, Except.ok.injEq] at h
      rw [if_neg hdata]
      exact Or.inl ⟨rfl, h.symm⟩

/-! ## Acknowledge -/

/-- The registers after a master interrupt is acknowledged, before `PicService` runs. -/
def State.masterAcknowledged (s : State) : State :=
  (s.clearEvent eventPendingIntr).setPic 0
    (((s.pic 0).consume (s.pic 0).latchedIrq).serve (s.pic 0).latchedIrq)

/-- The registers after a slave interrupt is acknowledged, before `PicService` runs. -/
def State.slaveAcknowledged (s : State) : State :=
  ((s.clearEvent eventPendingIntr).setPic 0
    { (s.pic 0).consume 2 with
      interruptPin := Word.clear (s.pic 0).interruptPin (irqBit 2) }).setPic 1
    (((s.pic 1).consume (s.pic 1).latchedIrq).serve (s.pic 1).latchedIrq)

/-- `PicIAC` acknowledges on the master alone, or on both controllers when the master holds
irq 2. -/
lemma picIAC_cases {s t : State} {v : BitVec 8} (h : picIAC s = .ok (v, t)) :
    ((s.pic 0).latchedIrq ≠ 2 ∧ v = (s.pic 0).interruptNumber ∧
        picService 0 s.masterAcknowledged = .ok t) ∨
      ((s.pic 0).latchedIrq = 2 ∧ v = (s.pic 1).interruptNumber ∧
        ∃ u, picService 1 s.slaveAcknowledged = .ok u ∧ picService 0 u = .ok t) := by
  unfold picIAC at h
  by_cases hirq : (s.pic 0).latchedIrq = 2
  · refine Or.inr ⟨hirq, ?_⟩
    simp only [State.pic_clearEvent, hirq, ne_eq, not_true_eq_false, if_false] at h
    obtain ⟨u, hu, h⟩ := bind_eq_ok.mp h
    obtain ⟨w, hw, h⟩ := bind_eq_ok.mp h
    simp only [Except.ok.injEq, Prod.mk.injEq] at h
    refine ⟨h.1.symm, u, ?_, h.2 ▸ hw⟩
    rw [← hu]
    congr 1
    simp only [State.slaveAcknowledged, State.pic_setPic_zero_one, State.pic_setPic_one_zero,
      State.pic_setPic_self, State.pic_clearEvent, State.setPic_setPic_self,
      State.setPic_one_setPic_zero]
    rfl
  · refine Or.inl ⟨hirq, ?_⟩
    simp only [State.pic_clearEvent, ne_eq, hirq, not_false_eq_true, if_true] at h
    obtain ⟨u, hu, h⟩ := bind_eq_ok.mp h
    simp only [Except.ok.injEq, Prod.mk.injEq] at h
    refine ⟨h.1.symm, ?_⟩
    rw [← h.2, ← hu]
    simp only [State.masterAcknowledged, State.pic_setPic_self, State.setPic_setPic_self]

end Svmm
