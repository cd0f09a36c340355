import Svmm.Properties.IoApic.Entry
import Svmm.Properties.Frames

/-!
# Edge-triggered interrupts through the I/O APIC

An edge raise is to be delivered once: at the raise if the pin is unmasked, else at the first
service that finds it unmasked.  `due` is that promise, kept beside the state by `edgeStep`: a
raise of a line that was not asserted makes a delivery due, and the next service of the
unmasked pin settles it.  `DeliversOnce` compares it with the bus calls the code makes.

The code keeps the same promise in the `Irr` bit of the line, which it clears on the bus's
success status only.  The two agree as long as the pin is not served in a delivery mode the bus
has no success status for.
-/

namespace Svmm

open TransitionRun

/-! ## The service of one pin in a scan -/

/-- What a scan of other pins leaves alone about a pin. -/
structure KeepsPin (pin : Fin 24) (s t : State) : Prop where
  entry : t.entry pin = s.entry pin
  asserted : t.asserted pin = s.asserted pin
  calls : t.busCalls.count pin = s.busCalls.count pin
  priority : KeepsPriority s t

section Scan

variable {s t : State} {pin : Fin 24}

lemma KeepsPin.trans {u : State} (h : KeepsPin pin s t) (h' : KeepsPin pin t u) :
    KeepsPin pin s u where
  entry := h'.entry.trans h.entry
  asserted := h'.asserted.trans h.asserted
  calls := h'.calls.trans h.calls
  priority := ioApicClosed_keepsPriority.trans h.priority h'.priority

lemma KeepsPin.refl (s : State) : KeepsPin pin s s :=
  ⟨rfl, rfl, rfl, ioApicClosed_keepsPriority.refl s⟩

lemma keepsPin_of_sent {other : Fin 24} (hsent : IoApicSent other s t) (hne : pin ≠ other) :
    KeepsPin pin s t where
  entry := hsent.entry_of_ne hne
  asserted := hsent.asserted_of_ne hne
  calls := by
    rw [hsent.busCalls_eq]
    split_ifs
    · rfl
    · rw [List.count_cons_of_ne hne.symm]
  priority := ioApicClosed_keepsPriority.sent hsent

lemma keepsPin_of_run {pins : List (Fin 24)} (hfresh : pin ∉ pins)
    (hrun : run ioApicServicePin s pins = .ok t) : KeepsPin pin s t := by
  induction pins generalizing s with
  | nil =>
      obtain rfl : s = t := by simpa using hrun
      exact KeepsPin.refl s
  | cons other pins ih =>
      obtain ⟨u, hu, hrest⟩ := run_cons_ok.mp hrun
      rw [List.mem_cons, not_or] at hfresh
      have htail := ih hfresh.2 hrest
      rcases ioApicServicePin_cases hu with ⟨-, rfl⟩ | ⟨-, hsent⟩
      · exact htail
      · exact (keepsPin_of_sent hsent hfresh.1).trans htail

/-- The bus has a success status for this entry: it is heard, or taken as fixed. -/
def State.delivers (s : State) (pin : Fin 24) : Prop :=
  (s.entry pin).heardBy s.lapic ∨ (s.entry pin).fixed

/-- What `IoApicSetIntr` leaves of an entry besides bits 12 and 14. -/
lemma low_sent (hsent : IoApicSent pin s t) {i : ℕ} (hirr : i ≠ ioApicIrr)
    (hstatus : i ≠ ioApicDeliveryStatus) :
    Word.has (t.entry pin).low i = Word.has (s.entry pin).low i := by
  rcases hsent.ioApic_eq with heq | ⟨status, heq⟩
  · simp only [State.entry, heq]
  · simp only [State.entry, heq, IoApic.afterBus, IoApic.setEntry]
    split_ifs <;> simp [hirr.symm, hstatus.symm]

/-- One call of `IoApicSetIntr` for an asserted edge pin: masked, nothing happens; unmasked, one
bus call, and the line is consumed when the bus can succeed. -/
lemma sent_edge (hsent : IoApicSent pin s t) (hedge : (s.entry pin).levelSensitive = false)
    (hirr : s.asserted pin = true) :
    t.busCalls.count pin =
        s.busCalls.count pin + (if (s.entry pin).masked then 0 else 1) ∧
      ((s.entry pin).masked = true ∨ s.delivers pin →
        t.asserted pin = (s.entry pin).masked) := by
  have hheld : (s.entry pin).held = (s.entry pin).masked := by
    simp [IoRedirectEntry.held, hedge]
  have hcalls := hsent.busCalls_eq
  rw [hheld] at hcalls
  have hedge' : (s.ioApic.ioRedirectTable pin).levelSensitive = false := hedge
  have hconsumed : Word.has (s.ioApic.afterBus pin 0).irr pin = false := by
    rw [irr_afterBus]
    simp [hedge']
  cases hmask : (s.entry pin).masked with
  | true =>
      rw [hmask, if_pos rfl] at hcalls
      refine ⟨by rw [hcalls]; rfl, fun _ => ?_⟩
      cases hsent with
      | held _ => exact hirr
      | heard hnot hhears => rw [hheld, hmask] at hnot; cases hnot
      | dropped hnot hdeaf hfixed => rw [hheld, hmask] at hnot; cases hnot
      | refused hnot hdeaf hfixed hcall => rw [hheld, hmask] at hnot; cases hnot
  | false =>
      rw [hmask, if_neg Bool.false_ne_true] at hcalls
      refine ⟨by rw [hcalls, List.count_cons_self]; rfl, fun hsucceeds => ?_⟩
      have hdelivers := hsucceeds.resolve_left Bool.false_ne_true
      cases hsent with
      | held hyes => rw [hheld, hmask] at hyes; cases hyes
      | heard hnot hhears => exact hconsumed
      | dropped hnot hdeaf hfixed => exact hconsumed
      | refused hnot hdeaf hfixed hcall => exact absurd hdelivers (not_or.mpr ⟨hdeaf, hfixed⟩)

/-- A service makes one bus call for an edge pin that is asserted and unmasked, none otherwise,
and leaves the line asserted only while it is masked. -/
lemma service_edge (hservice : ioApicService s = .ok t)
    (hedge : (s.entry pin).levelSensitive = false)
    (hdelivers : s.asserted pin = true → (s.entry pin).masked = false → s.delivers pin) :
    t.busCalls.count pin = s.busCalls.count pin +
        (if s.asserted pin = true ∧ (s.entry pin).masked = false then 1 else 0) ∧
      t.asserted pin = (s.asserted pin && (s.entry pin).masked) ∧
      ∀ i, i ≠ ioApicIrr → i ≠ ioApicDeliveryStatus →
        Word.has (t.entry pin).low i = Word.has (s.entry pin).low i := by
  have hrun : run ioApicServicePin s (List.finRange 24) = .ok t := by
    rw [← ioApicServicePins_eq_run]
    exact hservice
  -- the pin is met once, with the entry and line it had before the scan
  obtain ⟨before, after, hsplit⟩ := List.append_of_mem (List.mem_finRange pin)
  have hnodup := List.nodup_finRange 24
  rw [hsplit] at hrun hnodup
  obtain ⟨hbefore, hafter⟩ : pin ∉ before ∧ pin ∉ after := by
    rw [List.nodup_append, List.nodup_cons] at hnodup
    exact ⟨fun hmem => hnodup.2.2 pin hmem pin List.mem_cons_self rfl, hnodup.2.1.1⟩
  obtain ⟨u, hu, hrest⟩ := run_append_ok.mp hrun
  obtain ⟨v, hv, hrest⟩ := run_cons_ok.mp hrest
  have hkeep := keepsPin_of_run hbefore hu
  have hkeep' := keepsPin_of_run hafter hrest
  rw [hkeep'.calls, hkeep'.asserted, hkeep'.entry, ← hkeep.calls, ← hkeep.asserted, ← hkeep.entry]
  have hedge' : (u.entry pin).levelSensitive = false := by rw [hkeep.entry]; exact hedge
  rcases ioApicServicePin_cases hv with ⟨hirr, rfl⟩ | ⟨hirr, hsent⟩
  · simp [hirr]
  · obtain ⟨hcalls, hline⟩ := sent_edge hsent hedge' hirr
    have hsucceeds : (u.entry pin).masked = true ∨ u.delivers pin := by
      cases hmask : (u.entry pin).masked with
      | true => exact Or.inl rfl
      | false =>
          right
          have hs := hdelivers (by rw [← hkeep.asserted]; exact hirr)
            (by rw [← hkeep.entry]; exact hmask)
          unfold State.delivers at hs ⊢
          rw [hkeep.entry, hkeep.priority.heardBy_iff]
          exact hs
    refine ⟨?_, ?_, fun i => low_sent hsent⟩
    · rw [hcalls, hirr]
      cases (u.entry pin).masked <;> simp
    · rw [hline hsucceeds, hirr, Bool.true_and]

end Scan

/-! ## What an operation raises and serves -/

/-- A raise of the pin while its line is not asserted. -/
def freshRaise (pin : Fin 24) (s : State) : Op → Bool
  | .ioApicRaiseIrq irqNumber => decide (ioApicPin irqNumber = some pin) && !s.asserted pin
  | _ => false

/-- The state in which the operation runs `IoApicService`, if it does. -/
def serviceState (s : State) : Op → Option State
  | .ioApicRaiseIrq irqNumber =>
      match ioApicPin irqNumber with
      | none => none
      | some pin =>
          if (s.entry pin).levelSensitive = true ∨ s.asserted pin = false then
            some (s.assertLine pin)
          else none
  | .ioApicMMIOWrite address value =>
      if h : ioApicEntryIndex s.ioApic.ioRegisterSelect < 24 then
        if s.writesEntry address ⟨_, h⟩ then
          some (s.setIoApic (s.ioApic.writeEntry ⟨_, h⟩ value))
        else none
      else none
  | _ => none

/-- The operation serves the pin unmasked. -/
def servesPin (pin : Fin 24) (s : State) (op : Op) : Bool :=
  match serviceState s op with
  | some u => !(u.entry pin).masked
  | none => false

/-- A step, with the promise `due` beside the state. -/
def edgeStep (pin : Fin 24) (u : State × Bool) (op : Op) : Outcome (State × Bool) := do
  let t ← step u.1 op
  .ok (t, (u.2 || freshRaise pin u.1 op) && !servesPin pin u.1 op)

/-- The step makes one bus call for the pin when a delivery is due and the pin is served, and
none otherwise; and no raise comes while the one before it is still due. -/
def DeliversOnce (pin : Fin 24) (u : State × Bool) (op : Op) : Prop :=
  match step u.1 op with
  | .ok t =>
      t.busCalls.count pin = u.1.busCalls.count pin +
          (if ((u.2 || freshRaise pin u.1 op) && servesPin pin u.1 op) = true then 1 else 0) ∧
        (freshRaise pin u.1 op = true → u.2 = false)
  | .error _ => True

/-- Raises, lowers and I/O APIC writes, with the pin programmed edge-triggered whenever it is
programmed. -/
def EdgeProgrammed (pin : Fin 24) (u : State × Bool) : Op → Prop
  | .ioApicRaiseIrq _ | .ioApicLowerIrq _ => True
  | .ioApicMMIOWrite address value =>
      u.1.writesEntry address pin → Word.has u.1.ioApic.ioRegisterSelect 0 = false →
        Word.has value ioApicLevelSensitive = false
  | _ => False

/-- The pin is not served asserted and unmasked in a delivery mode other than fixed and lowest
priority. -/
def ServedAsInterrupt (pin : Fin 24) (u : State × Bool) (op : Op) : Prop :=
  ∀ v ∈ serviceState u.1 op, v.asserted pin = true → (v.entry pin).masked = false →
    (v.entry pin).deliveryMode = deliveryModeFixed ∨
      (v.entry pin).deliveryMode = deliveryModeLowPri

instance (pin : Fin 24) (u : State × Bool) (op : Op) : Decidable (DeliversOnce pin u op) :=
  match h : step u.1 op with
  | .ok t => decidable_of_iff (t.busCalls.count pin = u.1.busCalls.count pin +
      (if ((u.2 || freshRaise pin u.1 op) && servesPin pin u.1 op) = true then 1 else 0) ∧
        (freshRaise pin u.1 op = true → u.2 = false)) (by rw [DeliversOnce, h])
  | .error _ => isTrue (by rw [DeliversOnce, h]; trivial)

instance (pin : Fin 24) (u : State × Bool) : ∀ op, Decidable (EdgeProgrammed pin u op)
  | .ioApicRaiseIrq _ | .ioApicLowerIrq _ => isTrue trivial
  | .ioApicMMIOWrite _ _ => inferInstanceAs (Decidable (_ → _ → _ = false))
  | .picRaiseIrq _ | .picLowerIrq _ | .picPortIoWrite _ _ | .apicSetIrq _ _
  | .apicWriteTaskPriority _ | .apicWriteSpuriousInterrupt _ | .apicReceiveEOI
  | .apicAcknowledgeInterrupt | .irqWindowOpen => isFalse id

instance (pin : Fin 24) (u : State × Bool) (op : Op) : Decidable (ServedAsInterrupt pin u op) :=
  inferInstanceAs (Decidable (∀ v ∈ serviceState u.1 op, _))

/-! ## The invariant -/

/-- The line of the pin stands for a delivery that is due, the pin is edge-triggered, and the
local APIC is a focus processor. -/
structure EdgeInvariant (pin : Fin 24) (u : State × Bool) : Prop where
  due : u.2 = u.1.asserted pin
  edge : (u.1.entry pin).levelSensitive = false
  focus : u.1.lapic.focusDisable = 0
  enabled : u.1.lapic.msrEnable ≠ 0

section Step

variable {pin : Fin 24} {s t : State}

/-- With a focus processor the bus has a success status for fixed and lowest priority. -/
lemma delivers_of_mode (hfocus : s.lapic.focusDisable = 0) (hmsr : s.lapic.msrEnable ≠ 0)
    (hmode : (s.entry pin).deliveryMode = deliveryModeFixed ∨
      (s.entry pin).deliveryMode = deliveryModeLowPri) : s.delivers pin := by
  by_cases hfixed : (s.entry pin).fixed
  · exact Or.inr hfixed
  · left
    have hlow : (s.entry pin).deliveryMode = deliveryModeLowPri :=
      hmode.resolve_left fun h => hfixed (Or.inl h)
    exact (Lapic.hears_iff_of_not_busFixed hfixed).mpr ⟨hlow, hmsr, Or.inl hfocus⟩

lemma asserted_assertLine (other : Fin 24) :
    (s.assertLine other).asserted pin = (s.asserted pin || decide (other = pin)) := by
  have hlt : (pin : ℕ) < 32 := by omega
  simp only [State.asserted, State.assertLine, State.ioApic_setIoApic, Word.has_set, hlt,
    decide_true, Bool.and_true, Fin.val_inj]

/-- A write keeps the pin edge-triggered when it programs it so. -/
lemma levelSensitive_writeEntry {other : Fin 24} {value : BitVec 32}
    (hedge : (s.entry pin).levelSensitive = false)
    (hvalue : other = pin → Word.has s.ioApic.ioRegisterSelect 0 = false →
      Word.has value ioApicLevelSensitive = false) :
    ((s.ioApic.writeEntry other value).ioRedirectTable pin).levelSensitive = false := by
  by_cases hpin : pin = other
  · subst hpin
    rw [ioRedirectTable_writeEntry_self]
    split_ifs with hhigh
    · exact hedge
    · have hlevel := hvalue rfl (by simpa using hhigh)
      simp only [IoRedirectEntry.levelSensitive, ioApicLowWritten, hlevel, Bool.false_eq_true,
        if_false, Word.has_clear, Bool.false_and]
  · rw [ioRedirectTable_writeEntry_of_ne _ _ hpin]
    exact hedge

/-- The state an operation serves: the line of the pin is asserted as before or by a fresh
raise, and the pin is edge-triggered. -/
lemma serviceState_spec {op : Op} {due : Bool} {u : State}
    (hop : EdgeProgrammed pin (s, due) op) (hedge : (s.entry pin).levelSensitive = false)
    (hu : serviceState s op = some u) :
    u.asserted pin = (s.asserted pin || freshRaise pin s op) ∧
      (u.entry pin).levelSensitive = false ∧ u.busCalls = s.busCalls ∧ u.lapic = s.lapic := by
  cases op with
  | ioApicRaiseIrq irqNumber =>
      simp only [serviceState] at hu
      cases hpin : ioApicPin irqNumber with
      | none => rw [hpin] at hu; cases hu
      | some other =>
          simp only [hpin] at hu
          split_ifs at hu with hserves
          simp only [Option.some.injEq] at hu
          subst hu
          refine ⟨?_, hedge, rfl, rfl⟩
          rw [asserted_assertLine]
          simp only [freshRaise, hpin, Option.some.injEq]
          by_cases heq : other = pin
          · subst heq
            have hclear := hserves.resolve_left (by rw [hedge]; exact Bool.false_ne_true)
            simp [hclear]
          · simp [heq]
  | ioApicMMIOWrite address value =>
      simp only [serviceState] at hu
      split_ifs at hu with hlt hwrites
      simp only [Option.some.injEq] at hu
      subst hu
      refine ⟨by simp [freshRaise, State.asserted], ?_, rfl, rfl⟩
      refine levelSensitive_writeEntry hedge fun heq hlow => ?_
      exact hop (heq ▸ hwrites) hlow
  | ioApicLowerIrq irqNumber => cases hu
  | picRaiseIrq _ | picLowerIrq _ | picPortIoWrite _ _ | apicSetIrq _ _
  | apicWriteTaskPriority _ | apicWriteSpuriousInterrupt _ | apicReceiveEOI
  | apicAcknowledgeInterrupt | irqWindowOpen => exact hop.elim

/-- An operation that serves nothing leaves the pin as it was. -/
lemma step_of_serviceState_none {op : Op} {due : Bool} (hop : EdgeProgrammed pin (s, due) op)
    (hedge : (s.entry pin).levelSensitive = false) (hnone : serviceState s op = none)
    (hstep : step s op = .ok t) :
    freshRaise pin s op = false ∧ t.asserted pin = s.asserted pin ∧
      t.entry pin = s.entry pin ∧ t.busCalls = s.busCalls ∧ t.lapic = s.lapic := by
  cases op with
  | ioApicRaiseIrq irqNumber =>
      rcases ioApicRaiseIrq_cases hstep with
        ⟨hpin, rfl⟩ | ⟨other, hpin, -, hirr, rfl⟩ | ⟨other, hpin, hserves, -⟩
      · exact ⟨by simp [freshRaise, hpin], rfl, rfl, rfl, rfl⟩
      · refine ⟨?_, rfl, rfl, rfl, rfl⟩
        simp only [freshRaise, hpin, Option.some.injEq]
        by_cases heq : other = pin
        · subst heq
          simp [hirr]
        · simp [heq]
      · simp only [serviceState, hpin, if_pos hserves] at hnone
        cases hnone
  | ioApicLowerIrq irqNumber =>
      simp only [step, Except.ok.injEq] at hstep
      rcases ioApicLowerIrq_cases irqNumber s with heq | ⟨other, -, hlevel, heq⟩
      · rw [heq] at hstep
        subst hstep
        exact ⟨rfl, rfl, rfl, rfl, rfl⟩
      · -- only lines of level pins are cleared
        have hne : other ≠ pin := by
          rintro rfl
          rw [hedge] at hlevel
          cases hlevel
        have hval : (other : ℕ) ≠ pin := fun hval => hne (Fin.ext hval)
        rw [heq] at hstep
        subst hstep
        refine ⟨rfl, ?_, rfl, rfl, rfl⟩
        simp [State.asserted, hval]
  | ioApicMMIOWrite address value =>
      rcases ioApicMMIOWriteHandler_cases hstep with ⟨a, rfl, htable, hirr, -⟩ | ⟨other, hwrites, -⟩
      · refine ⟨rfl, ?_, ?_, rfl, rfl⟩
        · simp only [State.asserted, State.ioApic_setIoApic, hirr]
        · simp only [State.entry, State.ioApic_setIoApic, htable]
      · have hindex := hwrites.2.2.2.2
        have hlt : ioApicEntryIndex s.ioApic.ioRegisterSelect < 24 := by
          rw [hindex]
          exact other.isLt
        have hother : (⟨_, hlt⟩ : Fin 24) = other := Fin.ext hindex
        simp only [serviceState, dif_pos hlt] at hnone
        rw [if_pos (hother ▸ hwrites)] at hnone
        cases hnone
  | picRaiseIrq _ | picLowerIrq _ | picPortIoWrite _ _ | apicSetIrq _ _
  | apicWriteTaskPriority _ | apicWriteSpuriousInterrupt _ | apicReceiveEOI
  | apicAcknowledgeInterrupt | irqWindowOpen => exact hop.elim

/-- An operation that serves runs `IoApicService` there. -/
lemma step_of_serviceState_some {op : Op} {u : State} (hu : serviceState s op = some u)
    (hstep : step s op = .ok t) : ioApicService u = .ok t := by
  cases op with
  | ioApicRaiseIrq irqNumber =>
      simp only [serviceState] at hu
      rcases ioApicRaiseIrq_cases hstep with
        ⟨hpin, rfl⟩ | ⟨other, hpin, hlevel, hirr, rfl⟩ | ⟨other, hpin, hserves, hservice⟩
      · rw [hpin] at hu
        cases hu
      · simp [hpin, hlevel, hirr] at hu
      · simp only [hpin, if_pos hserves, Option.some.injEq] at hu
        rwa [← hu]
  | ioApicMMIOWrite address value =>
      simp only [serviceState] at hu
      split_ifs at hu with hlt hwrites
      simp only [Option.some.injEq] at hu
      rcases ioApicMMIOWriteHandler_cases hstep with ⟨a, -, -, -, hnone⟩ |
        ⟨other, hwrites', hservice⟩
      · exact absurd hwrites (hnone _)
      · have hother : (⟨_, hlt⟩ : Fin 24) = other := Fin.ext hwrites'.2.2.2.2
        rw [← hu, hother]
        exact hservice
  | ioApicLowerIrq _ | picRaiseIrq _ | picLowerIrq _ | picPortIoWrite _ _ | apicSetIrq _ _
  | apicWriteTaskPriority _ | apicWriteSpuriousInterrupt _ | apicReceiveEOI
  | apicAcknowledgeInterrupt | irqWindowOpen => cases hu

end Step

section Delivery

variable {pin : Fin 24} {u u' : State × Bool} {op : Op}

/-- Everything a step does to the pin: the line takes over what is due, and the bus is called
when it is served. -/
lemma edgeInvariant_spec {t : State} (h : EdgeInvariant pin u) (hprog : EdgeProgrammed pin u op)
    (hserved : ServedAsInterrupt pin u op) (hstep : step u.1 op = .ok t) :
    t.busCalls.count pin = u.1.busCalls.count pin +
        (if ((u.2 || freshRaise pin u.1 op) && servesPin pin u.1 op) = true then 1 else 0) ∧
      EdgeInvariant pin (t, (u.2 || freshRaise pin u.1 op) && !servesPin pin u.1 op) := by
  cases hu : serviceState u.1 op with
  | none =>
      obtain ⟨hfresh, hirr, hentry, hcalls, hlapic⟩ :=
        step_of_serviceState_none hprog h.edge hu hstep
      have hserves : servesPin pin u.1 op = false := by simp [servesPin, hu]
      refine ⟨by simp [hserves, hcalls], ?_, ?_, ?_, ?_⟩
      · simp [hserves, hfresh, h.due, hirr]
      · rw [hentry]
        exact h.edge
      · rw [hlapic]
        exact h.focus
      · rw [hlapic]
        exact h.enabled
  | some v =>
      have hservice := step_of_serviceState_some hu hstep
      obtain ⟨hirr, hedge, hcalls, hlapic⟩ := serviceState_spec hprog h.edge hu
      have hserves : servesPin pin u.1 op = !(v.entry pin).masked := by simp [servesPin, hu]
      have hdelivers : v.asserted pin = true → (v.entry pin).masked = false → v.delivers pin := by
        intro hv hmask
        have hmode := hserved v hu hv hmask
        exact delivers_of_mode (by rw [hlapic]; exact h.focus) (by rw [hlapic]; exact h.enabled)
          hmode
      obtain ⟨hcount, hline, hlow⟩ := service_edge hservice hedge hdelivers
      have hkeeps := ioApicClosed_keepsPriority.service hservice
      have hdue : (u.2 || freshRaise pin u.1 op) = v.asserted pin := by rw [hirr, h.due]
      refine ⟨?_, ?_, ?_, ?_, ?_⟩
      · rw [hcount, hcalls, hdue, hserves]
        simp
      · rw [hdue, hserves]
        simpa using hline.symm
      · rw [← hedge]
        exact hlow ioApicLevelSensitive (by decide) (by decide)
      · rw [hkeeps.focusDisable, hlapic]
        exact h.focus
      · rw [hkeeps.msrEnable, hlapic]
        exact h.enabled

lemma edgeInvariant_step (h : EdgeInvariant pin u)
    (hop : EdgeProgrammed pin u op ∧ ServedAsInterrupt pin u op)
    (hstep : edgeStep pin u op = .ok u') : EdgeInvariant pin u' := by
  obtain ⟨t, ht, hu⟩ := bind_eq_ok.mp hstep
  simp only [Except.ok.injEq] at hu
  subst hu
  exact (edgeInvariant_spec h hop.1 hop.2 ht).2

lemma EdgeInvariant.deliversOnce (h : EdgeInvariant pin u)
    (hop : EdgeProgrammed pin u op ∧ ServedAsInterrupt pin u op) : DeliversOnce pin u op := by
  unfold DeliversOnce
  split
  · rename_i t ht
    refine ⟨(edgeInvariant_spec h hop.1 hop.2 ht).1, fun hfresh => ?_⟩
    rw [h.due]
    cases op with
    | ioApicRaiseIrq irqNumber =>
        simp only [freshRaise, Bool.and_eq_true, Bool.not_eq_true'] at hfresh
        exact hfresh.2
    | _ => cases hfresh
  · trivial

end Delivery

/-- **Edge interrupts are delivered exactly once**, for a pin programmed edge-triggered and
never served in a mode other than fixed and lowest priority.  On every run of raises, lowers
and redirection-table writes from power-on, each raise of the pin that finds its line clear
makes one delivery due, the first service that finds the pin unmasked makes exactly one bus
call for it, and no other step makes any. -/
theorem ioApic_edge_delivered_once (gvm : List Ioctl → Ioctl → Bool) (pin : Fin 24)
    (ops : List Op)
    (hprog : Meets (edgeStep pin) (EdgeProgrammed pin) (State.initial gvm, false) ops)
    (hserved : Meets (edgeStep pin) (ServedAsInterrupt pin) (State.initial gvm, false) ops) :
    Meets (edgeStep pin) (DeliversOnce pin) (State.initial gvm, false) ops := by
  have hinit : EdgeInvariant pin (State.initial gvm, false) := by
    refine ⟨?_, ?_, rfl, ?_⟩
    · simp [State.asserted, State.initial, IoApic.initial]
    · show ({ high := 0, low := Word.bit ioApicMasked } : IoRedirectEntry).levelSensitive = false
      decide
    · show (1 : BitVec 8) ≠ 0
      decide
  exact Meets.of_invariant (I := EdgeInvariant pin)
    (fun u op u' h hop hstep => edgeInvariant_step h hop hstep)
    (fun u op h hop => h.deliversOnce hop) hinit (hprog.and hserved)

/-- Pin 16 in fixed mode: raised while masked, delivered when unmasked, raised again. -/
theorem ioApic_edge_delivered_once_pin :
    Meets (edgeStep 16) (DeliversOnce 16) (State.initial fun _ _ => true, false)
      [.ioApicRaiseIrq 16, .ioApicMMIOWrite 0 0x30, .ioApicMMIOWrite 0x10 0x31,
        .ioApicRaiseIrq 17, .ioApicRaiseIrq 16] :=
  ioApic_edge_delivered_once _ _ _ (by decide) (by decide)

/-- Pin 16 in SMI mode is delivered at its raise, and again when pin 17 is raised. -/
theorem ioApic_edge_delivered_twice :
    Meets (edgeStep 16) (EdgeProgrammed 16) (State.initial fun _ _ => true, false)
        [.ioApicMMIOWrite 0 0x30, .ioApicMMIOWrite 0x10 0x200, .ioApicRaiseIrq 16,
          .ioApicRaiseIrq 17] ∧
      ¬ Meets (edgeStep 16) (DeliversOnce 16) (State.initial fun _ _ => true, false)
        [.ioApicMMIOWrite 0 0x30, .ioApicMMIOWrite 0x10 0x200, .ioApicRaiseIrq 16,
          .ioApicRaiseIrq 17] := by
  decide

end Svmm
