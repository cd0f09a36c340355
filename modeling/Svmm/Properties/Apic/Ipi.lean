import Svmm.Construction.Apic.Ipi
import Svmm.Construction.RunLoop
import Svmm.Properties.Apic.Bus

/-!
# Where an interrupt command goes

The bus functions with checked accesses do what those for the one local APIC do, so no access
of theirs is past the end.  The one that is comes from the shorthand for the sender alone: it
indexes the array with the destination field, which such a command does not use.  The
shorthand for all processors asks the bus with that field, so the sender may not hear it.
-/

namespace Svmm

open TransitionRun

/-! ## The checked bus functions -/

lemma lapicAt_zero : lapicAt 0 = .ok () := by
  unfold lapicAt
  rw [if_pos (by decide)]

lemma range_numLocalApics : List.range numLocalApics = [0] := rfl

/-- The vector reaches `Lapic[0]`. -/
def IpiState.receive (vector : BitVec 8) (levelSensitive : BitVec 32) (s : IpiState) : IpiState :=
  { s with
    shared := apicSetIrq vector levelSensitive s.shared
    deliveries := .setIrq 0 :: s.deliveries }

/-- What a bus call adds to the record. -/
def busDeliveries (l : Lapic) (destination destinationMode deliveryMode : BitVec 32) :
    List IpiDelivery :=
  if l.hears destination destinationMode deliveryMode then [.setIrq 0]
  else if deliveryMode = deliveryModeSmi then [.driver .gvmSmi]
  else if deliveryMode = deliveryModeNmi then [.driver .gvmNmi]
  else []

section Bus

variable {vector : BitVec 8} {destination destinationMode deliveryMode triggerMode : BitVec 32}
  {s : IpiState}

lemma apicSetIrqAt_zero (level : BitVec 32) :
    apicSetIrqAt 0 vector level s = .ok (s.receive vector level) := by
  unfold apicSetIrqAt
  rw [lapicAt_zero]
  rfl

/-- Past the first processor there is none. -/
lemma apicSetIrqAt_outOfBounds {apicId : ℕ} (level : BitVec 32) (h : apicId ≠ 0) :
    apicSetIrqAt apicId vector level s = .error (.outOfBounds apicId) := by
  have hpast : ¬ apicId < numLocalApics := by
    unfold numLocalApics
    omega
  unfold apicSetIrqAt lapicAt
  rw [if_neg hpast]
  rfl

lemma apicBusDeliverFixedAt_eq (h : busFixed destinationMode deliveryMode) :
    apicBusDeliverFixedAt vector destination destinationMode triggerMode s =
      .ok (0, if s.shared.lapic.hears destination destinationMode deliveryMode then
        s.receive vector triggerMode else s) := by
  have hiff : s.shared.lapic.hears destination destinationMode deliveryMode ↔ _ :=
    Lapic.hears_iff_of_busFixed h
  unfold apicBusDeliverFixedAt
  by_cases hphysical : destinationMode = destinationModePhysical
  · rw [if_pos hphysical]
    by_cases hfirst : destination.toNat < numLocalApics
    · have hzero : destination.toNat = 0 := Nat.lt_one_iff.mp hfirst
      rw [if_pos hfirst, hzero, lapicAt_zero]
      by_cases hmsr : s.shared.lapic.msrEnable ≠ 0
      · have hhears := hiff.mpr ⟨hmsr, Or.inl ⟨hphysical, hfirst⟩⟩
        simp only [if_pos hmsr, if_pos hhears, apicSetIrqAt_zero, ok_bind]
        rfl
      · have hdeaf := mt (fun hh => (hiff.mp hh).1) hmsr
        rw [if_neg hmsr, if_neg hdeaf]
        rfl
    · have hdeaf : ¬ s.shared.lapic.hears destination destinationMode deliveryMode := by
        intro hh
        rcases (hiff.mp hh).2 with ⟨-, hd⟩ | ⟨hlogical, -⟩
        · exact hfirst hd
        · exact hlogical hphysical
      rw [if_neg hfirst, if_neg hdeaf]
  · rw [if_neg hphysical]
    have hboth : (s.shared.lapic.msrEnable ≠ 0 ∧
        apicMatchLogicalAddress s.shared.lapic destination ≠ 0) ↔
        s.shared.lapic.hears destination destinationMode deliveryMode := by
      rw [hiff]
      simp [hphysical]
    rw [range_numLocalApics, foldlM_singleton]
    unfold apicBusDeliverLogicalAt
    simp only [lapicAt_zero, ok_bind, hboth, apicSetIrqAt_zero]
    split_ifs <;> rfl

lemma apicBusDeliverLowPriorityInterruptAt_eq (h : ¬ busFixed destinationMode deliveryMode)
    (hlow : deliveryMode = deliveryModeLowPri) :
    apicBusDeliverLowPriorityInterruptAt vector destination triggerMode s =
      .ok (if s.shared.lapic.hears destination destinationMode deliveryMode then
        (0, s.receive vector triggerMode) else (1, s)) := by
  have hiff : s.shared.lapic.hears destination destinationMode deliveryMode ↔ _ :=
    Lapic.hears_iff_of_not_busFixed h
  unfold apicBusDeliverLowPriorityInterruptAt
  rw [range_numLocalApics]
  by_cases hfocus : s.shared.lapic.focusDisable = 0 ∧ s.shared.lapic.msrEnable ≠ 0
  · have hhears := hiff.mpr ⟨hlow, hfocus.2, Or.inl hfocus.1⟩
    have hfound : focusProcessor s [0] = .ok (some 0) := by
      unfold focusProcessor
      rw [lapicAt_zero, ok_bind, if_pos hfocus]
      rfl
    rw [hfound, if_pos hhears]
    simp only [ok_bind, apicSetIrqAt_zero]
    rfl
  · have hnone : focusProcessor s [0] = .ok none := by
      unfold focusProcessor
      rw [lapicAt_zero, ok_bind, if_neg hfocus]
      rfl
    rw [hnone, ok_bind]
    by_cases hmatch : s.shared.lapic.msrEnable ≠ 0 ∧
        apicMatchLogicalAddress s.shared.lapic destination ≠ 0 ∧
          s.shared.lapic.taskPriority.toNat < 0x10
    · have hhears := hiff.mpr ⟨hlow, hmatch.1, Or.inr hmatch.2⟩
      have hlowest : lowestPrioApicId destination s [0] none = .ok (some 0) := by
        unfold lowestPrioApicId
        rw [lapicAt_zero, ok_bind, if_pos hmatch]
        rfl
      rw [if_pos hhears]
      simp only [hlowest, ok_bind, apicSetIrqAt_zero]
      rfl
    · have hdeaf : ¬ s.shared.lapic.hears destination destinationMode deliveryMode := by
        intro hh
        obtain ⟨-, hmsr, hzero | hother⟩ := hiff.mp hh
        · exact hfocus ⟨hzero, hmsr⟩
        · exact hmatch ⟨hmsr, hother⟩
      have hlowest : lowestPrioApicId destination s [0] none = .ok none := by
        unfold lowestPrioApicId
        rw [lapicAt_zero, ok_bind, if_neg hmatch]
        rfl
      rw [if_neg hdeaf]
      simp only [hlowest, ok_bind]
      rfl

/-- The bus function with checked accesses does what the other does, and records what reaches
the processor. -/
lemma apicBusDeliverInterruptAt_eq :
    apicBusDeliverInterruptAt vector destination destinationMode deliveryMode triggerMode s =
      match apicBusDeliverInterrupt vector destination destinationMode deliveryMode triggerMode
        s.shared with
      | .ok (status, t) => .ok (status, { s with
          shared := t
          deliveries := busDeliveries s.shared.lapic destination destinationMode deliveryMode ++
            s.deliveries })
      | .error halt => .error (.halt halt) := by
  unfold apicBusDeliverInterruptAt apicBusDeliverInterrupt busDeliveries
  by_cases hfix : busFixed destinationMode deliveryMode
  · have hother : deliveryMode ≠ deliveryModeSmi ∧ deliveryMode ≠ deliveryModeNmi := by
      rcases hfix with h0 | ⟨-, h1⟩
      · rw [h0]
        decide
      · rw [h1]
        decide
    simp only [busMode_of_busFixed hfix, if_true, apicBusDeliverFixedAt_eq hfix,
      apicBusDeliverFixed_eq hfix, if_neg hother.1, if_neg hother.2]
    split_ifs
    · rfl
    · rfl
  · simp only [busMode_of_not_busFixed hfix, if_neg fun h0 => hfix (Or.inl h0)]
    by_cases hlow : deliveryMode = deliveryModeLowPri
    · have hother : deliveryMode ≠ deliveryModeSmi ∧ deliveryMode ≠ deliveryModeNmi := by
        rw [hlow]
        decide
      rw [if_pos hlow, if_pos hlow, apicBusDeliverLowPriorityInterruptAt_eq hfix hlow,
        apicBusDeliverLowPriorityInterrupt_eq hfix hlow]
      simp only [if_neg hother.1, if_neg hother.2]
      split_ifs
      · rfl
      · rfl
    · have hdeaf : ¬ s.shared.lapic.hears destination destinationMode deliveryMode := fun hh =>
        hlow ((Lapic.hears_iff_of_not_busFixed hfix).mp hh).1
      simp only [if_neg hlow, if_neg hdeaf]
      split_ifs
      · rfl
      · rfl
      · rfl
      · rfl

end Bus

/-! ## The command -/

/-- The fields of the low half of the interrupt command register. -/
def icrShorthand (low : BitVec 32) : BitVec 32 := low &&& lapicDshMask
def icrDeliveryMode (low : BitVec 32) : BitVec 32 := low &&& deliveryModeMask
def icrDestinationMode (low : BitVec 32) : BitVec 32 := low &&& lapicDestinationModeMask

/-- The destination field of the high half. -/
def IpiState.icrDestination (s : IpiState) : BitVec 32 := s.interruptCommandRegisterHigh >>> 24

/-- The function made no access past the end of the array. -/
def InRange {α : Type} (r : ApicOutcome α) : Prop := ∀ i, r ≠ .error (.outOfBounds i)

/-- Something reached the processor that sent the command. -/
def ReachesSender (r : ApicOutcome IpiState) : Prop :=
  ∃ t, r = .ok t ∧ (.setIrq 0 ∈ t.deliveries ∨ ∃ call, .driver call ∈ t.deliveries)

/-- The command is for a set of processors that includes the sender. -/
def IncludesSender (low : BitVec 32) : Prop :=
  icrShorthand low = lapicDshSelf ∨ icrShorthand low = lapicDshAll

/-- The command is for the sender alone, and its destination field is not 0. -/
def SelfElsewhere (low : BitVec 32) (s : IpiState) : Prop :=
  icrShorthand low = lapicDshSelf ∧ icrDeliveryMode low ≠ deliveryModeInit ∧ s.icrDestination ≠ 0

/-- The sender hears its own command: INIT goes to it as a lowest-priority interrupt; a command
for itself needs destination 0; a command for all is heard as the bus hears the destination field,
or goes through the driver. -/
def SenderHears (low : BitVec 32) (s : IpiState) : Prop :=
  if icrDeliveryMode low = deliveryModeInit then
    s.shared.lapic.hears s.icrDestination lapicDestinationModeMask deliveryModeLowPri
  else if icrShorthand low = lapicDshSelf then s.icrDestination = 0
  else
    s.shared.lapic.hears s.icrDestination (icrDestinationMode low) (icrDeliveryMode low) ∨
      icrDeliveryMode low = deliveryModeSmi ∨ icrDeliveryMode low = deliveryModeNmi

instance (low : BitVec 32) (s : IpiState) : Decidable (SelfElsewhere low s) :=
  inferInstanceAs (Decidable (_ ∧ _))

/-- Something reached a processor since the command was written. -/
def IpiState.reached (t : IpiState) : Prop :=
  .setIrq 0 ∈ t.deliveries ∨ ∃ call, .driver call ∈ t.deliveries

section Command

variable {vector : BitVec 8}
  {destination destinationMode deliveryMode triggerMode destinationShorthand : BitVec 32}
  {s : IpiState}

lemma inRange_ok {α : Type} (a : α) : InRange (.ok a : ApicOutcome α) := fun _ h => by cases h

lemma inRange_bus :
    InRange (apicBusDeliverInterruptAt vector destination destinationMode deliveryMode triggerMode
      s) := by
  intro i h
  rw [apicBusDeliverInterruptAt_eq] at h
  split at h <;> simp at h

/-- A bus call that anyone hears does not stop. -/
lemma apicBusDeliverInterrupt_ok {t : State}
    (h : t.lapic.hears destination destinationMode deliveryMode ∨
      deliveryMode = deliveryModeSmi ∨ deliveryMode = deliveryModeNmi) :
    ∃ p, apicBusDeliverInterrupt vector destination destinationMode deliveryMode triggerMode t =
      .ok p := by
  unfold apicBusDeliverInterrupt
  by_cases hfix : busFixed destinationMode deliveryMode
  · simp only [busMode_of_busFixed hfix, if_true]
    exact ⟨_, rfl⟩
  · simp only [busMode_of_not_busFixed hfix, if_neg fun h0 => hfix (Or.inl h0)]
    by_cases hlow : deliveryMode = deliveryModeLowPri
    · rw [if_pos hlow]
      exact ⟨_, rfl⟩
    · rw [if_neg hlow]
      rcases h with hhears | hsmi | hnmi
      · exact absurd ((Lapic.hears_iff_of_not_busFixed hfix).mp hhears).1 hlow
      · rw [if_pos hsmi]
        exact ⟨_, rfl⟩
      · split_ifs
        · exact ⟨_, rfl⟩
        · exact ⟨_, rfl⟩

/-- A bus call for a fresh record reaches the processor when it hears it, or by the driver. -/
lemma reached_bus (hnew : s.deliveries = []) :
    (∃ p, apicBusDeliverInterruptAt vector destination destinationMode deliveryMode triggerMode s =
        .ok p ∧ p.2.reached) ↔
      s.shared.lapic.hears destination destinationMode deliveryMode ∨
        deliveryMode = deliveryModeSmi ∨ deliveryMode = deliveryModeNmi := by
  have hlist : (.setIrq 0 ∈ busDeliveries s.shared.lapic destination destinationMode deliveryMode ∨
      ∃ call, .driver call ∈
        busDeliveries s.shared.lapic destination destinationMode deliveryMode) ↔
      s.shared.lapic.hears destination destinationMode deliveryMode ∨
        deliveryMode = deliveryModeSmi ∨ deliveryMode = deliveryModeNmi := by
    unfold busDeliveries
    split_ifs with hhears hsmi hnmi
    · simp [hhears]
    · simp [hsmi]
    · simp [hnmi]
    · simp [hhears, hsmi, hnmi]
  rw [apicBusDeliverInterruptAt_eq, ← hlist]
  constructor
  · rintro ⟨p, hp, hreached⟩
    split at hp
    · rw [← Except.ok.inj hp] at hreached
      simpa [IpiState.reached, hnew] using hreached
    · cases hp
  · intro hreached
    have hex : ∃ p, apicBusDeliverInterrupt vector destination destinationMode deliveryMode
        triggerMode s.shared = .ok p := apicBusDeliverInterrupt_ok (hlist.mp hreached)
    obtain ⟨⟨status, t⟩, hok⟩ := hex
    rw [hok]
    exact ⟨_, rfl, by simpa [IpiState.reached, hnew] using hreached⟩

/-- What follows a function and never stops makes no access. -/
lemma inRange_bind {α β : Type} {r : ApicOutcome α} {f : α → ApicOutcome β}
    (hf : ∀ a, ∃ b, f a = .ok b) : InRange (r >>= f) ↔ InRange r := by
  cases r with
  | ok a =>
      obtain ⟨b, hb⟩ := hf a
      rw [ok_bind, hb]
      exact ⟨fun _ => inRange_ok a, fun _ => inRange_ok b⟩
  | error fault =>
      exact ⟨fun h i hi => h i (by cases hi; rfl), fun h i hi => h i (by cases hi; rfl)⟩

lemma reached_acceptError : s.acceptError.reached ↔ s.reached := Iff.rfl

/-- INIT goes to the bus as a lowest-priority interrupt. -/
lemma apicSendIpi_init :
    apicSendIpi vector destination destinationMode deliveryModeInit triggerMode
        destinationShorthand s =
      .ok (if s.shared.lapic.hears destination lapicDestinationModeMask deliveryModeLowPri then
        (0, s.receive vector triggerMode) else (1, s)) := by
  unfold apicSendIpi
  rw [if_pos rfl]
  exact apicBusDeliverLowPriorityInterruptAt_eq (by decide) rfl

/-- Any other command is what its shorthand makes of it. -/
lemma inRange_apicSendIpi (h : deliveryMode ≠ deliveryModeInit) :
    InRange (apicSendIpi vector destination destinationMode deliveryMode triggerMode
        destinationShorthand s) ↔
      InRange (apicSendIpiShorthand vector destination destinationMode deliveryMode triggerMode
        destinationShorthand s) := by
  unfold apicSendIpi
  rw [if_neg h]
  apply inRange_bind
  rintro ⟨status, t⟩
  by_cases hstatus : status ≠ 0
  · exact ⟨_, if_pos hstatus⟩
  · exact ⟨_, if_neg hstatus⟩

lemma reached_apicSendIpi (h : deliveryMode ≠ deliveryModeInit) :
    (∃ p, apicSendIpi vector destination destinationMode deliveryMode triggerMode
        destinationShorthand s = .ok p ∧ p.2.reached) ↔
      ∃ p, apicSendIpiShorthand vector destination destinationMode deliveryMode triggerMode
        destinationShorthand s = .ok p ∧ p.2.reached := by
  unfold apicSendIpi
  rw [if_neg h]
  constructor
  · rintro ⟨p, hp, hreached⟩
    obtain ⟨⟨status, t⟩, hq, hrest⟩ := bind_eq_ok.mp hp
    refine ⟨_, hq, ?_⟩
    dsimp only at hrest
    by_cases hstatus : status ≠ 0
    · rw [if_pos hstatus] at hrest
      rw [← Except.ok.inj hrest] at hreached
      exact reached_acceptError.mp hreached
    · rw [if_neg hstatus] at hrest
      rw [← Except.ok.inj hrest] at hreached
      exact hreached
  · rintro ⟨⟨status, t⟩, hq, hreached⟩
    rw [hq, ok_bind]
    by_cases hstatus : status ≠ 0
    · exact ⟨_, if_pos hstatus, reached_acceptError.mpr hreached⟩
    · exact ⟨_, if_neg hstatus, hreached⟩

lemma apicSendIpiShorthand_self (h : destinationShorthand = lapicDshSelf) :
    apicSendIpiShorthand vector destination destinationMode deliveryMode triggerMode
        destinationShorthand s =
      if destination = 0 then .ok (0, s.receive vector triggerMode)
      else .error (.outOfBounds destination.toNat) := by
  unfold apicSendIpiShorthand
  rw [h, if_neg (by decide), if_pos rfl]
  by_cases hzero : destination = 0
  · rw [if_pos hzero, hzero]
    have : (0 : BitVec 32).toNat = 0 := rfl
    rw [this, apicSetIrqAt_zero]
    rfl
  · have hne : destination.toNat ≠ 0 := fun h0 => hzero (BitVec.eq_of_toNat_eq h0)
    rw [if_neg hzero, apicSetIrqAt_outOfBounds _ hne]
    rfl

/-- The loop over all processors asks the bus once. -/
lemma apicSendIpiShorthand_all (h : destinationShorthand = lapicDshAll) :
    apicSendIpiShorthand vector destination destinationMode deliveryMode triggerMode
        destinationShorthand s =
      apicBusDeliverInterruptAt vector destination destinationMode deliveryMode triggerMode s := by
  unfold apicSendIpiShorthand
  rw [h, if_neg (by decide), if_neg (by decide), if_neg (by decide), if_pos rfl,
    range_numLocalApics, foldlM_singleton]
  rfl

/-- Only the shorthand for the sender alone leaves the array. -/
lemma inRange_apicSendIpiShorthand :
    InRange (apicSendIpiShorthand vector destination destinationMode deliveryMode triggerMode
        destinationShorthand s) ↔
      ¬ (destinationShorthand = lapicDshSelf ∧ destination ≠ 0) := by
  by_cases hself : destinationShorthand = lapicDshSelf
  · rw [apicSendIpiShorthand_self hself]
    by_cases hzero : destination = 0
    · rw [if_pos hzero]
      simp [hzero, inRange_ok]
    · rw [if_neg hzero]
      exact ⟨fun hrange => absurd rfl (hrange _), fun hnot => absurd ⟨hself, hzero⟩ hnot⟩
  · have hrange : InRange (apicSendIpiShorthand vector destination destinationMode deliveryMode
        triggerMode destinationShorthand s) := by
      unfold apicSendIpiShorthand
      rw [if_neg hself, range_numLocalApics, foldlM_singleton, foldlM_singleton]
      dsimp only [apicSendIpiTurn]
      split_ifs
      · exact inRange_bus
      · exact inRange_ok _
      · exact inRange_bus
      · exact absurd ‹_› Bool.false_ne_true
      · exact inRange_bus
      · exact inRange_ok _
    exact ⟨fun _ hboth => hself hboth.1, fun _ => hrange⟩

end Command

lemma apicWriteInterruptCommandLow_eq (value : BitVec 32) (s : IpiState) :
    apicWriteInterruptCommandLow value s =
      apicSendIpi ((value &&& 0xff).setWidth 8) s.icrDestination (icrDestinationMode value)
        (icrDeliveryMode value) (value &&& lapicTriggerModeMask) (icrShorthand value)
        { s with interruptCommandRegisterLow := Word.clear value 12, deliveries := [] } >>=
        fun p => .ok p.2 := by
  have hdmode : Word.clear value 12 &&& lapicDestinationModeMask = icrDestinationMode value :=
    Word.clear_and (by decide)
  have hmode : Word.clear value 12 &&& deliveryModeMask = icrDeliveryMode value :=
    Word.clear_and (by decide)
  have htrigger : Word.clear value 12 &&& lapicTriggerModeMask = value &&& lapicTriggerModeMask :=
    Word.clear_and (by decide)
  have hshorthand : Word.clear value 12 &&& lapicDshMask = icrShorthand value :=
    Word.clear_and (by decide)
  have hvector : Word.clear value 12 &&& 0xff = value &&& 0xff := Word.clear_and (by decide)
  unfold apicWriteInterruptCommandLow
  simp only [hdmode, hmode, htrigger, hshorthand, hvector]
  rfl

/-- Every access to the array is in range except for a command for the sender alone with a
destination other than 0; a command for a set of processors that includes the sender reaches it
exactly when it hears it; and for a redirection entry of the I/O APIC every access is in range. -/
theorem ipi_targets_iff (s : IpiState) (value : BitVec 32) :
    (InRange (apicWriteInterruptCommandLow value s) ↔ ¬ SelfElsewhere value s) ∧
      (IncludesSender value →
        (ReachesSender (apicWriteInterruptCommandLow value s) ↔ SenderHears value s)) ∧
      ∀ e : IoRedirectEntry, InRange (apicBusDeliverInterruptAt e.vector e.destination
        e.destinationMode e.deliveryMode e.triggerMode s) := by
  have hreaches : ReachesSender (apicWriteInterruptCommandLow value s) ↔ ∃ p,
      apicSendIpi ((value &&& 0xff).setWidth 8) s.icrDestination (icrDestinationMode value)
        (icrDeliveryMode value) (value &&& lapicTriggerModeMask) (icrShorthand value)
        { s with interruptCommandRegisterLow := Word.clear value 12, deliveries := [] } =
          .ok p ∧ p.2.reached := by
    rw [apicWriteInterruptCommandLow_eq]
    unfold ReachesSender
    constructor
    · rintro ⟨t, ht, hreached⟩
      obtain ⟨p, hp, hrest⟩ := bind_eq_ok.mp ht
      obtain rfl : p.2 = t := Except.ok.inj hrest
      exact ⟨p, hp, hreached⟩
    · rintro ⟨p, hp, hreached⟩
      exact ⟨p.2, by rw [hp, ok_bind], hreached⟩
  refine ⟨?_, ?_, fun e => inRange_bus⟩
  · rw [apicWriteInterruptCommandLow_eq, inRange_bind fun p => ⟨_, rfl⟩]
    unfold SelfElsewhere
    by_cases hinit : icrDeliveryMode value = deliveryModeInit
    · rw [hinit, apicSendIpi_init]
      simp [inRange_ok]
    · rw [inRange_apicSendIpi hinit, inRange_apicSendIpiShorthand]
      simp [hinit]
  · intro hincludes
    rw [hreaches]
    unfold SenderHears
    by_cases hinit : icrDeliveryMode value = deliveryModeInit
    · rw [if_pos hinit, hinit, apicSendIpi_init]
      split_ifs with hhears
      · simp [hhears, IpiState.reached, IpiState.receive]
      · simp [hhears, IpiState.reached]
    · rw [if_neg hinit, reached_apicSendIpi hinit]
      by_cases hself : icrShorthand value = lapicDshSelf
      · rw [if_pos hself, apicSendIpiShorthand_self hself]
        split_ifs with hzero
        · simp [hzero, IpiState.reached, IpiState.receive]
        · refine ⟨?_, fun h => absurd h hzero⟩
          rintro ⟨p, hp, -⟩
          cases hp
      · rw [if_neg hself, apicSendIpiShorthand_all (hincludes.resolve_left hself),
          reached_bus rfl]

/-- The local APIC as `ApicInitialize` leaves it, with this destination in the interrupt command
register. -/
def IpiState.initial (high : BitVec 32) : IpiState where
  shared := State.initial fun _ _ => true
  apicId := 0
  interruptCommandRegisterLow := 0
  interruptCommandRegisterHigh := high
  deliveries := []

/-- Vector 0x30 for the sender alone, with destination 1, indexes `Lapic[1]`; for all processors,
with destination 1, it reaches none. -/
theorem ipi_for_self_leaves_array :
    apicWriteInterruptCommandLow 0x40030 (apicWriteInterruptCommandHigh 0x01000000
        (IpiState.initial 0)) = .error (.outOfBounds 1) ∧
      IncludesSender 0x80030 ∧
      ¬ ReachesSender (apicWriteInterruptCommandLow 0x80030 (apicWriteInterruptCommandHigh
        0x01000000 (IpiState.initial 0))) := by
  refine ⟨rfl, Or.inr (by decide), ?_⟩
  rintro ⟨t, ht, hreached⟩
  rw [← Except.ok.inj ht] at hreached
  revert hreached
  unfold apicWriteInterruptCommandHigh IpiState.initial
  simp

theorem ipi_for_self_reaches_sender :
    ReachesSender (apicWriteInterruptCommandLow 0x40030 (IpiState.initial 0)) ∧
      InRange (apicWriteInterruptCommandLow 0x40030 (IpiState.initial 0)) :=
  ⟨((ipi_targets_iff (IpiState.initial 0) 0x40030).2.1 (Or.inl (by decide))).mpr (by
      unfold SenderHears
      decide),
    (ipi_targets_iff (IpiState.initial 0) 0x40030).1.mpr (by decide)⟩

end Svmm
