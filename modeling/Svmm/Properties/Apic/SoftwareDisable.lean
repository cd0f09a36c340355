import Svmm.Construction.Apic.Mmio
import Svmm.Properties.Apic.Ipi

/-!
# The local vector table of a disabled APIC

Disabling the APIC by software masks the whole local vector table, and while it is disabled a
write of an entry masks that entry.  The reset disables the APIC and leaves the table zero, so an
entry that nothing has written since, in an APIC whose spurious vector register nothing has
written either, is not masked.
-/

namespace Svmm

open TransitionRun

/-! ## What the claim says of a state -/

namespace LocalApic

variable (a : LocalApic)

/-- The mask bit of an entry is set. -/
def Masked (i : Fin 7) : Prop := Word.has (a.lapic.localVectorTable i) lapicLvtMasked = true

/-- An expiry of the timer delivers nothing: of what the local APIC shares with the rest of the
VMM, at most the error status changes. -/
def TimerSilent : Prop :=
  ∃ e t calls, apicTimerHandler a.shared a.timer =
    .ok (a.shared.setLapic { a.lapic with shadowErrorStatus := e }, t, calls)

/-- While the APIC is disabled by software, every entry is masked and the timer delivers
nothing. -/
def DisabledMasked : Prop :=
  a.lapic.softwareEnable = 0 → (∀ i, a.Masked i) ∧ a.TimerSilent

/-- The access writes the register. -/
def Writes (r : ApicRegister) (_ : LocalApic) : BitVec 64 × LocalApicOp → Prop
  | (_, .write _ address _ length) =>
      length = 4 ∧ address &&& 0xf = 0 ∧ apicRegister address = some r
  | _ => False

lemma Writes.unique {a : LocalApic} {q r : ApicRegister} {op : BitVec 64 × LocalApicOp}
    (hq : a.Writes q op) (hr : a.Writes r op) : q = r := by
  obtain ⟨clock, op⟩ := op
  cases op with
  | write active address value length => exact Option.some.inj (hq.2.2.symm.trans hr.2.2)
  | _ => exact hq.elim

instance (r : ApicRegister) (op : BitVec 64 × LocalApicOp) : Decidable (a.Writes r op) := by
  unfold Writes
  split
  · infer_instance
  · infer_instance

instance (i : Fin 7) : Decidable (a.Masked i) := inferInstanceAs (Decidable (_ = true))

end LocalApic

/-! ## What leaves the table as it is -/

lemma LocalApic.onShared_eq_ok {α : Type} {f : State → Outcome (α × State)} {a b : LocalApic} :
    a.onShared f = .ok b ↔ ∃ x s, f a.shared = .ok (x, s) ∧ a.setShared s = b := by
  unfold LocalApic.onShared
  cases f a.shared with
  | ok p =>
      obtain ⟨x, s⟩ := p
      simp
  | error halt => simp

lemma lvt_apicReceiveEOI {s : State} : (apicReceiveEOI s).lapic.lvt = s.lapic.lvt := by
  by_cases h : s.eoiVector = s.lapic.spuriousVector
  · rw [apicReceiveEOI_of_spurious s h]
  · obtain ⟨t, ht, hl, -⟩ := exists_apicReceiveEOI s h
    rw [ht, lapic_apicService, hl]
    rfl

lemma lvt_apicWriteTaskPriority {value : BitVec 32} {s : State} :
    (apicWriteTaskPriority value s).lapic.lvt = s.lapic.lvt := by
  rcases apicWriteTaskPriority_cases s value with ⟨-, h⟩ | ⟨-, -, h⟩ | ⟨-, -, h⟩
  · rw [h]
  · rw [h]
    rfl
  · rw [h, lapic_apicService]
    rfl

lemma lvt_apicAcknowledgeInterrupt {s t : State} {v : BitVec 8}
    (h : apicAcknowledgeInterrupt s = .ok (v, t)) : t.lapic.lvt = s.lapic.lvt := by
  obtain ⟨-, ⟨-, -, rfl⟩ | ⟨-, -, rfl⟩⟩ := apicAcknowledgeInterrupt_cases s h
  · rfl
  · rw [lapic_apicService]
    rfl

lemma lvt_apicTimerHandler {s r : State} {t u : ApicTimer} {calls : List TimerCall}
    (h : apicTimerHandler s t = .ok (r, u, calls)) : r.lapic.lvt = s.lapic.lvt := by
  unfold apicTimerHandler at h
  dsimp only at h
  split_ifs at h
  · obtain ⟨rfl, -⟩ := Prod.mk.inj (Except.ok.inj h)
    rfl
  · obtain ⟨⟨status, r'⟩, hdeliver, hrest⟩ := bind_eq_ok.mp h
    obtain ⟨rfl, -⟩ := Prod.mk.inj (Except.ok.inj hrest)
    exact lvt_apicBusDeliverInterrupt hdeliver

section Command

variable {vector : BitVec 8}
  {destination destinationMode deliveryMode triggerMode destinationShorthand : BitVec 32}
  {s t : IpiState} {status : ℕ}

lemma lvt_apicBusDeliverInterruptAt
    (h : apicBusDeliverInterruptAt vector destination destinationMode deliveryMode triggerMode s =
      .ok (status, t)) : t.shared.lapic.lvt = s.shared.lapic.lvt := by
  rw [apicBusDeliverInterruptAt_eq] at h
  cases hbus : apicBusDeliverInterrupt vector destination destinationMode deliveryMode triggerMode
      s.shared with
  | ok p =>
      rw [hbus] at h
      obtain ⟨-, rfl⟩ := Prod.mk.inj (Except.ok.inj h)
      exact lvt_apicBusDeliverInterrupt hbus
  | error halt =>
      rw [hbus] at h
      cases h

lemma lvt_apicSendIpiTurn {skipSelf : Bool} {cpuId first : ℕ}
    (h : apicSendIpiTurn vector destination destinationMode deliveryMode triggerMode skipSelf
      (first, s) cpuId = .ok (status, t)) : t.shared.lapic.lvt = s.shared.lapic.lvt := by
  unfold apicSendIpiTurn at h
  dsimp only at h
  split_ifs at h
  · obtain ⟨-, rfl⟩ := Prod.mk.inj (Except.ok.inj h)
    rfl
  · exact lvt_apicBusDeliverInterruptAt h

lemma lvt_apicSendIpiShorthand
    (h : apicSendIpiShorthand vector destination destinationMode deliveryMode triggerMode
      destinationShorthand s = .ok (status, t)) : t.shared.lapic.lvt = s.shared.lapic.lvt := by
  by_cases hself : destinationShorthand = lapicDshSelf
  · rw [apicSendIpiShorthand_self hself] at h
    split_ifs at h
    obtain ⟨-, rfl⟩ := Prod.mk.inj (Except.ok.inj h)
    exact lvt_apicSetIrq
  · unfold apicSendIpiShorthand at h
    rw [if_neg hself, range_numLocalApics, foldlM_singleton, foldlM_singleton] at h
    split_ifs at h
    · exact lvt_apicBusDeliverInterruptAt h
    · exact lvt_apicSendIpiTurn h
    · exact lvt_apicSendIpiTurn h
    · obtain ⟨-, rfl⟩ := Prod.mk.inj (Except.ok.inj h)
      rfl

lemma lvt_apicSendIpi
    (h : apicSendIpi vector destination destinationMode deliveryMode triggerMode
      destinationShorthand s = .ok (status, t)) : t.shared.lapic.lvt = s.shared.lapic.lvt := by
  by_cases hinit : deliveryMode = deliveryModeInit
  · rw [hinit, apicSendIpi_init] at h
    split_ifs at h
    · obtain ⟨-, rfl⟩ := Prod.mk.inj (Except.ok.inj h)
      exact lvt_apicSetIrq
    · obtain ⟨-, rfl⟩ := Prod.mk.inj (Except.ok.inj h)
      rfl
  · unfold apicSendIpi at h
    rw [if_neg hinit] at h
    obtain ⟨⟨result, u⟩, hsend, hrest⟩ := bind_eq_ok.mp h
    have hsent := lvt_apicSendIpiShorthand hsend
    dsimp only at hrest
    split_ifs at hrest
    · obtain ⟨-, rfl⟩ := Prod.mk.inj (Except.ok.inj hrest)
      exact hsent
    · obtain ⟨-, rfl⟩ := Prod.mk.inj (Except.ok.inj hrest)
      exact hsent

lemma lvt_apicWriteInterruptCommandLow {value : BitVec 32}
    (h : apicWriteInterruptCommandLow value s = .ok t) :
    t.shared.lapic.lvt = s.shared.lapic.lvt := by
  rw [apicWriteInterruptCommandLow_eq] at h
  obtain ⟨⟨result, u⟩, hsend, hrest⟩ := bind_eq_ok.mp h
  have hsent := lvt_apicSendIpi hsend
  obtain rfl := Except.ok.inj hrest
  exact hsent

end Command

/-- A read moves the timer, or notes the address as illegal. -/
lemma lvt_apicMmioReadHandler {clock : BitVec 64} {active : BitVec 8} {address length : BitVec 32}
    {a b : LocalApic} {data : Option (BitVec 32)}
    (h : apicMmioReadHandler clock active address length a = .ok (data, b)) :
    b.lapic.lvt = a.lapic.lvt := by
  unfold apicMmioReadHandler at h
  split_ifs at h
  · obtain ⟨-, rfl⟩ := Prod.mk.inj (Except.ok.inj h)
    rfl
  · obtain ⟨⟨value, c⟩, hread, hrest⟩ := bind_eq_ok.mp h
    obtain ⟨-, rfl⟩ := Prod.mk.inj (Except.ok.inj hrest)
    unfold apicReadRegister at hread
    split at hread
    case h_15 =>
      split at hread
      · obtain ⟨-, rfl⟩ := Prod.mk.inj (Except.ok.inj hread)
        rfl
      · cases hread
    all_goals
      obtain ⟨-, rfl⟩ := Prod.mk.inj (Except.ok.inj hread)
      rfl

/-! ## One step -/

/-- The table after a write of the register that an address selects. -/
def LocalApic.lvtWritten (value : BitVec 32) (a : LocalApic) :
    Option ApicRegister → BitVec 8 × (Fin 7 → BitVec 32)
  | some .spuriousVector => (apicWriteSpuriousInterrupt value a.shared).lapic.lvt
  | some (.localVectorTable i) => (apicSetLvtEntry i value a.lapic).lvt
  | _ => a.lapic.lvt

lemma lvt_apicWriteRegister {clock : BitVec 64} {active : BitVec 8} {value : BitVec 32}
    {a b : LocalApic} {r : Option ApicRegister} {calls : List TimerCall}
    (h : apicWriteRegister clock active value a r = .ok (b, calls)) :
    b.lapic.lvt = a.lvtWritten value r := by
  cases r with
  | none =>
      obtain ⟨rfl, -⟩ := Prod.mk.inj (Except.ok.inj h)
      rfl
  | some r =>
      cases r with
      | taskPriority =>
          obtain ⟨rfl, -⟩ := Prod.mk.inj (Except.ok.inj h)
          exact lvt_apicWriteTaskPriority
      | endOfInterrupt =>
          obtain ⟨rfl, -⟩ := Prod.mk.inj (Except.ok.inj h)
          exact lvt_apicReceiveEOI
      | interruptCommandLow =>
          unfold apicWriteRegister at h
          dsimp only at h
          split at h
          · rename_i ipi hcommand
            obtain ⟨rfl, -⟩ := Prod.mk.inj (Except.ok.inj h)
            exact lvt_apicWriteInterruptCommandLow hcommand
          · cases h
      | _ =>
          -- the other cases write no field of the table, or are the two that `lvtWritten` names
          obtain ⟨rfl, -⟩ := Prod.mk.inj (Except.ok.inj h)
          rfl

/-- A step writes the spurious vector register, writes one entry, or leaves the table as it is. -/
lemma lvt_localApicStep {a b : LocalApic} {op : BitVec 64 × LocalApicOp}
    (h : localApicStep a op = .ok b) :
    (a.Writes .spuriousVector op ∧
        ∃ value, b.lapic.lvt = (apicWriteSpuriousInterrupt value a.shared).lapic.lvt) ∨
      (∃ i, a.Writes (.localVectorTable i) op ∧
        ∃ value, b.lapic.lvt = (apicSetLvtEntry i value a.lapic).lvt) ∨
      (¬ a.Writes .spuriousVector op ∧ (∀ i, ¬ a.Writes (.localVectorTable i) op) ∧
        b.lapic.lvt = a.lapic.lvt) := by
  obtain ⟨clock, op⟩ := op
  cases op with
  | write active address value length =>
      obtain ⟨⟨c, calls⟩, hwrite, hrest⟩ := bind_eq_ok.mp h
      obtain rfl := Except.ok.inj hrest
      unfold apicMmioWriteHandler at hwrite
      by_cases hcond : length ≠ 4 ∨ address &&& 0xf ≠ 0
      · rw [if_pos hcond] at hwrite
        obtain ⟨rfl, -⟩ := Prod.mk.inj (Except.ok.inj hwrite)
        have hnone : ∀ r, ¬ a.Writes r (clock, .write active address value length) :=
          fun r hr => hcond.elim (fun hne => hne hr.1) fun hne => hne hr.2.1
        exact .inr (.inr ⟨hnone _, fun i => hnone _, rfl⟩)
      · rw [if_neg hcond] at hwrite
        have hlength : length = 4 := not_not.mp fun hne => hcond (.inl hne)
        have haligned : address &&& 0xf = 0 := not_not.mp fun hne => hcond (.inr hne)
        have hlvt := lvt_apicWriteRegister hwrite
        cases hregister : apicRegister address with
        | none =>
            rw [hregister] at hlvt
            have hnone : ∀ r, ¬ a.Writes r (clock, .write active address value length) :=
              fun r hr => nomatch hregister.symm.trans hr.2.2
            exact .inr (.inr ⟨hnone _, fun i => hnone _, hlvt⟩)
        | some r =>
            rw [hregister] at hlvt
            cases r with
            | spuriousVector => exact .inl ⟨⟨hlength, haligned, hregister⟩, value, hlvt⟩
            | localVectorTable i =>
                exact .inr (.inl ⟨i, ⟨hlength, haligned, hregister⟩, value, hlvt⟩)
            | _ =>
                refine .inr (.inr ⟨fun hr => ?_, fun i hr => ?_, hlvt⟩)
                · cases hregister.symm.trans hr.2.2
                · cases hregister.symm.trans hr.2.2
  | read active address length =>
      obtain ⟨⟨data, c⟩, hread, hrest⟩ := bind_eq_ok.mp h
      obtain rfl := Except.ok.inj hrest
      exact .inr (.inr ⟨id, fun _ => id, lvt_apicMmioReadHandler hread⟩)
  | expire =>
      refine .inr (.inr ⟨id, fun _ => id, ?_⟩)
      change a.expire = .ok b at h
      unfold LocalApic.expire at h
      split at h
      · rename_i r u calls hexpire
        obtain rfl := Except.ok.inj h
        exact lvt_apicTimerHandler hexpire
      · cases h
  | deliver vector destination destinationMode deliveryMode triggerMode =>
      refine .inr (.inr ⟨id, fun _ => id, ?_⟩)
      obtain ⟨status, r, hdeliver, rfl⟩ := LocalApic.onShared_eq_ok.mp h
      exact lvt_apicBusDeliverInterrupt hdeliver
  | acknowledge =>
      refine .inr (.inr ⟨id, fun _ => id, ?_⟩)
      obtain ⟨v, r, hack, rfl⟩ := LocalApic.onShared_eq_ok.mp h
      exact lvt_apicAcknowledgeInterrupt hack

lemma has_set_lvtMasked {x : BitVec 32} :
    Word.has (Word.set x lapicLvtMasked) lapicLvtMasked = true := by
  rw [Word.has_set]
  simp [lapicLvtMasked]

/-- Disabling the APIC masks every entry. -/
lemma masked_apicWriteSpuriousInterrupt {value : BitVec 32} {s : State}
    (h : (apicWriteSpuriousInterrupt value s).lapic.softwareEnable = 0) (i : Fin 7) :
    Word.has ((apicWriteSpuriousInterrupt value s).lapic.localVectorTable i) lapicLvtMasked =
      true := by
  unfold apicWriteSpuriousInterrupt at h ⊢
  dsimp only [State.lapic_setLapic] at h ⊢
  rw [if_pos h]
  exact has_set_lvtMasked

/-- A write of an entry of a disabled APIC masks it. -/
lemma masked_apicSetLvtEntry {i : Fin 7} {value : BitVec 32} {l : Lapic}
    (h : l.softwareEnable = 0) :
    Word.has ((apicSetLvtEntry i value l).localVectorTable i) lapicLvtMasked = true := by
  unfold apicSetLvtEntry
  dsimp only
  rw [Function.update_self, if_pos h]
  exact has_set_lvtMasked

lemma localVectorTable_apicSetLvtEntry_of_ne {i j : Fin 7} {value : BitVec 32} {l : Lapic}
    (h : j ≠ i) : (apicSetLvtEntry i value l).localVectorTable j = l.localVectorTable j :=
  Function.update_of_ne h _ _

/-- Vector 0 on the bus comes to no interrupt, only to an error status. -/
lemma apicBusDeliverInterrupt_zero (s : State) :
    ∃ e, apicBusDeliverInterrupt 0 0 destinationModePhysical 0 0 s =
      .ok (0, s.setLapic { s.lapic with shadowErrorStatus := e }) := by
  have hfixed : busFixed destinationModePhysical 0 := .inl rfl
  have hrefused : ¬ s.lapic.accepts 0 := fun h => absurd h.1 (by decide)
  obtain ⟨e, he⟩ := apicSetIrq_of_refused 0 0 s hrefused
  have hdelivered : apicBusDeliverInterrupt 0 0 destinationModePhysical 0 0 s =
      .ok (apicBusDeliverFixed 0 0 destinationModePhysical 0 s) := by
    unfold apicBusDeliverInterrupt
    rw [busMode_of_busFixed hfixed]
    exact if_pos rfl
  rw [hdelivered, apicBusDeliverFixed_eq hfixed]
  by_cases hhears : s.lapic.hears 0 destinationModePhysical 0
  · exact ⟨e, by rw [if_pos hhears, he]⟩
  · exact ⟨s.lapic.shadowErrorStatus, by rw [if_neg hhears]; rfl⟩

/-- The handler of a timer whose entry is not masked sends the entry's vector. -/
lemma apicTimerHandler_of_delivered {s r : State} {t : ApicTimer} {status : ℕ} {lvt : BitVec 32}
    (hlvt : s.lapic.localVectorTable apicLvtTimer = lvt)
    (hmasked : ¬ Word.has lvt lapicLvtMasked = true)
    (h : apicBusDeliverInterrupt ((lvt &&& 0xff).setWidth 8) 0 destinationModePhysical
      (lvt &&& deliveryModeMask) (lvt &&& lapicTriggerModeMask) s = .ok (status, r)) :
    ∃ u calls, apicTimerHandler s t = .ok (r, u, calls) := by
  unfold apicTimerHandler
  dsimp only
  rw [hlvt, if_neg hmasked, h]
  exact ⟨_, _, rfl⟩

/-! ## Runs -/

namespace LocalApic

/-- While the APIC is disabled by software, every entry is masked. -/
def AllMasked (a : LocalApic) : Prop := a.lapic.softwareEnable = 0 → ∀ i, a.Masked i

/-- While the APIC is disabled by software, the timer entry is masked or as the reset left it. -/
def TimerMaskedOrReset (a : LocalApic) : Prop :=
  a.lapic.softwareEnable = 0 → a.Masked apicLvtTimer ∨ a.lapic.localVectorTable apicLvtTimer = 0

variable {a b : LocalApic} {op : BitVec 64 × LocalApicOp}

lemma allMasked_of_spuriousInterrupt {value : BitVec 32}
    (h : b.lapic.lvt = (apicWriteSpuriousInterrupt value a.shared).lapic.lvt) : b.AllMasked := by
  obtain ⟨henable, htable⟩ := Prod.mk.inj h
  intro hdisabled i
  unfold Masked
  rw [htable]
  exact masked_apicWriteSpuriousInterrupt (henable.symm.trans hdisabled) i

/-- Of a disabled APIC, the write of an entry masks it and leaves the others. -/
lemma masked_of_setLvtEntry {i : Fin 7} {value : BitVec 32}
    (h : b.lapic.lvt = (apicSetLvtEntry i value a.lapic).lvt)
    (hdisabled : a.lapic.softwareEnable = 0) (j : Fin 7) : b.Masked j ↔ a.Masked j ∨ j = i := by
  obtain ⟨-, htable⟩ := Prod.mk.inj h
  unfold Masked
  rw [htable]
  by_cases hj : j = i
  · rw [hj]
    exact iff_of_true (masked_apicSetLvtEntry hdisabled) (.inr rfl)
  · rw [localVectorTable_apicSetLvtEntry_of_ne hj]
    exact (or_iff_left hj).symm

lemma AllMasked.step (ha : a.AllMasked) (h : localApicStep a op = .ok b) : b.AllMasked := by
  rcases lvt_localApicStep h with ⟨-, value, hlvt⟩ | ⟨i, -, value, hlvt⟩ | ⟨-, -, hlvt⟩
  · exact allMasked_of_spuriousInterrupt hlvt
  · intro hdisabled j
    have hbefore : a.lapic.softwareEnable = 0 := (Prod.mk.inj hlvt).1.symm.trans hdisabled
    exact (masked_of_setLvtEntry hlvt hbefore j).mpr (.inl (ha hbefore j))
  · obtain ⟨henable, htable⟩ := Prod.mk.inj hlvt
    intro hdisabled j
    unfold Masked
    rw [htable]
    exact ha (henable.symm.trans hdisabled) j

lemma TimerMaskedOrReset.step (ha : a.TimerMaskedOrReset) (h : localApicStep a op = .ok b) :
    b.TimerMaskedOrReset := by
  rcases lvt_localApicStep h with ⟨-, value, hlvt⟩ | ⟨i, -, value, hlvt⟩ | ⟨-, -, hlvt⟩
  · exact fun hdisabled => .inl (allMasked_of_spuriousInterrupt hlvt hdisabled _)
  · obtain ⟨henable, htable⟩ := Prod.mk.inj hlvt
    intro hdisabled
    have hbefore : a.lapic.softwareEnable = 0 := henable.symm.trans hdisabled
    by_cases hi : apicLvtTimer = i
    · exact .inl ((masked_of_setLvtEntry hlvt hbefore _).mpr (.inr hi))
    · unfold Masked
      rw [htable, localVectorTable_apicSetLvtEntry_of_ne hi]
      exact ha hbefore
  · obtain ⟨henable, htable⟩ := Prod.mk.inj hlvt
    intro hdisabled
    unfold Masked
    rw [htable]
    exact ha (henable.symm.trans hdisabled)

/-- A masked timer entry makes the handler return at once; the entry of the reset asks for vector
0, which the APIC refuses. -/
lemma TimerMaskedOrReset.silent (ha : a.TimerMaskedOrReset)
    (hdisabled : a.lapic.softwareEnable = 0) : a.TimerSilent := by
  rcases ha hdisabled with hmasked | hreset
  · refine ⟨a.lapic.shadowErrorStatus, a.timer, [], ?_⟩
    unfold apicTimerHandler
    exact if_pos hmasked
  · obtain ⟨e, hdeliver⟩ := apicBusDeliverInterrupt_zero a.shared
    exact ⟨e, apicTimerHandler_of_delivered hreset (by decide) hdeliver⟩

/-- Nothing has written the spurious vector register: the APIC is disabled, and an entry is masked
exactly when it was written. -/
lemma masked_iff_written {s : State} {timerId : BitVec 32} {ops : List (BitVec 64 × LocalApicOp)}
    (hrun : run localApicStep (LocalApic.initial s timerId) ops = .ok a)
    (hnone : ¬ Occurs localApicStep (Writes .spuriousVector) (LocalApic.initial s timerId) ops) :
    a.lapic.softwareEnable = 0 ∧
      ∀ i, a.Masked i ↔
        Occurs localApicStep (Writes (.localVectorTable i)) (LocalApic.initial s timerId) ops := by
  have hmeets := not_not.mp (mt occurs_iff_not_meets.mpr hnone)
  have hkeep : ∀ a op b, a.lapic.softwareEnable = 0 → ¬ a.Writes .spuriousVector op →
      localApicStep a op = .ok b → b.lapic.softwareEnable = 0 := by
    intro a op b hdisabled hspurious hstep
    rcases lvt_localApicStep hstep with ⟨hwrites, -⟩ | ⟨i, -, value, hlvt⟩ | ⟨-, -, hlvt⟩
    · exact absurd hwrites hspurious
    · exact (Prod.mk.inj hlvt).1.trans hdisabled
    · exact (Prod.mk.inj hlvt).1.trans hdisabled
  refine ⟨run_invariant (I := fun a => a.lapic.softwareEnable = 0) hkeep rfl hmeets hrun,
    fun i => ?_⟩
  have hlatch := Occurs.iff_of_latch_within (I := fun a => a.Masked i)
    (P := Writes (.localVectorTable i)) hkeep (fun a op b hdisabled hspurious hstep => ?_) rfl
    hmeets hrun
  · have hreset : ¬ (LocalApic.initial s timerId).Masked i := by
      change ¬ Word.has (0 : BitVec 32) lapicLvtMasked = true
      decide
    exact hlatch.trans (or_iff_right hreset)
  · rcases lvt_localApicStep hstep with ⟨hwrites, -⟩ | ⟨j, hwrites, value, hlvt⟩ |
      ⟨-, hnot, hlvt⟩
    · exact absurd hwrites hspurious
    · rw [masked_of_setLvtEntry hlvt hdisabled]
      refine or_congr_right ⟨fun hij => hij ▸ hwrites, fun hi => ?_⟩
      exact ApicRegister.localVectorTable.inj (hi.unique hwrites)
    · unfold Masked
      rw [(Prod.mk.inj hlvt).2]
      exact (or_iff_left (hnot i)).symm

end LocalApic

/-- Over every run from the initialisation, a disabled APIC has its table masked and its timer
silent exactly when some access wrote the spurious vector register or each of the seven entries
was written; the timer is silent in any case. -/
theorem lvt_masked_while_disabled_iff (s : State) (timerId : BitVec 32)
    (ops : List (BitVec 64 × LocalApicOp)) (a : LocalApic)
    (hrun : run localApicStep (LocalApic.initial s timerId) ops = .ok a) :
    (a.DisabledMasked ↔
      Occurs localApicStep (LocalApic.Writes .spuriousVector) (LocalApic.initial s timerId) ops ∨
        ∀ i, Occurs localApicStep (LocalApic.Writes (.localVectorTable i))
          (LocalApic.initial s timerId) ops) ∧
      (a.lapic.softwareEnable = 0 → a.TimerSilent) := by
  have hsilent : a.TimerMaskedOrReset :=
    run_invariant (fun _ _ _ ha _ hstep => LocalApic.TimerMaskedOrReset.step ha hstep)
      (fun _ => .inr rfl) (Meets.always _ ops) hrun
  refine ⟨?_, hsilent.silent⟩
  by_cases hspurious : Occurs localApicStep (LocalApic.Writes .spuriousVector)
      (LocalApic.initial s timerId) ops
  · have hmasked : a.AllMasked := by
      refine Occurs.brings_about (fun a op b hwrites hstep => ?_)
        (fun a op b ha hstep => ha.step hstep) hspurious hrun
      rcases lvt_localApicStep hstep with ⟨-, value, hlvt⟩ | ⟨i, hother, -⟩ | ⟨hnot, -⟩
      · exact LocalApic.allMasked_of_spuriousInterrupt hlvt
      · cases hwrites.unique hother
      · exact absurd hwrites hnot
    exact iff_of_true (fun hdisabled => ⟨hmasked hdisabled, hsilent.silent hdisabled⟩)
      (.inl hspurious)
  · obtain ⟨hdisabled, hwritten⟩ := LocalApic.masked_iff_written hrun hspurious
    rw [or_iff_right hspurious]
    constructor
    · exact fun h i => (hwritten i).mp ((h hdisabled).1 i)
    · exact fun h _ => ⟨fun i => (hwritten i).mpr (h i), hsilent.silent hdisabled⟩

/-- The guest programs LINT0 and leaves the rest as the reset left it: the APIC is disabled, and
the timer entry is not masked. -/
theorem lvt_unmasked_after_reset :
    ∃ a, run localApicStep (LocalApic.initial (State.initial fun _ _ => true) 0)
        [(0, .write 0 (ApicRegister.localVectorTable 3).address 0x700 4)] = .ok a ∧
      ¬ a.DisabledMasked := by
  obtain ⟨a, ha, hdisabled, hunmasked⟩ := exists_of_ends
    (fun a : LocalApic => a.lapic.softwareEnable = 0 ∧ ¬ a.Masked apicLvtTimer)
    (r := run localApicStep (LocalApic.initial (State.initial fun _ _ => true) 0)
      [(0, .write 0 (ApicRegister.localVectorTable 3).address 0x700 4)]) (by decide +kernel)
  exact ⟨a, ha, fun h => hunmasked ((h hdisabled).1 apicLvtTimer)⟩

/-- The guest enables the APIC, programs a periodic timer, and disables the APIC again. -/
theorem lvt_masked_after_disable :
    ∃ a, run localApicStep (LocalApic.initial (State.initial fun _ _ => true) 0)
        [(0, .write 0 ApicRegister.spuriousVector.address 0x1ff 4),
          (1, .write 0 (ApicRegister.localVectorTable apicLvtTimer).address 0x20031 4),
          (2, .write 0 ApicRegister.spuriousVector.address 0xff 4)] = .ok a ∧
      a.lapic.softwareEnable = 0 ∧ a.DisabledMasked := by
  obtain ⟨a, ha, hdisabled⟩ := exists_of_ends
    (fun a : LocalApic => a.lapic.softwareEnable = 0)
    (r := run localApicStep (LocalApic.initial (State.initial fun _ _ => true) 0)
      [(0, .write 0 ApicRegister.spuriousVector.address 0x1ff 4),
        (1, .write 0 (ApicRegister.localVectorTable apicLvtTimer).address 0x20031 4),
        (2, .write 0 ApicRegister.spuriousVector.address 0xff 4)]) (by decide +kernel)
  have hiff := (lvt_masked_while_disabled_iff (State.initial fun _ _ => true) 0 _ a ha).1
  exact ⟨a, ha, hdisabled, hiff.mpr (.inl (.inl ⟨rfl, by decide, by decide⟩))⟩

end Svmm
