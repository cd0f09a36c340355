import Svmm.Properties.IoApic.Entry
import Svmm.Properties.Pic.Commands

/-!
# Where an injected vector comes from

The three controllers hold vectors in many places: the request register, the spurious vector, the
24 redirection entries, the offsets of the PICs and the numbers they latch.  For one vector `v` the
invariant `Spares` says that none of these holds it, as long as every line that is raised belongs
to an entry or an offset that does not name it.  So a vector that reaches the guest has a cause: a
device sent it, or raised a line whose entry or offset gives this vector.
-/

namespace Svmm

open TransitionRun

/-! ## What is injected -/

/-- The vector of a `GVM_INTERRUPT`. -/
def Ioctl.vector? : Ioctl → Option (BitVec 8)
  | .gvmInterrupt irq => some irq
  | .gvmSmi => none
  | .gvmNmi => none

/-- The vectors injected so far, latest first. -/
def State.injected (s : State) : List (BitVec 8) := s.ioctls.filterMap Ioctl.vector?

section Injected

variable {s t : State}

lemma injected_deviceIoControl (call : Ioctl) :
    (s.deviceIoControl call).2.injected = call.vector?.toList ++ s.injected := by
  unfold State.deviceIoControl State.injected
  cases h : call.vector? with
  | none => rw [List.filterMap_cons_none h, Option.toList_none, List.nil_append]
  | some v => rw [List.filterMap_cons_some h, Option.toList_some, List.singleton_append]

lemma injected_apicService : (apicService s).injected = s.injected := by
  rw [apicService_eq]
  split_ifs
  · rfl
  · rfl

lemma injected_apicSetIrq (vector : BitVec 8) (level : BitVec 32) :
    (apicSetIrq vector level s).injected = s.injected := by
  by_cases h : s.lapic.accepts vector
  · rw [apicSetIrq_of_accepts _ _ _ h, injected_apicService]
    rfl
  · obtain ⟨e, he⟩ := apicSetIrq_of_refused vector level s h
    rw [he]
    rfl

/-- The bus makes a system management or a non-maskable interrupt at most. -/
lemma injected_apicBusDeliverInterrupt {vector : BitVec 8} {r : ℕ × State}
    {destination destinationMode deliveryMode triggerMode : BitVec 32}
    (h : apicBusDeliverInterrupt vector destination destinationMode deliveryMode triggerMode s =
      .ok r) : r.2.injected = s.injected := by
  have hfixed : ∀ r, apicBusDeliverFixed vector destination destinationMode triggerMode s = r →
      r.2.injected = s.injected := by
    rintro r rfl
    unfold apicBusDeliverFixed
    split_ifs
    · exact injected_apicSetIrq vector triggerMode
    · rfl
    · exact injected_apicSetIrq vector triggerMode
    · rfl
  have hlow : ∀ r, apicBusDeliverLowPriorityInterrupt vector destination triggerMode s = r →
      r.2.injected = s.injected := by
    rintro r rfl
    unfold apicBusDeliverLowPriorityInterrupt
    split_ifs
    · exact injected_apicSetIrq vector triggerMode
    · exact injected_apicSetIrq vector triggerMode
    · rfl
  unfold apicBusDeliverInterrupt at h
  dsimp only at h
  generalize (if destinationMode = destinationModePhysical ∧ deliveryMode = deliveryModeLowPri
    then deliveryModeFixed else deliveryMode) = mode at h
  split_ifs at h
  all_goals rw [Except.ok.injEq] at h
  · exact hfixed _ h
  · exact hlow _ h
  · exact h ▸ injected_deviceIoControl .gvmSmi
  · exact h ▸ injected_deviceIoControl .gvmNmi
  · rw [← h]

lemma injected_ioApicSetIntr {pin : Fin 24} (h : ioApicSetIntr pin s = .ok t) :
    t.injected = s.injected := by
  unfold ioApicSetIntr at h
  dsimp only at h
  split_ifs at h
  · rw [← Except.ok.inj h]
  · obtain ⟨⟨status, u⟩, hbus, hu⟩ := bind_eq_ok.mp h
    have hinjected : u.injected = (s.logCall pin).injected :=
      injected_apicBusDeliverInterrupt hbus
    exact Except.ok.inj hu ▸ hinjected

end Injected

/-! ## Redirection entries -/

/-- The entry cannot send a vector. -/
def IoRedirectEntry.Spares (v : BitVec 8) (e : IoRedirectEntry) : Prop :=
  e.masked = true ∨ e.vector ≠ v

lemma masked_afterBus (a : IoApic) (pin : Fin 24) (status : ℕ) :
    ((a.afterBus pin status).ioRedirectTable pin).masked = (a.ioRedirectTable pin).masked := by
  unfold IoApic.afterBus IoApic.setEntry IoRedirectEntry.masked
  dsimp only
  split_ifs <;>
    simp [ioApicMasked, ioApicIrr, ioApicDeliveryStatus]

lemma masked_receiveEndOfInterrupt (e : IoRedirectEntry) (w : BitVec 8) :
    (e.receiveEndOfInterrupt w).masked = e.masked := by
  rw [IoRedirectEntry.receiveEndOfInterrupt_eq]
  split_ifs
  · simp [IoRedirectEntry.masked, ioApicMasked, ioApicIrr]
  · rfl

lemma has_ioApicLowWritten {value : BitVec 32} {i : ℕ} (h : i ≠ ioApicIrr) :
    Word.has (ioApicLowWritten value) i = Word.has value i := by
  unfold ioApicLowWritten
  split_ifs
  · rfl
  · rw [Word.has_clear, decide_eq_false h.symm, Bool.not_false, Bool.and_true]

/-- A write of the low half gives the entry the low byte of the value, and its mask bit. -/
lemma masked_lowWritten (e : IoRedirectEntry) (value : BitVec 32) :
    ({ e with low := ioApicLowWritten value } : IoRedirectEntry).masked =
      Word.has value ioApicMasked :=
  has_ioApicLowWritten (by decide)

lemma vector_lowWritten (e : IoRedirectEntry) (value : BitVec 32) :
    ({ e with low := ioApicLowWritten value } : IoRedirectEntry).vector = value.setWidth 8 := by
  refine Word.ext_has fun i hi => ?_
  have hirr : ioApicIrr = 14 := rfl
  rw [IoRedirectEntry.has_vector, Word.has_setWidth, Bool.and_comm,
    has_ioApicLowWritten (by omega)]

/-! ## Causes -/

/-- A device raises the line of a pin of the I/O APIC. -/
def RaisesPin (pin : Fin 24) (_ : State) : Op → Prop
  | .picRaiseIrq irqNumber => irqNumber ≠ 2 ∧ ioApicPin irqNumber = some pin
  | .ioApicRaiseIrq irqNumber => ioApicPin irqNumber = some pin
  | _ => False

/-- A device raises line `n` of a PIC. -/
def RaisesLine (i : Fin 2) (n : ℕ) (_ : State) : Op → Prop
  | .picRaiseIrq irqNumber =>
      irqNumber.toNat ≤ 15 ∧ picOf irqNumber = i ∧ irqNumber.toNat % 8 = n
  | _ => False

/-- The guest gives a redirection entry a vector, unmasked. -/
def ProgramsEntry (pin : Fin 24) (v : BitVec 8) (s : State) : Op → Prop
  | .ioApicMMIOWrite address value =>
      s.writesEntry address pin ∧ Word.has s.ioApic.ioRegisterSelect 0 = false ∧
        Word.has value ioApicMasked = false ∧ value.setWidth 8 = v
  | _ => False

/-- The guest writes the ICW2 of a PIC. -/
def ProgramsOffset (i : Fin 2) (offset : BitVec 8) (s : State) : Op → Prop
  | .picPortIoWrite address value =>
      address = dataPort i ∧ (s.pic i).state = stateInitializedIcw1 ∧ value.setWidth 8 = offset
  | _ => False

/-- The guest makes a vector the spurious one. -/
def SetsSpurious (v : BitVec 8) (_ : State) : Op → Prop
  | .apicWriteSpuriousInterrupt value => (value &&& 0xf0 ||| 0xf).setWidth 8 = v
  | _ => False

/-- A device or the local APIC's timer sends a vector past the I/O APIC. -/
def Sends (v : BitVec 8) (_ : State) : Op → Prop
  | .apicSetIrq vector _ => vector = v
  | _ => False

/-- The lines that may be raised.  A PIC that latches any line may raise line 2 of the master. -/
structure Causes where
  pins : Set (Fin 24)
  lines : Fin 2 → Set ℕ
  cascade : ∀ {i n}, n ∈ lines i → 2 ∈ lines 0

/-- The step raises no other lines, and names the vector for none of these. -/
structure Causes.Allows (c : Causes) (v : BitVec 8) (s : State) (op : Op) : Prop where
  raisesPin : ∀ pin, RaisesPin pin s op → pin ∈ c.pins
  raisesLine : ∀ i n, RaisesLine i n s op → n ∈ c.lines i
  programsEntry : ∀ pin ∈ c.pins, ¬ ProgramsEntry pin v s op
  programsOffset : ∀ i offset, ProgramsOffset i offset s op →
    ∀ n ∈ c.lines i, BitVec.ofNat 8 n + offset ≠ v
  setsSpurious : ¬ SetsSpurious v s op
  sends : ¬ Sends v s op

/-! ## The APICs -/

/-- The APICs have no way to come to the vector. -/
structure ApicsSpare (c : Causes) (v : BitVec 8) (s : State) : Prop where
  injected : v ∉ s.injected
  requesting : s.requesting v = false
  spurious : s.lapic.spuriousVector ≠ v
  asserted : ∀ pin, s.asserted pin = true → pin ∈ c.pins
  entry : ∀ pin ∈ c.pins, (s.entry pin).Spares v

namespace ApicsSpare

variable {c : Causes} {v : BitVec 8} {s t : State}

/-- What the invariant reads. -/
lemma congr (h : ApicsSpare c v s) (hinjected : t.injected = s.injected)
    (hlapic : t.lapic = s.lapic) (hioApic : t.ioApic = s.ioApic) : ApicsSpare c v t := by
  refine ⟨?_, ?_, ?_, ?_, ?_⟩
  · rw [hinjected]
    exact h.injected
  · rw [State.requesting, hlapic]
    exact h.requesting
  · rw [hlapic]
    exact h.spurious
  · unfold State.asserted
    rw [hioApic]
    exact h.asserted
  · unfold State.entry
    rw [hioApic]
    exact h.entry

lemma service (h : ApicsSpare c v s) : ApicsSpare c v (apicService s) :=
  h.congr injected_apicService (lapic_apicService s) (ioApic_apicService s)

lemma setIrq (h : ApicsSpare c v s) {vector : BitVec 8} (hne : vector ≠ v) (level : BitVec 32) :
    ApicsSpare c v (apicSetIrq vector level s) := by
  have hframe := lapic_apicSetIrq_frame vector level s
  refine ⟨?_, ?_, ?_, ?_, ?_⟩
  · rw [injected_apicSetIrq]
    exact h.injected
  · have hother : ¬ (s.lapic.accepts vector ∧ vector = v) := fun hand => hne hand.2
    rw [State.requesting, irr_apicSetIrq, decide_eq_false hother, Bool.or_false]
    exact h.requesting
  · rw [hframe.2.2.1]
    exact h.spurious
  · unfold State.asserted
    rw [ioApic_apicSetIrq]
    exact h.asserted
  · unfold State.entry
    rw [ioApic_apicSetIrq]
    exact h.entry

/-- A store into the I/O APIC. -/
lemma setIoApic (h : ApicsSpare c v s) {a : IoApic}
    (hirr : ∀ pin : Fin 24, Word.has a.irr pin = true → pin ∈ c.pins)
    (htable : ∀ pin ∈ c.pins, (a.ioRedirectTable pin).Spares v) :
    ApicsSpare c v (s.setIoApic a) :=
  ⟨h.injected, h.requesting, h.spurious, hirr, htable⟩

/-- The entry and the line as a bus call leaves them. -/
lemma afterBus (h : ApicsSpare c v t) (hs : ApicsSpare c v s) (pin : Fin 24) (status : ℕ) :
    ApicsSpare c v (t.setIoApic (s.ioApic.afterBus pin status)) := by
  refine h.setIoApic (fun other hother => ?_) fun other hother => ?_
  · rw [irr_afterBus, Bool.and_eq_true] at hother
    exact hs.asserted other hother.1
  · by_cases hpin : other = pin
    · subst hpin
      rw [IoRedirectEntry.Spares, masked_afterBus, vector_afterBus]
      exact hs.entry other hother
    · rw [ioRedirectTable_afterBus_of_ne _ _ hpin]
      exact hs.entry other hother

/-- A pin whose line is asserted sends a vector that its entry does not spare. -/
lemma ioApicSetIntr (h : ApicsSpare c v s) {pin : Fin 24} (hpin : pin ∈ c.pins)
    (hsent : ioApicSetIntr pin s = .ok t) : ApicsSpare c v t := by
  have hinjected := injected_ioApicSetIntr hsent
  have hlog : ApicsSpare c v (s.logCall pin) := h.congr rfl rfl rfl
  cases ioApicSent_of_ioApicSetIntr hsent with
  | held hheld => exact h
  | heard hheld hhears =>
      have hvector : (s.entry pin).vector ≠ v := by
        refine (h.entry pin hpin).resolve_left fun hmasked => ?_
        rw [IoRedirectEntry.held, hmasked, Bool.true_or] at hheld
        exact Bool.noConfusion hheld
      exact (hlog.setIrq hvector _).afterBus h pin 0
  | dropped hheld hdeaf hfixed => exact hlog.afterBus h pin 0
  | @refused u hheld hdeaf hfixed hcall =>
      have hkeep : u.lapic = s.lapic ∧ u.ioApic = s.ioApic := by
        rcases hcall with rfl | ⟨call, rfl⟩
        · exact ⟨rfl, rfl⟩
        · exact ⟨rfl, rfl⟩
      exact (h.congr hinjected hkeep.1 hkeep.2 : ApicsSpare c v u).afterBus h pin 1

lemma ioApicService (h : ApicsSpare c v s) (hrun : ioApicService s = .ok t) :
    ApicsSpare c v t := by
  rw [Svmm.ioApicService, ioApicServicePins_eq_run] at hrun
  refine run_invariant (P := fun _ _ => True) (fun s pin t hs _ ht => ?_) h
    (Meets.always s _) hrun
  rcases ioApicServicePin_cases ht with ⟨-, rfl⟩ | ⟨hasserted, -⟩
  · exact hs
  · rw [ioApicServicePin, if_pos hasserted] at ht
    exact hs.ioApicSetIntr (hs.asserted pin hasserted) ht

lemma ioApicRaiseIrq (h : ApicsSpare c v s) {irqNumber : BitVec 8}
    (hpin : ∀ pin, ioApicPin irqNumber = some pin → pin ∈ c.pins)
    (hrun : ioApicRaiseIrq irqNumber s = .ok t) : ApicsSpare c v t := by
  rcases ioApicRaiseIrq_cases hrun with ⟨-, rfl⟩ | ⟨pin, -, -, -, rfl⟩ | ⟨pin, hof, -, hservice⟩
  · exact h
  · exact h
  · refine ioApicService (h.setIoApic (a := { s.ioApic with irr := Word.set s.ioApic.irr pin })
      (fun other hother => ?_) h.entry) hservice
    rw [Word.has_set, Bool.or_eq_true, Bool.and_eq_true, decide_eq_true_eq] at hother
    rcases hother with hother | ⟨hother, -⟩
    · exact h.asserted other hother
    · exact Fin.ext hother ▸ hpin pin hof

lemma ioApicLowerIrq (h : ApicsSpare c v s) (irqNumber : BitVec 8) :
    ApicsSpare c v (ioApicLowerIrq irqNumber s) := by
  rcases ioApicLowerIrq_cases irqNumber s with heq | ⟨pin, -, -, heq⟩
  · rw [heq]
    exact h
  · rw [heq]
    refine h.setIoApic (a := { s.ioApic with irr := Word.clear s.ioApic.irr pin })
      (fun other hother => ?_) h.entry
    rw [Word.has_clear, Bool.and_eq_true] at hother
    exact h.asserted other hother.1

lemma ioApicMMIOWriteHandler (h : ApicsSpare c v s) {address value : BitVec 32}
    (hallows : c.Allows v s (.ioApicMMIOWrite address value))
    (hrun : ioApicMMIOWriteHandler address value s = .ok t) : ApicsSpare c v t := by
  rcases ioApicMMIOWriteHandler_cases hrun with ⟨a, rfl, htable, hirr, -⟩ | ⟨pin, hw, hservice⟩
  · refine h.setIoApic ?_ ?_
    · rw [hirr]
      exact h.asserted
    · rw [htable]
      exact h.entry
  · refine ioApicService (h.setIoApic ?_ fun other hother => ?_) hservice
    · rw [irr_writeEntry]
      exact h.asserted
    · by_cases hpin : other = pin
      · subst hpin
        rw [ioRedirectTable_writeEntry_self]
        split_ifs with hhalf
        · exact h.entry other hother
        · rw [Bool.not_eq_true] at hhalf
          rw [IoRedirectEntry.Spares, masked_lowWritten, vector_lowWritten]
          by_contra hnot
          rw [not_or, Bool.not_eq_true, not_not] at hnot
          exact hallows.programsEntry other hother ⟨hw, hhalf, hnot⟩
      · rw [ioRedirectTable_writeEntry_of_ne _ _ hpin]
        exact h.entry other hother

lemma receiveEOI (h : ApicsSpare c v s) : ApicsSpare c v (apicReceiveEOI s) := by
  by_cases hvector : s.eoiVector = s.lapic.spuriousVector
  · rw [apicReceiveEOI_of_spurious s hvector]
    exact h
  · have hframe := lapic_apicReceiveEOI_frame s
    have hio := ioApic_apicReceiveEOI s hvector
    have hentry : ∀ pin, ((apicReceiveEOI s).entry pin = s.entry pin ∨
        (apicReceiveEOI s).entry pin = (s.entry pin).receiveEndOfInterrupt s.eoiVector) ∧
        (apicReceiveEOI s).asserted pin = s.asserted pin := by
      intro pin
      rw [State.entry, State.asserted, hio]
      split_ifs
      · exact ⟨.inr rfl, rfl⟩
      · exact ⟨.inl rfl, rfl⟩
    refine ⟨?_, ?_, ?_, fun pin hpin => ?_, fun pin hpin => ?_⟩
    · have hinjected : (apicReceiveEOI s).injected = s.injected := by
        unfold apicReceiveEOI
        dsimp only
        split_ifs
        · rw [injected_apicService]
          rfl
        · rw [injected_apicService]
          rfl
        · rfl
      rw [hinjected]
      exact h.injected
    · rw [State.requesting, hframe.2.1]
      exact h.requesting
    · rw [hframe.2.2]
      exact h.spurious
    · rw [(hentry pin).2] at hpin
      exact h.asserted pin hpin
    · rcases (hentry pin).1 with heq | heq
      · rw [heq]
        exact h.entry pin hpin
      · rw [heq, IoRedirectEntry.Spares, masked_receiveEndOfInterrupt,
          IoRedirectEntry.vector_receiveEndOfInterrupt]
        exact h.entry pin hpin

lemma writeTaskPriority (h : ApicsSpare c v s) (value : BitVec 32) :
    ApicsSpare c v (apicWriteTaskPriority value s) := by
  have hstore : ApicsSpare c v (s.setLapic { s.lapic with taskPriority := value }) :=
    ⟨h.injected, h.requesting, h.spurious, h.asserted, h.entry⟩
  rcases apicWriteTaskPriority_cases s value with ⟨-, heq⟩ | ⟨-, -, heq⟩ | ⟨-, -, heq⟩
  · rw [heq]
    exact h
  · rw [heq]
    exact hstore
  · rw [heq]
    exact hstore.service

/-- The local APIC hands out a vector that was requested, the spurious one, or, with nothing
requested, 0. -/
lemma acknowledge (h : ApicsSpare c v s) (hzero : v ≠ 0) {w : BitVec 8}
    (hrun : apicAcknowledgeInterrupt s = .ok (w, t)) : w ≠ v ∧ ApicsSpare c v t := by
  rcases (apicAcknowledgeInterrupt_cases s hrun).2 with ⟨-, rfl, rfl⟩ | ⟨-, rfl, rfl⟩
  · exact ⟨h.spurious, h.congr rfl rfl rfl⟩
  · constructor
    · intro heq
      by_cases hhas : hasVector s.lapic.interruptRequestRegister
          (highestVector s.lapic.interruptRequestRegister) = true
      · rw [heq] at hhas
        exact absurd (hhas.symm.trans h.requesting) (by decide)
      · rw [Bool.not_eq_true] at hhas
        exact hzero (heq.symm.trans (highestVector_eq_zero hhas))
    · refine service ⟨h.injected, ?_, h.spurious, h.asserted, h.entry⟩
      rw [requesting_acknowledged, h.requesting, Bool.false_and]

end ApicsSpare

/-! ## The PICs -/

/-- A controller that holds neither the vector nor an offset that would give it to a line. -/
structure Pic.Spares (c : Causes) (v : BitVec 8) (i : Fin 2) (p : Pic) : Prop where
  requested : ∀ n < 8, p.requested n = true → n ∈ c.lines i
  offset : ∀ n ∈ c.lines i, BitVec.ofNat 8 n + p.currentOffset ≠ v
  number : p.interruptNumber ≠ v

/-- The PICs have no way to come to the vector. -/
structure PicsSpare (c : Causes) (v : BitVec 8) (s : State) : Prop where
  injected : v ∉ s.injected
  pic : ∀ i, (s.pic i).Spares c v i

section PicSpares

variable {c : Causes} {v : BitVec 8} {i : Fin 2} {p : Pic} {n : ℕ}

namespace Pic.Spares

/-- What the invariant reads. -/
lemma congr (h : p.Spares c v i) {q : Pic} (hrequest : q.interruptRequest = p.interruptRequest)
    (hoffset : q.currentOffset = p.currentOffset)
    (hnumber : q.interruptNumber = p.interruptNumber) : q.Spares c v i := by
  refine ⟨?_, ?_, ?_⟩
  · unfold Pic.requested
    rw [hrequest]
    exact h.requested
  · rw [hoffset]
    exact h.offset
  · rw [hnumber]
    exact h.number

lemma latch (h : p.Spares c v i) (hn : n ∈ c.lines i) : (p.latch n).Spares c v i :=
  ⟨h.requested, h.offset, h.offset n hn⟩

lemma raiseLine (h : p.Spares c v i) (hlt : n < 8) (hn : n ∈ c.lines i) :
    (p.raiseLine n).Spares c v i := by
  refine ⟨fun k hk hreq => ?_, h.offset, h.number⟩
  rw [Pic.requested_raiseLine hlt hk, Bool.or_eq_true, decide_eq_true_eq] at hreq
  rcases hreq with hreq | rfl
  · exact h.requested k hk hreq
  · exact hn

lemma lowerLine (h : p.Spares c v i) (hlt : n < 8) : (p.lowerLine n).Spares c v i := by
  refine ⟨fun k hk hreq => ?_, h.offset, h.number⟩
  rw [Pic.requested_lowerLine hlt hk, Bool.and_eq_true] at hreq
  exact h.requested k hk hreq.1

lemma consume (h : p.Spares c v i) (irq : ℕ) : (p.consume irq).Spares c v i :=
  ⟨fun k hk hreq => h.requested k hk (requested_of_consume hreq), h.offset, h.number⟩

end Pic.Spares

end PicSpares

namespace PicsSpare

variable {c : Causes} {v : BitVec 8} {s t : State} {i : Fin 2} {p : Pic}

/-- What the invariant reads. -/
lemma congr (h : PicsSpare c v s) (hinjected : t.injected = s.injected) (hpic : t.pic = s.pic) :
    PicsSpare c v t :=
  ⟨hinjected ▸ h.injected, hpic ▸ h.pic⟩

lemma setPic (h : PicsSpare c v s) (hp : p.Spares c v i) : PicsSpare c v (s.setPic i p) := by
  refine ⟨h.injected, fun j => ?_⟩
  rw [State.pic_setPic]
  split_ifs with hj
  · exact hj ▸ hp
  · exact h.pic j

lemma deviceIoControl (h : PicsSpare c v s) {w : BitVec 8} (hne : w ≠ v) :
    PicsSpare c v (s.deviceIoControl (.gvmInterrupt w)).2 := by
  refine ⟨?_, h.pic⟩
  rw [injected_deviceIoControl, Ioctl.vector?, Option.toList_some, List.singleton_append,
    List.mem_cons, not_or]
  exact ⟨hne.symm, h.injected⟩

lemma specialMask (h : PicsSpare c v s) (i : Fin 2) {irqs : List ℕ} (hlt : ∀ irq ∈ irqs, irq < 8) :
    PicsSpare c v (picServiceSpecialMask i irqs s) := by
  induction irqs generalizing s with
  | nil => exact h
  | cons irq irqs ih =>
      have hrest : ∀ n ∈ irqs, n < 8 := fun n hn => hlt n (List.mem_cons_of_mem _ hn)
      have hirq := hlt irq List.mem_cons_self
      unfold picServiceSpecialMask
      dsimp only
      split_ifs with hmask hask
      · exact ih h hrest
      · have hline := (h.pic i).requested irq hirq hask.2
        exact ih (deviceIoControl (h.setPic ((h.pic i).latch hline))
          ((h.pic i).offset irq hline) |>.congr rfl rfl) hrest
      · have hline := (h.pic i).requested irq hirq hask.2
        exact deviceIoControl (h.setPic ((h.pic i).latch hline)) ((h.pic i).offset irq hline)
      · exact ih h hrest

lemma served {raiseIrq2 : State → Outcome State} (h : PicsSpare c v s)
    (hraise : ∀ {u w}, PicsSpare c v u → 2 ∈ c.lines 0 → raiseIrq2 u = .ok w → PicsSpare c v w)
    (hserved : PicServed raiseIrq2 i s t) : PicsSpare c v t := by
  cases hserved with
  | specialMask hmode => exact h.specialMask i fun irq hirq => List.mem_range.mp hirq
  | unmoded hmode hnested => exact h
  | idle hmode hnested hnext => exact h
  | opened hmode hnested hnext hcascade =>
      obtain ⟨hlt, -, hreq, -⟩ := nextIrq_spec hnext
      exact (h.setPic ((h.pic i).latch ((h.pic i).requested _ hlt hreq))).congr rfl rfl
  | forwarded hmode hnested hnext hcascade hcall =>
      obtain ⟨hlt, -, hreq, -⟩ := nextIrq_spec hnext
      have hline := (h.pic i).requested _ hlt hreq
      exact hraise (h.setPic ((h.pic i).latch hline)) (c.cascade hline) hcall

lemma raiseCascade (h : PicsSpare c v s) (htwo : 2 ∈ c.lines 0)
    (hrun : picRaiseCascade s = .ok t) : PicsSpare c v t := by
  unfold picRaiseCascade at hrun
  split_ifs at hrun
  · exact Except.ok.inj hrun ▸ h
  · refine served (h.setPic ((h.pic 0).raiseLine (by decide) htwo)) (fun hu _ huw => ?_)
      (picServed_of_picServiceWith hrun)
    exact Except.ok.inj huw ▸ hu

lemma service (h : PicsSpare c v s) (hrun : picService i s = .ok t) : PicsSpare c v t :=
  h.served (fun hu htwo huw => hu.raiseCascade htwo huw) (picServed_of_picService hrun)

lemma raiseIrqLine (h : PicsSpare c v s) {irqNumber : BitVec 8}
    (hline : irqNumber.toNat ≤ 15 → irqNumber.toNat % 8 ∈ c.lines (picOf irqNumber))
    (hrun : picRaiseLine irqNumber s = .ok t) : PicsSpare c v t := by
  rw [picRaiseLine_eq] at hrun
  split_ifs at hrun with hraises
  · exact service (h.setPic ((h.pic _).raiseLine (Nat.mod_lt _ (by decide)) (hline hraises.1)))
      hrun
  · exact Except.ok.inj hrun ▸ h

lemma lowerIrqLine (h : PicsSpare c v s) (irqNumber : BitVec 8) :
    PicsSpare c v (picLowerLine irqNumber s) := by
  rcases picLowerLine_cases irqNumber s with heq | ⟨hnum, -, heq⟩
  · rw [heq]
    exact h
  · rw [heq]
    exact h.setPic ((h.pic 0).lowerLine (by omega))

/-- `PicIAC` hands out a number that a controller holds. -/
lemma iac (h : PicsSpare c v s) {w : BitVec 8} (hrun : picIAC s = .ok (w, t)) :
    w ≠ v ∧ PicsSpare c v t := by
  have hclear : PicsSpare c v (s.clearEvent eventPendingIntr) := h.congr rfl rfl
  have hserve : ∀ i irq, (((s.pic i).consume irq).serve irq).Spares c v i := fun i irq =>
    ((h.pic i).consume irq).congr rfl rfl rfl
  rcases picIAC_cases hrun with ⟨-, rfl, hservice⟩ | ⟨-, rfl, u, hslave, hmaster⟩
  · exact ⟨(h.pic 0).number, service (hclear.setPic (hserve 0 _)) hservice⟩
  · have htwo := hclear.setPic (((h.pic 0).consume 2).congr
      (q := { (s.pic 0).consume 2 with
        interruptPin := Word.clear (s.pic 0).interruptPin (irqBit 2) }) rfl rfl rfl)
    exact ⟨(h.pic 1).number, service (service (htwo.setPic (hserve 1 _)) hslave) hmaster⟩

end PicsSpare

/-! ## Port writes -/

/-- What a command makes of the fields that decide a vector: only ICW1 clears requests, only ICW2
sets an offset. -/
lemma Pic.Spares.write {c : Causes} {v : BitVec 8} {i : Fin 2} {p : Pic} {w : Pic × PicEffect}
    (h : p.Spares c v i) (hwrite : PicWrite i p w)
    (hoffset : ∀ n ∈ c.lines i, BitVec.ofNat 8 n + w.1.currentOffset ≠ v) :
    w.1.Spares c v i := by
  cases hwrite with
  | icw1 value =>
      refine ⟨fun n hn hreq => ?_, h.offset, h.number⟩
      have hzero : Word.has (0#8) (irqBit n) = true := hreq
      rw [Word.has_zero] at hzero
      exact Bool.noConfusion hzero
  | select cmd => exact h.congr rfl rfl rfl
  | enterSpecialMask cmd => exact h.congr rfl rfl rfl
  | enterMode cmd mode hnested hmask => exact h.congr rfl rfl rfl
  | eoiMode mode hnested hmask => exact h.congr rfl rfl rfl
  | endOfInterrupt irq hirq hserv => exact h.congr rfl rfl rfl
  | endOfNothing => exact h
  | specificEndOfInterrupt irq hirq => exact h.congr rfl rfl rfl
  | setPriority irq hirq => exact h.congr rfl rfl rfl
  | rotate irq hirq => exact h.congr rfl rfl rfl
  | ignored => exact h
  | icw2 offset hstate => exact ⟨h.requested, hoffset, h.number⟩
  | icw3 cmd pins hstate hslave => exact h.congr rfl rfl rfl
  | icw4 value hicw1 hicw2 hstate => exact h.congr rfl rfl rfl
  | interruptMask mask hstate => exact h.congr rfl rfl rfl

section Offsets

variable {i : Fin 2} {s : State}

lemma currentOffset_writeOcw2 (p : Pic) (value : BitVec 32) :
    (p.writeOcw2 value).1.currentOffset = p.currentOffset := by
  have heoi : p.endOfInterrupt.currentOffset = p.currentOffset := by
    unfold Pic.endOfInterrupt
    dsimp only
    split_ifs <;> rfl
  unfold Pic.writeOcw2
  dsimp only
  split_ifs <;> first | rfl | exact heoi

lemma currentOffset_writeCommand (p : Pic) (value : BitVec 32) :
    (p.writeCommand value).1.currentOffset = p.currentOffset := by
  unfold Pic.writeCommand
  split_ifs
  · rfl
  · unfold Pic.writeOcw3
    dsimp only
    split_ifs <;> rfl
  · exact currentOffset_writeOcw2 p value

lemma currentOffset_writeData (p : Pic) (i : Fin 2) (value : BitVec 32) :
    (p.writeData i value).1.currentOffset =
      if p.state = stateInitializedIcw1 then value.setWidth 8 else p.currentOffset := by
  unfold Pic.writeData
  split_ifs <;> rfl

/-- A port write leaves the offset of its controller as it is, or is an ICW2. -/
lemma currentOffset_picWritten {address : BitVec 64} {value : BitVec 32} {w : Pic × PicEffect}
    (h : picWritten address value s = some (i, w)) :
    w.1.currentOffset = (s.pic i).currentOffset ∨
      ProgramsOffset i w.1.currentOffset s (.picPortIoWrite address value) := by
  unfold picWritten at h
  dsimp only at h
  by_cases hcommand : address = 0x20 ∨ address = 0xA0
  · rw [if_pos hcommand, Option.some.injEq, Prod.mk.injEq] at h
    obtain ⟨rfl, rfl⟩ := h
    exact .inl (currentOffset_writeCommand _ value)
  · rw [if_neg hcommand] at h
    split_ifs at h with hdata
    all_goals
      rw [Option.some.injEq, Prod.mk.injEq] at h
      obtain ⟨rfl, rfl⟩ := h
    all_goals
      rw [currentOffset_writeData]
      split_ifs with hstate
    · refine .inr ⟨?_, hstate, rfl⟩
      rcases hdata with rfl | rfl
      · rename_i hge
        exact absurd hge (by decide)
      · rfl
    · exact .inl rfl
    · refine .inr ⟨?_, hstate, rfl⟩
      rcases hdata with rfl | rfl
      · rfl
      · rename_i hge
        exact absurd (by decide) hge
    · exact .inl rfl

end Offsets

/-! ## Runs -/

/-- No controller has a way to come to the vector. -/
structure Spares (c : Causes) (v : BitVec 8) (s : State) : Prop where
  apics : ApicsSpare c v s
  pics : PicsSpare c v s

namespace Spares

variable {c : Causes} {v : BitVec 8} {s t : State}

/-- The APICs leave the PICs alone. -/
lemma of_apics (h : Spares c v s) (hapics : ApicsSpare c v t) (hpic : t.pic = s.pic) :
    Spares c v t :=
  ⟨hapics, hapics.injected, hpic ▸ h.pics.pic⟩

/-- The PICs leave the APICs alone. -/
lemma of_pics (h : Spares c v s) (hpics : PicsSpare c v t) (hkeep : KeepsApics s t) :
    Spares c v t := by
  refine ⟨⟨hpics.injected, ?_, ?_, ?_, ?_⟩, hpics⟩
  · rw [State.requesting, hkeep.lapic]
    exact h.apics.requesting
  · rw [hkeep.lapic]
    exact h.apics.spurious
  · unfold State.asserted
    rw [hkeep.ioApic]
    exact h.apics.asserted
  · unfold State.entry
    rw [hkeep.ioApic]
    exact h.apics.entry

lemma inject (h : Spares c v s) {w : BitVec 8} (hne : w ≠ v) :
    Spares c v (svmmInterrupt w s) :=
  h.of_pics (h.pics.deviceIoControl hne) (picClosed_keepsApics.deviceIoControl _ s)

lemma initial (gvm : List Ioctl → Ioctl → Bool) (hzero : v ≠ 0) (hspurious : v ≠ 0xff)
    (hoffset : ∀ i, ∀ n ∈ c.lines i,
      BitVec.ofNat 8 n + ((State.initial gvm).pic i).currentOffset ≠ v) :
    Spares c v (State.initial gvm) := by
  have hnone : v ∉ (State.initial gvm).injected := List.not_mem_nil
  have hmasked : Word.has (Word.bit ioApicMasked : BitVec 32) ioApicMasked = true := by
    rw [Word.has_bit]
    decide
  have hpic : ∀ i, ((State.initial gvm).pic i).interruptRequest = 0#8 ∧
      ((State.initial gvm).pic i).interruptNumber = 0#8 := by
    intro i
    have hof : i = 0 ∨ i = 1 := by omega
    rcases hof with rfl | rfl
    · exact ⟨rfl, rfl⟩
    · exact ⟨rfl, rfl⟩
  refine ⟨⟨hnone, hasVector_zero v, hspurious.symm, fun pin hpin => ?_, fun pin _ => ?_⟩, hnone,
    fun i => ⟨fun n _ hreq => ?_, hoffset i, ?_⟩⟩
  · have hline : Word.has (0#32) pin = true := hpin
    rw [Word.has_zero] at hline
    exact Bool.noConfusion hline
  · exact .inl hmasked
  · rw [Pic.requested, (hpic i).1, Word.has_zero] at hreq
    exact Bool.noConfusion hreq
  · rw [(hpic i).2]
    exact hzero.symm

/-- The window exit injects what one of the controllers hands out. -/
lemma irqWindowOpen (h : Spares c v s) (hzero : v ≠ 0) (hrun : irqWindowOpen s = .ok t) :
    Spares c v t := by
  have hclosed : Spares c v (s.setWindow 0) :=
    h.of_apics (h.apics.congr rfl rfl rfl) rfl
  unfold Svmm.irqWindowOpen at hrun
  dsimp only at hrun
  split_ifs at hrun
  · obtain ⟨⟨w, u⟩, hiac, hu⟩ := bind_eq_ok.mp hrun
    obtain ⟨hne, hpics⟩ := hclosed.pics.iac hiac
    exact Except.ok.inj hu ▸ (hclosed.of_pics hpics (picClosed_keepsApics.iac hiac)).inject hne
  · obtain ⟨⟨w, u⟩, hack, hu⟩ := bind_eq_ok.mp hrun
    obtain ⟨hne, hapics⟩ := hclosed.apics.acknowledge hzero hack
    have hpic : u.pic = (s.setWindow 0).pic := by
      rcases (apicAcknowledgeInterrupt_cases _ hack).2 with ⟨-, -, rfl⟩ | ⟨-, -, rfl⟩
      · rfl
      · exact pic_apicService _
    exact Except.ok.inj hu ▸ (hclosed.of_apics hapics hpic).inject hne
  · exact Except.ok.inj hrun ▸ hclosed

lemma picRaiseIrq (h : Spares c v s) {irqNumber : BitVec 8}
    (hallows : c.Allows v s (.picRaiseIrq irqNumber)) (hrun : picRaiseIrq irqNumber s = .ok t) :
    Spares c v t := by
  obtain ⟨u, hu, hline⟩ := exists_of_picRaiseIrq hrun
  have hforward : Spares c v u := by
    rcases hu with ⟨hnum, hraise⟩ | ⟨-, rfl⟩
    · exact h.of_apics
        (h.apics.ioApicRaiseIrq (fun pin hpin => hallows.raisesPin pin ⟨hnum, hpin⟩) hraise)
        (ioApicClosed_keepsPic.raiseIrq hraise).pic
    · exact h
  refine hforward.of_pics (hforward.pics.raiseIrqLine (fun hnum => ?_) hline)
    (picClosed_keepsApics.raiseLine hline)
  exact hallows.raisesLine _ _ ⟨hnum, rfl, rfl⟩

lemma picLowerIrq (h : Spares c v s) (irqNumber : BitVec 8) :
    Spares c v (picLowerIrq irqNumber s) := by
  obtain ⟨u, hu, hline⟩ := exists_picLowerIrq irqNumber s
  have hforward : Spares c v u := by
    rcases hu with ⟨-, rfl⟩ | ⟨-, rfl⟩
    · exact h.of_apics (h.apics.ioApicLowerIrq irqNumber)
        (ioApicClosed_keepsPic.lowerIrq irqNumber).pic
    · exact h
  rw [hline]
  exact hforward.of_pics (hforward.pics.lowerIrqLine irqNumber)
    (picClosed_keepsApics.lowerLine irqNumber)

lemma picPortIoWriteHandler (h : Spares c v s) {address : BitVec 64} {value : BitVec 32}
    (hallows : c.Allows v s (.picPortIoWrite address value))
    (hrun : picPortIoWriteHandler address value s = .ok t) : Spares c v t := by
  refine h.of_pics ?_ (picClosed_keepsApics.portIoWrite hrun)
  have hstore : ∀ {i w}, picWritten address value s = some (i, w) →
      PicsSpare c v (s.setPic i w.1) := by
    intro i w hw
    refine h.pics.setPic ((h.pics.pic i).write (picWrite_of_picWritten hw) fun n hn => ?_)
    rcases currentOffset_picWritten hw with heq | hprograms
    · exact heq ▸ (h.pics.pic i).offset n hn
    · exact hallows.programsOffset i _ hprograms n hn
  rcases picPortIoWriteHandler_cases hrun with
    ⟨-, rfl⟩ | ⟨i, w, hw, ⟨-, rfl⟩ | ⟨-, rfl⟩ | ⟨-, hservice⟩⟩
  · exact h.pics
  · exact hstore hw
  · exact (hstore hw).congr rfl rfl
  · exact (hstore hw).service hservice

/-- One step, for each input. -/
lemma step (h : Spares c v s) (hzero : v ≠ 0) {op : Op} (hallows : c.Allows v s op)
    (hstep : Svmm.step s op = .ok t) : Spares c v t := by
  cases op with
  | picRaiseIrq irqNumber => exact h.picRaiseIrq hallows hstep
  | picLowerIrq irqNumber => exact Except.ok.inj hstep ▸ h.picLowerIrq irqNumber
  | picPortIoWrite address value => exact h.picPortIoWriteHandler hallows hstep
  | ioApicRaiseIrq irqNumber =>
      exact h.of_apics (h.apics.ioApicRaiseIrq hallows.raisesPin hstep)
        (ioApicClosed_keepsPic.raiseIrq hstep).pic
  | ioApicLowerIrq irqNumber =>
      exact Except.ok.inj hstep ▸ h.of_apics (h.apics.ioApicLowerIrq irqNumber)
        (ioApicClosed_keepsPic.lowerIrq irqNumber).pic
  | ioApicMMIOWrite address value =>
      exact h.of_apics (h.apics.ioApicMMIOWriteHandler hallows hstep)
        (ioApicClosed_keepsPic.mmioWrite hstep).pic
  | apicSetIrq vector level =>
      exact Except.ok.inj hstep ▸ h.of_apics (h.apics.setIrq hallows.sends level)
        (pic_apicSetIrq vector level s)
  | apicWriteTaskPriority value =>
      refine Except.ok.inj hstep ▸ h.of_apics (h.apics.writeTaskPriority value) ?_
      rcases apicWriteTaskPriority_cases s value with ⟨-, heq⟩ | ⟨-, -, heq⟩ | ⟨-, -, heq⟩
      · rw [heq]
      · rw [heq]
        rfl
      · rw [heq, pic_apicService]
        rfl
  | apicWriteSpuriousInterrupt value =>
      refine Except.ok.inj hstep ▸ h.of_apics ⟨h.apics.injected, h.apics.requesting, ?_,
        h.apics.asserted, h.apics.entry⟩ rfl
      exact hallows.setsSpurious
  | apicReceiveEOI =>
      refine Except.ok.inj hstep ▸ h.of_apics h.apics.receiveEOI ?_
      by_cases hvector : s.eoiVector = s.lapic.spuriousVector
      · rw [apicReceiveEOI_of_spurious s hvector]
      · obtain ⟨u, hu, -, -, -, hpic, -⟩ := exists_apicReceiveEOI s hvector
        rw [hu, pic_apicService, hpic]
  | apicAcknowledgeInterrupt =>
      obtain ⟨w, hack⟩ := exists_of_step_acknowledge hstep
      refine h.of_apics (h.apics.acknowledge hzero hack).2 ?_
      rcases (apicAcknowledgeInterrupt_cases _ hack).2 with ⟨-, -, rfl⟩ | ⟨-, -, rfl⟩
      · rfl
      · exact pic_apicService _
  | irqWindowOpen => exact h.irqWindowOpen hzero hstep

end Spares

/-- Line `n` of a PIC was raised, by a device or, in the case of the master's line 2, by a PIC with
a raised line. -/
def LineRaised (s : State) (ops : List Op) (i : Fin 2) (n : ℕ) : Prop :=
  Occurs step (RaisesLine i n) s ops ∨
    i = 0 ∧ n = 2 ∧ ∃ j m, Occurs step (RaisesLine j m) s ops

/-- The ways a run from `s` comes to a vector. -/
inductive Caused (s : State) (ops : List Op) (v : BitVec 8) : Prop where
  /-- The number of a PIC that never latched a line. -/
  | unlatched (hzero : v = 0)
  | spurious (hset : v = s.lapic.spuriousVector ∨ Occurs step (SetsSpurious v) s ops)
  | sent (hsends : Occurs step (Sends v) s ops)
  | pin (pin : Fin 24) (hraised : Occurs step (RaisesPin pin) s ops)
      (hprogrammed : Occurs step (ProgramsEntry pin v) s ops)
  | line (i : Fin 2) (n : ℕ) (offset : BitVec 8) (hraised : LineRaised s ops i n)
      (hoffset : offset = (s.pic i).currentOffset ∨ Occurs step (ProgramsOffset i offset) s ops)
      (hvector : BitVec.ofNat 8 n + offset = v)

/-- No vector reaches the guest without a cause: it is 0 or the spurious vector, a device sent it,
or a device raised a line, and the guest set the redirection entry of its pin to the vector, or an
offset of its PIC, one that the guest set or that of power-on, makes the line this vector. -/
theorem injected_caused {gvm : List Ioctl → Ioctl → Bool} {ops : List Op} {t : State}
    {v : BitVec 8} (hrun : run step (State.initial gvm) ops = .ok t) (hv : v ∈ t.injected) :
    Caused (State.initial gvm) ops v := by
  by_contra hnot
  let c : Causes :=
    { pins := {pin | Occurs step (RaisesPin pin) (State.initial gvm) ops}
      lines := fun i => {n | LineRaised (State.initial gvm) ops i n}
      cascade := by
        rintro i n (hraised | ⟨-, -, hraised⟩)
        · exact .inr ⟨rfl, rfl, i, n, hraised⟩
        · exact .inr ⟨rfl, rfl, hraised⟩ }
  have hzero : v ≠ 0 := fun hzero => hnot (.unlatched hzero)
  have hallows : Meets step (c.Allows v) (State.initial gvm) ops := by
    refine Meets.of_occurs fun s op hocc => ⟨fun pin hraises => ?_, fun i n hraises => ?_,
      fun pin hpin hprograms => ?_, fun i offset hprograms n hn heq => ?_, fun hsets => ?_,
      fun hsends => ?_⟩
    · exact hocc (RaisesPin pin) hraises
    · exact .inl (hocc (RaisesLine i n) hraises)
    · exact hnot (.pin pin hpin (hocc (ProgramsEntry pin v) hprograms))
    · exact hnot (.line i n offset hn (.inr (hocc (ProgramsOffset i offset) hprograms)) heq)
    · exact hnot (.spurious (.inr (hocc (SetsSpurious v) hsets)))
    · exact hnot (.sent (hocc (Sends v) hsends))
  have hinitial : Spares c v (State.initial gvm) :=
    .initial gvm hzero (fun heq => hnot (.spurious (.inl heq)))
      fun i n hn heq => hnot (.line i n _ hn (.inl rfl) heq)
  exact (run_invariant (fun _ _ _ hs hop ht => hs.step hzero hop ht) hinitial hallows
    hrun).pics.injected hv

/-- Pin 5 is given vector 0x31, its line is raised, and the guest opens the window. -/
theorem injected_caused_pin :
    ∃ t, run step (State.initial fun _ _ => true) [.ioApicMMIOWrite 0x00 0x1a,
        .ioApicMMIOWrite 0x10 0x31, .ioApicRaiseIrq 5, .irqWindowOpen] = .ok t ∧
      0x31 ∈ t.injected ∧
      Caused (State.initial fun _ _ => true) [.ioApicMMIOWrite 0x00 0x1a,
        .ioApicMMIOWrite 0x10 0x31, .ioApicRaiseIrq 5, .irqWindowOpen] 0x31 := by
  obtain ⟨t, hrun, hinjected⟩ := exists_of_ends (fun t : State => 0x31 ∈ t.injected)
    (r := run step (State.initial fun _ _ => true) [.ioApicMMIOWrite 0x00 0x1a,
      .ioApicMMIOWrite 0x10 0x31, .ioApicRaiseIrq 5, .irqWindowOpen]) (by decide)
  exact ⟨t, hrun, hinjected, injected_caused hrun hinjected⟩

end Svmm
