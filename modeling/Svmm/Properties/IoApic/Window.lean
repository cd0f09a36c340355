import Svmm.Construction.IoApicWindow
import Svmm.Properties.Frames

/-!
# The register window of the I/O APIC

A guest writes the number of a register to the select register and then reads or writes the
data register.  A redirection entry keeps what the guest wrote, apart from the two status bits
that belong to the device.  The select register cannot be read back: the read handler compares
the whole guest address with 0, so every read in the page is one of the data register.  And a
write of the low half of an entry stores the status bits with the rest.
-/

namespace Svmm

open TransitionRun

/-! ## Halves of redirection entries -/

/-- One half of an entry. -/
def IoRedirectEntry.half (e : IoRedirectEntry) (upper : Bool) : BitVec 32 :=
  if upper then e.high else e.low

/-- The bits of a half that the guest owns: all but the delivery status and the remote IRR. -/
def ioApicWritable (upper : Bool) : BitVec 32 :=
  if upper then BitVec.allOnes 32
  else ~~~(Word.bit ioApicDeliveryStatus ||| Word.bit ioApicIrr)

/-- The entries agree in the bits the guest owns. -/
structure IoRedirectEntry.SameWritable (e e' : IoRedirectEntry) : Prop where
  high : e'.high = e.high
  low : ∀ i, i ≠ ioApicDeliveryStatus → i ≠ ioApicIrr → Word.has e'.low i = Word.has e.low i

namespace IoRedirectEntry

variable {e e' e'' : IoRedirectEntry}

lemma SameWritable.refl (e : IoRedirectEntry) : e.SameWritable e := ⟨rfl, fun _ _ _ => rfl⟩

lemma SameWritable.trans (h : e.SameWritable e') (h' : e'.SameWritable e'') :
    e.SameWritable e'' :=
  ⟨h'.high.trans h.high, fun i hi hi' => (h'.low i hi hi').trans (h.low i hi hi')⟩

lemma has_ioApicWritable (i : ℕ) :
    Word.has (ioApicWritable false) i =
      (decide (i < 32) && !decide (ioApicDeliveryStatus = i) && !decide (ioApicIrr = i)) := by
  rw [ioApicWritable, if_neg Bool.false_ne_true, Word.has_not]
  have hor : Word.has (Word.bit ioApicDeliveryStatus ||| Word.bit ioApicIrr : BitVec 32) i =
      (Word.has (Word.bit ioApicDeliveryStatus : BitVec 32) i || decide (ioApicIrr = i) &&
        decide (i < 32)) := Word.has_set _ _ _
  rw [hor, Word.has_bit]
  cases decide (i < 32) <;> simp

lemma SameWritable.half (h : e.SameWritable e') (upper : Bool) :
    e'.half upper &&& ioApicWritable upper = e.half upper &&& ioApicWritable upper := by
  cases upper with
  | true => rw [IoRedirectEntry.half, IoRedirectEntry.half, if_pos rfl, if_pos rfl, h.high]
  | false =>
      refine Word.ext_has fun i _ => ?_
      rw [Word.has_and, Word.has_and, has_ioApicWritable]
      by_cases hown : i = ioApicDeliveryStatus ∨ i = ioApicIrr
      · rcases hown with rfl | rfl <;> simp
      · rw [not_or] at hown
        have hlow : Word.has (e'.half false) i = Word.has (e.half false) i :=
          h.low i hown.1 hown.2
        rw [hlow]

lemma SameWritable.receiveEndOfInterrupt (e : IoRedirectEntry) (v : BitVec 8) :
    e.SameWritable (e.receiveEndOfInterrupt v) := by
  unfold IoRedirectEntry.receiveEndOfInterrupt
  split_ifs
  · refine ⟨rfl, fun i _ hi => ?_⟩
    simp [Ne.symm hi]
  · exact SameWritable.refl e

end IoRedirectEntry

/-! ## What the device does to an entry -/

/-- No entry changes in a bit the guest owns. -/
def KeepsWritable (s t : State) : Prop := ∀ pin, (s.entry pin).SameWritable (t.entry pin)

section Keeps

variable {s t u : State}

lemma KeepsWritable.of_entries (h : t.ioApic.ioRedirectTable = s.ioApic.ioRedirectTable) :
    KeepsWritable s t := by
  intro pin
  rw [State.entry, State.entry, h]
  exact IoRedirectEntry.SameWritable.refl _

lemma KeepsWritable.trans (h : KeepsWritable s t) (h' : KeepsWritable t u) :
    KeepsWritable s u := fun pin => (h pin).trans (h' pin)

lemma sameWritable_afterBus (a : IoApic) (pin : Fin 24) (status : ℕ) :
    (a.ioRedirectTable pin).SameWritable ((a.afterBus pin status).ioRedirectTable pin) := by
  unfold IoApic.afterBus
  dsimp only
  split_ifs
  all_goals
    rw [ioRedirectTable_setEntry_self]
    refine ⟨rfl, fun i hi hi' => ?_⟩
    simp [Ne.symm hi, Ne.symm hi']

lemma IoApicSent.keepsWritable {pin : Fin 24} (h : IoApicSent pin s t) : KeepsWritable s t := by
  intro other
  by_cases hne : other = pin
  · subst hne
    rcases h.ioApic_eq with heq | ⟨status, heq⟩
    · rw [State.entry, State.entry, heq]
      exact IoRedirectEntry.SameWritable.refl _
    · rw [State.entry, State.entry, heq]
      exact sameWritable_afterBus s.ioApic other status
  · rw [h.entry_of_ne hne]
    exact IoRedirectEntry.SameWritable.refl _

lemma keepsWritable_service (h : ioApicService s = .ok t) : KeepsWritable s t := by
  rw [ioApicService, ioApicServicePins_eq_run] at h
  refine run_invariant (I := KeepsWritable s) (P := fun _ _ => True) (fun u pin v hu _ hv => ?_)
    (KeepsWritable.of_entries rfl) (Meets.always s _) h
  rcases ioApicServicePin_cases hv with ⟨-, rfl⟩ | ⟨-, hsent⟩
  · exact hu
  · exact hu.trans hsent.keepsWritable

lemma keepsWritable_raiseIrq {irqNumber : BitVec 8} (h : ioApicRaiseIrq irqNumber s = .ok t) :
    KeepsWritable s t := by
  rcases ioApicRaiseIrq_cases h with ⟨-, rfl⟩ | ⟨pin, -, -, -, rfl⟩ | ⟨pin, -, -, hservice⟩
  · exact KeepsWritable.of_entries rfl
  · exact KeepsWritable.of_entries rfl
  · exact KeepsWritable.trans (KeepsWritable.of_entries (t := s.assertLine pin) rfl)
      (keepsWritable_service hservice)

lemma keepsWritable_lowerIrq (irqNumber : BitVec 8) :
    KeepsWritable s (ioApicLowerIrq irqNumber s) := by
  rcases ioApicLowerIrq_cases irqNumber s with heq | ⟨pin, -, -, heq⟩
  · rw [heq]
    exact KeepsWritable.of_entries rfl
  · rw [heq]
    exact KeepsWritable.of_entries rfl

lemma keepsWritable_receiveEOI : KeepsWritable s (apicReceiveEOI s) := by
  by_cases h : s.eoiVector = s.lapic.spuriousVector
  · rw [apicReceiveEOI_of_spurious s h]
    exact KeepsWritable.of_entries rfl
  · intro pin
    rw [State.entry, State.entry, ioApic_apicReceiveEOI s h]
    split_ifs
    · exact IoRedirectEntry.SameWritable.receiveEndOfInterrupt _ _
    · exact IoRedirectEntry.SameWritable.refl _

lemma keepsWritable_acknowledge {v : BitVec 8} (h : apicAcknowledgeInterrupt s = .ok (v, t)) :
    KeepsWritable s t := by
  rcases (apicAcknowledgeInterrupt_cases s h).2 with ⟨-, -, rfl⟩ | ⟨-, -, rfl⟩
  · exact KeepsWritable.of_entries rfl
  · exact KeepsWritable.of_entries (by rw [ioApic_apicService]; rfl)

end Keeps

/-! ## Runs that do not write the half -/

/-- A data write to one half of the entry of a pin. -/
def State.writesHalf (s : State) (address : BitVec 32) (pin : Fin 24) (upper : Bool) : Prop :=
  s.writesEntry address pin ∧ Word.has s.ioApic.ioRegisterSelect 0 = upper

/-- The input is no data write to the half. -/
def LeavesHalf (pin : Fin 24) (upper : Bool) (s : State) (op : Op) : Prop :=
  ∀ address value, op = .ioApicMMIOWrite address value → ¬ s.writesHalf address pin upper

/-- What the guest owns of one half. -/
def State.ownedHalf (s : State) (pin : Fin 24) (upper : Bool) : BitVec 32 :=
  (s.entry pin).half upper &&& ioApicWritable upper

section Runs

variable {s t : State} {pin : Fin 24} {upper : Bool}

lemma KeepsWritable.ownedHalf (h : KeepsWritable s t) (pin : Fin 24) (upper : Bool) :
    t.ownedHalf pin upper = s.ownedHalf pin upper := (h pin).half upper

lemma half_writeEntry_of_other (a : IoApic) {other : Fin 24} (value : BitVec 32)
    (h : ¬ (other = pin ∧ Word.has a.ioRegisterSelect 0 = upper)) :
    ((a.writeEntry other value).ioRedirectTable pin).half upper =
      (a.ioRedirectTable pin).half upper := by
  by_cases hpin : pin = other
  · subst hpin
    have hother : Word.has a.ioRegisterSelect 0 ≠ upper := fun heq => h ⟨rfl, heq⟩
    rw [ioRedirectTable_writeEntry_self]
    cases hsel : Word.has a.ioRegisterSelect 0 <;> cases upper <;>
      simp_all [IoRedirectEntry.half]
  · rw [ioRedirectTable_writeEntry_of_ne a value hpin]

lemma ownedHalf_step {op : Op} (hop : LeavesHalf pin upper s op) (hstep : step s op = .ok t) :
    t.ownedHalf pin upper = s.ownedHalf pin upper := by
  cases op with
  | picRaiseIrq irqNumber =>
      obtain ⟨u, hforward, hline⟩ := exists_of_picRaiseIrq hstep
      have hpics := (picClosed_keepsApics.raiseLine hline).ioApic
      refine KeepsWritable.ownedHalf (KeepsWritable.trans (t := u) ?_
        (KeepsWritable.of_entries (by rw [hpics]))) pin upper
      rcases hforward with ⟨-, hraise⟩ | ⟨-, rfl⟩
      · exact keepsWritable_raiseIrq hraise
      · exact KeepsWritable.of_entries rfl
  | picLowerIrq irqNumber =>
      obtain rfl := Except.ok.inj hstep
      obtain ⟨u, hforward, hline⟩ := exists_picLowerIrq irqNumber s
      have hpics := (picClosed_keepsApics.lowerLine irqNumber (s := u)).ioApic
      rw [hline]
      refine KeepsWritable.ownedHalf (KeepsWritable.trans (t := u) ?_
        (KeepsWritable.of_entries (by rw [hpics]))) pin upper
      rcases hforward with ⟨-, rfl⟩ | ⟨-, rfl⟩
      · exact keepsWritable_lowerIrq irqNumber
      · exact KeepsWritable.of_entries rfl
  | picPortIoWrite address value =>
      have hpics := (picClosed_keepsApics.portIoWrite hstep).ioApic
      exact (KeepsWritable.of_entries (by rw [hpics])).ownedHalf pin upper
  | ioApicRaiseIrq irqNumber => exact (keepsWritable_raiseIrq hstep).ownedHalf pin upper
  | ioApicLowerIrq irqNumber =>
      obtain rfl := Except.ok.inj hstep
      exact (keepsWritable_lowerIrq irqNumber).ownedHalf pin upper
  | ioApicMMIOWrite address value =>
      rcases ioApicMMIOWriteHandler_cases hstep with ⟨a, rfl, htable, -⟩ | ⟨other, hw, hservice⟩
      · exact (KeepsWritable.of_entries (t := s.setIoApic a) htable).ownedHalf pin upper
      · rw [(keepsWritable_service hservice).ownedHalf pin upper, State.ownedHalf, State.ownedHalf]
        congr 1
        refine half_writeEntry_of_other s.ioApic value ?_
        rintro ⟨rfl, hupper⟩
        exact hop address value rfl ⟨hw, hupper⟩
  | apicSetIrq vector level =>
      obtain rfl := Except.ok.inj hstep
      exact (KeepsWritable.of_entries (by rw [ioApic_apicSetIrq])).ownedHalf pin upper
  | apicWriteTaskPriority value =>
      obtain rfl := Except.ok.inj hstep
      refine (KeepsWritable.of_entries ?_).ownedHalf pin upper
      rcases apicWriteTaskPriority_cases s value with ⟨-, he⟩ | ⟨-, -, he⟩ | ⟨-, -, he⟩
      · rw [he]
      · rw [he]
        rfl
      · rw [he, ioApic_apicService]
        rfl
  | apicWriteSpuriousInterrupt value =>
      obtain rfl := Except.ok.inj hstep
      exact (KeepsWritable.of_entries rfl).ownedHalf pin upper
  | apicReceiveEOI =>
      obtain rfl := Except.ok.inj hstep
      exact keepsWritable_receiveEOI.ownedHalf pin upper
  | apicAcknowledgeInterrupt =>
      obtain ⟨v, hack⟩ := exists_of_step_acknowledge hstep
      exact (keepsWritable_acknowledge hack).ownedHalf pin upper
  | irqWindowOpen =>
      rcases irqWindowOpen_cases hstep with
        ⟨-, v, u, hiac, rfl⟩ | ⟨-, -, v, u, hack, rfl⟩ | ⟨-, -, rfl⟩
      · have hpics := (picClosed_keepsApics.iac hiac).ioApic
        exact (KeepsWritable.of_entries (t := svmmInterrupt v u)
          (by rw [← State.ioApic_setWindow s 0, ← hpics]; rfl)).ownedHalf pin upper
      · exact (keepsWritable_acknowledge hack).ownedHalf pin upper
      · exact (KeepsWritable.of_entries (t := s.setWindow 0) rfl).ownedHalf pin upper

/-- The guest's part of a half stays as it is until the next data write to it. -/
lemma ownedHalf_run {ops : List Op} (hops : Meets step (LeavesHalf pin upper) s ops)
    (hrun : run step s ops = .ok t) : t.ownedHalf pin upper = s.ownedHalf pin upper :=
  run_invariant (I := fun u => u.ownedHalf pin upper = s.ownedHalf pin upper)
    (fun _ _ _ hu hop hstep => (ownedHalf_step hop hstep).trans hu) rfl hops hrun

end Runs

/-! ## The window -/

/-- The register number that a write of `x` selects is the one of a half of an entry. -/
def EntryIndex (x : BitVec 32) (pin : Fin 24) (upper : Bool) : Prop :=
  (x &&& 0xff).toNat = 0x10 + 2 * pin + upper.toNat

instance (x : BitVec 32) (pin : Fin 24) (upper : Bool) : Decidable (EntryIndex x pin upper) :=
  inferInstanceAs (Decidable (_ = _))

/-- A write to an entry changes the delivery status not at all, and the remote IRR only by
clearing it for a pin it makes edge-triggered. -/
def ReadOnlyKept (e e' : IoRedirectEntry) : Prop :=
  Word.has e'.low ioApicDeliveryStatus = Word.has e.low ioApicDeliveryStatus ∧
    (e'.remoteIrr = e.remoteIrr ∨ e'.levelSensitive = false ∧ e'.remoteIrr = false)

/-- The window does for the number `x` and the value `v` what a guest relies on.  The store of a
data write is judged before `IoApicService` runs on it, because what the bus then does is not
the guest's. -/
structure RegisterWindow (s : State) (x v : BitVec 32) : Prop where
  select : ∀ t, ioApicWindowWrite ioApicDefaultMmio x 4 s = .ok t →
    ioApicWindowRead ioApicDefaultMmio 4 t = some (x &&& 0xff)
  data : ∀ pin upper, EntryIndex x pin upper → ∀ t u w y ops,
    ioApicWindowWrite ioApicDefaultMmio x 4 s = .ok t →
    ioApicWindowWrite (ioApicDefaultMmio + ioApicSetData) v 4 t = .ok u →
    Meets step (LeavesHalf pin upper) u ops → run step u ops = .ok w →
    ioApicWindowWrite ioApicDefaultMmio x 4 w = .ok y →
    ∃ r, ioApicWindowRead (ioApicDefaultMmio + ioApicSetData) 4 y = some r ∧
      r &&& ioApicWritable upper = v &&& ioApicWritable upper
  readOnly : ∀ pin upper, EntryIndex x pin upper →
    ∀ t, ioApicWindowWrite ioApicDefaultMmio x 4 s = .ok t →
      ReadOnlyKept (s.entry pin) ((t.ioApic.writeEntry pin v).ioRedirectTable pin)

/-- The register that a write of `x` selects holds its own number. -/
def HoldsOwnIndex (s : State) (x : BitVec 32) : Prop :=
  (x &&& 0xff = 0 ∧ s.ioApic.ioApicId &&& 0xf = 0) ∨
    ∃ pin upper, EntryIndex x pin upper ∧ (s.entry pin).half upper = x &&& 0xff

/-- A low half is offered the status bits it has; a value for an edge-triggered pin may offer
any remote IRR. -/
def OffersStatus (s : State) (x v : BitVec 32) : Prop :=
  ∀ pin, EntryIndex x pin false →
    Word.has v ioApicDeliveryStatus = Word.has (s.entry pin).low ioApicDeliveryStatus ∧
      (Word.has v ioApicLevelSensitive = true →
        Word.has v ioApicIrr = Word.has (s.entry pin).low ioApicIrr)

/-- The state after a write of `x` to the select register. -/
def State.selected (s : State) (x : BitVec 32) : State :=
  s.setIoApic { s.ioApic with ioRegisterSelect := x &&& 0xff }

section Window

variable {s : State} {x v : BitVec 32} {pin : Fin 24} {upper : Bool}

lemma ioApicWindowWrite_select (x : BitVec 32) (s : State) :
    ioApicWindowWrite ioApicDefaultMmio x 4 s = .ok (s.selected x) := rfl

lemma ioApicWindowWrite_data (v : BitVec 32) (s : State) :
    ioApicWindowWrite (ioApicDefaultMmio + ioApicSetData) v 4 s =
      ioApicMMIOWriteHandler ioApicSetData v s := rfl

/-- A read at the select register's address is one of the data register. -/
lemma ioApicWindowRead_select (s : State) :
    ioApicWindowRead ioApicDefaultMmio 4 s = some s.ioApic.dataRegister := rfl

lemma ioApicWindowRead_data (s : State) :
    ioApicWindowRead (ioApicDefaultMmio + ioApicSetData) 4 s = some s.ioApic.dataRegister := rfl

lemma selected_lt (x : BitVec 32) : (x &&& 0xff).toNat < 256 := by
  rw [BitVec.toNat_and]
  exact lt_of_le_of_lt Nat.and_le_right (by decide)

lemma ioApicEntryIndex_of_ge {n : BitVec 32} (hlt : n.toNat < 256) (hge : 16 ≤ n.toNat) :
    ioApicEntryIndex n = (n.toNat - 16) / 2 := by
  have hsub : (0x10 : BitVec 32).toNat = 16 := rfl
  simp only [ioApicEntryIndex, BitVec.toNat_setWidth, BitVec.toNat_sub, hsub]
  omega

lemma ioApicEntryIndex_of_lt {n : BitVec 32} (hlt : n.toNat < 16) :
    24 ≤ ioApicEntryIndex n := by
  have hsub : (0x10 : BitVec 32).toNat = 16 := rfl
  simp only [ioApicEntryIndex, BitVec.toNat_setWidth, BitVec.toNat_sub, hsub]
  omega

lemma has_zero_eq (n : BitVec 32) : Word.has n 0 = decide (n.toNat % 2 = 1) := by
  rw [Word.has_eq_getLsbD, BitVec.getLsbD, Nat.testBit_zero]

lemma EntryIndex.index (h : EntryIndex x pin upper) : ioApicEntryIndex (x &&& 0xff) = pin := by
  have hup : upper.toNat ≤ 1 := Bool.toNat_le upper
  rw [EntryIndex] at h
  rw [ioApicEntryIndex_of_ge (selected_lt x) (by omega)]
  omega

lemma EntryIndex.has_zero (h : EntryIndex x pin upper) : Word.has (x &&& 0xff) 0 = upper := by
  rw [EntryIndex] at h
  rw [has_zero_eq, h]
  cases upper with
  | false => exact decide_eq_false (by simp only [Bool.toNat_false]; omega)
  | true => exact decide_eq_true (by simp only [Bool.toNat_true]; omega)

lemma EntryIndex.ne (h : EntryIndex x pin upper) :
    x &&& 0xff ≠ 0 ∧ x &&& 0xff ≠ 1 ∧ x &&& 0xff ≠ 2 := by
  rw [EntryIndex] at h
  refine ⟨fun heq => ?_, fun heq => ?_, fun heq => ?_⟩
  · have hn : (x &&& 0xff).toNat = 0 := congrArg BitVec.toNat heq
    omega
  · have hn : (x &&& 0xff).toNat = 1 := congrArg BitVec.toNat heq
    omega
  · have hn : (x &&& 0xff).toNat = 2 := congrArg BitVec.toNat heq
    omega

lemma dataRegister_of_entry {a : IoApic} (h0 : a.ioRegisterSelect ≠ 0)
    (h1 : a.ioRegisterSelect ≠ 1) (h2 : a.ioRegisterSelect ≠ 2)
    (hindex : ioApicEntryIndex a.ioRegisterSelect = pin)
    (hupper : Word.has a.ioRegisterSelect 0 = upper) :
    a.dataRegister = (a.ioRedirectTable pin).half upper := by
  have hlt : ioApicEntryIndex a.ioRegisterSelect < 24 := hindex ▸ pin.isLt
  have hpin : (⟨ioApicEntryIndex a.ioRegisterSelect, hlt⟩ : Fin 24) = pin := Fin.ext hindex
  unfold IoApic.dataRegister
  rw [if_neg h0, if_neg h1, if_neg h2, dif_pos hlt]
  simp only [hpin, hupper]
  rfl

/-- A selected half of an entry is what the data register reads. -/
lemma EntryIndex.dataRegister (h : EntryIndex x pin upper) (s : State) :
    (s.selected x).ioApic.dataRegister = (s.entry pin).half upper :=
  dataRegister_of_entry h.ne.1 h.ne.2.1 h.ne.2.2 h.index h.has_zero

/-- The numbers of halves of entries are 0x10 to 0x3f. -/
lemma exists_entryIndex (hge : 16 ≤ (x &&& 0xff).toNat) (hlt : (x &&& 0xff).toNat < 64) :
    ∃ pin upper, EntryIndex x pin upper := by
  refine ⟨⟨((x &&& 0xff).toNat - 16) / 2, by omega⟩, decide ((x &&& 0xff).toNat % 2 = 1), ?_⟩
  rw [EntryIndex]
  by_cases hodd : (x &&& 0xff).toNat % 2 = 1
  · rw [decide_eq_true hodd]
    simp only [Bool.toNat_true]
    omega
  · rw [decide_eq_false hodd]
    simp only [Bool.toNat_false]
    omega

/-- The identifier is read as 0 exactly when it is 0. -/
lemma ioApicId_shift_eq_zero (n : BitVec 32) : (n &&& 0xf) <<< 24 = 0 ↔ n &&& 0xf = 0 := by
  have hlt : (n &&& 0xf).toNat < 16 := by
    rw [BitVec.toNat_and]
    exact lt_of_le_of_lt Nat.and_le_right (by decide)
  have hshift : ((n &&& 0xf) <<< 24).toNat = (n &&& 0xf).toNat * 2 ^ 24 := by
    rw [BitVec.toNat_shiftLeft, Nat.shiftLeft_eq]
    exact Nat.mod_eq_of_lt (by omega)
  constructor
  · intro h
    have hzero : ((n &&& 0xf) <<< 24).toNat = 0 := congrArg BitVec.toNat h
    exact BitVec.eq_of_toNat_eq (show (n &&& 0xf).toNat = 0 by omega)
  · intro h
    rw [h]
    rfl

/-- The data register reads its own number exactly when the register holds it. -/
lemma dataRegister_selected_iff (x : BitVec 32) (s : State) :
    (s.selected x).ioApic.dataRegister = x &&& 0xff ↔ HoldsOwnIndex s x := by
  by_cases hentry : ∃ pin upper, EntryIndex x pin upper
  · obtain ⟨pin, upper, h⟩ := hentry
    rw [h.dataRegister s]
    constructor
    · exact fun heq => Or.inr ⟨pin, upper, h, heq⟩
    · rintro (⟨hzero, -⟩ | ⟨pin', upper', h', heq⟩)
      · exact absurd hzero h.ne.1
      · obtain rfl : pin = pin' := Fin.ext (h.index.symm.trans h'.index)
        obtain rfl : upper = upper' := h.has_zero.symm.trans h'.has_zero
        exact heq
  · -- no half of an entry: the identifier, the version, or nothing
    have hno : HoldsOwnIndex s x ↔ x &&& 0xff = 0 ∧ s.ioApic.ioApicId &&& 0xf = 0 := by
      refine or_iff_left ?_
      rintro ⟨pin, upper, h, -⟩
      exact hentry ⟨pin, upper, h⟩
    rw [hno]
    show (s.selected x).ioApic.dataRegister = (s.selected x).ioApic.ioRegisterSelect ↔
      (s.selected x).ioApic.ioRegisterSelect = 0 ∧ (s.selected x).ioApic.ioApicId &&& 0xf = 0
    have hindex : 24 ≤ ioApicEntryIndex (s.selected x).ioApic.ioRegisterSelect := by
      show 24 ≤ ioApicEntryIndex (x &&& 0xff)
      by_cases hlow : (x &&& 0xff).toNat < 16
      · exact ioApicEntryIndex_of_lt hlow
      · have hhigh : 64 ≤ (x &&& 0xff).toNat := by
          by_contra hlt
          exact hentry (exists_entryIndex (by omega) (by omega))
        rw [ioApicEntryIndex_of_ge (selected_lt x) (by omega)]
        omega
    unfold IoApic.dataRegister
    split_ifs with h0 h1 h2 hpin
    · rw [h0, ioApicId_shift_eq_zero, and_iff_right rfl]
    · rw [h1]
      exact iff_of_false (by decide) (fun h => absurd h.1 (by decide))
    · rw [h2]
      exact iff_of_false (by decide) (fun h => absurd h.1 (by decide))
    · omega
    · omega
    · exact iff_of_false (fun h => h0 h.symm) (fun h => h0 h.1)

/-- A data write to a half of an entry leaves the guest's part of the value there. -/
lemma EntryIndex.ownedHalf_write (h : EntryIndex x pin upper) {u : State}
    (hwrite : ioApicMMIOWriteHandler ioApicSetData v (s.selected x) = .ok u) :
    u.ownedHalf pin upper = v &&& ioApicWritable upper := by
  have hwrites : (s.selected x).writesEntry ioApicSetData pin :=
    ⟨rfl, h.ne.1, h.ne.2.1, h.ne.2.2, h.index⟩
  rcases ioApicMMIOWriteHandler_cases hwrite with ⟨a, rfl, -, -, hnone⟩ | ⟨other, hw, hservice⟩
  · exact absurd hwrites (hnone pin)
  · obtain rfl : pin = other :=
      Fin.ext (hwrites.2.2.2.2.symm.trans hw.2.2.2.2)
    rw [(keepsWritable_service hservice).ownedHalf pin upper, State.ownedHalf, State.entry,
      State.ioApic_setIoApic, ioRedirectTable_writeEntry_self]
    have hsel : Word.has (s.selected x).ioApic.ioRegisterSelect 0 = upper := h.has_zero
    rw [hsel]
    cases upper with
    | true => rfl
    | false =>
        refine Word.ext_has fun i _ => ?_
        rw [Word.has_and, Word.has_and, IoRedirectEntry.has_ioApicWritable]
        show (Word.has (ioApicLowWritten v) i && _) = _
        by_cases hi : ioApicIrr = i
        · simp [hi]
        · unfold ioApicLowWritten
          split_ifs <;> simp [hi]

/-- The guest's part of an entry is read back after any run that does not write it. -/
lemma data_window (s : State) (x v : BitVec 32) (pin : Fin 24) (upper : Bool)
    (h : EntryIndex x pin upper) (t u w y : State) (ops : List Op)
    (ht : ioApicWindowWrite ioApicDefaultMmio x 4 s = .ok t)
    (hu : ioApicWindowWrite (ioApicDefaultMmio + ioApicSetData) v 4 t = .ok u)
    (hops : Meets step (LeavesHalf pin upper) u ops) (hw : run step u ops = .ok w)
    (hy : ioApicWindowWrite ioApicDefaultMmio x 4 w = .ok y) :
    ∃ r, ioApicWindowRead (ioApicDefaultMmio + ioApicSetData) 4 y = some r ∧
      r &&& ioApicWritable upper = v &&& ioApicWritable upper := by
  obtain rfl : s.selected x = t := Except.ok.inj ((ioApicWindowWrite_select x s).symm.trans ht)
  obtain rfl : w.selected x = y := Except.ok.inj ((ioApicWindowWrite_select x w).symm.trans hy)
  rw [ioApicWindowWrite_data] at hu
  refine ⟨_, ioApicWindowRead_data _, ?_⟩
  rw [h.dataRegister w]
  exact (ownedHalf_run hops hw).trans (h.ownedHalf_write hu)

/-- Storing a low half keeps the status bits exactly when it is offered them. -/
lemma readOnlyKept_writeEntry_iff (h : EntryIndex x pin upper) :
    ReadOnlyKept (s.entry pin) (((s.selected x).ioApic.writeEntry pin v).ioRedirectTable pin) ↔
      (upper = false →
        Word.has v ioApicDeliveryStatus = Word.has (s.entry pin).low ioApicDeliveryStatus ∧
          (Word.has v ioApicLevelSensitive = true →
            Word.has v ioApicIrr = Word.has (s.entry pin).low ioApicIrr)) := by
  have hsel : Word.has (s.selected x).ioApic.ioRegisterSelect 0 = upper := h.has_zero
  rw [ioRedirectTable_writeEntry_self, hsel]
  cases upper with
  | true => exact iff_of_true ⟨rfl, Or.inl rfl⟩ (fun h => by cases h)
  | false =>
      simp only [Bool.false_eq_true, if_false, forall_const, ReadOnlyKept,
        IoRedirectEntry.remoteIrr, IoRedirectEntry.levelSensitive, ioApicLowWritten]
      cases hlevel : Word.has v ioApicLevelSensitive with
      | true => simp [hlevel]
      | false =>
          have hedge : Word.has v 15 = false := hlevel
          simp [hedge, ioApicIrr, ioApicDeliveryStatus, ioApicLevelSensitive]

end Window

/-- **The register window works** for a number and a value exactly when the selected register
holds its own number, so that reading the one for the other goes unnoticed, and the value of a
low half offers the status bits that the entry has. -/
theorem ioApic_register_window_iff (s : State) (x v : BitVec 32) :
    RegisterWindow s x v ↔ HoldsOwnIndex s x ∧ OffersStatus s x v := by
  constructor
  · intro h
    constructor
    · have hread := h.select _ (ioApicWindowWrite_select x s)
      rw [ioApicWindowRead_select] at hread
      exact (dataRegister_selected_iff x s).mp (Option.some.inj hread)
    · intro pin hpin
      have hkept := h.readOnly pin false hpin _ (ioApicWindowWrite_select x s)
      exact (readOnlyKept_writeEntry_iff hpin).mp hkept rfl
  · rintro ⟨hown, hstatus⟩
    refine ⟨fun t ht => ?_, data_window s x v, fun pin upper hpin t ht => ?_⟩
    · obtain rfl := Except.ok.inj ((ioApicWindowWrite_select x s).symm.trans ht)
      rw [ioApicWindowRead_select, (dataRegister_selected_iff x s).mpr hown]
    · obtain rfl := Except.ok.inj ((ioApicWindowWrite_select x s).symm.trans ht)
      refine (readOnlyKept_writeEntry_iff hpin).mpr fun hupper => ?_
      subst hupper
      exact hstatus pin hpin

/-- At power-on the version register is selected, and the select register reads as the
version. -/
theorem ioApic_select_unreadable :
    ¬ RegisterWindow (State.initial fun _ _ => true) 1 0 := by
  intro h
  have hread := h.select _ rfl
  exact absurd hread (by decide)

end Svmm
