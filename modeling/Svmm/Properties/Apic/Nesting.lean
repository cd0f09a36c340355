import Svmm.Properties.Apic.Effects
import Svmm.Framework.NestedService
import Svmm.Construction.RunLoop

/-!
# The local APIC nests interrupts by class

The local APIC with its four kinds of input refines the priority-nested server of
`Framework/NestedService.lean`, ranked by priority class: `InterruptRequestRegister` is the
set of waiting requests, `InterruptServiceRegister` the set of those in service.

The acknowledge path of the code compares with `<` only, so what keeps it from nesting an
interrupt over one of its own class is an invariant of the whole component:
`EVENT_PENDING_LAPIC_INTR` is set only while the highest waiting class is strictly above the
highest class in service.  Raising the task priority afterwards does not break it.
-/

namespace Svmm

open TransitionRun NestedService

/-- An input to the local APIC.  `setWindow` is whatever the PIC and the run loop do to the
window flag they share with it. -/
inductive LapicOp where
  | apicSetIrq (vector : BitVec 8) (levelSensitive : BitVec 32)
  | apicWriteTaskPriority (value : BitVec 32)
  | apicWriteSpuriousInterrupt (value : BitVec 32)
  | apicReceiveEOI
  | apicAcknowledgeInterrupt
  | setWindow (value : BitVec 8)
  deriving DecidableEq

/-- The effect of one input. -/
def lapicStep (s : State) : LapicOp → Outcome State
  | .apicSetIrq vector levelSensitive => .ok (apicSetIrq vector levelSensitive s)
  | .apicWriteTaskPriority value => .ok (apicWriteTaskPriority value s)
  | .apicWriteSpuriousInterrupt value => .ok (apicWriteSpuriousInterrupt value s)
  | .apicReceiveEOI => .ok (apicReceiveEOI s)
  | .apicAcknowledgeInterrupt => (apicAcknowledgeInterrupt s).map Prod.snd
  | .setWindow value => .ok (s.setWindow value)

/-- All 256 vectors. -/
def allVectors : List (BitVec 8) := (List.finRange (2 ^ 8)).map BitVec.ofFin

/-- What an input did, read off the registers before and after it and the vector an
acknowledge returned: a vector accepted into the request register, a vector acknowledged
other than the spurious one, the vectors that left the service register at an EOI. -/
def lapicEvents (s : State) : LapicOp → State → List (Event (BitVec 8))
  | .apicSetIrq vector _, t =>
      if s.requesting vector = false ∧ t.requesting vector = true then [.accept vector] else []
  | .apicAcknowledgeInterrupt, _ =>
      match apicAcknowledgeInterrupt s with
      | .ok (vector, _) => if vector = s.lapic.spuriousVector then [] else [.serve vector]
      | .error _ => []
  | .apicReceiveEOI, t =>
      (allVectors.filter fun v => s.serving v && !t.serving v).map .retire
  | _, _ => []

section Events

variable (s t : State) (vector : BitVec 8) (level : BitVec 32)

lemma lapicEvents_apicSetIrq :
    lapicEvents s (.apicSetIrq vector level) t =
      if s.requesting vector = false ∧ t.requesting vector = true then [.accept vector]
      else [] := rfl

lemma lapicEvents_apicReceiveEOI :
    lapicEvents s .apicReceiveEOI t =
      (allVectors.filter fun v => s.serving v && !t.serving v).map .retire := rfl

lemma lapicEvents_apicAcknowledgeInterrupt {v : BitVec 8} {u : State}
    (h : apicAcknowledgeInterrupt s = .ok (v, u)) :
    lapicEvents s .apicAcknowledgeInterrupt t =
      if v = s.lapic.spuriousVector then [] else [.serve v] := by
  show (match apicAcknowledgeInterrupt s with
    | .ok (vector, _) => if vector = s.lapic.spuriousVector then [] else [Event.serve vector]
    | .error _ => []) = _
  rw [h]

/-- A filter that keeps a single vector keeps it once. -/
lemma filter_allVectors {p : BitVec 8 → Bool} {v : BitVec 8} (hp : ∀ w, p w = (w == v)) :
    allVectors.filter p = [v] := by
  have hcount : ∀ w : BitVec 8, List.count w allVectors = 1 := by
    intro w
    have hinj : Function.Injective (BitVec.ofFin (w := 8)) := fun _ _ h => BitVec.ofFin.inj h
    refine List.count_eq_one_of_mem ((List.nodup_finRange _).map hinj) ?_
    exact List.mem_map.mpr ⟨w.toFin, List.mem_finRange _, rfl⟩
  have hpred : p = fun w => w == v := funext hp
  rw [hpred, List.filter_beq, hcount]
  rfl

end Events

/-- A step that also keeps the log of what was done, latest first. -/
def lapicLoggedStep (u : State × List (Event (BitVec 8))) (op : LapicOp) :
    Outcome (State × List (Event (BitVec 8))) := do
  let t ← lapicStep u.1 op
  .ok (t, lapicEvents u.1 op t ++ u.2)

/-- The inputs the discipline is about: vectors whose low nibble is not `0xF`, and
acknowledges only while the event is set. -/
def lapicAllowed (u : State × List (Event (BitVec 8))) : LapicOp → Prop
  | .apicSetIrq vector _ => vector.toNat % 16 ≠ 15
  | .apicAcknowledgeInterrupt => u.1.pendingLapicIntr = true
  | _ => True

instance (u : State × List (Event (BitVec 8))) : ∀ op, Decidable (lapicAllowed u op)
  | .apicSetIrq vector _ => inferInstanceAs (Decidable (vector.toNat % 16 ≠ 15))
  | .apicAcknowledgeInterrupt => inferInstanceAs (Decidable (u.1.pendingLapicIntr = true))
  | .apicWriteTaskPriority _ | .apicWriteSpuriousInterrupt _ | .apicReceiveEOI | .setWindow _ =>
      isTrue trivial

/-- The priority class as a rank. -/
def classRank (v : BitVec 8) : ℕ := vectorClass v

/-! ## The invariant -/

/-- The registers are those of a server the log leads to, and the local APIC has the facts
its acknowledge path relies on. -/
structure NestingInvariant (s : State) (log : List (Event (BitVec 8))) : Prop where
  refines : ∃ a, Run classRank log a ∧ (∀ v, v ∈ a.requested ↔ s.requesting v = true) ∧
    ∀ v, v ∈ a.serving ↔ s.serving v = true
  taskPriority_le : s.lapic.taskPriority.toNat ≤ 15
  spurious : s.lapic.spuriousVector.toNat % 16 = 15
  requesting_nibble : ∀ v, s.requesting v = true → v.toNat % 16 ≠ 15
  serving_nibble : ∀ v, s.serving v = true → v.toNat % 16 ≠ 15
  pending_above : s.pendingLapicIntr = true →
    apicHighestPriority s.lapic.interruptServiceRegister <
      apicHighestPriority s.lapic.interruptRequestRegister

/-- `ApicService` keeps the pending request above the service register. -/
lemma pending_above_apicService {s : State} (htpr : s.lapic.taskPriority.toNat ≤ 15)
    (h : s.pendingLapicIntr = true →
      apicHighestPriority s.lapic.interruptServiceRegister <
        apicHighestPriority s.lapic.interruptRequestRegister)
    (hp : (apicService s).pendingLapicIntr = true) :
    apicHighestPriority s.lapic.interruptServiceRegister <
      apicHighestPriority s.lapic.interruptRequestRegister := by
  rcases (pendingLapicIntr_apicService_iff s).mp hp with hold | ⟨hd, -⟩
  · exact h hold
  · unfold Lapic.deliverable at hd
    rw [apicGetProcessPriority_eq htpr] at hd
    omega

lemma nestingInvariant_initial {s : State} (hlapic : s.lapic = Lapic.initial)
    (hpending : s.pendingLapicIntr = false) : NestingInvariant s [] where
  refines := ⟨Server.empty, Run.nil, by
    simp [Server.empty, State.requesting, hlapic, Lapic.initial], by
    simp [Server.empty, State.serving, hlapic, Lapic.initial]⟩
  taskPriority_le := by simp [hlapic, Lapic.initial]
  spurious := by simp [hlapic, Lapic.initial]
  requesting_nibble := by simp [State.requesting, hlapic, Lapic.initial]
  serving_nibble := by simp [State.serving, hlapic, Lapic.initial]
  pending_above := by simp [hpending]

/-- A step that leaves both registers and the log alone keeps the refinement. -/
lemma NestingInvariant.of_same_registers {s t : State} {log : List (Event (BitVec 8))}
    (h : NestingInvariant s log)
    (hreq : t.lapic.interruptRequestRegister = s.lapic.interruptRequestRegister)
    (hserv : t.lapic.interruptServiceRegister = s.lapic.interruptServiceRegister)
    (htpr : t.lapic.taskPriority.toNat ≤ 15)
    (hspur : t.lapic.spuriousVector.toNat % 16 = 15)
    (habove : t.pendingLapicIntr = true →
      apicHighestPriority s.lapic.interruptServiceRegister <
        apicHighestPriority s.lapic.interruptRequestRegister) :
    NestingInvariant t log where
  refines := by
    obtain ⟨a, hrun, hr, hs⟩ := h.refines
    exact ⟨a, hrun, by simpa only [State.requesting, hreq] using hr, by
      simpa only [State.serving, hserv] using hs⟩
  taskPriority_le := htpr
  spurious := hspur
  requesting_nibble := by simpa only [State.requesting, hreq] using h.requesting_nibble
  serving_nibble := by simpa only [State.serving, hserv] using h.serving_nibble
  pending_above := by simpa only [hreq, hserv] using habove

/-- The vector an EOI looks at is never the spurious one. -/
lemma NestingInvariant.eoiVector_ne {s : State} {log : List (Event (BitVec 8))}
    (h : NestingInvariant s log) : s.eoiVector ≠ s.lapic.spuriousVector := by
  intro heq
  have hmod : s.eoiVector.toNat % 16 = 15 := by rw [heq]; exact h.spurious
  by_cases hmem : hasVector s.lapic.interruptServiceRegister s.eoiVector = true
  · exact h.serving_nibble _ hmem hmod
  · have hzero : s.eoiVector = 0 := highestVector_eq_zero (by simpa [State.eoiVector] using hmem)
    simp [hzero] at hmod

/-- The most recently acknowledged vector is the one an EOI looks at. -/
lemma NestingInvariant.eoiVector_top {s : State} {log : List (Event (BitVec 8))}
    (h : NestingInvariant s log) (hmem : s.serving s.eoiVector = true) :
    ∃ rest, outstanding log = s.eoiVector :: rest := by
  obtain ⟨a, hrun, -, hs⟩ := h.refines
  rw [← hrun.serving_eq]
  refine hrun.top_of_rank_le ((hs _).mpr hmem) fun b hb => ?_
  have hle := vectorClass_le_apicHighestPriority ((hs b).mp hb)
  have htop := vectorClass_highestVector s.lapic.interruptServiceRegister
  unfold classRank State.eoiVector
  omega

/-! ## One step -/

section Steps

variable {s : State} {log : List (Event (BitVec 8))}

lemma NestingInvariant.of_setIrq (h : NestingInvariant s log) {vector : BitVec 8}
    (hv : vector.toNat % 16 ≠ 15) (level : BitVec 32) :
    NestingInvariant (apicSetIrq vector level s)
      (lapicEvents s (.apicSetIrq vector level) (apicSetIrq vector level s) ++ log) := by
  have hirr := irr_apicSetIrq vector level s
  obtain ⟨htpr, hisr, hspur, -⟩ := lapic_apicSetIrq_frame vector level s
  by_cases hacc : s.lapic.accepts vector
  · have hev : lapicEvents s (.apicSetIrq vector level) (apicSetIrq vector level s) =
        [.accept vector] := by
      have hfalse : s.requesting vector = false := hacc.2
      have htrue : (apicSetIrq vector level s).requesting vector = true := by
        simp [State.requesting, hirr, hacc]
      rw [lapicEvents_apicSetIrq, if_pos ⟨hfalse, htrue⟩]
    rw [hev]
    obtain ⟨a, hrun, hr, hs⟩ := h.refines
    have hnew : vector ∉ a.requested := by
      rw [hr]
      simp [State.requesting, hacc.2]
    refine ⟨⟨_, hrun.cons (.accept hnew), fun v => ?_, fun v => ?_⟩, ?_, ?_, fun v hreq => ?_,
      ?_, fun hp => ?_⟩
    · simp only [Set.mem_insert_iff, hr, State.requesting, hirr, hacc, true_and, Bool.or_eq_true,
        decide_eq_true_eq]
      tauto
    · simpa only [State.serving, hisr] using hs v
    · rw [htpr]; exact h.taskPriority_le
    · rw [hspur]; exact h.spurious
    · simp only [State.requesting, hirr, Bool.or_eq_true, decide_eq_true_eq] at hreq
      rcases hreq with hold | ⟨-, rfl⟩
      · exact h.requesting_nibble v hold
      · exact hv
    · simpa only [State.serving, hisr] using h.serving_nibble
    · rw [apicSetIrq_of_accepts _ _ _ hacc] at hp ⊢
      rw [lapic_apicService]
      refine pending_above_apicService h.taskPriority_le (fun hold => ?_) hp
      have habove := h.pending_above hold
      show apicHighestPriority s.lapic.interruptServiceRegister <
        apicHighestPriority (setVector s.lapic.interruptRequestRegister vector)
      rw [apicHighestPriority_setVector]
      exact lt_max_of_lt_left habove
  · obtain ⟨e, he⟩ := apicSetIrq_of_refused vector level s hacc
    have hev : lapicEvents s (.apicSetIrq vector level) (apicSetIrq vector level s) = [] := by
      rw [lapicEvents_apicSetIrq, he, if_neg (by simp [State.requesting])]
    rw [hev, he]
    exact h.of_same_registers rfl rfl h.taskPriority_le h.spurious h.pending_above

lemma NestingInvariant.of_writeTaskPriority (h : NestingInvariant s log)
    (value : BitVec 32) : NestingInvariant (apicWriteTaskPriority value s) log := by
  rcases apicWriteTaskPriority_cases s value with ⟨-, he⟩ | ⟨hv, -, he⟩ | ⟨hv, -, he⟩
  · rw [he]; exact h
  · rw [he]
    exact h.of_same_registers rfl rfl hv h.spurious h.pending_above
  · rw [he]
    refine h.of_same_registers (by simp) (by simp) (by simpa using hv)
      (by simpa using h.spurious) fun hp => ?_
    exact pending_above_apicService (s := s.setLapic { s.lapic with taskPriority := value })
      hv h.pending_above hp

lemma NestingInvariant.of_writeSpurious (h : NestingInvariant s log)
    (value : BitVec 32) : NestingInvariant (apicWriteSpuriousInterrupt value s) log := by
  refine h.of_same_registers rfl rfl h.taskPriority_le ?_ h.pending_above
  -- the low nibble is hardwired
  show ((value &&& 0xf0 ||| 0xf).setWidth 8).toNat % 16 = 15
  rw [BitVec.toNat_setWidth, BitVec.toNat_or, BitVec.toNat_and]
  have hmod : ∀ n : ℕ, (n ||| 15) % 16 = 15 := by
    intro n
    rw [← Nat.and_two_pow_sub_one_eq_mod _ 4]
    apply Nat.eq_of_testBit_eq
    intro i
    rw [Nat.testBit_and, Nat.testBit_or]
    cases Nat.testBit 15 i <;> simp
  have := hmod (value.toNat &&& (0xf0 : BitVec 32).toNat)
  rw [Nat.mod_mod_of_dvd _ (by decide)]
  exact this

lemma NestingInvariant.of_receiveEOI (h : NestingInvariant s log) :
    NestingInvariant (apicReceiveEOI s)
      (lapicEvents s .apicReceiveEOI (apicReceiveEOI s) ++ log) := by
  have hne := h.eoiVector_ne
  have hisr := isr_apicReceiveEOI s hne
  obtain ⟨htpr, hirr, hspur⟩ := lapic_apicReceiveEOI_frame s
  have hretired : ∀ v, (s.serving v && !(apicReceiveEOI s).serving v) =
      (s.serving v && decide (v = s.eoiVector)) := by
    intro v
    simp only [State.serving, hisr, eq_comm (a := v)]
    cases hasVector s.lapic.interruptServiceRegister v <;> simp
  have habove : (apicReceiveEOI s).pendingLapicIntr = true →
      apicHighestPriority (apicReceiveEOI s).lapic.interruptServiceRegister <
        apicHighestPriority (apicReceiveEOI s).lapic.interruptRequestRegister := by
    intro hp
    obtain ⟨t, ht, hl, -, -, -, hevents, -⟩ := exists_apicReceiveEOI s hne
    rw [ht] at hp ⊢
    rw [lapic_apicService]
    refine pending_above_apicService (by rw [hl]; exact h.taskPriority_le) (fun hold => ?_) hp
    have hold' : s.pendingLapicIntr = true := by
      simpa only [State.pendingLapicIntr, hevents] using hold
    have hmono : apicHighestPriority t.lapic.interruptServiceRegister ≤
        apicHighestPriority s.lapic.interruptServiceRegister := by
      refine apicHighestPriority_mono fun v hv => isr_apicReceiveEOI_le s v ?_
      rw [ht, lapic_apicService]
      exact hv
    have hsame : t.lapic.interruptRequestRegister = s.lapic.interruptRequestRegister := by
      rw [hl]
    rw [hsame]
    exact lt_of_le_of_lt hmono (h.pending_above hold')
  have hserv_nibble : ∀ v, (apicReceiveEOI s).serving v = true → v.toNat % 16 ≠ 15 :=
    fun v hv => h.serving_nibble v (isr_apicReceiveEOI_le s v hv)
  obtain ⟨a, hrun, hr, hs⟩ := h.refines
  by_cases hmem : s.serving s.eoiVector = true
  · have hev : lapicEvents s .apicReceiveEOI (apicReceiveEOI s) = [.retire s.eoiVector] := by
      rw [lapicEvents_apicReceiveEOI, filter_allVectors (v := s.eoiVector) fun v => ?_]
      · rfl
      · rw [hretired]
        by_cases hv : v = s.eoiVector
        · simp [hv, hmem]
        · simp [hv]
    rw [hev]
    obtain ⟨rest, htop⟩ := h.eoiVector_top hmem
    have htop' : a.serving = s.eoiVector :: rest := by rw [hrun.serving_eq, htop]
    have hfresh := hrun.not_mem_of_top htop'
    refine ⟨⟨_, hrun.cons (.retire htop'), fun v => ?_, fun v => ?_⟩, ?_, ?_, ?_, hserv_nibble,
      habove⟩
    · simpa only [State.requesting, hirr] using hr v
    · have hv := hs v
      rw [htop', List.mem_cons] at hv
      simp only [State.serving, hisr, Bool.and_eq_true, Bool.not_eq_true', decide_eq_false_iff_not]
      constructor
      · intro hrest
        exact ⟨hv.mp (Or.inr hrest), fun heq => hfresh (heq ▸ hrest)⟩
      · rintro ⟨hin, hne'⟩
        exact (hv.mpr hin).resolve_left fun heq => hne' heq.symm
    · rw [htpr]; exact h.taskPriority_le
    · rw [hspur]; exact h.spurious
    · simpa only [State.requesting, hirr] using h.requesting_nibble
  · -- nothing is in service: the loops answer vector 0, which is not in the register either
    have hev : lapicEvents s .apicReceiveEOI (apicReceiveEOI s) = [] := by
      rw [lapicEvents_apicReceiveEOI, List.filter_eq_nil_iff.mpr fun v _ => ?_]
      · rfl
      · rw [hretired]
        simp only [Bool.and_eq_true, decide_eq_true_eq, not_and]
        rintro hv rfl
        exact hmem hv
    rw [hev]
    refine ⟨⟨a, hrun, fun v => ?_, fun v => ?_⟩, ?_, ?_, ?_, hserv_nibble, habove⟩
    · simpa only [State.requesting, hirr] using hr v
    · rw [hs v]
      simp only [State.serving, hisr, Bool.and_eq_true, Bool.not_eq_true', decide_eq_false_iff_not]
      refine ⟨fun hv => ⟨hv, ?_⟩, fun hv => hv.1⟩
      rintro rfl
      exact hmem hv
    · rw [htpr]; exact h.taskPriority_le
    · rw [hspur]; exact h.spurious
    · simpa only [State.requesting, hirr] using h.requesting_nibble

/-- A non-spurious acknowledge takes a waiting vector of a class above everything in
service. -/
lemma NestingInvariant.highestVector_above (h : NestingInvariant s log)
    (hp : s.pendingLapicIntr = true) :
    s.requesting (highestVector s.lapic.interruptRequestRegister) = true ∧
      ∀ w, s.serving w = true →
        classRank w < classRank (highestVector s.lapic.interruptRequestRegister) := by
  have habove := h.pending_above hp
  refine ⟨hasVector_highestVector_of_pos (by omega), fun w hw => ?_⟩
  have hle := vectorClass_le_apicHighestPriority hw
  have htop := vectorClass_highestVector s.lapic.interruptRequestRegister
  unfold classRank
  omega

lemma NestingInvariant.of_acknowledge (h : NestingInvariant s log) {v : BitVec 8} {t : State}
    (hack : apicAcknowledgeInterrupt s = .ok (v, t)) :
    NestingInvariant t (lapicEvents s .apicAcknowledgeInterrupt t ++ log) := by
  obtain ⟨hp, hcases⟩ := apicAcknowledgeInterrupt_cases s hack
  rw [lapicEvents_apicAcknowledgeInterrupt s t hack]
  rcases hcases with ⟨-, hv, ht⟩ | ⟨-, hv, ht⟩
  · rw [if_pos hv, ht]
    exact h.of_same_registers rfl rfl h.taskPriority_le h.spurious (by simp)
  · obtain ⟨hreq, habove⟩ := h.highestVector_above hp
    rw [← hv] at hreq habove
    have hne : v ≠ s.lapic.spuriousVector := by
      rintro rfl
      exact h.requesting_nibble _ hreq h.spurious
    have hrequesting : ∀ w, t.requesting w = (s.requesting w && !decide (v = w)) := by
      intro w
      rw [ht, hv, ← requesting_acknowledged]
      simp [State.requesting]
    have hserving : ∀ w, t.serving w = (s.serving w || decide (v = w)) := by
      intro w
      rw [ht, hv, ← serving_acknowledged]
      simp [State.serving]
    have htpr : t.lapic.taskPriority.toNat ≤ 15 := by
      rw [ht, lapic_apicService]; exact h.taskPriority_le
    rw [if_neg hne]
    obtain ⟨a, hrun, hr, hs⟩ := h.refines
    refine ⟨⟨_, hrun.cons (.serve ((hr v).mpr hreq) fun b hb => habove b ((hs b).mp hb)),
      fun w => ?_, fun w => ?_⟩, htpr, ?_, fun w hw => ?_, fun w hw => ?_, fun hpt => ?_⟩
    · simp only [Set.mem_sdiff, Set.mem_singleton_iff, hr, hrequesting, Bool.and_eq_true,
        Bool.not_eq_true', decide_eq_false_iff_not]
      exact and_congr_right fun _ => not_congr (Iff.intro Eq.symm Eq.symm)
    · simp only [List.mem_cons, hs, hserving, Bool.or_eq_true, decide_eq_true_eq]
      exact or_comm.trans (or_congr_right (Iff.intro Eq.symm Eq.symm))
    · rw [ht, lapic_apicService]; exact h.spurious
    · rw [hrequesting, Bool.and_eq_true] at hw
      exact h.requesting_nibble w hw.1
    · rw [hserving, Bool.or_eq_true, decide_eq_true_eq] at hw
      rcases hw with hold | rfl
      · exact h.serving_nibble w hold
      · exact h.requesting_nibble v hreq
    · rw [ht] at hpt ⊢
      rw [lapic_apicService]
      exact pending_above_apicService (s := s.acknowledged) h.taskPriority_le
        (by simp [State.acknowledged]) hpt

/-- Every allowed input keeps the invariant. -/
lemma nestingInvariant_step {u u' : State × List (Event (BitVec 8))} {op : LapicOp}
    (h : NestingInvariant u.1 u.2) (hop : lapicAllowed u op)
    (hstep : lapicLoggedStep u op = .ok u') : NestingInvariant u'.1 u'.2 := by
  obtain ⟨t, ht, hu⟩ := bind_eq_ok.mp hstep
  simp only [Except.ok.injEq] at hu
  subst hu
  cases op with
  | apicSetIrq vector level =>
      simp only [lapicStep, Except.ok.injEq] at ht
      subst ht
      exact h.of_setIrq hop level
  | apicWriteTaskPriority value =>
      simp only [lapicStep, Except.ok.injEq] at ht
      subst ht
      exact h.of_writeTaskPriority value
  | apicWriteSpuriousInterrupt value =>
      simp only [lapicStep, Except.ok.injEq] at ht
      subst ht
      exact h.of_writeSpurious value
  | apicReceiveEOI =>
      simp only [lapicStep, Except.ok.injEq] at ht
      subst ht
      exact h.of_receiveEOI
  | apicAcknowledgeInterrupt =>
      simp only [lapicStep] at ht
      cases hack : apicAcknowledgeInterrupt u.1 with
      | error e => rw [hack] at ht; cases ht
      | ok r =>
          rw [hack] at ht
          simp only [Except.map, Except.ok.injEq] at ht
          subst ht
          exact h.of_acknowledge hack
  | setWindow value =>
      simp only [lapicStep, Except.ok.injEq] at ht
      subst ht
      exact h.of_same_registers rfl rfl h.taskPriority_le h.spurious h.pending_above

end Steps

/-! ## The discipline -/

/-- What an acknowledge returning `v` does: it is spurious and changes no register, or it
takes into service a vector accepted since its last acknowledge and of a class above every
class in service. -/
def AcknowledgeDiscipline (s t : State) (log : List (Event (BitVec 8))) (v : BitVec 8) : Prop :=
  (v = s.lapic.spuriousVector ∧ t.lapic = s.lapic) ∨
    (v ≠ s.lapic.spuriousVector ∧ AcceptedSinceServe v log ∧
      (∀ w, s.serving w = true → vectorClass w < vectorClass v) ∧
      ∀ w, t.serving w = (s.serving w || decide (v = w)))

/-- What an EOI does: with something in service it retires the vector acknowledged last among
those not yet retired, and no other. -/
def EoiDiscipline (s t : State) (log : List (Event (BitVec 8))) : Prop :=
  (∃ w, s.serving w = true) →
    ∃ v rest, outstanding log = v :: rest ∧ s.serving v = true ∧
      ∀ w, t.serving w = (s.serving w && !decide (v = w))

/-- What every step of the local APIC does.  The second half says that a waiting vector
leaves the request register only by being returned from an acknowledge. -/
def StepDiscipline (u : State × List (Event (BitVec 8))) (op : LapicOp) : Prop :=
  ∀ t, lapicStep u.1 op = .ok t →
    (match op with
      | .apicAcknowledgeInterrupt =>
          ∀ v t', apicAcknowledgeInterrupt u.1 = .ok (v, t') →
            AcknowledgeDiscipline u.1 t' u.2 v
      | .apicReceiveEOI => EoiDiscipline u.1 t u.2
      | _ => ∀ w, t.serving w = u.1.serving w) ∧
    ∀ w, u.1.requesting w = true → t.requesting w = false →
      op = .apicAcknowledgeInterrupt ∧ ∃ t', apicAcknowledgeInterrupt u.1 = .ok (w, t')

section Discipline

variable {s t : State} {log : List (Event (BitVec 8))} {v : BitVec 8}

lemma NestingInvariant.acknowledgeDiscipline (h : NestingInvariant s log)
    (hack : apicAcknowledgeInterrupt s = .ok (v, t)) : AcknowledgeDiscipline s t log v := by
  obtain ⟨hp, ⟨-, hv, ht⟩ | ⟨-, hv, ht⟩⟩ := apicAcknowledgeInterrupt_cases s hack
  · exact Or.inl ⟨hv, by rw [ht]; rfl⟩
  · obtain ⟨hreq, habove⟩ := h.highestVector_above hp
    rw [← hv] at hreq habove
    refine Or.inr ⟨?_, ?_, habove, fun w => ?_⟩
    · rintro rfl
      exact h.requesting_nibble _ hreq h.spurious
    · obtain ⟨a, hrun, hr, -⟩ := h.refines
      exact (hrun.requested_iff v).mp ((hr v).mpr hreq)
    · rw [ht]
      show hasVector (apicService s.acknowledged).lapic.interruptServiceRegister w = _
      rw [lapic_apicService, hv]
      exact serving_acknowledged w

lemma NestingInvariant.eoiDiscipline (h : NestingInvariant s log) :
    EoiDiscipline s (apicReceiveEOI s) log := by
  rintro ⟨w, hw⟩
  have hmem : s.serving s.eoiVector = true := hasVector_highestVector hw
  obtain ⟨rest, htop⟩ := h.eoiVector_top hmem
  exact ⟨s.eoiVector, rest, htop, hmem, isr_apicReceiveEOI s h.eoiVector_ne⟩

lemma requesting_of_acknowledge (hack : apicAcknowledgeInterrupt s = .ok (v, t))
    {w : BitVec 8} (hw : s.requesting w = true) (hgone : t.requesting w = false) : w = v := by
  obtain ⟨-, ⟨-, -, ht⟩ | ⟨-, hv, ht⟩⟩ := apicAcknowledgeInterrupt_cases s hack
  · rw [ht] at hgone
    exact absurd hw (by simpa [State.requesting] using hgone)
  · have hgone' : s.acknowledged.requesting w = false := by
      rw [ht] at hgone
      simpa [State.requesting] using hgone
    rw [requesting_acknowledged, hw] at hgone'
    rw [Bool.true_and, Bool.not_eq_false', decide_eq_true_eq] at hgone'
    rw [hv, hgone']

lemma NestingInvariant.stepDiscipline {u : State × List (Event (BitVec 8))}
    (h : NestingInvariant u.1 u.2) (op : LapicOp) : StepDiscipline u op := by
  intro t ht
  cases op with
  | apicSetIrq vector level =>
      simp only [lapicStep, Except.ok.injEq] at ht
      subst ht
      refine ⟨fun w => ?_, fun w hw hgone => ?_⟩
      · simp only [State.serving, (lapic_apicSetIrq_frame vector level u.1).2.1]
      · simp only [State.requesting, irr_apicSetIrq, Bool.or_eq_false_iff] at hw hgone
        exact absurd (hgone.1.symm.trans hw) Bool.false_ne_true
  | apicWriteTaskPriority value =>
      simp only [lapicStep, Except.ok.injEq] at ht
      subst ht
      have hsame : (apicWriteTaskPriority value u.1).serving = u.1.serving ∧
          (apicWriteTaskPriority value u.1).requesting = u.1.requesting := by
        rcases apicWriteTaskPriority_cases u.1 value with ⟨-, he⟩ | ⟨-, -, he⟩ | ⟨-, -, he⟩
        · rw [he]; exact ⟨rfl, rfl⟩
        · rw [he]; exact ⟨rfl, rfl⟩
        · rw [he]; constructor <;> funext w <;> simp [State.serving, State.requesting]
      refine ⟨fun w => by rw [hsame.1], fun w hw hgone => ?_⟩
      rw [hsame.2, hw] at hgone
      cases hgone
  | apicWriteSpuriousInterrupt value =>
      simp only [lapicStep, Except.ok.injEq] at ht
      have hsame : ∀ w, t.requesting w = u.1.requesting w := fun w => by rw [← ht]; rfl
      refine ⟨fun w => by rw [← ht]; rfl, fun w hw hgone => ?_⟩
      exact absurd ((hsame w).symm.trans hgone) (by simp [hw])
  | apicReceiveEOI =>
      simp only [lapicStep, Except.ok.injEq] at ht
      subst ht
      refine ⟨h.eoiDiscipline, fun w hw hgone => ?_⟩
      rw [State.requesting, (lapic_apicReceiveEOI_frame u.1).2.1] at hgone
      exact absurd hw (by simpa [State.requesting] using hgone)
  | apicAcknowledgeInterrupt =>
      refine ⟨fun v t' hack => h.acknowledgeDiscipline hack, fun w hw hgone => ?_⟩
      simp only [lapicStep] at ht
      cases hack : apicAcknowledgeInterrupt u.1 with
      | error e => rw [hack] at ht; cases ht
      | ok r =>
          obtain ⟨v, t'⟩ := r
          rw [hack] at ht
          simp only [Except.map, Except.ok.injEq] at ht
          subst ht
          obtain rfl : w = v := requesting_of_acknowledge hack hw hgone
          exact ⟨rfl, t', rfl⟩
  | setWindow value =>
      simp only [lapicStep, Except.ok.injEq] at ht
      have hsame : ∀ w, t.requesting w = u.1.requesting w := fun w => by rw [← ht]; rfl
      refine ⟨fun w => by rw [← ht]; rfl, fun w hw hgone => ?_⟩
      exact absurd ((hsame w).symm.trans hgone) (by simp [hw])

/-- No word of the service register holds two bits. -/
lemma NestingInvariant.one_bit (h : NestingInvariant s log) {c : Fin 16} {i j : ℕ}
    (hi : Word.has (s.lapic.interruptServiceRegister c) i = true)
    (hj : Word.has (s.lapic.interruptServiceRegister c) j = true) : i = j := by
  obtain ⟨a, hrun, -, hs⟩ := h.refines
  have hlti := Word.lt_of_has hi
  have hltj := Word.lt_of_has hj
  have heq : vectorOf c i = vectorOf c j := by
    refine hrun.eq_of_rank_eq ((hs _).mpr (hasVector_vectorOf hi))
      ((hs _).mpr (hasVector_vectorOf hj)) ?_
    simp only [classRank, vectorClass_vectorOf c hlti, vectorClass_vectorOf c hltj]
  rw [← vectorBit_vectorOf c hlti, ← vectorBit_vectorOf c hltj, heq]

end Discipline

/-- **The local APIC nests interrupts by class.**  From the initialised local APIC, in every
run of vectors with a low nibble other than `0xF`, register writes, EOIs and acknowledges made
while the event is set: each step does what `StepDiscipline` says, and every word of the
service register holds at most one bit. -/
theorem lapic_nesting_discipline (s : State) (hlapic : s.lapic = Lapic.initial)
    (hpending : s.pendingLapicIntr = false) (ops : List LapicOp)
    (hops : Meets lapicLoggedStep lapicAllowed (s, []) ops) :
    Meets lapicLoggedStep StepDiscipline (s, []) ops ∧
      ∀ t log, run lapicLoggedStep (s, []) ops = .ok (t, log) →
        ∀ c i j, Word.has (t.lapic.interruptServiceRegister c) i = true →
          Word.has (t.lapic.interruptServiceRegister c) j = true → i = j := by
  have hinit : NestingInvariant s [] := nestingInvariant_initial hlapic hpending
  have hstep : ∀ u op u', NestingInvariant u.1 u.2 → lapicAllowed u op →
      lapicLoggedStep u op = .ok u' → NestingInvariant u'.1 u'.2 :=
    fun _ _ _ h hop hu => nestingInvariant_step h hop hu
  refine ⟨?_, fun t log hrun c i j hi hj => ?_⟩
  · exact Meets.of_invariant (I := fun u => NestingInvariant u.1 u.2) hstep
      (fun u op h _ => h.stepDiscipline op) hinit hops
  · have h : NestingInvariant (t, log).1 (t, log).2 :=
      run_invariant (I := fun u => NestingInvariant u.1 u.2) hstep hinit hops hrun
    exact h.one_bit hi hj

/-- Two vectors, the second above the first, taken and retired in nested order. -/
theorem lapic_nesting_discipline_two_vectors :
    Meets lapicLoggedStep StepDiscipline (State.initial fun _ _ => true, [])
      [.apicSetIrq 0x31 0, .apicAcknowledgeInterrupt, .setWindow 0, .apicSetIrq 0x52 1,
        .apicAcknowledgeInterrupt, .apicReceiveEOI, .apicReceiveEOI] :=
  (lapic_nesting_discipline _ rfl (by decide) _ (by decide)).1

end Svmm
