import Svmm.Construction.HpetDevice
import Svmm.Framework.Run

/-!
# What each function of the HPET changes

The interrupt calls touch the status alone, and a loop over the timers keeps what each of its turns
keeps.  The main counter is in the fields of `Hpet.core`, which only the configuration register and
the counter itself write.
-/

namespace Svmm

open TransitionRun

/-! ## The timers -/

@[simp] lemma Hpet.timer_setTimer_self (i : Fin 3) (b : HpetTimer) (h : Hpet) :
    (h.setTimer i b).timer i = b := Function.update_self ..

lemma Hpet.timer_setTimer_of_ne {i j : Fin 3} (hne : j ≠ i) (b : HpetTimer) (h : Hpet) :
    (h.setTimer i b).timer j = h.timer j := Function.update_of_ne hne ..

/-- A loop over the timers keeps what its turns keep. -/
lemma hpetForTimers_keep {β : Type} (get : Hpet → β) {f : Fin 3 → Hpet → Hpet × List HpetCall}
    (hf : ∀ i h, get (f i h).1 = get h) (h : Hpet) : get (hpetForTimers f h).1 = get h := by
  unfold hpetForTimers
  dsimp only
  rw [hf 2, hf 1, hf 0]

/-! ## Interrupts -/

/-- `HpetUpdateIrq` changes the status alone. -/
lemma hpetUpdateIrq_fst (i : Fin 3) (raiseIrq : Bool) (h : Hpet) :
    (hpetUpdateIrq i raiseIrq h).1 =
      { h with
        interruptStatus :=
          if raiseIrq && h.enabled && (h.timer i).level then Word.set h.interruptStatus i.val
          else h.interruptStatus } := by
  have hset : (if (h.timer i).level then
        { h with interruptStatus := Word.set h.interruptStatus i.val } else h) =
      { h with
        interruptStatus :=
          if (h.timer i).level then Word.set h.interruptStatus i.val else h.interruptStatus } := by
    split_ifs
    · rfl
    · rfl
  unfold hpetUpdateIrq
  by_cases hraise : (raiseIrq && h.enabled) = true
  · rw [if_pos hraise, hraise, Bool.true_and, ← hset]
    dsimp only
    split_ifs <;> rfl
  · rw [if_neg hraise, Bool.eq_false_iff.mpr hraise, Bool.false_and]
    rfl

lemma timer_hpetUpdateIrq (i : Fin 3) (raiseIrq : Bool) (h : Hpet) :
    (hpetUpdateIrq i raiseIrq h).1.timer = h.timer := by
  rw [hpetUpdateIrq_fst]

/-! ## The handler -/

/-- The test of `HpetTimerHandler`, of which the first half implies the second. -/
def HpetTimer.Fires (currentTick : BitVec 64) (b : HpetTimer) : Prop :=
  b.lastTimeChecked ≤ b.comparator ∨ b.comparator ≤ currentTick

instance (currentTick : BitVec 64) (b : HpetTimer) : Decidable (b.Fires currentTick) :=
  inferInstanceAs (Decidable (_ ∨ _))

lemma fires_iff {b : HpetTimer} {currentTick : BitVec 64} :
    (hpetPassed b.lastTimeChecked b.comparator currentTick ||
      (decide (b.lastTimeChecked ≤ b.comparator) || decide (b.comparator ≤ currentTick))) = true ↔
      b.Fires currentTick := by
  unfold hpetPassed HpetTimer.Fires
  simp only [Bool.or_eq_true, decide_eq_true_eq]
  exact or_iff_right_of_imp fun hpassed => .inl hpassed.2.1

/-- Firing makes the calls of the interrupt, and keeps what the guest has configured. -/
lemma hpetFire_effect {currentTick : BitVec 64} {i : Fin 3} {h r : Hpet} {fired : List HpetCall}
    (hfire : hpetFire currentTick i h = .ok (r, fired)) :
    fired = (hpetUpdateIrq i true h).2 ∧
      r.interruptStatus = (hpetUpdateIrq i true h).1.interruptStatus ∧
      ∀ j, (r.timer j).timerId = (h.timer j).timerId ∧
        (r.timer j).configCapabilities = (h.timer j).configCapabilities := by
  unfold hpetFire at hfire
  dsimp only at hfire
  split_ifs at hfire
  · obtain ⟨comparator, -, hrest⟩ := bind_eq_ok.mp hfire
    obtain ⟨rfl, rfl⟩ := Prod.mk.inj (Except.ok.inj hrest)
    refine ⟨rfl, rfl, fun j => ?_⟩
    by_cases hj : j = i
    · subst hj
      rw [Hpet.timer_setTimer_self]
      exact ⟨rfl, rfl⟩
    · rw [Hpet.timer_setTimer_of_ne hj, timer_hpetUpdateIrq]
      exact ⟨rfl, rfl⟩
  · obtain ⟨rfl, rfl⟩ := Prod.mk.inj (Except.ok.inj hfire)
    rw [timer_hpetUpdateIrq]
    exact ⟨rfl, rfl, fun j => ⟨rfl, rfl⟩⟩

/-- What the handler does, by whether it fires. -/
lemma hpetTimerHandler_eq_ok {clock : BitVec 64} {i : Fin 3} {g h : Hpet} {calls : List HpetCall} :
    hpetTimerHandler clock i h = .ok (g, calls) ↔
      ∃ r fired,
        (if (h.timer i).Fires (hpetGetTicks clock h.toHpetReference) then
          hpetFire (hpetGetTicks clock h.toHpetReference) i h else .ok (h, [])) = .ok (r, fired) ∧
        g = r.setTimer i
          { r.timer i with lastTimeChecked := hpetGetTicks clock h.toHpetReference } ∧
        calls = fired ++ [hpetTimerCall clock i r] := by
  unfold hpetTimerHandler
  simp only [fires_iff]
  by_cases hfires : (h.timer i).Fires (hpetGetTicks clock h.toHpetReference)
  · simp only [if_pos hfires, bind_eq_ok, Prod.exists]
    refine exists_congr fun r => exists_congr fun fired => and_congr_right fun _ => ?_
    constructor
    · intro hrest
      obtain ⟨rfl, rfl⟩ := Prod.mk.inj (Except.ok.inj hrest)
      exact ⟨rfl, rfl⟩
    · rintro ⟨rfl, rfl⟩
      rfl
  · simp only [if_neg hfires, ok_bind]
    constructor
    · intro hrest
      obtain ⟨rfl, rfl⟩ := Prod.mk.inj (Except.ok.inj hrest)
      exact ⟨h, [], rfl, rfl, rfl⟩
    · rintro ⟨r, fired, hr, rfl, rfl⟩
      obtain ⟨rfl, rfl⟩ := Prod.mk.inj (Except.ok.inj hr)
      rfl

/-! ## The counter -/

/-- The fields that the main counter is read from. -/
def Hpet.core (h : Hpet) : HpetReference × BitVec 64 × BitVec 64 :=
  (h.toHpetReference, h.counter, h.globalConfiguration)

lemma enabled_of_core {g h : Hpet} (hcore : g.core = h.core) : g.enabled = h.enabled :=
  congrArg (fun c : HpetReference × BitVec 64 × BitVec 64 => Word.has c.2.2 hpetConfigEnabled) hcore

lemma referenceTime_of_core {g h : Hpet} (hcore : g.core = h.core) :
    g.referenceTime = h.referenceTime :=
  congrArg (fun c : HpetReference × BitVec 64 × BitVec 64 => c.1.referenceTime) hcore

lemma visibleCounter_of_core {g h : Hpet} (hcore : g.core = h.core) (clock : BitVec 64) :
    g.visibleCounter clock = h.visibleCounter clock :=
  congrArg (fun c : HpetReference × BitVec 64 × BitVec 64 =>
    if Word.has c.2.2 hpetConfigEnabled then hpetGetTicks clock c.1 else c.2.1) hcore

@[simp] lemma core_setTimer (i : Fin 3) (b : HpetTimer) (h : Hpet) :
    (h.setTimer i b).core = h.core := rfl

@[simp] lemma core_hpetUpdateIrq (i : Fin 3) (raiseIrq : Bool) (h : Hpet) :
    (hpetUpdateIrq i raiseIrq h).1.core = h.core := by
  rw [hpetUpdateIrq_fst]
  rfl

lemma core_hpetDisableTimer (i : Fin 3) (h : Hpet) : (hpetDisableTimer i h).1.core = h.core := rfl

lemma core_hpetFire {currentTick : BitVec 64} {i : Fin 3} {g h : Hpet} {calls : List HpetCall}
    (hfire : hpetFire currentTick i h = .ok (g, calls)) : g.core = h.core := by
  unfold hpetFire at hfire
  dsimp only at hfire
  split_ifs at hfire
  · obtain ⟨comparator, -, hrest⟩ := bind_eq_ok.mp hfire
    obtain ⟨rfl, -⟩ := Prod.mk.inj (Except.ok.inj hrest)
    rw [core_setTimer, core_hpetUpdateIrq]
  · obtain ⟨rfl, -⟩ := Prod.mk.inj (Except.ok.inj hfire)
    exact core_hpetUpdateIrq i true h

lemma core_hpetTimerHandler {clock : BitVec 64} {i : Fin 3} {g h : Hpet} {calls : List HpetCall}
    (hhandler : hpetTimerHandler clock i h = .ok (g, calls)) : g.core = h.core := by
  obtain ⟨r, fired, hfire, rfl, -⟩ := hpetTimerHandler_eq_ok.mp hhandler
  rw [core_setTimer]
  split_ifs at hfire
  · exact core_hpetFire hfire
  · obtain ⟨rfl, -⟩ := Prod.mk.inj (Except.ok.inj hfire)
    rfl

/-- The low bit of the configuration is that of the value written. -/
lemma has_hpetConfiguration (x : BitVec 64) (value : BitVec 32) :
    Word.has (x &&& ~~~3 ||| (value &&& 3).setWidth 64) hpetConfigEnabled =
      Word.has value hpetConfigEnabled := by
  simp [Word.has_eq_getLsbD, hpetConfigEnabled]

lemma enabled_hpetWriteConfigure (clock : BitVec 64) (value : BitVec 32) (h : Hpet) :
    (hpetWriteConfigure clock value h).1.enabled = Word.has value hpetConfigEnabled :=
  has_hpetConfiguration _ value

lemma core_hpetWriteStatus (value : BitVec 32) (h : Hpet) :
    (hpetWriteStatus value h).1.core = h.core := by
  unfold hpetWriteStatus
  refine hpetForTimers_keep Hpet.core (fun i h => ?_) h
  dsimp only
  split_ifs
  · rfl
  · rfl

lemma core_hpetWriteTimer (clock : BitVec 64) (i : Fin 3) (register value : BitVec 32) (h : Hpet) :
    (hpetWriteTimer clock i register value h).1.core = h.core := by
  unfold hpetWriteTimer
  dsimp only
  split_ifs
  · unfold hpetWriteTimerConfig
    dsimp only
    split_ifs <;> first | rfl | exact core_hpetUpdateIrq i _ _
  all_goals rfl

end Svmm
