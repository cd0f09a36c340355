import Svmm.Properties.Hpet.Effects

/-!
# The interrupt lines of the HPET timers

A level interrupt holds a line from its raise on until the line is lowered.  `HpetUpdateIrq` works
out the line anew at each call, and tests the level bit of the timer where it should test the bit
for legacy replacement.  Each write and each expiry is an event that gives every timer a list of
signals for its line, and what is right is read off the signals.
-/

namespace Svmm

open TransitionRun

/-! ## Runs that remember the lines held -/

/-- The HPET, and for each timer the lines that its level interrupts hold. -/
structure HpetLines where
  hpet : Hpet
  held : Fin 3 → List (BitVec 8)

/-- A call of `_HpetWriteMmioHandler`, or the expiry of a timer. -/
inductive HpetLineOp where
  | write (address value : BitVec 32)
  | expire (i : Fin 3)

def hpetLineAct (h : Hpet) : BitVec 64 × HpetLineOp → HpetOutcome (Hpet × List HpetCall)
  | (clock, .write address value) => .ok (hpetWrite clock address value h)
  | (clock, .expire i) => hpetTimerHandler clock i h

/-- What a call does to the lines held; an edge interrupt holds none. -/
def HpetCall.hold (g : Hpet) (held : Fin 3 → List (BitVec 8)) :
    HpetCall → Fin 3 → List (BitVec 8)
  | .raiseIrq i irqNumber =>
      if (g.timer i).level then Function.update held i (irqNumber :: held i) else held
  | .lowerIrq _ irqNumber => fun i => (held i).filter (· ≠ irqNumber)
  | _ => held

def hpetLineStep (s : HpetLines) (a : BitVec 64 × HpetLineOp) : HpetOutcome HpetLines := do
  let (g, calls) ← hpetLineAct s.hpet a
  return { hpet := g, held := calls.foldl (HpetCall.hold g) s.held }

/-! ## What is right -/

/-- The line of a timer in legacy replacement. -/
def hpetLegacyLine (i : Fin 3) : BitVec 8 := if i ≠ 0 then rtcIrq else pitIrq

/-- The line that a timer is configured for. -/
def hpetConfiguredLine (legacy : Bool) (i : Fin 3) (b : HpetTimer) : BitVec 8 :=
  if legacy && decide (i ≠ 2) then hpetLegacyLine i else b.route

/-- The interrupts of the timer are at an end: its status is cleared, its interrupt is disabled, or
the HPET is. -/
def hpetEnds (h g : Hpet) (i : Fin 3) : Prop :=
  (h.status i = true ∧ g.status i = false) ∨
    ((h.timer i).irqEnable = true ∧ (g.timer i).irqEnable = false) ∨
    (h.enabled = true ∧ g.enabled = false)

/-- A step raises a line only as it is configured, and where it ends the interrupts of a timer, no
line is held by one any longer. -/
def hpetLinesRight (s : HpetLines) (a : BitVec 64 × HpetLineOp) : Prop :=
  ∀ g calls, hpetLineAct s.hpet a = .ok (g, calls) →
    (∀ i irqNumber, .raiseIrq i irqNumber ∈ calls →
      irqNumber = hpetConfiguredLine s.hpet.legacy i (g.timer i)) ∧
    ∀ i, hpetEnds s.hpet g i → calls.foldl (HpetCall.hold g) s.held i = []

/-! ## Events -/

/-- What a step does, as far as the lines are concerned. -/
inductive HpetEvent where
  | configure (value : BitVec 32)
  | status (value : BitVec 32)
  | timerConfig (i : Fin 3) (value : BitVec 32)
  | expire (i : Fin 3)
  | other

def HpetLineOp.event : HpetLineOp → HpetEvent
  | .write address value =>
    let index := address &&& 0x3ff
    if index.toNat < 0x100 then
      if index = 0x010 then .configure value
      else if index = 0x020 then .status value
      else .other
    else
      match hpetTimerIndex index with
      | none => .other
      | some i => if index &&& 0x1f = 0x00 then .timerConfig i value else .other
  | .expire i => .expire i

/-- What `HpetUpdateIrq` does to the line of a timer. -/
def HpetTimer.signals (raiseIrq enabled : Bool) (b : HpetTimer) : List Bool :=
  if raiseIrq && enabled then
    if !b.irqEnable || b.fsbEnable then []
    else if b.level then [true]
    else [false, true]
  else [false]

namespace HpetEvent

/-- The timer block that the signals of the event go by. -/
def block (h : Hpet) : HpetEvent → Fin 3 → HpetTimer
  | timerConfig j value, i => if i = j then (h.timer i).configure value else h.timer i
  | _, i => h.timer i

/-- What the event does to the line of a timer, `true` for a raise and `false` for a lower. -/
def signals (currentTick : BitVec 64) (h : Hpet) : HpetEvent → Fin 3 → List Bool
  | configure value, i =>
      if Word.has value hpetConfigEnabled && !h.enabled then
        if (h.timer i).irqEnable && h.status i then [false] else []
      else if h.enabled && !Word.has value hpetConfigEnabled then [false]
      else []
  | status value, i => if Word.has value i.val && h.status i then [false] else []
  | timerConfig j value, i =>
      let b := (h.timer i).configure value
      if i = j ∧ b.irqEnable = true ∧ h.enabled = true then
        b.signals (h.status i && !(b.fsbEnable || !b.level)) true
      else []
  | expire j, i =>
      if i = j ∧ (h.timer i).Fires currentTick then (h.timer i).signals true h.enabled else []
  | other, _ => []

/-- The event ends the interrupts of the timer. -/
def Ends (h : Hpet) : HpetEvent → Fin 3 → Prop
  | configure value, _ => h.enabled = true ∧ Word.has value hpetConfigEnabled = false
  | status value, i => Word.has value i.val = true ∧ h.status i = true
  | timerConfig j value, i =>
      let b := (h.timer i).configure value
      i = j ∧ (h.status i = true ∧ (b.fsbEnable || !b.level) = true ∨
        (h.timer i).irqEnable = true ∧ b.irqEnable = false)
  | expire _, _ => False
  | other, _ => False

end HpetEvent

/-- The level bit of the timer agrees with legacy replacement, or both lines are the same. -/
def HpetTimer.LineAgrees (legacy : Bool) (i : Fin 3) (b : HpetTimer) : Prop :=
  b.level = (legacy && decide (i ≠ 2)) ∨ b.route = hpetLegacyLine i

/-- The legacy line of a timer that is set to level, the route of one that is set to edge. -/
def HpetTimer.line (i : Fin 3) (b : HpetTimer) : BitVec 8 :=
  if b.level then hpetLegacyLine i else b.route

/-- The level bit of a timer whose line is raised agrees with legacy replacement, and where the
interrupts of a timer end, each line that they hold is that of a timer whose line is lowered. -/
def hpetLinesAgree (s : HpetLines) (a : BitVec 64 × HpetLineOp) : Prop :=
  let e := a.2.event
  let currentTick := hpetGetTicks a.1 s.hpet.toHpetReference
  (∀ i, true ∈ e.signals currentTick s.hpet i →
      (e.block s.hpet i).LineAgrees s.hpet.legacy i) ∧
    ∀ i, e.Ends s.hpet i → ∀ irqNumber ∈ s.held i,
      ∃ j, false ∈ e.signals currentTick s.hpet j ∧ irqNumber = (e.block s.hpet j).line j

/-! ## Signals in a list of calls -/

/-- A raise or a lower of a line on behalf of a timer. -/
def hpetSignal (i : Fin 3) (irqNumber : BitVec 8) (raiseIrq : Bool) : HpetCall :=
  if raiseIrq then .raiseIrq i irqNumber else .lowerIrq i irqNumber

lemma hpetSignal_ne_timer {i : Fin 3} {irqNumber : BitVec 8} {r : Bool} {c : TimerCall} :
    hpetSignal i irqNumber r ≠ .timer c := by
  cases r <;> exact HpetCall.noConfusion

lemma hpetSignal_mem_append_timer {i j : Fin 3} {irqNumber : BitVec 8} {r : Bool}
    {calls : List HpetCall} {clock : BitVec 64} {h : Hpet} :
    hpetSignal i irqNumber r ∈ calls ++ [hpetTimerCall clock j h] ↔
      hpetSignal i irqNumber r ∈ calls := by
  rw [List.mem_append, List.mem_singleton]
  exact or_iff_left hpetSignal_ne_timer

lemma hpetSignal_inj {i j : Fin 3} {m n : BitVec 8} {r q : Bool} :
    hpetSignal i m r = hpetSignal j n q ↔ i = j ∧ m = n ∧ r = q := by
  cases r <;> cases q <;> simp [hpetSignal]

lemma hpetUpdateIrq_snd (i : Fin 3) (raiseIrq : Bool) (h : Hpet) :
    (hpetUpdateIrq i raiseIrq h).2 =
      if raiseIrq && h.enabled then
        if (h.timer i).irqEnable = false then []
        else if (h.timer i).fsbEnable then
          [.store (h.timer i).frontSideBusInterruptAddress
            (h.timer i).frontSideBusInterruptValue]
        else if (h.timer i).level = false then
          [hpetSignal i (hpetIrqNumber i (h.timer i)) false,
            hpetSignal i (hpetIrqNumber i (h.timer i)) true]
        else [hpetSignal i (hpetIrqNumber i (h.timer i)) true]
      else [hpetSignal i (hpetIrqNumber i (h.timer i)) false] := by
  unfold hpetUpdateIrq
  dsimp only
  split_ifs <;> rfl

lemma hpetSignal_ne_store {i : Fin 3} {n : BitVec 8} {r : Bool} {address value : BitVec 32} :
    hpetSignal i n r ≠ .store address value := by
  cases r <;> exact HpetCall.noConfusion

lemma mem_hpetUpdateIrq {i j : Fin 3} {n : BitVec 8} {r raiseIrq : Bool} {h : Hpet} :
    hpetSignal j n r ∈ (hpetUpdateIrq i raiseIrq h).2 ↔
      j = i ∧ n = hpetIrqNumber i (h.timer i) ∧ r ∈ (h.timer i).signals raiseIrq h.enabled := by
  rw [hpetUpdateIrq_snd]
  unfold HpetTimer.signals
  by_cases hraise : (raiseIrq && h.enabled) = true
  · rw [if_pos hraise, if_pos hraise]
    cases r <;> cases hirq : (h.timer i).irqEnable <;> cases hfsb : (h.timer i).fsbEnable <;>
      cases hlevel : (h.timer i).level <;>
      simp [hpetSignal_inj, hpetSignal_ne_store]
  · rw [if_neg hraise, if_neg hraise, List.mem_singleton, List.mem_singleton, hpetSignal_inj]

/-! ## What the events do -/

/-- The calls of a step are the signals of its event, on the lines of the blocks of the event, and
the step ends the interrupts that the event does. -/
structure HpetEvent.Describes (e : HpetEvent) (currentTick : BitVec 64) (h g : Hpet)
    (calls : List HpetCall) : Prop where
  mem_iff : ∀ i n r, hpetSignal i n r ∈ calls ↔
    n = hpetIrqNumber i (e.block h i) ∧ r ∈ e.signals currentTick h i
  config : ∀ i, true ∈ e.signals currentTick h i →
    (g.timer i).configCapabilities = (e.block h i).configCapabilities
  ends_iff : ∀ i, hpetEnds h g i ↔ e.Ends h i

section Events

variable {clock currentTick : BitVec 64} {h g : Hpet} {calls : List HpetCall}

/-- A step with no signal that changes no status, no enable bit and not the configuration. -/
lemma describes_other (hcalls : ∀ i n r, hpetSignal i n r ∉ calls)
    (hstatus : ∀ i, g.status i = h.status i)
    (hirq : ∀ i, (g.timer i).irqEnable = (h.timer i).irqEnable)
    (henabled : g.enabled = h.enabled) : HpetEvent.other.Describes currentTick h g calls where
  mem_iff i n r := iff_of_false (hcalls i n r) fun hmem => List.not_mem_nil hmem.2
  config i hmem := absurd hmem List.not_mem_nil
  ends_iff i := by
    unfold hpetEnds HpetEvent.Ends
    rw [hstatus, hirq, henabled]
    simp

lemma mem_three {α : Type} {c : α} {l : Fin 3 → List α} :
    c ∈ l 0 ++ l 1 ++ l 2 ↔ ∃ i, c ∈ l i := by
  simp [Fin.exists_fin_succ]

/-- A loop over the timers that leaves the state makes the calls of each turn from there. -/
lemma hpetForTimers_of_fst {f : Fin 3 → Hpet → Hpet × List HpetCall} (hf : ∀ i, (f i h).1 = h) :
    (hpetForTimers f h).1 = h ∧
      ∀ c, c ∈ (hpetForTimers f h).2 ↔ ∃ i, c ∈ (f i h).2 := by
  unfold hpetForTimers
  dsimp only
  rw [hf 0, hf 1, hf 2]
  exact ⟨rfl, fun c => mem_three (l := fun i => (f i h).2)⟩

/-- While the HPET is halted, `HpetUpdateIrq` can only lower the line. -/
lemma hpetUpdateIrq_of_halted (hhalted : h.enabled = false) (i : Fin 3) (raiseIrq : Bool) :
    hpetUpdateIrq i raiseIrq h = (h, [hpetSignal i (hpetIrqNumber i (h.timer i)) false]) := by
  have htest : (raiseIrq && h.enabled) = false := by
    rw [hhalted, Bool.and_false]
  refine Prod.ext ?_ ?_
  · rw [hpetUpdateIrq_fst, htest]
    rfl
  · rw [hpetUpdateIrq_snd, htest]
    rfl

lemma hpetEnable_lines (hhalted : h.enabled = false) :
    (hpetEnable clock h).1 = { h with referenceTime := clock, referenceValue := h.counter } ∧
      ∀ i n r, hpetSignal i n r ∈ (hpetEnable clock h).2 ↔
        ((h.timer i).irqEnable && h.status i) = true ∧
          n = hpetIrqNumber i (h.timer i) ∧ r = false := by
  unfold hpetEnable
  generalize hbase : { h with referenceTime := clock, referenceValue := h.counter } = k
  have htimer : k.timer = h.timer := by rw [← hbase]
  have hstatus : ∀ i, k.status i = h.status i := by
    intro i
    rw [← hbase]
    rfl
  have hk : k.enabled = false := by
    rw [← hbase]
    exact hhalted
  have hturn : ∀ i, (let (g, calls) :=
        if (k.timer i).irqEnable && k.status i then hpetUpdateIrq i true k else (k, [])
      ((g, calls ++ [hpetTimerCall clock i g]) : Hpet × List HpetCall)).1 = k := by
    intro i
    rw [hpetUpdateIrq_of_halted hk]
    dsimp only
    split_ifs
    · rfl
    · rfl
  refine ⟨(hpetForTimers_of_fst ?_).1, fun i n r => ((hpetForTimers_of_fst ?_).2 _).trans ?_⟩
  · exact hturn
  · exact hturn
  constructor
  · rintro ⟨j, hj⟩
    rw [hpetUpdateIrq_of_halted hk] at hj
    dsimp only at hj
    rw [hpetSignal_mem_append_timer, htimer, hstatus] at hj
    split_ifs at hj with htest
    · obtain ⟨rfl, rfl, rfl⟩ := hpetSignal_inj.mp (List.mem_singleton.mp hj)
      exact ⟨htest, rfl, rfl⟩
    · exact absurd hj List.not_mem_nil
  · rintro ⟨htest, rfl, rfl⟩
    refine ⟨i, ?_⟩
    rw [hpetUpdateIrq_of_halted hk]
    dsimp only
    rw [hpetSignal_mem_append_timer, htimer, hstatus, if_pos htest]
    exact List.mem_singleton_self _

lemma hpetDisable_lines :
    (hpetDisable clock h).1 = { h with counter := hpetGetTicks clock h.toHpetReference } ∧
      ∀ i n r, hpetSignal i n r ∈ (hpetDisable clock h).2 ↔
        n = hpetIrqNumber i (h.timer i) ∧ r = false := by
  unfold hpetDisable
  obtain ⟨hfst, hmem⟩ := @hpetForTimers_of_fst
    { h with counter := hpetGetTicks clock h.toHpetReference } hpetDisableTimer fun i => rfl
  refine ⟨hfst, fun i n r => (hmem _).trans ?_⟩
  constructor
  · rintro ⟨j, hj⟩
    obtain hj | hj := List.mem_cons.mp hj
    · exact absurd hj hpetSignal_ne_timer
    · obtain ⟨rfl, rfl, rfl⟩ := hpetSignal_inj.mp
        ((List.mem_singleton.mp hj).trans (show _ = hpetSignal j _ false from rfl))
      exact ⟨rfl, rfl⟩
  · rintro ⟨rfl, rfl⟩
    exact ⟨i, List.mem_cons_of_mem _ (List.mem_singleton_self _)⟩

/-- Legacy replacement is passed to other devices, not to the lines. -/
lemma hpetSignal_mem_append_legacy {i : Fin 3} {n : BitVec 8} {r sets clears : Bool}
    {calls : List HpetCall} :
    hpetSignal i n r ∈ calls ++
        (if sets then [.pitSetInterrupt 0, .cmosSetInterrupt 0]
        else if clears then [.pitSetInterrupt 1, .cmosSetInterrupt 1]
        else []) ↔
      hpetSignal i n r ∈ calls := by
  rw [List.mem_append]
  refine or_iff_left ?_
  cases r <;> split_ifs <;> simp [hpetSignal]

/-- Whichever way the counter goes, the timers and the status stay. -/
lemma hpetWriteConfigure_fst (clock : BitVec 64) (value : BitVec 32) (h : Hpet) :
    (hpetWriteConfigure clock value h).1.timer = h.timer ∧
      (hpetWriteConfigure clock value h).1.interruptStatus = h.interruptStatus := by
  unfold hpetWriteConfigure
  split_ifs with hstart hhalt
  · obtain ⟨-, hhalted⟩ : Word.has value hpetConfigEnabled = true ∧ h.enabled = false := by
      simpa using hstart
    dsimp only
    rw [hpetEnable_lines hhalted |>.1]
    exact ⟨rfl, rfl⟩
  · dsimp only
    rw [hpetDisable_lines.1]
    exact ⟨rfl, rfl⟩
  · exact ⟨rfl, rfl⟩

lemma describes_configure (clock : BitVec 64) (value : BitVec 32) :
    (HpetEvent.configure value).Describes currentTick h (hpetWriteConfigure clock value h).1
      (hpetWriteConfigure clock value h).2 where
  mem_iff i n r := by
    unfold hpetWriteConfigure HpetEvent.signals HpetEvent.block
    dsimp only
    rw [hpetSignal_mem_append_legacy]
    split_ifs with hstart hrequest hhalt
    · have hhalted : h.enabled = false := by simpa using (Bool.and_eq_true_iff.mp hstart).2
      rw [(hpetEnable_lines hhalted).2, List.mem_singleton]
      exact and_iff_right hrequest
    · have hhalted : h.enabled = false := by simpa using (Bool.and_eq_true_iff.mp hstart).2
      rw [(hpetEnable_lines hhalted).2]
      exact iff_of_false (fun hmem => hrequest hmem.1) fun hmem => List.not_mem_nil hmem.2
    · rw [hpetDisable_lines.2, List.mem_singleton]
    · exact iff_of_false List.not_mem_nil fun hmem => List.not_mem_nil hmem.2
  config i _ := by
    rw [(hpetWriteConfigure_fst clock value h).1]
    rfl
  ends_iff i := by
    obtain ⟨htimer, hstatus⟩ := hpetWriteConfigure_fst clock value h
    unfold hpetEnds HpetEvent.Ends Hpet.status
    rw [htimer, hstatus, enabled_hpetWriteConfigure]
    simp

/-! ## A write of the status -/

/-- A loop whose turns see a part of the state each, and do not write each other's, makes the calls
that each turn would make first, and leaves what each would leave. -/
lemma hpetForTimers_of_view {β : Type} {view : Fin 3 → Hpet → β}
    {f : Fin 3 → Hpet → Hpet × List HpetCall}
    (hother : ∀ i j g, j ≠ i → view i (f j g).1 = view i g)
    (hturn : ∀ i g, view i g = view i h →
      (f i g).2 = (f i h).2 ∧ view i (f i g).1 = view i (f i h).1) :
    (∀ c, c ∈ (hpetForTimers f h).2 ↔ ∃ i, c ∈ (f i h).2) ∧
      ∀ i, view i (hpetForTimers f h).1 = view i (f i h).1 := by
  have hone : view 1 (f 0 h).1 = view 1 h := hother 1 0 h (by decide)
  have htwo : view 2 (f 1 (f 0 h).1).1 = view 2 h := by
    rw [hother 2 1 _ (by decide), hother 2 0 h (by decide)]
  unfold hpetForTimers
  dsimp only
  constructor
  · intro c
    rw [(hturn 1 _ hone).1, (hturn 2 _ htwo).1]
    exact mem_three (l := fun i => (f i h).2)
  · intro i
    match i with
    | 0 => rw [hother 0 2 _ (by decide), hother 0 1 _ (by decide)]
    | 1 => rw [hother 1 2 _ (by decide), (hturn 1 _ hone).2]
    | 2 => rw [(hturn 2 _ htwo).2]

/-- What a turn for a timer sees of the state. -/
def hpetView (i : Fin 3) (h : Hpet) : HpetTimer × Bool := (h.timer i, h.status i)

/-- A turn of the loop that clears the status. -/
def hpetStatusTurn (value : BitVec 32) (i : Fin 3) (h : Hpet) : Hpet × List HpetCall :=
  if Word.has value i.val && h.status i then
    ({ h with interruptStatus := Word.clear h.interruptStatus i.val },
      [hpetSignal i (hpetIrqNumber i (h.timer i)) false])
  else (h, [])

lemma hpetWriteStatus_eq (value : BitVec 32) (h : Hpet) :
    hpetWriteStatus value h = hpetForTimers (hpetStatusTurn value) h := rfl

/-- A turn for one timer is not seen by another. -/
lemma hpetView_hpetStatusTurn {i j : Fin 3} (hne : j ≠ i) (value : BitVec 32) (h : Hpet) :
    hpetView i (hpetStatusTurn value j h).1 = hpetView i h := by
  unfold hpetStatusTurn
  split_ifs
  · refine Prod.ext rfl ?_
    unfold hpetView Hpet.status
    dsimp only
    rw [Word.has_clear, decide_eq_false (fun heq => hne (Fin.ext heq)), Bool.not_false,
      Bool.and_true]
  · rfl

lemma hpetStatusTurn_view {value : BitVec 32} {i : Fin 3} {g h : Hpet}
    (hview : hpetView i g = hpetView i h) :
    (hpetStatusTurn value i g).2 = (hpetStatusTurn value i h).2 ∧
      hpetView i (hpetStatusTurn value i g).1 = hpetView i (hpetStatusTurn value i h).1 := by
  obtain ⟨htimer, hstatus⟩ := Prod.mk.inj hview
  unfold hpetStatusTurn
  rw [htimer, hstatus]
  split_ifs
  · refine ⟨rfl, Prod.ext htimer ?_⟩
    unfold hpetView Hpet.status
    dsimp only
    rw [Word.has_clear, Word.has_clear]
    simp
  · exact ⟨rfl, hview⟩

lemma describes_status (value : BitVec 32) :
    (HpetEvent.status value).Describes currentTick h (hpetWriteStatus value h).1
      (hpetWriteStatus value h).2 := by
  have hturns := @hpetForTimers_of_view h _ hpetView (hpetStatusTurn value)
    (fun i j g hne => hpetView_hpetStatusTurn hne value g) fun i g => hpetStatusTurn_view
  rw [← hpetWriteStatus_eq] at hturns
  obtain ⟨hmem, hview⟩ := hturns
  have htimer : ∀ i, (hpetWriteStatus value h).1.timer i = h.timer i := by
    intro i
    refine (congrArg Prod.fst (hview i)).trans ?_
    unfold hpetView hpetStatusTurn
    split_ifs
    · rfl
    · rfl
  have hstatus : ∀ i, (hpetWriteStatus value h).1.status i =
      (h.status i && !Word.has value i.val) := by
    intro i
    refine (congrArg Prod.snd (hview i)).trans ?_
    unfold hpetView hpetStatusTurn
    split_ifs with hselected
    · unfold Hpet.status
      simp_all [Word.has_clear]
    · cases hvalue : Word.has value i.val <;> cases hset : h.status i <;> simp_all
  refine ⟨fun i n r => (hmem _).trans ?_, fun i _ => ?_, fun i => ?_⟩
  · unfold HpetEvent.signals HpetEvent.block
    dsimp only
    constructor
    · rintro ⟨j, hj⟩
      unfold hpetStatusTurn at hj
      split_ifs at hj with hselected
      · obtain ⟨rfl, rfl, rfl⟩ := hpetSignal_inj.mp (List.mem_singleton.mp hj)
        rw [if_pos hselected]
        exact ⟨rfl, List.mem_singleton_self _⟩
      · exact absurd hj List.not_mem_nil
    · rintro ⟨rfl, hr⟩
      refine ⟨i, ?_⟩
      unfold hpetStatusTurn
      split_ifs at hr ⊢
      · rw [List.mem_singleton.mp hr]
        exact List.mem_singleton_self _
      · exact absurd hr List.not_mem_nil
  · rw [htimer]
    rfl
  · have henabled := enabled_of_core (core_hpetWriteStatus value h)
    unfold hpetEnds HpetEvent.Ends
    dsimp only
    rw [htimer, hstatus, henabled]
    cases h.status i <;> cases Word.has value i.val <;> simp

/-! ## A write of the configuration of a timer -/

/-- The state in which the interrupt of a timer that has been configured is updated. -/
def Hpet.configured (i : Fin 3) (b : HpetTimer) (h : Hpet) : Hpet :=
  if b.fsbEnable || !b.level then
    { h.setTimer i b with interruptStatus := Word.clear h.interruptStatus i.val }
  else h.setTimer i b

lemma timer_configured (i : Fin 3) (b : HpetTimer) (h : Hpet) :
    (h.configured i b).timer = (h.setTimer i b).timer := by
  unfold Hpet.configured
  split_ifs
  · rfl
  · rfl

lemma enabled_configured (i : Fin 3) (b : HpetTimer) (h : Hpet) :
    (h.configured i b).enabled = h.enabled := by
  unfold Hpet.configured
  split_ifs
  · rfl
  · rfl

lemma status_configured (i j : Fin 3) (b : HpetTimer) (h : Hpet) :
    (h.configured i b).status j =
      (h.status j && !(decide (j = i) && (b.fsbEnable || !b.level))) := by
  unfold Hpet.configured Hpet.status
  split_ifs with hclear
  · dsimp only
    rw [Word.has_clear, hclear, Bool.and_true]
    have hsame : (i.val = j.val) = (j = i) := propext (Fin.val_inj.trans eq_comm)
    simp only [hsame]
  · rw [Bool.not_eq_true] at hclear
    rw [hclear, Bool.and_false, Bool.not_false, Bool.and_true]
    rfl

/-- Beside the interrupt, the write arms the timer at most. -/
lemma hpetWriteTimerConfig_eq (clock : BitVec 64) (i : Fin 3) (value : BitVec 32) (h : Hpet) :
    ∃ calls, (∀ c ∈ calls, ∃ t, c = .timer t) ∧
      hpetWriteTimerConfig clock i value h =
        if ((h.timer i).configure value).irqEnable && h.enabled then
          ((hpetUpdateIrq i ((h.configured i ((h.timer i).configure value)).status i)
              (h.configured i ((h.timer i).configure value))).1,
            (hpetUpdateIrq i ((h.configured i ((h.timer i).configure value)).status i)
              (h.configured i ((h.timer i).configure value))).2 ++ calls)
        else (h.configured i ((h.timer i).configure value), calls) := by
  have hdef : hpetWriteTimerConfig clock i value h =
      (let k := h.configured i ((h.timer i).configure value)
      let r := if ((h.timer i).configure value).irqEnable && k.enabled then
        hpetUpdateIrq i (k.status i) k else (k, [])
      (r.1, if r.1.enabled then r.2 ++ [hpetTimerCall clock i r.1] else r.2)) := rfl
  have hk := enabled_configured i ((h.timer i).configure value) h
  rw [hdef]
  generalize h.configured i ((h.timer i).configure value) = k at hk ⊢
  generalize (h.timer i).configure value = b
  dsimp only
  have hlast : (hpetUpdateIrq i (k.status i) k).1.enabled = h.enabled :=
    (enabled_of_core (core_hpetUpdateIrq ..)).trans hk
  rw [hk]
  by_cases hupdate : (b.irqEnable && h.enabled) = true
  · have henabled : h.enabled = true := (Bool.and_eq_true_iff.mp hupdate).2
    simp only [if_pos hupdate, hlast, if_pos henabled]
    refine ⟨[hpetTimerCall clock i (hpetUpdateIrq i (k.status i) k).1], fun c hc => ?_, rfl⟩
    exact ⟨_, List.mem_singleton.mp hc⟩
  · simp only [if_neg hupdate, hk]
    split_ifs
    · refine ⟨[hpetTimerCall clock i k], fun c hc => ?_, rfl⟩
      exact ⟨_, List.mem_singleton.mp hc⟩
    · exact ⟨[], fun c hc => absurd hc List.not_mem_nil, rfl⟩

/-- Updating an interrupt by the status that it has leaves the status. -/
lemma status_hpetUpdateIrq_status (i j : Fin 3) (k : Hpet) :
    (hpetUpdateIrq i (k.status i) k).1.status j = k.status j := by
  rw [hpetUpdateIrq_fst]
  unfold Hpet.status
  dsimp only
  split_ifs with hset
  · rw [Word.has_set]
    by_cases hij : i = j
    · subst hij
      have hhas : Word.has k.interruptStatus i.val = true := by
        simp only [Bool.and_eq_true] at hset
        exact hset.1.1
      rw [hhas, Bool.true_or]
    · rw [decide_eq_false fun heq => hij (Fin.ext heq), Bool.false_and, Bool.or_false]
  · rfl

lemma hpetWriteTimerConfig_fst (clock : BitVec 64) (j : Fin 3) (value : BitVec 32) (h : Hpet) :
    (hpetWriteTimerConfig clock j value h).1.timer =
        (h.setTimer j ((h.timer j).configure value)).timer ∧
      (∀ i, (hpetWriteTimerConfig clock j value h).1.status i =
        (h.configured j ((h.timer j).configure value)).status i) ∧
      (hpetWriteTimerConfig clock j value h).1.enabled = h.enabled := by
  obtain ⟨calls, -, heq⟩ := hpetWriteTimerConfig_eq clock j value h
  have henabled := enabled_configured j ((h.timer j).configure value) h
  have htimer := timer_configured j ((h.timer j).configure value) h
  rw [heq]
  split_ifs
  · dsimp only
    refine ⟨?_, fun i => status_hpetUpdateIrq_status j i _, ?_⟩
    · rw [timer_hpetUpdateIrq, htimer]
    · rw [enabled_of_core (core_hpetUpdateIrq ..), henabled]
  · exact ⟨htimer, fun i => rfl, henabled⟩

lemma describes_timerConfig (clock : BitVec 64) (j : Fin 3) (value : BitVec 32) :
    (HpetEvent.timerConfig j value).Describes currentTick h
      (hpetWriteTimerConfig clock j value h).1 (hpetWriteTimerConfig clock j value h).2 := by
  obtain ⟨htimer, hstatus, henabled⟩ := hpetWriteTimerConfig_fst clock j value h
  refine ⟨fun i n r => ?_, fun i hmem => ?_, fun i => ?_⟩
  · obtain ⟨calls, hcalls, heq⟩ := hpetWriteTimerConfig_eq clock j value h
    have hnot : hpetSignal i n r ∉ calls := by
      intro hmem
      obtain ⟨t, ht⟩ := hcalls _ hmem
      exact hpetSignal_ne_timer ht
    rw [heq]
    unfold HpetEvent.signals HpetEvent.block
    dsimp only
    by_cases hij : i = j
    · subst hij
      rw [if_pos rfl]
      split_ifs with hupdate hevent hevent
      · rw [List.mem_append, or_iff_left hnot, mem_hpetUpdateIrq, timer_configured,
          Hpet.timer_setTimer_self, status_configured, enabled_configured, hevent.2.2,
          decide_eq_true rfl, Bool.true_and]
        exact and_iff_right rfl
      · exact absurd ⟨rfl, Bool.and_eq_true_iff.mp hupdate⟩ hevent
      · exact absurd (Bool.and_eq_true_iff.mpr hevent.2) hupdate
      · exact iff_of_false hnot fun hmem => List.not_mem_nil hmem.2
    · have hevent : ¬(i = j ∧ ((h.timer i).configure value).irqEnable = true ∧
          h.enabled = true) := fun hevent => hij hevent.1
      rw [if_neg hij, if_neg hevent]
      refine iff_of_false ?_ fun hmem => List.not_mem_nil hmem.2
      split_ifs
      · rw [List.mem_append, or_iff_left hnot, mem_hpetUpdateIrq]
        exact fun hmem => hij hmem.1
      · exact hnot
  · unfold HpetEvent.signals at hmem
    unfold HpetEvent.block
    dsimp only at hmem ⊢
    split_ifs at hmem with hevent
    · obtain ⟨rfl, -⟩ := hevent
      rw [htimer, if_pos rfl, Hpet.timer_setTimer_self]
    · exact absurd hmem List.not_mem_nil
  · unfold hpetEnds HpetEvent.Ends
    dsimp only
    rw [htimer, hstatus, henabled, status_configured]
    by_cases hij : i = j
    · subst hij
      rw [Hpet.timer_setTimer_self, decide_eq_true rfl, Bool.true_and]
      cases h.status i <;> cases ((h.timer i).configure value).fsbEnable <;> simp
    · rw [Hpet.timer_setTimer_of_ne hij, decide_eq_false hij]
      simp [hij]

/-! ## An expiry -/

lemma describes_expire {j : Fin 3} (hhandler : hpetTimerHandler clock j h = .ok (g, calls)) :
    (HpetEvent.expire j).Describes (hpetGetTicks clock h.toHpetReference) h g calls := by
  have henabled := enabled_of_core (core_hpetTimerHandler hhandler)
  obtain ⟨r, fired, hfire, rfl, rfl⟩ := hpetTimerHandler_eq_ok.mp hhandler
  -- the status only grows, and the configuration stays
  have hfired : (∀ i n q, hpetSignal i n q ∈ fired ↔ n = hpetIrqNumber i (h.timer i) ∧
        q ∈ (HpetEvent.expire j).signals (hpetGetTicks clock h.toHpetReference) h i) ∧
      (∀ i, h.status i = true → r.status i = true) ∧
      ∀ i, (r.timer i).configCapabilities = (h.timer i).configCapabilities := by
    unfold HpetEvent.signals
    dsimp only
    split_ifs at hfire with hfires
    · obtain ⟨rfl, hstatus, hkeep⟩ := hpetFire_effect hfire
      refine ⟨fun i n q => ?_, fun i hset => ?_, fun i => (hkeep i).2⟩
      · rw [mem_hpetUpdateIrq]
        by_cases hij : i = j
        · subst hij
          rw [if_pos ⟨rfl, hfires⟩]
          exact and_iff_right rfl
        · have hevent : ¬(i = j ∧ (h.timer i).Fires (hpetGetTicks clock h.toHpetReference)) :=
            fun hevent => hij hevent.1
          rw [if_neg hevent]
          exact iff_of_false (fun hmem => hij hmem.1) fun hmem => List.not_mem_nil hmem.2
      · unfold Hpet.status at hset ⊢
        rw [hstatus, hpetUpdateIrq_fst]
        dsimp only
        split_ifs
        · rw [Word.has_set, hset, Bool.true_or]
        · exact hset
    · obtain ⟨rfl, rfl⟩ := Prod.mk.inj (Except.ok.inj hfire)
      refine ⟨fun i n q => ?_, fun i hset => hset, fun i => rfl⟩
      have hevent : ¬(i = j ∧ (h.timer i).Fires (hpetGetTicks clock h.toHpetReference)) := by
        rintro ⟨rfl, hi⟩
        exact hfires hi
      rw [if_neg hevent]
      exact iff_of_false List.not_mem_nil fun hmem => List.not_mem_nil hmem.2
  obtain ⟨hmem, hstatus, hconfig⟩ := hfired
  have hkept : ∀ i, ((r.setTimer j { r.timer j with
      lastTimeChecked := hpetGetTicks clock h.toHpetReference }).timer i).configCapabilities =
        (h.timer i).configCapabilities := by
    intro i
    by_cases hij : i = j
    · subst hij
      rw [Hpet.timer_setTimer_self]
      exact hconfig i
    · rw [Hpet.timer_setTimer_of_ne hij]
      exact hconfig i
  refine ⟨fun i n q => ?_, fun i _ => hkept i, fun i => ?_⟩
  · rw [hpetSignal_mem_append_timer]
    exact hmem i n q
  · refine iff_of_false ?_ not_false
    rintro (⟨hset, hclear⟩ | ⟨hirq, hirq'⟩ | ⟨hruns, hhalted⟩)
    · have hstill := hstatus i hset
      exact absurd (hstill.symm.trans hclear) (by decide)
    · unfold HpetTimer.irqEnable at hirq hirq'
      rw [hkept i, hirq] at hirq'
      exact absurd hirq' (by decide)
    · rw [henabled, hruns] at hhalted
      exact absurd hhalted (by decide)

/-! ## The other writes -/

/-- Rewriting a timer but for its enable bit is no event. -/
lemma describes_setTimer {i : Fin 3} {b : HpetTimer} (hcalls : ∀ c ∈ calls, ∃ t, c = .timer t)
    (hirq : b.irqEnable = (h.timer i).irqEnable) :
    HpetEvent.other.Describes currentTick h (h.setTimer i b) calls := by
  refine describes_other (fun k n r hmem => ?_) (fun k => rfl) (fun k => ?_) rfl
  · obtain ⟨t, ht⟩ := hcalls _ hmem
    exact hpetSignal_ne_timer ht
  · by_cases hk : k = i
    · subst hk
      rw [Hpet.timer_setTimer_self]
      exact hirq
    · rw [Hpet.timer_setTimer_of_ne hk]

lemma timer_of_mem_ite {arms : Prop} [Decidable arms] {t : TimerCall} {c : HpetCall}
    (hc : c ∈ if arms then [HpetCall.timer t] else []) : ∃ t, c = .timer t := by
  split_ifs at hc
  · exact ⟨t, List.mem_singleton.mp hc⟩
  · exact absurd hc List.not_mem_nil

lemma describes_comparator (clock : BitVec 64) (i : Fin 3) (half : BitVec 64 → BitVec 64) :
    HpetEvent.other.Describes currentTick h (hpetWriteComparator clock i half h).1
      (hpetWriteComparator clock i half h).2 := by
  unfold hpetWriteComparator
  dsimp only
  refine describes_setTimer (fun c hc => timer_of_mem_ite hc) ?_
  · unfold HpetTimer.irqEnable
    rw [Word.has_clear]
    simp [hpetTimerConfValueSet, hpetTimerConfIrqEnable]

/-- A state with the same status, the same enable bits and the same configuration. -/
lemma describes_same (hstatus : g.interruptStatus = h.interruptStatus)
    (htimer : ∀ i, (g.timer i).irqEnable = (h.timer i).irqEnable)
    (henabled : g.enabled = h.enabled) : HpetEvent.other.Describes currentTick h g [] :=
  describes_other (fun _ _ _ => List.not_mem_nil) (fun i => congrArg (Word.has · i.val) hstatus)
    htimer henabled

lemma describes_timer {register : BitVec 32} (hregister : register ≠ 0x00) (clock : BitVec 64)
    (i : Fin 3) (value : BitVec 32) :
    HpetEvent.other.Describes currentTick h (hpetWriteTimer clock i register value h).1
      (hpetWriteTimer clock i register value h).2 := by
  have hnone : ∀ c ∈ ([] : List HpetCall), ∃ t, c = .timer t := fun c hc =>
    absurd hc List.not_mem_nil
  unfold hpetWriteTimer
  dsimp only
  rw [if_neg hregister]
  split_ifs
  · exact describes_comparator clock i _
  · exact describes_same rfl (fun _ => rfl) rfl
  · exact describes_comparator clock i _
  · exact describes_setTimer hnone rfl
  · exact describes_setTimer hnone rfl
  · exact describes_same rfl (fun _ => rfl) rfl

lemma describes_counterHigh (value : BitVec 32) :
    HpetEvent.other.Describes currentTick h (hpetWriteCounterHigh value h) [] := by
  unfold hpetWriteCounterHigh
  split_ifs
  · exact describes_same rfl (fun _ => rfl) rfl
  · exact describes_same rfl (fun _ => rfl) rfl

lemma describes_counterLow (value : BitVec 32) :
    HpetEvent.other.Describes currentTick h (hpetWriteCounterLow value h) [] := by
  unfold hpetWriteCounterLow hpetWriteCounterHigh
  split_ifs
  all_goals exact describes_same rfl (fun _ => rfl) rfl

/-- Every step is described by its event. -/
lemma hpetLineAct_describes {op : HpetLineOp} (hact : hpetLineAct h (clock, op) = .ok (g, calls)) :
    op.event.Describes (hpetGetTicks clock h.toHpetReference) h g calls := by
  cases op with
  | expire i => exact describes_expire hact
  | write address value =>
      have hwrite : hpetWrite clock address value h = (g, calls) := Except.ok.inj hact
      have hg : (hpetWrite clock address value h).1 = g := congrArg Prod.fst hwrite
      have hcalls : (hpetWrite clock address value h).2 = calls := congrArg Prod.snd hwrite
      rw [← hg, ← hcalls]
      unfold hpetWrite HpetLineOp.event
      dsimp only
      by_cases hglobal : (address &&& 0x3ff).toNat < 0x100
      · rw [if_pos hglobal, if_pos hglobal]
        by_cases hconfigure : address &&& 0x3ff = 0x010
        · rw [if_pos hconfigure, if_pos hconfigure]
          exact describes_configure clock value
        · rw [if_neg hconfigure, if_neg hconfigure]
          by_cases hstatus : address &&& 0x3ff = 0x020
          · rw [if_pos hstatus, if_pos hstatus]
            exact describes_status value
          · rw [if_neg hstatus, if_neg hstatus]
            split_ifs
            · exact describes_counterLow value
            · exact describes_counterHigh value
            · exact describes_same rfl (fun _ => rfl) rfl
      · rw [if_neg hglobal, if_neg hglobal]
        cases hpetTimerIndex (address &&& 0x3ff) with
        | none => exact describes_same rfl (fun _ => rfl) rfl
        | some i =>
            dsimp only
            by_cases hregister : address &&& 0x3ff &&& 0x1f = 0x00
            · rw [if_pos hregister]
              unfold hpetWriteTimer
              dsimp only
              rw [if_pos hregister]
              exact describes_timerConfig clock i value
            · rw [if_neg hregister]
              exact describes_timer hregister clock i value

end Events

/-! ## The lines -/

/-- Calls that raise nothing leave no line held exactly if they lower each that was. -/
lemma hold_eq_nil_iff {g : Hpet} {calls : List HpetCall} {held : Fin 3 → List (BitVec 8)}
    (hraise : ∀ j n, .raiseIrq j n ∉ calls) (i : Fin 3) :
    calls.foldl (HpetCall.hold g) held i = [] ↔
      ∀ n ∈ held i, ∃ j, .lowerIrq j n ∈ calls := by
  induction calls generalizing held with
  | nil => simp [List.eq_nil_iff_forall_not_mem]
  | cons c cs ih =>
      have hrest : ∀ j n, .raiseIrq j n ∉ cs := fun j n hmem =>
        hraise j n (List.mem_cons_of_mem _ hmem)
      rw [List.foldl_cons, ih hrest]
      cases c with
      | raiseIrq j n => exact absurd (List.mem_cons_self ..) (hraise j n)
      | lowerIrq k m =>
          simp only [HpetCall.hold, List.mem_filter, decide_eq_true_eq, List.mem_cons,
            HpetCall.lowerIrq.injEq]
          constructor
          · intro hall n hn
            by_cases hnm : n = m
            · exact ⟨k, .inl ⟨rfl, hnm⟩⟩
            · obtain ⟨j, hj⟩ := hall n ⟨hn, hnm⟩
              exact ⟨j, .inr hj⟩
          · rintro hall n ⟨hn, hnm⟩
            obtain ⟨j, ⟨-, heq⟩ | hj⟩ := hall n hn
            · exact absurd heq hnm
            · exact ⟨j, hj⟩
      | store address value => simp [HpetCall.hold]
      | pitSetInterrupt enable => simp [HpetCall.hold]
      | cmosSetInterrupt enable => simp [HpetCall.hold]
      | timer t => simp [HpetCall.hold]

lemma hpetIrqNumber_eq_line (i : Fin 3) (b : HpetTimer) : hpetIrqNumber i b = b.line i := rfl

/-- The line that the code works out is the one that is configured exactly if the level bit agrees
with legacy replacement. -/
lemma hpetIrqNumber_eq_iff (legacy : Bool) (i : Fin 3) (b : HpetTimer) :
    hpetIrqNumber i b = hpetConfiguredLine legacy i b ↔ b.LineAgrees legacy i := by
  rw [hpetIrqNumber_eq_line]
  unfold HpetTimer.line hpetConfiguredLine HpetTimer.LineAgrees
  cases b.level <;> cases hconfigured : (legacy && decide (i ≠ 2)) <;> simp [eq_comm]

/-- An event that ends the interrupts of a timer raises no line. -/
lemma HpetEvent.Ends.not_raises {e : HpetEvent} {currentTick : BitVec 64} {h : Hpet} {i : Fin 3}
    (hends : e.Ends h i) (j : Fin 3) : true ∉ e.signals currentTick h j := by
  cases e with
  | configure value =>
      unfold HpetEvent.signals
      dsimp only
      split_ifs <;> simp
  | status value =>
      unfold HpetEvent.signals
      dsimp only
      split_ifs <;> simp
  | timerConfig k value =>
      obtain ⟨rfl, hends⟩ := hends
      have hlowers : ((h.timer i).configure value).irqEnable = true →
          (h.status i && !(((h.timer i).configure value).fsbEnable ||
            !((h.timer i).configure value).level)) = false := by
        intro hirq
        obtain ⟨-, hclear⟩ | ⟨-, hdisable⟩ := hends
        · rw [hclear, Bool.not_true, Bool.and_false]
        · exact absurd (hirq.symm.trans hdisable) (by decide)
      unfold HpetEvent.signals
      dsimp only
      split_ifs with hupdate
      · obtain ⟨rfl, hirq, -⟩ := hupdate
        rw [hlowers hirq]
        simp [HpetTimer.signals]
      · exact List.not_mem_nil
  | expire k => exact hends.elim
  | other => exact hends.elim

/-- One step is right exactly if level bits and lines agree. -/
lemma hpetLinesRight_iff {s : HpetLines} {a : BitVec 64 × HpetLineOp} {t : HpetLines}
    (hstep : hpetLineStep s a = .ok t) : hpetLinesRight s a ↔ hpetLinesAgree s a := by
  obtain ⟨clock, op⟩ := a
  obtain ⟨⟨g, calls⟩, hact, -⟩ := bind_eq_ok.mp hstep
  have hevent := hpetLineAct_describes hact
  have hunique : hpetLinesRight s (clock, op) ↔
      (∀ i n, hpetSignal i n true ∈ calls →
        n = hpetConfiguredLine s.hpet.legacy i (g.timer i)) ∧
      ∀ i, hpetEnds s.hpet g i → calls.foldl (HpetCall.hold g) s.held i = [] := by
    constructor
    · exact fun hright => hright g calls hact
    · rintro hright g' calls' hact'
      obtain ⟨rfl, rfl⟩ := Prod.mk.inj (Except.ok.inj (hact.symm.trans hact'))
      exact hright
  rw [hunique]
  refine and_congr (forall_congr' fun i => ?_) (forall_congr' fun i => ?_)
  · -- a raise, on the line that the code works out
    simp only [hevent.mem_iff]
    constructor
    · intro hlines hraise
      have hconfig := hevent.config i hraise
      have hline := hlines _ ⟨rfl, hraise⟩
      unfold hpetConfiguredLine HpetTimer.route at hline
      rw [hconfig] at hline
      exact (hpetIrqNumber_eq_iff s.hpet.legacy i _).mp hline
    · rintro hagree n ⟨rfl, hraise⟩
      have hline := (hpetIrqNumber_eq_iff s.hpet.legacy i _).mpr (hagree hraise)
      rw [hline]
      unfold hpetConfiguredLine HpetTimer.route
      rw [hevent.config i hraise]
  · rw [hevent.ends_iff]
    refine imp_congr_right fun hends => ?_
    have hraise : ∀ j n, .raiseIrq j n ∉ calls := fun j n hmem =>
      hends.not_raises j ((hevent.mem_iff j n true).mp hmem).2
    rw [hold_eq_nil_iff hraise]
    refine forall_congr' fun n => imp_congr_right fun _ => exists_congr fun j => ?_
    rw [← hpetIrqNumber_eq_line]
    exact (hevent.mem_iff j n false).trans and_comm

/-- In a run of writes and expiries, every interrupt goes to the line that its timer is configured
for and every line is lowered when the interrupts of its timer end, exactly if in every step the
level bit of each timer that raises a line agrees with legacy replacement, and each line still held
by a timer whose interrupts end is one that the step lowers. -/
theorem hpet_lines_right_iff {s t : HpetLines} {ops : List (BitVec 64 × HpetLineOp)}
    (hrun : run hpetLineStep s ops = .ok t) :
    Meets hpetLineStep hpetLinesRight s ops ↔ Meets hpetLineStep hpetLinesAgree s ops :=
  Meets.congr_of_run (fun _ _ _ => hpetLinesRight_iff) hrun

instance (h : Hpet) : (e : HpetEvent) → (i : Fin 3) → Decidable (e.Ends h i)
  | .configure _, _ => inferInstanceAs (Decidable (_ ∧ _))
  | .status _, _ => inferInstanceAs (Decidable (_ ∧ _))
  | .timerConfig _ _, _ => inferInstanceAs (Decidable (_ ∧ _))
  | .expire _, _ => inferInstanceAs (Decidable False)
  | .other, _ => inferInstanceAs (Decidable False)

instance (legacy : Bool) (i : Fin 3) (b : HpetTimer) : Decidable (b.LineAgrees legacy i) :=
  inferInstanceAs (Decidable (_ ∨ _))

instance (s : HpetLines) (a : BitVec 64 × HpetLineOp) : Decidable (hpetLinesAgree s a) :=
  inferInstanceAs (Decidable (_ ∧ _))

/-- The HPET after `HpetInitialize`, and no line held. -/
def HpetLines.initial : HpetLines where
  hpet := Hpet.initial fun _ => 0
  held := fun _ => []

/-- In legacy replacement, a level interrupt of the first timer that is acknowledged, and one that
ends with the HPET. -/
theorem hpet_lines_right_in_legacy_mode :
    ∃ t, run hpetLineStep .initial
        [(0, .write 0x100 0x06), (0, .write 0x10 3), (500, .expire 0), (600, .write 0x20 1),
          (900, .expire 0), (950, .write 0x10 2)] = .ok t ∧
      Meets hpetLineStep hpetLinesRight .initial
        [(0, .write 0x100 0x06), (0, .write 0x10 3), (500, .expire 0), (600, .write 0x20 1),
          (900, .expire 0), (950, .write 0x10 2)] :=
  exists_of_completes (by decide) fun t ht => (hpet_lines_right_iff ht).mpr (by decide)

/-- Outside of legacy replacement, the level interrupt of a timer with the route 5 goes to line 0,
and once the timer is set to edge and masked, the line stays. -/
theorem hpet_level_line_stuck :
    (∃ t, run hpetLineStep .initial
        [(0, .write 0x100 0x0a06), (0, .write 0x10 1), (500, .expire 0),
          (600, .write 0x100 0x0a00)] = .ok t ∧
      t.held 0 = [0] ∧ t.hpet.legacy = false ∧ t.hpet.status 0 = false) ∧
    ¬Meets hpetLineStep hpetLinesRight .initial
        [(0, .write 0x100 0x0a06), (0, .write 0x10 1), (500, .expire 0),
          (600, .write 0x100 0x0a00)] := by
  have hruns : ∃ t, run hpetLineStep .initial
      [(0, .write 0x100 0x0a06), (0, .write 0x10 1), (500, .expire 0),
        (600, .write 0x100 0x0a00)] = .ok t ∧
      t.held 0 = [0] ∧ t.hpet.legacy = false ∧ t.hpet.status 0 = false :=
    exists_of_ends (fun t : HpetLines =>
      t.held 0 = [0] ∧ t.hpet.legacy = false ∧ t.hpet.status 0 = false) (by decide)
  refine ⟨hruns, fun hright => ?_⟩
  obtain ⟨t, ht, -⟩ := hruns
  have hagree := (Meets.congr_of_run (fun _ _ _ => hpetLinesRight_iff) ht).mp hright
  exact absurd hagree (by decide)

end Svmm
