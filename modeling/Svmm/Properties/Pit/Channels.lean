import Svmm.Properties.Pit.Divisors

/-!
# The three counters

A control word acts on the counter it selects.  The data ports select with one bit of the port
number, so that port 0x41 acts on counter 0, and `PitSetGate` writes the gate of counter 2 whatever
counter it is called for.  An access is to its own counter if that holds whatever the others hold.
-/

namespace Svmm

open TransitionRun

/-- The accesses to one counter. -/
inductive PitAccess where
  | read (channel : Fin 3)
  | write (channel : Fin 3) (value : BitVec 32)
  /-- A control word that selects the counter. -/
  | control (channel : Fin 3) (value : BitVec 32)
      (selects : (value >>> 6) &&& 3 = BitVec.ofNat 32 channel)
  /-- A call of `PitSetGate`. -/
  | gate (channel : Fin 3) (value : BitVec 32)

/-- The data port of a counter. -/
def pitDataPort (channel : Fin 3) : BitVec 32 := 0x40 + BitVec.ofNat 32 channel

/-- A read of a counter. -/
def PitCounter.read (clock : BitVec 64) (c : PitCounter) : PitOutcome (BitVec 32 × PitCounter) :=
  if c.statusLatched ≠ 0 then .ok (c.statusLatch.setWidth 32, { c with statusLatched := 0 })
  else if c.countLatched ≠ 0 then .ok c.readLatch
  else c.readCount clock

namespace PitAccess

def channel : PitAccess → Fin 3
  | read channel => channel
  | write channel _ => channel
  | control channel _ _ => channel
  | gate channel _ => channel

/-- What happens at an access, with the value that is read. -/
def perform (clock : BitVec 64) (p : Pit) :
    PitAccess → PitOutcome (BitVec 32 × Pit × List DeviceCall)
  | read channel => do
      let (value, p) ← pitReadHandler clock (pitDataPort channel) p
      return (value, p, [])
  | write channel value => do return (0, ← pitWriteHandler clock (pitDataPort channel) value p)
  | control _ value _ => do return (0, ← pitWriteHandler clock 0x43 value p)
  | gate channel value => do return (0, ← pitSetGate clock channel value p)

/-- The access does what it is for to its counter. -/
def Acts (clock : BitVec 64) (p : Pit) : PitAccess → Prop
  | read channel => (read channel).perform clock p = do
      let (value, c) ← (p.counter channel).read clock
      return (value, p.setCounter channel c, [])
  | write channel value =>
      (write channel value).perform clock p = do return (0, ← pitWriteCount clock channel value p)
  | control channel value selects => (control channel value selects).perform clock p = do
      return (0, p.setCounter channel (← pitControlOne clock value (p.counter channel)), [])
  | gate channel value => ∀ r, (gate channel value).perform clock p = .ok r →
      (r.2.1.counter channel).gate = value.setWidth 8

/-- Whatever the other counters hold, the access acts on its own and leaves them as they are. -/
def OnItsCounter (clock : BitVec 64) (p : Pit) (a : PitAccess) : Prop :=
  ∀ q : Pit, q.counter a.channel = p.counter a.channel →
    a.Acts clock q ∧
      ∀ r, a.perform clock q = .ok r → ∀ d ≠ a.channel, r.2.1.counter d = q.counter d

/-- The access is not to data port 0x41, and `PitSetGate` is called for counter 2; or it stops the
program at a restart that divides by zero. -/
def Reaches (p : Pit) : PitAccess → Prop
  | read channel => channel ≠ 1
  | write channel _ => channel ≠ 1
  | control _ _ _ => True
  | gate channel value =>
      channel = 2 ∨
        (p.counter channel).gate.setWidth 32 < value ∧ ¬(p.counter channel).CountOk

end PitAccess

/-! ## Where a write goes -/

section Frames

variable {clock : BitVec 64} {channel d : Fin 3} {p q : Pit} {calls : List DeviceCall}

lemma counter_pitIrqTimerUpdate {time : BitVec 64} {timer : Bool}
    (h : pitIrqTimerUpdate channel time timer p = .ok (q, calls)) (hd : d ≠ channel) :
    q.counter d = p.counter d := by
  obtain ⟨n, rfl⟩ := pitIrqTimerUpdate_eq_ok h
  exact Pit.counter_setCounter_of_ne hd

lemma counter_pitLoadCount {value : BitVec 32}
    (h : pitLoadCount clock channel value p = .ok (q, calls)) (hd : d ≠ channel) :
    q.counter d = p.counter d := by
  unfold pitLoadCount at h
  rw [counter_pitIrqTimerUpdate h hd]
  exact Pit.counter_setCounter_of_ne hd

/-- A write of a count changes its counter only. -/
lemma counter_pitWriteCount {value : BitVec 32}
    (h : pitWriteCount clock channel value p = .ok (q, calls)) (hd : d ≠ channel) :
    q.counter d = p.counter d := by
  unfold pitWriteCount at h
  dsimp only at h
  split_ifs at h
  · exact counter_pitLoadCount h hd
  · obtain ⟨rfl, -⟩ := Prod.mk.inj (Except.ok.inj h)
    exact Pit.counter_setCounter_of_ne hd
  · obtain ⟨⟨r, loaded⟩, hload, hrest⟩ := bind_eq_ok.mp h
    obtain ⟨rfl, -⟩ := Prod.mk.inj (Except.ok.inj hrest)
    rw [Pit.counter_setCounter_of_ne hd]
    exact counter_pitLoadCount hload hd
  · exact counter_pitLoadCount h hd

/-- `PitSetGate` restarts its counter and writes the gate of counter 2. -/
lemma pitSetGate_eq_ok {value : BitVec 32}
    (h : pitSetGate clock channel value p = .ok (q, calls)) :
    ∃ r : Pit, q = r.setCounter 2 { r.counter 2 with gate := value.setWidth 8 } ∧
      ∀ d ≠ channel, r.counter d = p.counter d := by
  unfold pitSetGate at h
  dsimp only at h
  split_ifs at h
  · obtain ⟨⟨r, restarted⟩, hrestart, hrest⟩ := bind_eq_ok.mp h
    obtain ⟨rfl, -⟩ := Prod.mk.inj (Except.ok.inj hrest)
    refine ⟨r, rfl, fun d hd => ?_⟩
    rw [counter_pitIrqTimerUpdate hrestart hd]
    exact Pit.counter_setCounter_of_ne hd
  · obtain ⟨rfl, -⟩ := Prod.mk.inj (Except.ok.inj h)
    exact ⟨p, rfl, fun _ _ => rfl⟩

end Frames

/-! ## The data ports -/

lemma pitReadHandler_eq {clock : BitVec 64} {address : BitVec 32} {p : Pit}
    (hport : address ≠ 0x61) :
    pitReadHandler clock address p = do
      let (value, c) ← (p.counter (pitPortChannel address)).read clock
      return (value, p.setCounter (pitPortChannel address) c) := by
  unfold pitReadHandler PitCounter.read
  rw [if_neg hport]
  dsimp only
  split_ifs <;> rfl

lemma pitDataPort_ne (channel : Fin 3) : pitDataPort channel ≠ 0x61 := by
  revert channel
  decide

lemma pitDataPort_cases (channel : Fin 3) :
    pitDataPort channel = 0x40 ∨ pitDataPort channel = 0x41 ∨ pitDataPort channel = 0x42 := by
  revert channel
  decide

/-- Only the middle data port selects another counter. -/
lemma pitPortChannel_dataPort {channel : Fin 3} (hne : channel ≠ 1) :
    pitPortChannel (pitDataPort channel) = channel := by
  revert channel
  decide

lemma pitWriteHandler_dataPort {clock : BitVec 64} {value : BitVec 32} {p : Pit}
    (channel : Fin 3) :
    pitWriteHandler clock (pitDataPort channel) value p =
      pitWriteCount clock (pitPortChannel (pitDataPort channel)) value p := by
  unfold pitWriteHandler
  rw [if_pos (pitDataPort_cases channel)]

/-- A control word for one counter. -/
lemma pitWriteHandler_control {clock : BitVec 64} {value : BitVec 32} {p : Pit} {channel : Fin 3}
    (selects : (value >>> 6) &&& 3 = BitVec.ofNat 32 channel) :
    pitWriteHandler clock 0x43 value p = do
      return (p.setCounter channel (← pitControlOne clock value (p.counter channel)), []) := by
  have hone : ∀ c : Fin 3, BitVec.ofNat 32 c.val ≠ 3 := by decide
  have hchannel : ∀ c : Fin 3, (if BitVec.ofNat 32 c.val = 0 then (0 : Fin 3)
      else if BitVec.ofNat 32 c.val = 1 then 1 else 2) = c := by decide
  unfold pitWriteHandler
  rw [if_neg (by decide), if_pos rfl]
  unfold pitWriteControl
  dsimp only
  rw [selects, if_neg (hone channel), hchannel channel]

namespace PitAccess

variable {clock : BitVec 64} {p : Pit}

/-! ## The accesses -/

lemma onItsCounter_read {channel : Fin 3} :
    (read channel).OnItsCounter clock p ↔ channel ≠ 1 := by
  constructor
  · rintro hits rfl
    -- a latched status of counter 0 is delivered and released
    let q := p.setCounter 0 { p.counter 0 with statusLatched := 1 }
    obtain ⟨-, hothers⟩ := hits q (Pit.counter_setCounter_of_ne (by decide))
    have hread := hothers (_, q.setCounter 0 { q.counter 0 with statusLatched := 0 }, []) rfl 0
      (by decide)
    have hstatus := congrArg PitCounter.statusLatched hread
    exact absurd hstatus (by simp [q])
  · intro hne q hq
    have hperform : (read channel).perform clock q = do
        let (value, c) ← (q.counter channel).read clock
        return (value, q.setCounter channel c, []) := by
      dsimp only [perform]
      rw [pitReadHandler_eq (pitDataPort_ne channel), pitPortChannel_dataPort hne]
      cases (q.counter channel).read clock <;> rfl
    refine ⟨hperform, fun r hr d hd => ?_⟩
    rw [hperform] at hr
    obtain ⟨⟨value, c⟩, -, hrest⟩ := bind_eq_ok.mp hr
    obtain rfl := Except.ok.inj hrest
    exact Pit.counter_setCounter_of_ne hd

lemma onItsCounter_write {channel : Fin 3} {value : BitVec 32} :
    (write channel value).OnItsCounter clock p ↔ channel ≠ 1 := by
  constructor
  · rintro hits rfl
    -- counter 0 takes the low byte of a word
    let q := p.setCounter 0 { p.counter 0 with writeState := rwStateWord0 }
    obtain ⟨-, hothers⟩ := hits q (Pit.counter_setCounter_of_ne (show (1 : Fin 3) ≠ 0 by decide))
    have hwrite := hothers
      (_, q.setCounter 0 { q.counter 0 with
        inlatch := (value.setWidth 8).setWidth 16, writeState := rwStateWord1 }, []) rfl 0
      (show (0 : Fin 3) ≠ 1 by decide)
    have hstate := congrArg PitCounter.writeState hwrite
    exact absurd hstate (by simp [q, rwStateWord0, rwStateWord1])
  · intro hne q hq
    have hperform : (write channel value).perform clock q = do
        return (0, ← pitWriteCount clock channel value q) := by
      dsimp only [perform]
      rw [pitWriteHandler_dataPort, pitPortChannel_dataPort hne]
    refine ⟨hperform, fun r hr d hd => ?_⟩
    rw [hperform] at hr
    obtain ⟨⟨q', calls⟩, hwrite, hrest⟩ := bind_eq_ok.mp hr
    obtain rfl := Except.ok.inj hrest
    exact counter_pitWriteCount hwrite hd

lemma onItsCounter_control {channel : Fin 3} {value : BitVec 32}
    (selects : (value >>> 6) &&& 3 = BitVec.ofNat 32 channel) :
    (control channel value selects).OnItsCounter clock p := by
  intro q hq
  have hperform : (control channel value selects).perform clock q = do
      return (0, q.setCounter channel (← pitControlOne clock value (q.counter channel)), []) := by
    dsimp only [perform]
    rw [pitWriteHandler_control selects]
    cases pitControlOne clock value (q.counter channel) <;> rfl
  refine ⟨hperform, fun r hr d hd => ?_⟩
  rw [hperform] at hr
  obtain ⟨c, -, hrest⟩ := bind_eq_ok.mp hr
  obtain rfl := Except.ok.inj hrest
  exact Pit.counter_setCounter_of_ne hd

lemma onItsCounter_gate {channel : Fin 3} {value : BitVec 32} :
    (gate channel value).OnItsCounter clock p ↔
      channel = 2 ∨
        (p.counter channel).gate.setWidth 32 < value ∧ ¬(p.counter channel).CountOk := by
  constructor
  · intro hits
    by_contra hnot
    obtain ⟨hne, hreturns⟩ := not_or.mp hnot
    rw [not_and_not_right] at hreturns
    -- the gate of counter 2 differs from the value to begin with
    let q := p.setCounter 2 { p.counter 2 with gate := value.setWidth 8 + 1 }
    have hq : q.counter channel = p.counter channel := Pit.counter_setCounter_of_ne hne
    obtain ⟨⟨q', calls⟩, hgate⟩ := (@pitSetGate_ok_iff clock channel value q).mpr (by rwa [hq])
    have hperform : (gate channel value).perform clock q = .ok (0, q', calls) := by
      dsimp only [perform]
      rw [hgate]
      rfl
    obtain ⟨-, hothers⟩ := hits q hq
    have hkept : q'.counter 2 = q.counter 2 := hothers _ hperform 2 fun h => hne h.symm
    obtain ⟨r, rfl, -⟩ := pitSetGate_eq_ok hgate
    have hwritten := congrArg PitCounter.gate hkept
    rw [Pit.counter_setCounter] at hwritten
    exact absurd hwritten (by simp [q])
  · rintro hcondition q hq
    have hq : q.counter channel = p.counter channel := hq
    have hgate (r : BitVec 32 × Pit × List DeviceCall)
        (hr : (gate channel value).perform clock q = .ok r) :
        pitSetGate clock channel value q = .ok r.2 := by
      dsimp only [perform] at hr
      obtain ⟨r', hr', hrest⟩ := bind_eq_ok.mp hr
      obtain rfl := Except.ok.inj hrest
      exact hr'
    obtain rfl | ⟨hrise, hdivides⟩ := hcondition
    · refine ⟨fun r hr => ?_, fun r hr d hd => ?_⟩
      · obtain ⟨u, hu, -⟩ := pitSetGate_eq_ok (hgate r hr)
        rw [hu]
        exact congrArg PitCounter.gate Pit.counter_setCounter
      · obtain ⟨u, hu, hothers⟩ := pitSetGate_eq_ok (hgate r hr)
        rw [hu]
        exact (Pit.counter_setCounter_of_ne hd).trans (hothers d hd)
    · have hstops : ¬∃ r, pitSetGate clock channel value q = .ok r := by
        rw [pitSetGate_ok_iff, hq]
        exact fun h => hdivides (h hrise)
      exact ⟨fun r hr => absurd ⟨_, hgate r hr⟩ hstops,
        fun r hr => absurd ⟨_, hgate r hr⟩ hstops⟩

end PitAccess

/-- An access acts on its own counter, whatever the others hold, exactly if it is no access to data
port 0x41 and no `PitSetGate` for another counter than 2. -/
theorem pit_access_on_its_counter_iff (clock : BitVec 64) (p : Pit) (a : PitAccess) :
    a.OnItsCounter clock p ↔ a.Reaches p := by
  cases a with
  | read channel => exact PitAccess.onItsCounter_read
  | write channel value => exact PitAccess.onItsCounter_write
  | control channel value selects =>
      exact iff_of_true (PitAccess.onItsCounter_control selects) trivial
  | gate channel value => exact PitAccess.onItsCounter_gate

/-- At power-on, 0x55 written to port 0x41 becomes the count of counter 0, and 0 written to the gate
of counter 0 becomes the gate of counter 2. -/
theorem pit_port_of_other_counter :
    (∃ q calls, pitWriteHandler 0 0x41 0x55 (Pit.initial 0) = .ok (q, calls) ∧
      (q.counter 0).count = 0x55 ∧ q.counter 1 = PitCounter.initial 0) ∧
    (∃ q calls, pitSetGate 0 0 0 (Pit.initial 0) = .ok (q, calls) ∧
      (q.counter 2).gate = 0 ∧ (q.counter 0).gate = 1) ∧
    ¬ (PitAccess.write 1 0x55).OnItsCounter 0 (Pit.initial 0) := by
  refine ⟨?_, ?_, fun hits => PitAccess.onItsCounter_write.mp hits rfl⟩
  · have hends : ends (fun r => (r.1.counter 0).count = 0x55 ∧ r.1.counter 1 = PitCounter.initial 0)
        (pitWriteHandler 0 0x41 0x55 (Pit.initial 0)) = true := by
      decide +kernel
    obtain ⟨⟨q, calls⟩, hq, hcounters⟩ := exists_of_ends _ hends
    exact ⟨q, calls, hq, hcounters⟩
  · have hends : ends (fun r => (r.1.counter 2).gate = 0 ∧ (r.1.counter 0).gate = 1)
        (pitSetGate 0 0 0 (Pit.initial 0)) = true := by
      decide +kernel
    obtain ⟨⟨q, calls⟩, hq, hgates⟩ := exists_of_ends _ hends
    exact ⟨q, calls, hq, hgates⟩

end Svmm
