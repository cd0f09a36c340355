import Svmm.Framework.Run
import Svmm.Properties.Cmos.Clock

/-!
# Interrupt causes

Register C collects the flags of the clock's interrupts until the guest reads it.  Beside a run, an
account keeps the flags of the events since the last read: register C holds them at every moment,
but `CmosPortIoReadHandler` clears it before it takes the value that it returns.
-/

namespace Svmm

open TransitionRun

/-! ## Events -/

/-- The flags of the events of an operation: periodic, update ended and alarm, each if its interrupt
is enabled. -/
def cmosEvents (lib : TimeLibrary) (s : Cmos) : CmosOp → BitVec 8
  | .periodicTimer => if s.registers regStatB &&& 0x40 ≠ 0 then 0x40 else 0
  | .uipTimer =>
      (if s.registers regStatB &&& 0x10 ≠ 0 then 0x10 else 0) |||
        if s.registers regStatB &&& 0x20 ≠ 0 ∧ (cmosUpdateClock lib s).AlarmMatch then 0x20 else 0
  | _ => 0

/-- The operation reads register C. -/
def Cmos.ReadsC (s : Cmos) : CmosOp → Prop
  | .read address => address = 0x71 ∧ s.cmosAddress = regStatC
  | _ => False

instance (s : Cmos) (a : CmosOp) : Decidable (s.ReadsC a) := by
  unfold Cmos.ReadsC
  split <;> infer_instance

/-- The flags with the summary bit, which is set if there are any. -/
def withSummary (flags : BitVec 8) : BitVec 8 := if flags = 0 then 0 else 0x80 ||| flags

/-- The clock, and the flags of the events since the last read of register C. -/
structure CmosCauses where
  cmos : Cmos
  pending : BitVec 8

/-- One operation. -/
def causesStep (lib : TimeLibrary) (h : CmosCauses) (a : CmosOp) : Except Unit CmosCauses :=
  .ok
    { cmos := (cmosStep lib h.cmos a).1
      pending := if h.cmos.ReadsC a then 0 else h.pending ||| cmosEvents lib h.cmos a }

def causesInitialize (lib : TimeLibrary) (time : BitVec 64) (uipTimerIndex : BitVec 32) :
    CmosCauses where
  cmos := cmosInitialize lib time uipTimerIndex
  pending := 0

/-- A read of register C returns the flags of the events since the read before, clears them and
lowers the line; any other operation leaves them in the register, with those of its events. -/
def CausesReach (lib : TimeLibrary) (h : CmosCauses) (a : CmosOp) : Prop :=
  let (s, calls) := cmosStep lib h.cmos a
  if h.cmos.ReadsC a then
    (cmosPortIoReadHandler 0x71 h.cmos).1 = (withSummary h.pending).setWidth 32 ∧
      s.registers regStatC = 0 ∧ calls = [.lowerIrq rtcIrq]
  else s.registers regStatC = withSummary (h.pending ||| cmosEvents lib h.cmos a)

/-! ## Register C -/

section RegisterC

variable {lib : TimeLibrary} {s : Cmos} {h : CmosCauses}

lemma setRegister_of_ne {address value : BitVec 8} (hne : address ≠ regStatC) :
    (s.setRegister address value).registers regStatC = s.registers regStatC :=
  Function.update_of_ne hne.symm _ _

lemma registers_setRegister (address value : BitVec 8) :
    (s.setRegister address value).registers address = value := by
  unfold Cmos.setRegister
  dsimp only
  rw [Function.update_self]

lemma statC_cmosUpdateClock : (cmosUpdateClock lib s).registers regStatC =
    s.registers regStatC := rfl

/-- The flags of an interrupt are those of its event, with the summary bit. -/
lemma withSummary_or : ∀ flags : BitVec 8,
    withSummary flags ||| 0xc0 = withSummary (flags ||| 0x40) ∧
      withSummary flags ||| 0x90 = withSummary (flags ||| 0x10) ∧
      withSummary flags ||| 0xa0 = withSummary (flags ||| 0x20) := by
  decide +kernel

section Interrupt

variable {p : Prop} [Decidable p] {flags interrupt event : BitVec 8}

/-- An interrupt that may be raised adds its event to the flags. -/
lemma statC_interrupt (h : s.registers regStatC = withSummary flags)
    (hflags : withSummary flags ||| interrupt = withSummary (flags ||| event)) :
    (if p then s.interrupt interrupt else (s, [])).1.registers regStatC =
      withSummary (flags ||| if p then event else 0) := by
  split
  · show (s.setRegister regStatC _).registers regStatC = _
    rw [registers_setRegister, h, hflags]
  · show s.registers regStatC = withSummary (flags ||| 0#8)
    rw [BitVec.or_zero, h]

lemma registers_interrupt {address : BitVec 8} (h : address ≠ regStatC) :
    (if p then s.interrupt interrupt else (s, [])).1.registers address = s.registers address := by
  split
  · exact Function.update_of_ne h _ _
  · rfl

end Interrupt

lemma statC_cmosPeriodicTimer {flags : BitVec 8} (h : s.registers regStatC = withSummary flags) :
    (cmosPeriodicTimer s).1.registers regStatC =
      withSummary (flags ||| cmosEvents lib s .periodicTimer) :=
  statC_interrupt h (withSummary_or flags).1

lemma statC_cmosUipTimer {flags : BitVec 8} (h : s.registers regStatC = withSummary flags) :
    (cmosUipTimer lib s).1.registers regStatC =
      withSummary (flags ||| cmosEvents lib s .uipTimer) := by
  set t := cmosUpdateClock lib s with ht
  have hstatB : t.registers regStatB = s.registers regStatB := rfl
  -- the update-ended interrupt leaves what the alarm is compared with
  set u := (if t.registers regStatB &&& 0x10 ≠ 0 then t.interrupt 0x90 else (t, [])).1 with hu
  have hended : u.registers regStatC = withSummary (flags ||| if t.registers regStatB &&& 0x10 ≠ 0
      then 0x10 else 0) :=
    statC_interrupt h (withSummary_or flags).2.1
  have hkept : ∀ address ≠ regStatC, u.registers address = t.registers address :=
    fun _ hne => registers_interrupt hne
  have halarm : u.AlarmMatch ↔ t.AlarmMatch := by
    unfold Cmos.AlarmMatch Cmos.AlarmAt
    rw [hkept regSec (by decide), hkept regSecAlarm (by decide), hkept regMin (by decide),
      hkept regMinAlarm (by decide), hkept regHour (by decide), hkept regHourAlarm (by decide)]
  show (Cmos.setRegister regStatA _ (if u.registers regStatB &&& 0x20 ≠ 0 ∧ u.AlarmMatch then
    u.interrupt 0xa0 else (u, [])).1).registers regStatC = _
  rw [setRegister_of_ne (by decide), statC_interrupt hended (withSummary_or _).2.2,
    hkept regStatB (by decide), BitVec.or_assoc]
  simp only [halarm, hstatB]
  rfl

lemma statC_cmosOneSecondTimer :
    (cmosOneSecondTimer s).1.registers regStatC = s.registers regStatC := by
  unfold cmosOneSecondTimer
  split
  · rfl
  · dsimp only
    split
    · rfl
    · exact setRegister_of_ne (by decide)

lemma statC_cmosWriteStatB {value : BitVec 32} :
    (cmosWriteStatB lib value s).1.registers regStatC = s.registers regStatC :=
  cmosWriteStatB_keeps (fun s => s.registers regStatC) (fun _ => setRegister_of_ne (by decide))
    (fun _ _ => rfl) (fun _ _ => rfl) (fun _ => statC_cmosUpdateClock) fun _ _ => rfl

lemma statC_cmosWriteClock {value : BitVec 8} (hclock : s.cmosAddress ∈ clockRegisters) :
    (cmosWriteClock lib value s).registers regStatC = s.registers regStatC := by
  have hne : s.cmosAddress ≠ regStatC := by
    intro haddress
    rw [haddress] at hclock
    exact absurd hclock (by decide)
  have hstored : (s.setRegister s.cmosAddress value).registers regStatC = s.registers regStatC :=
    setRegister_of_ne hne
  have hboth : (if s.cmosAddress = regIbmPs2CenturyByte then
      (s.setRegister s.cmosAddress value).setRegister regIbmCenturyByte value
      else s.setRegister s.cmosAddress value).registers regStatC = s.registers regStatC := by
    split
    · rw [setRegister_of_ne (by decide), hstored]
    · exact hstored
  unfold cmosWriteClock
  dsimp only
  rw [apply_ite Cmos.registers]
  exact (congrFun (ite_self _) _).trans hboth

/-- No write of a port reaches register C. -/
lemma statC_cmosPortIoWriteHandler {address : BitVec 64} {value : BitVec 32} :
    (cmosPortIoWriteHandler lib address value s).1.registers regStatC = s.registers regStatC := by
  unfold cmosPortIoWriteHandler
  dsimp only
  split_ifs with hindex hdata halarm hclock hstatA hstatB hdiagnostic hshutdown hext
  · rfl
  · refine setRegister_of_ne ?_
    rintro haddress
    rw [haddress] at halarm
    exact absurd halarm (by decide)
  · exact statC_cmosWriteClock hclock
  · rw [craChange_keeps Cmos.registers fun _ => rfl]
    exact setRegister_of_ne (by decide)
  · exact statC_cmosWriteStatB
  · exact setRegister_of_ne (by decide)
  · exact setRegister_of_ne (by decide)
  · rfl
  · rfl
  · rfl

/-- A read of register C clears it and returns what it then holds. -/
lemma read_statC (hread : s.cmosAddress = regStatC) :
    cmosPortIoReadHandler 0x71 s = (0, s.setRegister regStatC 0x00, [.lowerIrq rtcIrq]) := by
  unfold cmosPortIoReadHandler
  rw [if_neg (by decide), if_pos rfl]
  dsimp only
  rw [if_pos hread]
  have hzero : (s.setRegister regStatC 0x00).registers s.cmosAddress = 0x00 := by
    rw [hread]
    exact registers_setRegister _ _
  show (((s.setRegister regStatC 0x00).registers s.cmosAddress).setWidth 32, _, _) = _
  rw [hzero]
  rfl

lemma statC_cmosPortIoReadHandler {address : BitVec 64}
    (h : ¬ s.ReadsC (.read address)) :
    (cmosPortIoReadHandler address s).2.1.registers regStatC = s.registers regStatC := by
  unfold cmosPortIoReadHandler
  split_ifs with hindex hdata hstatC hext
  · rfl
  · exact absurd ⟨hdata, hstatC⟩ h
  · rfl
  · rfl
  · rfl

end RegisterC

/-! ## The account -/

section Runs

variable {lib : TimeLibrary} {h t : CmosCauses} {a : CmosOp}

/-- Register C holds the flags of the account. -/
def CmosCauses.Collects (h : CmosCauses) : Prop :=
  h.cmos.registers regStatC = withSummary h.pending

lemma readsC_iff {s : Cmos} : s.ReadsC a ↔ a = .read 0x71 ∧ s.cmosAddress = regStatC := by
  unfold Cmos.ReadsC
  cases a <;> simp

lemma cmosStep_of_readsC {s : Cmos} (ha : s.ReadsC a) :
    cmosStep lib s a = (s.setRegister regStatC 0x00, [.lowerIrq rtcIrq]) := by
  obtain ⟨rfl, hread⟩ := readsC_iff.mp ha
  exact congrArg Prod.snd (read_statC hread)

/-- An operation that does not read register C leaves the flags in it. -/
lemma statC_cmosStep (hh : h.Collects) (ha : ¬ h.cmos.ReadsC a) :
    (cmosStep lib h.cmos a).1.registers regStatC =
      withSummary (h.pending ||| cmosEvents lib h.cmos a) := by
  have hnone : h.cmos.registers regStatC = withSummary (h.pending ||| 0#8) := by
    rw [BitVec.or_zero]
    exact hh
  cases a with
  | read address => exact (statC_cmosPortIoReadHandler ha).trans hnone
  | write address value => exact statC_cmosPortIoWriteHandler.trans hnone
  | periodicTimer => exact statC_cmosPeriodicTimer hh
  | oneSecondTimer => exact statC_cmosOneSecondTimer.trans hnone
  | uipTimer => exact statC_cmosUipTimer hh
  | setInterrupt enable => exact hnone

lemma collects_causesStep (hh : h.Collects) (hstep : causesStep lib h a = .ok t) : t.Collects := by
  obtain rfl := (Except.ok.inj hstep).symm
  unfold CmosCauses.Collects
  dsimp only
  by_cases ha : h.cmos.ReadsC a
  · rw [if_pos ha, cmosStep_of_readsC ha]
    exact registers_setRegister _ _
  · rw [if_neg ha]
    exact statC_cmosStep hh ha

lemma withSummary_eq_zero_iff : ∀ flags : BitVec 8,
    (0 : BitVec 32) = (withSummary flags).setWidth 32 ↔ flags = 0 := by
  decide +kernel

/-- The causes reach the guest exactly if there are none at a read. -/
lemma causesReach_iff (hh : h.Collects) :
    CausesReach lib h a ↔ (h.cmos.ReadsC a → h.pending = 0) := by
  unfold CausesReach
  dsimp only
  by_cases ha : h.cmos.ReadsC a
  · rw [if_pos ha, cmosStep_of_readsC ha, read_statC (readsC_iff.mp ha).2,
      forall_prop_of_true ha, ← withSummary_eq_zero_iff h.pending]
    have hcleared : (h.cmos.setRegister regStatC 0x00).registers regStatC = 0 :=
      registers_setRegister _ _
    exact and_iff_left ⟨hcleared, rfl⟩
  · rw [if_neg ha]
    exact iff_of_true (statC_cmosStep hh ha) fun hread => absurd hread ha

/-- Over any sequence of accesses of the ports, timers and changes of the interrupt enable, the
causes reach the guest exactly if each read of register C finds none. -/
theorem cmos_causes_reach_iff (lib : TimeLibrary) (time : BitVec 64) (uipTimerIndex : BitVec 32)
    (ops : List CmosOp) :
    Meets (causesStep lib) (CausesReach lib) (causesInitialize lib time uipTimerIndex) ops ↔
      Meets (causesStep lib) (fun h a => h.cmos.ReadsC a → h.pending = 0)
        (causesInitialize lib time uipTimerIndex) ops :=
  Meets.congr_of_invariant (fun _ _ _ hh hstep => collects_causesStep hh hstep)
    (fun _ _ hh => causesReach_iff hh) rfl

/-- The periodic interrupt is enabled and comes, and the guest reads register C. -/
theorem cmos_cause_not_returned :
    ∃ h, run (causesStep utc) (causesInitialize utc 0 0)
        [.write 0x70 0x0b, .write 0x71 0x42, .periodicTimer, .write 0x70 0x0c] = .ok h ∧
      h.cmos.ReadsC (.read 0x71) ∧ h.pending = 0x40 ∧
      (cmosPortIoReadHandler 0x71 h.cmos).1 = 0 ∧ ¬ CausesReach utc h (.read 0x71) := by
  refine ⟨_, rfl, ⟨rfl, rfl⟩, ?_, ?_, ?_⟩
  · rfl
  · rfl
  · intro hreach
    refine absurd ((causesReach_iff ?_).mp hreach ⟨rfl, rfl⟩) ?_
    · show _ = withSummary _
      rfl
    · show ¬ (0x40 : BitVec 8) = 0
      decide

end Runs

end Svmm
