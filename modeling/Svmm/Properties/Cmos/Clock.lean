import Svmm.Framework.Calendar
import Svmm.Construction.Cmos

/-!
# Clock registers and time

`CmosUpdateClock` writes a time to the registers and `CmosUpdateTimeval` takes it from them.  Every
field but the hour comes back; the hour of the 12-hour modes is masked by `0x70`, which drops its
low digit, so that it comes back for two hours of the day only.
-/

namespace Svmm

/-! ## Calendars -/

/-- A time from 1900 to 2155 that exists. -/
structure Tm.Valid (t : Tm) : Prop where
  sec : t.tmSec < 60
  min : t.tmMin < 60
  hour : t.tmHour < 24
  mday_pos : 0 < t.tmMday
  mday_le : t.tmMday.toNat ≤ Gregorian.monthDays (1900 + t.tmYear.toNat) t.tmMon.toNat
  mon : t.tmMon < 12
  year : t.tmYear < 256

/-- `localtime` and `mktime` are inverse on these times. -/
structure TimeLibrary.Inverse (lib : TimeLibrary) : Prop where
  localtime_mktime : ∀ t : Tm, t.Valid → lib.localtime (lib.mktime t) = t
  mktime_localtime : ∀ time, (lib.localtime time).Valid → lib.mktime (lib.localtime time) = time

/-! ## Round trips -/

/-- A guest writes back what the registers of the clock hold. -/
def writesBack (s : Cmos) (addresses : List (BitVec 8)) : List CmosOp :=
  addresses.flatMap fun address =>
    [.write 0x70 (address.setWidth 32), .write 0x71 ((s.registers address).setWidth 32)]

/-- The state after a list of operations. -/
def cmosRun (lib : TimeLibrary) (s : Cmos) (ops : List CmosOp) : Cmos :=
  ops.foldl (fun s a => (cmosStep lib s a).1) s

/-- The registers of the clock stand for the time that they were written for, and a guest that
writes any of them back, in any order, leaves it. -/
def Cmos.RoundTrips (lib : TimeLibrary) (s : Cmos) : Prop :=
  (cmosUpdateTimeval lib (cmosUpdateClock lib s)).timeval = s.timeval ∧
    ∀ addresses : List (BitVec 8), (∀ address ∈ addresses, address ∈ clockRegisters) →
      (cmosRun lib (cmosUpdateClock lib s)
        (writesBack (cmosUpdateClock lib s) addresses)).timeval = s.timeval

/-- In 12-hour mode, the binary hour is a multiple of 12, or the decimal one is 10. -/
def Cmos.HourKept (lib : TimeLibrary) (s : Cmos) : Prop :=
  s.rtcMode12hour ≠ 0 →
    if s.rtcModeBinary ≠ 0 then
      (lib.localtime s.timeval).tmHour = 0 ∨ (lib.localtime s.timeval).tmHour = 12
    else (lib.localtime s.timeval).tmHour = 10 ∨ (lib.localtime s.timeval).tmHour = 22

/-! ## Bytes -/

section Bytes

variable {x : BitVec 32} {isBinary mode12hour : BitVec 8}

/-- An `int` of a byte. -/
lemma exists_byte (h : x < 256) : ∃ b : BitVec 8, x = b.setWidth 32 := by
  refine ⟨x.setWidth 8, ?_⟩
  have hx : x.toNat < 256 := h
  apply BitVec.eq_of_toNat_eq
  simp only [BitVec.toNat_setWidth]
  omega

lemma bcdToBin_binToBcd {b : BitVec 8} (h : b < 100) :
    bcdToBin (binToBcd b isBinary) isBinary = b := by
  unfold bcdToBin binToBcd
  by_cases hbinary : isBinary ≠ 0
  · rw [if_pos hbinary, if_pos hbinary]
  · rw [if_neg hbinary, if_neg hbinary]
    revert b
    decide

/-- A field below 100 comes back. -/
lemma field_round_trip (h : x < 100) :
    (bcdToBin (binToBcd (x.setWidth 8) isBinary) isBinary).setWidth 32 = x := by
  have hx : x.toNat < 100 := h
  obtain ⟨b, rfl⟩ := exists_byte (x := x) (show x.toNat < 256 by omega)
  have hb : b < 100 := by
    have hlt := b.isLt
    rw [BitVec.toNat_setWidth] at hx
    show b.toNat < 100
    omega
  rw [Word.setWidth_setWidth_eq (by decide), bcdToBin_binToBcd hb]

/-- The year comes back from the century and the year in it. -/
lemma year_round_trip (h : x < 256) :
    ((bcdToBin (binToBcd ((x.sdiv 100 + 19).setWidth 8) isBinary) isBinary - 19) * 100 +
      bcdToBin (binToBcd ((x.srem 100).setWidth 8) isBinary) isBinary).setWidth 32 = x := by
  obtain ⟨b, rfl⟩ := exists_byte h
  have hparts : ∀ b : BitVec 8, ((b.setWidth 32).sdiv 100 + 19).setWidth 8 < (100 : BitVec 8) ∧
      ((b.setWidth 32).srem 100).setWidth 8 < (100 : BitVec 8) := by
    decide +kernel
  have hsum : ∀ b : BitVec 8, ((((b.setWidth 32).sdiv 100 + 19).setWidth 8 - 19) * 100 +
      ((b.setWidth 32).srem 100).setWidth 8 : BitVec 8) = b := by
    decide +kernel
  rw [bcdToBin_binToBcd (hparts b).1, bcdToBin_binToBcd (hparts b).2, hsum]

/-- The hour that comes back is one of the day, and when it is the one that was written. -/
lemma registerHour_hourRegister {hour : BitVec 8} (h : hour < 24) :
    registerHour mode12hour isBinary (hourRegister mode12hour isBinary hour) < 24 ∧
      (registerHour mode12hour isBinary (hourRegister mode12hour isBinary hour) = hour ↔
        (mode12hour ≠ 0 →
          if isBinary ≠ 0 then hour = 0 ∨ hour = 12 else hour = 10 ∨ hour = 22)) := by
  unfold registerHour hourRegister
  by_cases hmode : mode12hour ≠ 0
  · rw [if_pos hmode, if_pos hmode, forall_prop_of_true hmode]
    unfold bcdToBin binToBcd
    by_cases hbinary : isBinary ≠ 0
    · simp only [if_pos hbinary]
      revert hour
      decide +kernel
    · simp only [if_neg hbinary]
      revert hour
      decide +kernel
  · have hlt : hour < 100 := by
      have hday : hour.toNat < 24 := h
      show hour.toNat < 100
      omega
    rw [if_neg hmode, if_neg hmode, bcdToBin_binToBcd hlt]
    exact ⟨h, iff_of_true rfl fun hmode' => absurd hmode' hmode⟩

end Bytes

/-! ## Registers -/

section Registers

variable {lib : TimeLibrary} {s t : Cmos}

/-- A time comes back from the registers but for the hour. -/
lemma calendar_cmosUpdateClock (h : (lib.localtime s.timeval).Valid) :
    (cmosUpdateClock lib s).calendar =
      { lib.localtime s.timeval with
        tmHour := (registerHour s.rtcMode12hour s.rtcModeBinary (hourRegister s.rtcMode12hour
          s.rtcModeBinary ((lib.localtime s.timeval).tmHour.setWidth 8))).setWidth 32 } := by
  obtain ⟨hsec, hmin, -, -, hmday, hmon, hyear⟩ := h
  have hbelow : ∀ {x : BitVec 32} {n : ℕ}, x.toNat < n → n ≤ 100 → x < 100 := fun hx hn => by
    show BitVec.toNat _ < 100
    omega
  have hdays := Gregorian.monthDays_le (1900 + (lib.localtime s.timeval).tmYear.toNat)
    (lib.localtime s.timeval).tmMon.toNat
  have hmonth : (lib.localtime s.timeval).tmMon + 1 < 100 := by
    have hlt : (lib.localtime s.timeval).tmMon.toNat < 12 := hmon
    show BitVec.toNat _ < 100
    rw [BitVec.toNat_add]
    show (_ + 1) % 2 ^ 32 < 100
    omega
  apply Tm.ext
  · exact field_round_trip (hbelow hsec (by decide))
  · exact field_round_trip (hbelow hmin (by decide))
  · rfl
  · exact field_round_trip (hbelow (Nat.lt_succ_of_le (hmday.trans hdays)) (by decide))
  · exact (congrArg (· - 1) (field_round_trip hmonth)).trans (BitVec.add_sub_cancel _ _)
  · exact year_round_trip hyear

/-- Registers and modes are the same, and so is the time. -/
structure Cmos.SameClock (s t : Cmos) : Prop where
  registers : t.registers = s.registers
  mode12hour : t.rtcMode12hour = s.rtcMode12hour
  modeBinary : t.rtcModeBinary = s.rtcModeBinary
  timeval : t.timeval = s.timeval

/-- The byte that register B gets. -/
def storedStatB (value : BitVec 32) : BitVec 8 :=
  if value.setWidth 8 &&& 0xf7 &&& 0x80 ≠ 0 then value.setWidth 8 &&& 0xf7 &&& 0xef
  else value.setWidth 8 &&& 0xf7

/-- What a write of register B gives: what the register gives, where no later step of it changes
that. -/
lemma cmosWriteStatB_gives {β : Type*} {value : BitVec 32} {b : β} (f : Cmos → β)
    (hset : f (s.setRegister regStatB (storedStatB value)) = b)
    (hmode12hour : ∀ u mode, f { u with rtcMode12hour := mode } = f u)
    (hmodeBinary : ∀ u mode, f { u with rtcModeBinary := mode } = f u)
    (hclock : ∀ u, f (cmosUpdateClock lib u) = f u)
    (htimeval : 0x80 ≤ s.registers regStatB → ∀ u,
      f { cmosUpdateTimeval lib u with timevalChange := 0 } = f u) :
    f (cmosWriteStatB lib value s).1 = b := by
  have hkept : ∀ (p : Prop) [Decidable p] {u v : Cmos}, f u = b → f v = b →
      f (if p then u else v) = b := by
    intro p _ u v hu hv
    split
    · exact hu
    · exact hv
  unfold cmosWriteStatB
  dsimp only
  have hbyte : (if value.setWidth 8 &&& 0xf7 &&& 0x80 ≠ 0 then value.setWidth 8 &&& 0xf7 &&& 0xef
    else value.setWidth 8 &&& 0xf7) = storedStatB value := rfl
  rw [hbyte]
  generalize storedStatB value = byte at hset
  set u := (if s.registers regStatB &&& 0x02 ≠ byte &&& 0x02 then
    cmosUpdateClock lib { s.setRegister regStatB byte with
      rtcMode12hour := if byte &&& 0x02 = 0 then 1 else 0 }
    else s.setRegister regStatB byte) with hu
  have hfirst : f u = b := by
    refine hkept _ ?_ hset
    rw [hclock, hmode12hour, hset]
  set v := (if s.registers regStatB &&& 0x04 ≠ byte &&& 0x04 then
    cmosUpdateClock lib { u with rtcModeBinary := if byte &&& 0x04 ≠ 0 then 1 else 0 }
    else u) with hv
  have hsecond : f v = b := by
    refine hkept _ ?_ hfirst
    rw [hclock, hmodeBinary, hfirst]
  by_cases hchanged : 0x80 ≤ s.registers regStatB ∧ byte < 0x80 ∧ v.timevalChange ≠ 0
  · rw [if_pos hchanged]
    exact (htimeval hchanged.1 v).trans hsecond
  · rw [if_neg hchanged]
    exact hsecond

/-- What a write of register B keeps: where no step of it changes a part of the state, it does
not. -/
lemma cmosWriteStatB_keeps {β : Type*} {value : BitVec 32} (f : Cmos → β)
    (hset : ∀ byte, f (s.setRegister regStatB byte) = f s)
    (hmode12hour : ∀ u mode, f { u with rtcMode12hour := mode } = f u)
    (hmodeBinary : ∀ u mode, f { u with rtcModeBinary := mode } = f u)
    (hclock : ∀ u, f (cmosUpdateClock lib u) = f u)
    (htimeval : 0x80 ≤ s.registers regStatB → ∀ u,
      f { cmosUpdateTimeval lib u with timevalChange := 0 } = f u) :
    f (cmosWriteStatB lib value s).1 = f s :=
  cmosWriteStatB_gives f (hset _) hmode12hour hmodeBinary hclock htimeval

/-- What `CraChange` keeps. -/
lemma craChange_keeps {β : Type*} (f : Cmos → β)
    (hinterval : ∀ interval, f { s with periodicIntervalUsec := interval } = f s) :
    f (craChange s).1 = f s := by
  unfold craChange
  rw [apply_ite Prod.fst]
  split
  · exact hinterval _
  · exact hinterval _

lemma Cmos.SameClock.calendar (h : s.SameClock t) : t.calendar = s.calendar := by
  unfold Cmos.calendar
  rw [h.registers, h.mode12hour, h.modeBinary]

lemma setRegister_self (address : BitVec 8) : t.setRegister address (t.registers address) = t := by
  unfold Cmos.setRegister
  rw [Function.update_eq_self]

/-- A register of the clock is written with what it holds. -/
lemma sameClock_cmosWriteClock (hs : (cmosUpdateTimeval lib s).timeval = s.timeval)
    (hcentury : s.registers regIbmPs2CenturyByte = s.registers regIbmCenturyByte)
    (h : s.SameClock t) :
    s.SameClock (cmosWriteClock lib (s.registers t.cmosAddress) t) := by
  unfold cmosWriteClock
  dsimp only
  have hstored : t.setRegister t.cmosAddress (s.registers t.cmosAddress) = t := by
    rw [← h.registers]
    exact setRegister_self _
  have hboth : (if t.cmosAddress = regIbmPs2CenturyByte then
      t.setRegister regIbmCenturyByte (s.registers t.cmosAddress) else t) = t := by
    split
    next haddress =>
      rw [haddress, hcentury, ← h.registers]
      exact setRegister_self _
    next => rfl
  rw [hstored, hboth]
  split
  · exact ⟨h.registers, h.mode12hour, h.modeBinary, h.timeval⟩
  · refine ⟨h.registers, h.mode12hour, h.modeBinary, ?_⟩
    show lib.mktime t.calendar = s.timeval
    rw [h.calendar]
    exact hs

/-- What a guest reads from a register of the clock and writes back leaves a clock that stands for
its time. -/
lemma sameClock_write_back {address : BitVec 8} (hs : (cmosUpdateTimeval lib s).timeval = s.timeval)
    (hcentury : s.registers regIbmPs2CenturyByte = s.registers regIbmCenturyByte)
    (h : s.SameClock t) (haddress : address ∈ clockRegisters) :
    s.SameClock (cmosRun lib t
      [.write 0x70 (address.setWidth 32), .write 0x71 ((s.registers address).setWidth 32)]) := by
  have hports : ∀ address ∈ clockRegisters,
      (address.setWidth 32).setWidth 8 &&& 0x7f = address ∧
        ¬ (address = regSecAlarm ∨ address = regMinAlarm ∨ address = regHourAlarm) := by
    decide
  obtain ⟨hport, halarm⟩ := hports address haddress
  have hselected : s.SameClock { t with cmosAddress := address } :=
    ⟨h.registers, h.mode12hour, h.modeBinary, h.timeval⟩
  have hwrite : cmosRun lib t
      [.write 0x70 (address.setWidth 32), .write 0x71 ((s.registers address).setWidth 32)] =
        cmosWriteClock lib (s.registers address) { t with cmosAddress := address } := by
    show (cmosPortIoWriteHandler lib 0x71 ((s.registers address).setWidth 32)
      { t with cmosAddress := (address.setWidth 32).setWidth 8 &&& 0x7f }).1 = _
    rw [hport]
    unfold cmosPortIoWriteHandler
    dsimp only
    rw [if_neg (by decide), if_pos rfl, if_neg halarm, if_pos haddress,
      Word.setWidth_setWidth_eq (by decide)]
  rw [hwrite]
  exact sameClock_cmosWriteClock hs hcentury hselected

lemma sameClock_writesBack {addresses : List (BitVec 8)}
    (hs : (cmosUpdateTimeval lib s).timeval = s.timeval)
    (hcentury : s.registers regIbmPs2CenturyByte = s.registers regIbmCenturyByte)
    (h : s.SameClock t) (haddresses : ∀ address ∈ addresses, address ∈ clockRegisters) :
    s.SameClock (cmosRun lib t (writesBack s addresses)) := by
  induction addresses generalizing t with
  | nil => exact h
  | cons address addresses ih =>
      obtain ⟨hhead, htail⟩ := List.forall_mem_cons.mp haddresses
      exact ih (sameClock_write_back hs hcentury h hhead) htail

/-- The registers stand for the time exactly if the hour comes back. -/
lemma cmosUpdateTimeval_eq_iff (hlib : lib.Inverse) (h : (lib.localtime s.timeval).Valid) :
    (cmosUpdateTimeval lib (cmosUpdateClock lib s)).timeval = s.timeval ↔ s.HourKept lib := by
  have hlt : (lib.localtime s.timeval).tmHour.toNat < 24 := h.hour
  obtain ⟨hour, hbyte⟩ := exists_byte (x := (lib.localtime s.timeval).tmHour)
    (show BitVec.toNat _ < 256 by omega)
  have hbytes : ∀ hour : BitVec 8, (hour.setWidth 32).setWidth 8 = hour ∧
      (hour.setWidth 32 < (24 : BitVec 32) ↔ hour < 24) ∧
      (hour.setWidth 32 = (0 : BitVec 32) ↔ hour = 0) ∧
      (hour.setWidth 32 = (12 : BitVec 32) ↔ hour = 12) ∧
      (hour.setWidth 32 = (10 : BitVec 32) ↔ hour = 10) ∧
      (hour.setWidth 32 = (22 : BitVec 32) ↔ hour = 22) := by
    decide
  obtain ⟨hback, hday, hzero, htwelve, hten, htwentytwo⟩ := hbytes hour
  have hhour : hour < 24 := hday.mp (hbyte ▸ h.hour)
  show lib.mktime (cmosUpdateClock lib s).calendar = _ ↔ _
  rw [calendar_cmosUpdateClock h]
  unfold Cmos.HourKept
  rw [hbyte, hback, hzero, htwelve, hten, htwentytwo, ← (registerHour_hourRegister hhour).2]
  constructor
  · intro htime
    have hvalid : Tm.Valid { lib.localtime s.timeval with
        tmHour := (registerHour s.rtcMode12hour s.rtcModeBinary
          (hourRegister s.rtcMode12hour s.rtcModeBinary hour)).setWidth 32 } :=
      ⟨h.sec, h.min, (hbytes _).2.1.mpr (registerHour_hourRegister hhour).1, h.mday_pos,
        h.mday_le, h.mon, h.year⟩
    have hsame := hlib.localtime_mktime _ hvalid
    rw [htime] at hsame
    have hhours := (congrArg Tm.tmHour hsame).symm.trans hbyte
    have hnarrow := congrArg (BitVec.setWidth 8) hhours
    rwa [hback, (hbytes _).1] at hnarrow
  · intro hkept
    rw [hkept, ← hbyte]
    exact hlib.mktime_localtime _ h

/-- For every time from 1900 to 2155 and every mode, the registers of the clock stand for the time
that they were written for exactly if they keep the hour. -/
theorem cmos_clock_round_trips_iff (lib : TimeLibrary) (s : Cmos) (hlib : lib.Inverse)
    (h : (lib.localtime s.timeval).Valid) : s.RoundTrips lib ↔ s.HourKept lib := by
  unfold Cmos.RoundTrips
  rw [← cmosUpdateTimeval_eq_iff hlib h]
  refine ⟨And.left, fun htime => ⟨htime, fun addresses haddresses => ?_⟩⟩
  have hself : (cmosUpdateClock lib s).SameClock (cmosUpdateClock lib s) := ⟨rfl, rfl, rfl, rfl⟩
  exact (sameClock_writesBack htime rfl hself haddresses).timeval

end Registers

/-! ## A calendar -/

/-- The seconds from 1900 to 1970. -/
def unixEpoch : BitVec 64 := 2208988800

def Tm.ofMoment (m : Gregorian.Moment) : Tm where
  tmSec := BitVec.ofNat 32 m.second
  tmMin := BitVec.ofNat 32 m.minute
  tmHour := BitVec.ofNat 32 m.hour
  tmMday := BitVec.ofNat 32 (m.day + 1)
  tmMon := BitVec.ofNat 32 m.month
  tmYear := BitVec.ofNat 32 m.year

def Tm.toMoment (t : Tm) : Gregorian.Moment where
  year := t.tmYear.toNat
  month := t.tmMon.toNat
  day := t.tmMday.toNat - 1
  hour := t.tmHour.toNat
  minute := t.tmMin.toNat
  second := t.tmSec.toNat

/-- The C library in a time zone without offset, with times up to the year 3000. -/
def utc : TimeLibrary where
  localtime := fun time => Tm.ofMoment (Gregorian.momentOf 1900 1100 (time + unixEpoch).toNat)
  weekday := fun time => BitVec.ofNat 32 (((time + unixEpoch).toNat / 86400 + 1) % 7)
  mktime := fun t => BitVec.ofNat 64 (Gregorian.seconds 1900 t.toMoment) - unixEpoch

section Utc

variable {t : Tm}

lemma Tm.Valid.toMoment (h : t.Valid) : t.toMoment.Valid 1900 := by
  refine ⟨h.mon, ?_, h.hour, h.min, h.sec⟩
  have hpos : 0 < t.tmMday.toNat := h.mday_pos
  have hle := h.mday_le
  show t.tmMday.toNat - 1 < Gregorian.monthDays (1900 + t.tmYear.toNat) t.tmMon.toNat
  omega

lemma ofMoment_toMoment (h : t.Valid) : Tm.ofMoment t.toMoment = t := by
  have hpos : 0 < t.tmMday.toNat := h.mday_pos
  have hsame : ∀ x : BitVec 32, BitVec.ofNat 32 x.toNat = x := fun x => by simp
  apply Tm.ext
  · exact hsame _
  · exact hsame _
  · exact hsame _
  · show BitVec.ofNat 32 (t.tmMday.toNat - 1 + 1) = t.tmMday
    rw [Nat.sub_add_cancel hpos]
    exact hsame _
  · exact hsame _
  · exact hsame _

lemma toMoment_ofMoment {m : Gregorian.Moment} (h : m.Valid 1900) (hyear : m.year < 2 ^ 32) :
    (Tm.ofMoment m).toMoment = m := by
  obtain ⟨hmonth, hday, hhour, hminute, hsecond⟩ := h
  have hdays := Gregorian.monthDays_le (1900 + m.year) m.month
  have hsmall : ∀ {n : ℕ}, n < 2 ^ 32 → (BitVec.ofNat 32 n).toNat = n := fun hn =>
    (BitVec.toNat_ofNat _ _).trans (Nat.mod_eq_of_lt hn)
  ext
  · exact hsmall hyear
  · exact hsmall (by omega)
  · exact (congrArg (· - 1) (hsmall (show m.day + 1 < 2 ^ 32 by omega))).trans
      (Nat.add_sub_cancel ..)
  · exact hsmall (by omega)
  · exact hsmall (by omega)
  · exact hsmall (by omega)

lemma utc_inverse : utc.Inverse := by
  constructor
  · intro t h
    have hyear : t.toMoment.year < 256 := h.year
    have hlt := Gregorian.seconds_lt h.toMoment
    have hseconds : (BitVec.ofNat 64 (Gregorian.seconds 1900 t.toMoment) - unixEpoch +
        unixEpoch).toNat = Gregorian.seconds 1900 t.toMoment := by
      rw [BitVec.sub_add_cancel, BitVec.toNat_ofNat]
      exact Nat.mod_eq_of_lt (by omega)
    show Tm.ofMoment (Gregorian.momentOf 1900 1100 _) = t
    rw [show utc.mktime t =
        BitVec.ofNat 64 (Gregorian.seconds 1900 t.toMoment) - unixEpoch from rfl,
      hseconds, Gregorian.momentOf_seconds h.toMoment (by omega)]
    exact ofMoment_toMoment h
  · intro time h
    have hbound : (Gregorian.momentOf 1900 1100 (time + unixEpoch).toNat).year ≤ 1100 :=
      Gregorian.momentOf_year_le
    have hyear : (Gregorian.momentOf 1900 1100 (time + unixEpoch).toNat).year < 256 := by
      have hlt : (BitVec.ofNat 32
          (Gregorian.momentOf 1900 1100 (time + unixEpoch).toNat).year).toNat < 256 := h.year
      rw [BitVec.toNat_ofNat] at hlt
      omega
    have hlast : (Gregorian.momentOf 1900 1100 (time + unixEpoch).toNat).year < 1100 := by omega
    have hvalid := Gregorian.momentOf_valid hlast
    have hsame : ∀ x : BitVec 64, BitVec.ofNat 64 x.toNat = x := fun x => by simp
    show BitVec.ofNat 64 (Gregorian.seconds 1900 (Tm.ofMoment _).toMoment) - unixEpoch = time
    rw [toMoment_ofMoment hvalid (by omega), Gregorian.seconds_momentOf, hsame,
      BitVec.add_sub_cancel]

/-- Register B leaves the time where the clock was not stopped for a change. -/
lemma timeval_cmosWriteStatB {lib : TimeLibrary} {value : BitVec 32} {s : Cmos}
    (h : ¬ 0x80 ≤ s.registers regStatB) : (cmosWriteStatB lib value s).1.timeval = s.timeval :=
  cmosWriteStatB_keeps Cmos.timeval (fun _ => rfl) (fun _ _ => rfl) (fun _ _ => rfl)
    (fun _ => rfl) fun hset => absurd hset h

/-- The guest asks for the 12-hour mode. -/
lemma timeval_twelveHour {lib : TimeLibrary} {time : BitVec 64} :
    (cmosRun lib (cmosInitialize lib time 0) [.write 0x70 0x0b, .write 0x71 0x00]).timeval =
      time := by
  have hwrite : cmosRun lib (cmosInitialize lib time 0) [.write 0x70 0x0b, .write 0x71 0x00] =
      (cmosWriteStatB lib 0x00 { cmosInitialize lib time 0 with cmosAddress := 0x0b }).1 := rfl
  have hrunning : ¬ 0x80 ≤ (cmosInitialize lib time 0).registers regStatB := by
    show ¬ (0x80 : BitVec 8) ≤ 0x02
    decide
  rw [hwrite]
  exact timeval_cmosWriteStatB hrunning

end Utc

/-- The 29th of February 2000, half past an hour. -/
def leapDay (hour : BitVec 32) : Tm := ⟨0, 30, hour, 29, 1, 100⟩

/-- The clock at that time, set to the 12-hour mode by the guest. -/
def twelveHourClock (hour : BitVec 32) : Cmos :=
  cmosRun utc (cmosInitialize utc (utc.mktime (leapDay hour)) 0)
    [.write 0x70 0x0b, .write 0x71 0x00]

lemma leapDay_valid {hour : BitVec 32} (h : hour < 24) : (leapDay hour).Valid where
  sec := show (0 : BitVec 32) < 60 by decide
  min := show (30 : BitVec 32) < 60 by decide
  hour := h
  mday_pos := show (0 : BitVec 32) < 29 by decide
  mday_le := show 29 ≤ Gregorian.monthDays 2000 1 by decide
  mon := show (1 : BitVec 32) < 12 by decide
  year := show (100 : BitVec 32) < 256 by decide

lemma localtime_twelveHourClock {hour : BitVec 32} (h : hour < 24) :
    utc.localtime (twelveHourClock hour).timeval = leapDay hour := by
  rw [twelveHourClock, timeval_twelveHour]
  exact utc_inverse.localtime_mktime _ (leapDay_valid h)

/-- At half past ten the clock comes back. -/
theorem cmos_clock_round_trips_at_ten : (twelveHourClock 10).RoundTrips utc := by
  have htime := localtime_twelveHourClock (show (10 : BitVec 32) < 24 by decide)
  refine (cmos_clock_round_trips_iff utc (twelveHourClock 10) utc_inverse ?_).mpr fun _ => ?_
  · rw [htime]
    exact leapDay_valid (by decide)
  · rw [htime]
    exact .inl rfl

/-- At half past nine the registers stand for half past midnight. -/
theorem cmos_clock_moves_at_nine :
    ((cmosUpdateClock utc (twelveHourClock 9)).calendar).tmHour = 0 ∧
      ¬ (twelveHourClock 9).RoundTrips utc := by
  have htime := localtime_twelveHourClock (show (9 : BitVec 32) < 24 by decide)
  have hvalid : (utc.localtime (twelveHourClock 9).timeval).Valid := by
    rw [htime]
    exact leapDay_valid (by decide)
  constructor
  · rw [calendar_cmosUpdateClock hvalid, htime]
    rfl
  · rintro ⟨hback, -⟩
    have hkept := (cmosUpdateTimeval_eq_iff utc_inverse hvalid).mp hback (by decide)
    rw [htime] at hkept
    exact absurd hkept (by decide)

end Svmm
