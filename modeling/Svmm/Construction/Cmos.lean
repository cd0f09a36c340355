import Svmm.Framework.Word
import Svmm.Construction.DeviceCall

/-!
# The real-time clock

`cmos.c`: the clock registers and the time they stand for, the handlers of the clock's timers, and
the ports.  `localtime` and `mktime` are those of the C library; `mktime` is taken to depend on the
fields that `CmosUpdateTimeval` sets.  The memory size and the checksum, which are stored at the
start, are left out.
-/

namespace Svmm

/-! ## State -/

/-- The fields of `struct tm` that are read and set. -/
@[ext] structure Tm where
  tmSec : BitVec 32
  tmMin : BitVec 32
  tmHour : BitVec 32
  tmMday : BitVec 32
  tmMon : BitVec 32
  tmYear : BitVec 32
  deriving DecidableEq

/-- The calendar of the C library, with `tm_wday` apart, which is only read. -/
structure TimeLibrary where
  localtime : BitVec 64 → Tm
  weekday : BitVec 64 → BitVec 32
  mktime : Tm → BitVec 64

def regSec : BitVec 8 := 0x00
def regSecAlarm : BitVec 8 := 0x01
def regMin : BitVec 8 := 0x02
def regMinAlarm : BitVec 8 := 0x03
def regHour : BitVec 8 := 0x04
def regHourAlarm : BitVec 8 := 0x05
def regWeekDay : BitVec 8 := 0x06
def regMonthDay : BitVec 8 := 0x07
def regMonth : BitVec 8 := 0x08
def regYear : BitVec 8 := 0x09
def regStatA : BitVec 8 := 0x0a
def regStatB : BitVec 8 := 0x0b
def regStatC : BitVec 8 := 0x0c
def regStatD : BitVec 8 := 0x0d
def regDiagnosticStatus : BitVec 8 := 0x0e
def regShutdownStatus : BitVec 8 := 0x0f
def regEquipmentByte : BitVec 8 := 0x14
def regIbmCenturyByte : BitVec 8 := 0x32
def regIbmPs2CenturyByte : BitVec 8 := 0x37

/-- `TICK_PERIOD`. -/
def tickPeriod : BitVec 32 := 4000000

/-- `Cmos`, with `PeriodicTimerIndex` and `UipTimerIndex`. -/
structure Cmos where
  registers : BitVec 8 → BitVec 8
  cmosAddress : BitVec 8
  cmosExtAddress : BitVec 8
  timevalChange : BitVec 8
  rtcMode12hour : BitVec 8
  rtcModeBinary : BitVec 8
  interruptEnabled : BitVec 8
  timeval : BitVec 64
  periodicIntervalUsec : BitVec 32
  periodicTimerIndex : BitVec 32
  uipTimerIndex : BitVec 32

def Cmos.setRegister (address value : BitVec 8) (s : Cmos) : Cmos :=
  { s with registers := Function.update s.registers address value }

/-! ## Registers and time -/

/-- `bcd_to_bin`. -/
def bcdToBin (value isBinary : BitVec 8) : BitVec 8 :=
  if isBinary ≠ 0 then value else (value >>> 4) * 10 + (value &&& 0x0f)

/-- `bin_to_bcd`. -/
def binToBcd (value isBinary : BitVec 8) : BitVec 8 :=
  if isBinary ≠ 0 then value else (value / 10) <<< 4 ||| value % 10

/-- The hour register that `CmosUpdateClock` writes. -/
def hourRegister (mode12hour isBinary hour : BitVec 8) : BitVec 8 :=
  if mode12hour ≠ 0 then
    let pm : BitVec 8 := if 11 < hour then 0x80 else 0x00
    let hour := if 11 < hour then hour - 12 else hour
    let hour := if hour = 0 then 12 else hour
    pm ||| binToBcd hour isBinary
  else binToBcd hour isBinary

/-- `CmosUpdateClock`. -/
def cmosUpdateClock (lib : TimeLibrary) (s : Cmos) : Cmos :=
  let t := lib.localtime s.timeval
  let bcd (x : BitVec 32) : BitVec 8 := binToBcd (x.setWidth 8) s.rtcModeBinary
  let century := bcd (t.tmYear.sdiv 100 + 19)
  (((((((((s.setRegister regSec (bcd t.tmSec)).setRegister regMin (bcd t.tmMin)).setRegister
    regHour (hourRegister s.rtcMode12hour s.rtcModeBinary (t.tmHour.setWidth 8))).setRegister
    regWeekDay (bcd (lib.weekday s.timeval + 1))).setRegister
    regMonthDay (bcd t.tmMday)).setRegister
    regMonth (bcd (t.tmMon + 1))).setRegister
    regYear (bcd (t.tmYear.srem 100))).setRegister
    regIbmCenturyByte century).setRegister
    regIbmPs2CenturyByte century)

/-- The hour that `CmosUpdateTimeval` takes from the register; in 12-hour mode it masks the low
digit. -/
def registerHour (mode12hour isBinary register : BitVec 8) : BitVec 8 :=
  if mode12hour ≠ 0 then
    let pmFlag := register &&& 0x80
    let value := bcdToBin (register &&& 0x70) isBinary
    if value < 12 ∧ pmFlag ≠ 0 then value + 12
    else if value = 12 ∧ pmFlag = 0 then 0
    else value
  else bcdToBin register isBinary

/-- The time that the clock registers stand for. -/
def Cmos.calendar (s : Cmos) : Tm :=
  let bin (address : BitVec 8) : BitVec 8 := bcdToBin (s.registers address) s.rtcModeBinary
  { tmSec := (bin regSec).setWidth 32
    tmMin := (bin regMin).setWidth 32
    tmHour := (registerHour s.rtcMode12hour s.rtcModeBinary (s.registers regHour)).setWidth 32
    tmMday := (bin regMonthDay).setWidth 32
    tmMon := (bin regMonth).setWidth 32 - 1
    tmYear := ((bin regIbmCenturyByte - 19) * 100 + bin regYear).setWidth 32 }

/-- `CmosUpdateTimeval`. -/
def cmosUpdateTimeval (lib : TimeLibrary) (s : Cmos) : Cmos :=
  { s with timeval := lib.mktime s.calendar }

/-! ## Timers -/

/-- The flags added to register C, and the interrupt. -/
def Cmos.interrupt (flags : BitVec 8) (s : Cmos) : Cmos × List DeviceCall :=
  (s.setRegister regStatC (s.registers regStatC ||| flags),
    if s.interruptEnabled ≠ 0 then [.raiseIrq rtcIrq] else [])

/-- `CmosPeriodicTimer`. -/
def cmosPeriodicTimer (s : Cmos) : Cmos × List DeviceCall :=
  if s.registers regStatB &&& 0x40 ≠ 0 then s.interrupt 0xc0 else (s, [])

/-- `CmosOneSecondTimer`. -/
def cmosOneSecondTimer (s : Cmos) : Cmos × List DeviceCall :=
  if s.registers regStatA &&& 0x60 = 0x60 then (s, [])
  else
    let s := { s with timeval := s.timeval + 1 }
    if s.registers regStatB &&& 0x80 ≠ 0 then (s, [])
    else
      (s.setRegister regStatA (s.registers regStatA ||| 0x80),
        [.timer (.activate s.uipTimerIndex (tickPeriod.setWidth 64) 0)])

/-- The alarm register does not care, or holds what the clock register does. -/
def Cmos.AlarmAt (register alarm : BitVec 8) (s : Cmos) : Prop :=
  s.registers alarm &&& 0xc0 = 0xc0 ∨ s.registers register = s.registers alarm

/-- `alarm_match`. -/
def Cmos.AlarmMatch (s : Cmos) : Prop :=
  s.AlarmAt regSec regSecAlarm ∧ s.AlarmAt regMin regMinAlarm ∧ s.AlarmAt regHour regHourAlarm

instance (register alarm : BitVec 8) (s : Cmos) : Decidable (s.AlarmAt register alarm) :=
  inferInstanceAs (Decidable (_ ∨ _))

instance (s : Cmos) : Decidable s.AlarmMatch := inferInstanceAs (Decidable (_ ∧ _))

/-- `CmosUipTimer`. -/
def cmosUipTimer (lib : TimeLibrary) (s : Cmos) : Cmos × List DeviceCall :=
  let s := cmosUpdateClock lib s
  let (s, ended) := if s.registers regStatB &&& 0x10 ≠ 0 then s.interrupt 0x90 else (s, [])
  let (s, alarm) :=
    if s.registers regStatB &&& 0x20 ≠ 0 ∧ s.AlarmMatch then s.interrupt 0xa0 else (s, [])
  (s.setRegister regStatA (s.registers regStatA &&& 0x7f), ended ++ alarm)

/-! ## The ports -/

/-- `CmosPortIoReadHandler`.  Register C is cleared before it is returned. -/
def cmosPortIoReadHandler (address : BitVec 64) (s : Cmos) :
    BitVec 32 × Cmos × List DeviceCall :=
  if address = 0x70 ∨ address = 0x72 then (0xff, s, [])
  else if address = 0x71 then
    let (s, calls) :=
      if s.cmosAddress = regStatC then (s.setRegister regStatC 0x00, [.lowerIrq 8]) else (s, [])
    ((s.registers s.cmosAddress).setWidth 32, s, calls)
  else if address = 0x73 then ((s.registers s.cmosExtAddress).setWidth 32, s, [])
  else (0, s, [])

/-- `1000000 / (32768 / 2 ^ (nibble - 1))`, which is exact in floating point before it is cut. -/
def periodicUsec (nibble : BitVec 8) : BitVec 32 :=
  BitVec.ofNat 32 (15625 * 2 ^ (nibble.toNat - 1) / 512)

/-- `CraChange`. -/
def craChange (s : Cmos) : Cmos × List DeviceCall :=
  let nibble := s.registers regStatA &&& 0x0f
  let dcc := s.registers regStatA >>> 4 &&& 0x07
  if nibble = 0 ∨ dcc &&& 0x06 = 0 then
    ({ s with periodicIntervalUsec := -1 }, [.timer (.deactivate s.periodicTimerIndex)])
  else
    let nibble := if nibble ≤ 2 then nibble + 7 else nibble
    let interval := periodicUsec nibble * tickPeriod
    ({ s with periodicIntervalUsec := interval },
      [.timer (if s.registers regStatB &&& 0x40 ≠ 0 then
          .activate s.periodicTimerIndex (interval.setWidth 64) 0
        else .deactivate s.periodicTimerIndex)])

/-- A write of register B. -/
def cmosWriteStatB (lib : TimeLibrary) (value : BitVec 32) (s : Cmos) : Cmos × List DeviceCall :=
  let value := value.setWidth 8 &&& 0xf7
  let value := if value &&& 0x80 ≠ 0 then value &&& 0xef else value
  let previous := s.registers regStatB
  let s := s.setRegister regStatB value
  let s :=
    if previous &&& 0x02 ≠ value &&& 0x02 then
      cmosUpdateClock lib { s with rtcMode12hour := if value &&& 0x02 = 0 then 1 else 0 }
    else s
  let s :=
    if previous &&& 0x04 ≠ value &&& 0x04 then
      cmosUpdateClock lib { s with rtcModeBinary := if value &&& 0x04 ≠ 0 then 1 else 0 }
    else s
  let calls : List DeviceCall :=
    if previous &&& 0x40 ≠ value &&& 0x40 then
      if previous &&& 0x40 ≠ 0 then [.timer (.deactivate s.periodicTimerIndex)]
      else if s.registers regStatA &&& 0x0f ≠ 0 then
        [.timer (.activate s.periodicTimerIndex (s.periodicIntervalUsec.setWidth 64) 0)]
      else []
    else []
  if 0x80 ≤ previous ∧ value < 0x80 ∧ s.timevalChange ≠ 0 then
    ({ cmosUpdateTimeval lib s with timevalChange := 0 }, calls)
  else (s, calls)

/-- The registers of the clock that a guest writes. -/
def clockRegisters : List (BitVec 8) :=
  [regSec, regMin, regHour, regWeekDay, regMonthDay, regMonth, regYear, regIbmCenturyByte,
    regIbmPs2CenturyByte]

/-- A write of a register of the clock. -/
def cmosWriteClock (lib : TimeLibrary) (value : BitVec 8) (s : Cmos) : Cmos :=
  let address := s.cmosAddress
  let s := s.setRegister address value
  let s := if address = regIbmPs2CenturyByte then s.setRegister regIbmCenturyByte value else s
  if s.registers regStatB &&& 0x80 ≠ 0 then { s with timevalChange := 1 }
  else cmosUpdateTimeval lib s

/-- `CmosPortIoWriteHandler`. -/
def cmosPortIoWriteHandler (lib : TimeLibrary) (address : BitVec 64) (value : BitVec 32)
    (s : Cmos) : Cmos × List DeviceCall :=
  if address = 0x70 then ({ s with cmosAddress := value.setWidth 8 &&& 0x7f }, [])
  else if address = 0x71 then
    let byte := value.setWidth 8
    if s.cmosAddress = regSecAlarm ∨ s.cmosAddress = regMinAlarm ∨ s.cmosAddress = regHourAlarm then
      (s.setRegister s.cmosAddress byte, [])
    else if s.cmosAddress ∈ clockRegisters then (cmosWriteClock lib byte s, [])
    else if s.cmosAddress = regStatA then
      craChange (s.setRegister regStatA (s.registers regStatA &&& 0x80 ||| byte &&& 0x7f))
    else if s.cmosAddress = regStatB then cmosWriteStatB lib value s
    else if s.cmosAddress = regDiagnosticStatus then (s.setRegister regDiagnosticStatus byte, [])
    else if s.cmosAddress = regShutdownStatus then (s.setRegister regShutdownStatus byte, [])
    else (s, [])
  else if address = 0x72 then ({ s with cmosExtAddress := value.setWidth 8 ||| 0x80 }, [])
  else (s, [])

/-- `CmosSetInterrupt`. -/
def cmosSetInterrupt (enable : BitVec 8) (s : Cmos) : Cmos := { s with interruptEnabled := enable }

/-- `CmosInitialize` at a time, with the timer that it registers; `PeriodicTimerIndex` is never
set. -/
def cmosInitialize (lib : TimeLibrary) (time : BitVec 64) (uipTimerIndex : BitVec 32) : Cmos :=
  let registers : BitVec 8 → BitVec 8 := Function.update (Function.update (Function.update
    (Function.update (fun _ => 0) regStatA 0x26) regStatB 0x02) regStatD 0x80) regEquipmentByte 0x02
  { cmosUpdateClock lib
      { registers := registers, cmosAddress := 0, cmosExtAddress := 0, timevalChange := 0
        rtcMode12hour := 0, rtcModeBinary := 0, interruptEnabled := 0, timeval := time
        periodicIntervalUsec := 0, periodicTimerIndex := 0, uipTimerIndex := uipTimerIndex }
    with interruptEnabled := 1 }

/-! ## Runs -/

/-- What happens to the clock. -/
inductive CmosOp where
  | read (address : BitVec 64)
  | write (address : BitVec 64) (value : BitVec 32)
  | periodicTimer
  | oneSecondTimer
  | uipTimer
  | setInterrupt (enable : BitVec 8)

/-- One operation, with the calls that it makes. -/
def cmosStep (lib : TimeLibrary) (s : Cmos) : CmosOp → Cmos × List DeviceCall
  | .read address => (cmosPortIoReadHandler address s).2
  | .write address value => cmosPortIoWriteHandler lib address value s
  | .periodicTimer => cmosPeriodicTimer s
  | .oneSecondTimer => cmosOneSecondTimer s
  | .uipTimer => cmosUipTimer lib s
  | .setInterrupt enable => (cmosSetInterrupt enable s, [])

end Svmm
