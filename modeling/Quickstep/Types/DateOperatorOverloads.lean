import Quickstep.Types.Literals

/-!
# Datetimes and intervals

`DatetimeLit` and the overloaded operators on dates and intervals. A datetime counts microseconds
from the epoch; calendar arithmetic goes through the broken-down time of the C library.
-/

namespace Quickstep.Types

/-! ## Datetimes -/

namespace DatetimeLit

def ticksPerSecond : BitVec 64 := 1000000

def fromEpochTime (time : BitVec 64) : BitVec 64 := time * ticksPerSecond

def epochTime (ticks : BitVec 64) : BitVec 64 := ticks.sdiv ticksPerSecond

def subseconds (ticks : BitVec 64) : BitVec 64 := ticks.srem ticksPerSecond

variable (platform : Platform)

def yearField (ticks : BitVec 64) : BitVec 64 :=
  ((platform.gmtimeR (epochTime ticks)).tmYear + 1900).signExtend 64

def monthField (ticks : BitVec 64) : BitVec 64 :=
  ((platform.gmtimeR (epochTime ticks)).tmMon + 1).signExtend 64

def dayField (ticks : BitVec 64) : BitVec 64 :=
  (platform.gmtimeR (epochTime ticks)).tmMday.signExtend 64

def hourField (ticks : BitVec 64) : BitVec 64 :=
  (platform.gmtimeR (epochTime ticks)).tmHour.signExtend 64

def minuteField (ticks : BitVec 64) : BitVec 64 :=
  (platform.gmtimeR (epochTime ticks)).tmMin.signExtend 64

def secondField (ticks : BitVec 64) : BitVec 64 :=
  (platform.gmtimeR (epochTime ticks)).tmSec.signExtend 64

end DatetimeLit

/-- Month arithmetic clamps to the last day of the month. -/
def clampDayOfMonth (timeinfo : Tm) : Tm :=
  match timeinfo.tmMon.toNat with
  | 1 =>
    let daysInFebruary : BitVec 32 :=
      if timeinfo.tmYear &&& 3 = 0 ∧
          (timeinfo.tmYear.srem 25 ≠ 0 ∨ (timeinfo.tmYear + 1900) &&& 15 = 0) then 29
      else 28
    { timeinfo with
      tmMday := if daysInFebruary.slt timeinfo.tmMday then daysInFebruary else timeinfo.tmMday }
  | 3 | 5 | 8 | 10 =>
    { timeinfo with tmMday := if timeinfo.tmMday = 31 then 30 else timeinfo.tmMday }
  | _ => timeinfo

section Overloads

variable (platform : Platform)

/-- The instant of a broken-down time, with the subseconds of the datetime it came from. -/
def rebuildDatetime (timeinfo : Tm) (ticks : BitVec 64) : BitVec 64 :=
  DatetimeLit.fromEpochTime (platform.timegm (clampDayOfMonth timeinfo)) +
    DatetimeLit.subseconds ticks

/-- `operator+` of a datetime and a year-month interval. -/
def addMonths (ticks months : BitVec 64) : BitVec 64 :=
  let timeinfo := platform.gmtimeR (DatetimeLit.epochTime ticks)
  let tmYear := (timeinfo.tmYear.signExtend 64 + months.sdiv 12).setWidth 32
  let tmMon : BitVec 32 := (timeinfo.tmMon.signExtend 64 + months.srem 12).setWidth 32
  rebuildDatetime platform
    (if BitVec.slt 11 tmMon then { timeinfo with tmYear := tmYear + 1, tmMon := tmMon - 12 }
      else { timeinfo with tmYear, tmMon })
    ticks

/-- `operator-` of a datetime and a year-month interval. -/
def subtractMonths (ticks months : BitVec 64) : BitVec 64 :=
  let timeinfo := platform.gmtimeR (DatetimeLit.epochTime ticks)
  let tmYear := (timeinfo.tmYear.signExtend 64 - months.sdiv 12).setWidth 32
  let tmMon : BitVec 32 := (timeinfo.tmMon.signExtend 64 - months.srem 12).setWidth 32
  rebuildDatetime platform
    (if BitVec.slt tmMon 0 then { timeinfo with tmYear := tmYear - 1, tmMon := tmMon + 12 }
      else { timeinfo with tmYear, tmMon })
    ticks

/-- `operator*=` and `operator/=` of an interval and a number: the built-in compound assignment to
a 64-bit integer. -/
def scaleInterval (operation : BinaryOperation) (type : NumericType) (interval : BitVec 64)
    (scalar : type.Value) : BitVec 64 :=
  let common := usualArithmeticConversion .long type
  staticCast platform common .long
    (arithmetic platform operation common (staticCast platform .long common interval)
      (staticCast platform type common scalar))

end Overloads

end Quickstep.Types
