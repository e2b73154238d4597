import Quickstep.Lib.FormattedText
import Quickstep.Types.Gmtime

/-!
# Datetime type

How `types/DatetimeType.cpp` prints datetimes in ISO 8601 notation and parses them. The parser scans
the string once; a date, a date with a time, and a time with subseconds are told apart by the number
of fields that the scan has stored.
-/

namespace Quickstep.Types
open Quickstep.Lib

namespace DatetimeType

/-! ## Printing -/

/-- `DatetimeLit::kIsoChars`. -/
def kIsoChars : Nat := 1 + 18 + 1 + 2 + 1 + 2 + 1 + 2 + 1 + 2 + 1 + 2 + 1 + 6

/-- Years of more than four digits and years before 0 have a sign. -/
def yearText (actualYear : Int) : List Char :=
  (if actualYear > 9999 || actualYear < 0 then printNumber true 5 actualYear
    else printNumber false 4 actualYear) ++ ['-']

/-- `"%02d-%02dT%02d:%02d:%02d"`. -/
def dateTimeText (month day hour minute second : Int) : List Char :=
  printNumber false 2 month ++ '-' :: (printNumber false 2 day ++ 'T' ::
    (printNumber false 2 hour ++ ':' :: (printNumber false 2 minute ++ ':' ::
      printNumber false 2 second)))

def printSubseconds (subseconds : Int) (written : List Char) : Exec (List Char) :=
  if subseconds = 0 then .ok written
  else snprintf (kIsoChars + 1) written ('.' :: printNumber false 6 subseconds)

def printValueToString (gmtimeR : BitVec 64 → Tm) (value : TypedValue) : Exec (List Char) := do
  let literal := value.getLiteral .datetimeLit
  let timeinfo := gmtimeR (DatetimeLit.epochTime literal)
  let actualYear ← int64 (1900 + timeinfo.tmYear.toInt)
  let written ← snprintf (kIsoChars + 1) [] (yearText actualYear)
  let month ← int32 (timeinfo.tmMon.toInt + 1)
  let written ← snprintf (kIsoChars + 1) written
    (dateTimeText month timeinfo.tmMday.toInt timeinfo.tmHour.toInt timeinfo.tmMin.toInt
      timeinfo.tmSec.toInt)
  printSubseconds (DatetimeLit.subseconds literal).toInt written

/-! ## Parsing -/

/-- `".%6[0-9]%n"`. -/
def subsecondsFormat : List Directive :=
  [.literal '.', .set Char.isDigit (some 6) true, .position]

/-- `"%c%2d:%2d:%2d%n.%6[0-9]%n"`. -/
def timeFormat : List Directive :=
  .character :: .number 32 (some 2) :: .literal ':' :: .number 32 (some 2) :: .literal ':' ::
    .number 32 (some 2) :: .position :: subsecondsFormat

/-- `"-%2d-%2d%n%c%2d:%2d:%2d%n.%6[0-9]%n"`. -/
def monthFormat : List Directive :=
  .literal '-' :: .number 32 (some 2) :: .literal '-' :: .number 32 (some 2) :: .position ::
    timeFormat

/-- `"%d-%2d-%2d%n%c%2d:%2d:%2d%n.%6[0-9]%n"`. -/
def datetimeFormat : List Directive := .number 32 none :: monthFormat

/-- What stands behind the date. -/
structure TimeFields where
  separator : Char
  hour : Int
  minute : Int
  second : Int
  /-- The digits of the subseconds, if there are any. -/
  subsecondBuffer : Option (List Char)

structure DatetimeFields where
  year : Int
  month : Int
  day : Int
  time : Option TimeFields

/-- The fields of a string that ends where its last field ends. -/
def scanFields (valueString : List Char) : Exec (Option DatetimeFields) := do
  match ← sscanf valueString datetimeFormat with
  | [.number year, .number month, .number day, .position dateChars] =>
    if dateChars = valueString.length then pure (some ⟨year, month, day, none⟩) else pure none
  | [.number year, .number month, .number day, .position _, .character separator, .number hour,
      .number minute, .number second, .position dateTimeChars] =>
    if dateTimeChars = valueString.length then
      pure (some ⟨year, month, day, some ⟨separator, hour, minute, second, none⟩⟩)
    else pure none
  | [.number year, .number month, .number day, .position _, .character separator, .number hour,
      .number minute, .number second, .position _, .text subsecondBuffer,
      .position dateTimeSubsecondsChars] =>
    if dateTimeSubsecondsChars = valueString.length then
      pure (some ⟨year, month, day, some ⟨separator, hour, minute, second, some subsecondBuffer⟩⟩)
    else pure none
  | _ => pure none

/-- `days_in_february`. -/
def daysInFebruary (year : Int) : Int :=
  let bits := BitVec.ofInt 32 year
  if bits &&& 3 = 0 ∧ (year.tmod 25 ≠ 0 ∨ bits &&& 15 = 0) then 29 else 28

/-- The checks of the month and of the day of the month. -/
def DatetimeFields.checkDate (fields : DatetimeFields) : Bool :=
  if fields.month < 1 || fields.month > 12 then false
  else if fields.day < 1 then false
  else if fields.month = 2 then fields.day ≤ daysInFebruary fields.year
  else if fields.month = 4 || fields.month = 6 || fields.month = 9 || fields.month = 11 then
    fields.day ≤ 30
  else fields.day ≤ 31

def TimeFields.check (time : TimeFields) : Bool :=
  if !(time.separator == 'T' || time.separator == 't' || time.separator == ' ') then false
  else if time.hour < 0 || time.hour > 23 then false
  else if time.minute < 0 || time.minute > 59 then false
  else !(time.second < 0 || time.second > 59)

def DatetimeFields.checkTime (fields : DatetimeFields) : Bool := fields.time.all TimeFields.check

/-- `time_parts`, which is zero where nothing is set. -/
def DatetimeFields.timeParts (fields : DatetimeFields) : Exec Tm := do
  let tmYear ← int32 (fields.year - 1900)
  let tmMon ← int32 (fields.month - 1)
  let ofInt := BitVec.ofInt 32
  pure (match fields.time with
    | some time => ⟨ofInt tmYear, ofInt tmMon, ofInt fields.day, ofInt time.hour, ofInt time.minute,
        ofInt time.second⟩
    | none => ⟨ofInt tmYear, ofInt tmMon, ofInt fields.day, 0, 0, 0⟩)

/-- The test for the last second of 1969. The hour and the minute are assigned to, not compared, so
that these two of its conditions always hold. -/
def DatetimeFields.lastSecondOf1969 (fields : DatetimeFields) (timeParts : Tm) : Bool :=
  fields.year == 1969 && fields.month == 12 && fields.day == 31 && timeParts.tmSec.toInt == 59

/-- The subseconds in six digits, or nothing if `false` is returned. -/
def DatetimeFields.subseconds (fields : DatetimeFields) : Exec (Option Int) :=
  match fields.time with
  | some ⟨_, _, _, _, some subsecondBuffer⟩ =>
    if subsecondBuffer.length = 0 then .ok none
    else do
      let subseconds ← atoi subsecondBuffer
      if subseconds < 0 then pure none
      else some <$> scaleByTen 64 subseconds (6 - subsecondBuffer.length)
  | _ => .ok (some 0)

/-- `DatetimeLit::FromEpochTimePlusSubseconds`. -/
def fromEpochTimePlusSubseconds (time subseconds : Int) : Exec Int := do
  int64 ((← int64 (time * DatetimeLit.ticksPerSecond.toInt)) + subseconds)

/-- From the seconds to the literal. -/
def DatetimeFields.literal (fields : DatetimeFields) (timeParts : Tm) (epochTime : Int) :
    Exec (Option Int) := do
  if epochTime = -1 && !fields.lastSecondOf1969 timeParts then pure none
  else
    match ← fields.subseconds with
    | none => pure none
    | some subseconds => some <$> fromEpochTimePlusSubseconds epochTime subseconds

/-- What follows the scan. -/
def DatetimeFields.value (fields : DatetimeFields) : Exec (Option Int) := do
  if !fields.checkDate then pure none
  else
    let timeParts ← fields.timeParts
    if !fields.checkTime then pure none
    else fields.literal timeParts (← timegmCustom timeParts)

def parseValueFromString (valueString : List Char) : Exec (Option TypedValue) := do
  match ← scanFields valueString with
  | none => pure none
  | some fields =>
    let literal ← fields.value
    pure (literal.map fun ticks => TypedValue.ofLiteral .datetimeLit (BitVec.ofInt 64 ticks))

end DatetimeType

end Quickstep.Types
