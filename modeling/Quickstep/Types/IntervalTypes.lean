import Quickstep.Types.IntervalParser
import Quickstep.Types.Literals

/-!
# Interval types

How `types/DatetimeIntervalType.cpp` and `types/YearMonthIntervalType.cpp` print their values and
parse them.
-/

namespace Quickstep.Types
open Quickstep.Lib

/-- `if (negative_interval) { subseconds = -subseconds; }`. -/
def intervalMagnitude (interval : Int) : Exec Int :=
  if interval < 0 then int64 (-interval) else .ok interval

/-- What is written first. -/
def intervalSign (interval : Int) : List Char := if interval < 0 then ['-'] else []

/-- `parseValueFromString` of both types: the simple format, then the complex one. -/
def parseInterval (simpleFormat : Int → List Char → Exec (Option Int))
    (complexFormat : List Char → Exec (Option Int)) (valueString : List Char) :
    Exec (Option Int) := do
  match ← IntervalParser.parseSimpleFormatFieldsFromCombinedStringNoExtraWhitespace valueString with
  | some (count, units) =>
    match ← simpleFormat count units with
    | some literal => pure (some literal)
    | none => complexFormat valueString
  | none => complexFormat valueString

/-! ## Sign and magnitude -/

theorem intervalMagnitude_eq {interval : Int} (fits : interval.natAbs < 2 ^ 63) :
    intervalMagnitude interval = .ok (interval.natAbs : Int) := by
  unfold intervalMagnitude
  split
  · rw [int64_ok (by omega) (by omega), Int.ofNat_natAbs_of_nonpos (by omega)]
  · rw [Int.natAbs_of_nonneg (by omega)]

/-- Only the least number has a magnitude that does not fit. -/
theorem natAbs_toInt_lt {interval : BitVec 64} (notMin : interval ≠ BitVec.intMin 64) :
    interval.toInt.natAbs < 2 ^ 63 := by
  have lower := BitVec.le_toInt interval
  have upper := @BitVec.toInt_lt 64 interval
  have differs : interval.toInt ≠ (BitVec.intMin 64).toInt := fun same =>
    notMin (BitVec.toInt_inj.mp same)
  have least : (BitVec.intMin 64).toInt = -9223372036854775808 := rfl
  omega

/-- A number is its sign and its magnitude. -/
theorem ofInt_natAbs (interval : BitVec 64) :
    BitVec.ofInt 64 (if decide (interval.toInt < 0) = true then -(interval.toInt.natAbs : Int)
      else interval.toInt.natAbs) = interval := by
  have magnitude : (if decide (interval.toInt < 0) = true then -(interval.toInt.natAbs : Int)
      else interval.toInt.natAbs) = interval.toInt := by
    simp only [decide_eq_true_eq]
    omega
  rw [magnitude, BitVec.ofInt_toInt]

theorem intervalSign_eq (interval : Int) :
    intervalSign interval = if decide (interval < 0) = true then ['-'] else [] := by
  simp only [decide_eq_true_eq]
  rfl

theorem length_intervalSign (interval : Int) : (intervalSign interval).length ≤ 1 := by
  unfold intervalSign
  split
  · exact Nat.le_refl 1
  · exact Nat.zero_le 1

/-! ## The types -/

namespace DatetimeIntervalType

/-- `DatetimeIntervalLit::kPrintingChars`. -/
def kPrintingChars : Nat := 1 + 18 + 6 + 2 + 1 + 2 + 1 + 2 + 1 + 6

def printDays (days : Int) (written : List Char) : Exec (List Char) :=
  if days = 0 then .ok written
  else do
    let written ← snprintf (kPrintingChars + 1) written (printNumber false 0 days)
    snprintf (kPrintingChars + 1) written (if days = 1 then " day " else " days ").toList

def printSubseconds (subseconds : Int) (written : List Char) : Exec (List Char) :=
  if subseconds = 0 then .ok written
  else snprintf (kPrintingChars + 1) written ('.' :: printNumber false 6 subseconds)

def printValueToString (value : TypedValue) : Exec (List Char) := do
  let interval := (value.getLiteral .datetimeIntervalLit).toInt
  let subseconds ← intervalMagnitude interval
  let seconds := subseconds.tdiv kIntervalTicksPerSecond
  let subseconds ← int64 (subseconds - (← int64 (seconds * kIntervalTicksPerSecond)))
  let days := seconds.tdiv (24 * 60 * 60)
  let seconds ← int64 (seconds - (← int64 (days * (24 * 60 * 60))))
  let written ← printDays days (intervalSign interval)
  let hours := toInt32 (seconds.tdiv (60 * 60))
  let minutes := toInt32 ((← int64 (seconds - (← int32 (hours * (60 * 60))))).tdiv 60)
  let inMinutes ← int32 ((← int32 (60 * hours)) + minutes)
  let secondsRemainder := toInt32 (← int64 (seconds - (← int32 (inMinutes * 60))))
  let written ← snprintf (kPrintingChars + 1) written
    (printNumber false 2 hours ++ ':' :: (printNumber false 2 minutes ++
      ':' :: printNumber false 2 secondsRemainder))
  printSubseconds subseconds written

def parseValueFromString (valueString : List Char) : Exec (Option TypedValue) := do
  let literal ← parseInterval IntervalParser.parseDatetimeIntervalSimpleFormat
    IntervalParser.parseDatetimeIntervalComplexFormat valueString
  pure (literal.map fun ticks =>
    TypedValue.ofLiteral .datetimeIntervalLit (BitVec.ofInt 64 ticks))

end DatetimeIntervalType

namespace YearMonthIntervalType

/-- `YearMonthIntervalLit::kPrintingChars`. -/
def kPrintingChars : Nat := 1 + 18 + 7 + 2 + 5

def printYears (years : Int) (written : List Char) : Exec (List Char) :=
  if years = 0 then .ok written
  else do
    let written ← snprintf (kPrintingChars + 1) written (printNumber false 0 years)
    snprintf (kPrintingChars + 1) written (if years = 1 then " year" else " years").toList

/-- The blank between the years and the months, which needs room for one more character. -/
def printBlank (years : Int) (written : List Char) : Exec (List Char) :=
  if years = 0 then .ok written
  else if written.length + 2 < kPrintingChars + 1 then .ok (written ++ [' '])
  else .error .undefinedBehaviour

def printMonths (years months : Int) (written : List Char) : Exec (List Char) :=
  if months ≠ 0 || years = 0 then do
    let written ← printBlank years written
    let written ← snprintf (kPrintingChars + 1) written (printNumber false 0 months)
    snprintf (kPrintingChars + 1) written (if months = 1 then " mon" else " mons").toList
  else .ok written

def printValueToString (value : TypedValue) : Exec (List Char) := do
  let interval := (value.getLiteral .yearMonthIntervalLit).toInt
  let months ← intervalMagnitude interval
  let years := months.tdiv 12
  let months ← int64 (months - (← int64 (years * 12)))
  let written ← printYears years (intervalSign interval)
  printMonths years months written

def parseValueFromString (valueString : List Char) : Exec (Option TypedValue) := do
  let literal ← parseInterval IntervalParser.parseYearMonthIntervalSimpleFormat
    IntervalParser.parseYearMonthIntervalComplexFormat valueString
  pure (literal.map fun months =>
    TypedValue.ofLiteral .yearMonthIntervalLit (BitVec.ofInt 64 months))

end YearMonthIntervalType

end Quickstep.Types
