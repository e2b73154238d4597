import Quickstep.Types.Accumulation
import Quickstep.Types.DatetimePrinting

/-!
# Date type

How `types/DateType.cpp` prints dates in ISO 8601 notation and parses them. The year is an `int` in the
text as in the literal, but the buffer that is printed to holds a sign and five digits of it.
-/

namespace Quickstep.Types
open Quickstep.Lib

namespace DateType

/-! ## Printing -/

/-- `DateLit::kIsoChars`. -/
def kIsoChars : Nat := 1 + 5 + 1 + 2 + 1 + 2

/-- `"%02d-%02d"`. -/
def monthDayText (month day : Int) : List Char :=
  printNumber false 2 month ++ '-' :: printNumber false 2 day

/-- The year has the format that it has in a datetime. -/
def printValueToString (value : TypedValue) : Exec (List Char) := do
  let literal := value.getComparedLiteral .dateLit
  let written ← snprintf (kIsoChars + 1) [] (DatetimeType.yearText literal.year.toInt)
  snprintf (kIsoChars + 1) written (monthDayText literal.month.toNat literal.day.toNat)

/-! ## Parsing -/

/-- `"%d-%2u-%2u%n"`. A field of two characters is scanned alike by `%2u` and `%2d`; a negative number
wraps around when it is stored. -/
def dateFormat : List Directive :=
  [.number 32 none, .literal '-', .number 32 (some 2), .literal '-', .number 32 (some 2), .position]

/-- The checks of the month and of the day of the month. -/
def checkDate (year : Int) (month day : BitVec 32) : Bool :=
  if month = 0 || month > 12 then false
  else if day = 0 then false
  else if month = 2 then day.toNat ≤ DatetimeType.daysInFebruary year
  else if month = 4 || month = 6 || month = 9 || month = 11 then !(day > 30)
  else !(day > 31)

/-- From the scanned numbers to the literal. -/
def dateValue (year monthField dayField : Int) : Option TypedValue :=
  let month := BitVec.ofInt 32 monthField
  let day := BitVec.ofInt 32 dayField
  if checkDate year month day then
    some (.date (BitVec.ofInt 32 year) (month.setWidth 8) (day.setWidth 8))
  else none

def parseValueFromString (valueString : List Char) : Exec (Option TypedValue) := do
  match ← sscanf valueString dateFormat with
  | [.number year, .number month, .number day, .position dateChars] =>
    if dateChars ≠ valueString.length then pure none else pure (dateValue year month day)
  | _ => pure none

end DateType

/-! ## Dates of the calendar -/

/-- A literal that names a date. -/
def DateLit.IsDate (literal : DateLit) : Prop :=
  ∃ date : Date, date.year = literal.year.toInt ∧ date.month + 1 = literal.month.toNat ∧
    date.day = literal.day.toNat

def DateLit.typedValue (literal : DateLit) : TypedValue :=
  .date literal.year literal.month literal.day

namespace DateType

section Checks

variable {year : Int} {month day : BitVec 32}

/-- The unsigned numbers are checked as the signed ones of a datetime are. -/
theorem checkDate_eq (year : Int) (month day : BitVec 32) :
    checkDate year month day =
      (⟨year, month.toNat, day.toNat, none⟩ : DatetimeType.DatetimeFields).checkDate := by
  have outside : (month = 0 || month > 12) = ((month.toNat : Int) < 1 || (month.toNat : Int) > 12) := by
    rw [Bool.eq_iff_iff]
    simp only [Bool.or_eq_true, decide_eq_true_eq]
    bv_omega
  have isMonth (number : BitVec 32) : (month = number) = ((month.toNat : Int) = number.toNat) := by
    rw [← BitVec.toNat_inj, Int.ofNat_inj]
  have noDay : (day = 0) = ((day.toNat : Int) < 1) := by
    refine propext ?_
    bv_omega
  have atMost (last : BitVec 32) : (!decide (day > last)) = decide ((day.toNat : Int) ≤ last.toNat) := by
    rw [Bool.eq_iff_iff]
    simp only [Bool.not_eq_true', decide_eq_false_iff_not, decide_eq_true_eq]
    bv_omega
  unfold checkDate DatetimeType.DatetimeFields.checkDate
  simp only [outside]
  simp only [isMonth, noDay, atMost]
  rfl

/-- **What is stored is a date of the calendar.** -/
theorem isDate_of_checkDate (fits : InSigned 32 year) (checked : checkDate year month day = true) :
    (⟨BitVec.ofInt 32 year, month.setWidth 8, day.setWidth 8⟩ : DateLit).IsDate := by
  rw [checkDate_eq, DatetimeType.checkDate_iff fits] at checked
  have length := (@daysInMonth_bounds year ((month.toNat : Int) - 1).toNat).2
  have oneLeMonth : 1 ≤ (month.toNat : Int) := checked.one_le_month
  have monthLe : (month.toNat : Int) ≤ 12 := checked.month_le
  have dayLe : (day.toNat : Int) ≤ daysInMonth year ((month.toNat : Int) - 1).toNat := checked.day_le
  refine ⟨checked.date, (toInt_ofInt_32 fits).symm, ?_, ?_⟩
  · show ((month.toNat : Int) - 1).toNat + 1 = (month.setWidth 8).toNat
    rw [BitVec.toNat_setWidth]
    omega
  · show (day.toNat : Int) = (day.setWidth 8).toNat
    rw [BitVec.toNat_setWidth]
    omega

theorem checkDate_of_isDate {literal : DateLit} (isDate : literal.IsDate) :
    checkDate literal.year.toInt (BitVec.ofInt 32 literal.month.toNat)
      (BitVec.ofInt 32 literal.day.toNat) = true := by
  obtain ⟨date, isYear, isMonth, isDay⟩ := isDate
  have monthLt := date.month_lt
  have monthSmall := literal.month.isLt
  have daySmall := literal.day.isLt
  have stored (number : Nat) (small : number < 256) : (BitVec.ofInt 32 number).toNat = number := by
    rw [BitVec.toNat_ofInt]
    omega
  have month : ((date.month + 1 : Nat) : Int) - 1 = date.month := by omega
  rw [checkDate_eq, DatetimeType.checkDate_iff (inSigned_toInt _), stored _ monthSmall,
    stored _ daySmall, ← isMonth, ← isDay, ← isYear]
  refine ⟨?_, ?_, date.one_le_day, ?_⟩
  · show 1 ≤ ((date.month + 1 : Nat) : Int)
    omega
  · show ((date.month + 1 : Nat) : Int) ≤ 12
    omega
  · show date.day ≤ daysInMonth date.year (((date.month + 1 : Nat) : Int) - 1).toNat
    rw [month]
    exact date.day_le

end Checks

/-! ## The scan -/

section Scan

variable {year month day : List Char} {yearValue monthValue dayValue : Int}

theorem scan_dateFormat (isYear : IsField none year yearValue ['-']) (fits : InSigned 32 yearValue)
    (isMonth : IsField (some 2) month monthValue ['-']) (isDay : IsField (some 2) day dayValue []) :
    scan dateFormat 0 (year ++ '-' :: (month ++ '-' :: day)) =
      .ok (DatetimeType.dateItems yearValue monthValue dayValue
        (0 + year.length + 1 + month.length + 1 + day.length)) := by
  have whole : day = day ++ [] := (List.append_nil day).symm
  unfold dateFormat
  rw [scan_field (DatetimeType.isField_append isYear), if_pos fits, scan_literal,
    DatetimeType.scan_two (DatetimeType.isField_append isMonth), scan_literal, whole,
    DatetimeType.scan_two isDay, scan_position, scan_nil, ← whole]
  rfl

theorem scan_dateFormat_eq_cons {input : List Char} {i₁ i₂ i₃ i₄ : Item} {items : List Item}
    {consumed : Nat} (run : scan dateFormat consumed input = .ok (i₁ :: i₂ :: i₃ :: i₄ :: items)) :
    ∃ year month day rest, ∃ yearValue monthValue dayValue : Int, ∃ consumed',
      input = year ++ '-' :: (month ++ '-' :: (day ++ rest)) ∧
      IsField none year yearValue ['-'] ∧
      i₁ :: i₂ :: i₃ :: i₄ :: items =
        DatetimeType.dateItems yearValue monthValue dayValue consumed' := by
  obtain ⟨year, afterYear, yearValue, rfl, isYear, rfl, fromDash⟩ := scan_number_eq_cons run
  obtain ⟨afterDash, rfl, fromMonth⟩ := scan_literal_eq_cons fromDash
  obtain ⟨month, afterMonth, monthValue, rfl, isMonth, rfl, fromLastDash⟩ :=
    scan_number_eq_cons fromMonth
  obtain ⟨afterLastDash, rfl, fromDay⟩ := scan_literal_eq_cons fromLastDash
  obtain ⟨day, rest, dayValue, rfl, isDay, rfl, fromEnd⟩ := scan_number_eq_cons fromDay
  obtain ⟨rfl, behind⟩ := scan_position_eq_cons fromEnd
  rw [scan_nil] at behind
  cases behind
  exact ⟨year, month, day, rest, yearValue, monthValue, dayValue, _, rfl, isYear, rfl⟩

end Scan

/-! ## The parser -/

section Parser

variable {year month day : List Char} {yearValue monthValue dayValue : Int}

/-- A string of three fields is parsed by the checks. -/
theorem parseValueFromString_eq (isYear : IsField none year yearValue ['-'])
    (fits : InSigned 32 yearValue) (isMonth : IsField (some 2) month monthValue ['-'])
    (isDay : IsField (some 2) day dayValue [])
    (noNul : NoNul (year ++ '-' :: (month ++ '-' :: day))) :
    parseValueFromString (year ++ '-' :: (month ++ '-' :: day)) =
      .ok (dateValue yearValue monthValue dayValue) := by
  have atEnd : ¬ 0 + year.length + 1 + month.length + 1 + day.length ≠
      (year ++ '-' :: (month ++ '-' :: day)).length := by
    simp only [List.length_append, List.length_cons]
    omega
  unfold parseValueFromString
  rw [sscanf_of_noNul noNul, scan_dateFormat isYear fits isMonth isDay, Exec.ok_bind]
  exact if_neg atEnd

/-- **Every date that the parser returns is a date of the calendar.** -/
theorem isDate_of_parse {text : List Char} {value : TypedValue}
    (run : parseValueFromString text = .ok (some value)) :
    ∃ literal : DateLit, value = literal.typedValue ∧ literal.IsDate := by
  obtain ⟨items, scanned, run⟩ := Exec.bind_ok run
  split at run
  · rename_i yearValue monthValue dayValue dateChars
    split at run
    · cases run
    · obtain ⟨year, month, day, rest, _, _, _, _, whole, isYear, stored⟩ :=
        scan_dateFormat_eq_cons scanned
      cases stored
      have fits : InSigned 32 yearValue := by
        unfold sscanf at scanned
        rw [whole, dateFormat, scan_field (DatetimeType.isField_append isYear)] at scanned
        split at scanned
        · assumption
        · cases scanned
      unfold dateValue at run
      dsimp only at run
      split at run
      · rename_i checked
        cases run
        exact ⟨_, rfl, isDate_of_checkDate fits checked⟩
      · cases run
  · cases run

end Parser

/-! ## The text of a date -/

section Text

variable {literal : DateLit}

/-- The text that is printed if the buffer is large enough. -/
def isoText (literal : DateLit) : List Char :=
  DatetimeType.yearText literal.year.toInt ++ monthDayText literal.month.toNat literal.day.toNat

/-- **The text of a date is parsed** to the date. -/
theorem parseValueFromString_isoText (isDate : literal.IsDate) :
    parseValueFromString (isoText literal) = .ok (some literal.typedValue) := by
  have checked := checkDate_of_isDate isDate
  obtain ⟨date, isYear, isMonth, isDay⟩ := isDate
  have monthLt := date.month_lt
  have length := (@daysInMonth_bounds date.year date.month).2
  have oneLeDay := date.one_le_day
  have dayLe := date.day_le
  have isText : isoText literal = (if literal.year.toInt > 9999 || literal.year.toInt < 0 then
      printNumber true 5 literal.year.toInt else printNumber false 4 literal.year.toInt) ++
      '-' :: (printNumber false 2 literal.month.toNat ++ '-' :: printNumber false 2 literal.day.toNat) := by
    unfold isoText DatetimeType.yearText monthDayText
    rw [List.append_assoc]
    rfl
  have yearNumeral : IsNumeral (if literal.year.toInt > 9999 || literal.year.toInt < 0 then
      printNumber true 5 literal.year.toInt else printNumber false 4 literal.year.toInt)
      literal.year.toInt := by
    split
    · exact printNumber_isNumeral _ _ _
    · exact printNumber_isNumeral _ _ _
  have dash : ('-'.toNat != 0) = true := by decide
  have noNul := yearNumeral.noNul.append (.cons dash ((noNul_printNumber false 2
    literal.month.toNat).append (.cons dash (noNul_printNumber false 2 literal.day.toNat))))
  have stored (bits : BitVec 8) : (BitVec.ofInt 32 bits.toNat).setWidth 8 = bits := by
    have small := bits.isLt
    rw [← BitVec.toNat_inj, BitVec.toNat_setWidth, BitVec.toNat_ofInt]
    omega
  rw [isText, parseValueFromString_eq
    (isField_of_isNumeral yearNumeral noWidth (stopsAt_cons rfl)) (inSigned_toInt _)
    (DatetimeType.isField_two (by omega) (by omega) (stopsAt_cons rfl))
    (DatetimeType.isField_two (by omega) (by omega) (stopsAt_nil _)) noNul, dateValue]
  rw [if_pos checked, BitVec.ofInt_toInt, stored, stored]
  rfl

theorem length_monthDayText (isDate : literal.IsDate) :
    (monthDayText literal.month.toNat literal.day.toNat).length = 5 := by
  obtain ⟨date, -, isMonth, isDay⟩ := isDate
  have monthLt := date.month_lt
  have length := (@daysInMonth_bounds date.year date.month).2
  have oneLeDay := date.one_le_day
  have dayLe := date.day_le
  unfold monthDayText
  rw [List.length_append, List.length_cons, DatetimeType.length_two (by omega) (by omega),
    DatetimeType.length_two (by omega) (by omega)]

/-- The year and the month with the day are printed one behind the other. -/
theorem printValueToString_typedValue (literal : DateLit) :
    printValueToString literal.typedValue = (do
      let written ← snprintf (kIsoChars + 1) [] (DatetimeType.yearText literal.year.toInt)
      snprintf (kIsoChars + 1) written
        (monthDayText literal.month.toNat literal.day.toNat)) := by
  unfold printValueToString DateLit.typedValue
  dsimp only
  rw [TypedValue.getComparedLiteral_date]

/-- A year of at most five digits fits in the buffer, with the month and the day. -/
theorem printValueToString_eq (isDate : literal.IsDate) (lower : -100000 < literal.year.toInt)
    (upper : literal.year.toInt < 100000) :
    printValueToString literal.typedValue = .ok (isoText literal) := by
  have small : literal.year.toInt.natAbs < 10 ^ 5 := by omega
  have yearLength : (DatetimeType.yearText literal.year.toInt).length ≤ 7 := by
    have signed := @length_printNumber_le_max true 5 5 _ (by decide) small
    have plain := @length_printNumber_le_max false 4 5 _ (by decide) small
    unfold DatetimeType.yearText
    rw [List.length_append]
    split
    · exact Nat.add_le_add_right signed 1
    · exact Nat.add_le_add_right plain 1
  have monthDayLength := length_monthDayText isDate
  rw [printValueToString_typedValue,
    snprintf_ok (by rw [List.length_nil]; unfold kIsoChars; omega), Exec.ok_bind, List.nil_append,
    snprintf_ok (by unfold kIsoChars; omega)]
  rfl

/-- A year of more digits leaves too little room. -/
theorem eight_le_length_yearText {year : Int} (long : 100000 ≤ year.natAbs) :
    8 ≤ (DatetimeType.yearText year).length := by
  have digits : ¬ (Nat.toDigits 10 year.natAbs).length ≤ 5 := by
    rw [Nat.length_toDigits_le_iff (by decide) (by decide)]
    omega
  have signed : (year > 9999 || year < 0) = true := by
    rw [Bool.or_eq_true, decide_eq_true_eq, decide_eq_true_eq]
    omega
  have sign : (if year < 0 then ['-'] else if True then ['+'] else []).length = 1 := by
    split <;> simp
  unfold DatetimeType.yearText
  rw [if_pos signed]
  simp only [printNumber, List.length_append, List.length_replicate, sign, List.length_cons,
    List.length_nil]
  omega

/-- No other year does. -/
theorem printValueToString_long (isDate : literal.IsDate) (long : 100000 ≤ literal.year.toInt.natAbs)
    (text : List Char) : printValueToString literal.typedValue ≠ .ok text := by
  have yearLength := eight_le_length_yearText long
  have monthDayLength := length_monthDayText isDate
  intro run
  rw [printValueToString_typedValue] at run
  obtain ⟨written, isWritten, run⟩ := Exec.bind_ok run
  unfold snprintf at isWritten run
  split at isWritten
  · cases isWritten
    rw [List.nil_append, if_neg (by unfold kIsoChars; omega)] at run
    cases run
  · cases isWritten

end Text

/-! ## The round trip -/

/-- A date is printed, and what is printed is parsed to the same date. -/
def RoundTrip (literal : DateLit) : Prop :=
  ∃ text, printValueToString literal.typedValue = .ok text ∧
    parseValueFromString text = .ok (some literal.typedValue)

/-- **The text of a date denotes the date** exactly if its year has at most five digits. -/
theorem roundTrip_iff {literal : DateLit} (isDate : literal.IsDate) :
    RoundTrip literal ↔ -100000 < literal.year.toInt ∧ literal.year.toInt < 100000 := by
  constructor
  · rintro ⟨text, printed, -⟩
    by_contra long
    exact printValueToString_long isDate (by omega) text printed
  · rintro ⟨lower, upper⟩
    exact ⟨_, printValueToString_eq isDate lower upper, parseValueFromString_isoText isDate⟩

/-- **Dates and their texts.** The values that the parser returns for any string are the dates of the
calendar whose year is an `int`, and those of them with at most five digits of the year are printed and
parsed again. -/
theorem dates_roundTrip_iff (literal : DateLit) :
    (∀ text value, parseValueFromString text = .ok (some value) →
      ∃ parsed : DateLit, value = parsed.typedValue ∧ parsed.IsDate) ∧
    ((∃ text, parseValueFromString text = .ok (some literal.typedValue)) ↔ literal.IsDate) ∧
    (literal.IsDate →
      (RoundTrip literal ↔ -100000 < literal.year.toInt ∧ literal.year.toInt < 100000)) := by
  refine ⟨fun text value => isDate_of_parse, ⟨?_, fun isDate => ?_⟩, roundTrip_iff⟩
  · rintro ⟨text, run⟩
    obtain ⟨parsed, same, isDate⟩ := isDate_of_parse run
    have equal : literal = parsed := by
      cases literal
      cases parsed
      cases same
      rfl
    rw [equal]
    exact isDate
  · exact ⟨_, parseValueFromString_isoText isDate⟩

/-- January 1, 100000. -/
def year100000 : DateLit := ⟨100000#32, 1#8, 1#8⟩

theorem isDate_year100000 : year100000.IsDate :=
  ⟨⟨100000, 0, 1, by decide, by decide, by decide⟩, rfl, rfl, rfl⟩

/-- The last day of 99999 is printed and parsed again. -/
theorem dates_roundTrip_iff_year99999 :
    (⟨99999#32, 12#8, 31#8⟩ : DateLit).IsDate ∧ RoundTrip ⟨99999#32, 12#8, 31#8⟩ := by
  have isDate : (⟨99999#32, 12#8, 31#8⟩ : DateLit).IsDate :=
    ⟨⟨99999, 11, 31, by decide, by decide, by decide⟩, rfl, rfl, rfl⟩
  exact ⟨isDate, ((dates_roundTrip_iff _).2.2 isDate).mpr ⟨by decide, by decide⟩⟩

/-- The day after it is parsed, and not printed. -/
theorem not_roundTrip_year100000 :
    parseValueFromString "100000-01-01".toList = .ok (some year100000.typedValue) ∧
      ¬ RoundTrip year100000 := by
  refine ⟨rfl, ?_⟩
  rw [roundTrip_iff isDate_year100000]
  decide

end DateType

end Quickstep.Types
