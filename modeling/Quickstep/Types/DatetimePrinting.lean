import Quickstep.Types.DatetimeParsing

/-!
# Printing datetimes

The text of a datetime and what the parser makes of it. Ticks are split by truncating division, so
that the subseconds of a datetime before 1970 are negative: their sign is printed behind the point,
where no digit of the fraction stands.
-/

namespace Quickstep.Types
open Quickstep.Lib

namespace DatetimeType

/-- The subseconds, if there are any. -/
def subsecondsText (subseconds : Int) : List Char :=
  if subseconds = 0 then [] else '.' :: printNumber false 6 subseconds

/-- The date and the time that are printed. -/
def isoText (tm : Tm) (subseconds : Int) : List Char :=
  let year := tm.tmYear.toInt + 1900
  (if year > 9999 || year < 0 then printNumber true 5 year else printNumber false 4 year) ++
    '-' :: (printNumber false 2 (tm.tmMon.toInt + 1) ++ '-' :: (printNumber false 2 tm.tmMday.toInt ++
      'T' :: (printNumber false 2 tm.tmHour.toInt ++ ':' :: (printNumber false 2 tm.tmMin.toInt ++
        ':' :: (printNumber false 2 tm.tmSec.toInt ++ subsecondsText subseconds)))))

section Printing

variable {tm : Tm} {subseconds : Int}

theorem length_two {value : Int} (nonneg : 0 ≤ value) (small : value < 100) :
    (printNumber false 2 value).length = 2 := by
  obtain ⟨number, rfl⟩ := Int.eq_ofNat_of_zero_le nonneg
  exact length_printNumber (by decide) (by omega)

theorem isField_two {value : Int} {rest : List Char} (nonneg : 0 ≤ value) (small : value < 100)
    (stops : StopsAt Char.isDigit rest) :
    IsField (some 2) (printNumber false 2 value) value rest :=
  isField_of_isNumeral (printNumber_isNumeral false 2 value) (atMost (length_two nonneg small)) stops

/-- A valid broken-down time is printed with two digits for each of its small numbers. -/
structure TwoDigits (tm : Tm) : Prop where
  month : (printNumber false 2 (tm.tmMon.toInt + 1)).length = 2
  day : (printNumber false 2 tm.tmMday.toInt).length = 2
  hour : (printNumber false 2 tm.tmHour.toInt).length = 2
  minute : (printNumber false 2 tm.tmMin.toInt).length = 2
  second : (printNumber false 2 tm.tmSec.toInt).length = 2

theorem twoDigits_of_valid (valid : tm.Valid) : TwoDigits tm := by
  have length := (@daysInMonth_bounds (tm.tmYear.toInt + 1900) tm.tmMon.toInt.toNat).2
  obtain ⟨_, _, _, _, _, _, _, _, _, _⟩ := valid
  exact ⟨length_two (by omega) (by omega), length_two (by omega) (by omega),
    length_two (by omega) (by omega), length_two (by omega) (by omega),
    length_two (by omega) (by omega)⟩

/-- The text of a datetime whose year has at most six digits is short enough for the buffer. -/
theorem printValueToString_eq {gmtimeR : BitVec 64 → Tm} {ticks : BitVec 64}
    (isTm : gmtimeR (DatetimeLit.epochTime ticks) = tm) (valid : tm.Valid)
    (isSubseconds : (DatetimeLit.subseconds ticks).toInt = subseconds)
    (yearSmall : (tm.tmYear.toInt + 1900).natAbs < 10 ^ 6) (small : subseconds.natAbs < 10 ^ 6) :
    printValueToString gmtimeR (.datetime ticks) = .ok (isoText tm subseconds) := by
  have literal : (TypedValue.datetime ticks).getLiteral .datetimeLit = ticks := rfl
  have digits := twoDigits_of_valid valid
  have yearFits := @int64_ok (1900 + tm.tmYear.toInt) (by omega) (by omega)
  have monthFits := @int32_ok (tm.tmMon.toInt + 1)
    (by have := valid.mon_nonneg; omega) (by have := valid.mon_lt; omega)
  have yearLength : (yearText (1900 + tm.tmYear.toInt)).length ≤ 8 := by
    have signed := @length_printNumber_le_max true 5 6 _ (by decide) yearSmall
    have plain := @length_printNumber_le_max false 4 6 _ (by decide) yearSmall
    unfold yearText
    rw [List.length_append, Int.add_comm]
    split
    · exact Nat.add_le_add_right signed 1
    · exact Nat.add_le_add_right plain 1
  have dateTimeLength : (dateTimeText (tm.tmMon.toInt + 1) tm.tmMday.toInt tm.tmHour.toInt
      tm.tmMin.toInt tm.tmSec.toInt).length = 14 := by
    unfold dateTimeText
    simp only [List.length_append, List.length_cons, digits.month, digits.day, digits.hour,
      digits.minute, digits.second]
  have printed : printSubseconds subseconds (yearText (1900 + tm.tmYear.toInt) ++
      dateTimeText (tm.tmMon.toInt + 1) tm.tmMday.toInt tm.tmHour.toInt tm.tmMin.toInt
        tm.tmSec.toInt) = .ok (isoText tm subseconds) := by
    have text : isoText tm subseconds = yearText (1900 + tm.tmYear.toInt) ++
        dateTimeText (tm.tmMon.toInt + 1) tm.tmMday.toInt tm.tmHour.toInt tm.tmMin.toInt
          tm.tmSec.toInt ++ subsecondsText subseconds := by
      unfold isoText yearText dateTimeText
      rw [Int.add_comm 1900]
      simp only [List.append_assoc, List.cons_append, List.nil_append]
    have length := @length_printNumber_le_max false 6 6 subseconds (by decide) small
    rw [text]
    unfold printSubseconds subsecondsText
    split
    · rw [List.append_nil]
    · refine snprintf_ok ?_
      rw [List.length_append, List.length_cons, dateTimeLength]
      unfold kIsoChars
      omega
  unfold printValueToString
  rw [literal]
  simp only [isTm, isSubseconds]
  rw [yearFits, Exec.ok_bind, snprintf_ok (by rw [List.length_nil]; unfold kIsoChars; omega),
    Exec.ok_bind, monthFits, Exec.ok_bind, List.nil_append,
    snprintf_ok (by rw [dateTimeLength]; unfold kIsoChars; omega), Exec.ok_bind, printed]

end Printing

/-! ## The fields of the text -/

section Fields

variable {tm : Tm} {subseconds : Int}

/-- The fields that a text shows. -/
def fieldsOf (tm : Tm) (subsecondBuffer : Option (List Char)) : DatetimeFields where
  year := tm.tmYear.toInt + 1900
  month := tm.tmMon.toInt + 1
  day := tm.tmMday.toInt
  time := some ⟨'T', tm.tmHour.toInt, tm.tmMin.toInt, tm.tmSec.toInt, subsecondBuffer⟩

/-- The fields of a valid broken-down time denote its seconds. -/
theorem fieldsOf_valid (valid : tm.Valid) (subsecondBuffer : Option (List Char)) :
    ∃ date : (fieldsOf tm subsecondBuffer).ValidDate, (fieldsOf tm subsecondBuffer).ValidTime ∧
      date.epochSeconds = valid.seconds := by
  have month : tm.tmMon.toInt + 1 - 1 = tm.tmMon.toInt := Int.add_sub_cancel _ _
  have date : (fieldsOf tm subsecondBuffer).ValidDate := by
    refine ⟨?_, ?_, valid.one_le_mday, ?_⟩
    · exact Int.le_add_of_nonneg_left valid.mon_nonneg
    · exact valid.mon_lt
    · show _ ≤ daysInMonth _ (tm.tmMon.toInt + 1 - 1).toNat
      rw [month]
      exact valid.mday_le
  have time : (fieldsOf tm subsecondBuffer).ValidTime := by
    intro time isTime
    cases isTime
    exact ⟨.inl rfl, valid.hour_nonneg, valid.hour_lt, valid.min_nonneg, valid.min_lt,
      valid.sec_nonneg, valid.sec_lt⟩
  have sameDate : date.date = valid.date := Date.ext rfl (congrArg Int.toNat month) rfl
  refine ⟨date, time, ?_⟩
  rw [DatetimeFields.ValidDate.epochSeconds, sameDate]
  rfl

/-- What stands at the beginning of the text. -/
theorem isoText_fields (valid : tm.Valid) (subseconds : Int) :
    ∃ year month day hour minute second,
      isoText tm subseconds = year ++ '-' :: (month ++ '-' :: (day ++ 'T' :: (hour ++ ':' :: (minute ++
        ':' :: (second ++ subsecondsText subseconds))))) ∧
      IsField none year (tm.tmYear.toInt + 1900) ['-'] ∧
      IsField (some 2) month (tm.tmMon.toInt + 1) ['-'] ∧
      (∀ rest, IsField (some 2) day tm.tmMday.toInt ('T' :: rest)) ∧
      IsField (some 2) hour tm.tmHour.toInt [':'] ∧ IsField (some 2) minute tm.tmMin.toInt [':'] ∧
      IsField (some 2) second tm.tmSec.toInt (subsecondsText subseconds) ∧
      NoNul (isoText tm subseconds) := by
  have length := (@daysInMonth_bounds (tm.tmYear.toInt + 1900) tm.tmMon.toInt.toNat).2
  have noNulSubseconds : NoNul (subsecondsText subseconds) := by
    unfold subsecondsText
    split
    · exact noNul_nil
    · exact .cons (by decide) (noNul_printNumber _ _ _)
  have stops : StopsAt Char.isDigit (subsecondsText subseconds) := by
    unfold subsecondsText
    split
    · exact stopsAt_nil _
    · exact stopsAt_cons rfl
  have isYear : IsField none (if tm.tmYear.toInt + 1900 > 9999 || tm.tmYear.toInt + 1900 < 0 then
      printNumber true 5 (tm.tmYear.toInt + 1900) else printNumber false 4 (tm.tmYear.toInt + 1900))
      (tm.tmYear.toInt + 1900) ['-'] := by
    split
    · exact isField_of_isNumeral (printNumber_isNumeral _ _ _) noWidth (stopsAt_cons rfl)
    · exact isField_of_isNumeral (printNumber_isNumeral _ _ _) noWidth (stopsAt_cons rfl)
  have noNulYear : NoNul (if tm.tmYear.toInt + 1900 > 9999 || tm.tmYear.toInt + 1900 < 0 then
      printNumber true 5 (tm.tmYear.toInt + 1900)
      else printNumber false 4 (tm.tmYear.toInt + 1900)) := by
    split
    · exact noNul_printNumber _ _ _
    · exact noNul_printNumber _ _ _
  obtain ⟨_, _, _, _, _, _, _, _, _, _⟩ := valid
  refine ⟨_, _, _, _, _, _, rfl, isYear, isField_two (by omega) (by omega) (stopsAt_cons rfl),
    fun rest => isField_two (by omega) (by omega) (stopsAt_cons rfl),
    isField_two (by omega) (by omega) (stopsAt_cons rfl),
    isField_two (by omega) (by omega) (stopsAt_cons rfl), isField_two (by omega) (by omega) stops, ?_⟩
  exact noNulYear.append (.cons (by decide) ((noNul_printNumber _ _ _).append (.cons (by decide)
    ((noNul_printNumber _ _ _).append (.cons (by decide) ((noNul_printNumber _ _ _).append
      (.cons (by decide) ((noNul_printNumber _ _ _).append (.cons (by decide)
        ((noNul_printNumber _ _ _).append noNulSubseconds))))))))))

/-- Subseconds that are not negative are digits of the text. -/
theorem isoText_text (valid : tm.Valid) (nonneg : 0 ≤ subseconds) (small : subseconds < 1000000) :
    ∃ subsecondBuffer, (fieldsOf tm subsecondBuffer).Text (isoText tm subseconds) ∧
      (fieldsOf tm subsecondBuffer).microseconds = subseconds := by
  obtain ⟨year, month, day, hour, minute, second, whole, isYear, isMonth, isDay, isHour, isMinute,
    isSecond, noNul⟩ := isoText_fields valid subseconds
  obtain ⟨number, rfl⟩ := Int.eq_ofNat_of_zero_le nonneg
  by_cases none : (number : Int) = 0
  · have nothing : subsecondsText number = [] := if_pos none
    refine ⟨Option.none, ⟨noNul, year, month, day, _, whole, isYear, isMonth, isDay _, hour, minute,
      second, _, rfl, isHour, isMinute, isSecond, nothing⟩, ?_⟩
    rw [none]
    rfl
  · have digits : subsecondsText number = '.' :: printNumber false 6 number := if_neg none
    obtain ⟨nonempty, every, amount⟩ := printNumber_digits 6 number
    have length : (printNumber false 6 number).length = 6 :=
      length_printNumber (by decide) (Int.ofNat_lt.mp small)
    refine ⟨some (printNumber false 6 number), ⟨noNul, year, month, day, _, whole, isYear, isMonth,
      isDay _, hour, minute, second, _, rfl, isHour, isMinute, isSecond, digits, nonempty,
      Nat.le_of_eq length, every⟩, ?_⟩
    show (Nat.ofDigitChars 10 (printNumber false 6 number) 0 : Int) *
      10 ^ (6 - (printNumber false 6 number).length) = number
    rw [amount, length]
    exact Int.mul_one _

/-- **A negative fraction is not parsed**: behind the point stands a minus. -/
theorem parse_isoText_negative (valid : tm.Valid) (negative : subseconds < 0)
    (yearFits : InSigned 32 (tm.tmYear.toInt + 1900)) :
    parseValueFromString (isoText tm subseconds) = .ok none := by
  obtain ⟨year, month, day, hour, minute, second, whole, isYear, isMonth, isDay, isHour, isMinute,
    isSecond, noNul⟩ := isoText_fields valid subseconds
  have fraction : ∃ digits, subsecondsText subseconds = '.' :: '-' :: digits := by
    refine ⟨(subsecondsText subseconds).tail.tail, ?_⟩
    unfold subsecondsText printNumber
    rw [if_neg (by omega), if_pos negative]
    rfl
  obtain ⟨digits, isFraction⟩ := fraction
  have stopped (consumed : Nat) :
      scan subsecondsFormat consumed (subsecondsText subseconds) = .ok [] := by
    rw [isFraction]
    unfold subsecondsFormat
    rw [scan_literal, scan_set_fail (stopsAt_cons rfl)]
  have scanned : scanFields (isoText tm subseconds) = .ok none := by
    unfold scanFields
    rw [sscanf_of_noNul noNul, whole, scan_datetimeFormat isYear yearFits isMonth (isDay _),
      scan_timeFormat 'T' isHour isMinute isSecond, stopped]
    refine if_neg ?_
    rw [isFraction]
    simp only [List.length_append, List.length_cons]
    omega
  unfold parseValueFromString
  rw [scanned]
  rfl

end Fields

/-! ## The round trip -/

/-- A datetime is printed, and what is printed is parsed to the same datetime. -/
def RoundTrip (gmtimeR : BitVec 64 → Tm) (ticks : BitVec 64) : Prop :=
  ∃ text, printValueToString gmtimeR (.datetime ticks) = .ok text ∧
    parseValueFromString text = .ok (some (.datetime ticks))

/-- **The text of a datetime denotes the datetime** exactly if it is not before 1970, or has no
subseconds. -/
theorem datetime_roundTrip_iff {gmtimeR : BitVec 64 → Tm} (gmtime : GmtimeExact gmtimeR) (ticks : BitVec 64) :
    RoundTrip gmtimeR ticks ↔ 0 ≤ ticks.toInt ∨ ticks.toInt % 1000000 = 0 := by
  have range : -9223372036854775808 ≤ ticks.toInt ∧ ticks.toInt < 9223372036854775808 :=
    ⟨BitVec.le_toInt ticks, BitVec.toInt_lt⟩
  have isSeconds := toInt_epochTime ticks
  have isSubseconds := toInt_subseconds ticks
  generalize quotient : ticks.toInt.tdiv 1000000 = seconds at isSeconds
  generalize remainder : ticks.toInt.tmod 1000000 = subseconds at isSubseconds
  obtain ⟨whole, nonnegative, nonpositive⟩ := tdiv_tmod_bounds quotient.symm remainder.symm
  have secondsRange : -9223372036855 ≤ seconds ∧ seconds ≤ 9223372036855 := by omega
  obtain ⟨valid, validSeconds⟩ := gmtime (DatetimeLit.epochTime ticks) (by
    rw [isSeconds]
    exact year_of_datetime secondsRange.1 secondsRange.2)
  rw [isSeconds] at validSeconds
  generalize isTm : gmtimeR (DatetimeLit.epochTime ticks) = tm at valid
  have year : tm.tmYear.toInt + 1900 = (dateOfSeconds seconds).year := by
    rw [← validSeconds, ← valid.date_eq.1]
    rfl
  have years := year_of_datetime_bounds secondsRange.1 secondsRange.2
  have yearFits : InSigned 32 (tm.tmYear.toInt + 1900) := by
    rw [inSigned_32]
    omega
  have tmYearFits : InSigned 32 (tm.tmYear.toInt + 1900 - 1900) := by
    rw [inSigned_32]
    omega
  have printed := printValueToString_eq isTm valid isSubseconds (by omega) (by omega)
  by_cases nonneg : 0 ≤ subseconds
  · refine ⟨fun _ => by omega, fun _ => ⟨_, printed, ?_⟩⟩
    obtain ⟨buffer, isText, micros⟩ := isoText_text valid nonneg (by omega)
    obtain ⟨date, time, epochSeconds⟩ := fieldsOf_valid valid buffer
    rw [validSeconds] at epochSeconds
    have total : 1000000 * date.epochSeconds + (fieldsOf tm buffer).microseconds = ticks.toInt := by
      rw [epochSeconds, micros]
      omega
    rw [parseValueFromString_eq isText date time yearFits tmYearFits
      (by rw [epochSeconds, inSigned_64]; omega) (by rw [total, inSigned_64]; exact range), total,
      BitVec.ofInt_toInt]
  · refine ⟨?_, fun _ => by omega⟩
    rintro ⟨text, isPrinted, parsed⟩
    rw [printed] at isPrinted
    cases isPrinted
    rw [parse_isoText_negative valid (by omega) yearFits] at parsed
    cases parsed

/-- The tick before the epoch is not read back. -/
theorem not_roundTrip_beforeEpoch : ¬ RoundTrip (fun time => Tm.ofSeconds time.toInt) (-1#64) := by
  rintro ⟨text, printed, parsed⟩
  have isText : printValueToString (fun time => Tm.ofSeconds time.toInt) (.datetime (-1#64)) =
      .ok "1970-01-01T00:00:00.-00001".toList := by
    rfl
  rw [isText] at printed
  cases printed
  cases parsed

/-- The second before the epoch is read back, with an exact `gmtime_r`. -/
theorem datetime_roundTrip_iff_secondBeforeEpoch :
    RoundTrip (fun time => Tm.ofSeconds time.toInt) (-1000000#64) :=
  (datetime_roundTrip_iff gmtimeExact_ofSeconds (-1000000#64)).mpr (.inr (by decide))

end DatetimeType

end Quickstep.Types
