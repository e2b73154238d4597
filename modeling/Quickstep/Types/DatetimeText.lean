import Quickstep.Types.DatetimeType

/-!
# The text of datetimes

The grammar of the strings that the datetime parser scans to the end: what the fields of a string
are is said without the scan, and the scan delivers exactly these fields.
-/

namespace Quickstep.Types
open Quickstep.Lib

namespace DatetimeType

/-! ## The grammar -/

/-- At most six digits behind a point. -/
def SubsecondText (subsecondBuffer : Option (List Char)) (text : List Char) : Prop :=
  match subsecondBuffer with
  | some digits => text = '.' :: digits ∧ digits ≠ [] ∧ digits.length ≤ 6 ∧
      ∀ c ∈ digits, c.isDigit = true
  | none => text = []

/-- A separator, three fields between colons, and perhaps subseconds. -/
def TimeFields.Text (time : TimeFields) (text : List Char) : Prop :=
  ∃ hour minute second subseconds,
    text = time.separator :: (hour ++ ':' :: (minute ++ ':' :: (second ++ subseconds))) ∧
    IsField (some 2) hour time.hour [':'] ∧ IsField (some 2) minute time.minute [':'] ∧
    IsField (some 2) second time.second subseconds ∧ SubsecondText time.subsecondBuffer subseconds

def TimeText (time : Option TimeFields) (text : List Char) : Prop :=
  match time with
  | some time => time.Text text
  | none => text = []

/-- **The fields of a string**: three fields between dashes, and perhaps a time. -/
def DatetimeFields.Text (fields : DatetimeFields) (text : List Char) : Prop :=
  NoNul text ∧ ∃ year month day time,
    text = year ++ '-' :: (month ++ '-' :: (day ++ time)) ∧
    IsField none year fields.year ['-'] ∧ IsField (some 2) month fields.month ['-'] ∧
    IsField (some 2) day fields.day time ∧ TimeText fields.time time

/-- The number at the front of a C string, if there is one, is an `int`. -/
def YearFits (text : List Char) : Prop :=
  ∀ year rest value, cString text = year ++ rest → IsField none year value rest → InSigned 32 value

/-! ## The scan of the fields -/

section Scan

variable {year month day hour minute second rest : List Char}
  {yearValue monthValue dayValue hourValue minuteValue secondValue : Int} {consumed : Nat}

theorem isField_append {width : Option Nat} {text : List Char} {value : Int} {c : Char}
    (field : IsField width text value [c]) : IsField width text value (c :: rest) := field

/-- A field of two characters has a number that fits. -/
theorem inSigned_of_isField {text : List Char} {value : Int} (field : IsField (some 2) text value rest) :
    InSigned 32 value := by
  obtain ⟨blanks, numeral, -, -, isNumeral, short, -⟩ := field
  have small := Nat.lt_of_lt_of_le isNumeral.natAbs_lt
    (Nat.pow_le_pow_right (by decide) (short 2 rfl))
  rw [inSigned_32]
  omega

theorem scan_two {text : List Char} {value : Int} {format : List Directive}
    (field : IsField (some 2) text value rest) :
    scan (.number 32 (some 2) :: format) consumed (text ++ rest) =
      (scan format (consumed + text.length) rest).map (.number value :: ·) := by
  rw [scan_field field, if_pos (inSigned_of_isField field)]

/-- The items of a time whose last number ends behind `consumed` characters. -/
def timeItems (separator : Char) (hour minute second : Int) (consumed : Nat) : List Item :=
  [.character separator, .number hour, .number minute, .number second, .position consumed]

theorem scan_timeFormat (separator : Char) (isHour : IsField (some 2) hour hourValue [':'])
    (isMinute : IsField (some 2) minute minuteValue [':'])
    (isSecond : IsField (some 2) second secondValue rest) :
    scan timeFormat consumed
        (separator :: (hour ++ ':' :: (minute ++ ':' :: (second ++ rest)))) =
      (scan subsecondsFormat (consumed + 1 + hour.length + 1 + minute.length + 1 + second.length)
        rest).map
        (timeItems separator hourValue minuteValue secondValue
          (consumed + 1 + hour.length + 1 + minute.length + 1 + second.length) ++ ·) := by
  unfold timeFormat
  rw [scan, scan_two (isField_append isHour), scan_literal, scan_two (isField_append isMinute),
    scan_literal, scan_two isSecond, scan_position]
  cases scan subsecondsFormat (consumed + 1 + hour.length + 1 + minute.length + 1 + second.length)
    rest <;> rfl

/-- The items of a date that ends behind `consumed` characters. -/
def dateItems (year month day : Int) (consumed : Nat) : List Item :=
  [.number year, .number month, .number day, .position consumed]

theorem scan_datetimeFormat (isYear : IsField none year yearValue ['-'])
    (fits : InSigned 32 yearValue) (isMonth : IsField (some 2) month monthValue ['-'])
    (isDay : IsField (some 2) day dayValue rest) :
    scan datetimeFormat 0 (year ++ '-' :: (month ++ '-' :: (day ++ rest))) =
      (scan timeFormat (0 + year.length + 1 + month.length + 1 + day.length) rest).map
        (dateItems yearValue monthValue dayValue
          (0 + year.length + 1 + month.length + 1 + day.length) ++ ·) := by
  unfold datetimeFormat monthFormat
  rw [scan_field (isField_append isYear), if_pos fits, scan_literal,
    scan_two (isField_append isMonth), scan_literal, scan_two isDay, scan_position]
  cases scan timeFormat (0 + year.length + 1 + month.length + 1 + day.length) rest <;> rfl

theorem scan_subsecondsFormat {digits : List Char} (nonempty : digits ≠ [])
    (short : digits.length ≤ 6) (every : ∀ c ∈ digits, c.isDigit = true) :
    scan subsecondsFormat consumed ('.' :: digits) =
      .ok [.text digits, .position (consumed + 1 + digits.length)] := by
  have within : ∀ most ∈ some 6, digits.length ≤ most := by
    intro most isMost
    cases isMost
    exact short
  have read := @scan_set digits [] [.position] (consumed + 1) Char.isDigit (some 6) true nonempty
    every within (.inr (stopsAt_nil _))
  rw [List.append_nil] at read
  unfold subsecondsFormat
  rw [scan_literal, read, scan_position, scan_nil]
  rfl

theorem scan_nothing : scan timeFormat consumed [] = .ok [] ∧ scan subsecondsFormat consumed [] = .ok [] :=
  ⟨rfl, rfl⟩

end Scan

/-- **The scan delivers the fields of the string.** -/
theorem scanFields_of_text {fields : DatetimeFields} {text : List Char} (isText : fields.Text text)
    (fits : InSigned 32 fields.year) : scanFields text = .ok (some fields) := by
  obtain ⟨yearValue, monthValue, dayValue, timeValue⟩ := fields
  obtain ⟨noNul, year, month, day, time, rfl, isYear, isMonth, isDay, isTime⟩ := isText
  unfold scanFields
  rw [sscanf_of_noNul noNul, scan_datetimeFormat isYear fits isMonth isDay]
  cases timeValue with
  | none =>
    obtain rfl : time = [] := isTime
    have atEnd : 0 + year.length + 1 + month.length + 1 + day.length =
        (year ++ '-' :: (month ++ '-' :: (day ++ []))).length := by
      simp only [List.length_append, List.length_cons, List.length_nil]
      omega
    rw [scan_nothing.1]
    exact if_pos atEnd
  | some timeValue =>
    obtain ⟨separator, hourValue, minuteValue, secondValue, buffer⟩ := timeValue
    obtain ⟨hour, minute, second, subseconds, rfl, isHour, isMinute, isSecond, isSubseconds⟩ := isTime
    rw [scan_timeFormat separator isHour isMinute isSecond]
    cases buffer with
    | none =>
      obtain rfl : subseconds = [] := isSubseconds
      rw [scan_nothing.2]
      refine if_pos ?_
      simp only [List.length_append, List.length_cons, List.length_nil]
      omega
    | some digits =>
      obtain ⟨rfl, nonempty, short, every⟩ := isSubseconds
      rw [scan_subsecondsFormat nonempty short every]
      refine if_pos ?_
      simp only [List.length_append, List.length_cons]
      omega

/-! ## What the scan has read -/

section Inversion

variable {input : List Char} {consumed : Nat} {i₁ i₂ i₃ i₄ i₅ : Item} {items : List Item}

theorem scan_timeFormat_eq_cons
    (run : scan timeFormat consumed input = .ok (i₁ :: i₂ :: i₃ :: i₄ :: i₅ :: items)) :
    ∃ separator hour minute second rest, ∃ hourValue minuteValue secondValue : Int, ∃ consumed',
      input = separator :: (hour ++ ':' :: (minute ++ ':' :: (second ++ rest))) ∧
      IsField (some 2) hour hourValue [':'] ∧ IsField (some 2) minute minuteValue [':'] ∧
      IsField (some 2) second secondValue rest ∧
      i₁ :: i₂ :: i₃ :: i₄ :: i₅ :: items =
        timeItems separator hourValue minuteValue secondValue consumed' ++ items ∧
      consumed' + rest.length = consumed + input.length ∧
      scan subsecondsFormat consumed' rest = .ok items := by
  obtain ⟨separator, afterSeparator, rfl, rfl, fromHour⟩ := scan_character_eq_cons run
  obtain ⟨hour, afterHour, hourValue, rfl, isHour, rfl, fromColon⟩ := scan_number_eq_cons fromHour
  obtain ⟨afterColon, rfl, fromMinute⟩ := scan_literal_eq_cons fromColon
  obtain ⟨minute, afterMinute, minuteValue, rfl, isMinute, rfl, fromLastColon⟩ :=
    scan_number_eq_cons fromMinute
  obtain ⟨afterLastColon, rfl, fromSecond⟩ := scan_literal_eq_cons fromLastColon
  obtain ⟨second, rest, secondValue, rfl, isSecond, rfl, fromEnd⟩ := scan_number_eq_cons fromSecond
  obtain ⟨rfl, behind⟩ := scan_position_eq_cons fromEnd
  refine ⟨separator, hour, minute, second, rest, hourValue, minuteValue, secondValue, _, rfl, isHour,
    isMinute, isSecond, rfl, ?_, behind⟩
  simp only [List.length_append, List.length_cons]
  omega

theorem scan_datetimeFormat_eq_cons
    (run : scan datetimeFormat consumed input = .ok (i₁ :: i₂ :: i₃ :: i₄ :: items)) :
    ∃ year month day rest, ∃ yearValue monthValue dayValue : Int, ∃ consumed',
      input = year ++ '-' :: (month ++ '-' :: (day ++ rest)) ∧
      IsField none year yearValue ['-'] ∧ IsField (some 2) month monthValue ['-'] ∧
      IsField (some 2) day dayValue rest ∧
      i₁ :: i₂ :: i₃ :: i₄ :: items = dateItems yearValue monthValue dayValue consumed' ++ items ∧
      consumed' + rest.length = consumed + input.length ∧
      scan timeFormat consumed' rest = .ok items := by
  obtain ⟨year, afterYear, yearValue, rfl, isYear, rfl, fromDash⟩ := scan_number_eq_cons run
  obtain ⟨afterDash, rfl, fromMonth⟩ := scan_literal_eq_cons fromDash
  obtain ⟨month, afterMonth, monthValue, rfl, isMonth, rfl, fromLastDash⟩ :=
    scan_number_eq_cons fromMonth
  obtain ⟨afterLastDash, rfl, fromDay⟩ := scan_literal_eq_cons fromLastDash
  obtain ⟨day, rest, dayValue, rfl, isDay, rfl, fromEnd⟩ := scan_number_eq_cons fromDay
  obtain ⟨rfl, behind⟩ := scan_position_eq_cons fromEnd
  refine ⟨year, month, day, rest, yearValue, monthValue, dayValue, _, rfl, isYear, isMonth, isDay, rfl,
    ?_, behind⟩
  simp only [List.length_append, List.length_cons]
  omega

theorem scan_subsecondsFormat_eq_cons (run : scan subsecondsFormat consumed input = .ok [i₁, i₂]) :
    ∃ digits rest, input = '.' :: (digits ++ rest) ∧ digits ≠ [] ∧ digits.length ≤ 6 ∧
      (∀ c ∈ digits, c.isDigit = true) ∧
      [i₁, i₂] = [.text digits, .position (consumed + 1 + digits.length)] := by
  obtain ⟨afterPoint, rfl, fromDigits⟩ := scan_literal_eq_cons run
  obtain ⟨digits, rest, rfl, nonempty, short, every, rfl, fromEnd⟩ := scan_set_eq_cons fromDigits
  obtain ⟨rfl, -⟩ := scan_position_eq_cons fromEnd
  exact ⟨digits, rest, rfl, nonempty, short, every, rfl⟩

end Inversion

/-- The fields that the scan delivers are those of the string. -/
theorem text_of_scanFields {fields : DatetimeFields} {text : List Char}
    (run : scanFields text = .ok (some fields)) : fields.Text text := by
  have cut : (cString text).length ≤ text.length := (List.takeWhile_prefix _).length_le
  obtain ⟨items, scanned, run⟩ := Exec.bind_ok run
  unfold sscanf at scanned
  split at run
  · rename_i yearValue monthValue dayValue dateChars
    split at run
    · rename_i atEnd
      cases run
      obtain ⟨year, month, day, rest, _, _, _, consumed, whole, isYear, isMonth, isDay, stored, length,
        -⟩ := scan_datetimeFormat_eq_cons scanned
      cases stored
      have same := @noNul_of_length text (by omega)
      obtain rfl : rest = [] := List.length_eq_zero_iff.mp (by omega)
      exact ⟨same.2, year, month, day, [], by rw [← whole, same.1], isYear, isMonth, isDay, rfl⟩
    · cases run
  · rename_i yearValue monthValue dayValue _ separator hourValue minuteValue secondValue dateTimeChars
    split at run
    · rename_i atEnd
      cases run
      obtain ⟨year, month, day, time, _, _, _, _, whole, isYear, isMonth, isDay, stored, length,
        fromTime⟩ := scan_datetimeFormat_eq_cons scanned
      obtain ⟨_, hour, minute, second, rest, _, _, _, _, rfl, isHour, isMinute, isSecond, storedTime,
        lengthTime, -⟩ := scan_timeFormat_eq_cons fromTime
      cases stored
      cases storedTime
      have same := @noNul_of_length text (by omega)
      obtain rfl : rest = [] := List.length_eq_zero_iff.mp (by omega)
      exact ⟨same.2, year, month, day, _, by rw [← whole, same.1], isYear, isMonth, isDay, hour, minute,
        second, [], rfl, isHour, isMinute, isSecond, rfl⟩
    · cases run
  · rename_i yearValue monthValue dayValue _ separator hourValue minuteValue secondValue _ buffer
      dateTimeSubsecondsChars
    split at run
    · rename_i atEnd
      cases run
      obtain ⟨year, month, day, time, _, _, _, _, whole, isYear, isMonth, isDay, stored, length,
        fromTime⟩ := scan_datetimeFormat_eq_cons scanned
      obtain ⟨_, hour, minute, second, subseconds, _, _, _, _, rfl, isHour, isMinute, isSecond,
        storedTime, lengthTime, fromPoint⟩ := scan_timeFormat_eq_cons fromTime
      obtain ⟨digits, rest, rfl, nonempty, short, every, storedDigits⟩ :=
        scan_subsecondsFormat_eq_cons fromPoint
      cases stored
      cases storedTime
      cases storedDigits
      simp only [List.length_append, List.length_cons] at length lengthTime atEnd
      have same := @noNul_of_length text (by omega)
      obtain rfl : rest = [] := List.length_eq_zero_iff.mp (by omega)
      rw [List.append_nil] at whole isDay isSecond
      exact ⟨same.2, year, month, day, _, by rw [← whole, same.1], isYear, isMonth, isDay, hour, minute,
        second, _, rfl, isHour, isMinute, isSecond, rfl, nonempty, short, every⟩
    · cases run
  · cases run

/-! ## Scans that are defined -/

theorem monthFormat_narrow : ∀ d ∈ monthFormat, d.Narrow := by
  have two : (Directive.number 32 (some 2)).Narrow := ⟨2, rfl, by decide⟩
  simp only [monthFormat, timeFormat, subsecondsFormat, List.forall_mem_cons]
  exact ⟨trivial, two, trivial, two, trivial, trivial, two, trivial, two, trivial, two, trivial, trivial,
    trivial, trivial, nofun⟩

/-- **The scan is defined** exactly if the number at the front is an `int`. -/
theorem scanFields_defined_iff {text : List Char} :
    (∃ result, scanFields text = .ok result) ↔ YearFits text := by
  unfold YearFits
  rw [← scan_number_defined_iff monthFormat_narrow 0]
  unfold scanFields sscanf
  show _ ↔ ∃ items, scan datetimeFormat 0 (cString text) = .ok items
  cases scan datetimeFormat 0 (cString text) with
  | error fault => exact ⟨nofun, nofun⟩
  | ok items =>
    refine ⟨fun _ => ⟨items, rfl⟩, fun _ => ?_⟩
    rw [Exec.ok_bind]
    split
    · split <;> exact ⟨_, rfl⟩
    · split <;> exact ⟨_, rfl⟩
    · split <;> exact ⟨_, rfl⟩
    · exact ⟨_, rfl⟩

end DatetimeType

end Quickstep.Types
