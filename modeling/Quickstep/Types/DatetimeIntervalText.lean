import Quickstep.Types.IntervalTypes

/-!
# The text of datetime intervals

A magnitude of ticks is printed as its days, hours, minutes, seconds and subseconds. The scans of
the parser read the same parts back, so that every datetime interval with a magnitude is the one
that its text denotes.
-/

namespace Quickstep.Types
open Quickstep.Lib

namespace DatetimeIntervalType

/-! ## What is printed -/

/-- A magnitude of ticks in days, hours, minutes, seconds and subseconds. -/
structure Parts where
  days : Nat
  hours : Nat
  minutes : Nat
  seconds : Nat
  subseconds : Nat
  hours_lt : hours < 24
  minutes_lt : minutes < 60
  seconds_lt : seconds < 60
  subseconds_lt : subseconds < 1000000

namespace Parts

variable (parts : Parts)

/-- The whole seconds of the parts. -/
def wholeSeconds : Nat := ((parts.days * 24 + parts.hours) * 60 + parts.minutes) * 60 + parts.seconds

def ticks : Nat := parts.wholeSeconds * 1000000 + parts.subseconds

/-- The parts of a magnitude. -/
def ofTicks (ticks : Nat) : Parts where
  days := ticks / 86400000000
  hours := ticks / 3600000000 % 24
  minutes := ticks / 60000000 % 60
  seconds := ticks / 1000000 % 60
  subseconds := ticks % 1000000
  hours_lt := Nat.mod_lt _ (by omega)
  minutes_lt := Nat.mod_lt _ (by omega)
  seconds_lt := Nat.mod_lt _ (by omega)
  subseconds_lt := Nat.mod_lt _ (by omega)

theorem ticks_ofTicks (ticks : Nat) : (ofTicks ticks).ticks = ticks := by
  simp only [Parts.ticks, wholeSeconds, ofTicks]
  omega

def daysText : List Char :=
  if parts.days = 0 then []
  else printNumber false 0 parts.days ++ (if parts.days = 1 then " day " else " days ").toList

def fractionText : List Char :=
  if parts.subseconds = 0 then [] else '.' :: printNumber false 6 parts.subseconds

/-- What follows the hours. -/
def minutesText : List Char :=
  ':' :: (printNumber false 2 parts.minutes ++
    ':' :: (printNumber false 2 parts.seconds ++ parts.fractionText))

def clockText : List Char := printNumber false 2 parts.hours ++ parts.minutesText

theorem length_hours : (printNumber false 2 parts.hours).length = 2 :=
  length_printNumber (by decide) (Nat.lt_trans parts.hours_lt (by decide))

theorem length_minutes : (printNumber false 2 parts.minutes).length = 2 :=
  length_printNumber (by decide) (Nat.lt_trans parts.minutes_lt (by decide))

theorem length_seconds : (printNumber false 2 parts.seconds).length = 2 :=
  length_printNumber (by decide) (Nat.lt_trans parts.seconds_lt (by decide))

theorem length_subseconds : (printNumber false 6 parts.subseconds).length = 6 :=
  length_printNumber (by decide) parts.subseconds_lt

theorem tdiv_hour :
    toInt32 ((parts.hours * 3600 + parts.minutes * 60 + parts.seconds : Int).tdiv 3600) =
      parts.hours := by
  have hoursLt := parts.hours_lt
  have minutesLt := parts.minutes_lt
  have secondsLt := parts.seconds_lt
  rw [Int.tdiv_eq_ediv_of_nonneg (by omega), toInt32_of_fits (by omega) (by omega)]
  omega

theorem tdiv_minute :
    toInt32 ((parts.minutes * 60 + parts.seconds : Int).tdiv 60) = parts.minutes := by
  have minutesLt := parts.minutes_lt
  have secondsLt := parts.seconds_lt
  rw [Int.tdiv_eq_ediv_of_nonneg (by omega), toInt32_of_fits (by omega) (by omega)]
  omega

theorem toInt32_seconds : toInt32 (parts.seconds : Int) = parts.seconds := by
  have secondsLt := parts.seconds_lt
  exact toInt32_of_fits (by omega) (by omega)

theorem length_daysText (fits : parts.ticks < 2 ^ 63) : parts.daysText.length ≤ 24 := by
  have days : parts.days < 10 ^ 18 := by
    unfold ticks wholeSeconds at fits
    omega
  have digits := length_printNumber_le (by decide) days
  unfold daysText
  split
  · exact Nat.zero_le _
  · rw [List.length_append]
    split
    · exact Nat.add_le_add digits (by decide : _ ≤ 6)
    · exact Nat.add_le_add digits (by decide : _ ≤ 6)

end Parts

section Printing

variable {parts : Parts} {written : List Char}

theorem printDays_eq (fits : parts.ticks < 2 ^ 63) (short : written.length ≤ 1) :
    printDays parts.days written = .ok (written ++ parts.daysText) := by
  have room := parts.length_daysText fits
  unfold printDays
  unfold Parts.daysText at room ⊢
  by_cases none : parts.days = 0
  · rw [if_pos (by omega), if_pos none, List.append_nil]
  · rw [if_neg none, List.length_append] at room
    have one : ((parts.days : Int) = 1) = (parts.days = 1) := propext (by omega)
    rw [if_neg (by omega), if_neg none, snprintf_ok (by unfold kPrintingChars; omega), Exec.ok_bind]
    simp only [one]
    rw [snprintf_ok (by rw [List.length_append]; unfold kPrintingChars; omega), List.append_assoc]

theorem printSubseconds_eq (short : written.length ≤ 33) :
    printSubseconds parts.subseconds written = .ok (written ++ parts.fractionText) := by
  unfold printSubseconds Parts.fractionText
  by_cases none : parts.subseconds = 0
  · rw [if_pos (by omega), if_pos none, List.append_nil]
  · rw [if_neg (by omega), if_neg none]
    refine snprintf_ok ?_
    rw [List.length_cons, parts.length_subseconds]
    unfold kPrintingChars
    omega

theorem printClock_eq (short : written.length ≤ 25) :
    snprintf (kPrintingChars + 1) written
      (printNumber false 2 parts.hours ++ ':' :: (printNumber false 2 parts.minutes ++
        ':' :: printNumber false 2 parts.seconds)) >>= printSubseconds parts.subseconds =
    .ok (written ++ parts.clockText) := by
  have clock : (printNumber false 2 parts.hours ++ ':' :: (printNumber false 2 parts.minutes ++
      ':' :: printNumber false 2 parts.seconds)).length = 8 := by
    simp only [List.length_append, List.length_cons, parts.length_hours, parts.length_minutes,
      parts.length_seconds]
  rw [snprintf_ok (by rw [clock]; unfold kPrintingChars; omega), Exec.ok_bind,
    printSubseconds_eq (by rw [List.length_append, clock]; omega)]
  simp only [Parts.clockText, Parts.minutesText, List.append_assoc, List.cons_append]

/-- **The parts of a magnitude are printed**, behind the sign. -/
theorem printValueToString_eq {intervalTicks : BitVec 64} (ticks : intervalTicks.toInt.natAbs = parts.ticks)
    (fits : parts.ticks < 2 ^ 63) :
    printValueToString (.datetimeInterval intervalTicks) =
      .ok (intervalSign intervalTicks.toInt ++ (parts.daysText ++ parts.clockText)) := by
  have literal : (TypedValue.datetimeInterval intervalTicks).getLiteral .datetimeIntervalLit =
      intervalTicks := rfl
  have magnitude : intervalMagnitude intervalTicks.toInt = .ok (parts.ticks : Int) := by
    rw [intervalMagnitude_eq (by omega), ticks]
  have sign := length_intervalSign intervalTicks.toInt
  have room := parts.length_daysText fits
  have printed := printDays_eq fits sign
  have hoursLt := parts.hours_lt
  have minutesLt := parts.minutes_lt
  have secondsLt := parts.seconds_lt
  have subsecondsLt := parts.subseconds_lt
  have isAmount : parts.ticks = parts.wholeSeconds * 1000000 + parts.subseconds := rfl
  have isWhole : parts.wholeSeconds =
    ((parts.days * 24 + parts.hours) * 60 + parts.minutes) * 60 + parts.seconds := rfl
  generalize parts.wholeSeconds = whole at isAmount isWhole
  generalize parts.ticks = amount at fits magnitude isAmount
  have inDay : ((whole : Int) - parts.days * 86400) =
      parts.hours * 3600 + parts.minutes * 60 + parts.seconds := by omega
  have inHour : (parts.hours * 3600 + parts.minutes * 60 + parts.seconds : Int) -
      parts.hours * 3600 = parts.minutes * 60 + parts.seconds := by omega
  have inMinute : (parts.hours * 3600 + parts.minutes * 60 + parts.seconds : Int) -
      (60 * parts.hours + parts.minutes) * 60 = parts.seconds := by omega
  have subseconds : (amount : Int) - whole * 1000000 = parts.subseconds := by omega
  -- No intermediate result overflows.
  have wholeTicks := @int64_ok ((whole : Int) * 1000000) (by omega) (by omega)
  have subsecondsFit := @int64_ok (parts.subseconds : Int) (by omega) (by omega)
  have daySeconds := @int64_ok ((parts.days : Int) * 86400) (by omega) (by omega)
  have inDayFits := @int64_ok (parts.hours * 3600 + parts.minutes * 60 + parts.seconds : Int)
    (by omega) (by omega)
  have hourSeconds := @int32_ok ((parts.hours : Int) * 3600) (by omega) (by omega)
  have inHourFits := @int64_ok (parts.minutes * 60 + parts.seconds : Int) (by omega) (by omega)
  have hourMinutes := @int32_ok (60 * (parts.hours : Int)) (by omega) (by omega)
  have allMinutes := @int32_ok (60 * (parts.hours : Int) + parts.minutes) (by omega) (by omega)
  have minuteSeconds := @int32_ok ((60 * (parts.hours : Int) + parts.minutes) * 60) (by omega)
    (by omega)
  have secondsFit := @int64_ok (parts.seconds : Int) (by omega) (by omega)
  -- The quotients are the parts.
  have seconds : (amount : Int).tdiv 1000000 = whole := by
    rw [Int.tdiv_eq_ediv_of_nonneg (by omega)]
    omega
  have days : (whole : Int).tdiv 86400 = parts.days := by
    rw [Int.tdiv_eq_ediv_of_nonneg (by omega)]
    omega
  have hours := parts.tdiv_hour
  have minutes := parts.tdiv_minute
  have remainder := parts.toInt32_seconds
  have short : (intervalSign intervalTicks.toInt ++ parts.daysText).length ≤ 25 := by
    rw [List.length_append]
    omega
  unfold printValueToString
  rw [literal]
  show (intervalMagnitude intervalTicks.toInt >>= _) = _
  rw [magnitude, Exec.ok_bind]
  simp only [kIntervalTicksPerSecond, seconds, Int.reduceMul]
  rw [wholeTicks, Exec.ok_bind, subseconds, subsecondsFit, Exec.ok_bind, days, daySeconds,
    Exec.ok_bind, inDay, inDayFits, Exec.ok_bind, printed, Exec.ok_bind, hours, hourSeconds,
    Exec.ok_bind, inHour, inHourFits, Exec.ok_bind, minutes, hourMinutes, Exec.ok_bind, allMinutes,
    Exec.ok_bind, minuteSeconds, Exec.ok_bind, inMinute, secondsFit, Exec.ok_bind, remainder,
    printClock_eq short, List.append_assoc]

end Printing

/-! ## What is read back -/

namespace Parts

variable (parts : Parts)

def dayWord : List Char := (if parts.days = 1 then "day" else "days").toList

theorem daysText_eq (some : parts.days ≠ 0) :
    parts.daysText ++ parts.clockText =
      printNumber false 0 parts.days ++ ([' '] ++ (parts.dayWord ++ (' ' :: parts.clockText))) := by
  unfold daysText dayWord
  rw [if_neg some]
  split
  · rw [List.append_assoc]
    rfl
  · rw [List.append_assoc]
    rfl

theorem stopsAt_minutesText {p : Char → Bool} (fails : p ':' = false) :
    StopsAt p parts.minutesText := stopsAt_cons fails

theorem stopsAt_fractionText : StopsAt Char.isDigit parts.fractionText := by
  unfold fractionText
  split
  · exact stopsAt_nil _
  · exact stopsAt_cons rfl

/-- What the end of a format reads, from the colon behind the hours on. -/
def minutesItems (consumed : Nat) : List Item :=
  [.number parts.minutes, .number parts.seconds, .position (consumed + 6)] ++
    if parts.subseconds = 0 then []
    else [.number parts.subseconds, .position (consumed + 13)]

theorem scan_minutes (consumed : Nat) :
    scan IntervalParser.minutesFormat consumed parts.minutesText = .ok (parts.minutesItems consumed) := by
  have minutesLt := parts.minutes_lt
  have secondsLt := parts.seconds_lt
  have subsecondsLt := parts.subseconds_lt
  unfold IntervalParser.minutesFormat minutesText minutesItems
  rw [scan_literal, scan_number (printNumber_isNumeral _ _ _) (by rw [inSigned_32]; omega)
      (atMost parts.length_minutes) (stopsAt_cons rfl), scan_literal,
    scan_number (printNumber_isNumeral _ _ _) (by rw [inSigned_32]; omega)
      (atMost parts.length_seconds) parts.stopsAt_fractionText, scan_position,
    parts.length_minutes, parts.length_seconds]
  unfold fractionText
  split
  · rw [scan_literal_fail (by simp)]
    rfl
  · have field := @scan_number _ [] _ [.position] (consumed + 1 + 2 + 1 + 2 + 1) 32 (some 6)
      (printNumber_isNumeral false 6 parts.subseconds) (by rw [inSigned_32]; omega)
      (atMost parts.length_subseconds) (stopsAt_nil _)
    rw [List.append_nil] at field
    rw [scan_literal, field, parts.length_subseconds, scan_position]
    rfl

theorem noNul_minutesText : NoNul parts.minutesText := by
  unfold minutesText fractionText
  refine .cons (by decide) (.append (noNul_printNumber _ _ _) (.cons (by decide)
    (.append (noNul_printNumber _ _ _) ?_)))
  split
  · exact noNul_nil
  · exact .cons (by decide) (noNul_printNumber _ _ _)

theorem noNul_clockText : NoNul parts.clockText :=
  .append (noNul_printNumber _ _ _) parts.noNul_minutesText

theorem noNul_daysText : NoNul parts.daysText := by
  unfold daysText
  split
  · exact noNul_nil
  · refine .append (noNul_printNumber _ _ _) ?_
    split <;> simp [NoNul]

theorem noNul_text : NoNul (parts.daysText ++ parts.clockText) :=
  .append parts.noNul_daysText parts.noNul_clockText

theorem startsWithDigit_text : StartsWithDigit (parts.daysText ++ parts.clockText) := by
  obtain ⟨hoursNonempty, hoursDigits, -⟩ := printNumber_digits 2 parts.hours
  obtain ⟨daysNonempty, daysDigits, -⟩ := printNumber_digits 0 parts.days
  by_cases none : parts.days = 0
  · unfold daysText clockText
    rw [if_pos none, List.nil_append]
    exact startsWithDigit_append hoursNonempty hoursDigits
  · rw [parts.daysText_eq none]
    exact startsWithDigit_append daysNonempty daysDigits

theorem fits_hours : InSigned 64 parts.hours := by
  have hoursLt := parts.hours_lt
  rw [inSigned_64]
  omega

/-- Without days the first scan takes the minutes for units and stops behind the seconds. -/
theorem scan_days_fails :
    scan IntervalParser.daysFormat 0 parts.clockText =
      .ok [.number parts.hours, .text (':' :: (printNumber false 2 parts.minutes ++ [':'])),
        .number parts.seconds] := by
  have secondsLt := parts.seconds_lt
  obtain ⟨-, minutesDigits, -⟩ := printNumber_digits 2 parts.minutes
  have notSpace : ∀ c ∈ ':' :: (printNumber false 2 parts.minutes ++ [':']), isSpace c = false := by
    refine List.forall_mem_cons.mpr ⟨by decide, List.forall_mem_append.mpr ⟨?_, by simp [isSpace]⟩⟩
    exact fun c inMinutes => isSpace_of_isDigit (minutesDigits c inMinutes)
  have width : (':' :: (printNumber false 2 parts.minutes ++ [':'])).length = 4 := by
    rw [List.length_cons, List.length_append, parts.length_minutes]
    rfl
  have noColon : parts.fractionText.head? ≠ some ':' := by
    unfold fractionText
    split
    · simp
    · simp
  have split : parts.minutesText = (':' :: (printNumber false 2 parts.minutes ++ [':'])) ++
      (printNumber false 2 parts.seconds ++ parts.fractionText) := by
    unfold minutesText
    rw [List.cons_append, List.append_assoc]
    rfl
  have seconds := printNumber_isNumeral false 2 parts.seconds
  unfold IntervalParser.daysFormat IntervalParser.minutesFormat clockText
  rw [List.cons_append, scan_number (printNumber_isNumeral _ _ _) parts.fits_hours
      noWidth (parts.stopsAt_minutesText rfl), List.cons_append,
    scan_space (parts.stopsAt_minutesText rfl), split, List.cons_append,
    scan_text (List.cons_ne_nil _ _) notSpace (.inl width), List.cons_append,
    scan_space seconds.not_space, List.cons_append,
    scan_number seconds (by rw [inSigned_64]; omega) (atMost parts.length_seconds)
      parts.stopsAt_fractionText, List.nil_append,
    scan_literal_fail noColon]
  rfl

theorem scan_days (some : parts.days ≠ 0) (fits : parts.ticks < 2 ^ 63) :
    scan IntervalParser.daysFormat 0 (parts.daysText ++ parts.clockText) =
      .ok (.number parts.days :: .text parts.dayWord :: .number parts.hours ::
        parts.minutesItems (parts.daysText.length + 2)) := by
  have daysFit : InSigned 64 parts.days := by
    unfold ticks wholeSeconds at fits
    rw [inSigned_64]
    omega
  have word : parts.dayWord ≠ [] ∧ (∀ c ∈ parts.dayWord, isSpace c = false) ∧
      parts.dayWord.length ≤ 4 := by
    unfold dayWord
    split <;> simp [isSpace]
  have hours := printNumber_isNumeral false 2 parts.hours
  have consumed : 0 + (printNumber false 0 parts.days).length + 1 + parts.dayWord.length + 1 =
      parts.daysText.length := by
    have split := congrArg List.length (parts.daysText_eq some)
    simp only [List.length_append, List.length_cons, List.length_nil] at split
    omega
  have wordStart : StopsAt isSpace (parts.dayWord ++ (' ' :: parts.clockText)) := by
    unfold dayWord
    split
    · exact stopsAt_cons rfl
    · exact stopsAt_cons rfl
  rw [parts.daysText_eq some, List.singleton_append]
  unfold IntervalParser.daysFormat
  rw [List.cons_append, scan_number (printNumber_isNumeral _ _ _) daysFit
      noWidth (stopsAt_cons rfl), List.cons_append,
    scan_one_space wordStart, List.cons_append,
    scan_text word.1 word.2.1 (.inr ⟨word.2.2, stopsAt_cons rfl⟩), List.cons_append]
  unfold clockText
  rw [scan_one_space hours.not_space, List.cons_append,
    scan_number hours parts.fits_hours (atMost parts.length_hours)
      (parts.stopsAt_minutesText rfl), List.nil_append, scan_minutes, consumed,
    parts.length_hours]
  rfl

theorem scan_clock :
    scan IntervalParser.clockFormat 0 parts.clockText =
      .ok (.number parts.hours :: parts.minutesItems 2) := by
  unfold IntervalParser.clockFormat clockText
  rw [scan_number (printNumber_isNumeral _ _ _) parts.fits_hours
      noWidth (parts.stopsAt_minutesText rfl), parts.length_hours, scan_minutes]
  rfl

/-- The fields of the parts, the first of which end behind `consumed` characters. -/
def fields (consumed : Nat) : IntervalParser.ClockFields where
  days := parts.days
  hours := parts.hours
  minutes := parts.minutes
  seconds := parts.seconds
  secondsEnd := consumed + 6
  subseconds := if parts.subseconds = 0 then none else some (parts.subseconds, consumed + 13)

theorem length_minutesText :
    parts.minutesText.length = if parts.subseconds = 0 then 6 else 13 := by
  unfold minutesText fractionText
  simp only [List.length_cons, List.length_append, parts.length_minutes, parts.length_seconds]
  split
  · rfl
  · rw [List.length_cons, parts.length_subseconds]

theorem scanClock_eq (sign : List Char) (fits : parts.ticks < 2 ^ 63) :
    IntervalParser.scanClock (sign ++ (parts.daysText ++ parts.clockText)) sign.length =
      .ok (some (parts.fields (parts.daysText.length + 2))) := by
  have length : (sign ++ (parts.daysText ++ parts.clockText)).length =
      sign.length + (parts.daysText.length + 2 + parts.minutesText.length) := by
    rw [List.length_append, List.length_append, clockText, List.length_append, parts.length_hours,
      Nat.add_assoc]
  have minutesLength := parts.length_minutesText
  unfold IntervalParser.scanClock fields
  rw [List.drop_left, length, sscanf_of_noNul parts.noNul_text]
  by_cases none : parts.days = 0
  · have noDays : parts.daysText = [] := if_pos none
    rw [noDays, List.nil_append, parts.scan_days_fails, Exec.ok_bind]
    simp only
    rw [sscanf_of_noNul parts.noNul_clockText, parts.scan_clock, Exec.ok_bind, minutesItems,
      minutesLength, none]
    by_cases exact : parts.subseconds = 0
    · simp [exact]
      rfl
    · simp [exact]
      rfl
  · have hoursLt := parts.hours_lt
    have notMore : ¬ ((parts.hours : Int) > 23) := by omega
    have word : IntervalParser.isOneOf ["day", "days"] (parts.dayWord.map Char.toLower) = true := by
      unfold dayWord
      split <;> decide
    rw [parts.scan_days none fits, Exec.ok_bind, minutesItems, minutesLength]
    by_cases exact : parts.subseconds = 0
    · simp [exact, IntervalParser.checkDays, word, notMore]
      rfl
    · simp [exact, IntervalParser.checkDays, word, notMore]
      rfl

theorem totalTicks_fields (consumed : Nat) (fits : parts.ticks < 2 ^ 63) :
    (parts.fields consumed).totalTicks = .ok (parts.ticks : Int) := by
  have subsecondTicks : (parts.fields consumed).subsecondTicks = .ok (parts.subseconds : Int) := by
    unfold IntervalParser.ClockFields.subsecondTicks fields
    by_cases none : parts.subseconds = 0
    · simp only [none]
      rfl
    · simp only [if_neg none]
      have digits : (6 - (((consumed + 13 : Nat) : Int) - (consumed + 6 : Nat) - 1)).toNat = 0 := by
        omega
      rw [digits]
      rfl
  have isTicks : (parts.ticks : Int) = ((((parts.days : Int) * 24 + parts.hours) * 60 +
      parts.minutes) * 60 + parts.seconds) * 1000000 + parts.subseconds := by
    unfold ticks wholeSeconds
    omega
  unfold IntervalParser.ClockFields.totalTicks
  rw [subsecondTicks, Exec.ok_bind]
  unfold fields kIntervalTicksPerSecond
  simp only
  generalize parts.ticks = amount at fits isTicks
  rw [int64_ok (by omega) (by omega), Exec.ok_bind, int64_ok (by omega) (by omega), Exec.ok_bind,
    int64_ok (by omega) (by omega), Exec.ok_bind, int64_ok (by omega) (by omega), Exec.ok_bind,
    int64_ok (by omega) (by omega), Exec.ok_bind, int64_ok (by omega) (by omega), Exec.ok_bind,
    int64_ok (by omega) (by omega), Exec.ok_bind, ← isTicks]
  exact int64_ok (by omega) (by omega)

theorem inRange_fields (consumed : Nat) : (parts.fields consumed).inRange = true := by
  have minutesLt := parts.minutes_lt
  have secondsLt := parts.seconds_lt
  unfold IntervalParser.ClockFields.inRange fields
  split
  · simp
    omega
  · simp
    omega

/-- **The complex format reads the parts back.** -/
theorem parseComplex_eq (negative : Bool) (fits : parts.ticks < 2 ^ 63) :
    IntervalParser.parseDatetimeIntervalComplexFormat
      ((if negative then ['-'] else []) ++ (parts.daysText ++ parts.clockText)) =
    .ok (some (if negative then -parts.ticks else parts.ticks)) := by
  unfold IntervalParser.parseDatetimeIntervalComplexFormat
  rw [IntervalParser.startOffset_eq negative parts.noNul_text parts.startsWithDigit_text,
    Exec.ok_bind, parts.scanClock_eq _ fits, Exec.ok_bind]
  simp only [parts.inRange_fields, if_true, parts.totalTicks_fields _ fits]
  rw [Exec.ok_bind, IntervalParser.withSign_eq negative fits]
  rfl

/-- The text behind the hours is not the name of a unit. -/
theorem simpleFormat_minutesText (count : Int) :
    IntervalParser.parseDatetimeIntervalSimpleFormat count (parts.minutesText.map Char.toLower) =
      .ok none := by
  have colon : parts.minutesText.map Char.toLower = ':' :: parts.minutesText.tail.map Char.toLower :=
    rfl
  rw [colon]
  generalize parts.minutesText.tail.map Char.toLower = units
  simp [IntervalParser.parseDatetimeIntervalSimpleFormat, IntervalParser.isOneOf]

theorem unitsMember_minutesText : ∀ c ∈ parts.minutesText, IntervalParser.unitsMember c = true := by
  have digits (width number : Nat) :
      ∀ c ∈ printNumber false width number, IntervalParser.unitsMember c = true :=
    fun c inText => IntervalParser.unitsMember_of_isDigit ((printNumber_digits width number).2.1 c inText)
  unfold minutesText fractionText
  refine List.forall_mem_cons.mpr ⟨by decide, List.forall_mem_append.mpr ⟨digits _ _,
    List.forall_mem_cons.mpr ⟨by decide, List.forall_mem_append.mpr ⟨digits _ _, ?_⟩⟩⟩⟩
  split
  · simp
  · exact List.forall_mem_cons.mpr ⟨by decide, digits _ _⟩

/-- The count and the units that the simple format takes out of the text are no interval: without
days the units are the minutes, and with days the clock stands behind them. -/
theorem simpleFields_eq (negative : Bool) (fits : parts.ticks < 2 ^ 63) :
    ∃ count,
      IntervalParser.parseSimpleFormatFieldsFromCombinedStringNoExtraWhitespace
        ((if negative then ['-'] else []) ++ (parts.daysText ++ parts.clockText)) =
      .ok (if parts.days = 0 then some (count, parts.minutesText.map Char.toLower) else none) := by
  have noNul := IntervalParser.noNul_signed negative parts.noNul_text
  rw [IntervalParser.simpleFormatFields_eq negative parts.noNul_text parts.startsWithDigit_text]
  by_cases none : parts.days = 0
  · have split : parts.daysText ++ parts.clockText =
        printNumber false 2 parts.hours ++ ([] ++ (parts.minutesText ++ [])) := by
      unfold daysText clockText
      rw [if_pos none, List.nil_append, List.nil_append, List.append_nil]
    have count : InSigned 64 (if negative then -(parts.hours : Int) else parts.hours) := by
      have hoursLt := parts.hours_lt
      rw [inSigned_64]
      split <;> omega
    have nonempty : parts.minutesText ≠ [] := List.cons_ne_nil _ _
    have colon : StopsAt Char.isDigit (parts.minutesText ++ []) := stopsAt_cons rfl
    rw [split, ← List.append_assoc] at noNul ⊢
    refine ⟨if negative then -(parts.hours : Int) else parts.hours, ?_⟩
    rw [if_pos none, IntervalParser.noQuotesFields_eq (minus_printNumber_isNumeral negative 2 _) count
      (.inr ⟨rfl, colon⟩) nonempty parts.unitsMember_minutesText (stopsAt_nil _) noNul, if_pos rfl]
  · have split := parts.daysText_eq none
    have count : InSigned 64 (if negative then -(parts.days : Int) else parts.days) := by
      unfold ticks wholeSeconds at fits
      rw [inSigned_64]
      split <;> omega
    have word : parts.dayWord ≠ [] ∧
        ∀ c ∈ parts.dayWord, IntervalParser.unitsMember c = true := by
      unfold dayWord
      split <;> simp [IntervalParser.unitsMember, isSpace]
    rw [split, ← List.append_assoc] at noNul ⊢
    refine ⟨0, ?_⟩
    rw [if_neg none, IntervalParser.noQuotesFields_eq (minus_printNumber_isNumeral negative 0 _) count
      (.inl rfl) word.1 word.2 (stopsAt_cons rfl) noNul, if_neg (List.cons_ne_nil _ _)]

/-- **The parts are parsed.** -/
theorem parseValueFromString_eq (negative : Bool) (fits : parts.ticks < 2 ^ 63) :
    parseValueFromString ((if negative then ['-'] else []) ++ (parts.daysText ++ parts.clockText)) =
      .ok (some (.datetimeInterval
        (BitVec.ofInt 64 (if negative then -parts.ticks else parts.ticks)))) := by
  obtain ⟨count, fields⟩ := parts.simpleFields_eq negative fits
  unfold parseValueFromString parseInterval
  rw [fields, Exec.ok_bind]
  by_cases none : parts.days = 0
  · simp only [if_pos none]
    rw [parts.simpleFormat_minutesText, Exec.ok_bind]
    simp only
    rw [parts.parseComplex_eq negative fits]
    rfl
  · simp only [if_neg none]
    rw [parts.parseComplex_eq negative fits]
    rfl

end Parts

/-- A datetime interval is printed, and what is printed is parsed to the same interval. -/
def RoundTrip (intervalTicks : BitVec 64) : Prop :=
  ∃ text, printValueToString (.datetimeInterval intervalTicks) = .ok text ∧
    parseValueFromString text = .ok (some (.datetimeInterval intervalTicks))

theorem roundTrip_iff (intervalTicks : BitVec 64) :
    RoundTrip intervalTicks ↔ intervalTicks ≠ BitVec.intMin 64 := by
  refine ⟨?_, fun notMin => ?_⟩
  · rintro ⟨text, printed, -⟩ rfl
    cases printed
  · have ticks := (Parts.ticks_ofTicks intervalTicks.toInt.natAbs).symm
    have fits := natAbs_toInt_lt notMin
    rw [ticks] at fits
    refine ⟨_, printValueToString_eq ticks fits, ?_⟩
    rw [intervalSign_eq, Parts.parseValueFromString_eq _ _ fits, ← ticks, ofInt_natAbs]

end DatetimeIntervalType

end Quickstep.Types
