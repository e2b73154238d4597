import Quickstep.Types.IntervalScans

/-!
# Exact datetime intervals

What the parser of datetime intervals does with the pieces of its string: it checks them, and adds
them up without a check of the sum. It is exact where the pieces are those of the documented shape.
-/

namespace Quickstep.Types
open Quickstep.Lib

namespace IntervalParser

/-! ## The fields of a string -/

section Fields

variable {pieces : DatetimePieces} {text : List Char} {items : List Item}

theorem checkDays_eq_some_iff {atEnd : Bool} {daysbuf : List Char} {fields fields' : ClockFields} :
    checkDays atEnd daysbuf fields = some fields' ↔
      atEnd = true ∧ isOneOf ["day", "days"] (daysbuf.map Char.toLower) = true ∧ fields.hours ≤ 23 ∧
        fields = fields' := by
  cases atEnd <;> cases known : isOneOf ["day", "days"] (daysbuf.map Char.toLower) <;>
    simp [checkDays, known]

theorem minutesFormat_narrow : ∀ d ∈ minutesFormat, d.Narrow := by
  have two : (Directive.number 32 (some 2)).Narrow := ⟨2, rfl, by decide⟩
  have six : (Directive.number 32 (some 6)).Narrow := ⟨6, rfl, by decide⟩
  simp only [minutesFormat, List.forall_mem_cons]
  exact ⟨trivial, two, trivial, two, trivial, trivial, six, trivial, fun _ => (absurd · List.not_mem_nil)⟩

/-- Both scans are defined where the number at the front fits. -/
theorem clockFormat_defined_iff {input : List Char} :
    (∃ items, scan clockFormat 0 input = .ok items) ↔
      ∀ number rest value, input = number ++ rest → IsField none number value rest →
        InSigned 64 value := scan_number_defined_iff minutesFormat_narrow 0 input

theorem daysFormat_defined_iff {input : List Char} :
    (∃ items, scan daysFormat 0 input = .ok items) ↔
      ∀ number rest value, input = number ++ rest → IsField none number value rest →
        InSigned 64 value := by
  refine scan_number_defined_iff ?_ 0 input
  have two : (Directive.number 64 (some 2)).Narrow := ⟨2, rfl, by decide⟩
  simp only [List.append_eq, List.cons_append, List.nil_append, List.forall_mem_cons]
  exact ⟨trivial, trivial, trivial, two, minutesFormat_narrow⟩

/-- The scan for days is given up in a clock. -/
theorem few_items_of_clock (hours : IsField none pieces.hours (fieldValue pieces.hours) [':'])
    (minutes : pieces.MinutesRead) (run : scan daysFormat 0 pieces.clockText = .ok items) :
    items.length < 6 := by
  rcases items with _ | ⟨i₁, _ | ⟨i₂, _ | ⟨i₃, _ | ⟨i₄, _ | ⟨i₅, _ | ⟨i₆, items⟩⟩⟩⟩⟩⟩
  case cons.cons.cons.cons.cons.cons =>
    obtain ⟨day, hours', rest, consumed, same, read, -, -, -, fromMinutes⟩ :=
      scan_daysFormat_eq_cons run
    obtain ⟨minutes', seconds', rest', -, rfl, -⟩ := scan_minutesFormat_eq_cons fromMinutes
    refine absurd same (clockText_ne_dayText hours minutes read ?_)
    simp only [List.count_append, List.count_cons_self]
    omega
  all_goals simp

/-- **The fields of the pieces are scanned.** -/
theorem scanClock_of_read (read : pieces.Read text) (range : pieces.InRange) (fits : FrontFits text) :
    ∃ secondsEnd, scanClock text (minusText (startsWithMinus text)).length =
      .ok (some (pieces.fields secondsEnd)) := by
  have length := length_minusText_add text
  have noNul := read.noNul
  have isHours := read.hours
  have minutes := read.minutes
  unfold scanClock
  rw [drop_minusText]
  simp only [sscanf_of_noNul noNul]
  have front := fits
  unfold FrontFits at front
  rw [cString_of_noNul noNul] at front
  rw [read.isText] at length front ⊢
  unfold DatetimePieces.HoursRead at isHours
  unfold DatetimePieces.unsignedText at length front ⊢
  cases isDay : pieces.dayPart with
  | some day =>
    simp only [isDay] at isHours length front ⊢
    obtain ⟨consumed, scanned, behindHours⟩ :=
      scan_days isHours.1 isHours.2 (front _ _ _ rfl isHours.1.days)
    obtain ⟨secondsEnd, scannedMinutes, behindSeconds⟩ := scan_minutes minutes consumed
    refine ⟨secondsEnd, ?_⟩
    have checks (fields : ClockFields) (isHours : fields.hours = fieldValue pieces.hours) :
        checkDays true day.units fields = some fields :=
      checkDays_eq_some_iff.mpr ⟨rfl, range.units day isDay, isHours ▸ range.hours_le day isDay, rfl⟩
    have isDays : pieces.days = fieldValue day.days := by rw [DatetimePieces.days, isDay]
    rw [scanned, scannedMinutes]
    unfold DatetimePieces.fields
    cases isFraction : pieces.fraction with
    | none =>
      have atEnd : (minusText (startsWithMinus text)).length + secondsEnd = text.length := by
        rw [isFraction] at behindSeconds
        simp only [fractionText, List.length_nil] at behindSeconds
        omega
      show Except.ok (checkDays (_ == _) _ _) = _
      rw [beq_iff_eq.mpr atEnd, checks _ rfl, isDays]
      rfl
    | some fraction =>
      have atEnd : (minusText (startsWithMinus text)).length + (secondsEnd + 1 + fraction.length) =
          text.length := by
        rw [isFraction] at behindSeconds
        simp only [fractionText, List.length_cons] at behindSeconds
        omega
      show Except.ok (checkDays (_ == _) _ _) = _
      rw [beq_iff_eq.mpr atEnd, checks _ rfl, isDays]
      rfl
  | none =>
    simp only [isDay] at isHours length front ⊢
    have hours : IsField none pieces.hours (fieldValue pieces.hours) pieces.minutesText := isHours
    have hoursFit := front _ _ _ rfl hours
    obtain ⟨items, givenUp⟩ := daysFormat_defined_iff.mpr front
    have few := few_items_of_clock isHours minutes givenUp
    obtain ⟨secondsEnd, scannedMinutes, behindSeconds⟩ :=
      scan_minutes minutes (0 + pieces.hours.length)
    have isDays : pieces.days = 0 := by rw [DatetimePieces.days, isDay]
    have scanned : scan clockFormat 0 pieces.clockText = .ok (.number (fieldValue pieces.hours) ::
        (minuteItems pieces.minutes pieces.seconds secondsEnd ++
          fractionItems secondsEnd pieces.fraction)) := by
      rw [clockFormat, DatetimePieces.clockText, scan_field hours, if_pos hoursFit, scannedMinutes]
      rfl
    refine ⟨secondsEnd, ?_⟩
    rw [givenUp, Exec.ok_bind]
    split
    · simp at few
    · simp at few
    · rw [scanned]
      unfold DatetimePieces.fields
      rw [isDays]
      rw [DatetimePieces.clockText, List.length_append] at length
      cases isFraction : pieces.fraction with
      | none =>
        rw [isFraction] at behindSeconds
        simp only [fractionText, List.length_nil] at behindSeconds
        exact if_pos (by omega)
      | some fraction =>
        rw [isFraction] at behindSeconds
        simp only [fractionText, List.length_cons] at behindSeconds
        exact if_pos (by omega)

/-- **What is scanned are the fields of pieces** of the string, the unit and the hours behind it
checked. -/
theorem read_of_scanClock {fields : ClockFields}
    (run : scanClock text (minusText (startsWithMinus text)).length = .ok (some fields)) :
    ∃ pieces secondsEnd, DatetimePieces.Read pieces text ∧ fields = pieces.fields secondsEnd ∧
      ∀ day ∈ pieces.dayPart, isOneOf ["day", "days"] (day.units.map Char.toLower) = true ∧
        fieldValue pieces.hours ≤ 23 := by
  have length := length_minusText_add text
  have cut : (cString (behindMinus text)).length ≤ (behindMinus text).length :=
    (List.takeWhile_prefix _).length_le
  have whole := @noNul_of_length (behindMinus text)
  unfold scanClock at run
  rw [drop_minusText] at run
  obtain ⟨items, scanned, run⟩ := Exec.bind_ok run
  unfold sscanf at scanned
  split at run
  · obtain ⟨day, hours, rest, consumed, isText, isDay, isHours, stored, behindHours, fromMinutes⟩ :=
      scan_daysFormat_eq_cons scanned
    obtain ⟨minutes, seconds, rest', secondsEnd, rfl, isMinutes, isSeconds, storedMinutes,
      behindSeconds, -⟩ := scan_minutesFormat_eq_cons fromMinutes
    cases storedMinutes
    cases stored
    obtain ⟨atEnd, known, hoursLe, rfl⟩ := checkDays_eq_some_iff.mp (Except.ok.inj run)
    rw [beq_iff_eq] at atEnd
    obtain rfl : rest' = [] := List.length_eq_zero_iff.mp (by omega)
    have same := whole (by omega)
    refine ⟨⟨_, some day, hours, minutes, seconds, none⟩, _, ⟨rfl, same.1.symm.trans isText, same.2,
      ⟨isDay, isHours⟩, isMinutes, isSeconds, nofun⟩, rfl, fun day' isPart => ?_⟩
    cases isPart
    exact ⟨known, hoursLe⟩
  · obtain ⟨day, hours, rest, consumed, isText, isDay, isHours, stored, behindHours, fromMinutes⟩ :=
      scan_daysFormat_eq_cons scanned
    obtain ⟨minutes, seconds, rest', secondsEnd, rfl, isMinutes, isSeconds, storedMinutes,
      behindSeconds, fromFraction⟩ := scan_minutesFormat_eq_cons fromMinutes
    obtain ⟨digits, rest'', rfl, isDigits, storedFraction⟩ := scan_fractionFormat_eq_cons fromFraction
    cases storedFraction
    cases storedMinutes
    cases stored
    obtain ⟨atEnd, known, hoursLe, rfl⟩ := checkDays_eq_some_iff.mp (Except.ok.inj run)
    rw [beq_iff_eq] at atEnd
    simp only [List.length_cons, List.length_append] at behindSeconds behindHours
    obtain rfl : rest'' = [] := List.length_eq_zero_iff.mp (by omega)
    rw [List.append_nil] at isText isDay isSeconds
    have same := whole (by omega)
    refine ⟨⟨_, some day, hours, minutes, seconds, some digits⟩, _, ⟨rfl, same.1.symm.trans isText,
      same.2, ⟨isDay, isHours⟩, isMinutes, isSeconds, fun fraction isFraction => ?_⟩, rfl,
      fun day' isPart => ?_⟩
    · cases isFraction
      exact isDigits
    · cases isPart
      exact ⟨known, hoursLe⟩
  · obtain ⟨clockItems, scannedClock, run⟩ := Exec.bind_ok run
    unfold sscanf clockFormat at scannedClock
    split at run
    · split at run
      · next atEnd =>
        cases run
        obtain ⟨hours, rest, value, isText, isHours, stored, fromMinutes⟩ :=
          scan_number_eq_cons scannedClock
        obtain ⟨minutes, seconds, rest', secondsEnd, rfl, isMinutes, isSeconds, storedMinutes,
          behindSeconds, -⟩ := scan_minutesFormat_eq_cons fromMinutes
        cases storedMinutes
        cases stored
        obtain rfl := isHours.value_eq
        rw [isText, List.length_append] at cut
        obtain rfl : rest' = [] := List.length_eq_zero_iff.mp (by omega)
        have same := whole (by rw [isText, List.length_append]; omega)
        exact ⟨⟨_, none, hours, minutes, seconds, none⟩, _, ⟨rfl, same.1.symm.trans isText, same.2,
          isHours, isMinutes, isSeconds, nofun⟩, rfl, nofun⟩
      · cases run
    · split at run
      · next atEnd =>
        cases run
        obtain ⟨hours, rest, value, isText, isHours, stored, fromMinutes⟩ :=
          scan_number_eq_cons scannedClock
        obtain ⟨minutes, seconds, rest', secondsEnd, rfl, isMinutes, isSeconds, storedMinutes,
          behindSeconds, fromFraction⟩ := scan_minutesFormat_eq_cons fromMinutes
        obtain ⟨digits, rest'', rfl, isDigits, storedFraction⟩ :=
          scan_fractionFormat_eq_cons fromFraction
        cases storedFraction
        cases storedMinutes
        cases stored
        obtain rfl := isHours.value_eq
        rw [isText, List.length_append] at cut
        simp only [List.length_cons, List.length_append] at behindSeconds cut
        obtain rfl : rest'' = [] := List.length_eq_zero_iff.mp (by omega)
        rw [List.append_nil] at isText isSeconds
        have same := whole (by
          rw [isText]
          simp only [List.length_cons, List.length_append] at behindSeconds ⊢
          omega)
        refine ⟨⟨_, none, hours, minutes, seconds, some digits⟩, _, ⟨rfl, same.1.symm.trans isText,
          same.2, isHours, isMinutes, isSeconds, fun fraction isFraction => ?_⟩, rfl, nofun⟩
        cases isFraction
        exact isDigits
      · cases run
    · cases run

/-- **The scans are defined** where the number at the front fits. -/
theorem scanClock_defined_iff :
    (∃ result, scanClock text (minusText (startsWithMinus text)).length = .ok result) ↔
      FrontFits text := by
  unfold FrontFits
  rw [← daysFormat_defined_iff]
  unfold scanClock sscanf
  rw [drop_minusText]
  constructor
  · rintro ⟨result, run⟩
    obtain ⟨items, scanned, -⟩ := Exec.bind_ok run
    exact ⟨items, scanned⟩
  · rintro ⟨items, scanned⟩
    obtain ⟨clockItems, scannedClock⟩ :=
      clockFormat_defined_iff.mpr (daysFormat_defined_iff.mp ⟨items, scanned⟩)
    simp only [scanned, scannedClock, Exec.ok_bind]
    split
    · exact ⟨_, rfl⟩
    · exact ⟨_, rfl⟩
    · split
      · split <;> exact ⟨_, rfl⟩
      · split <;> exact ⟨_, rfl⟩
      · exact ⟨_, rfl⟩

end Fields

/-! ## The sum -/

/-- A sum that is not checked. -/
def bounded (total : Int) : Exec Int :=
  if total < 9223372036854775808 then .ok total else .error .undefinedBehaviour

section Sum

variable {pieces : DatetimePieces}

theorem int64_eq_bounded {total : Int} (nonneg : 0 ≤ total) : int64 total = bounded total := by
  have inside : InSigned 64 total ↔ total < 9223372036854775808 := by
    rw [inSigned_64]
    omega
  simp only [int64, checked, bounded, inside]

/-- An intermediate result that is not more than the total overflows with it only. -/
theorem int64_bind_bounded {value total : Int} {next : Int → Exec Int} (nonneg : 0 ≤ value)
    (le : value ≤ total) (goesOn : next value = bounded total) :
    (int64 value >>= next) = bounded total := by
  rw [int64_eq_bounded nonneg]
  by_cases fits : value < 9223372036854775808
  · rw [bounded, if_pos fits, Exec.ok_bind, goesOn]
  · rw [bounded, bounded, if_neg fits, if_neg (by omega)]
    rfl

theorem subsecondTicks_fields (read : pieces.MinutesRead) (range : pieces.InRange) (secondsEnd : Nat) :
    (pieces.fields secondsEnd).subsecondTicks = .ok pieces.subseconds ∧ 0 ≤ pieces.subseconds := by
  unfold ClockFields.subsecondTicks DatetimePieces.fields DatetimePieces.subseconds
  cases isFraction : pieces.fraction with
  | none => exact ⟨rfl, Int.le_refl 0⟩
  | some fraction =>
    obtain ⟨digits, isDigits⟩ := Int.eq_ofNat_of_zero_le (range.fraction fraction isFraction)
    have missing : (6 - (((secondsEnd + 1 + fraction.length : Nat) : Int) - secondsEnd - 1)).toNat =
        6 - fraction.length := by omega
    obtain ⟨blanks, numeral, isText, -, isNumeral, short, -⟩ := read.fraction fraction isFraction
    have numeralShort := short 6 rfl
    have small := isNumeral.natAbs_lt
    rw [isDigits, Int.natAbs_natCast] at small
    have scaled : digits * 10 ^ (6 - fraction.length) < 10 ^ 6 := by
      have split : numeral.length + (6 - fraction.length) ≤ 6 := by
        rw [isText, List.length_append]
        omega
      calc digits * 10 ^ (6 - fraction.length)
          < 10 ^ numeral.length * 10 ^ (6 - fraction.length) :=
            Nat.mul_lt_mul_of_pos_right small (Nat.pow_pos (by decide))
        _ = 10 ^ (numeral.length + (6 - fraction.length)) := (Nat.pow_add _ _ _).symm
        _ ≤ 10 ^ 6 := Nat.pow_le_pow_right (by decide) split
    have fits : InSigned 32 (digits * 10 ^ (6 - fraction.length) : Nat) := by
      rw [inSigned_32]
      omega
    simp only [Option.map_some, missing, isDigits]
    rw [scaleByTen_eq fits]
    refine ⟨?_, ?_⟩
    · push_cast
      rfl
    · exact Int.mul_nonneg (Int.natCast_nonneg _) (Int.pow_nonneg (by decide))

theorem days_nonneg (range : pieces.InRange) : 0 ≤ pieces.days := by
  unfold DatetimePieces.days
  split
  · next isDay => exact range.days _ isDay
  · exact Int.le_refl 0

/-- **The sum of the fields** is the magnitude of the pieces, if this fits. -/
theorem totalTicks_fields (read : pieces.MinutesRead) (range : pieces.InRange) (secondsEnd : Nat) :
    (pieces.fields secondsEnd).totalTicks = bounded pieces.magnitude := by
  obtain ⟨subseconds, subsecondsNonneg⟩ := subsecondTicks_fields read range secondsEnd
  have days := days_nonneg range
  have hours := range.hours
  have minutes := range.minutes
  have seconds := range.seconds
  unfold ClockFields.totalTicks
  rw [subseconds, Exec.ok_bind]
  unfold DatetimePieces.magnitude
  unfold DatetimePieces.fields
  simp only [kIntervalTicksPerSecond]
  refine int64_bind_bounded (by omega) (by omega) ?_
  refine int64_bind_bounded (by omega) (by omega) ?_
  refine int64_bind_bounded (by omega) (by omega) ?_
  refine int64_bind_bounded (by omega) (by omega) ?_
  refine int64_bind_bounded (by omega) (by omega) ?_
  refine int64_bind_bounded (by omega) (by omega) ?_
  refine int64_bind_bounded (by omega) (by omega) ?_
  exact int64_eq_bounded (by omega)

/-- The sign does not overflow. -/
theorem some_withSign_bounded (negative : Bool) {magnitude : Int} (nonneg : 0 ≤ magnitude) :
    (bounded magnitude >>= fun total => some <$> withSign (minusText negative).length total) =
      if magnitude < 9223372036854775808 then
        .ok (some (if negative then -magnitude else magnitude))
      else .error .undefinedBehaviour := by
  obtain ⟨amount, rfl⟩ := Int.eq_ofNat_of_zero_le nonneg
  unfold bounded
  split
  · have signed : withSign (minusText negative).length amount = _ := withSign_eq negative (by omega)
    rw [Exec.ok_bind, signed]
    rfl
  · rfl

theorem magnitude_nonneg (read : pieces.MinutesRead) (range : pieces.InRange) :
    0 ≤ pieces.magnitude := by
  obtain ⟨-, subseconds⟩ := subsecondTicks_fields read range 0
  have days := days_nonneg range
  have hours := range.hours
  have minutes := range.minutes
  have seconds := range.seconds
  unfold DatetimePieces.magnitude
  omega

end Sum

/-! ## Exactness -/

section Exactness

variable {pieces : DatetimePieces} {text : List Char}

/-- The remaining checks are those of the range. -/
theorem inRange_fields_iff {secondsEnd : Nat}
    (checks : ∀ day ∈ pieces.dayPart, isOneOf ["day", "days"] (day.units.map Char.toLower) = true ∧
      fieldValue pieces.hours ≤ 23) :
    (pieces.fields secondsEnd).inRange = true ↔ pieces.InRange := by
  have days : 0 ≤ pieces.days ↔ ∀ day ∈ pieces.dayPart, 0 ≤ fieldValue day.days := by
    unfold DatetimePieces.days
    cases pieces.dayPart <;> simp
  have fraction : (pieces.fields secondsEnd).subseconds.all (fun field => decide (0 ≤ field.1)) = true ↔
      ∀ fraction ∈ pieces.fraction, 0 ≤ fieldValue fraction := by
    unfold DatetimePieces.fields
    cases pieces.fraction <;> simp
  unfold ClockFields.inRange
  simp only [Bool.and_eq_true, decide_eq_true_eq, fraction]
  show ((((((0 ≤ pieces.days ∧ _) ∧ _) ∧ _) ∧ _) ∧ _) ∧ _) ↔ _
  rw [days]
  constructor
  · rintro ⟨⟨⟨⟨⟨⟨isDays, hours⟩, minutes⟩, seconds⟩, isFraction⟩, minutesLe⟩, secondsLe⟩
    exact ⟨fun day isDay => (checks day isDay).1, isDays, fun day isDay => (checks day isDay).2, hours,
      minutes, minutesLe, seconds, secondsLe, isFraction⟩
  · intro range
    exact ⟨⟨⟨⟨⟨⟨range.days, range.hours⟩, range.minutes⟩, range.seconds⟩, range.fraction⟩,
      range.minutes_le⟩, range.seconds_le⟩

/-- **What the parser does with pieces in range**: their value, if the magnitude fits. -/
theorem parse_of_fields {secondsEnd : Nat} (read : pieces.Read text) (range : pieces.InRange)
    (run : scanClock text (minusText (startsWithMinus text)).length =
      .ok (some (pieces.fields secondsEnd))) :
    parseDatetimeIntervalComplexFormat text =
      if pieces.magnitude < 9223372036854775808 then .ok (some pieces.value)
      else .error .undefinedBehaviour := by
  have checks : ∀ day ∈ pieces.dayPart,
      isOneOf ["day", "days"] (day.units.map Char.toLower) = true ∧ fieldValue pieces.hours ≤ 23 :=
    fun day isDay => ⟨range.units day isDay, range.hours_le day isDay⟩
  have inRange := (@inRange_fields_iff pieces secondsEnd checks).mpr range
  have sum := totalTicks_fields read.minutes range secondsEnd
  unfold parseDatetimeIntervalComplexFormat
  rw [startOffset_eq_length, Exec.ok_bind, run, Exec.ok_bind]
  simp only [inRange, if_true, sum]
  rw [← read.negative]
  exact some_withSign_bounded pieces.negative (magnitude_nonneg read.minutes range)

/-- **A string in range is parsed to the value of its pieces**, if the magnitude fits. -/
theorem parse_of_read (read : pieces.Read text) (range : pieces.InRange) (fits : FrontFits text) :
    parseDatetimeIntervalComplexFormat text =
      if pieces.magnitude < 9223372036854775808 then .ok (some pieces.value)
      else .error .undefinedBehaviour := by
  obtain ⟨secondsEnd, run⟩ := scanClock_of_read read range fits
  exact parse_of_fields read range run

/-- Any other string is rejected. -/
theorem parse_cases (fits : FrontFits text) :
    (∃ pieces, DatetimePieces.Read pieces text ∧ pieces.InRange) ∨
      parseDatetimeIntervalComplexFormat text = .ok none := by
  obtain ⟨scanned, run⟩ := scanClock_defined_iff.mpr fits
  have rejected : (∃ pieces, DatetimePieces.Read pieces text ∧ pieces.InRange) ∨
      ∀ fields ∈ scanned, fields.inRange = false := by
    cases scanned with
    | none => exact .inr nofun
    | some fields =>
      obtain ⟨pieces, secondsEnd, read, rfl, checks⟩ := read_of_scanClock run
      cases inRange : (pieces.fields secondsEnd).inRange with
      | true => exact .inl ⟨pieces, read, (inRange_fields_iff checks).mp inRange⟩
      | false =>
        refine .inr fun fields isFields => ?_
        cases isFields
        exact inRange
  refine rejected.imp id fun outside => ?_
  unfold parseDatetimeIntervalComplexFormat
  rw [startOffset_eq_length, Exec.ok_bind, run, Exec.ok_bind]
  cases scanned with
  | none => rfl
  | some fields => simp only [outside fields rfl, Bool.false_eq_true, if_false]; rfl

/-- A string whose front number does not fit is not parsed. -/
theorem frontFits_of_parse {result : Option Int}
    (run : parseDatetimeIntervalComplexFormat text = .ok result) : FrontFits text := by
  unfold parseDatetimeIntervalComplexFormat at run
  rw [startOffset_eq_length, Exec.ok_bind] at run
  obtain ⟨scanned, isScanned, -⟩ := Exec.bind_ok run
  exact scanClock_defined_iff.mp ⟨scanned, isScanned⟩

theorem DatetimePieces.Read.text_eq (read : pieces.Read text) : text = pieces.text := by
  rw [DatetimePieces.text, read.negative, ← read.isText, minusText_behindMinus]

/-- **A documented string is read.** -/
theorem read_of_plain (plain : pieces.Plain) (range : pieces.InRange) : pieces.Read pieces.text := by
  have minuteColon : StopsAt Char.isDigit [':'] := stopsAt_cons rfl
  have minutes : pieces.MinutesRead :=
    ⟨plain.minutes.1.isField (atMost plain.minutes.2) minuteColon,
      plain.seconds.1.isField (atMost plain.seconds.2) (stopsAt_fractionText _ rfl _),
      fun fraction isFraction => (plain.fraction fraction isFraction).1.isField
        (fun most isMost => by cases isMost; exact (plain.fraction fraction isFraction).2) (stopsAt_nil _)⟩
  have noNulFraction : NoNul (fractionText pieces.fraction) := by
    cases isFraction : pieces.fraction with
    | none => exact noNul_nil
    | some fraction => exact .cons rfl (plain.fraction fraction isFraction).1.noNul
  have noNulClock : NoNul pieces.clockText :=
    plain.hours.noNul.append (.cons rfl (plain.minutes.1.noNul.append
      (.cons rfl (plain.seconds.1.noNul.append noNulFraction))))
  have startsClock : StartsWithDigit pieces.clockText := plain.hours.startsWithDigit
  have rest : StartsWithDigit pieces.unsignedText ∧ NoNul pieces.unsignedText ∧ pieces.HoursRead := by
    unfold DatetimePieces.unsignedText DatetimePieces.HoursRead
    cases isDay : pieces.dayPart with
    | none => exact ⟨startsClock, noNulClock, plain.hours.isField noWidth minuteColon⟩
    | some day =>
      obtain ⟨days, before, behind⟩ := plain.days day isDay
      have blank : Blanks [' '] := by simp [Blanks, isSpace]
      have isUnits := @isWord_of_isOneOf (day.behind ++ pieces.clockText) day.units _ 4
        (range.units day isDay) (by decide) (by rw [behind]; exact stopsAt_cons rfl)
      have stops : StopsAt isSpace pieces.clockText :=
        startsClock.stopsAt fun c digit => isSpace_of_isDigit digit
      refine ⟨days.startsWithDigit, ?_, ⟨?_, ?_, isUnits.1, ?_, stops⟩, ?_⟩
      · refine days.noNul.append (.append ?_ (isUnits.2.append (.append ?_ noNulClock)))
        · rw [before]
          exact .cons rfl noNul_nil
        · rw [behind]
          exact .cons rfl noNul_nil
      · refine days.isField noWidth ?_
        rw [before]
        exact stopsAt_cons rfl
      · rw [before]
        exact blank
      · rw [behind]
        exact blank
      · exact plain.hours.isField
          (fun most isMost => by cases isMost; exact plain.hours_short day isDay) minuteColon
  obtain ⟨digit, noNul, hours⟩ := rest
  obtain ⟨sign, behind⟩ := behindMinus_text pieces.negative digit
  exact ⟨sign.symm, behind, by rw [DatetimePieces.text, behind]; exact noNul, hours, minutes⟩

/-- **Exactly when datetime intervals are parsed exactly**: the number at the front fits, and all
pieces in range have the documented shape and a magnitude that fits. -/
theorem parseDatetimeIntervalComplexFormat_exact_iff (text : List Char) :
    ParsesExactly (parseDatetimeIntervalComplexFormat text) (DenotesDatetime text) ↔
      FrontFits text ∧ ∀ pieces : DatetimePieces, pieces.Read text → pieces.InRange →
        pieces.Plain ∧ pieces.magnitude < 9223372036854775808 := by
  refine parsesExactly_iff_of_pieces (fun result run => frontFits_of_parse run)
    (fun fits pieces read range => parse_of_read read range fits) parse_cases
    (fun pieces pieces' read read' => read.unique read') (fun total => ?_)
  constructor
  · rintro ⟨pieces, rfl, plain, range, isTotal⟩
    exact ⟨pieces, read_of_plain plain range, plain, range, isTotal⟩
  · rintro ⟨pieces, read, plain, range, isTotal⟩
    exact ⟨pieces, read.text_eq, plain, range, isTotal⟩

end Exactness

end IntervalParser

end Quickstep.Types
