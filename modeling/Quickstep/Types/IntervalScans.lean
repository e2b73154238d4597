import Quickstep.Types.IntervalGrammar

/-!
# The scans of an interval

A scan delivers the numbers of the pieces of its string, and whatever it delivers to the end of the
string are pieces. A string has pieces in one way only.
-/

namespace Quickstep.Types
open Quickstep.Lib

namespace IntervalParser

/-! ## The clock -/

/-- `".%6d%n"`. -/
def fractionFormat : List Directive := [.literal '.', .number 32 (some 6), .position]

/-- The items of a fraction that begins behind `consumed` characters. -/
def fractionItems (consumed : Nat) : Option (List Char) → List Item
  | some fraction => [.number (fieldValue fraction), .position (consumed + 1 + fraction.length)]
  | none => []

def minuteItems (minutes seconds : List Char) (secondsEnd : Nat) : List Item :=
  [.number (fieldValue minutes), .number (fieldValue seconds), .position secondsEnd]

/-- The fields whose seconds end behind `secondsEnd` characters. -/
def DatetimePieces.fields (pieces : DatetimePieces) (secondsEnd : Nat) : ClockFields :=
  ⟨pieces.days, fieldValue pieces.hours, fieldValue pieces.minutes, fieldValue pieces.seconds, secondsEnd,
    pieces.fraction.map fun fraction => (fieldValue fraction, secondsEnd + 1 + fraction.length)⟩

section Clock

variable {pieces : DatetimePieces} {day : DayPieces} {consumed : Nat} {rest input : List Char}
  {i₁ i₂ i₃ i₄ i₅ : Item} {items : List Item}

theorem scan_fraction {fraction : Option (List Char)}
    (read : ∀ digits ∈ fraction, IsField (some 6) digits (fieldValue digits) []) :
    scan fractionFormat consumed (fractionText fraction) = .ok (fractionItems consumed fraction) := by
  cases fraction with
  | none => rfl
  | some digits =>
    have field := read digits rfl
    have scanned := @scan_field digits [] _ [.position] (consumed + 1) 32 _ field
    rw [List.append_nil, if_pos (field.inSigned (by decide)), scan_position, scan_nil] at scanned
    rw [fractionFormat, fractionText, scan_literal, scanned]
    rfl

theorem scan_minutes (read : pieces.MinutesRead) (consumed : Nat) :
    ∃ secondsEnd, scan minutesFormat consumed pieces.minutesText =
        .ok (minuteItems pieces.minutes pieces.seconds secondsEnd ++
          fractionItems secondsEnd pieces.fraction) ∧
      secondsEnd + (fractionText pieces.fraction).length = consumed + pieces.minutesText.length := by
  have minutes : IsField (some 2) pieces.minutes (fieldValue pieces.minutes)
    (':' :: (pieces.seconds ++ fractionText pieces.fraction)) := read.minutes
  refine ⟨consumed + 1 + pieces.minutes.length + 1 + pieces.seconds.length, ?_, ?_⟩
  · rw [minutesFormat, DatetimePieces.minutesText, scan_literal, scan_field minutes,
      if_pos (minutes.inSigned (by decide)), scan_literal, scan_field read.seconds,
      if_pos (read.seconds.inSigned (by decide)), scan_position]
    have fraction := @scan_fraction
      (consumed + 1 + pieces.minutes.length + 1 + pieces.seconds.length) _ read.fraction
    rw [fractionFormat] at fraction
    rw [fraction]
    rfl
  · simp only [DatetimePieces.minutesText, List.length_append, List.length_cons]
    omega

/-- Days are scanned in front of the rest. -/
theorem scan_days (read : DatetimePieces.DayRead day pieces.clockText)
    (hours : IsField (some 2) pieces.hours (fieldValue pieces.hours) [':'])
    (fits : InSigned 64 (fieldValue day.days)) :
    ∃ consumed, scan daysFormat 0 (day.text pieces.clockText) =
        (scan minutesFormat consumed pieces.minutesText).map
          ([.number (fieldValue day.days), .text day.units, .number (fieldValue pieces.hours)] ++ ·) ∧
      consumed + pieces.minutesText.length = (day.text pieces.clockText).length := by
  have hours' : IsField (some 2) pieces.hours (fieldValue pieces.hours) pieces.minutesText := hours
  refine ⟨0 + day.days.length + day.before.length + day.units.length + day.behind.length +
    pieces.hours.length, ?_, ?_⟩
  · rw [daysFormat, DayPieces.text]
    simp only [List.cons_append, List.nil_append]
    rw [scan_field read.days, if_pos fits, scan_blanks read.before read.units.stopsAt_isSpace,
      scan_word read.units, scan_blanks read.behind read.stops, DatetimePieces.clockText,
      scan_field hours', if_pos (hours'.inSigned (by decide))]
    cases scan minutesFormat (0 + day.days.length + day.before.length + day.units.length +
      day.behind.length + pieces.hours.length) pieces.minutesText <;> rfl
  · simp only [DayPieces.text, DatetimePieces.clockText, List.length_append]
    omega

/-! ### What a scan has read -/

theorem scan_minutesFormat_eq_cons
    (run : scan minutesFormat consumed input = .ok (i₁ :: i₂ :: i₃ :: items)) :
    ∃ minutes seconds rest secondsEnd, input = ':' :: (minutes ++ ':' :: (seconds ++ rest)) ∧
      IsField (some 2) minutes (fieldValue minutes) [':'] ∧
      IsField (some 2) seconds (fieldValue seconds) rest ∧
      i₁ :: i₂ :: i₃ :: items = minuteItems minutes seconds secondsEnd ++ items ∧
      secondsEnd + rest.length = consumed + input.length ∧
      scan fractionFormat secondsEnd rest = .ok items := by
  obtain ⟨afterColon, rfl, fromMinutes⟩ := scan_literal_eq_cons run
  obtain ⟨minutes, afterMinutes, value, rfl, isMinutes, rfl, fromColon⟩ :=
    scan_number_eq_cons fromMinutes
  obtain ⟨afterSecondColon, rfl, fromSeconds⟩ := scan_literal_eq_cons fromColon
  obtain ⟨seconds, rest, secondValue, rfl, isSeconds, rfl, fromEnd⟩ := scan_number_eq_cons fromSeconds
  obtain ⟨rfl, behind⟩ := scan_position_eq_cons fromEnd
  obtain rfl := isMinutes.value_eq
  obtain rfl := isSeconds.value_eq
  refine ⟨minutes, seconds, rest, _, rfl, isMinutes, isSeconds, rfl, ?_, behind⟩
  simp only [List.length_append, List.length_cons]
  omega

theorem scan_fractionFormat_eq_cons (run : scan fractionFormat consumed input = .ok [i₁, i₂]) :
    ∃ digits rest, input = '.' :: (digits ++ rest) ∧ IsField (some 6) digits (fieldValue digits) rest ∧
      [i₁, i₂] = fractionItems consumed (some digits) := by
  obtain ⟨afterPoint, rfl, fromDigits⟩ := scan_literal_eq_cons run
  obtain ⟨digits, rest, value, rfl, isDigits, rfl, fromEnd⟩ := scan_number_eq_cons fromDigits
  obtain ⟨rfl, -⟩ := scan_position_eq_cons fromEnd
  obtain rfl := isDigits.value_eq
  exact ⟨digits, rest, rfl, isDigits, rfl⟩

theorem scan_daysFormat_eq_cons
    (run : scan daysFormat 0 input = .ok (i₁ :: i₂ :: i₃ :: items)) :
    ∃ day hours rest consumed, input = DayPieces.text day (hours ++ rest) ∧
      DatetimePieces.DayRead day (hours ++ rest) ∧ IsField (some 2) hours (fieldValue hours) rest ∧
      i₁ :: i₂ :: i₃ :: items =
        [.number (fieldValue day.days), .text day.units, .number (fieldValue hours)] ++ items ∧
      consumed + rest.length = input.length ∧ scan minutesFormat consumed rest = .ok items := by
  obtain ⟨days, afterDays, value, rfl, isDays, rfl, fromBefore⟩ := scan_number_eq_cons run
  obtain ⟨before, afterBefore, rfl, isBefore, beforeStops, fromUnits⟩ := scan_space_eq fromBefore
  obtain ⟨units, afterUnits, rfl, isUnits, rfl, fromBehind⟩ := scan_word_eq_cons beforeStops fromUnits
  obtain ⟨behind, afterBehind, rfl, isBehind, behindStops, fromHours⟩ := scan_space_eq fromBehind
  obtain ⟨hours, rest, hoursValue, rfl, isHours, rfl, fromMinutes⟩ := scan_number_eq_cons fromHours
  obtain rfl := isDays.value_eq
  obtain rfl := isHours.value_eq
  refine ⟨⟨days, before, units, behind⟩, hours, rest, _, rfl,
    ⟨isDays, isBefore, isUnits, isBehind, behindStops⟩, isHours, rfl, ?_, fromMinutes⟩
  simp only [List.length_append]
  omega

end Clock

/-! ## Pieces are determined by the string -/

section Unique

variable {pieces pieces' : DatetimePieces} {day day' : DayPieces} {text text' rest rest' : List Char}

theorem colon_notMem {width : Option Nat} {value : Int} (field : IsField width text value rest) :
    ':' ∉ text := by
  intro inText
  have first := field.forall_mem ':' inText
  revert first
  decide

theorem count_minutesText (read : pieces.MinutesRead) : pieces.minutesText.count ':' = 2 := by
  have minutes := List.count_eq_zero.mpr (colon_notMem read.minutes)
  have seconds := List.count_eq_zero.mpr (colon_notMem read.seconds)
  have fraction : (fractionText pieces.fraction).count ':' = 0 := by
    have fields := read.fraction
    revert fields
    cases pieces.fraction with
    | none => exact fun _ => rfl
    | some digits =>
      intro fields
      have digitsCount := List.count_eq_zero.mpr (colon_notMem (fields digits rfl))
      rw [fractionText, List.count_cons, digitsCount]
      rfl
  simp [DatetimePieces.minutesText, minutes, seconds, fraction]

/-- **A clock has not enough colons** for days in front of another one: its first colon would be a
part of the unit. -/
theorem clockText_ne_dayText (hours : IsField none pieces.hours (fieldValue pieces.hours) [':'])
    (minutes : pieces.MinutesRead) (read : DatetimePieces.DayRead day rest)
    (colons : 2 ≤ rest.count ':') : pieces.clockText ≠ day.text rest := by
  intro same
  have hours' : IsField none pieces.hours (fieldValue pieces.hours) pieces.minutesText := hours
  obtain ⟨-, behindHours, -⟩ := hours'.unique read.days same
  have total := congrArg (List.count ':') behindHours
  rw [count_minutesText minutes] at total
  simp only [List.count_append] at total
  have unitsCount : day.units.count ':' = 0 := by omega
  have noColon := List.count_eq_zero.mp unitsCount
  have isBefore := read.before
  have isUnits := read.units.nonempty
  revert behindHours noColon isBefore isUnits
  cases day.before with
  | cons first before =>
    intro behindHours noColon isBefore
    obtain ⟨rfl, -⟩ := List.cons_eq_cons.mp behindHours
    exact absurd (isBefore ':' List.mem_cons_self) (by decide)
  | nil =>
    cases day.units with
    | nil => exact fun _ _ _ isUnits => absurd rfl isUnits
    | cons first units =>
      intro behindHours noColon
      obtain ⟨rfl, -⟩ := List.cons_eq_cons.mp behindHours
      exact absurd List.mem_cons_self noColon

theorem stopsAt_fractionText (p : Char → Bool) (fails : p '.' = false) (fraction : Option (List Char)) :
    StopsAt p (fractionText fraction) := by
  cases fraction with
  | none => exact stopsAt_nil p
  | some digits => exact stopsAt_cons fails

theorem fractionText_inj {fraction fraction' : Option (List Char)}
    (same : fractionText fraction = fractionText fraction') : fraction = fraction' := by
  cases fraction <;> cases fraction' <;> simp_all [fractionText]

/-- The pieces behind the hours. -/
theorem minutesText_unique (read : pieces.MinutesRead) (read' : pieces'.MinutesRead)
    (same : pieces.minutesText = pieces'.minutesText) :
    pieces.minutes = pieces'.minutes ∧ pieces.seconds = pieces'.seconds ∧
      pieces.fraction = pieces'.fraction := by
  have minutes : IsField (some 2) pieces.minutes (fieldValue pieces.minutes)
    (':' :: (pieces.seconds ++ fractionText pieces.fraction)) := read.minutes
  have minutes' : IsField (some 2) pieces'.minutes (fieldValue pieces'.minutes)
    (':' :: (pieces'.seconds ++ fractionText pieces'.fraction)) := read'.minutes
  obtain ⟨-, behindColon⟩ := List.cons_eq_cons.mp same
  obtain ⟨sameMinutes, behindMinutes, -⟩ := minutes.unique minutes' behindColon
  obtain ⟨-, behindSecondColon⟩ := List.cons_eq_cons.mp behindMinutes
  obtain ⟨sameSeconds, sameFraction, -⟩ := read.seconds.unique read'.seconds behindSecondColon
  exact ⟨sameMinutes, sameSeconds, fractionText_inj sameFraction⟩

theorem dayText_unique (read : DatetimePieces.DayRead day rest)
    (read' : DatetimePieces.DayRead day' rest') (same : day.text rest = day'.text rest') :
    day = day' ∧ rest = rest' := by
  obtain ⟨sameDays, behindDays, -⟩ := read.days.unique read'.days same
  obtain ⟨sameBefore, fromUnits⟩ := read.before.unique read.units.stopsAt_isSpace read'.before
    read'.units.stopsAt_isSpace behindDays
  obtain ⟨sameUnits, behindUnits⟩ := read.units.unique read'.units fromUnits
  obtain ⟨sameBehind, sameRest⟩ := read.behind.unique read.stops read'.behind read'.stops behindUnits
  obtain ⟨days, before, units, behind⟩ := day
  obtain ⟨days', before', units', behind'⟩ := day'
  simp only at sameDays sameBefore sameUnits sameBehind
  subst sameDays sameBefore sameUnits sameBehind
  exact ⟨rfl, sameRest⟩

theorem count_clockText (read : pieces.MinutesRead) : 2 ≤ pieces.clockText.count ':' := by
  rw [DatetimePieces.clockText, List.count_append, count_minutesText read]
  exact Nat.le_add_left _ _

/-- **A string has the pieces of a datetime interval in one way only.** -/
theorem DatetimePieces.Read.unique (read : pieces.Read text) (read' : pieces'.Read text) :
    pieces = pieces' := by
  have sameSign : pieces.negative = pieces'.negative := read.negative.trans read'.negative.symm
  have same : pieces.unsignedText = pieces'.unsignedText := read.isText.symm.trans read'.isText
  have isHours := read.hours
  have isHours' := read'.hours
  have sameMinutes := @minutesText_unique _ _ read.minutes read'.minutes
  have noDay := @clockText_ne_dayText pieces
  have noDay' := @clockText_ne_dayText pieces'
  have minutes := read.minutes
  have minutes' := read'.minutes
  have hoursAndDay : pieces.dayPart = pieces'.dayPart ∧ pieces.hours = pieces'.hours ∧
      pieces.minutesText = pieces'.minutesText := by
    unfold HoursRead at isHours isHours'
    unfold unsignedText at same
    cases isDay : pieces.dayPart with
    | none =>
      cases isDay' : pieces'.dayPart with
      | none =>
        simp only [isDay, isDay'] at isHours isHours' same
        have hours : IsField none pieces.hours _ pieces.minutesText := isHours
        have hours' : IsField none pieces'.hours _ pieces'.minutesText := isHours'
        obtain ⟨sameHours, behindHours, -⟩ := hours.unique hours' same
        exact ⟨rfl, sameHours, behindHours⟩
      | some day' =>
        simp only [isDay, isDay'] at isHours isHours' same
        exact absurd same (noDay isHours minutes isHours'.1 (count_clockText minutes'))
    | some day =>
      cases isDay' : pieces'.dayPart with
      | none =>
        simp only [isDay, isDay'] at isHours isHours' same
        exact absurd same.symm (noDay' isHours' minutes' isHours.1 (count_clockText minutes))
      | some day' =>
        simp only [isDay, isDay'] at isHours isHours' same
        obtain ⟨sameDay, sameClock⟩ := dayText_unique isHours.1 isHours'.1 same
        have hours : IsField (some 2) pieces.hours _ pieces.minutesText := isHours.2
        have hours' : IsField (some 2) pieces'.hours _ pieces'.minutesText := isHours'.2
        obtain ⟨sameHours, behindHours, -⟩ := hours.unique hours' sameClock
        exact ⟨congrArg some sameDay, sameHours, behindHours⟩
  obtain ⟨sameDay, sameHours, behindHours⟩ := hoursAndDay
  obtain ⟨sameMinutes, sameSeconds, sameFraction⟩ := sameMinutes behindHours
  cases pieces
  cases pieces'
  simp_all

end Unique

end IntervalParser

end Quickstep.Types
