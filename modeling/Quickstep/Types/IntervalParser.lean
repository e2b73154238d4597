import Quickstep.Lib.FormattedText

/-!
# Parsing intervals

The static functions of `types/IntervalParser.cpp`. A string is its list of characters, and an
interval the number of its ticks or months. Where a function returns `false` the model returns
`none`.
-/

namespace Quickstep.Types
open Quickstep.Lib

/-- `DatetimeIntervalLit::kTicksPerSecond`. -/
def kIntervalTicksPerSecond : Int := 1000000

namespace IntervalParser

/-- A product of 64-bit factors, from left to right. -/
def product64 (count : Int) (factors : List Int) : Exec Int :=
  factors.foldlM (fun product factor => int64 (product * factor)) count

def isOneOf (names : List String) (units : List Char) : Bool :=
  names.any fun name => units == name.toList

/-! ## The simple format -/

def parseDatetimeIntervalSimpleFormat (count : Int) (unitsLowercase : List Char) :
    Exec (Option Int) :=
  if isOneOf ["microsecond", "microseconds", "us"] unitsLowercase then
    some <$> product64 count [kIntervalTicksPerSecond / 1000000]
  else if isOneOf ["millisecond", "milliseconds", "ms"] unitsLowercase then
    some <$> product64 count [kIntervalTicksPerSecond / 1000]
  else if isOneOf ["second", "seconds", "s"] unitsLowercase then
    some <$> product64 count [kIntervalTicksPerSecond]
  else if isOneOf ["minute", "minutes"] unitsLowercase then
    some <$> product64 count [kIntervalTicksPerSecond, 60]
  else if isOneOf ["hour", "hours", "h"] unitsLowercase then
    some <$> product64 count [kIntervalTicksPerSecond, 60, 60]
  else if isOneOf ["day", "days", "d"] unitsLowercase then
    some <$> product64 count [kIntervalTicksPerSecond, 60, 60, 24]
  else if isOneOf ["week", "weeks", "w"] unitsLowercase then
    some <$> product64 count [kIntervalTicksPerSecond, 60, 60, 24, 7]
  else .ok none

def parseYearMonthIntervalSimpleFormat (count : Int) (unitsLowercase : List Char) :
    Exec (Option Int) :=
  if isOneOf ["month", "months", "mon", "mons"] unitsLowercase then .ok (some count)
  else if isOneOf ["year", "years", "y"] unitsLowercase then some <$> product64 count [12]
  else if isOneOf ["decade", "decades"] unitsLowercase then some <$> product64 count [12, 10]
  else if isOneOf ["century", "centuries"] unitsLowercase then some <$> product64 count [12, 100]
  else if isOneOf ["millennium", "millennia"] unitsLowercase then some <$> product64 count [12, 1000]
  else .ok none

/-- `[^' \t\n\v\f\r]`. -/
def unitsMember (c : Char) : Bool := !(c == '\'' || isSpace c)

/-- `"'%" SCNd64 " %n%*[^' \t\n\v\f\r]%n'%n"`. -/
def bothQuotedFormat : List Directive :=
  [.literal '\'', .number 64 none, .space, .position, .set unitsMember none false, .position,
    .literal '\'', .position]

/-- `"'%" SCNd64 "' %n%*[^' \t\n\v\f\r]%n"`. -/
def valueQuotedFormat : List Directive :=
  [.literal '\'', .number 64 none, .literal '\'', .space, .position, .set unitsMember none false,
    .position]

/-- `"%" SCNd64 " %n%*[^' \t\n\v\f\r]%n"`. -/
def noQuotesFormat : List Directive :=
  [.number 64 none, .space, .position, .set unitsMember none false, .position]

def unitsBetween (intervalString : List Char) (unitsStart unitsEnd : Nat) : List Char :=
  ((intervalString.drop unitsStart).take (unitsEnd - unitsStart)).map Char.toLower

/-- An end that the scan does not reach stays zero, which is not the length of a string that holds a
number. -/
def bothQuotedFields (intervalString : List Char) : Exec (Option (Int × List Char)) := do
  match ← sscanf intervalString bothQuotedFormat with
  | [.number count, .position unitsStart, .position unitsEnd, .position scanEnd] =>
    if scanEnd = intervalString.length then
      pure (some (count, unitsBetween intervalString unitsStart unitsEnd))
    else pure none
  | _ => pure none

/-- The other two formats end with the units. -/
def unquotedUnitsFields (intervalString : List Char) (format : List Directive) :
    Exec (Option (Int × List Char)) := do
  match ← sscanf intervalString format with
  | [.number count, .position unitsStart, .position unitsEnd] =>
    if unitsEnd = intervalString.length then
      pure (some (count, unitsBetween intervalString unitsStart unitsEnd))
    else pure none
  | _ => pure none

/-- The count and the units of `ParseSimpleFormatFieldsFromCombinedStringNoExtraWhitespace`. -/
def parseSimpleFormatFieldsFromCombinedStringNoExtraWhitespace (intervalString : List Char) :
    Exec (Option (Int × List Char)) := do
  match ← bothQuotedFields intervalString with
  | some fields => pure (some fields)
  | none =>
    match ← unquotedUnitsFields intervalString valueQuotedFormat with
    | some fields => pure (some fields)
    | none => unquotedUnitsFields intervalString noQuotesFormat

/-! ## The complex format -/

/-- `"%*1[-]%n"`: the offset behind a leading minus, or zero. -/
def startOffset (intervalString : List Char) : Exec Nat := do
  match ← sscanf intervalString [.set (· == '-') (some 1) false, .position] with
  | [.position startOffset] => pure startOffset
  | _ => pure 0

/-- The fields of a datetime interval. -/
structure ClockFields where
  days : Int
  hours : Int
  minutes : Int
  seconds : Int
  secondsEnd : Nat
  /-- The subseconds and where they end, if there are any. -/
  subseconds : Option (Int × Nat)

/-- `":%2d:%2d%n.%6d%n"`, the end of the next two formats. -/
def minutesFormat : List Directive :=
  [.literal ':', .number 32 (some 2), .literal ':', .number 32 (some 2), .position, .literal '.',
    .number 32 (some 6), .position]

/-- `"%" SCNd64 " %4s %2" SCNd64 ":%2d:%2d%n.%6d%n"`. -/
def daysFormat : List Directive :=
  [.number 64 none, .space, .text 4, .space, .number 64 (some 2)] ++ minutesFormat

/-- `"%" SCNd64 ":%2d:%2d%n.%6d%n"`. -/
def clockFormat : List Directive := .number 64 none :: minutesFormat

/-- The checks of the fields that have days in front. -/
def checkDays (atEnd : Bool) (daysbuf : List Char) (fields : ClockFields) : Option ClockFields :=
  if !atEnd then none
  else if !isOneOf ["day", "days"] (daysbuf.map Char.toLower) then none
  else if fields.hours > 23 then none
  else some fields

/-- The two scans of a datetime interval. The second is made only where the first one does not match
five or six fields. -/
def scanClock (intervalString : List Char) (startOffset : Nat) : Exec (Option ClockFields) := do
  let length := intervalString.length
  match ← sscanf (intervalString.drop startOffset) daysFormat with
  | [.number days, .text daysbuf, .number hours, .number minutes, .number seconds,
      .position secondsEnd] =>
    pure (checkDays (startOffset + secondsEnd == length) daysbuf
      ⟨days, hours, minutes, seconds, secondsEnd, none⟩)
  | [.number days, .text daysbuf, .number hours, .number minutes, .number seconds,
      .position secondsEnd, .number subseconds, .position parseEnd] =>
    pure (checkDays (startOffset + parseEnd == length) daysbuf
      ⟨days, hours, minutes, seconds, secondsEnd, some (subseconds, parseEnd)⟩)
  | _ =>
    match ← sscanf (intervalString.drop startOffset) clockFormat with
    | [.number hours, .number minutes, .number seconds, .position secondsEnd] =>
      if startOffset + secondsEnd = length then
        pure (some ⟨0, hours, minutes, seconds, secondsEnd, none⟩)
      else pure none
    | [.number hours, .number minutes, .number seconds, .position secondsEnd, .number subseconds,
        .position parseEnd] =>
      if startOffset + parseEnd = length then
        pure (some ⟨0, hours, minutes, seconds, secondsEnd, some (subseconds, parseEnd)⟩)
      else pure none
    | _ => pure none

/-- The subseconds, scaled to six digits in a loop over the digits that are missing. -/
def ClockFields.subsecondTicks (fields : ClockFields) : Exec Int :=
  match fields.subseconds with
  | some (subseconds, parseEnd) =>
    scaleByTen 32 subseconds (6 - ((parseEnd : Int) - fields.secondsEnd - 1)).toNat
  | none => .ok 0

/-- The total magnitude of an interval in ticks. -/
def ClockFields.totalTicks (fields : ClockFields) : Exec Int := do
  let subseconds ← fields.subsecondTicks
  let hours ← int64 ((← int64 (fields.days * 24)) + fields.hours)
  let minutes ← int64 ((← int64 (hours * 60)) + fields.minutes)
  let seconds ← int64 ((← int64 (minutes * 60)) + fields.seconds)
  int64 ((← int64 (seconds * kIntervalTicksPerSecond)) + subseconds)

/-- No field may be negative, and minutes and seconds have a range. -/
def ClockFields.inRange (fields : ClockFields) : Bool :=
  0 ≤ fields.days && 0 ≤ fields.hours && 0 ≤ fields.minutes && 0 ≤ fields.seconds &&
    (fields.subseconds.all fun field => 0 ≤ field.1) && fields.minutes ≤ 59 && fields.seconds ≤ 59

/-- Negate a magnitude if there was a preceding minus. -/
def withSign (startOffset : Nat) (magnitude : Int) : Exec Int :=
  if startOffset = 0 then .ok magnitude else int64 (-magnitude)

def parseDatetimeIntervalComplexFormat (intervalString : List Char) : Exec (Option Int) := do
  let startOffset ← startOffset intervalString
  match ← scanClock intervalString startOffset with
  | none => pure none
  | some fields =>
    if fields.inRange then some <$> withSign startOffset (← fields.totalTicks) else pure none

/-- `"%" SCNd64 " %5s %d %6s%n"`. -/
def yearsFormat : List Directive :=
  [.number 64 none, .space, .text 5, .space, .number 32 none, .space, .text 6, .position]

def parseYearMonthIntervalComplexFormat (intervalString : List Char) : Exec (Option Int) := do
  let startOffset ← startOffset intervalString
  match ← sscanf (intervalString.drop startOffset) yearsFormat with
  | [.number years, .text yearsbuf, .number months, .text monthsbuf, .position parseEnd] =>
    if startOffset + parseEnd ≠ intervalString.length || years < 0 || months < 0 || months > 11 then
      pure none
    else if !isOneOf ["year", "years", "y"] (yearsbuf.map Char.toLower) then pure none
    else if !isOneOf ["month", "months", "mon", "mons"] (monthsbuf.map Char.toLower) then pure none
    else some <$> withSign startOffset (← int64 ((← int64 (years * 12)) + months))
  | _ => pure none

/-! ## What is read -/

section Reading

variable {text number gap units rest : List Char} {count : Int}

theorem unitsMember_of_isDigit {c : Char} (digit : c.isDigit = true) : unitsMember c = true := by
  have range := toNat_of_isDigit digit
  have notQuote : c ≠ '\'' := by
    rintro rfl
    exact absurd range (by decide)
  simp only [unitsMember, isSpace_of_isDigit digit, Bool.or_false, Bool.not_eq_true',
    beq_eq_false_iff_ne]
  exact notQuote

theorem bothQuotedFields_eq_none (noNul : NoNul text) (unquoted : text.head? ≠ some '\'') :
    bothQuotedFields text = .ok none := by
  unfold bothQuotedFields bothQuotedFormat
  rw [sscanf_of_noNul noNul, scan_literal_fail unquoted, Exec.ok_bind]
  rfl

theorem valueQuotedFields_eq_none (noNul : NoNul text) (unquoted : text.head? ≠ some '\'') :
    unquotedUnitsFields text valueQuotedFormat = .ok none := by
  unfold unquotedUnitsFields valueQuotedFormat
  rw [sscanf_of_noNul noNul, scan_literal_fail unquoted, Exec.ok_bind]
  rfl

theorem stopsAt_isSpace_of_units (nonempty : units ≠ []) (every : ∀ c ∈ units, unitsMember c = true) :
    StopsAt isSpace (units ++ rest) := by
  cases units with
  | nil => exact absurd rfl nonempty
  | cons first units =>
    refine stopsAt_cons ?_
    have member := every first List.mem_cons_self
    simp only [unitsMember, Bool.not_eq_true', Bool.or_eq_false_iff] at member
    exact member.2

/-- **A count and its units are read**, if nothing stands behind the units. -/
theorem noQuotesFields_eq (numeral : IsNumeral number count) (fits : InSigned 64 count)
    (gapped : gap = [' '] ∨ gap = [] ∧ StopsAt Char.isDigit (units ++ rest)) (nonempty : units ≠ [])
    (every : ∀ c ∈ units, unitsMember c = true) (stops : StopsAt unitsMember rest)
    (noNul : NoNul (number ++ (gap ++ (units ++ rest)))) :
    unquotedUnitsFields (number ++ (gap ++ (units ++ rest))) noQuotesFormat =
      .ok (if rest = [] then some (count, units.map Char.toLower) else none) := by
  have digits : StopsAt Char.isDigit (gap ++ (units ++ rest)) := by
    rcases gapped with rfl | gapped
    · exact stopsAt_cons rfl
    · rw [gapped.1]
      exact gapped.2
  have afterGap := @stopsAt_isSpace_of_units units rest nonempty every
  have space (format : List Directive) (consumed : Nat) :
      scan (.space :: format) consumed (gap ++ (units ++ rest)) =
        scan format (consumed + gap.length) (units ++ rest) := by
    rcases gapped with rfl | gapped
    · exact scan_one_space afterGap
    · rw [gapped.1]
      exact scan_space afterGap
  have atEnd : 0 + number.length + gap.length + units.length =
      (number ++ (gap ++ (units ++ rest))).length ↔ rest = [] := by
    rw [← List.length_eq_zero_iff]
    simp only [List.length_append]
    omega
  have between : unitsBetween (number ++ (gap ++ (units ++ rest))) (0 + number.length + gap.length)
      (0 + number.length + gap.length + units.length) = units.map Char.toLower := by
    rw [unitsBetween, Nat.zero_add, Nat.add_sub_cancel_left, ← List.drop_drop, List.drop_left,
      List.drop_left, List.take_left]
  unfold unquotedUnitsFields noQuotesFormat
  rw [sscanf_of_noNul noNul, scan_number numeral fits noWidth digits, space, scan_position,
    scan_set nonempty every noWidth (.inr stops), scan_position, scan_nil]
  show (if _ then _ else _) = _
  rw [between]
  simp only [atEnd]
  split
  · rfl
  · rfl

theorem noNul_signed (negative : Bool) (noNul : NoNul text) :
    NoNul ((if negative then ['-'] else []) ++ text) := by
  cases negative with
  | true => exact .cons (by decide) noNul
  | false => exact noNul

/-- The simple format is read from a string without quotes. -/
theorem simpleFormatFields_eq (negative : Bool) (noNul : NoNul text) (digit : StartsWithDigit text) :
    parseSimpleFormatFieldsFromCombinedStringNoExtraWhitespace
      ((if negative then ['-'] else []) ++ text) =
    unquotedUnitsFields ((if negative then ['-'] else []) ++ text) noQuotesFormat := by
  have signedNoNul := noNul_signed negative noNul
  have unquoted : ((if negative then ['-'] else []) ++ text).head? ≠ some '\'' := by
    cases negative with
    | true => simp
    | false => exact digit.head_ne rfl
  unfold parseSimpleFormatFieldsFromCombinedStringNoExtraWhitespace
  rw [bothQuotedFields_eq_none signedNoNul unquoted, Exec.ok_bind]
  simp only
  rw [valueQuotedFields_eq_none signedNoNul unquoted, Exec.ok_bind]

/-- A leading minus is skipped. -/
theorem startOffset_eq (negative : Bool) (noNul : NoNul text) (digit : StartsWithDigit text) :
    startOffset ((if negative then ['-'] else []) ++ text) =
      .ok (if negative then ['-'] else []).length := by
  cases negative with
  | true =>
    have dashed : NoNul ('-' :: text) := .cons (by decide) noNul
    have read := @scan_set ['-'] text [.position] 0 (· == '-') (some 1) false
      (List.cons_ne_nil _ _) (by simp) (atMost rfl) (.inl rfl)
    show startOffset ('-' :: text) = .ok 1
    unfold startOffset
    rw [sscanf_of_noNul dashed]
    show (scan _ 0 (['-'] ++ text) >>= _) = _
    rw [read]
    rfl
  | false =>
    have noMinus : StopsAt (· == '-') text := digit.stopsAt fun c isDigit => by
      refine beq_eq_false_iff_ne.mpr ?_
      rintro rfl
      exact absurd isDigit (by decide)
    show startOffset text = .ok 0
    unfold startOffset
    rw [sscanf_of_noNul noNul, scan_set_fail noMinus, Exec.ok_bind]
    rfl

/-- The sign of a magnitude is the one that is written in front of it. -/
theorem withSign_eq (negative : Bool) {magnitude : Nat} (fits : magnitude < 2 ^ 63) :
    withSign (if negative then ['-'] else []).length magnitude =
      .ok (if negative then -magnitude else magnitude) := by
  cases negative with
  | true => exact int64_ok (by omega) (by omega)
  | false => rfl

end Reading

end IntervalParser

end Quickstep.Types
