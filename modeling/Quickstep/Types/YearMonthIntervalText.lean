import Quickstep.Types.DatetimeIntervalText

/-!
# The text of year-month intervals

A magnitude of months is printed as its years and the months that remain, one of which may be left
out. A text with one part is in the simple format, a text with both in the complex one.
-/

namespace Quickstep.Types
open Quickstep.Lib

namespace YearMonthIntervalType

/-- A magnitude of months in years and months. -/
structure Parts where
  years : Nat
  months : Nat
  months_lt : months < 12

namespace Parts

variable (parts : Parts)

def total : Nat := parts.years * 12 + parts.months

def ofTotal (total : Nat) : Parts where
  years := total / 12
  months := total % 12
  months_lt := Nat.mod_lt _ (Nat.succ_pos 11)

theorem total_ofTotal (total : Nat) : (ofTotal total).total = total := by
  simp only [Parts.total, ofTotal]
  omega

def yearWord : List Char := (if parts.years = 1 then "year" else "years").toList

def monthWord : List Char := (if parts.months = 1 then "mon" else "mons").toList

def yearsText : List Char := printNumber false 0 parts.years ++ (' ' :: parts.yearWord)

def monthsText : List Char := printNumber false 0 parts.months ++ (' ' :: parts.monthWord)

/-- The months are left out if there are none but years. -/
def text : List Char :=
  if parts.years = 0 then parts.monthsText
  else if parts.months = 0 then parts.yearsText
  else parts.yearsText ++ (' ' :: parts.monthsText)

theorem length_yearsText (fits : parts.total < 2 ^ 63) : parts.yearsText.length ≤ 24 := by
  have years : parts.years < 10 ^ 18 := by
    unfold total at fits
    omega
  have digits := length_printNumber_le (by decide) years
  unfold yearsText yearWord
  rw [List.length_append, List.length_cons]
  split
  · exact Nat.add_le_add digits (by decide : _ ≤ 6)
  · exact Nat.add_le_add digits (by decide : _ ≤ 6)

theorem length_months : (printNumber false 0 parts.months).length ≤ 2 :=
  length_printNumber_le (by decide) (Nat.lt_trans parts.months_lt (by decide))

end Parts

section Printing

variable {parts : Parts} {written : List Char}

theorem printYears_eq (fits : parts.total < 2 ^ 63) (short : written.length ≤ 1) :
    printYears parts.years written =
      .ok (written ++ if parts.years = 0 then [] else parts.yearsText) := by
  have room := parts.length_yearsText fits
  unfold printYears
  by_cases none : parts.years = 0
  · rw [if_pos (by omega), if_pos none, List.append_nil]
  · unfold Parts.yearsText Parts.yearWord at room ⊢
    rw [List.length_append, List.length_cons] at room
    have one : ((parts.years : Int) = 1) = (parts.years = 1) := propext (by omega)
    rw [if_neg (by omega), if_neg none, snprintf_ok (by unfold kPrintingChars; omega), Exec.ok_bind]
    simp only [one]
    have word : (if parts.years = 1 then " year" else " years").toList =
        ' ' :: (if parts.years = 1 then "year" else "years").toList := by
      split <;> rfl
    rw [word, snprintf_ok (by
      rw [List.length_append, List.length_cons]
      unfold kPrintingChars
      omega), List.append_assoc]

theorem printBlank_eq (short : written.length ≤ 25) :
    printBlank parts.years written = .ok (written ++ if parts.years = 0 then [] else [' ']) := by
  unfold printBlank
  by_cases none : parts.years = 0
  · rw [if_pos (by omega), if_pos none, List.append_nil]
  · rw [if_neg (by omega), if_neg none, if_pos (by unfold kPrintingChars; omega)]

/-- The months, behind at most 26 characters. -/
theorem printMonthsText_eq (short : written.length ≤ 26) :
    (do
      let written ← snprintf (kPrintingChars + 1) written (printNumber false 0 parts.months)
      snprintf (kPrintingChars + 1) written
        (if (parts.months : Int) = 1 then " mon" else " mons").toList) =
    .ok (written ++ parts.monthsText) := by
  have digits := parts.length_months
  have one : ((parts.months : Int) = 1) = (parts.months = 1) := propext (by omega)
  have word : (if parts.months = 1 then " mon" else " mons").toList = ' ' :: parts.monthWord := by
    unfold Parts.monthWord
    split <;> rfl
  have wordLength : parts.monthWord.length ≤ 4 := by
    unfold Parts.monthWord
    split <;> decide
  rw [snprintf_ok (by unfold kPrintingChars; omega), Exec.ok_bind]
  simp only [one, word]
  rw [snprintf_ok (by
    rw [List.length_append, List.length_cons]
    unfold kPrintingChars
    omega), List.append_assoc]
  rfl

theorem printMonths_eq (short : written.length ≤ 25) :
    printMonths parts.years parts.months written =
      .ok (written ++ if parts.years = 0 then parts.monthsText
        else if parts.months = 0 then [] else ' ' :: parts.monthsText) := by
  have printed : (written ++ if parts.years = 0 then [] else [' ']).length ≤ 26 := by
    rw [List.length_append]
    split
    · rw [List.length_nil]
      omega
    · exact Nat.add_le_add_right short 1
  unfold printMonths
  by_cases none : parts.years = 0
  · rw [if_pos (by simp [none]), printBlank_eq short, Exec.ok_bind, printMonthsText_eq printed,
      if_pos none, if_pos none, List.append_nil]
  · rw [if_neg none] at *
    by_cases noMonths : parts.months = 0
    · rw [if_neg (by simp [none, noMonths]), if_pos noMonths, List.append_nil]
    · rw [if_pos (by simp [noMonths]), printBlank_eq short, Exec.ok_bind, if_neg none,
        printMonthsText_eq printed, if_neg noMonths, List.append_assoc]
      rfl

/-- **The parts of a magnitude are printed**, behind the sign. -/
theorem printValueToString_eq {months : BitVec 64} (total : months.toInt.natAbs = parts.total)
    (fits : parts.total < 2 ^ 63) :
    printValueToString (.yearMonthInterval months) =
      .ok (intervalSign months.toInt ++ parts.text) := by
  have literal : (TypedValue.yearMonthInterval months).getLiteral .yearMonthIntervalLit = months := rfl
  have magnitude : intervalMagnitude months.toInt = .ok (parts.total : Int) := by
    rw [intervalMagnitude_eq (by omega), total]
  have sign := length_intervalSign months.toInt
  have yearsPrinted := printYears_eq fits sign
  have yearsLength := parts.length_yearsText fits
  have monthsLt := parts.months_lt
  have isTotal : parts.total = parts.years * 12 + parts.months := rfl
  have yearMonths := @int64_ok ((parts.years : Int) * 12) (by omega) (by omega)
  have remaining : (parts.total : Int) - parts.years * 12 = parts.months := by omega
  have remainingFits := @int64_ok (parts.months : Int) (by omega) (by omega)
  have years : (parts.total : Int).tdiv 12 = parts.years := by
    rw [Int.tdiv_eq_ediv_of_nonneg (by omega)]
    omega
  have short : (intervalSign months.toInt ++ if parts.years = 0 then [] else parts.yearsText).length ≤
      25 := by
    rw [List.length_append]
    split
    · rw [List.length_nil]
      omega
    · omega
  unfold printValueToString
  rw [literal]
  show (intervalMagnitude months.toInt >>= _) = _
  rw [magnitude, Exec.ok_bind]
  simp only [years]
  rw [yearMonths, Exec.ok_bind, remaining, remainingFits, Exec.ok_bind, yearsPrinted, Exec.ok_bind,
    printMonths_eq short, List.append_assoc]
  unfold Parts.text
  by_cases none : parts.years = 0
  · simp only [if_pos none, List.nil_append]
  · simp only [if_neg none]
    by_cases noMonths : parts.months = 0
    · simp only [if_pos noMonths, List.append_nil]
    · simp only [if_neg noMonths]

end Printing

/-! ## What is read back -/

namespace Parts

variable (parts : Parts)

theorem words :
    (parts.yearWord ≠ [] ∧ (∀ c ∈ parts.yearWord, IntervalParser.unitsMember c = true) ∧
      (∀ c ∈ parts.yearWord, isSpace c = false) ∧ parts.yearWord.length ≤ 5) ∧
    (parts.monthWord ≠ [] ∧ (∀ c ∈ parts.monthWord, IntervalParser.unitsMember c = true) ∧
      (∀ c ∈ parts.monthWord, isSpace c = false) ∧ parts.monthWord.length ≤ 6) := by
  unfold yearWord monthWord
  refine ⟨?_, ?_⟩
  · split <;> simp [IntervalParser.unitsMember, isSpace]
  · split <;> simp [IntervalParser.unitsMember, isSpace]

theorem noNul_yearsText : NoNul parts.yearsText := by
  unfold yearsText yearWord
  refine .append (noNul_printNumber _ _ _) (.cons (by decide) ?_)
  split <;> simp [NoNul]

theorem noNul_monthsText : NoNul parts.monthsText := by
  unfold monthsText monthWord
  refine .append (noNul_printNumber _ _ _) (.cons (by decide) ?_)
  split <;> simp [NoNul]

theorem noNul_text : NoNul parts.text := by
  unfold text
  split
  · exact parts.noNul_monthsText
  · split
    · exact parts.noNul_yearsText
    · exact parts.noNul_yearsText.append (.cons (by decide) parts.noNul_monthsText)

theorem startsWithDigit_text : StartsWithDigit parts.text := by
  obtain ⟨yearsNonempty, yearsDigits, -⟩ := printNumber_digits 0 parts.years
  obtain ⟨monthsNonempty, monthsDigits, -⟩ := printNumber_digits 0 parts.months
  unfold text yearsText monthsText
  split
  · exact startsWithDigit_append monthsNonempty monthsDigits
  · split
    · exact startsWithDigit_append yearsNonempty yearsDigits
    · rw [List.append_assoc]
      exact startsWithDigit_append yearsNonempty yearsDigits

theorem fits_parts (fits : parts.total < 2 ^ 63) (negative : Bool) :
    InSigned 64 (if negative then -(parts.years : Int) else parts.years) ∧
    InSigned 64 (if negative then -(parts.months : Int) else parts.months) := by
  have monthsLt := parts.months_lt
  have isTotal : parts.total = parts.years * 12 + parts.months := rfl
  rw [inSigned_64, inSigned_64]
  refine ⟨?_, ?_⟩
  · split <;> omega
  · split <;> omega

/-- A text with one part is a count and its unit. -/
theorem simpleFields_eq (negative : Bool) (fits : parts.total < 2 ^ 63) :
    IntervalParser.parseSimpleFormatFieldsFromCombinedStringNoExtraWhitespace
      ((if negative then ['-'] else []) ++ parts.text) =
    .ok (if parts.years = 0 then
        some (if negative then -parts.months else parts.months, parts.monthWord.map Char.toLower)
      else if parts.months = 0 then
        some (if negative then -parts.years else parts.years, parts.yearWord.map Char.toLower)
      else none) := by
  have noNul := IntervalParser.noNul_signed negative parts.noNul_text
  obtain ⟨yearsFit, monthsFit⟩ := parts.fits_parts fits negative
  obtain ⟨yearWord, monthWord⟩ := parts.words
  rw [IntervalParser.simpleFormatFields_eq negative parts.noNul_text parts.startsWithDigit_text]
  by_cases noYears : parts.years = 0
  · have split : parts.text =
        printNumber false 0 parts.months ++ ([' '] ++ (parts.monthWord ++ [])) := by
      rw [text, if_pos noYears, List.append_nil]
      rfl
    rw [split, ← List.append_assoc] at noNul ⊢
    rw [IntervalParser.noQuotesFields_eq (minus_printNumber_isNumeral negative 0 _) monthsFit
      (.inl rfl) monthWord.1 monthWord.2.1 (stopsAt_nil _) noNul, if_pos rfl, if_pos noYears]
  · have numeral := minus_printNumber_isNumeral negative 0 parts.years
    rw [if_neg noYears]
    by_cases noMonths : parts.months = 0
    · have split : parts.text =
          printNumber false 0 parts.years ++ ([' '] ++ (parts.yearWord ++ [])) := by
        rw [text, if_neg noYears, if_pos noMonths, List.append_nil]
        rfl
      rw [split, ← List.append_assoc] at noNul ⊢
      rw [IntervalParser.noQuotesFields_eq numeral yearsFit (.inl rfl) yearWord.1 yearWord.2.1
        (stopsAt_nil _) noNul, if_pos rfl, if_pos noMonths]
    · have split : parts.text = printNumber false 0 parts.years ++
          ([' '] ++ (parts.yearWord ++ (' ' :: parts.monthsText))) := by
        rw [text, if_neg noYears, if_neg noMonths, yearsText, List.append_assoc]
        rfl
      rw [split, ← List.append_assoc] at noNul ⊢
      rw [IntervalParser.noQuotesFields_eq numeral yearsFit (.inl rfl) yearWord.1 yearWord.2.1
        (stopsAt_cons rfl) noNul, if_neg (List.cons_ne_nil _ _), if_neg noMonths]

/-- The scan of a text with both parts. -/
theorem scan_years (someYears : parts.years ≠ 0) (someMonths : parts.months ≠ 0)
    (fits : parts.total < 2 ^ 63) :
    scan IntervalParser.yearsFormat 0 parts.text =
      .ok [.number parts.years, .text parts.yearWord, .number parts.months, .text parts.monthWord,
        .position parts.text.length] := by
  have monthsLt := parts.months_lt
  have yearsFit : InSigned 64 (parts.years : Int) := (parts.fits_parts fits false).1
  have monthsNumeral := printNumber_isNumeral false 0 parts.months
  obtain ⟨yearWord, monthWord⟩ := parts.words
  have split : parts.text = printNumber false 0 parts.years ++
      (' ' :: (parts.yearWord ++ (' ' :: (printNumber false 0 parts.months ++
        (' ' :: (parts.monthWord ++ [])))))) := by
    rw [text, if_neg someYears, if_neg someMonths, yearsText, List.append_assoc, List.append_nil]
    rfl
  have yearStart : StopsAt isSpace (parts.yearWord ++ (' ' :: (printNumber false 0 parts.months ++
      (' ' :: (parts.monthWord ++ []))))) :=
    IntervalParser.stopsAt_isSpace_of_units yearWord.1 yearWord.2.1
  have monthStart : StopsAt isSpace (parts.monthWord ++ []) :=
    IntervalParser.stopsAt_isSpace_of_units monthWord.1 monthWord.2.1
  have consumed : parts.text.length = 0 + (printNumber false 0 parts.years).length + 1 +
      parts.yearWord.length + 1 + (printNumber false 0 parts.months).length + 1 +
      parts.monthWord.length := by
    rw [split]
    simp only [List.length_append, List.length_cons, List.length_nil]
    omega
  rw [consumed, split]
  unfold IntervalParser.yearsFormat
  rw [scan_number (printNumber_isNumeral _ _ _) yearsFit noWidth (stopsAt_cons rfl),
    scan_one_space yearStart, scan_text yearWord.1 yearWord.2.2.1
      (.inr ⟨yearWord.2.2.2, stopsAt_cons rfl⟩), scan_one_space monthsNumeral.not_space,
    scan_number monthsNumeral (by rw [inSigned_32]; omega) noWidth (stopsAt_cons rfl),
    scan_one_space monthStart,
    scan_text monthWord.1 monthWord.2.2.1 (.inr ⟨monthWord.2.2.2, stopsAt_nil _⟩), scan_position,
    scan_nil]
  rfl

/-- **The complex format reads both parts back.** -/
theorem parseComplex_eq (negative : Bool) (someYears : parts.years ≠ 0)
    (someMonths : parts.months ≠ 0) (fits : parts.total < 2 ^ 63) :
    IntervalParser.parseYearMonthIntervalComplexFormat
      ((if negative then ['-'] else []) ++ parts.text) =
    .ok (some (if negative then -parts.total else parts.total)) := by
  have monthsLt := parts.months_lt
  have isTotal : parts.total = parts.years * 12 + parts.months := rfl
  have inRange : (decide ((if negative then ['-'] else []).length + parts.text.length ≠
      ((if negative then ['-'] else []) ++ parts.text).length) || decide ((parts.years : Int) < 0) ||
      decide ((parts.months : Int) < 0) || decide ((parts.months : Int) > 11)) = false := by
    rw [List.length_append]
    simp
    omega
  have yearNamed : IntervalParser.isOneOf ["year", "years", "y"] (parts.yearWord.map Char.toLower) =
      true := by
    unfold yearWord
    split <;> decide
  have monthNamed : IntervalParser.isOneOf ["month", "months", "mon", "mons"]
      (parts.monthWord.map Char.toLower) = true := by
    unfold monthWord
    split <;> decide
  have yearMonths := @int64_ok ((parts.years : Int) * 12) (by omega) (by omega)
  have sum : (parts.years : Int) * 12 + parts.months = parts.total := by omega
  have sumFits := @int64_ok (parts.total : Int) (by omega) (by omega)
  unfold IntervalParser.parseYearMonthIntervalComplexFormat
  rw [IntervalParser.startOffset_eq negative parts.noNul_text parts.startsWithDigit_text,
    Exec.ok_bind, List.drop_left, sscanf_of_noNul parts.noNul_text,
    parts.scan_years someYears someMonths fits, Exec.ok_bind]
  simp only [inRange, yearNamed, monthNamed]
  rw [yearMonths, Exec.ok_bind, sum, sumFits, Exec.ok_bind, IntervalParser.withSign_eq negative fits]
  rfl

/-- Years alone are twelve months each. -/
theorem simpleFormat_years (negative : Bool) (total : parts.total = parts.years * 12)
    (fits : parts.total < 2 ^ 63) :
    IntervalParser.parseYearMonthIntervalSimpleFormat
      (if negative then -(parts.years : Int) else parts.years) (parts.yearWord.map Char.toLower) =
    .ok (some (if negative then -parts.total else parts.total)) := by
  have notMonth : IntervalParser.isOneOf ["month", "months", "mon", "mons"]
      (parts.yearWord.map Char.toLower) = false := by
    unfold yearWord
    split <;> decide
  have year : IntervalParser.isOneOf ["year", "years", "y"] (parts.yearWord.map Char.toLower) =
      true := by
    unfold yearWord
    split <;> decide
  have product (count : Int) : IntervalParser.product64 count [12] = int64 (count * 12) := by
    unfold IntervalParser.product64
    rw [List.foldlM_cons]
    cases int64 (count * 12) <;> rfl
  unfold IntervalParser.parseYearMonthIntervalSimpleFormat
  rw [notMonth, year, product]
  cases negative with
  | true =>
    have count : -(parts.years : Int) * 12 = -(parts.total : Int) := by omega
    have countFits := @int64_ok (-(parts.total : Int)) (by omega) (by omega)
    simp only [if_true, Bool.false_eq_true, if_false]
    rw [count, countFits]
    rfl
  | false =>
    have count : (parts.years : Int) * 12 = (parts.total : Int) := by omega
    have countFits := @int64_ok (parts.total : Int) (by omega) (by omega)
    simp only [if_true, Bool.false_eq_true, if_false]
    rw [count, countFits]
    rfl

/-- **The parts are parsed.** -/
theorem parseValueFromString_eq (negative : Bool) (fits : parts.total < 2 ^ 63) :
    parseValueFromString ((if negative then ['-'] else []) ++ parts.text) =
      .ok (some (.yearMonthInterval
        (BitVec.ofInt 64 (if negative then -parts.total else parts.total)))) := by
  have isTotal : parts.total = parts.years * 12 + parts.months := rfl
  unfold parseValueFromString parseInterval
  rw [parts.simpleFields_eq negative fits, Exec.ok_bind]
  by_cases noYears : parts.years = 0
  · have total : parts.months = parts.total := by omega
    have simple (count : Int) : IntervalParser.parseYearMonthIntervalSimpleFormat count
        (parts.monthWord.map Char.toLower) = .ok (some count) := by
      unfold monthWord
      split <;> rfl
    simp only [if_pos noYears, simple, total]
    rfl
  · by_cases noMonths : parts.months = 0
    · have total : parts.total = parts.years * 12 := by omega
      simp only [if_neg noYears, if_pos noMonths, parts.simpleFormat_years negative total fits]
      rfl
    · simp only [if_neg noYears, if_neg noMonths]
      rw [parts.parseComplex_eq negative noYears noMonths fits]
      rfl

end Parts

/-- A year-month interval is printed, and what is printed is parsed to the same interval. -/
def RoundTrip (months : BitVec 64) : Prop :=
  ∃ text, printValueToString (.yearMonthInterval months) = .ok text ∧
    parseValueFromString text = .ok (some (.yearMonthInterval months))

theorem roundTrip_iff (months : BitVec 64) : RoundTrip months ↔ months ≠ BitVec.intMin 64 := by
  refine ⟨?_, fun notMin => ?_⟩
  · rintro ⟨text, printed, -⟩ rfl
    cases printed
  · have total := (Parts.total_ofTotal months.toInt.natAbs).symm
    have fits := natAbs_toInt_lt notMin
    rw [total] at fits
    refine ⟨_, printValueToString_eq total fits, ?_⟩
    rw [intervalSign_eq, Parts.parseValueFromString_eq _ _ fits, ← total, ofInt_natAbs]

end YearMonthIntervalType

/-- **The text of an interval denotes the interval**, of both types, exactly where its magnitude
fits in 64 bits: the magnitude of the least number does not. -/
theorem intervals_roundTrip_iff (intervalTicks months : BitVec 64) :
    (DatetimeIntervalType.RoundTrip intervalTicks ↔ intervalTicks ≠ BitVec.intMin 64) ∧
      (YearMonthIntervalType.RoundTrip months ↔ months ≠ BitVec.intMin 64) :=
  ⟨DatetimeIntervalType.roundTrip_iff intervalTicks, YearMonthIntervalType.roundTrip_iff months⟩

/-- The least datetime interval and the least year-month interval cannot be printed. -/
theorem not_roundTrip_least :
    ¬ DatetimeIntervalType.RoundTrip (BitVec.intMin 64) ∧
      ¬ YearMonthIntervalType.RoundTrip (BitVec.intMin 64) :=
  ⟨fun holds => (DatetimeIntervalType.roundTrip_iff _).mp holds rfl,
    fun holds => (YearMonthIntervalType.roundTrip_iff _).mp holds rfl⟩

end Quickstep.Types
