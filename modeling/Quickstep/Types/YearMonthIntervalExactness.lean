import Quickstep.Types.DatetimeIntervalExactness

/-!
# Exact year-month intervals

The one scan of a year-month interval converts two numbers without a width. What is read is checked
and added up as for the datetime intervals.
-/

namespace Quickstep.Types
open Quickstep.Lib

namespace IntervalParser

/-! ## The scan -/

section Scan

variable {pieces pieces' : YearMonthPieces} {text : List Char}

/-- The items of the pieces. -/
def YearMonthPieces.items (pieces : YearMonthPieces) : List Item :=
  [.number (fieldValue pieces.years), .text pieces.yearUnits, .number (fieldValue pieces.months),
    .text pieces.monthUnits, .position pieces.unsignedText.length]

theorem scan_years_of_read (read : pieces.Read text) (front : FrontFits text) (second : SecondFits text) :
    sscanf (behindMinus text) yearsFormat = .ok pieces.items := by
  unfold FrontFits at front
  unfold SecondFits at second
  rw [cString_of_noNul read.noNul, read.isText] at front second
  have yearsFit := front _ _ _ rfl read.years
  have monthsFit := second _ _ _ _ _ _ _ _ rfl read.years read.beforeYears read.yearUnits read.between
    read.stops read.months
  have units := @scan_word pieces.monthUnits [] [.position]
    (0 + pieces.years.length + pieces.beforeYears.length + pieces.yearUnits.length +
      pieces.between.length + pieces.months.length + pieces.beforeMonths.length) 6 read.monthUnits
  have stops := @IsWord.stopsAt_isSpace pieces.monthUnits [] [] 6 read.monthUnits
  rw [List.append_nil] at units stops
  rw [sscanf_of_noNul read.noNul, read.isText, yearsFormat, YearMonthPieces.unsignedText,
    scan_field read.years, if_pos yearsFit, scan_blanks read.beforeYears read.yearUnits.stopsAt_isSpace,
    scan_word read.yearUnits, scan_blanks read.between read.stops, YearMonthPieces.monthsText,
    scan_field read.months, if_pos monthsFit, scan_blanks read.beforeMonths stops, units, scan_position,
    scan_nil]
  simp only [YearMonthPieces.items, YearMonthPieces.unsignedText, YearMonthPieces.monthsText,
    List.length_append, Except.map, Nat.zero_add, Nat.add_assoc]

/-- **What is scanned to the end of the string are the items of its pieces.** -/
theorem read_of_scan_years {years months : Int} {yearUnits monthUnits : List Char} {parseEnd : Nat}
    (scanned : sscanf (behindMinus text) yearsFormat =
      .ok [.number years, .text yearUnits, .number months, .text monthUnits, .position parseEnd])
    (atEnd : parseEnd = (behindMinus text).length) :
    ∃ pieces, YearMonthPieces.Read pieces text ∧
      [.number years, .text yearUnits, .number months, .text monthUnits, .position parseEnd] =
        pieces.items := by
  have cut : (cString (behindMinus text)).length ≤ (behindMinus text).length :=
    (List.takeWhile_prefix _).length_le
  unfold sscanf yearsFormat at scanned
  obtain ⟨yearsText, _, _, isText, isYears, stored, fromBlanks⟩ := scan_number_eq_cons scanned
  cases stored
  obtain ⟨beforeYears, _, rfl, isBefore, yearStops, fromWord⟩ := scan_space_eq fromBlanks
  obtain ⟨_, _, rfl, isYearUnits, stored, fromBetween⟩ := scan_word_eq_cons yearStops fromWord
  cases stored
  obtain ⟨between, _, rfl, isBetween, stops, fromMonths⟩ := scan_space_eq fromBetween
  obtain ⟨monthsText, _, _, rfl, isMonths, stored, fromBlanks⟩ := scan_number_eq_cons fromMonths
  cases stored
  obtain ⟨beforeMonths, _, rfl, isBeforeMonths, monthStops, fromWord⟩ := scan_space_eq fromBlanks
  obtain ⟨_, rest, rfl, isMonthUnits, stored, fromEnd⟩ := scan_word_eq_cons monthStops fromWord
  cases stored
  obtain ⟨stored, -⟩ := scan_position_eq_cons fromEnd
  cases stored
  obtain rfl := isYears.value_eq
  obtain rfl := isMonths.value_eq
  rw [isText] at cut
  simp only [List.length_append] at cut
  obtain rfl : rest = [] := List.length_eq_zero_iff.mp (by omega)
  have same := @noNul_of_length (behindMinus text) (by
    rw [isText]
    simp only [List.length_append]
    omega)
  rw [List.append_nil] at isText isYears isYearUnits stops isMonths
  refine ⟨⟨_, yearsText, beforeYears, yearUnits, between, monthsText, beforeMonths, monthUnits⟩,
    ⟨rfl, same.1.symm.trans isText, same.2, isYears, isBefore, isYearUnits, isBetween, stops, isMonths,
      isBeforeMonths, isMonthUnits⟩, ?_⟩
  simp only [YearMonthPieces.items, YearMonthPieces.unsignedText, YearMonthPieces.monthsText,
    List.length_append, Nat.zero_add, Nat.add_assoc]

/-- **The scan is defined** where both of its numbers fit. -/
theorem scan_years_defined_iff :
    (∃ items, sscanf (behindMinus text) yearsFormat = .ok items) ↔ FrontFits text ∧ SecondFits text := by
  unfold sscanf
  constructor
  · rintro ⟨items, run⟩
    rw [yearsFormat] at run
    have frontFits : FrontFits text := by
      intro number rest value isText field
      rw [isText, scan_field field] at run
      split at run
      · assumption
      · cases run
    refine ⟨frontFits, ?_⟩
    intro number before word between second rest value secondValue isText field isBefore isWord isBetween
      stops isSecond
    rw [isText, scan_field field, if_pos (frontFits _ _ _ isText field),
      scan_blanks isBefore isWord.stopsAt_isSpace, scan_word isWord, scan_blanks isBetween stops,
      scan_field isSecond] at run
    split at run
    · assumption
    · cases run
  · rintro ⟨front, second⟩
    cases run : scan yearsFormat 0 (cString (behindMinus text)) with
    | ok items => exact ⟨items, rfl⟩
    | error fault =>
      exfalso
      rw [yearsFormat] at run
      obtain ⟨number, _, value, isText, field, tooLarge | run⟩ := scan_number_eq_error run
      · exact tooLarge (front _ _ _ isText field)
      · obtain ⟨before, _, rfl, isBefore, wordStops, run⟩ := scan_space_eq run
        obtain ⟨word, _, rfl, isWord, run⟩ := scan_word_eq_error wordStops run
        obtain ⟨between, _, rfl, isBetween, stops, run⟩ := scan_space_eq run
        obtain ⟨months, _, _, rfl, isMonths, tooLarge | run⟩ := scan_number_eq_error run
        · exact tooLarge (second _ _ _ _ _ _ _ _ isText field isBefore isWord isBetween stops isMonths)
        · obtain ⟨items, defined⟩ := @scan_narrow [.space, .text 6, .position]
            (by simp only [List.forall_mem_cons]; exact ⟨trivial, trivial, trivial, nofun⟩) _ _
          rw [run] at defined
          cases defined

/-- **A string has the pieces of a year-month interval in one way only.** -/
theorem YearMonthPieces.Read.unique (read : pieces.Read text) (read' : pieces'.Read text) :
    pieces = pieces' := by
  have sameSign : pieces.negative = pieces'.negative := read.negative.trans read'.negative.symm
  have same : pieces.unsignedText = pieces'.unsignedText := read.isText.symm.trans read'.isText
  obtain ⟨sameYears, same, -⟩ := read.years.unique read'.years same
  obtain ⟨sameBefore, same⟩ := read.beforeYears.unique read.yearUnits.stopsAt_isSpace read'.beforeYears
    read'.yearUnits.stopsAt_isSpace same
  obtain ⟨sameUnits, same⟩ := read.yearUnits.unique read'.yearUnits same
  obtain ⟨sameBetween, same⟩ := read.between.unique read.stops read'.between read'.stops same
  obtain ⟨sameMonths, same, -⟩ := read.months.unique read'.months same
  have stops := @IsWord.stopsAt_isSpace pieces.monthUnits [] [] 6 read.monthUnits
  have stops' := @IsWord.stopsAt_isSpace pieces'.monthUnits [] [] 6 read'.monthUnits
  rw [List.append_nil] at stops stops'
  obtain ⟨sameBeforeMonths, sameMonthUnits⟩ :=
    read.beforeMonths.unique stops read'.beforeMonths stops' same
  cases pieces
  cases pieces'
  simp_all

end Scan

/-! ## Exactness -/

section Exactness

variable {pieces : YearMonthPieces} {text : List Char}

/-- The sum of the numbers is the magnitude, if this fits. -/
theorem months_bounded (range : pieces.InRange) :
    (int64 (fieldValue pieces.years * 12) >>= fun months => int64 (months + fieldValue pieces.months)) =
      bounded pieces.magnitude := by
  have years := range.years
  have months := range.months
  unfold YearMonthPieces.magnitude
  refine int64_bind_bounded (by omega) (by omega) ?_
  exact int64_eq_bounded (by omega)

/-- **A string in range is parsed to the value of its pieces**, if the magnitude fits. -/
theorem parseYearMonth_of_read (read : pieces.Read text) (range : pieces.InRange)
    (fits : FrontFits text ∧ SecondFits text) :
    parseYearMonthIntervalComplexFormat text =
      if pieces.magnitude < 9223372036854775808 then .ok (some pieces.value)
      else .error .undefinedBehaviour := by
  have nonneg : 0 ≤ pieces.magnitude := by
    have years := range.years
    have months := range.months
    unfold YearMonthPieces.magnitude
    omega
  have length := length_minusText_add text
  rw [read.isText] at length
  have inRange : ((minusText (startsWithMinus text)).length + pieces.unsignedText.length ≠ text.length ||
      decide (fieldValue pieces.years < 0) || decide (fieldValue pieces.months < 0) ||
      decide (fieldValue pieces.months > 11)) = false := by
    have years := range.years
    have months := range.months
    have monthsLe := range.months_le
    simp
    omega
  unfold parseYearMonthIntervalComplexFormat
  rw [startOffset_eq_length, Exec.ok_bind, drop_minusText, scan_years_of_read read fits.1 fits.2,
    Exec.ok_bind]
  unfold YearMonthPieces.items
  simp only [inRange, range.yearUnits, range.monthUnits, Bool.false_eq_true, if_false, Bool.not_true]
  rw [← bind_assoc, months_bounded range, ← read.negative]
  exact some_withSign_bounded pieces.negative nonneg

/-- Any other string is rejected. -/
theorem parseYearMonth_cases (fits : FrontFits text ∧ SecondFits text) :
    (∃ pieces, YearMonthPieces.Read pieces text ∧ pieces.InRange) ∨
      parseYearMonthIntervalComplexFormat text = .ok none := by
  obtain ⟨items, scanned⟩ := scan_years_defined_iff.mpr fits
  have length := length_minusText_add text
  unfold parseYearMonthIntervalComplexFormat
  rw [startOffset_eq_length, Exec.ok_bind, drop_minusText, scanned, Exec.ok_bind]
  split
  · split
    · exact .inr rfl
    · next inside =>
      split
      · exact .inr rfl
      · next isYears =>
        split
        · exact .inr rfl
        · next isMonths =>
          left
          simp only [Bool.or_eq_true, decide_eq_true_eq, not_or, Decidable.not_not] at inside
          obtain ⟨⟨⟨atEnd, years⟩, months⟩, monthsLe⟩ := inside
          obtain ⟨pieces, read, stored⟩ := read_of_scan_years scanned (by omega)
          cases stored
          exact ⟨pieces, read, by simpa using isYears, by simpa using isMonths, by omega, by omega,
            by omega⟩
  · exact .inr rfl

/-- A string with a number that does not fit is not parsed. -/
theorem fits_of_parseYearMonth {result : Option Int}
    (run : parseYearMonthIntervalComplexFormat text = .ok result) : FrontFits text ∧ SecondFits text := by
  unfold parseYearMonthIntervalComplexFormat at run
  rw [startOffset_eq_length, Exec.ok_bind, drop_minusText] at run
  obtain ⟨items, scanned, -⟩ := Exec.bind_ok run
  exact scan_years_defined_iff.mp ⟨items, scanned⟩

theorem YearMonthPieces.Read.text_eq (read : pieces.Read text) : text = pieces.text := by
  rw [YearMonthPieces.text, read.negative, ← read.isText, minusText_behindMinus]

/-- **A documented string is read.** -/
theorem YearMonthPieces.read_of_plain (plain : pieces.Plain) (range : pieces.InRange) :
    pieces.Read pieces.text := by
  have blank : Blanks [' '] := by simp [Blanks, isSpace]
  have noNulBlank : NoNul [' '] := .cons rfl noNul_nil
  have monthUnits := @isWord_of_isOneOf [] pieces.monthUnits _ 6 range.monthUnits (by decide)
    (stopsAt_nil _)
  have yearUnits := @isWord_of_isOneOf (pieces.between ++ pieces.monthsText) pieces.yearUnits _ 5
    range.yearUnits (by decide) (by rw [plain.between]; exact stopsAt_cons rfl)
  have noNulMonths : NoNul pieces.monthsText :=
    plain.months.noNul.append (.append (by rw [plain.beforeMonths]; exact noNulBlank) monthUnits.2)
  have noNul : NoNul pieces.unsignedText :=
    plain.years.noNul.append (.append (by rw [plain.beforeYears]; exact noNulBlank)
      (yearUnits.2.append (.append (by rw [plain.between]; exact noNulBlank) noNulMonths)))
  have stops : StopsAt isSpace pieces.monthsText :=
    plain.months.startsWithDigit.stopsAt fun c digit => isSpace_of_isDigit digit
  obtain ⟨sign, behind⟩ := @behindMinus_text pieces.unsignedText pieces.negative
    plain.years.startsWithDigit
  refine ⟨sign.symm, behind, by rw [YearMonthPieces.text, behind]; exact noNul, ?_, ?_, yearUnits.1, ?_,
    stops, ?_, ?_, monthUnits.1⟩
  · refine plain.years.isField noWidth ?_
    rw [plain.beforeYears]
    exact stopsAt_cons rfl
  · rw [plain.beforeYears]
    exact blank
  · rw [plain.between]
    exact blank
  · refine plain.months.isField noWidth ?_
    rw [plain.beforeMonths]
    exact stopsAt_cons rfl
  · rw [plain.beforeMonths]
    exact blank

/-- **Exactly when year-month intervals are parsed exactly.** -/
theorem parseYearMonthIntervalComplexFormat_exact_iff (text : List Char) :
    ParsesExactly (parseYearMonthIntervalComplexFormat text) (DenotesYearMonth text) ↔
      (FrontFits text ∧ SecondFits text) ∧ ∀ pieces : YearMonthPieces, pieces.Read text →
        pieces.InRange → pieces.Plain ∧ pieces.magnitude < 9223372036854775808 := by
  refine parsesExactly_iff_of_pieces (fun result run => fits_of_parseYearMonth run)
    (fun fits pieces read range => parseYearMonth_of_read read range fits) parseYearMonth_cases
    (fun pieces pieces' read read' => read.unique read') (fun total => ?_)
  constructor
  · rintro ⟨pieces, rfl, plain, range, isTotal⟩
    exact ⟨pieces, pieces.read_of_plain plain range, plain, range, isTotal⟩
  · rintro ⟨pieces, read, plain, range, isTotal⟩
    exact ⟨pieces, read.text_eq, plain, range, isTotal⟩

end Exactness

end IntervalParser

end Quickstep.Types
