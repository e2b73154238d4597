import Quickstep.Lib.ScannedFields
import Quickstep.Types.IntervalParser

/-!
# The pieces of an interval

A datetime interval is a minus, a number of days, and a clock; which of them a string has, and where
each ends, is said without the scans. A piece is the text of its field: the scans admit blanks and
signs in front of a number, a documented field has digits only.
-/

namespace Quickstep.Types
open Quickstep.Lib

namespace IntervalParser

/-! ## The sign -/

/-- The sign of a magnitude. -/
def minusText (negative : Bool) : List Char := if negative then ['-'] else []

def startsWithMinus (text : List Char) : Bool := text.head? == some '-'

/-- The text behind a leading minus. -/
def behindMinus (text : List Char) : List Char := if startsWithMinus text then text.tail else text

theorem minusText_behindMinus (text : List Char) :
    minusText (startsWithMinus text) ++ behindMinus text = text := by
  unfold behindMinus
  cases text with
  | nil => rfl
  | cons first rest =>
    by_cases minus : first = '-' <;> simp [minusText, startsWithMinus, minus]

theorem drop_minusText (text : List Char) :
    text.drop (minusText (startsWithMinus text)).length = behindMinus text := by
  have dropped := @List.drop_left _ (minusText (startsWithMinus text)) (behindMinus text)
  rwa [minusText_behindMinus] at dropped

theorem length_minusText_add (text : List Char) :
    (minusText (startsWithMinus text)).length + (behindMinus text).length = text.length := by
  rw [← List.length_append, minusText_behindMinus]

/-- **A leading minus is skipped**, whatever is behind it. -/
theorem startOffset_eq_length (text : List Char) :
    startOffset text = .ok (minusText (startsWithMinus text)).length := by
  cases text with
  | nil => rfl
  | cons first rest =>
    by_cases minus : first = '-'
    · rw [minus]
      rfl
    · have stops : StopsAt (· == '-') (cString (first :: rest)) := by
        unfold cString
        intro c isFirst
        by_cases nul : first.toNat = 0 <;> simp_all
      unfold startOffset sscanf
      rw [scan_set_fail stops, Exec.ok_bind]
      simp [minusText, startsWithMinus, minus]
      rfl

/-- A field as it is documented. -/
def Digits (text : List Char) : Prop := text ≠ [] ∧ ∀ c ∈ text, c.isDigit = true

/-! ## The pieces of a datetime interval -/

/-- What stands in front of the hours. -/
structure DayPieces where
  days : List Char
  before : List Char
  units : List Char
  behind : List Char

def DayPieces.text (day : DayPieces) (rest : List Char) : List Char :=
  day.days ++ (day.before ++ (day.units ++ (day.behind ++ rest)))

structure DatetimePieces where
  negative : Bool
  dayPart : Option DayPieces
  hours : List Char
  minutes : List Char
  seconds : List Char
  fraction : Option (List Char)

def fractionText : Option (List Char) → List Char
  | some fraction => '.' :: fraction
  | none => []

namespace DatetimePieces

variable (pieces : DatetimePieces)

/-- What follows the hours. -/
def minutesText : List Char :=
  ':' :: (pieces.minutes ++ ':' :: (pieces.seconds ++ fractionText pieces.fraction))

def clockText : List Char := pieces.hours ++ pieces.minutesText

def unsignedText : List Char :=
  match pieces.dayPart with
  | some day => day.text pieces.clockText
  | none => pieces.clockText

def text : List Char := minusText pieces.negative ++ pieces.unsignedText

/-! ### What the scans read -/

/-- The scan of a number of days and their unit. -/
structure DayRead (day : DayPieces) (rest : List Char) : Prop where
  days : IsField none day.days (fieldValue day.days) (day.before ++ (day.units ++ (day.behind ++ rest)))
  before : Blanks day.before
  units : IsWord 4 day.units (day.behind ++ rest)
  behind : Blanks day.behind
  stops : StopsAt isSpace rest

/-- Behind days, there are at most two characters for the hours. -/
def HoursRead : Prop :=
  match pieces.dayPart with
  | some day => DayRead day pieces.clockText ∧
      IsField (some 2) pieces.hours (fieldValue pieces.hours) [':']
  | none => IsField none pieces.hours (fieldValue pieces.hours) [':']

structure MinutesRead : Prop where
  minutes : IsField (some 2) pieces.minutes (fieldValue pieces.minutes) [':']
  seconds : IsField (some 2) pieces.seconds (fieldValue pieces.seconds) (fractionText pieces.fraction)
  fraction : ∀ fraction ∈ pieces.fraction, IsField (some 6) fraction (fieldValue fraction) []

/-- **The pieces that the scans read** from a string. -/
structure Read (text : List Char) : Prop where
  negative : pieces.negative = startsWithMinus text
  isText : behindMinus text = pieces.unsignedText
  noNul : NoNul (behindMinus text)
  hours : pieces.HoursRead
  minutes : pieces.MinutesRead

/-- The checks of the unit and of the range of each number. -/
structure InRange : Prop where
  units : ∀ day ∈ pieces.dayPart, isOneOf ["day", "days"] (day.units.map Char.toLower) = true
  days : ∀ day ∈ pieces.dayPart, 0 ≤ fieldValue day.days
  hours_le : ∀ day ∈ pieces.dayPart, fieldValue pieces.hours ≤ 23
  hours : 0 ≤ fieldValue pieces.hours
  minutes : 0 ≤ fieldValue pieces.minutes
  minutes_le : fieldValue pieces.minutes ≤ 59
  seconds : 0 ≤ fieldValue pieces.seconds
  seconds_le : fieldValue pieces.seconds ≤ 59
  fraction : ∀ fraction ∈ pieces.fraction, 0 ≤ fieldValue fraction

/-! ### What the pieces denote -/

def days : Int :=
  match pieces.dayPart with
  | some day => fieldValue day.days
  | none => 0

/-- The microseconds that the digits behind the point are. -/
def subseconds : Int :=
  match pieces.fraction with
  | some fraction => fieldValue fraction * 10 ^ (6 - fraction.length)
  | none => 0

/-- The microseconds, sign apart. -/
def magnitude : Int :=
  (((pieces.days * 24 + fieldValue pieces.hours) * 60 + fieldValue pieces.minutes) * 60 +
    fieldValue pieces.seconds) * 1000000 + pieces.subseconds

def value : Int := if pieces.negative then -pieces.magnitude else pieces.magnitude

/-- **The documented shape**: digits only, one blank on each side of the unit, two digits for the
minutes and for the seconds, and one to six digits behind the point. -/
structure Plain : Prop where
  days : ∀ day ∈ pieces.dayPart, Digits day.days ∧ day.before = [' '] ∧ day.behind = [' ']
  hours_short : ∀ day ∈ pieces.dayPart, pieces.hours.length ≤ 2
  hours : Digits pieces.hours
  minutes : Digits pieces.minutes ∧ pieces.minutes.length = 2
  seconds : Digits pieces.seconds ∧ pieces.seconds.length = 2
  fraction : ∀ fraction ∈ pieces.fraction, Digits fraction ∧ fraction.length ≤ 6

end DatetimePieces

/-! ## The pieces of a year-month interval -/

structure YearMonthPieces where
  negative : Bool
  years : List Char
  beforeYears : List Char
  yearUnits : List Char
  between : List Char
  months : List Char
  beforeMonths : List Char
  monthUnits : List Char

namespace YearMonthPieces

variable (pieces : YearMonthPieces)

def monthsText : List Char := pieces.months ++ (pieces.beforeMonths ++ pieces.monthUnits)

def unsignedText : List Char :=
  pieces.years ++ (pieces.beforeYears ++ (pieces.yearUnits ++ (pieces.between ++ pieces.monthsText)))

def text : List Char := minusText pieces.negative ++ pieces.unsignedText

/-- **The pieces that the scan reads** from a string. -/
structure Read (text : List Char) : Prop where
  negative : pieces.negative = startsWithMinus text
  isText : behindMinus text = pieces.unsignedText
  noNul : NoNul (behindMinus text)
  years : IsField none pieces.years (fieldValue pieces.years)
    (pieces.beforeYears ++ (pieces.yearUnits ++ (pieces.between ++ pieces.monthsText)))
  beforeYears : Blanks pieces.beforeYears
  yearUnits : IsWord 5 pieces.yearUnits (pieces.between ++ pieces.monthsText)
  between : Blanks pieces.between
  stops : StopsAt isSpace pieces.monthsText
  months : IsField none pieces.months (fieldValue pieces.months)
    (pieces.beforeMonths ++ pieces.monthUnits)
  beforeMonths : Blanks pieces.beforeMonths
  monthUnits : IsWord 6 pieces.monthUnits []

/-- The checks of the units and of the range of each number. -/
structure InRange : Prop where
  yearUnits : isOneOf ["year", "years", "y"] (pieces.yearUnits.map Char.toLower) = true
  monthUnits : isOneOf ["month", "months", "mon", "mons"] (pieces.monthUnits.map Char.toLower) = true
  years : 0 ≤ fieldValue pieces.years
  months : 0 ≤ fieldValue pieces.months
  months_le : fieldValue pieces.months ≤ 11

/-- The months, sign apart. -/
def magnitude : Int := fieldValue pieces.years * 12 + fieldValue pieces.months

def value : Int := if pieces.negative then -pieces.magnitude else pieces.magnitude

/-- **The documented shape**: two numbers of digits only, each with one blank and its unit behind it. -/
structure Plain : Prop where
  years : Digits pieces.years
  beforeYears : pieces.beforeYears = [' ']
  between : pieces.between = [' ']
  months : Digits pieces.months
  beforeMonths : pieces.beforeMonths = [' ']

end YearMonthPieces

/-! ## The numbers that a scan converts -/

/-- The number at the front of a string, behind a minus, fits in 64 bits. -/
def FrontFits (text : List Char) : Prop :=
  ∀ number rest value, cString (behindMinus text) = number ++ rest → IsField none number value rest →
    InSigned 64 value

/-- The number behind the first number and a word of at most five characters is an `int`. -/
def SecondFits (text : List Char) : Prop :=
  ∀ number before word between second rest value secondValue,
    cString (behindMinus text) = number ++ (before ++ (word ++ (between ++ (second ++ rest)))) →
    IsField none number value (before ++ (word ++ (between ++ (second ++ rest)))) → Blanks before →
    IsWord 5 word (between ++ (second ++ rest)) → Blanks between → StopsAt isSpace (second ++ rest) →
    IsField none second secondValue rest → InSigned 32 secondValue

/-! ## What intervals denote -/

/-- Any of the documented strings. -/
def DenotesDatetime (text : List Char) (ticks : Int) : Prop :=
  ∃ pieces : DatetimePieces, text = pieces.text ∧ pieces.Plain ∧ pieces.InRange ∧ ticks = pieces.value

def DenotesYearMonth (text : List Char) (months : Int) : Prop :=
  ∃ pieces : YearMonthPieces, text = pieces.text ∧ pieces.Plain ∧ pieces.InRange ∧
    months = pieces.value

/-- The microseconds of a unit, which has two or three names. -/
def datetimeUnits : List (List String × Int) :=
  [(["microsecond", "microseconds", "us"], 1), (["millisecond", "milliseconds", "ms"], 1000),
    (["second", "seconds", "s"], 1000000), (["minute", "minutes"], 60000000),
    (["hour", "hours", "h"], 3600000000), (["day", "days", "d"], 86400000000),
    (["week", "weeks", "w"], 604800000000)]

/-- The months of a unit. -/
def yearMonthUnits : List (List String × Int) :=
  [(["month", "months", "mon", "mons"], 1), (["year", "years", "y"], 12),
    (["decade", "decades"], 120), (["century", "centuries"], 1200),
    (["millennium", "millennia"], 12000)]

/-- The factor of a unit. -/
def factorOf (table : List (List String × Int)) (units : List Char) : Option Int :=
  (table.find? fun entry => isOneOf entry.1 units).map Prod.snd

/-- A count of one of the units. -/
def DenotesCount (table : List (List String × Int)) (count : Int) (units : List Char)
    (total : Int) : Prop :=
  ∃ factor ∈ factorOf table units, total = count * factor

/-- **A parser is exact** on an input: it has no undefined behaviour, what it returns is what the
input denotes, and it returns whatever the input denotes that fits in 64 bits. -/
def ParsesExactly (parsed : Exec (Option Int)) (Denotes : Int → Prop) : Prop :=
  ∃ result, parsed = .ok result ∧ (∀ total, result = some total → Denotes total) ∧
    ∀ total, Denotes total → InSigned 64 total → result = some total

/-- **A parser that reads pieces is exact** where it is defined and all pieces in range are as they are
documented. -/
theorem parsesExactly_iff_of_pieces {Pieces : Type} {Read InRange Plain : Pieces → Prop}
    {magnitude value : Pieces → Int} {Defined : Prop} {parsed : Exec (Option Int)} {Denotes : Int → Prop}
    (defined : ∀ result, parsed = .ok result → Defined)
    (reads : Defined → ∀ pieces, Read pieces → InRange pieces → parsed =
      if magnitude pieces < 9223372036854775808 then .ok (some (value pieces))
      else .error .undefinedBehaviour)
    (rejects : Defined → (∃ pieces, Read pieces ∧ InRange pieces) ∨ parsed = .ok none)
    (unique : ∀ pieces pieces', Read pieces → Read pieces' → pieces = pieces')
    (denotes_iff : ∀ total, Denotes total ↔
      ∃ pieces, Read pieces ∧ Plain pieces ∧ InRange pieces ∧ total = value pieces) :
    ParsesExactly parsed Denotes ↔ Defined ∧ ∀ pieces, Read pieces → InRange pieces →
      Plain pieces ∧ magnitude pieces < 9223372036854775808 := by
  constructor
  · rintro ⟨result, run, sound, -⟩
    have isDefined := defined result run
    refine ⟨isDefined, fun pieces read range => ?_⟩
    rw [reads isDefined pieces read range] at run
    split at run
    · next small =>
      cases run
      obtain ⟨pieces', read', plain, -⟩ := (denotes_iff _).mp (sound _ rfl)
      obtain rfl := unique pieces pieces' read read'
      exact ⟨plain, small⟩
    · cases run
  · rintro ⟨isDefined, every⟩
    have documented (total : Int) (denotes : Denotes total) : parsed = .ok (some total) := by
      obtain ⟨pieces, read, -, range, rfl⟩ := (denotes_iff total).mp denotes
      rw [reads isDefined pieces read range, if_pos (every pieces read range).2]
    have complete {result : Option Int} (run : parsed = .ok result) (total : Int)
        (denotes : Denotes total) : result = some total := by
      have same := documented total denotes
      rw [run] at same
      exact Except.ok.inj same
    rcases rejects isDefined with ⟨pieces, read, range⟩ | rejected
    · obtain ⟨plain, small⟩ := every pieces read range
      have run := reads isDefined pieces read range
      rw [if_pos small] at run
      refine ⟨_, run, fun total isTotal => ?_, fun total denotes _ => complete run total denotes⟩
      cases isTotal
      exact (denotes_iff _).mpr ⟨pieces, read, plain, range, rfl⟩
    · exact ⟨none, rejected, nofun, fun total denotes _ => complete rejected total denotes⟩

/-! ## Documented fields are read -/

section Documented

variable {text rest units : List Char} {names : List String} {most : Nat}

theorem Digits.isField {width : Option Nat} (digits : Digits text)
    (short : ∀ most ∈ width, text.length ≤ most) (stops : StopsAt Char.isDigit rest) :
    IsField width text (fieldValue text) rest := by
  have field := isField_of_isNumeral (isNumeral_digits digits.1 digits.2) short stops
  rwa [← field.value_eq] at field

theorem Digits.noNul (digits : Digits text) : NoNul text :=
  (isNumeral_digits digits.1 digits.2).noNul

theorem Digits.startsWithDigit (digits : Digits text) : StartsWithDigit (text ++ rest) :=
  startsWithDigit_append digits.1 digits.2

/-- A sign is told apart from the digits behind it. -/
theorem behindMinus_text (negative : Bool) (digit : StartsWithDigit text) :
    startsWithMinus (minusText negative ++ text) = negative ∧
      behindMinus (minusText negative ++ text) = text := by
  have noMinus : startsWithMinus text = false := by
    rw [startsWithMinus, beq_eq_false_iff_ne]
    exact digit.head_ne rfl
  cases negative with
  | true => exact ⟨rfl, rfl⟩
  | false => exact ⟨noMinus, if_neg (by simp [minusText, noMinus])⟩

theorem lt_toNat_of_isAlpha {c : Char} (alpha : c.isAlpha = true) : 64 < c.toNat := by
  rcases (Bool.or_eq_true _ _).mp alpha with upper | lower
  · have range : c.val ≥ 'A'.val ∧ c.val ≤ 'Z'.val := of_decide_eq_true upper
    exact Nat.lt_of_lt_of_le (by decide) (UInt32.le_iff_toNat_le.mp range.1)
  · have first : c.val ≥ 'a'.val := of_decide_eq_true ((Bool.and_eq_true _ _).mp lower).1
    exact Nat.lt_of_lt_of_le (by decide) (UInt32.le_iff_toNat_le.mp first)

theorem lt_toNat_of_isAlpha_toLower {c : Char} (alpha : c.toLower.isAlpha = true) : 64 < c.toNat := by
  by_contra low
  have notUpper : ¬ (c.val ≥ 'A'.val ∧ c.val ≤ 'Z'.val) := by
    rintro ⟨upper, -⟩
    have bound := UInt32.le_iff_toNat_le.mp upper
    exact low (Nat.lt_of_lt_of_le (by decide) bound)
  have same : c.toLower = c := dif_neg notUpper
  rw [same] at alpha
  exact low (lt_toNat_of_isAlpha alpha)

/-- A unit is a word of letters, whatever their case. -/
theorem isWord_of_isOneOf (known : isOneOf names (units.map Char.toLower) = true)
    (words : ∀ name ∈ names, name.toList ≠ [] ∧ name.toList.length ≤ most ∧
      name.toList.all Char.isAlpha = true)
    (stops : StopsAt (fun c => !isSpace c) rest) : IsWord most units rest ∧ NoNul units := by
  rw [isOneOf, List.any_eq_true] at known
  obtain ⟨name, isName, same⟩ := known
  obtain ⟨nonempty, short, letters⟩ := words name isName
  rw [← beq_iff_eq.mp same] at nonempty short letters
  have high : ∀ c ∈ units, 64 < c.toNat := fun c inUnits =>
    lt_toNat_of_isAlpha_toLower (List.all_eq_true.mp letters _ (List.mem_map_of_mem inUnits))
  rw [List.length_map] at short
  refine ⟨⟨by simpa using nonempty, fun c inUnits => ?_, .inr ⟨short, stops⟩⟩, fun c inUnits => ?_⟩
  · have := high c inUnits
    simp only [isSpace, Bool.or_eq_false_iff, beq_eq_false_iff_ne, Bool.and_eq_false_iff,
      decide_eq_false_iff_not]
    omega
  · have := high c inUnits
    simp only [bne_iff_ne]
    omega

end Documented

end IntervalParser

end Quickstep.Types
