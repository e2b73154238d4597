import Mathlib.Algebra.Ring.Int.Defs
import Quickstep.Types.YearMonthIntervalExactness

/-!
# Exact intervals

A count and its unit are parsed to their product, which is exact as long as it fits. The four formats
together: where they are exact, and a string that one of them takes for another interval.
-/

namespace Quickstep.Types
open Quickstep.Lib

namespace IntervalParser

/-! ## The simple formats -/

section Simple

variable {count : Int} {units : List Char} {factors : List Int} {table : List (List String × Int)}

theorem not_inSigned_mul {value factor : Int} (tooLarge : ¬ InSigned 64 value) (positive : 1 ≤ factor) :
    ¬ InSigned 64 (value * factor) := by
  rw [inSigned_64] at tooLarge ⊢
  by_cases negative : value < 0
  · have grows : value * factor ≤ value * 1 := Int.mul_le_mul_of_nonpos_left (by omega) positive
    omega
  · have grows : value * 1 ≤ value * factor := Int.mul_le_mul_of_nonneg_left positive (by omega)
    omega

theorem one_le_prod (positive : ∀ factor ∈ factors, 1 ≤ factor) : 1 ≤ factors.prod := by
  induction factors with
  | nil => exact Int.le_refl 1
  | cons factor factors ih =>
    obtain ⟨first, others⟩ := List.forall_mem_cons.mp positive
    rw [List.prod_cons]
    calc 1 ≤ factors.prod := ih others
      _ = 1 * factors.prod := (Int.one_mul _).symm
      _ ≤ factor * factors.prod := Int.mul_le_mul_of_nonneg_right first (by have := ih others; omega)

/-- A product overflows on the way only if it overflows at the end. -/
theorem product64_eq (fits : InSigned 64 count) (positive : ∀ factor ∈ factors, 1 ≤ factor) :
    product64 count factors = int64 (count * factors.prod) := by
  induction factors generalizing count with
  | nil =>
    rw [List.prod_nil, Int.mul_one, int64, checked, if_pos fits]
    rfl
  | cons factor factors ih =>
    obtain ⟨first, others⟩ := List.forall_mem_cons.mp positive
    have step : product64 count (factor :: factors) =
        int64 (count * factor) >>= fun product => product64 product factors := rfl
    rw [step, List.prod_cons, ← Int.mul_assoc]
    by_cases inside : InSigned 64 (count * factor)
    · rw [int64, checked, if_pos inside, Exec.ok_bind, ih inside others]
    · have overflows := not_inSigned_mul inside (one_le_prod others)
      rw [int64, checked, if_neg inside, int64, checked, if_neg overflows]
      rfl

/-- The product of a count and the factor of its unit, which is checked. -/
def parseCount (table : List (List String × Int)) (count : Int) (units : List Char) :
    Exec (Option Int) :=
  match factorOf table units with
  | some factor => some <$> int64 (count * factor)
  | none => .ok none

theorem parseCount_cons (names : List String) (factor : Int) :
    parseCount ((names, factor) :: table) count units =
      if isOneOf names units then some <$> int64 (count * factor) else parseCount table count units := by
  unfold parseCount factorOf
  cases known : isOneOf names units <;> simp [known]

/-- **A count of a unit is parsed to the product.** -/
theorem parseDatetimeIntervalSimpleFormat_eq (fits : InSigned 64 count) (units : List Char) :
    parseDatetimeIntervalSimpleFormat count units = parseCount datetimeUnits count units := by
  unfold parseDatetimeIntervalSimpleFormat datetimeUnits
  simp only [parseCount_cons, kIntervalTicksPerSecond]
  rw [product64_eq fits (by decide), product64_eq fits (by decide), product64_eq fits (by decide),
    product64_eq fits (by decide), product64_eq fits (by decide), product64_eq fits (by decide),
    product64_eq fits (by decide)]
  rfl

theorem parseYearMonthIntervalSimpleFormat_eq (fits : InSigned 64 count) (units : List Char) :
    parseYearMonthIntervalSimpleFormat count units = parseCount yearMonthUnits count units := by
  have single : (.ok (some count) : Exec (Option Int)) = some <$> int64 (count * 1) := by
    rw [Int.mul_one, int64, checked, if_pos fits]
    rfl
  unfold parseYearMonthIntervalSimpleFormat yearMonthUnits
  simp only [parseCount_cons]
  rw [product64_eq fits (by decide), product64_eq fits (by decide), product64_eq fits (by decide),
    product64_eq fits (by decide), single]
  rfl

/-- **Exactly when a count is parsed exactly.** -/
theorem parseCount_exact_iff :
    ParsesExactly (parseCount table count units) (DenotesCount table count units) ↔
      ∀ factor ∈ factorOf table units, InSigned 64 (count * factor) := by
  unfold ParsesExactly DenotesCount parseCount
  cases factorOf table units with
  | none => simp
  | some factor =>
    by_cases fits : InSigned 64 (count * factor)
    · simp [int64, checked, fits]
    · simp [int64, checked, fits]

end Simple

/-! ## The four formats -/

/-- **Exactly when intervals are parsed exactly**: products fit; numbers without a width fit in their
type; and whatever pieces in range a string has are those of the documented shape, with a magnitude that
fits. -/
theorem intervals_parseExactly_iff (count : BitVec 64) (units text : List Char) :
    (ParsesExactly (parseDatetimeIntervalSimpleFormat count.toInt units)
        (DenotesCount datetimeUnits count.toInt units) ↔
      ∀ factor ∈ factorOf datetimeUnits units, InSigned 64 (count.toInt * factor)) ∧
    (ParsesExactly (parseYearMonthIntervalSimpleFormat count.toInt units)
        (DenotesCount yearMonthUnits count.toInt units) ↔
      ∀ factor ∈ factorOf yearMonthUnits units, InSigned 64 (count.toInt * factor)) ∧
    (ParsesExactly (parseDatetimeIntervalComplexFormat text) (DenotesDatetime text) ↔
      FrontFits text ∧ ∀ pieces : DatetimePieces, pieces.Read text → pieces.InRange →
        pieces.Plain ∧ pieces.magnitude < 9223372036854775808) ∧
    (ParsesExactly (parseYearMonthIntervalComplexFormat text) (DenotesYearMonth text) ↔
      (FrontFits text ∧ SecondFits text) ∧ ∀ pieces : YearMonthPieces, pieces.Read text →
        pieces.InRange → pieces.Plain ∧ pieces.magnitude < 9223372036854775808) := by
  have fits : InSigned 64 count.toInt := inSigned_64.mpr ⟨count.le_toInt, count.toInt_lt⟩
  refine ⟨?_, ?_, parseDatetimeIntervalComplexFormat_exact_iff text,
    parseYearMonthIntervalComplexFormat_exact_iff text⟩
  · rw [parseDatetimeIntervalSimpleFormat_eq fits]
    exact parseCount_exact_iff
  · rw [parseYearMonthIntervalSimpleFormat_eq fits]
    exact parseCount_exact_iff

/-- A blank behind the point is counted as a digit: half a second becomes a twentieth. -/
theorem not_parsesExactly_blankFraction :
    parseDatetimeIntervalComplexFormat "00:00:00. 5".toList = .ok (some 50000) ∧
    ¬ ParsesExactly (parseDatetimeIntervalComplexFormat "00:00:00. 5".toList)
      (DenotesDatetime "00:00:00. 5".toList) := by
  refine ⟨by decide, ?_⟩
  rw [parseDatetimeIntervalComplexFormat_exact_iff]
  rintro ⟨-, every⟩
  have zeros : Digits ['0', '0'] := ⟨List.cons_ne_nil _ _, List.all_eq_true.mp (by decide)⟩
  have numeral : IsNumeral ['5'] 5 := ⟨.none, ['5'], rfl, by decide, List.all_eq_true.mp (by decide), by decide⟩
  have short : ∀ most ∈ some 6, ['5'].length ≤ most := by simp
  have five : IsField (some 6) [' ', '5'] 5 [] :=
    ⟨[' '], ['5'], rfl, by simp [isSpace], numeral, short, .inr (stopsAt_nil _)⟩
  have noNul : NoNul "00:00:00. 5".toList := by simp [NoNul]
  have read : DatetimePieces.Read ⟨false, none, ['0', '0'], ['0', '0'], ['0', '0'], some [' ', '5']⟩
      "00:00:00. 5".toList := by
    refine ⟨rfl, rfl, noNul, zeros.isField noWidth (stopsAt_cons rfl),
      zeros.isField (atMost rfl) (stopsAt_cons rfl), zeros.isField (atMost rfl) (stopsAt_cons rfl), ?_⟩
    intro fraction isFraction
    cases isFraction
    exact five
  have range : DatetimePieces.InRange
      ⟨false, none, ['0', '0'], ['0', '0'], ['0', '0'], some [' ', '5']⟩ :=
    ⟨by simp, by simp, by simp, by decide, by decide, by decide, by decide, by decide, by simp; decide⟩
  obtain ⟨plain, -⟩ := every _ read range
  have digits := (plain.fraction _ rfl).1.2 ' ' List.mem_cons_self
  exact absurd digits (by decide)

end IntervalParser

end Quickstep.Types
