import Quickstep.Types.ComparisonFunctors
import Quickstep.Types.DataPtrComparators
import Quickstep.Types.Literals

/-!
# Comparators of literals

`LiteralUncheckedComparator` compares numbers, dates and intervals as C++ literals. Its vectorised
entry points return the tuples on which `compareTypedValues` holds.
-/

namespace Quickstep.Types
open Quickstep.Lib Quickstep.Common TupleIdSequence

structure DateLit where
  year : BitVec 32
  month : BitVec 8
  day : BitVec 8
  deriving DecidableEq

/-- The C++ types that are compared: those of the operators, and dates. -/
inductive ComparedType where
  | literal (type : CppType)
  | dateLit
  deriving DecidableEq, Repr

abbrev ComparedType.Value : ComparedType → Type
  | literal type => type.Value
  | dateLit => DateLit

/-- `getLiteral`, of a date too. -/
def TypedValue.getComparedLiteral (value : TypedValue) : (type : ComparedType) → type.Value
  | .literal type => value.getLiteral type
  | .dateLit =>
    ⟨value.valueUnion.extractLsb' 0 32, value.valueUnion.extractLsb' 32 8,
      value.valueUnion.extractLsb' 40 8⟩

/-! ## How literals are ordered -/

/-- An IEEE number is a NaN if its magnitude is above that of infinity. -/
def isNaN {w : Nat} (infinity bits : BitVec w) : Bool :=
  infinity.toNat < (bits.setWidth (w - 1)).toNat

/-- Sign and magnitude. Both zeros are zero. -/
def ieeeValue {w : Nat} (bits : BitVec w) : Int :=
  if bits.msb then -(bits.setWidth (w - 1)).toNat else (bits.setWidth (w - 1)).toNat

/-- The order of IEEE numbers. A NaN is unordered. -/
def ieeeOrder {w : Nat} (infinity left right : BitVec w) : Option Ordering :=
  if isNaN infinity left || isNaN infinity right then none
  else some (compare (ieeeValue left) (ieeeValue right))

/-- The built-in comparison operators of one type. -/
def NumericType.order : (type : NumericType) → type.Value → type.Value → Option Ordering
  | int, left, right | long, left, right => some (compare left.toInt right.toInt)
  | float, left, right => ieeeOrder 0x7F800000#32 left right
  | double, left, right => ieeeOrder 0x7FF0000000000000#64 left right

/-- The comparison operators of `DateLit`. -/
def DateLit.order (left right : DateLit) : Ordering :=
  if left.year ≠ right.year then compare left.year.toInt right.year.toInt
  else if left.month ≠ right.month then compare left.month.toNat right.month.toNat
  else compare left.day.toNat right.day.toNat

/-- What `left OP right` sees. Numbers of two types are converted to a common one; no comparator is
made for other pairs of different types. -/
def literalOrder (platform : Platform) :
    (leftType rightType : ComparedType) → leftType.Value → rightType.Value → Option Ordering
  | .literal (.number leftType), .literal (.number rightType), left, right =>
    let common := usualArithmeticConversion leftType rightType
    common.order (staticCast platform leftType common left)
      (staticCast platform rightType common right)
  | .dateLit, .dateLit, left, right => some (left.order right)
  | .literal .datetimeLit, .literal .datetimeLit, left, right
  | .literal .datetimeIntervalLit, .literal .datetimeIntervalLit, left, right
  | .literal .yearMonthIntervalLit, .literal .yearMonthIntervalLit, left, right =>
    some (compare (BitVec.toInt left) (BitVec.toInt right))
  | _, _, _, _ => none

/-! ## The comparator -/

/-- The template arguments. -/
structure LiteralUncheckedComparator where
  comparisonFunctor : ComparisonFunctor
  leftCppType : ComparedType
  leftNullable : Bool
  rightCppType : ComparedType
  rightNullable : Bool
  deriving DecidableEq, Repr

/-- `*static_cast<const CppType*>(pointer)`. -/
def literalAt (type : ComparedType) (pointer : DataPtr) : Exec type.Value := do
  pure ((← pointer.deref).getComparedLiteral type)

namespace LiteralUncheckedComparator

variable (platform : Platform) (comparator : LiteralUncheckedComparator)

def compareData (left right : DataPtr) : Exec Bool := do
  let left ← literalAt comparator.leftCppType left
  let right ← literalAt comparator.rightCppType right
  pure (comparator.comparisonFunctor.apply
    (literalOrder platform comparator.leftCppType comparator.rightCppType left right))

def dataPtrComparator : DataPtrComparator where
  leftNullable := comparator.leftNullable
  rightNullable := comparator.rightNullable
  compareData := comparator.compareData platform

def compareTypedValues (left right : TypedValue) : Exec Bool :=
  (comparator.dataPtrComparator platform).compareTypedValuesInl left right

def vectorised : VectorisedComparator := (comparator.dataPtrComparator platform).vectorised

end LiteralUncheckedComparator

/-! ## The factories -/

namespace BasicComparison

def makeNumericComparatorOuterHelper (functor : ComparisonFunctor) (left right : DataType) :
    Option LiteralUncheckedComparator := do
  let leftType ← left.numericType?
  let rightType ← right.numericType?
  pure ⟨functor, .literal (.number leftType), left.isNullable, .literal (.number rightType),
    right.isNullable⟩

def makeDateComparatorInnerHelper (functor : ComparisonFunctor) (type : ComparedType)
    (leftNullable : Bool) (right : DataType) : Option LiteralUncheckedComparator :=
  match right with
  | .date nullable | .datetime nullable | .datetimeInterval nullable | .yearMonthInterval nullable =>
    some ⟨functor, type, leftNullable, type, nullable⟩
  | .int _ | .long _ | .float _ | .double _ | .char _ _ | .varChar _ _ | .nullType => none

def makeDateComparatorOuterHelper (functor : ComparisonFunctor) (left right : DataType) :
    Option LiteralUncheckedComparator :=
  match left with
  | .date nullable => makeDateComparatorInnerHelper functor .dateLit nullable right
  | .datetime nullable => makeDateComparatorInnerHelper functor (.literal .datetimeLit) nullable right
  | .datetimeInterval nullable =>
    makeDateComparatorInnerHelper functor (.literal .datetimeIntervalLit) nullable right
  | .yearMonthInterval nullable =>
    makeDateComparatorInnerHelper functor (.literal .yearMonthIntervalLit) nullable right
  | .int _ | .long _ | .float _ | .double _ | .char _ _ | .varChar _ _ | .nullType => none

/-- Both sides are dates, or intervals of one kind. -/
def sameDateTypes (left right : DataType) : Bool :=
  match left, right with
  | .date _, .date _ | .datetime _, .datetime _ | .datetimeInterval _, .datetimeInterval _
  | .yearMonthInterval _, .yearMonthInterval _ => true
  | _, _ => false

/-- The branches of `makeUncheckedComparatorForTypesHelper` that make a comparator of literals. -/
def makeLiteralComparatorForTypes (functor : ComparisonFunctor) (left right : DataType) :
    Option LiteralUncheckedComparator :=
  if left.numericType?.isSome && right.numericType?.isSome then
    makeNumericComparatorOuterHelper functor left right
  else if sameDateTypes left right then makeDateComparatorOuterHelper functor left right
  else none

end BasicComparison

/-! ## What they return -/

section Exact

variable (platform : Platform) {comparator : LiteralUncheckedComparator}

theorem LiteralUncheckedComparator.notNull_of_compareData {left right : TypedValue} {holds : Bool}
    (compared : comparator.compareData platform (some left) (some right) = .ok holds) :
    left.isNull = false ∧ right.isNull = false := by
  obtain ⟨_, leftRead, rest⟩ := Exec.bind_ok compared
  obtain ⟨_, rightRead, _⟩ := Exec.bind_ok rest
  obtain ⟨_, leftFound, _⟩ := Exec.bind_ok leftRead
  obtain ⟨_, rightFound, _⟩ := Exec.bind_ok rightRead
  exact ⟨DataPtr.notNull_of_deref leftFound, DataPtr.notNull_of_deref rightFound⟩

/-- A value is present where the comparator does not check for NULL. -/
theorem DataType.Admits.present {type : DataType} {value : TypedValue} (admits : type.Admits value)
    (unchecked : (type.isNullable && value.isNull) = false) : value.isNull = false := by
  cases null : value.isNull with
  | false => rfl
  | true =>
    rw [null, admits.nullable null] at unchecked
    cases unchecked

/-- `compareTypedValues` on admitted values. -/
theorem LiteralUncheckedComparator.compareTypedValues_eq {leftType rightType : DataType}
    (leftNullable : comparator.leftNullable = leftType.isNullable)
    (rightNullable : comparator.rightNullable = rightType.isNullable) {left right : TypedValue}
    (leftAdmits : leftType.Admits left) (rightAdmits : rightType.Admits right) :
    comparator.compareTypedValues platform left right =
      .ok (!left.isNull && !right.isNull && comparator.comparisonFunctor.apply
        (literalOrder platform comparator.leftCppType comparator.rightCppType
          (left.getComparedLiteral comparator.leftCppType)
          (right.getComparedLiteral comparator.rightCppType))) := by
  have leftPresent := leftAdmits.present
  have rightPresent := rightAdmits.present
  rw [← leftNullable] at leftPresent
  rw [← rightNullable] at rightPresent
  unfold compareTypedValues DataPtrComparator.compareTypedValuesInl
  change (if comparator.leftNullable && left.isNull || comparator.rightNullable && right.isNull then _
    else comparator.compareData platform (some left) (some right)) = _
  cases leftNull : comparator.leftNullable && left.isNull with
  | true =>
    rw [(Bool.and_eq_true_iff.mp leftNull).2]
    rfl
  | false =>
    cases rightNull : comparator.rightNullable && right.isNull with
    | true =>
      rw [(Bool.and_eq_true_iff.mp rightNull).2, Bool.not_true, Bool.and_false]
      rfl
    | false =>
      rw [leftPresent leftNull, rightPresent rightNull]
      unfold compareData literalAt
      rw [DataPtr.deref_some (leftPresent leftNull), DataPtr.deref_some (rightPresent rightNull)]
      rfl

/-- The factory passes the nullability of the types on. -/
theorem BasicComparison.makeLiteralComparatorForTypes_nullable {functor : ComparisonFunctor}
    {leftType rightType : DataType}
    (made : makeLiteralComparatorForTypes functor leftType rightType = some comparator) :
    comparator.leftNullable = leftType.isNullable ∧
      comparator.rightNullable = rightType.isNullable := by
  cases leftType <;> cases rightType <;> cases made <;> exact ⟨rfl, rfl⟩

/-- **The comparators of literals** exist for all pairs of numeric types and for dates and intervals of
one kind. On admitted values every comparison has a result, NULL compares to nothing, and every
vectorised entry point returns the candidates that compare. -/
theorem literalComparators_exact (functor : ComparisonFunctor) {leftType rightType : DataType}
    (comparable : leftType.numericType?.isSome && rightType.numericType?.isSome ||
      BasicComparison.sameDateTypes leftType rightType) :
    ∃ comparator, BasicComparison.makeLiteralComparatorForTypes functor leftType rightType =
        some comparator ∧
      ∀ {n : Nat} (call : VectorisedCall n) (build : Build), call.WellFormed →
        call.Reads leftType.Admits rightType.Admits →
        (∀ t, Candidate none call.existenceMap t → ∃ holds,
          comparator.compareTypedValues platform (call.left t) (call.right t) = .ok holds) ∧
        call.Selects (comparator.vectorised platform) build fun left right =>
          comparator.compareTypedValues platform left right = .ok true := by
  obtain ⟨comparator, made⟩ : ∃ comparator,
      BasicComparison.makeLiteralComparatorForTypes functor leftType rightType =
        some comparator := by
    cases leftType <;> cases rightType <;> cases comparable <;> exact ⟨_, rfl⟩
  obtain ⟨leftNullable, rightNullable⟩ :=
    BasicComparison.makeLiteralComparatorForTypes_nullable made
  refine ⟨comparator, made, fun call build wellFormed reads => ?_⟩
  have returns : ∀ t, Candidate none call.existenceMap t → ∃ holds,
      comparator.compareTypedValues platform (call.left t) (call.right t) = .ok holds := by
    intro t existing
    obtain ⟨leftAdmits, rightAdmits⟩ := reads t existing
    exact ⟨_, comparator.compareTypedValues_eq platform leftNullable rightNullable leftAdmits
      rightAdmits⟩
  exact ⟨returns, (comparator.dataPtrComparator platform).selects_of_returns wellFormed
    ((comparator.dataPtrComparator platform).vectorised_judges wellFormed build)
    (fun _ _ _ compared => LiteralUncheckedComparator.notNull_of_compareData platform compared)
    returns⟩

/-- A platform without floating point numbers. -/
def integerPlatform : Platform where
  floatArithmetic _ _ _ := 0
  doubleArithmetic _ _ _ := 0
  convert
    | _, .int, _ => 0#32
    | _, .long, _ => 0#64
    | _, .float, _ => 0#32
    | _, .double, _ => 0#64
  gmtimeR _ := ⟨70, 0, 1, 0, 0, 0⟩
  timegm _ := 0
  malloc size := List.replicate size.toNat 0

/-- A column of NULL and 3, below the constant 5. -/
def nullAndThree : VectorisedCall 2 :=
  .columnVectorAndStaticValue (fun t => if t = 0 then .null .int else .int 3) (.long 5) none none

theorem literalComparators_exact_intLong :
    ∃ comparator, BasicComparison.makeLiteralComparatorForTypes .less (.int true) (.long false) =
        some comparator ∧
      nullAndThree.Selects (comparator.vectorised integerPlatform) ⟨true, true⟩ fun left right =>
        comparator.compareTypedValues integerPlatform left right = .ok true := by
  have wellFormed : nullAndThree.WellFormed := ⟨nofun, trivial⟩
  have reads : nullAndThree.Reads (DataType.int true).Admits (DataType.long false).Admits := by
    intro t _
    refine ⟨⟨?_, fun _ => rfl⟩, ⟨rfl, nofun⟩⟩
    change (if t = 0 then TypedValue.null .int else .int 3).getTypeID = .int
    split <;> rfl
  obtain ⟨comparator, made, exact⟩ :=
    @literalComparators_exact integerPlatform .less (.int true) (.long false) rfl
  exact ⟨comparator, made, (exact nullAndThree ⟨true, true⟩ wellFormed reads).2⟩

end Exact

end Quickstep.Types
