import Quickstep.Types.TypedValue

/-!
# Operations and their unchecked operators

The operations of `types/operations/` as data, and the entry points of the operators they make:
one for single values and several for columns and accessors. What an operation computes is a
parameter; `Agrees` says that the vectorised entry points repeat the one for single values.
-/

namespace Quickstep.Types
open Quickstep.Common TupleIdSequence

inductive ComparisonID where
  | equal | notEqual | less | lessOrEqual | greater | greaterOrEqual | like | notLike | regexMatch
  | notRegexMatch
  deriving DecidableEq, Repr

inductive DateExtractUnit where
  | year | month | day | hour | minute | second
  deriving DecidableEq, Repr

inductive UnaryOperation where
  | negate
  | numericCast (targetType : DataType)
  | dateExtract (unit : DateExtractUnit)
  | substring (startPosition substringLength : BitVec 64)
  deriving DecidableEq, Repr

inductive BinaryOperation where
  | add | subtract | multiply | divide | modulo
  deriving DecidableEq, Repr

/-- The compile-time switches `QUICKSTEP_ENABLE_VECTOR_PREDICATE_SHORT_CIRCUIT` and
`QUICKSTEP_ENABLE_VECTOR_COPY_ELISION_SELECTION`. -/
structure Build where
  vectorPredicateShortCircuit : Bool
  vectorCopyElisionSelection : Bool

structure UncheckedUnaryOperator where
  applyToTypedValue : TypedValue → TypedValue
  applyToColumnVector : ColumnVector → ColumnVector
  applyToValueAccessor : {n : Nat} → ValueAccessor n → Nat → ColumnVector

structure UncheckedUnaryOperator.Agrees (op : UncheckedUnaryOperator) : Prop where
  columnVector : ∀ argument, op.applyToColumnVector argument = argument.map op.applyToTypedValue
  valueAccessor : ∀ {n : Nat} (accessor : ValueAccessor n) attributeId,
    op.applyToValueAccessor accessor attributeId =
      (accessor.column attributeId).map op.applyToTypedValue

structure UncheckedBinaryOperator where
  applyToTypedValues : TypedValue → TypedValue → TypedValue
  applyToColumnVectors : ColumnVector → ColumnVector → ColumnVector
  applyToColumnVectorAndStaticValue : ColumnVector → TypedValue → ColumnVector
  applyToStaticValueAndColumnVector : TypedValue → ColumnVector → ColumnVector
  applyToSingleValueAccessor : {n : Nat} → ValueAccessor n → Nat → Nat → ColumnVector
  applyToValueAccessorAndStaticValue : {n : Nat} → ValueAccessor n → Nat → TypedValue → ColumnVector
  applyToStaticValueAndValueAccessor : {n : Nat} → TypedValue → ValueAccessor n → Nat → ColumnVector
  applyToColumnVectorAndValueAccessor : {n : Nat} → ColumnVector → ValueAccessor n → Nat →
    ColumnVector
  applyToValueAccessorAndColumnVector : {n : Nat} → ValueAccessor n → Nat → ColumnVector →
    ColumnVector

/-- The vectorised entry points loop over a function on single values. Columns that meet are equally
long. -/
structure UncheckedBinaryOperator.LoopsOver (op : UncheckedBinaryOperator)
    (f : TypedValue → TypedValue → TypedValue) : Prop where
  columnVectors : ∀ left right, left.length = right.length →
    op.applyToColumnVectors left right = left.zipWith f right
  columnVectorAndStaticValue : ∀ left right,
    op.applyToColumnVectorAndStaticValue left right = left.map fun value => f value right
  staticValueAndColumnVector : ∀ left right,
    op.applyToStaticValueAndColumnVector left right = right.map (f left)
  singleValueAccessor : ∀ {n : Nat} (accessor : ValueAccessor n) leftId rightId,
    op.applyToSingleValueAccessor accessor leftId rightId =
      (accessor.column leftId).zipWith f (accessor.column rightId)
  valueAccessorAndStaticValue : ∀ {n : Nat} (accessor : ValueAccessor n) leftId right,
    op.applyToValueAccessorAndStaticValue accessor leftId right =
      (accessor.column leftId).map fun value => f value right
  staticValueAndValueAccessor : ∀ left {n : Nat} (accessor : ValueAccessor n) rightId,
    op.applyToStaticValueAndValueAccessor left accessor rightId =
      (accessor.column rightId).map (f left)
  columnVectorAndValueAccessor : ∀ left {n : Nat} (accessor : ValueAccessor n) rightId,
    left.length = accessor.getNumTuples →
    op.applyToColumnVectorAndValueAccessor left accessor rightId =
      left.zipWith f (accessor.column rightId)
  valueAccessorAndColumnVector : ∀ {n : Nat} (accessor : ValueAccessor n) leftId right,
    right.length = accessor.getNumTuples →
    op.applyToValueAccessorAndColumnVector accessor leftId right =
      (accessor.column leftId).zipWith f right

/-- They loop over the entry point for single values. -/
abbrev UncheckedBinaryOperator.Agrees (op : UncheckedBinaryOperator) : Prop :=
  op.LoopsOver op.applyToTypedValues

/-- The vectorised entry points take an optional filter, and those that read a column also an
optional existence map for the ids of its values. -/
structure UncheckedComparator where
  compareTypedValues : TypedValue → TypedValue → Bool
  compareColumnVectors : Build → {n : Nat} → ColumnVector → ColumnVector →
    Option (TupleIdSequence n) → Option (TupleIdSequence n) → TupleIdSequence n
  compareColumnVectorAndStaticValue : Build → {n : Nat} → ColumnVector → TypedValue →
    Option (TupleIdSequence n) → Option (TupleIdSequence n) → TupleIdSequence n
  compareStaticValueAndColumnVector : Build → {n : Nat} → TypedValue → ColumnVector →
    Option (TupleIdSequence n) → Option (TupleIdSequence n) → TupleIdSequence n
  compareSingleValueAccessor : Build → {n : Nat} → ValueAccessor n → Nat → Nat →
    Option (TupleIdSequence n) → TupleIdSequence n
  compareValueAccessorAndStaticValue : Build → {n : Nat} → ValueAccessor n → Nat → TypedValue →
    Option (TupleIdSequence n) → TupleIdSequence n
  compareStaticValueAndValueAccessor : Build → {n : Nat} → TypedValue → ValueAccessor n → Nat →
    Option (TupleIdSequence n) → TupleIdSequence n
  compareColumnVectorAndValueAccessor : Build → {n : Nat} → ColumnVector → ValueAccessor n → Nat →
    Option (TupleIdSequence n) → Option (TupleIdSequence n) → TupleIdSequence n
  compareValueAccessorAndColumnVector : Build → {n : Nat} → ValueAccessor n → Nat → ColumnVector →
    Option (TupleIdSequence n) → Option (TupleIdSequence n) → TupleIdSequence n

/-- A column holds the values of the existing tuples in their order, a filter names existing tuples,
and the result holds the candidates whose values compare. -/
structure UncheckedComparator.Agrees (op : UncheckedComparator) : Prop where
  columnVectors : ∀ build {n : Nat} (left right : Fin n → TypedValue)
    (filter existenceMap : Option (TupleIdSequence n)) t, Within filter existenceMap →
    (t ∈ op.compareColumnVectors build ((iterated existenceMap).map left)
        ((iterated existenceMap).map right) filter existenceMap ↔
      Candidate filter existenceMap t ∧ op.compareTypedValues (left t) (right t) = true)
  columnVectorAndStaticValue : ∀ build {n : Nat} (left : Fin n → TypedValue) right
    (filter existenceMap : Option (TupleIdSequence n)) t, Within filter existenceMap →
    (t ∈ op.compareColumnVectorAndStaticValue build ((iterated existenceMap).map left) right
        filter existenceMap ↔
      Candidate filter existenceMap t ∧ op.compareTypedValues (left t) right = true)
  staticValueAndColumnVector : ∀ build {n : Nat} left (right : Fin n → TypedValue)
    (filter existenceMap : Option (TupleIdSequence n)) t, Within filter existenceMap →
    (t ∈ op.compareStaticValueAndColumnVector build left ((iterated existenceMap).map right)
        filter existenceMap ↔
      Candidate filter existenceMap t ∧ op.compareTypedValues left (right t) = true)
  singleValueAccessor : ∀ build {n : Nat} (accessor : ValueAccessor n) leftId rightId filter t,
    Within filter accessor.tupleIdSequence →
    (t ∈ op.compareSingleValueAccessor build accessor leftId rightId filter ↔
      Candidate filter accessor.tupleIdSequence t ∧
        op.compareTypedValues (accessor.getTypedValueAtAbsolutePosition leftId t)
          (accessor.getTypedValueAtAbsolutePosition rightId t) = true)
  valueAccessorAndStaticValue : ∀ build {n : Nat} (accessor : ValueAccessor n) leftId right filter t,
    Within filter accessor.tupleIdSequence →
    (t ∈ op.compareValueAccessorAndStaticValue build accessor leftId right filter ↔
      Candidate filter accessor.tupleIdSequence t ∧
        op.compareTypedValues (accessor.getTypedValueAtAbsolutePosition leftId t) right = true)
  staticValueAndValueAccessor : ∀ build {n : Nat} left (accessor : ValueAccessor n) rightId filter t,
    Within filter accessor.tupleIdSequence →
    (t ∈ op.compareStaticValueAndValueAccessor build left accessor rightId filter ↔
      Candidate filter accessor.tupleIdSequence t ∧
        op.compareTypedValues left (accessor.getTypedValueAtAbsolutePosition rightId t) = true)
  columnVectorAndValueAccessor : ∀ build {n : Nat} (left : Fin n → TypedValue)
    (accessor : ValueAccessor n) rightId filter existenceMap t, accessor.Describes existenceMap →
    Within filter existenceMap →
    (t ∈ op.compareColumnVectorAndValueAccessor build ((iterated existenceMap).map left) accessor
        rightId filter existenceMap ↔
      Candidate filter existenceMap t ∧
        op.compareTypedValues (left t) (accessor.getTypedValueAtAbsolutePosition rightId t) = true)
  valueAccessorAndColumnVector : ∀ build {n : Nat} (accessor : ValueAccessor n) leftId
    (right : Fin n → TypedValue) filter existenceMap t, accessor.Describes existenceMap →
    Within filter existenceMap →
    (t ∈ op.compareValueAccessorAndColumnVector build accessor leftId
        ((iterated existenceMap).map right) filter existenceMap ↔
      Candidate filter existenceMap t ∧
        op.compareTypedValues (accessor.getTypedValueAtAbsolutePosition leftId t) (right t) = true)

/-- The methods of the operations: which types they take, what they return, their checked form on
constants and the operators they make. -/
structure Operations where
  canCompareTypes : ComparisonID → DataType → DataType → Bool
  compareTypedValuesChecked : ComparisonID → TypedValue → DataType → TypedValue → DataType → Bool
  makeUncheckedComparatorForTypes : ComparisonID → DataType → DataType → UncheckedComparator
  canApplyToType : UnaryOperation → DataType → Bool
  resultTypeForArgumentType : UnaryOperation → DataType → Option DataType
  applyToCheckedUnary : UnaryOperation → TypedValue → DataType → TypedValue
  makeUncheckedUnaryOperatorForType : UnaryOperation → DataType → UncheckedUnaryOperator
  canApplyToTypes : BinaryOperation → DataType → DataType → Bool
  resultTypeForArgumentTypes : BinaryOperation → DataType → DataType → Option DataType
  applyToCheckedBinary : BinaryOperation → TypedValue → DataType → TypedValue → DataType →
    TypedValue
  makeUncheckedBinaryOperatorForTypes : BinaryOperation → DataType → DataType →
    UncheckedBinaryOperator

/-- Every operator's vectorised entry points agree with its per-value one. -/
structure Operations.Agrees (ops : Operations) : Prop where
  comparator : ∀ comparison left right,
    (ops.makeUncheckedComparatorForTypes comparison left right).Agrees
  unary : ∀ operation argument, (ops.makeUncheckedUnaryOperatorForType operation argument).Agrees
  binary : ∀ operation left right,
    (ops.makeUncheckedBinaryOperatorForTypes operation left right).Agrees

end Quickstep.Types
