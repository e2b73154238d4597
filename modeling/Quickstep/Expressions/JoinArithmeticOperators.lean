import Mathlib.Data.List.Zip
import Quickstep.Expressions.JoinNodes
import Quickstep.Types.ArithmeticLoops

/-!
# Arithmetic operators over columns, accessors and joined tuples

All vectorised entry points of the arithmetic operators, those over joined tuples among them: whatever
the sides the arguments stand on, they return what the operator returns for the two values at each
position.
-/

namespace Quickstep.Types
open Quickstep.Lib Quickstep.Utility Quickstep.Expressions

namespace ArithmeticUncheckedBinaryOperator

/-! ## Joined tuples -/

section Joins

variable (op : ArithmeticUncheckedBinaryOperator) {n m : Nat} (join : JoinSides n m)
  (joinedTupleIds : JoinedTupleIds n m)

def applyToValueAccessorAndStaticValueForJoinHelper (valueAccessorOnLeft : Bool) (attr : JoinedAttribute)
    (staticValue : TypedValue) (values_ : WordMemory 8) (bits : BitVector false joinedTupleIds.length) :
    Exec (NativeColumnVector op.resultType joinedTupleIds.length) :=
  op.withStaticValue valueAccessorOnLeft staticValue
    (fun result => joinedTupleIds.foldlM (fun result joinedPair =>
      op.applyNextToLiteral valueAccessorOnLeft staticValue result
        ((join.valueAt attr joinedPair).untyped (op.nullableOn valueAccessorOnLeft))) result)
    values_ bits

def applyToValueAccessorAndStaticValueForJoin (left : JoinedAttribute) (right : TypedValue) :=
  op.applyToValueAccessorAndStaticValueForJoinHelper join joinedTupleIds true left right

def applyToStaticValueAndValueAccessorForJoin (left : TypedValue) (right : JoinedAttribute) :=
  op.applyToValueAccessorAndStaticValueForJoinHelper join joinedTupleIds false right left

def applyToColumnVectorAndValueAccessorForJoinHelper (columnVectorOnLeft : Bool)
    (columnVector : ColumnVector) (attr : JoinedAttribute) (values_ : WordMemory 8)
    (bits : BitVector false columnVector.length) :
    Exec (NativeColumnVector op.resultType columnVector.length) :=
  (List.range columnVector.length).foldlM (fun result pos =>
      op.applyToBoth columnVectorOnLeft result
        (columnVector.getUntypedValue (op.nullableOn columnVectorOnLeft) pos)
        (do
          let joinedPair ← readAt joinedTupleIds pos
          pure ((join.valueAt attr joinedPair).untyped (op.nullableOn (!columnVectorOnLeft)))))
    (op.newResult values_ bits)

def applyToColumnVectorAndValueAccessorForJoin (left : ColumnVector) (right : JoinedAttribute) :=
  op.applyToColumnVectorAndValueAccessorForJoinHelper join joinedTupleIds true left right

def applyToValueAccessorAndColumnVectorForJoin (left : JoinedAttribute) (right : ColumnVector) :=
  op.applyToColumnVectorAndValueAccessorForJoinHelper join joinedTupleIds false right left

def applyToValueAccessorsForJoin (left right : JoinedAttribute) (values_ : WordMemory 8)
    (bits : BitVector false joinedTupleIds.length) :
    Exec (NativeColumnVector op.resultType joinedTupleIds.length) :=
  joinedTupleIds.foldlM (fun result joinedPair =>
      op.applyToBoth true result (.ok ((join.valueAt left joinedPair).untyped op.leftNullable))
        (.ok ((join.valueAt right joinedPair).untyped op.rightNullable)))
    (op.newResult values_ bits)

end Joins

/-! ## All entry points -/

/-- A call of an entry point. -/
inductive Call where
  | columnVectors (left right : ColumnVector)
  | columnVectorAndStaticValue (left : ColumnVector) (right : TypedValue)
  | staticValueAndColumnVector (left : TypedValue) (right : ColumnVector)
  | singleValueAccessor {n : Nat} (accessor : ValueAccessor n) (leftId rightId : Nat)
  | valueAccessorAndStaticValue {n : Nat} (leftAccessor : ValueAccessor n) (leftId : Nat)
      (right : TypedValue)
  | staticValueAndValueAccessor {n : Nat} (left : TypedValue) (rightAccessor : ValueAccessor n)
      (rightId : Nat)
  | columnVectorAndValueAccessor {n : Nat} (left : ColumnVector) (rightAccessor : ValueAccessor n)
      (rightId : Nat)
  | valueAccessorAndColumnVector {n : Nat} (leftAccessor : ValueAccessor n) (leftId : Nat)
      (right : ColumnVector)
  | valueAccessorAndStaticValueForJoin {n m : Nat} (join : JoinSides n m) (left : JoinedAttribute)
      (right : TypedValue) (joinedTupleIds : JoinedTupleIds n m)
  | staticValueAndValueAccessorForJoin {n m : Nat} (join : JoinSides n m) (left : TypedValue)
      (right : JoinedAttribute) (joinedTupleIds : JoinedTupleIds n m)
  | columnVectorAndValueAccessorForJoin {n m : Nat} (join : JoinSides n m) (left : ColumnVector)
      (right : JoinedAttribute) (joinedTupleIds : JoinedTupleIds n m)
  | valueAccessorAndColumnVectorForJoin {n m : Nat} (join : JoinSides n m) (left : JoinedAttribute)
      (right : ColumnVector) (joinedTupleIds : JoinedTupleIds n m)
  | valueAccessorsForJoin {n m : Nat} (join : JoinSides n m) (left right : JoinedAttribute)
      (joinedTupleIds : JoinedTupleIds n m)

namespace Call

/-- The left and the right value at each position. -/
def positions : Call → List (TypedValue × TypedValue)
  | columnVectors left right => left.zip right
  | columnVectorAndStaticValue left right => left.map fun value => (value, right)
  | staticValueAndColumnVector left right => right.map fun value => (left, value)
  | singleValueAccessor accessor leftId rightId =>
    accessor.positions.map fun tid => (accessor.getTypedValueAtAbsolutePosition leftId tid,
      accessor.getTypedValueAtAbsolutePosition rightId tid)
  | valueAccessorAndStaticValue leftAccessor leftId right =>
    (leftAccessor.column leftId).map fun value => (value, right)
  | staticValueAndValueAccessor left rightAccessor rightId =>
    (rightAccessor.column rightId).map fun value => (left, value)
  | columnVectorAndValueAccessor left rightAccessor rightId => left.zip (rightAccessor.column rightId)
  | valueAccessorAndColumnVector leftAccessor leftId right => (leftAccessor.column leftId).zip right
  | valueAccessorAndStaticValueForJoin join left right joinedTupleIds =>
    joinedTupleIds.map fun pair => (join.valueAt left pair, right)
  | staticValueAndValueAccessorForJoin join left right joinedTupleIds =>
    joinedTupleIds.map fun pair => (left, join.valueAt right pair)
  | columnVectorAndValueAccessorForJoin join left right joinedTupleIds =>
    left.zip (join.column right joinedTupleIds)
  | valueAccessorAndColumnVectorForJoin join left right joinedTupleIds =>
    (join.column left joinedTupleIds).zip right
  | valueAccessorsForJoin join left right joinedTupleIds =>
    joinedTupleIds.map fun pair => (join.valueAt left pair, join.valueAt right pair)

/-- The checks that the arguments have one size. -/
def SameSize : Call → Prop
  | columnVectors left right => left.length = right.length
  | columnVectorAndValueAccessor left rightAccessor _ => left.length = rightAccessor.getNumTuples
  | valueAccessorAndColumnVector leftAccessor _ right => right.length = leftAccessor.getNumTuples
  | columnVectorAndValueAccessorForJoin _ left _ joinedTupleIds => left.length = joinedTupleIds.length
  | valueAccessorAndColumnVectorForJoin _ _ right joinedTupleIds => right.length = joinedTupleIds.length
  | columnVectorAndStaticValue _ _ | staticValueAndColumnVector _ _ | singleValueAccessor _ _ _
  | valueAccessorAndStaticValue _ _ _ | staticValueAndValueAccessor _ _ _
  | valueAccessorAndStaticValueForJoin _ _ _ _ | staticValueAndValueAccessorForJoin _ _ _ _
  | valueAccessorsForJoin _ _ _ _ => True

/-- The length that is reserved for the results. -/
def reservedLength : Call → Nat
  | columnVectors left _ | columnVectorAndStaticValue left _ | columnVectorAndValueAccessor left _ _
  | columnVectorAndValueAccessorForJoin _ left _ _ => left.length
  | staticValueAndColumnVector _ right | valueAccessorAndColumnVector _ _ right
  | valueAccessorAndColumnVectorForJoin _ _ right _ => right.length
  | singleValueAccessor accessor _ _ | valueAccessorAndStaticValue accessor _ _
  | staticValueAndValueAccessor _ accessor _ => accessor.getNumTuples
  | valueAccessorAndStaticValueForJoin _ _ _ joinedTupleIds
  | staticValueAndValueAccessorForJoin _ _ _ joinedTupleIds
  | valueAccessorsForJoin _ _ _ joinedTupleIds => joinedTupleIds.length

def run (op : ArithmeticUncheckedBinaryOperator) :
    (call : Call) → WordMemory 8 → BitVector false call.reservedLength →
      Exec (NativeColumnVector op.resultType call.reservedLength)
  | columnVectors left right => op.applyToColumnVectors left right
  | columnVectorAndStaticValue left right => op.applyToColumnVectorAndStaticValue left right
  | staticValueAndColumnVector left right => op.applyToStaticValueAndColumnVector left right
  | singleValueAccessor accessor leftId rightId => op.applyToSingleValueAccessor accessor leftId rightId
  | valueAccessorAndStaticValue leftAccessor leftId right =>
    op.applyToValueAccessorAndStaticValue leftAccessor leftId right
  | staticValueAndValueAccessor left rightAccessor rightId =>
    op.applyToStaticValueAndValueAccessor left rightAccessor rightId
  | columnVectorAndValueAccessor left rightAccessor rightId =>
    op.applyToColumnVectorAndValueAccessor left rightAccessor rightId
  | valueAccessorAndColumnVector leftAccessor leftId right =>
    op.applyToValueAccessorAndColumnVector leftAccessor leftId right
  | valueAccessorAndStaticValueForJoin join left right joinedTupleIds =>
    op.applyToValueAccessorAndStaticValueForJoin join joinedTupleIds left right
  | staticValueAndValueAccessorForJoin join left right joinedTupleIds =>
    op.applyToStaticValueAndValueAccessorForJoin join joinedTupleIds left right
  | columnVectorAndValueAccessorForJoin join left right joinedTupleIds =>
    op.applyToColumnVectorAndValueAccessorForJoin join joinedTupleIds left right
  | valueAccessorAndColumnVectorForJoin join left right joinedTupleIds =>
    op.applyToValueAccessorAndColumnVectorForJoin join joinedTupleIds left right
  | valueAccessorsForJoin join left right joinedTupleIds =>
    op.applyToValueAccessorsForJoin join joinedTupleIds left right

end Call

/-- One accumulating call. -/
def accumulate (op : ArithmeticUncheckedBinaryOperator) (current : TypedValue) :
    Batch → Option (Exec (TypedValue × Nat))
  | .columnVector columnVector => op.accumulateColumnVector current columnVector
  | .valueAccessor accessor valueAccessorId => op.accumulateValueAccessor current accessor valueAccessorId

/-! ## What they return -/

section Exactness

variable {op : ArithmeticUncheckedBinaryOperator} {leftType rightType : DataType} {n m : Nat}
  {join : JoinSides n m} {joinedTupleIds : JoinedTupleIds n m}

theorem SuitsTypes.applyToValueAccessorAndStaticValueForJoinHelper_exactly
    (suits : op.SuitsTypes leftType rightType) (valueAccessorOnLeft : Bool) {attr : JoinedAttribute}
    {staticValue : TypedValue}
    (takes : ∀ pair ∈ joinedTupleIds,
      op.Takes (valueOn valueAccessorOnLeft (join.valueAt attr pair) staticValue)
        (valueOn (!valueAccessorOnLeft) (join.valueAt attr pair) staticValue))
    (values_ : WordMemory 8) (bits : BitVector false joinedTupleIds.length) :
    NativeColumnVector.Exactly
      (op.applyToValueAccessorAndStaticValueForJoinHelper join joinedTupleIds valueAccessorOnLeft attr
        staticValue values_ bits)
      (joinedTupleIds.map fun pair =>
        op.applyToTypedValues (valueOn valueAccessorOnLeft (join.valueAt attr pair) staticValue)
          (valueOn (!valueAccessorOnLeft) (join.valueAt attr pair) staticValue)) := by
  apply suits.withStaticValue_exactly valueAccessorOnLeft takes (fun _ => rfl)
  · intro pair mem result
    rfl
  · rfl

theorem SuitsTypes.applyToColumnVectorAndValueAccessorForJoinHelper_exactly
    (suits : op.SuitsTypes leftType rightType) (columnVectorOnLeft : Bool) {columnVector : ColumnVector}
    {attr : JoinedAttribute} (sameSize : columnVector.length = joinedTupleIds.length)
    (takes : ∀ pair ∈ columnVector.zip (join.column attr joinedTupleIds),
      op.Takes (valueOn columnVectorOnLeft pair.1 pair.2) (valueOn (!columnVectorOnLeft) pair.1 pair.2))
    (values_ : WordMemory 8) (bits : BitVector false columnVector.length) :
    NativeColumnVector.Exactly
      (op.applyToColumnVectorAndValueAccessorForJoinHelper join joinedTupleIds columnVectorOnLeft
        columnVector attr values_ bits)
      ((columnVector.zip (join.column attr joinedTupleIds)).map fun pair =>
        op.applyToTypedValues (valueOn columnVectorOnLeft pair.1 pair.2)
          (valueOn (!columnVectorOnLeft) pair.1 pair.2)) := by
  have length : columnVector.length = (join.column attr joinedTupleIds).length := by
    unfold JoinSides.column
    rw [List.length_map, sameSize]
  rw [← map_range_getD_zip columnVector (join.column attr joinedTupleIds) length fun first second =>
    op.applyToTypedValues (valueOn columnVectorOnLeft first second)
      (valueOn (!columnVectorOnLeft) first second)]
  apply suits.loop_exactly
  · intro pos mem result
    have inside := List.mem_range.mp mem
    have within : pos < joinedTupleIds.length := inside.trans_eq sameSize
    have joined : (join.column attr joinedTupleIds).getD pos default =
        join.valueAt attr joinedTupleIds[pos] := by
      unfold JoinSides.column
      simp [within]
    rw [getUntypedValue_of_lt inside, readAt_of_lt within, joined]
    have taken := takes _ (getD_mem_zip length inside)
    rw [joined] at taken
    have applied := @applyToBoth_eq op _ _ _ result columnVectorOnLeft taken
    cases columnVectorOnLeft with
    | true => exact applied
    | false => exact applied
  · simp

theorem SuitsTypes.applyToValueAccessorsForJoin_exactly (suits : op.SuitsTypes leftType rightType)
    {left right : JoinedAttribute}
    (takes : ∀ pair ∈ joinedTupleIds, op.Takes (join.valueAt left pair) (join.valueAt right pair))
    (values_ : WordMemory 8) (bits : BitVector false joinedTupleIds.length) :
    NativeColumnVector.Exactly
      (op.applyToValueAccessorsForJoin join joinedTupleIds left right values_ bits)
      (joinedTupleIds.map fun pair =>
        op.applyToTypedValues (join.valueAt left pair) (join.valueAt right pair)) := by
  apply suits.loop_exactly
  · intro pair mem result
    exact applyToBoth_eq true (takes pair mem)
  · rfl

/-- **Every entry point** returns one value for each position. -/
theorem SuitsTypes.run_exactly (suits : op.SuitsTypes leftType rightType) (call : Call)
    (sameSize : call.SameSize)
    (takes : ∀ pair ∈ call.positions, op.Takes pair.1 pair.2) (values_ : WordMemory 8)
    (bits : BitVector false call.reservedLength) :
    NativeColumnVector.Exactly (call.run op values_ bits)
      (call.positions.map fun pair => op.applyToTypedValues pair.1 pair.2) := by
  cases call with
  | columnVectors left right => exact suits.applyToColumnVectors_exactly sameSize takes values_ bits
  | columnVectorAndStaticValue left right =>
    have takes := List.forall_mem_map.mp takes
    rw [Call.positions, List.map_map]
    exact suits.applyToColumnVectorAndStaticValueHelper_exactly true takes values_ bits
  | staticValueAndColumnVector left right =>
    have takes := List.forall_mem_map.mp takes
    rw [Call.positions, List.map_map]
    exact suits.applyToColumnVectorAndStaticValueHelper_exactly false takes values_ bits
  | singleValueAccessor accessor leftId rightId =>
    have takes := List.forall_mem_map.mp takes
    rw [Call.positions, List.map_map]
    exact suits.applyToSingleValueAccessor_exactly takes values_ bits
  | valueAccessorAndStaticValue leftAccessor leftId right =>
    have takes := List.forall_mem_map.mp takes
    rw [Call.positions, List.map_map]
    exact suits.applyToValueAccessorAndStaticValueHelper_exactly true takes values_ bits
  | staticValueAndValueAccessor left rightAccessor rightId =>
    have takes := List.forall_mem_map.mp takes
    rw [Call.positions, List.map_map]
    exact suits.applyToValueAccessorAndStaticValueHelper_exactly false takes values_ bits
  | columnVectorAndValueAccessor left rightAccessor rightId =>
    exact suits.applyToColumnVectorAndValueAccessorHelper_exactly true sameSize takes values_ bits
  | valueAccessorAndColumnVector leftAccessor leftId right =>
    rw [Call.positions, ← List.zip_swap] at takes ⊢
    have takes := List.forall_mem_map.mp takes
    rw [List.map_map]
    exact suits.applyToColumnVectorAndValueAccessorHelper_exactly false sameSize takes values_ bits
  | valueAccessorAndStaticValueForJoin join left right joinedTupleIds =>
    have takes := List.forall_mem_map.mp takes
    rw [Call.positions, List.map_map]
    exact suits.applyToValueAccessorAndStaticValueForJoinHelper_exactly true takes values_ bits
  | staticValueAndValueAccessorForJoin join left right joinedTupleIds =>
    have takes := List.forall_mem_map.mp takes
    rw [Call.positions, List.map_map]
    exact suits.applyToValueAccessorAndStaticValueForJoinHelper_exactly false takes values_ bits
  | columnVectorAndValueAccessorForJoin join left right joinedTupleIds =>
    exact suits.applyToColumnVectorAndValueAccessorForJoinHelper_exactly true sameSize takes values_ bits
  | valueAccessorAndColumnVectorForJoin join left right joinedTupleIds =>
    rw [Call.positions, ← List.zip_swap] at takes ⊢
    have takes := List.forall_mem_map.mp takes
    rw [List.map_map]
    exact suits.applyToColumnVectorAndValueAccessorForJoinHelper_exactly false sameSize takes values_ bits
  | valueAccessorsForJoin join left right joinedTupleIds =>
    have takes := List.forall_mem_map.mp takes
    rw [Call.positions, List.map_map]
    exact suits.applyToValueAccessorsForJoin_exactly takes values_ bits

/-- **Every accumulating call** folds the operator over the values that are not NULL. -/
theorem SuitsTypes.accumulate_eq (suits : op.SuitsTypes leftType rightType)
    (same : op.leftCppType = op.resultCppType) {current : TypedValue} (admits : leftType.Admits current)
    {batch : Batch} (batchAdmits : ∀ value ∈ batch.values, rightType.Admits value) :
    op.accumulate current batch = some (.ok
      ((nonNullValues batch.values).foldl op.applyToTypedValues current,
        if current.isNull then 0 else (nonNullValues batch.values).length)) := by
  have nullable : ∀ value ∈ batch.values, value.isNull = true → op.rightNullable = true :=
    fun value mem null => suits.rightNullable.trans ((batchAdmits value mem).nullable null)
  cases batch with
  | columnVector columnVector =>
    refine (dif_pos same).trans (congrArg some (suits.accumulateWith_eq same admits ?_))
    intro accumulated
    have asRange : (List.range columnVector.length).map (fun pos => columnVector.getD pos default) =
        columnVector := by
      apply List.ext_getElem
      · simp
      · intro pos within within'
        simp [within']
    have loop := @SuitsTypes.accumulate_loop op leftType rightType same Nat
      (List.range columnVector.length) (fun pos => columnVector.getD pos default) suits
      (fun accumulated pos => do
        let value ← columnVector.getUntypedValue op.rightNullable pos
        op.accumulateValue same accumulated value)
      (by
        intro pos mem
        have inside := List.mem_range.mp mem
        apply nullable
        simp [inside, Batch.values])
      (by
        intro pos mem accumulated
        rw [getUntypedValue_of_lt (List.mem_range.mp mem)]
        rfl)
      accumulated
    rw [asRange] at loop
    exact loop
  | valueAccessor accessor valueAccessorId =>
    refine (dif_pos same).trans (congrArg some (suits.accumulateWith_eq same admits ?_))
    intro accumulated
    apply suits.accumulate_loop
    · intro tid mem
      exact nullable _ (List.mem_map_of_mem mem)
    · exact fun _ _ _ => rfl

theorem typeId_injective {left right : CppType} (same : left.typeId = right.typeId) : left = right := by
  rcases left with (_ | _ | _ | _) | _ | _ | _ <;> rcases right with (_ | _ | _ | _) | _ | _ | _ <;>
    first | rfl | cases same

/-- What holds of the operator for two types: its entry points return what `applyToTypedValues` returns at
each position, which is NULL for a NULL only and what the checked form returns. Accumulating calls are for
operators whose left argument has the type of the result; a NULL at the start is returned at once. -/
structure Exact (platform : Platform) (operation : BinaryOperation) (left right : DataType)
    (op : ArithmeticUncheckedBinaryOperator) : Prop where
  made : operation.makeUncheckedBinaryOperatorForTypes platform left right = some op.unchecked
  announced : operation.resultTypeForArgumentTypes left right = some op.resultType
  loops : ∀ call : Call, call.SameSize →
    (∀ pair ∈ call.positions, left.Admits pair.1 ∧ right.Admits pair.2) → ∀ values_ bits,
      NativeColumnVector.Exactly (call.run op values_ bits)
        (call.positions.map fun pair => op.applyToTypedValues pair.1 pair.2)
  nulls : ∀ leftValue rightValue, left.Admits leftValue → right.Admits rightValue →
    ((op.applyToTypedValues leftValue rightValue).isNull = true ↔
      leftValue.isNull = true ∨ rightValue.isNull = true)
  checked : ∀ leftValue rightValue, left.Admits leftValue → right.Admits rightValue →
    operation.applyToChecked platform leftValue left rightValue right =
      some (op.applyToTypedValues leftValue rightValue)
  accumulates : ∀ current batch, left.Admits current → (∀ value ∈ batch.values, right.Admits value) →
    op.accumulate current batch =
      if left.getTypeID = op.resultType.getTypeID then
        some (.ok ((nonNullValues batch.values).foldl op.applyToTypedValues current,
          if current.isNull then 0 else (nonNullValues batch.values).length))
      else none

theorem SuitsTypes.nulls (suits : op.SuitsTypes leftType rightType) {left right : TypedValue}
    (leftAdmits : leftType.Admits left) (rightAdmits : rightType.Admits right) :
    (op.applyToTypedValues left right).isNull = true ↔ left.isNull = true ∨ right.isNull = true := by
  rw [suits.applyToTypedValues_eq leftAdmits rightAdmits, ← Bool.or_eq_true_iff]
  split
  · next null => exact iff_of_true rfl null
  · next notNull => simpa using notNull

theorem SuitsTypes.accumulate_eq_none (suits : op.SuitsTypes leftType rightType)
    (other : leftType.getTypeID ≠ op.resultType.getTypeID) (current : TypedValue) (batch : Batch) :
    op.accumulate current batch = none := by
  have other : op.leftCppType ≠ op.resultCppType := by
    intro same
    rw [getTypeID_resultType, ← suits.left, same] at other
    exact other rfl
  cases batch with
  | columnVector columnVector => exact dif_neg other
  | valueAccessor accessor valueAccessorId => exact dif_neg other

end Exactness

/-- **The arithmetic operators** on integers, datetimes and intervals. -/
theorem arithmeticOperators_exact (platform : Platform) (operation : BinaryOperation)
    {left right : DataType} (leftExact : left.isExact = true) (rightExact : right.isExact = true)
    (can : operation.canApplyToTypes left right = true) :
    ∃ op, operation.arithmeticOperator platform left right = some op ∧
      Exact platform operation left right op := by
  obtain ⟨op, instantiated, suits⟩ :=
    operation.arithmeticOperator_suits platform leftExact rightExact can
  refine ⟨op, instantiated, ?_, ?_, ?_, ?_, ?_, ?_⟩
  · rw [BinaryOperation.makeUncheckedBinaryOperatorForTypes_eq, instantiated]
    rfl
  · exact BinaryOperation.resultType_eq leftExact rightExact instantiated
  · intro call sameSize admits values_ bits
    apply suits.run_exactly call sameSize
    intro pair mem
    exact suits.takes (admits pair mem).1 (admits pair mem).2
  · intro leftValue rightValue leftAdmits rightAdmits
    exact suits.nulls leftAdmits rightAdmits
  · intro leftValue rightValue leftAdmits rightAdmits
    exact applyToChecked_eq operation leftExact rightExact instantiated suits leftAdmits rightAdmits
  · intro current batch admits batchAdmits
    split
    · next same =>
      rw [getTypeID_resultType, ← suits.left] at same
      exact suits.accumulate_eq (typeId_injective same) admits batchAdmits
    · next other => exact suits.accumulate_eq_none other current batch

theorem arithmeticOperators_exact_difference :
    ∃ op, BinaryOperation.subtract.arithmeticOperator integerPlatform (.datetime true)
        (.yearMonthInterval false) = some op ∧
      Exact integerPlatform .subtract (.datetime true) (.yearMonthInterval false) op :=
  arithmeticOperators_exact integerPlatform .subtract rfl rfl rfl

/-- A NULL at the start: none of the values counts. -/
theorem not_accumulates_nullSum :
    ¬ ∀ (platform : Platform) (operation : BinaryOperation) (left right : DataType)
      (op : ArithmeticUncheckedBinaryOperator), left.isExact = true → right.isExact = true →
        operation.canApplyToTypes left right = true →
          operation.arithmeticOperator platform left right = some op →
            ∀ current batch, left.Admits current → (∀ value ∈ batch.values, right.Admits value) →
              op.accumulate current batch =
                some (.ok ((nonNullValues batch.values).foldl op.applyToTypedValues current,
                  (nonNullValues batch.values).length)) := by
  intro always
  obtain ⟨op, instantiated, -⟩ :=
    @BinaryOperation.arithmeticOperator_suits integerPlatform .add (.int true) (.int false) rfl rfl rfl
  have counted := always integerPlatform .add (.int true) (.int false) op rfl rfl rfl instantiated
    (.null .int) (.columnVector [.int 1]) ⟨rfl, fun _ => rfl⟩ (by
      intro value mem
      rcases List.mem_singleton.mp mem with rfl
      exact ⟨rfl, nofun⟩)
  cases instantiated
  have none : (0 : Nat) = 1 := congrArg Prod.snd (Except.ok.inj (Option.some.inj counted))
  exact absurd none (by decide)

end ArithmeticUncheckedBinaryOperator

end Quickstep.Types
