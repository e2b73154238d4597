import Quickstep.Types.Accumulation
import Quickstep.Types.BinaryOperations
import Quickstep.Types.LiteralWrites

/-!
# Arithmetic operators

The class template `ArithmeticUncheckedBinaryOperator`: its entry points, the helpers whose template
flags tell on which side an argument stands, and the column vectors that they fill. Of the arguments the
loops take pointers to the values.
-/

namespace Quickstep.Types
open Quickstep.Lib Quickstep.Utility

/-- The conversion that C++ makes on its own. `none` where there is none. -/
def CppType.implicitConversion (platform : Platform) :
    (source target : CppType) → Option (source.Value → target.Value)
  | .number source, .number target => some (staticCast platform source target)
  | .datetimeLit, .datetimeLit => some id
  | .datetimeIntervalLit, .datetimeIntervalLit => some id
  | .yearMonthIntervalLit, .yearMonthIntervalLit => some id
  | _, _ => none

/-- `Instance` of the type class with a `cpptype`. -/
def CppType.typeInstance : CppType → Bool → DataType
  | .number type => type.type
  | .datetimeLit => .datetime
  | .datetimeIntervalLit => .datetimeInterval
  | .yearMonthIntervalLit => .yearMonthInterval

/-- An instance of the class template. -/
structure ArithmeticUncheckedBinaryOperator where
  leftCppType : CppType
  rightCppType : CppType
  /-- The `cpptype` of the result type. -/
  resultCppType : CppType
  leftNullable : Bool
  rightNullable : Bool
  opFunctor : BinaryFunctor leftCppType rightCppType
  /-- What the functor returns is converted to the `cpptype` of the result type. -/
  toResult : opFunctor.result.Value → resultCppType.Value

namespace ArithmeticUncheckedBinaryOperator

variable (op : ArithmeticUncheckedBinaryOperator)

def applyToTypedValues (left right : TypedValue) : TypedValue :=
  if (op.leftNullable && left.isNull) || (op.rightNullable && right.isNull) then
    .null op.resultCppType.typeId
  else
    .ofLiteral op.opFunctor.result
      (op.opFunctor.apply (left.getLiteral op.leftCppType) (right.getLiteral op.rightCppType))

/-- The type of the column vectors returned. -/
def resultType : DataType := op.resultCppType.typeInstance (op.leftNullable || op.rightNullable)

/-- Whether the argument on one side, or the other one, is nullable. -/
def nullableOn (left : Bool) : Bool := if left then op.leftNullable else op.rightNullable

def castAndApply (argumentsInOrder : Bool) (left right : DataPtr) : Exec op.resultCppType.Value := do
  let leftArgument ← (if argumentsInOrder then left else right).deref
  let rightArgument ← (if argumentsInOrder then right else left).deref
  pure (op.toResult (op.opFunctor.apply (leftArgument.getLiteral op.leftCppType)
    (rightArgument.getLiteral op.rightCppType)))

section Loops

variable {reserved_length_ : Nat}

/-- The column vector for the results, in memory with arbitrary contents. -/
def newResult (values_ : WordMemory 8) (bits : BitVector false reserved_length_) :
    NativeColumnVector op.resultType reserved_length_ := .create _ _ values_ bits

/-- A result written through `getPtrForDirectWrite`. -/
def appendResult (result : NativeColumnVector op.resultType reserved_length_)
    (value : op.resultCppType.Value) : Exec (NativeColumnVector op.resultType reserved_length_) :=
  result.appendChecked (.directWrite (op.resultCppType.bytes value))

/-- The body of the loops over one value for each position, next to a literal. -/
def applyNextToLiteral (valueOnLeft : Bool) (literal : TypedValue)
    (result : NativeColumnVector op.resultType reserved_length_) (value : DataPtr) :
    Exec (NativeColumnVector op.resultType reserved_length_) :=
  if op.nullableOn valueOnLeft && value.isNone then result.appendChecked .null
  else do
    let applied ← op.castAndApply valueOnLeft value (some literal)
    op.appendResult result applied

/-- The body of the loops over two values for each position. The second one is only looked at where the
first one is not NULL. -/
def applyToBoth (firstOnLeft : Bool) (result : NativeColumnVector op.resultType reserved_length_)
    (first second : Exec DataPtr) : Exec (NativeColumnVector op.resultType reserved_length_) := do
  let firstValue ← first
  if op.nullableOn firstOnLeft && firstValue.isNone then result.appendChecked .null
  else do
    let secondValue ← second
    if op.nullableOn (!firstOnLeft) && secondValue.isNone then result.appendChecked .null
    else do
      let applied ← op.castAndApply firstOnLeft firstValue secondValue
      op.appendResult result applied

/-- What the helpers with a static value do before their loop. -/
def withStaticValue (valuesOnLeft : Bool) (staticValue : TypedValue)
    (loop : NativeColumnVector op.resultType reserved_length_ →
      Exec (NativeColumnVector op.resultType reserved_length_))
    (values_ : WordMemory 8) (bits : BitVector false reserved_length_) :
    Exec (NativeColumnVector op.resultType reserved_length_) :=
  if op.nullableOn (!valuesOnLeft) && staticValue.isNull then
    .ok (op.newResult values_ bits).fillWithNulls
  else loop (op.newResult values_ bits)

end Loops

/-! ## Column vectors -/

def applyToColumnVectors (left right : ColumnVector) (values_ : WordMemory 8)
    (bits : BitVector false left.length) : Exec (NativeColumnVector op.resultType left.length) :=
  (List.range left.length).foldlM (fun result pos =>
      op.applyToBoth true result (left.getUntypedValue op.leftNullable pos)
        (right.getUntypedValue op.rightNullable pos))
    (op.newResult values_ bits)

def applyToColumnVectorAndStaticValueHelper (columnVectorOnLeft : Bool) (columnVector : ColumnVector)
    (staticValue : TypedValue) (values_ : WordMemory 8) (bits : BitVector false columnVector.length) :
    Exec (NativeColumnVector op.resultType columnVector.length) :=
  op.withStaticValue columnVectorOnLeft staticValue
    (fun result => (List.range columnVector.length).foldlM (fun result pos => do
      let value ← columnVector.getUntypedValue (op.nullableOn columnVectorOnLeft) pos
      op.applyNextToLiteral columnVectorOnLeft staticValue result value) result)
    values_ bits

def applyToColumnVectorAndStaticValue (left : ColumnVector) (right : TypedValue) :=
  op.applyToColumnVectorAndStaticValueHelper true left right

def applyToStaticValueAndColumnVector (left : TypedValue) (right : ColumnVector) :=
  op.applyToColumnVectorAndStaticValueHelper false right left

/-! ## Accessors -/

section Accessors

variable {n : Nat}

def applyToSingleValueAccessor (accessor : ValueAccessor n) (leftId rightId : Nat)
    (values_ : WordMemory 8) (bits : BitVector false accessor.getNumTuples) :
    Exec (NativeColumnVector op.resultType accessor.getNumTuples) :=
  accessor.positions.foldlM (fun result tid =>
      op.applyToBoth true result
        (.ok (accessor.getUntypedValueAtAbsolutePosition op.leftNullable leftId tid))
        (.ok (accessor.getUntypedValueAtAbsolutePosition op.rightNullable rightId tid)))
    (op.newResult values_ bits)

def applyToValueAccessorAndStaticValueHelper (valueAccessorOnLeft : Bool) (valueAccessor : ValueAccessor n)
    (valueAccessorAttrId : Nat) (staticValue : TypedValue) (values_ : WordMemory 8)
    (bits : BitVector false valueAccessor.getNumTuples) :
    Exec (NativeColumnVector op.resultType valueAccessor.getNumTuples) :=
  op.withStaticValue valueAccessorOnLeft staticValue
    (fun result => valueAccessor.positions.foldlM (fun result tid =>
      op.applyNextToLiteral valueAccessorOnLeft staticValue result
        (valueAccessor.getUntypedValueAtAbsolutePosition (op.nullableOn valueAccessorOnLeft)
          valueAccessorAttrId tid)) result)
    values_ bits

def applyToValueAccessorAndStaticValue (leftAccessor : ValueAccessor n) (leftId : Nat)
    (right : TypedValue) :=
  op.applyToValueAccessorAndStaticValueHelper true leftAccessor leftId right

def applyToStaticValueAndValueAccessor (left : TypedValue) (rightAccessor : ValueAccessor n)
    (rightId : Nat) :=
  op.applyToValueAccessorAndStaticValueHelper false rightAccessor rightId left

/-- The loop counts the position in the column vector next to the tuples of the accessor. -/
def applyToColumnVectorAndValueAccessorHelper (columnVectorOnLeft : Bool) (columnVector : ColumnVector)
    (valueAccessor : ValueAccessor n) (valueAccessorAttrId : Nat) (values_ : WordMemory 8)
    (bits : BitVector false columnVector.length) :
    Exec (NativeColumnVector op.resultType columnVector.length) :=
  valueAccessor.positions.zipIdx.foldlM (fun result entry =>
      op.applyToBoth columnVectorOnLeft result
        (columnVector.getUntypedValue (op.nullableOn columnVectorOnLeft) entry.2)
        (.ok (valueAccessor.getUntypedValueAtAbsolutePosition (op.nullableOn (!columnVectorOnLeft))
          valueAccessorAttrId entry.1)))
    (op.newResult values_ bits)

def applyToColumnVectorAndValueAccessor (left : ColumnVector) (rightAccessor : ValueAccessor n)
    (rightId : Nat) :=
  op.applyToColumnVectorAndValueAccessorHelper true left rightAccessor rightId

def applyToValueAccessorAndColumnVector (leftAccessor : ValueAccessor n) (leftId : Nat)
    (right : ColumnVector) :=
  op.applyToColumnVectorAndValueAccessorHelper false right leftAccessor leftId

end Accessors

/-! ## Accumulating -/

section Accumulate

variable (same : op.leftCppType = op.resultCppType)

/-- The body of the loops. -/
def accumulateValue (accumulated : op.leftCppType.Value × Nat) (value : DataPtr) :
    Exec (op.leftCppType.Value × Nat) :=
  if (op.rightNullable && value.isSome) || !op.rightNullable then do
    let argument ← value.deref
    let applied := op.opFunctor.apply accumulated.1 (argument.getLiteral op.rightCppType)
    pure (same ▸ op.toResult applied, accumulated.2 + 1)
  else pure accumulated

/-- What both helpers do around their loop. -/
def accumulateWith (current : TypedValue)
    (loop : op.leftCppType.Value × Nat → Exec (op.leftCppType.Value × Nat)) :
    Exec (TypedValue × Nat) :=
  if op.leftNullable && current.isNull then
    .ok ((op.resultCppType.typeInstance op.leftNullable).makeNullValue, 0)
  else do
    let accumulated ← loop (current.getLiteral op.leftCppType, 0)
    pure (.ofLiteral op.leftCppType accumulated.1, accumulated.2)

def accumulateColumnVectorHelper (current : TypedValue) (columnVector : ColumnVector) :
    Exec (TypedValue × Nat) :=
  op.accumulateWith current fun accumulated =>
    (List.range columnVector.length).foldlM (fun accumulated pos => do
      let value ← columnVector.getUntypedValue op.rightNullable pos
      op.accumulateValue same accumulated value) accumulated

def accumulateValueAccessorHelper (current : TypedValue) {n : Nat} (accessor : ValueAccessor n)
    (valueAccessorId : Nat) : Exec (TypedValue × Nat) :=
  op.accumulateWith current fun accumulated =>
    accessor.positions.foldlM (fun accumulated tid =>
      op.accumulateValue same accumulated
        (accessor.getUntypedValueAtAbsolutePosition op.rightNullable valueAccessorId tid)) accumulated

end Accumulate

/-- The value accumulated, and `num_tuples_applied`. `none` where the source ends the program, because
the left type is not that of the results. -/
def accumulateColumnVector (current : TypedValue) (columnVector : ColumnVector) :
    Option (Exec (TypedValue × Nat)) :=
  if same : op.leftCppType = op.resultCppType then
    some (op.accumulateColumnVectorHelper same current columnVector)
  else none

def accumulateValueAccessor (current : TypedValue) {n : Nat} (accessor : ValueAccessor n)
    (valueAccessorId : Nat) : Option (Exec (TypedValue × Nat)) :=
  if same : op.leftCppType = op.resultCppType then
    some (op.accumulateValueAccessorHelper same current accessor valueAccessorId)
  else none

/-- The entry points on values and on lists of them, where the column loops read back what they wrote. -/
def unchecked : UncheckedBinaryOperator :=
  arithmeticUncheckedBinaryOperator op.opFunctor op.resultCppType op.leftNullable op.rightNullable
    fun result => .ofLiteral op.resultCppType (op.toResult result)

end ArithmeticUncheckedBinaryOperator

/-! ## Instances -/

namespace BinaryOperation

/-- The template arguments that `makeUncheckedBinaryOperatorForTypes` gives: the C++ types of the results
and of the arguments. -/
def templateArguments (operation : BinaryOperation) (left right : DataType) :
    Option (CppType × CppType × CppType) :=
  match left.numericType?, right.numericType? with
  | some leftType, some rightType =>
    some (.number (numericTypeUnifier leftType rightType), .number leftType, .number rightType)
  | some leftType, none =>
    match operation, right.getTypeID with
    | .multiply, .datetimeInterval =>
      some (.datetimeIntervalLit, .number leftType, .datetimeIntervalLit)
    | .multiply, .yearMonthInterval =>
      some (.yearMonthIntervalLit, .number leftType, .yearMonthIntervalLit)
    | _, _ => none
  | none, some rightType =>
    match operation, left.getTypeID with
    | .multiply, .datetimeInterval | .divide, .datetimeInterval =>
      some (.datetimeIntervalLit, .datetimeIntervalLit, .number rightType)
    | .multiply, .yearMonthInterval | .divide, .yearMonthInterval =>
      some (.yearMonthIntervalLit, .yearMonthIntervalLit, .number rightType)
    | _, _ => none
  | none, none =>
    match operation, left.getTypeID, right.getTypeID with
    | .add, .datetime, .datetimeInterval | .subtract, .datetime, .datetimeInterval =>
      some (.datetimeLit, .datetimeLit, .datetimeIntervalLit)
    | .add, .datetime, .yearMonthInterval | .subtract, .datetime, .yearMonthInterval =>
      some (.datetimeLit, .datetimeLit, .yearMonthIntervalLit)
    | .add, .datetimeInterval, .datetime =>
      some (.datetimeLit, .datetimeIntervalLit, .datetimeLit)
    | .add, .yearMonthInterval, .datetime =>
      some (.datetimeLit, .yearMonthIntervalLit, .datetimeLit)
    | .add, .datetimeInterval, .datetimeInterval | .subtract, .datetimeInterval, .datetimeInterval =>
      some (.datetimeIntervalLit, .datetimeIntervalLit, .datetimeIntervalLit)
    | .add, .yearMonthInterval, .yearMonthInterval | .subtract, .yearMonthInterval, .yearMonthInterval =>
      some (.yearMonthIntervalLit, .yearMonthIntervalLit, .yearMonthIntervalLit)
    | .subtract, .datetime, .datetime =>
      some (.datetimeIntervalLit, .datetimeLit, .datetimeLit)
    | _, _, _ => none

/-- The functor template of an operation. -/
def opFunctor (platform : Platform) (left right : DataType) : BinaryOperation → OpFunctor
  | .add => addFunctor platform
  | .subtract => subtractFunctor platform
  | .multiply => multiplyFunctor platform
  | .divide => divideFunctor platform
  | .modulo =>
    if ModuloBinaryOperation.bothIntegers left right then integerModuloFunctor platform
    else floatModuloFunctor platform

/-- The instance of the class template that an operation makes for two types. -/
def arithmeticOperator (platform : Platform) (operation : BinaryOperation) (left right : DataType) :
    Option ArithmeticUncheckedBinaryOperator := do
  let (resultType, leftType, rightType) ← operation.templateArguments left right
  let functor ← operation.opFunctor platform left right leftType rightType
  let toResult ← CppType.implicitConversion platform functor.result resultType
  return ⟨leftType, rightType, resultType, left.isNullable, right.isNullable, functor, toResult⟩

/-- The operators that `makeUncheckedBinaryOperatorForTypes` returns are these instances. -/
theorem makeUncheckedBinaryOperatorForTypes_eq (platform : Platform) (operation : BinaryOperation)
    (left right : DataType) :
    operation.makeUncheckedBinaryOperatorForTypes platform left right =
      (operation.arithmeticOperator platform left right).map fun op => op.unchecked := by
  cases operation
  all_goals cases left <;> cases right <;> rfl

end BinaryOperation

end Quickstep.Types
