import Quickstep.Types.Coercion
import Quickstep.Types.DateOperatorOverloads
import Quickstep.Types.DefaultOperators

/-!
# Binary operations

Addition, subtraction, multiplication, division and modulo: the types they take and return, their
checked form and the operators they make. The functor templates are resolved by the C++ types of
their arguments, and their return types are those of the C++ expressions. `none` stands where the
source ends the program or throws, and for overloads that do not exist.
-/

namespace Quickstep.Types

/-- An instance of a functor template, with the return type C++ gives it. -/
structure BinaryFunctor (left right : CppType) where
  result : CppType
  apply : left.Value → right.Value → result.Value

/-- A functor template. -/
abbrev OpFunctor := (left right : CppType) → Option (BinaryFunctor left right)

/-! ## Functors -/

section Functors

variable (platform : Platform)

/-- A built-in operator on two numbers converted to `result`. -/
def numericFunctor (operation : BinaryOperation) (left right result : NumericType) :
    BinaryFunctor (.number left) (.number right) where
  result := .number result
  apply leftValue rightValue :=
    arithmetic platform operation result (staticCast platform left result leftValue)
      (staticCast platform right result rightValue)

/-- The functors are specialised to return a double for a 64-bit integer and a float. -/
def specialisedResult : NumericType → NumericType → NumericType
  | .long, .float | .float, .long => .double
  | left, right => usualArithmeticConversion left right

def addFunctor : OpFunctor
  | .number left, .number right =>
    some (numericFunctor platform .add left right (specialisedResult left right))
  | .datetimeLit, .datetimeIntervalLit => some ⟨.datetimeLit, fun lhs rhs => lhs + rhs⟩
  | .datetimeIntervalLit, .datetimeLit => some ⟨.datetimeLit, fun lhs rhs => lhs + rhs⟩
  | .datetimeLit, .yearMonthIntervalLit => some ⟨.datetimeLit, addMonths platform⟩
  | .yearMonthIntervalLit, .datetimeLit =>
    some ⟨.datetimeLit, fun lhs rhs => addMonths platform rhs lhs⟩
  | .datetimeIntervalLit, .datetimeIntervalLit =>
    some ⟨.datetimeIntervalLit, fun lhs rhs => lhs + rhs⟩
  | .yearMonthIntervalLit, .yearMonthIntervalLit =>
    some ⟨.yearMonthIntervalLit, fun lhs rhs => lhs + rhs⟩
  | _, _ => none

/-- Two datetimes differ by a datetime interval. -/
def subtractFunctor : OpFunctor
  | .number left, .number right =>
    some (numericFunctor platform .subtract left right (specialisedResult left right))
  | .datetimeLit, .datetimeLit => some ⟨.datetimeIntervalLit, fun lhs rhs => lhs - rhs⟩
  | .datetimeLit, .datetimeIntervalLit => some ⟨.datetimeLit, fun lhs rhs => lhs - rhs⟩
  | .datetimeLit, .yearMonthIntervalLit => some ⟨.datetimeLit, subtractMonths platform⟩
  | .datetimeIntervalLit, .datetimeIntervalLit =>
    some ⟨.datetimeIntervalLit, fun lhs rhs => lhs - rhs⟩
  | .yearMonthIntervalLit, .yearMonthIntervalLit =>
    some ⟨.yearMonthIntervalLit, fun lhs rhs => lhs - rhs⟩
  | _, _ => none

def multiplyFunctor : OpFunctor
  | .number left, .number right =>
    some (numericFunctor platform .multiply left right (specialisedResult left right))
  | .datetimeIntervalLit, .number right =>
    some ⟨.datetimeIntervalLit, scaleInterval platform .multiply right⟩
  | .number left, .datetimeIntervalLit =>
    some ⟨.datetimeIntervalLit, fun lhs rhs => scaleInterval platform .multiply left rhs lhs⟩
  | .yearMonthIntervalLit, .number right =>
    some ⟨.yearMonthIntervalLit, scaleInterval platform .multiply right⟩
  | .number left, .yearMonthIntervalLit =>
    some ⟨.yearMonthIntervalLit, fun lhs rhs => scaleInterval platform .multiply left rhs lhs⟩
  | _, _ => none

def divideFunctor : OpFunctor
  | .number left, .number right =>
    some (numericFunctor platform .divide left right (specialisedResult left right))
  | .datetimeIntervalLit, .number right =>
    some ⟨.datetimeIntervalLit, scaleInterval platform .divide right⟩
  | .yearMonthIntervalLit, .number right =>
    some ⟨.yearMonthIntervalLit, scaleInterval platform .divide right⟩
  | _, _ => none

/-- `%` is for integers only. -/
def integerModuloFunctor : OpFunctor
  | .number .int, .number .int => some (numericFunctor platform .modulo .int .int .int)
  | .number .int, .number .long => some (numericFunctor platform .modulo .int .long .long)
  | .number .long, .number .int => some (numericFunctor platform .modulo .long .int .long)
  | .number .long, .number .long => some (numericFunctor platform .modulo .long .long .long)
  | _, _ => none

/-- The return type of `std::fmod`: any two types other than two floats are promoted to double. -/
def fmodResult : NumericType → NumericType → NumericType
  | .float, .float => .float
  | _, _ => .double

def floatModuloFunctor : OpFunctor
  | .number left, .number right =>
    some (numericFunctor platform .modulo left right (fmodResult left right))
  | _, _ => none

end Functors

/-! ## Operators -/

/-- `ArithmeticUncheckedBinaryOperator`. On single values the constructor of `TypedValue` takes what
the functor returns; the column loops `store` it as a value of the result type. -/
def arithmeticUncheckedBinaryOperator {left right : CppType} (functor : BinaryFunctor left right)
    (resultType : CppType) (leftNullable rightNullable : Bool)
    (store : functor.result.Value → TypedValue) : UncheckedBinaryOperator :=
  let applyWith (wrap : functor.result.Value → TypedValue) (leftValue rightValue : TypedValue) :=
    if (leftNullable && leftValue.isNull) || (rightNullable && rightValue.isNull) then
      .null resultType.typeId
    else wrap (functor.apply (leftValue.getLiteral left) (rightValue.getLiteral right))
  { defaultBinaryOperator (applyWith store) with
    applyToTypedValues := applyWith (.ofLiteral functor.result) }

section Helpers

variable (platform : Platform) (opFunctor : OpFunctor)

/-- `makeNumericBinaryOperatorOuterHelper` and its inner helper. The column loops convert to the
`cpptype` of the unifying type. -/
def makeNumericBinaryOperatorOuterHelper (left right : DataType) : Option UncheckedBinaryOperator :=
  match left.numericType?, right.numericType? with
  | some leftType, some rightType =>
    (opFunctor (.number leftType) (.number rightType)).map fun functor =>
      arithmeticUncheckedBinaryOperator functor (.number (numericTypeUnifier leftType rightType))
        left.isNullable right.isNullable fun result =>
          match functor.result, result with
          | .number resultType, result =>
            .ofLiteral (.number (numericTypeUnifier leftType rightType))
              (staticCast platform resultType (numericTypeUnifier leftType rightType) result)
          | resultType, result => .ofLiteral resultType result
  | _, _ => none

/-- `makeIntegerBinaryOperatorOuterHelper` and its inner helper. -/
def makeIntegerBinaryOperatorOuterHelper (left right : DataType) : Option UncheckedBinaryOperator :=
  match left, right with
  | .int _, .int _ | .int _, .long _ | .long _, .int _ | .long _, .long _ =>
    makeNumericBinaryOperatorOuterHelper platform opFunctor left right
  | _, _ => none

/-- `makeDateBinaryOperatorOuterHelper` and its inner helper. -/
def makeDateBinaryOperatorOuterHelper (resultType leftType rightType : CppType)
    (left right : DataType) : Option UncheckedBinaryOperator :=
  (opFunctor leftType rightType).map fun functor =>
    arithmeticUncheckedBinaryOperator functor resultType left.isNullable right.isNullable
      (.ofLiteral functor.result)

/-- The functor on two literals. -/
def applyFunctor (leftType rightType : CppType) (left right : TypedValue) : Option TypedValue :=
  (opFunctor leftType rightType).map fun functor =>
    .ofLiteral functor.result
      (functor.apply (left.getLiteral leftType) (right.getLiteral rightType))

/-- A branch of `applyToChecked` on dates and intervals. -/
def applyToCheckedDate (nullId : TypeID) (leftType rightType : CppType) (left right : TypedValue) :
    Option TypedValue :=
  if left.isNull || right.isNull then some (.null nullId)
  else applyFunctor opFunctor leftType rightType left right

/-- `applyToCheckedNumericHelper`: both values are coerced to the unifying type first. -/
def applyToCheckedNumericHelper (left : TypedValue) (leftType : DataType) (right : TypedValue)
    (rightType : DataType) : Option TypedValue := do
  let unifier ← TypeFactory.getUnifyingType leftType rightType
  if left.isNull || right.isNull then return .null unifier.getTypeID
  let leftCoerced ← unifier.coerceValue platform left leftType
  let rightCoerced ← unifier.coerceValue platform right rightType
  let type ← unifier.numericType?
  applyFunctor opFunctor (.number type) (.number type) leftCoerced rightCoerced

/-- `applyToCheckedIntegerHelper` lacks the cases of a floating point unifying type, for which its
functor has no overload. -/
def applyToCheckedIntegerHelper (left : TypedValue) (leftType : DataType) (right : TypedValue)
    (rightType : DataType) : Option TypedValue :=
  applyToCheckedNumericHelper platform opFunctor left leftType right rightType

end Helpers

/-! ## The operations -/

namespace AddBinaryOperation

def canApplyToTypes (left right : DataType) : Bool :=
  match left.getTypeID with
  | .int | .long | .float | .double => right.getSuperTypeID = .numeric
  | .datetime => right.getTypeID = .datetimeInterval || right.getTypeID = .yearMonthInterval
  | .datetimeInterval => right.getTypeID = .datetime || right.getTypeID = .datetimeInterval
  | .yearMonthInterval => right.getTypeID = .datetime || right.getTypeID = .yearMonthInterval
  | _ => false

def resultTypeForArgumentTypes (left right : DataType) : Option DataType :=
  let nullable := left.isNullable || right.isNullable
  if left.getSuperTypeID = .numeric ∧ right.getSuperTypeID = .numeric then
    TypeFactory.getUnifyingType left right
  else
    match left.getTypeID, right.getTypeID with
    | .datetime, .datetimeInterval | .datetimeInterval, .datetime
    | .datetime, .yearMonthInterval | .yearMonthInterval, .datetime => some (.datetime nullable)
    | .datetimeInterval, .datetimeInterval => some (.datetimeInterval nullable)
    | .yearMonthInterval, .yearMonthInterval => some (.yearMonthInterval nullable)
    | _, _ => none

def applyToChecked (platform : Platform) (left : TypedValue) (leftType : DataType)
    (right : TypedValue) (rightType : DataType) : Option TypedValue :=
  let functor := addFunctor platform
  match leftType.getTypeID, rightType.getTypeID with
  | .int, _ | .long, _ | .float, _ | .double, _ =>
    if rightType.getSuperTypeID = .numeric then
      applyToCheckedNumericHelper platform functor left leftType right rightType
    else none
  | .datetime, .datetimeInterval =>
    applyToCheckedDate functor .datetime .datetimeLit .datetimeIntervalLit left right
  | .datetime, .yearMonthInterval =>
    applyToCheckedDate functor .datetime .datetimeLit .yearMonthIntervalLit left right
  | .datetimeInterval, .datetime =>
    applyToCheckedDate functor .datetime .datetimeIntervalLit .datetimeLit left right
  | .datetimeInterval, .datetimeInterval =>
    applyToCheckedDate functor .datetimeInterval .datetimeIntervalLit .datetimeIntervalLit left right
  | .yearMonthInterval, .datetime =>
    applyToCheckedDate functor .datetime .yearMonthIntervalLit .datetimeLit left right
  | .yearMonthInterval, .yearMonthInterval =>
    applyToCheckedDate functor .yearMonthInterval .yearMonthIntervalLit .yearMonthIntervalLit left
      right
  | _, _ => none

def makeUncheckedBinaryOperatorForTypes (platform : Platform) (left right : DataType) :
    Option UncheckedBinaryOperator :=
  let functor := addFunctor platform
  match left.getTypeID, right.getTypeID with
  | .int, _ | .long, _ | .float, _ | .double, _ =>
    if right.getSuperTypeID = .numeric then
      makeNumericBinaryOperatorOuterHelper platform functor left right
    else none
  | .datetime, .datetimeInterval =>
    makeDateBinaryOperatorOuterHelper functor .datetimeLit .datetimeLit .datetimeIntervalLit left
      right
  | .datetime, .yearMonthInterval =>
    makeDateBinaryOperatorOuterHelper functor .datetimeLit .datetimeLit .yearMonthIntervalLit left
      right
  | .datetimeInterval, .datetime =>
    makeDateBinaryOperatorOuterHelper functor .datetimeLit .datetimeIntervalLit .datetimeLit left
      right
  | .datetimeInterval, .datetimeInterval =>
    makeDateBinaryOperatorOuterHelper functor .datetimeIntervalLit .datetimeIntervalLit
      .datetimeIntervalLit left right
  | .yearMonthInterval, .datetime =>
    makeDateBinaryOperatorOuterHelper functor .datetimeLit .yearMonthIntervalLit .datetimeLit left
      right
  | .yearMonthInterval, .yearMonthInterval =>
    makeDateBinaryOperatorOuterHelper functor .yearMonthIntervalLit .yearMonthIntervalLit
      .yearMonthIntervalLit left right
  | _, _ => none

end AddBinaryOperation

namespace SubtractBinaryOperation

def canApplyToTypes (left right : DataType) : Bool :=
  match left.getTypeID with
  | .int | .long | .float | .double => right.getSuperTypeID = .numeric
  | .datetime =>
    right.getTypeID = .datetime || right.getTypeID = .datetimeInterval ||
      right.getTypeID = .yearMonthInterval
  | .datetimeInterval => right.getTypeID = .datetimeInterval
  | .yearMonthInterval => right.getTypeID = .yearMonthInterval
  | _ => false

def resultTypeForArgumentTypes (left right : DataType) : Option DataType :=
  let nullable := left.isNullable || right.isNullable
  if left.getSuperTypeID = .numeric ∧ right.getSuperTypeID = .numeric then
    TypeFactory.getUnifyingType left right
  else
    match left.getTypeID, right.getTypeID with
    | .datetime, .datetime | .datetimeInterval, .datetimeInterval =>
      some (.datetimeInterval nullable)
    | .datetime, .datetimeInterval => some (.datetime nullable)
    | .datetime, .yearMonthInterval => some (.datetime nullable)
    | .yearMonthInterval, .yearMonthInterval => some (.yearMonthInterval nullable)
    | _, _ => none

def applyToChecked (platform : Platform) (left : TypedValue) (leftType : DataType)
    (right : TypedValue) (rightType : DataType) : Option TypedValue :=
  let functor := subtractFunctor platform
  match leftType.getTypeID, rightType.getTypeID with
  | .int, _ | .long, _ | .float, _ | .double, _ =>
    if rightType.getSuperTypeID = .numeric then
      applyToCheckedNumericHelper platform functor left leftType right rightType
    else none
  | .datetime, .datetime =>
    applyToCheckedDate functor .datetimeInterval .datetimeLit .datetimeLit left right
  | .datetime, .datetimeInterval =>
    applyToCheckedDate functor .datetime .datetimeLit .datetimeIntervalLit left right
  | .datetime, .yearMonthInterval =>
    applyToCheckedDate functor .datetime .datetimeLit .yearMonthIntervalLit left right
  | .datetimeInterval, .datetimeInterval =>
    applyToCheckedDate functor .datetimeInterval .datetimeIntervalLit .datetimeIntervalLit left right
  | .yearMonthInterval, .yearMonthInterval =>
    applyToCheckedDate functor .yearMonthInterval .yearMonthIntervalLit .yearMonthIntervalLit left
      right
  | _, _ => none

def makeUncheckedBinaryOperatorForTypes (platform : Platform) (left right : DataType) :
    Option UncheckedBinaryOperator :=
  let functor := subtractFunctor platform
  match left.getTypeID, right.getTypeID with
  | .int, _ | .long, _ | .float, _ | .double, _ =>
    if right.getSuperTypeID = .numeric then
      makeNumericBinaryOperatorOuterHelper platform functor left right
    else none
  | .datetime, .datetime =>
    makeDateBinaryOperatorOuterHelper functor .datetimeIntervalLit .datetimeLit .datetimeLit left
      right
  | .datetime, .datetimeInterval =>
    makeDateBinaryOperatorOuterHelper functor .datetimeLit .datetimeLit .datetimeIntervalLit left
      right
  | .datetime, .yearMonthInterval =>
    makeDateBinaryOperatorOuterHelper functor .datetimeLit .datetimeLit .yearMonthIntervalLit left
      right
  | .datetimeInterval, .datetimeInterval =>
    makeDateBinaryOperatorOuterHelper functor .datetimeIntervalLit .datetimeIntervalLit
      .datetimeIntervalLit left right
  | .yearMonthInterval, .yearMonthInterval =>
    makeDateBinaryOperatorOuterHelper functor .yearMonthIntervalLit .yearMonthIntervalLit
      .yearMonthIntervalLit left right
  | _, _ => none

end SubtractBinaryOperation

namespace MultiplyBinaryOperation

def canApplyToTypes (left right : DataType) : Bool :=
  match left.getTypeID with
  | .int | .long | .float | .double =>
    right.getSuperTypeID = .numeric || right.getTypeID = .datetimeInterval ||
      right.getTypeID = .yearMonthInterval
  | .datetimeInterval | .yearMonthInterval => right.getSuperTypeID = .numeric
  | _ => false

def resultTypeForArgumentTypes (left right : DataType) : Option DataType :=
  let nullable := left.isNullable || right.isNullable
  if left.getSuperTypeID = .numeric ∧ right.getSuperTypeID = .numeric then
    TypeFactory.getUnifyingType left right
  else if (left.getSuperTypeID = .numeric ∧ right.getTypeID = .datetimeInterval) ∨
      (left.getTypeID = .datetimeInterval ∧ right.getSuperTypeID = .numeric) then
    some (.datetimeInterval nullable)
  else if (left.getSuperTypeID = .numeric ∧ right.getTypeID = .yearMonthInterval) ∨
      (left.getTypeID = .yearMonthInterval ∧ right.getSuperTypeID = .numeric) then
    some (.yearMonthInterval nullable)
  else none

/-- `applyToCheckedIntervalMultiplyNumericHelper`: the interval comes first. -/
def applyToCheckedIntervalMultiplyNumericHelper (platform : Platform) (intervalType : CppType)
    (left right : TypedValue) (rightType : DataType) : Option TypedValue :=
  if left.isNull || right.isNull then some (.null intervalType.typeId)
  else
    rightType.numericType?.bind fun type =>
      applyFunctor (multiplyFunctor platform) intervalType (.number type) left right

def applyToChecked (platform : Platform) (left : TypedValue) (leftType : DataType)
    (right : TypedValue) (rightType : DataType) : Option TypedValue :=
  match leftType.getTypeID with
  | .int | .long | .float | .double =>
    if rightType.getSuperTypeID = .numeric then
      applyToCheckedNumericHelper platform (multiplyFunctor platform) left leftType right rightType
    else if rightType.getTypeID = .datetimeInterval then
      applyToCheckedIntervalMultiplyNumericHelper platform .datetimeIntervalLit right left leftType
    else if rightType.getTypeID = .yearMonthInterval then
      applyToCheckedIntervalMultiplyNumericHelper platform .yearMonthIntervalLit right left leftType
    else none
  | .datetimeInterval =>
    if rightType.getSuperTypeID = .numeric then
      applyToCheckedIntervalMultiplyNumericHelper platform .datetimeIntervalLit left right rightType
    else none
  | .yearMonthInterval =>
    if rightType.getSuperTypeID = .numeric then
      applyToCheckedIntervalMultiplyNumericHelper platform .yearMonthIntervalLit left right rightType
    else none
  | _ => none

def makeUncheckedBinaryOperatorForTypes (platform : Platform) (left right : DataType) :
    Option UncheckedBinaryOperator :=
  let functor := multiplyFunctor platform
  match left.numericType?, left.getTypeID with
  | some type, _ =>
    if right.getSuperTypeID = .numeric then
      makeNumericBinaryOperatorOuterHelper platform functor left right
    else if right.getTypeID = .datetimeInterval then
      makeDateBinaryOperatorOuterHelper functor .datetimeIntervalLit (.number type)
        .datetimeIntervalLit left right
    else if right.getTypeID = .yearMonthInterval then
      makeDateBinaryOperatorOuterHelper functor .yearMonthIntervalLit (.number type)
        .yearMonthIntervalLit left right
    else none
  | none, .datetimeInterval =>
    right.numericType?.bind fun type =>
      makeDateBinaryOperatorOuterHelper functor .datetimeIntervalLit .datetimeIntervalLit
        (.number type) left right
  | none, .yearMonthInterval =>
    right.numericType?.bind fun type =>
      makeDateBinaryOperatorOuterHelper functor .yearMonthIntervalLit .yearMonthIntervalLit
        (.number type) left right
  | none, _ => none

end MultiplyBinaryOperation

namespace DivideBinaryOperation

def canApplyToTypes (left right : DataType) : Bool :=
  match left.getTypeID with
  | .int | .long | .float | .double | .datetimeInterval | .yearMonthInterval =>
    right.getSuperTypeID = .numeric
  | _ => false

def resultTypeForArgumentTypes (left right : DataType) : Option DataType :=
  let nullable := left.isNullable || right.isNullable
  if left.getSuperTypeID = .numeric ∧ right.getSuperTypeID = .numeric then
    TypeFactory.getUnifyingType left right
  else if left.getTypeID = .datetimeInterval ∧ right.getSuperTypeID = .numeric then
    some (.datetimeInterval nullable)
  else if left.getTypeID = .yearMonthInterval ∧ right.getSuperTypeID = .numeric then
    some (.yearMonthInterval nullable)
  else none

def applyToChecked (platform : Platform) (left : TypedValue) (leftType : DataType)
    (right : TypedValue) (rightType : DataType) : Option TypedValue :=
  let functor := divideFunctor platform
  match leftType.getTypeID with
  | .int | .long | .float | .double =>
    if rightType.getSuperTypeID = .numeric then
      applyToCheckedNumericHelper platform functor left leftType right rightType
    else none
  | .datetimeInterval =>
    rightType.numericType?.bind fun type =>
      applyToCheckedDate functor .datetimeInterval .datetimeIntervalLit (.number type) left right
  | .yearMonthInterval =>
    rightType.numericType?.bind fun type =>
      applyToCheckedDate functor .yearMonthInterval .yearMonthIntervalLit (.number type) left right
  | _ => none

def makeUncheckedBinaryOperatorForTypes (platform : Platform) (left right : DataType) :
    Option UncheckedBinaryOperator :=
  let functor := divideFunctor platform
  match left.getTypeID with
  | .int | .long | .float | .double =>
    if right.getSuperTypeID = .numeric then
      makeNumericBinaryOperatorOuterHelper platform functor left right
    else none
  | .datetimeInterval =>
    right.numericType?.bind fun type =>
      makeDateBinaryOperatorOuterHelper functor .datetimeIntervalLit .datetimeIntervalLit
        (.number type) left right
  | .yearMonthInterval =>
    right.numericType?.bind fun type =>
      makeDateBinaryOperatorOuterHelper functor .yearMonthIntervalLit .yearMonthIntervalLit
        (.number type) left right
  | _ => none

end DivideBinaryOperation

namespace ModuloBinaryOperation

def canApplyToTypes (left right : DataType) : Bool :=
  match left.getTypeID with
  | .int | .long | .float | .double => right.getSuperTypeID = .numeric
  | _ => false

def resultTypeForArgumentTypes (left right : DataType) : Option DataType :=
  if left.getSuperTypeID = .numeric ∧ right.getSuperTypeID = .numeric then
    TypeFactory.getUnifyingType left right
  else none

/-- Whether the switches go to the functor for integers; all other pairs fall through to `fmod`. -/
def bothIntegers (left right : DataType) : Bool :=
  (left.getTypeID = .int || left.getTypeID = .long) &&
    (right.getTypeID = .int || right.getTypeID = .long)

def applyToChecked (platform : Platform) (left : TypedValue) (leftType : DataType)
    (right : TypedValue) (rightType : DataType) : Option TypedValue :=
  match leftType.getTypeID with
  | .int | .long | .float | .double =>
    if bothIntegers leftType rightType then
      applyToCheckedIntegerHelper platform (integerModuloFunctor platform) left leftType right
        rightType
    else if rightType.getSuperTypeID = .numeric then
      applyToCheckedNumericHelper platform (floatModuloFunctor platform) left leftType right rightType
    else none
  | _ => none

def makeUncheckedBinaryOperatorForTypes (platform : Platform) (left right : DataType) :
    Option UncheckedBinaryOperator :=
  match left.getTypeID with
  | .int | .long | .float | .double =>
    if bothIntegers left right then
      makeIntegerBinaryOperatorOuterHelper platform (integerModuloFunctor platform) left right
    else if right.getSuperTypeID = .numeric then
      makeNumericBinaryOperatorOuterHelper platform (floatModuloFunctor platform) left right
    else none
  | _ => none

end ModuloBinaryOperation

/-! ## Dispatch -/

namespace BinaryOperation

def canApplyToTypes : BinaryOperation → DataType → DataType → Bool
  | add => AddBinaryOperation.canApplyToTypes
  | subtract => SubtractBinaryOperation.canApplyToTypes
  | multiply => MultiplyBinaryOperation.canApplyToTypes
  | divide => DivideBinaryOperation.canApplyToTypes
  | modulo => ModuloBinaryOperation.canApplyToTypes

def resultTypeForArgumentTypes : BinaryOperation → DataType → DataType → Option DataType
  | add => AddBinaryOperation.resultTypeForArgumentTypes
  | subtract => SubtractBinaryOperation.resultTypeForArgumentTypes
  | multiply => MultiplyBinaryOperation.resultTypeForArgumentTypes
  | divide => DivideBinaryOperation.resultTypeForArgumentTypes
  | modulo => ModuloBinaryOperation.resultTypeForArgumentTypes

def applyToChecked (platform : Platform) :
    BinaryOperation → TypedValue → DataType → TypedValue → DataType → Option TypedValue
  | add => AddBinaryOperation.applyToChecked platform
  | subtract => SubtractBinaryOperation.applyToChecked platform
  | multiply => MultiplyBinaryOperation.applyToChecked platform
  | divide => DivideBinaryOperation.applyToChecked platform
  | modulo => ModuloBinaryOperation.applyToChecked platform

def makeUncheckedBinaryOperatorForTypes (platform : Platform) :
    BinaryOperation → DataType → DataType → Option UncheckedBinaryOperator
  | add => AddBinaryOperation.makeUncheckedBinaryOperatorForTypes platform
  | subtract => SubtractBinaryOperation.makeUncheckedBinaryOperatorForTypes platform
  | multiply => MultiplyBinaryOperation.makeUncheckedBinaryOperatorForTypes platform
  | divide => DivideBinaryOperation.makeUncheckedBinaryOperatorForTypes platform
  | modulo => ModuloBinaryOperation.makeUncheckedBinaryOperatorForTypes platform

end BinaryOperation

end Quickstep.Types
