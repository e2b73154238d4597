import Quickstep.Types.Coercion
import Quickstep.Types.DateOperatorOverloads
import Quickstep.Types.DefaultOperators

/-!
# Unary operations

Negation, numeric casts, the fields of a datetime and substrings: the types they take and return,
their checked form and the operators they make. `none` stands where the source ends the program or
throws.
-/

namespace Quickstep.Types

/-- A function on literals, with the types it is instantiated at. -/
structure UnaryFunctor where
  argument : CppType
  result : CppType
  apply : argument.Value → result.Value

def UnaryFunctor.applyTo (functor : UnaryFunctor) (argument : TypedValue) : TypedValue :=
  .ofLiteral functor.result (functor.apply (argument.getLiteral functor.argument))

@[simp] theorem UnaryFunctor.getTypeID_applyTo (functor : UnaryFunctor) (argument : TypedValue) :
    (functor.applyTo argument).getTypeID = functor.result.typeId :=
  TypedValue.getTypeID_ofLiteral _ _

@[simp] theorem UnaryFunctor.isNull_applyTo (functor : UnaryFunctor) (argument : TypedValue) :
    (functor.applyTo argument).isNull = false :=
  TypedValue.isNull_ofLiteral _ _

/-! ## Negation -/

namespace NegateUnaryOperation

def canApplyToType (type : DataType) : Bool :=
  type.getTypeID matches .int | .long | .float | .double | .datetimeInterval | .yearMonthInterval

def resultTypeForArgumentType (type : DataType) : Option DataType :=
  if canApplyToType type then some type else none

/-- The unary minus of each type that has one. On floating point numbers it flips the sign bit. -/
def negateFunctor : TypeID → Option UnaryFunctor
  | .int => some ⟨.number .int, .number .int, fun value => -value⟩
  | .long => some ⟨.number .long, .number .long, fun value => -value⟩
  | .float => some ⟨.number .float, .number .float, fun value => value ^^^ BitVec.intMin 32⟩
  | .double => some ⟨.number .double, .number .double, fun value => value ^^^ BitVec.intMin 64⟩
  | .datetimeInterval => some ⟨.datetimeIntervalLit, .datetimeIntervalLit, fun ticks => -ticks⟩
  | .yearMonthInterval => some ⟨.yearMonthIntervalLit, .yearMonthIntervalLit, fun months => -months⟩
  | .char | .varChar | .date | .datetime | .nullType => none

/-- The checked form goes by the `TypeID` of the value. -/
def applyToChecked (argument : TypedValue) : Option TypedValue :=
  if argument.isNull then some argument
  else (negateFunctor argument.getTypeID).map fun functor => functor.applyTo argument

/-- `NegateUncheckedUnaryOperator`. -/
def makeUncheckedUnaryOperatorForType (type : DataType) : Option UncheckedUnaryOperator :=
  (negateFunctor type.getTypeID).map fun functor =>
    defaultUnaryOperator fun argument =>
      if type.isNullable && argument.isNull then argument else functor.applyTo argument

end NegateUnaryOperation

/-! ## Casts -/

namespace NumericCastOperation

/-- `UncheckedNumericCastOperator`: both types are numeric. -/
def makeUncheckedUnaryOperatorForType (platform : Platform) (targetType type : DataType) :
    Option UncheckedUnaryOperator :=
  match type.numericType?, targetType.numericType? with
  | some source, some target =>
    let functor : UnaryFunctor := ⟨.number source, .number target, staticCast platform source target⟩
    some <| defaultUnaryOperator fun argument =>
      if type.isNullable && argument.isNull then .null target.typeId else functor.applyTo argument
  | _, _ => none

end NumericCastOperation

/-! ## Fields of datetimes -/

namespace DateExtractOperation

def field (platform : Platform) : DateExtractUnit → BitVec 64 → BitVec 64
  | .year => DatetimeLit.yearField platform
  | .month => DatetimeLit.monthField platform
  | .day => DatetimeLit.dayField platform
  | .hour => DatetimeLit.hourField platform
  | .minute => DatetimeLit.minuteField platform
  | .second => DatetimeLit.secondField platform

def dateExtract (platform : Platform) (unit : DateExtractUnit) : UnaryFunctor :=
  ⟨.datetimeLit, .number .long, field platform unit⟩

def applyToChecked (platform : Platform) (unit : DateExtractUnit) (argument : TypedValue)
    (argumentType : DataType) : Option TypedValue :=
  if argument.getTypeID ≠ .datetime ∨ argumentType.getTypeID ≠ .datetime then none
  else if argument.isNull then some (.null .long)
  else some ((dateExtract platform unit).applyTo argument)

/-- `DateExtractUncheckedOperator`. -/
def makeUncheckedUnaryOperatorForType (platform : Platform) (unit : DateExtractUnit)
    (type : DataType) : Option UncheckedUnaryOperator :=
  some <| defaultUnaryOperator fun argument =>
    if type.isNullable && argument.isNull then .null .long
    else (dateExtract platform unit).applyTo argument

end DateExtractOperation

/-! ## Substrings -/

namespace SubstringOperation

/-- A start position behind the end of the type wraps around. -/
def computeMaximumSubstringLength (startPosition substringLength : BitVec 64) (type : DataType) :
    BitVec 64 :=
  let remaining := type.getStringLength - startPosition
  if substringLength < remaining then substringLength else remaining

def resultTypeForArgumentType (startPosition substringLength : BitVec 64) (type : DataType) :
    Option DataType :=
  if type.getSuperTypeID = .asciiString then
    some (.char (computeMaximumSubstringLength startPosition substringLength type) type.isNullable)
  else none

/-- Copy part of a string into fresh memory, with a terminator where there is room for it. -/
def writeSubstring (output input : List (BitVec 8)) (startPosition stringLength maximumLength : Nat)
    (bufferLength : Nat) : List (BitVec 8) :=
  if startPosition ≥ stringLength then output.set 0 0
  else
    let actualSubstringLength := min (stringLength - startPosition) maximumLength
    let copied := (input.drop startPosition).take actualSubstringLength ++
      output.drop actualSubstringLength
    if actualSubstringLength < bufferLength then copied.set actualSubstringLength 0 else copied

def applyToChecked (platform : Platform) (startPosition substringLength : BitVec 64)
    (argument : TypedValue) (argumentType : DataType) : Option TypedValue :=
  (resultTypeForArgumentType startPosition substringLength argumentType).map fun resultType =>
    if argumentType.isNullable && argument.isNull then .null resultType.getTypeID
    else
      let resultLength := computeMaximumSubstringLength startPosition substringLength argumentType
      .char (writeSubstring (platform.malloc resultLength) argument.getOutOfLineData
        startPosition.toNat argument.getAsciiStringLength substringLength.toNat resultLength.toNat)

/-- `SubstringUncheckedOperator`, which gets the maximum length as its substring length. -/
def makeUncheckedUnaryOperatorForType (platform : Platform) (startPosition substringLength : BitVec 64)
    (type : DataType) : Option UncheckedUnaryOperator :=
  (resultTypeForArgumentType startPosition substringLength type).map fun resultType =>
    let maximumLength := computeMaximumSubstringLength startPosition substringLength type
    defaultUnaryOperator fun argument =>
      if type.isNullable && argument.isNull then .null resultType.getTypeID
      else
        let input := argument.getOutOfLineData
        let stringLength :=
          strnlen input
            (if type.getTypeID = .varChar then input.length else type.getStringLength.toNat)
        .char (writeSubstring (platform.malloc maximumLength) input startPosition.toNat stringLength
          maximumLength.toNat maximumLength.toNat)

end SubstringOperation

/-! ## Dispatch -/

namespace UnaryOperation

def canApplyToType : UnaryOperation → DataType → Bool
  | negate, type => NegateUnaryOperation.canApplyToType type
  | numericCast targetType, type => targetType.isCoercibleFrom type
  | dateExtract _, type => type.getTypeID = .datetime
  | substring _ _, type => type.getSuperTypeID = .asciiString

def resultTypeForArgumentType : UnaryOperation → DataType → Option DataType
  | negate, type => NegateUnaryOperation.resultTypeForArgumentType type
  | numericCast targetType, type =>
    if targetType.isCoercibleFrom type then some targetType else none
  | dateExtract _, type =>
    if type.getTypeID = .datetime then some (.long type.isNullable) else none
  | substring startPosition substringLength, type =>
    SubstringOperation.resultTypeForArgumentType startPosition substringLength type

def applyToChecked (platform : Platform) :
    UnaryOperation → TypedValue → DataType → Option TypedValue
  | negate, argument, _ => NegateUnaryOperation.applyToChecked argument
  | numericCast targetType, argument, type => targetType.coerceValue platform argument type
  | dateExtract unit, argument, type =>
    DateExtractOperation.applyToChecked platform unit argument type
  | substring startPosition substringLength, argument, type =>
    SubstringOperation.applyToChecked platform startPosition substringLength argument type

def makeUncheckedUnaryOperatorForType (platform : Platform) :
    UnaryOperation → DataType → Option UncheckedUnaryOperator
  | negate, type => NegateUnaryOperation.makeUncheckedUnaryOperatorForType type
  | numericCast targetType, type =>
    NumericCastOperation.makeUncheckedUnaryOperatorForType platform targetType type
  | dateExtract unit, type =>
    DateExtractOperation.makeUncheckedUnaryOperatorForType platform unit type
  | substring startPosition substringLength, type =>
    SubstringOperation.makeUncheckedUnaryOperatorForType platform startPosition substringLength type

end UnaryOperation

end Quickstep.Types
