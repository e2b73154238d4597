import Quickstep.Types.CalendarArithmetic
import Quickstep.Types.OperatorAgreement
import Quickstep.Types.UnaryOperations

/-!
# The domain of the arithmetic

Where the arithmetic of the operations is defined: no overflow and no zero divisor. There an operation
on integers returns what it does on numbers. Beside it, where an operation leaves a negative zero in a
column, which the constructor of a value would replace.
-/

namespace Quickstep.Types
open Quickstep.Lib

/-! ## Integers -/

/-- The operation on numbers. -/
def BinaryOperation.onIntegers (operation : BinaryOperation) (left right : Int) : Int :=
  match operation with
  | .add => left + right
  | .subtract => left - right
  | .multiply => left * right
  | .divide => left.tdiv right
  | .modulo => left.tmod right

/-- The built-in operator is defined. A remainder is defined where the quotient is. -/
def integerIsDefined {w : Nat} (operation : BinaryOperation) (left right : BitVec w) : Bool :=
  match operation with
  | .add => InSigned w (left.toInt + right.toInt)
  | .subtract => InSigned w (left.toInt - right.toInt)
  | .multiply => InSigned w (left.toInt * right.toInt)
  | .divide | .modulo => right ≠ 0 ∧ InSigned w (left.toInt.tdiv right.toInt)

/-- Where it is defined the wrapping arithmetic is exact. -/
theorem toInt_integerArithmetic {w : Nat} (positive : 0 < w) {operation : BinaryOperation}
    {left right : BitVec w} (isDefined : integerIsDefined operation left right = true) :
    (integerArithmetic operation left right).toInt =
      operation.onIntegers left.toInt right.toInt := by
  have fits {value : Int} (inside : InSigned w value) : value.bmod (2 ^ w) = value := by
    obtain ⟨lower, upper⟩ := inside
    obtain ⟨w, rfl⟩ := Nat.exists_eq_succ_of_ne_zero (Nat.pos_iff_ne_zero.mp positive)
    rw [Nat.succ_sub_one] at lower upper
    have wide : ((2 ^ (w + 1) : Nat) : Int) = 2 * 2 ^ w := by
      rw [Nat.pow_succ]
      push_cast
      omega
    rw [Int.bmod_eq_of_le] <;> omega
  cases operation with
  | add => exact (BitVec.toInt_add ..).trans (fits (of_decide_eq_true isDefined))
  | subtract => exact (BitVec.toInt_sub ..).trans (fits (of_decide_eq_true isDefined))
  | multiply => exact (BitVec.toInt_mul ..).trans (fits (of_decide_eq_true isDefined))
  | divide => exact (BitVec.toInt_sdiv ..).trans (fits (of_decide_eq_true isDefined).2)
  | modulo => exact BitVec.toInt_srem ..

/-! ## Literals -/

section Literals

variable (platform : Platform) (operation : BinaryOperation)

/-- The built-in operator on two numbers of one type. Floating point arithmetic always has a result. -/
def arithmeticIsDefined : (type : NumericType) → type.Value → type.Value → Bool
  | .int => integerIsDefined operation
  | .long => integerIsDefined operation
  | .float => fun _ _ => true
  | .double => fun _ _ => true

/-- Two numbers are converted to a common type first. It is an integer type for two integers alone, also
where a functor is specialised. -/
def numbersAreDefined (left right : NumericType) (leftValue : left.Value) (rightValue : right.Value) :
    Bool :=
  let common := usualArithmeticConversion left right
  arithmeticIsDefined operation common (staticCast platform left common leftValue)
    (staticCast platform right common rightValue)

/-- The operators on literals. Those on datetimes and intervals compute with 64 bits; to move a datetime
by months goes through the calendar. -/
def literalsAreDefined : (left right : CppType) → left.Value → right.Value → Bool
  | .number left, .number right, leftValue, rightValue =>
    numbersAreDefined platform operation left right leftValue rightValue
  | .number left, .datetimeIntervalLit, leftValue, interval
  | .number left, .yearMonthIntervalLit, leftValue, interval =>
    numbersAreDefined platform operation .long left interval leftValue
  | .datetimeIntervalLit, .number right, interval, rightValue
  | .yearMonthIntervalLit, .number right, interval, rightValue =>
    numbersAreDefined platform operation .long right interval rightValue
  | .datetimeLit, .yearMonthIntervalLit, ticks, months =>
    match operation with
    | .subtract => (operatorMinus platform ticks months).isOk
    | .add | .multiply | .divide | .modulo => (operatorPlus platform ticks months).isOk
  | .yearMonthIntervalLit, .datetimeLit, months, ticks => (operatorPlus platform ticks months).isOk
  | .datetimeLit, .datetimeLit, left, right | .datetimeLit, .datetimeIntervalLit, left, right
  | .datetimeIntervalLit, .datetimeLit, left, right
  | .datetimeIntervalLit, .datetimeIntervalLit, left, right
  | .yearMonthIntervalLit, .yearMonthIntervalLit, left, right => integerIsDefined operation left right
  | .datetimeIntervalLit, .yearMonthIntervalLit, _, _
  | .yearMonthIntervalLit, .datetimeIntervalLit, _, _ | .number _, .datetimeLit, _, _
  | .datetimeLit, .number _, _, _ => true

end Literals

/-- The C++ type of the values of a type that arithmetic takes. -/
def DataType.literalType? : DataType → Option CppType
  | int _ => some (.number .int)
  | long _ => some (.number .long)
  | float _ => some (.number .float)
  | double _ => some (.number .double)
  | datetime _ => some .datetimeLit
  | datetimeInterval _ => some .datetimeIntervalLit
  | yearMonthInterval _ => some .yearMonthIntervalLit
  | char _ _ | varChar _ _ | date _ | nullType => none

/-! ## Operations -/

section Operations

variable (platform : Platform)

/-- The operation on two values is defined. With a NULL nothing is computed. -/
def BinaryOperation.isDefined (operation : BinaryOperation) (left right : DataType)
    (leftValue rightValue : TypedValue) : Bool :=
  hasNullOperand left right leftValue rightValue ||
    match left.literalType?, right.literalType? with
    | some leftType, some rightType =>
      literalsAreDefined platform operation leftType rightType (leftValue.getLiteral leftType)
        (rightValue.getLiteral rightType)
    | some _, none | none, some _ | none, none => true

/-- The negation of a literal: that of the least integer overflows. -/
def negationIsDefined : (type : CppType) → type.Value → Bool
  | .number .int, value => value != BitVec.intMin 32
  | .number .long, value | .datetimeIntervalLit, value | .yearMonthIntervalLit, value =>
    value != BitVec.intMin 64
  | .number .float, _ | .number .double, _ | .datetimeLit, _ => true

/-- The operation on a value is defined. Conversions of floating point numbers are left to the
platform. -/
def UnaryOperation.isDefined (operation : UnaryOperation) (type : DataType) (value : TypedValue) :
    Bool :=
  match operation with
  | .negate =>
    (type.isNullable && value.isNull) ||
      match type.literalType? with
      | some literalType => negationIsDefined literalType (value.getLiteral literalType)
      | none => true
  | .numericCast _ | .dateExtract _ | .substring _ _ => true

/-! The column loops store the bits of a result as they are. -/

def NumericType.isNegativeZero : (type : NumericType) → type.Value → Bool
  | .float, bits => bits == BitVec.intMin 32
  | .double, bits => bits == BitVec.intMin 64
  | .int, _ | .long, _ => false

/-- The functor on two numbers. -/
def BinaryOperation.numbersFunctor (operation : BinaryOperation) (left right : NumericType) :
    Option (BinaryFunctor (.number left) (.number right)) :=
  match operation with
  | .add => addFunctor platform (.number left) (.number right)
  | .subtract => subtractFunctor platform (.number left) (.number right)
  | .multiply => multiplyFunctor platform (.number left) (.number right)
  | .divide => divideFunctor platform (.number left) (.number right)
  | .modulo =>
    (integerModuloFunctor platform (.number left) (.number right)).or
      (floatModuloFunctor platform (.number left) (.number right))

/-- What a functor returns is stored as a number of the unifying type. -/
def BinaryFunctor.storesNegativeZero {left right : CppType} (functor : BinaryFunctor left right)
    (unifier : NumericType) (leftValue : left.Value) (rightValue : right.Value) : Bool :=
  match functor.result, functor.apply leftValue rightValue with
  | .number resultType, result =>
    unifier.isNegativeZero (staticCast platform resultType unifier result)
  | .datetimeLit, _ | .datetimeIntervalLit, _ | .yearMonthIntervalLit, _ => false

def BinaryOperation.storesNegativeZero (operation : BinaryOperation) (left right : DataType)
    (leftValue rightValue : TypedValue) : Bool :=
  !hasNullOperand left right leftValue rightValue &&
    match left.numericType?, right.numericType? with
    | some leftType, some rightType =>
      (operation.numbersFunctor platform leftType rightType).any fun functor =>
        functor.storesNegativeZero platform (numericTypeUnifier leftType rightType)
          (leftValue.getLiteral (.number leftType)) (rightValue.getLiteral (.number rightType))
    | some _, none | none, some _ | none, none => false

/-- Zero is negated to negative zero, and a cast may round to it. -/
def UnaryOperation.storesNegativeZero (operation : UnaryOperation) (type : DataType)
    (value : TypedValue) : Bool :=
  !(type.isNullable && value.isNull) &&
    match operation, type.numericType? with
    | .negate, some .float => value.getLiteral (.number .float) == 0
    | .negate, some .double => value.getLiteral (.number .double) == 0
    | .numericCast targetType, some source =>
      targetType.numericType?.any fun target =>
        target.isNegativeZero (staticCast platform source target (value.getLiteral (.number source)))
    | .negate, some .int | .negate, some .long | .negate, none | .numericCast _, none
    | .dateExtract _, _ | .substring _ _, _ => false

end Operations

end Quickstep.Types
