import Quickstep.Types.Operations

/-!
# Literals

The C++ types of the literals that a `TypedValue` holds in line, its constructors from them, and
`getLiteral`, which reads them back from the union without looking at the `TypeID`. What the
hardware computes on floating point numbers and what the C library does is a parameter.
-/

namespace Quickstep.Types

/-- `IntType`, `LongType`, `FloatType` and `DoubleType`, and the `cpptype` of each. -/
inductive NumericType where
  | int | long | float | double
  deriving DecidableEq, Repr

inductive CppType where
  | number (type : NumericType)
  | datetimeLit
  | datetimeIntervalLit
  | yearMonthIntervalLit
  deriving DecidableEq, Repr

/-- Floating point numbers are their bits. -/
abbrev NumericType.Value : NumericType → Type
  | int | float => BitVec 32
  | long | double => BitVec 64

/-- A datetime and a datetime interval are their ticks, a year-month interval its months. -/
abbrev CppType.Value : CppType → Type
  | number type => type.Value
  | datetimeLit | datetimeIntervalLit | yearMonthIntervalLit => BitVec 64

def NumericType.typeId : NumericType → TypeID
  | int => .int
  | long => .long
  | float => .float
  | double => .double

/-- The `TypeID` that the constructor of `TypedValue` from a literal sets. -/
def CppType.typeId : CppType → TypeID
  | number type => type.typeId
  | datetimeLit => .datetime
  | datetimeIntervalLit => .datetimeInterval
  | yearMonthIntervalLit => .yearMonthInterval

def NumericType.type : NumericType → Bool → DataType
  | int => .int
  | long => .long
  | float => .float
  | double => .double

def DataType.numericType? : DataType → Option NumericType
  | int _ => some .int
  | long _ => some .long
  | float _ => some .float
  | double _ => some .double
  | char _ _ | varChar _ _ | date _ | datetime _ | datetimeInterval _ | yearMonthInterval _
  | nullType => none

namespace TypedValue

theorem float_width : 0 < 32 := by decide

theorem double_width : 0 < 64 := by decide

/-- The constructors of `TypedValue` from a literal. -/
def ofLiteral : (type : CppType) → type.Value → TypedValue
  | .number .int, value => int value
  | .number .long, value => long value
  | .number .float, value => float (.ofBits float_width value)
  | .number .double, value => double (.ofBits double_width value)
  | .datetimeLit, ticks => datetime ticks
  | .datetimeIntervalLit, intervalTicks => datetimeInterval intervalTicks
  | .yearMonthIntervalLit, months => yearMonthInterval months

/-- `value_union_` of a little-endian machine. The address of a string is left out: it is never read
as a literal. -/
def valueUnion : TypedValue → BitVec 64
  | null _ | char _ | varChar _ => 0
  | int value => value.setWidth 64
  | float value => value.bits.setWidth 64
  | double value => value.bits
  | date year month day => (day ++ month ++ year).setWidth 64
  | long value | datetime value | datetimeInterval value | yearMonthInterval value => value

/-- In a release build `getLiteral` does not check the `TypeID`. -/
def getLiteral (value : TypedValue) : (type : CppType) → type.Value
  | .number .int | .number .float => value.valueUnion.setWidth 32
  | .number .long | .number .double => value.valueUnion
  | .datetimeLit | .datetimeIntervalLit | .yearMonthIntervalLit => value.valueUnion

@[simp] theorem getTypeID_ofLiteral (type : CppType) (value : type.Value) :
    (ofLiteral type value).getTypeID = type.typeId := by
  rcases type with type | _ | _ | _
  · cases type <;> rfl
  · rfl
  · rfl
  · rfl

@[simp] theorem isNull_ofLiteral (type : CppType) (value : type.Value) :
    (ofLiteral type value).isNull = false := by
  rcases type with type | _ | _ | _
  · cases type <;> rfl
  · rfl
  · rfl
  · rfl

/-- A literal is read back as the constructor stored it: the value holds nothing else. -/
theorem ofLiteral_getLiteral {value : TypedValue} {type : CppType}
    (same : value.getTypeID = type.typeId) (notNull : value.isNull = false) :
    ofLiteral type (value.getLiteral type) = value := by
  cases value with
  | null _ => cases notNull
  | int value =>
    obtain rfl : type = .number .int := by
      rcases type with (_ | _ | _ | _) | _ | _ | _ <;> first | rfl | cases same
    simp [ofLiteral, getLiteral, valueUnion]
  | long value =>
    obtain rfl : type = .number .long := by
      rcases type with (_ | _ | _ | _) | _ | _ | _ <;> first | rfl | cases same
    rfl
  | float value =>
    obtain rfl : type = .number .float := by
      rcases type with (_ | _ | _ | _) | _ | _ | _ <;> first | rfl | cases same
    simp [ofLiteral, getLiteral, valueUnion, Canonical.ofBits_bits]
  | double value =>
    obtain rfl : type = .number .double := by
      rcases type with (_ | _ | _ | _) | _ | _ | _ <;> first | rfl | cases same
    simp [ofLiteral, getLiteral, valueUnion, Canonical.ofBits_bits]
  | char _ | varChar _ | date _ _ _ =>
    rcases type with (_ | _ | _ | _) | _ | _ | _ <;> cases same
  | datetime _ | datetimeInterval _ | yearMonthInterval _ =>
    rcases type with (_ | _ | _ | _) | _ | _ | _ <;> first | rfl | cases same

end TypedValue

@[simp] theorem NumericType.getTypeID_type (type : NumericType) (nullable : Bool) :
    (type.type nullable).getTypeID = type.typeId := by
  cases type <;> rfl

@[simp] theorem NumericType.isNullable_type (type : NumericType) (nullable : Bool) :
    (type.type nullable).isNullable = nullable := by
  cases type <;> rfl

@[simp] theorem NumericType.numericType?_type (type : NumericType) (nullable : Bool) :
    (type.type nullable).numericType? = some type := by
  cases type <;> rfl

theorem DataType.eq_type_of_numericType? {type : DataType} {numeric : NumericType}
    (isNumeric : type.numericType? = some numeric) : type = numeric.type type.isNullable := by
  cases type <;> cases isNumeric <;> rfl

/-! ## The platform -/

/-- The fields of a broken-down time that the operators use. -/
structure Tm where
  tmYear : BitVec 32
  tmMon : BitVec 32
  tmMday : BitVec 32
  tmHour : BitVec 32
  tmMin : BitVec 32
  tmSec : BitVec 32

/-- What the hardware and the C library do: arithmetic on floating point numbers (modulo is `fmod`),
conversions that involve one, calendar time, and what fresh memory holds. -/
structure Platform where
  floatArithmetic : BinaryOperation → BitVec 32 → BitVec 32 → BitVec 32
  doubleArithmetic : BinaryOperation → BitVec 64 → BitVec 64 → BitVec 64
  convert : (source target : NumericType) → source.Value → target.Value
  gmtimeR : BitVec 64 → Tm
  timegm : Tm → BitVec 64
  malloc : BitVec 64 → List (BitVec 8)

section Arithmetic

variable (platform : Platform)

/-- `static_cast` between numbers. -/
def staticCast : (source target : NumericType) → source.Value → target.Value
  | .int, .int, value => value
  | .int, .long, value => value.signExtend 64
  | .long, .int, value => value.setWidth 32
  | .long, .long, value => value
  | .float, .float, value => value
  | .double, .double, value => value
  | source, target, value => platform.convert source target value

/-- Overflow and a zero divisor are undefined behaviour in the source. Here sums wrap around and
`x / 0 = 0`, which says nothing: what an evaluation comes to is defined in `integerIsDefined`. -/
def integerArithmetic {w : Nat} (operation : BinaryOperation) (left right : BitVec w) : BitVec w :=
  match operation with
  | .add => left + right
  | .subtract => left - right
  | .multiply => left * right
  | .divide => left.sdiv right
  | .modulo => left.srem right

/-- A built-in operator on two numbers of one type. -/
def arithmetic (operation : BinaryOperation) :
    (type : NumericType) → type.Value → type.Value → type.Value
  | .int => integerArithmetic operation
  | .long => integerArithmetic operation
  | .float => platform.floatArithmetic operation
  | .double => platform.doubleArithmetic operation

/-- The common type that C++ converts two numbers to. -/
def usualArithmeticConversion : NumericType → NumericType → NumericType
  | .double, _ | _, .double => .double
  | .float, _ | _, .float => .float
  | .long, _ | _, .long => .long
  | .int, .int => .int

end Arithmetic

end Quickstep.Types
