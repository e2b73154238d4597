import Quickstep.Types.Operations

/-!
# Messages for types, values and operations

The messages of `types/*.proto` and `types/operations/Operation.proto`, with `getProto`,
`ProtoIsValid` and `ReconstructFromProto`. A field is `none` until it is set, and reads as its
default then. An enumeration has no other values than those declared.
-/

namespace Quickstep.Types

/-! ## Types -/

inductive TypeIDProto where
  | int | long | float | double | char | varChar | datetime | datetimeInterval | yearMonthInterval
  | nullType | date
  deriving DecidableEq

structure TypeProto where
  typeId : Option TypeIDProto := none
  nullable : Option Bool := none
  charLength : Option (BitVec 64) := none
  varCharLength : Option (BitVec 64) := none
  deriving DecidableEq

def TypeProto.isInitialized (proto : TypeProto) : Bool :=
  proto.typeId.isSome && proto.nullable.isSome

/-- `Type::getProto` and its overrides for strings. -/
def DataType.getProto : DataType → TypeProto
  | int nullable => { typeId := some .int, nullable := some nullable }
  | long nullable => { typeId := some .long, nullable := some nullable }
  | float nullable => { typeId := some .float, nullable := some nullable }
  | double nullable => { typeId := some .double, nullable := some nullable }
  | date nullable => { typeId := some .date, nullable := some nullable }
  | datetime nullable => { typeId := some .datetime, nullable := some nullable }
  | datetimeInterval nullable => { typeId := some .datetimeInterval, nullable := some nullable }
  | yearMonthInterval nullable => { typeId := some .yearMonthInterval, nullable := some nullable }
  | nullType => { typeId := some .nullType, nullable := some true }
  | char length nullable =>
    { typeId := some .char, nullable := some nullable, charLength := some length }
  | varChar length nullable =>
    { typeId := some .varChar, nullable := some nullable, varCharLength := some length }

namespace TypeFactory

def protoIsValid (proto : TypeProto) : Bool :=
  proto.isInitialized &&
    match proto.typeId.getD .int with
    | .int | .long | .float | .double | .date | .datetime | .datetimeInterval | .yearMonthInterval =>
      true
    | .char => proto.charLength.isSome
    | .varChar => proto.varCharLength.isSome
    | .nullType => proto.nullable.getD false

def reconstructFromProto (proto : TypeProto) : DataType :=
  let nullable := proto.nullable.getD false
  match proto.typeId.getD .int with
  | .int => .int nullable
  | .long => .long nullable
  | .float => .float nullable
  | .double => .double nullable
  | .date => .date nullable
  | .datetime => .datetime nullable
  | .datetimeInterval => .datetimeInterval nullable
  | .yearMonthInterval => .yearMonthInterval nullable
  | .char => .char (proto.charLength.getD 0) nullable
  | .varChar => .varChar (proto.varCharLength.getD 0) nullable
  | .nullType => .nullType

theorem protoIsValid_getProto (type : DataType) : protoIsValid type.getProto = true := by
  cases type <;> rfl

theorem reconstruct_getProto (type : DataType) : reconstructFromProto type.getProto = type := by
  cases type <;> rfl

end TypeFactory

/-! ## Values -/

structure DateLitProto where
  year : Option (BitVec 32) := none
  month : Option (BitVec 32) := none
  day : Option (BitVec 32) := none
  deriving DecidableEq

structure TypedValueProto where
  typeId : Option TypeIDProto := none
  intValue : Option (BitVec 32) := none
  longValue : Option (BitVec 64) := none
  floatValue : Option (BitVec 32) := none
  doubleValue : Option (BitVec 64) := none
  outOfLineData : Option (List (BitVec 8)) := none
  datetimeValue : Option (BitVec 64) := none
  datetimeIntervalValue : Option (BitVec 64) := none
  yearMonthIntervalValue : Option (BitVec 64) := none
  dateValue : Option DateLitProto := none
  deriving DecidableEq

def DateLitProto.isInitialized (proto : DateLitProto) : Bool :=
  proto.year.isSome && proto.month.isSome && proto.day.isSome

namespace TypedValue

def typeIdProto : TypeID → TypeIDProto
  | .int => .int
  | .long => .long
  | .float => .float
  | .double => .double
  | .char => .char
  | .varChar => .varChar
  | .date => .date
  | .datetime => .datetime
  | .datetimeInterval => .datetimeInterval
  | .yearMonthInterval => .yearMonthInterval
  | .nullType => .nullType

/-- Only the type of a NULL is set. -/
def getProto : TypedValue → TypedValueProto
  | null typeId => { typeId := some (typeIdProto typeId) }
  | int value => { typeId := some .int, intValue := some value }
  | long value => { typeId := some .long, longValue := some value }
  | float value => { typeId := some .float, floatValue := some value.bits }
  | double value => { typeId := some .double, doubleValue := some value.bits }
  | date year month day =>
    { typeId := some .date
      dateValue := some
        { year := some year, month := some (month.setWidth 32), day := some (day.setWidth 32) } }
  | datetime ticks => { typeId := some .datetime, datetimeValue := some ticks }
  | datetimeInterval intervalTicks =>
    { typeId := some .datetimeInterval, datetimeIntervalValue := some intervalTicks }
  | yearMonthInterval months =>
    { typeId := some .yearMonthInterval, yearMonthIntervalValue := some months }
  | char data => { typeId := some .char, outOfLineData := some data }
  | varChar data => { typeId := some .varChar, outOfLineData := some data }

def protoIsValid (proto : TypedValueProto) : Bool :=
  proto.typeId.isSome && proto.dateValue.all DateLitProto.isInitialized

def reconstructFromProto (proto : TypedValueProto) : TypedValue :=
  match proto.typeId.getD .int with
  | .int => (proto.intValue.map int).getD (null .int)
  | .long => (proto.longValue.map long).getD (null .long)
  | .float =>
    (proto.floatValue.map fun bits => float (.ofBits (by decide) bits)).getD (null .float)
  | .double =>
    (proto.doubleValue.map fun bits => double (.ofBits (by decide) bits)).getD (null .double)
  | .date =>
    match proto.dateValue with
    | some literal =>
      date (literal.year.getD 0) ((literal.month.getD 0).setWidth 8)
        ((literal.day.getD 0).setWidth 8)
    | none => null .date
  | .datetime => (proto.datetimeValue.map datetime).getD (null .datetime)
  | .datetimeInterval =>
    (proto.datetimeIntervalValue.map datetimeInterval).getD (null .datetimeInterval)
  | .yearMonthInterval =>
    (proto.yearMonthIntervalValue.map yearMonthInterval).getD (null .yearMonthInterval)
  | .char => (proto.outOfLineData.map char).getD (null .char)
  | .varChar => (proto.outOfLineData.map varChar).getD (null .varChar)
  | .nullType => null .nullType

theorem protoIsValid_getProto (value : TypedValue) : protoIsValid value.getProto = true := by
  cases value <;> rfl

/-- **Literals survive**: the stored bits of a floating point number are never those of negative
zero, and month and day fit into a byte. -/
theorem reconstruct_getProto (value : TypedValue) :
    reconstructFromProto value.getProto = value := by
  cases value with
  | null typeId => cases typeId <;> rfl
  | float value =>
    show float (.ofBits _ value.bits) = float value
    rw [Canonical.ofBits_bits]
  | double value =>
    show double (.ofBits _ value.bits) = double value
    rw [Canonical.ofBits_bits]
  | date year month day =>
    show date year ((month.setWidth 32).setWidth 8) ((day.setWidth 32).setWidth 8) =
      date year month day
    rw [BitVec.setWidth_setWidth_of_le _ (by decide), BitVec.setWidth_setWidth_of_le _ (by decide),
      BitVec.setWidth_eq, BitVec.setWidth_eq]
  | int _ | long _ | char _ | varChar _ | datetime _ | datetimeInterval _ | yearMonthInterval _ => rfl

end TypedValue

/-! ## Operations -/

inductive ComparisonIDProto where
  | equal | notEqual | less | lessOrEqual | greater | greaterOrEqual | like | notLike | regexMatch
  | notRegexMatch
  deriving DecidableEq

structure ComparisonProto where
  comparisonId : Option ComparisonIDProto := none
  deriving DecidableEq

def ComparisonID.getProto : ComparisonID → ComparisonProto
  | equal => { comparisonId := some .equal }
  | notEqual => { comparisonId := some .notEqual }
  | less => { comparisonId := some .less }
  | lessOrEqual => { comparisonId := some .lessOrEqual }
  | greater => { comparisonId := some .greater }
  | greaterOrEqual => { comparisonId := some .greaterOrEqual }
  | like => { comparisonId := some .like }
  | notLike => { comparisonId := some .notLike }
  | regexMatch => { comparisonId := some .regexMatch }
  | notRegexMatch => { comparisonId := some .notRegexMatch }

namespace ComparisonFactory

def protoIsValid (proto : ComparisonProto) : Bool := proto.comparisonId.isSome

def reconstructFromProto (proto : ComparisonProto) : ComparisonID :=
  match proto.comparisonId.getD .equal with
  | .equal => .equal
  | .notEqual => .notEqual
  | .less => .less
  | .lessOrEqual => .lessOrEqual
  | .greater => .greater
  | .greaterOrEqual => .greaterOrEqual
  | .like => .like
  | .notLike => .notLike
  | .regexMatch => .regexMatch
  | .notRegexMatch => .notRegexMatch

theorem protoIsValid_getProto (comparison : ComparisonID) :
    protoIsValid comparison.getProto = true := by
  cases comparison <;> rfl

theorem reconstruct_getProto (comparison : ComparisonID) :
    reconstructFromProto comparison.getProto = comparison := by
  cases comparison <;> rfl

end ComparisonFactory

inductive UnaryOperationIDProto where
  | negate | cast | dateExtract | substring
  deriving DecidableEq

inductive DateExtractUnitProto where
  | year | month | day | hour | minute | second
  deriving DecidableEq

structure UnaryOperationProto where
  operationId : Option UnaryOperationIDProto := none
  targetType : Option TypeProto := none
  unit : Option DateExtractUnitProto := none
  startPosition : Option (BitVec 64) := none
  substringLength : Option (BitVec 64) := none
  deriving DecidableEq

def DateExtractUnit.toProto : DateExtractUnit → DateExtractUnitProto
  | year => .year
  | month => .month
  | day => .day
  | hour => .hour
  | minute => .minute
  | second => .second

/-- `UnaryOperation::getProto` and its overrides. -/
def UnaryOperation.getProto : UnaryOperation → UnaryOperationProto
  | negate => { operationId := some .negate }
  | numericCast targetType =>
    { operationId := some .cast, targetType := some targetType.getProto }
  | dateExtract unit => { operationId := some .dateExtract, unit := some unit.toProto }
  | substring startPosition substringLength =>
    { operationId := some .substring
      startPosition := some startPosition
      substringLength := some substringLength }

namespace UnaryOperationFactory

def protoIsValid (proto : UnaryOperationProto) : Bool :=
  proto.operationId.isSome && proto.targetType.all TypeProto.isInitialized &&
    match proto.operationId.getD .negate with
    | .negate => true
    | .cast => proto.targetType.any TypeFactory.protoIsValid
    | .dateExtract => proto.unit.isSome
    | .substring => proto.startPosition.isSome && proto.substringLength.isSome

def reconstructFromProto (proto : UnaryOperationProto) : UnaryOperation :=
  match proto.operationId.getD .negate with
  | .negate => .negate
  | .cast => .numericCast (TypeFactory.reconstructFromProto (proto.targetType.getD {}))
  | .dateExtract =>
    match proto.unit.getD .year with
    | .year => .dateExtract .year
    | .month => .dateExtract .month
    | .day => .dateExtract .day
    | .hour => .dateExtract .hour
    | .minute => .dateExtract .minute
    | .second => .dateExtract .second
  | .substring => .substring (proto.startPosition.getD 0) (proto.substringLength.getD 0)

theorem protoIsValid_getProto (operation : UnaryOperation) :
    protoIsValid operation.getProto = true := by
  cases operation with
  | negate => rfl
  | numericCast targetType => cases targetType <;> rfl
  | dateExtract unit => rfl
  | substring startPosition substringLength => rfl

theorem reconstruct_getProto (operation : UnaryOperation) :
    reconstructFromProto operation.getProto = operation := by
  cases operation with
  | negate => rfl
  | numericCast targetType =>
    show UnaryOperation.numericCast _ = _
    rw [UnaryOperation.getProto, Option.getD_some, TypeFactory.reconstruct_getProto]
  | dateExtract unit => cases unit <;> rfl
  | substring startPosition substringLength => rfl

end UnaryOperationFactory

inductive BinaryOperationIDProto where
  | add | subtract | multiply | divide | modulo
  deriving DecidableEq

structure BinaryOperationProto where
  operationId : Option BinaryOperationIDProto := none
  deriving DecidableEq

def BinaryOperation.getProto : BinaryOperation → BinaryOperationProto
  | add => { operationId := some .add }
  | subtract => { operationId := some .subtract }
  | multiply => { operationId := some .multiply }
  | divide => { operationId := some .divide }
  | modulo => { operationId := some .modulo }

namespace BinaryOperationFactory

def protoIsValid (proto : BinaryOperationProto) : Bool := proto.operationId.isSome

def reconstructFromProto (proto : BinaryOperationProto) : BinaryOperation :=
  match proto.operationId.getD .add with
  | .add => .add
  | .subtract => .subtract
  | .multiply => .multiply
  | .divide => .divide
  | .modulo => .modulo

theorem protoIsValid_getProto (operation : BinaryOperation) :
    protoIsValid operation.getProto = true := by
  cases operation <;> rfl

theorem reconstruct_getProto (operation : BinaryOperation) :
    reconstructFromProto operation.getProto = operation := by
  cases operation <;> rfl

end BinaryOperationFactory

end Quickstep.Types
