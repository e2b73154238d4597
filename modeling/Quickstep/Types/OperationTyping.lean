import Quickstep.Types.BinaryOperations
import Quickstep.Types.UnaryOperations

/-!
# Result types of operations

An operation announces a result type for the types of its arguments and computes values by functors
that its dispatch picks. For every operation and every argument type it applies to, the two are
compared: all values have the `TypeID` of the result type, but for the modulo of an INT and a FLOAT
by an unchecked operator, which is a DOUBLE.
-/

namespace Quickstep.Types

section Unary

variable {platform : Platform}

/-- What a unary operation does on an argument type it applies to. -/
structure UnaryOperation.TypedAt (platform : Platform) (operation : UnaryOperation)
    (type resultType : DataType) : Prop where
  announced : operation.resultTypeForArgumentType type = some resultType
  nullable : type.isNullable = true → resultType.isNullable = true
  checked : ∀ argument, type.Admits argument →
    ∃ value, operation.applyToChecked platform argument type = some value ∧
      resultType.Returns argument.isNull value
  unchecked : ∀ fastOperator,
    operation.makeUncheckedUnaryOperatorForType platform type = some fastOperator →
      ∀ argument, (argument.isNull = true → type.Admits argument) →
        resultType.Returns argument.isNull (fastOperator.applyToTypedValue argument)

theorem nullable_of_isCoercibleFrom {type originalType : DataType}
    (coercible : type.isCoercibleFrom originalType = true)
    (nullable : originalType.isNullable = true) : type.isNullable = true := by
  have checked {otherwise : Bool}
      (check : type.nullCoercibilityCheck originalType otherwise = true) :
      type.isNullable = true := by
    unfold DataType.nullCoercibilityCheck at check
    split at check
    · cases check
    · rename_i both
      simpa [nullable] using both
  cases type <;> first | rfl | exact checked coercible

/-- An operator that returns a NULL of its own for a NULL argument. -/
theorem returns_unless_null {type resultType : DataType} {argument null value : TypedValue}
    (admits : argument.isNull = true → type.Admits argument)
    (onNull : argument.isNull = true → resultType.Returns true null)
    (returns : resultType.Returns false value) :
    resultType.Returns argument.isNull
      (if type.isNullable && argument.isNull then null else value) := by
  cases isNull : argument.isNull with
  | true =>
    rw [if_pos (by rw [(admits isNull).nullable isNull]; rfl)]
    exact onNull isNull
  | false =>
    rw [if_neg (by simp)]
    exact returns

theorem negate_typedAt {type : DataType}
    (can : UnaryOperation.negate.canApplyToType type = true) :
    UnaryOperation.negate.TypedAt platform type type := by
  obtain ⟨functor, found, typeId⟩ : ∃ functor,
      NegateUnaryOperation.negateFunctor type.getTypeID = some functor ∧
        functor.result.typeId = type.getTypeID := by
    cases type <;> first | exact ⟨_, rfl, rfl⟩ | cases can
  refine ⟨if_pos can, id, fun argument admits => ?_, fun fastOperator made argument admits => ?_⟩
  · rw [UnaryOperation.applyToChecked, NegateUnaryOperation.applyToChecked]
    cases isNull : argument.isNull with
    | true => exact ⟨argument, if_pos rfl, admits.typeId, isNull⟩
    | false =>
      rw [if_neg (by simp), admits.typeId, found]
      exact ⟨_, rfl, by rw [UnaryFunctor.getTypeID_applyTo, typeId], by simp⟩
  · rw [UnaryOperation.makeUncheckedUnaryOperatorForType,
      NegateUnaryOperation.makeUncheckedUnaryOperatorForType, found] at made
    cases made
    refine returns_unless_null admits (fun isNull => ⟨(admits isNull).typeId, isNull⟩) ⟨?_, by simp⟩
    rw [UnaryFunctor.getTypeID_applyTo, typeId]

theorem numericCast_typedAt {targetType type : DataType}
    (can : (UnaryOperation.numericCast targetType).canApplyToType type = true) :
    (UnaryOperation.numericCast targetType).TypedAt platform type targetType := by
  refine ⟨if_pos can, nullable_of_isCoercibleFrom can,
    fun argument admits => DataType.coerceValue_returns platform targetType admits can,
    fun fastOperator made argument admits => ?_⟩
  rw [UnaryOperation.makeUncheckedUnaryOperatorForType,
    NumericCastOperation.makeUncheckedUnaryOperatorForType] at made
  cases isTarget : targetType.numericType? with
  | none => cases source : type.numericType? <;> simp [isTarget, source] at made
  | some target =>
    cases isSource : type.numericType? with
    | none => simp [isTarget, isSource] at made
    | some source =>
      have typeId : targetType.getTypeID = target.typeId := by
        rw [DataType.eq_type_of_numericType? isTarget, NumericType.getTypeID_type]
      simp only [isTarget, isSource, Option.some.injEq] at made
      subst made
      refine returns_unless_null admits (fun _ => ⟨typeId.symm, rfl⟩) ⟨?_, by simp⟩
      rw [UnaryFunctor.getTypeID_applyTo, typeId]
      rfl

theorem dateExtract_typedAt {unit : DateExtractUnit} {type : DataType}
    (can : (UnaryOperation.dateExtract unit).canApplyToType type = true) :
    (UnaryOperation.dateExtract unit).TypedAt platform type (.long type.isNullable) := by
  have isDatetime : type.getTypeID = .datetime := of_decide_eq_true can
  refine ⟨if_pos isDatetime, id, fun argument admits => ?_, fun fastOperator made argument admits => ?_⟩
  · rw [UnaryOperation.applyToChecked, DateExtractOperation.applyToChecked,
      if_neg (by simp [admits.typeId, isDatetime])]
    cases isNull : argument.isNull with
    | true => exact ⟨_, if_pos rfl, rfl, rfl⟩
    | false => exact ⟨_, if_neg (by simp), by simp [DateExtractOperation.dateExtract]; rfl, by simp⟩
  · cases made
    refine returns_unless_null admits (fun _ => ⟨rfl, rfl⟩) ⟨?_, by simp⟩
    rw [UnaryFunctor.getTypeID_applyTo]
    rfl

theorem substring_typedAt {startPosition substringLength : BitVec 64} {type : DataType}
    (can : (UnaryOperation.substring startPosition substringLength).canApplyToType type = true) :
    (UnaryOperation.substring startPosition substringLength).TypedAt platform type
      (.char (SubstringOperation.computeMaximumSubstringLength startPosition substringLength type)
        type.isNullable) := by
  have isString : type.getSuperTypeID = .asciiString := of_decide_eq_true can
  have resultType : SubstringOperation.resultTypeForArgumentType startPosition substringLength type =
      some (.char (SubstringOperation.computeMaximumSubstringLength startPosition substringLength type)
        type.isNullable) := if_pos isString
  refine ⟨resultType, id, fun argument admits => ?_, fun fastOperator made argument admits => ?_⟩
  · rw [UnaryOperation.applyToChecked, SubstringOperation.applyToChecked, resultType]
    exact ⟨_, rfl, returns_unless_null (fun _ => admits) (fun _ => ⟨rfl, rfl⟩) ⟨rfl, rfl⟩⟩
  · rw [UnaryOperation.makeUncheckedUnaryOperatorForType,
      SubstringOperation.makeUncheckedUnaryOperatorForType, resultType] at made
    cases made
    exact returns_unless_null admits (fun _ => ⟨rfl, rfl⟩) ⟨rfl, rfl⟩

/-- **Unary operations return their result type.** -/
theorem UnaryOperation.typedAt (operation : UnaryOperation) {type : DataType}
    (can : operation.canApplyToType type = true) :
    ∃ resultType, operation.TypedAt platform type resultType := by
  cases operation with
  | negate => exact ⟨_, negate_typedAt can⟩
  | numericCast targetType => exact ⟨_, numericCast_typedAt can⟩
  | dateExtract unit => exact ⟨_, dateExtract_typedAt can⟩
  | substring startPosition substringLength => exact ⟨_, substring_typedAt can⟩

end Unary

/-! ## Binary operations -/

/-- The argument types on which an unchecked operator computes in another type than it announces:
`std::fmod` of an int and a float is a double. -/
def BinaryOperation.promotesToDouble (operation : BinaryOperation) (left right : DataType) : Bool :=
  match operation, left, right with
  | .modulo, .int _, .float _ | .modulo, .float _, .int _ => true
  | _, _, _ => false

/-- What a binary operation does on argument types it applies to. -/
structure BinaryOperation.TypedAt (platform : Platform) (operation : BinaryOperation)
    (left right resultType : DataType) : Prop where
  announced : operation.resultTypeForArgumentTypes left right = some resultType
  nullable : resultType.isNullable = (left.isNullable || right.isNullable)
  promoted : operation.promotesToDouble left right = true → resultType.getTypeID = .float
  checked : ∀ leftValue rightValue, left.Admits leftValue → right.Admits rightValue →
    ∃ value, operation.applyToChecked platform leftValue left rightValue right = some value ∧
      resultType.Returns (leftValue.isNull || rightValue.isNull) value
  unchecked : ∃ fastOperator,
    operation.makeUncheckedBinaryOperatorForTypes platform left right = some fastOperator ∧
      ∀ leftValue rightValue, (leftValue.isNull = true → left.isNullable = true) →
        (rightValue.isNull = true → right.isNullable = true) →
        let null := leftValue.isNull || rightValue.isNull
        let value := fastOperator.applyToTypedValues leftValue rightValue
        value.isNull = null ∧
          value.getTypeID =
            if operation.promotesToDouble left right && !null then .double
            else resultType.getTypeID

section Binary

variable {platform : Platform}

/-- An operator returns a NULL of `resultType`, and otherwise what the functor returns. -/
theorem arithmeticUnchecked_returns {leftType rightType : CppType}
    (functor : BinaryFunctor leftType rightType) (resultType : CppType)
    {leftNullable rightNullable : Bool} (store : functor.result.Value → TypedValue)
    {leftValue rightValue : TypedValue} (left : leftValue.isNull = true → leftNullable = true)
    (right : rightValue.isNull = true → rightNullable = true) :
    let null := leftValue.isNull || rightValue.isNull
    let value := (arithmeticUncheckedBinaryOperator functor resultType leftNullable rightNullable
      store).applyToTypedValues leftValue rightValue
    value.isNull = null ∧
      value.getTypeID = if null then resultType.typeId else functor.result.typeId := by
  have flags : (leftNullable && leftValue.isNull || rightNullable && rightValue.isNull) =
      (leftValue.isNull || rightValue.isNull) := by
    cases leftNull : leftValue.isNull <;> cases rightNull : rightValue.isNull <;> simp_all
  simp only [arithmeticUncheckedBinaryOperator, flags]
  cases leftValue.isNull || rightValue.isNull with
  | true => exact ⟨rfl, rfl⟩
  | false => exact ⟨by simp, by simp⟩

theorem applyFunctor_eq {opFunctor : OpFunctor} {leftType rightType : CppType}
    {functor : BinaryFunctor leftType rightType}
    (overload : opFunctor leftType rightType = some functor) (left right : TypedValue) :
    ∃ value, applyFunctor opFunctor leftType rightType left right = some value ∧
      value.getTypeID = functor.result.typeId ∧ value.isNull = false := by
  rw [applyFunctor, overload]
  exact ⟨_, rfl, by simp, by simp⟩

theorem applyToCheckedDate_returns {opFunctor : OpFunctor} {leftType rightType : CppType}
    {functor : BinaryFunctor leftType rightType} {resultType : DataType} {nullId : TypeID}
    (overload : opFunctor leftType rightType = some functor) (isNullId : nullId = resultType.getTypeID)
    (typeId : functor.result.typeId = resultType.getTypeID) (left right : TypedValue) :
    ∃ value, applyToCheckedDate opFunctor nullId leftType rightType left right = some value ∧
      resultType.Returns (left.isNull || right.isNull) value := by
  unfold applyToCheckedDate
  cases left.isNull || right.isNull with
  | true => exact ⟨_, if_pos rfl, isNullId, rfl⟩
  | false =>
    obtain ⟨value, applied, resultId, notNull⟩ := applyFunctor_eq overload left right
    exact ⟨value, by rw [if_neg (by simp), applied], resultId.trans typeId, notNull⟩

/-- A numeric type unifies with every other one by coercion. -/
theorem isCoercibleFrom_unifier (left right : NumericType) (leftNullable rightNullable : Bool) :
    ((numericTypeUnifier left right).type (leftNullable || rightNullable)).isCoercibleFrom
        (left.type leftNullable) = true ∧
      ((numericTypeUnifier left right).type (leftNullable || rightNullable)).isCoercibleFrom
        (right.type rightNullable) = true := by
  cases left <;> cases right <;> cases leftNullable <;> cases rightNullable <;> exact ⟨rfl, rfl⟩

theorem applyToCheckedNumericHelper_returns {opFunctor : OpFunctor} {left right : NumericType}
    {leftNullable rightNullable : Bool}
    {functor : BinaryFunctor (.number (numericTypeUnifier left right))
      (.number (numericTypeUnifier left right))}
    (overload : opFunctor _ _ = some functor)
    (typeId : functor.result.typeId = (numericTypeUnifier left right).typeId)
    {leftValue rightValue : TypedValue} (leftAdmits : (left.type leftNullable).Admits leftValue)
    (rightAdmits : (right.type rightNullable).Admits rightValue) :
    ∃ value, applyToCheckedNumericHelper platform opFunctor leftValue (left.type leftNullable)
        rightValue (right.type rightNullable) = some value ∧
      ((numericTypeUnifier left right).type (leftNullable || rightNullable)).Returns
        (leftValue.isNull || rightValue.isNull) value := by
  obtain ⟨fromLeft, fromRight⟩ := isCoercibleFrom_unifier left right leftNullable rightNullable
  obtain ⟨leftCoerced, leftCoerces, -⟩ :=
    DataType.coerceValue_returns platform _ leftAdmits fromLeft
  obtain ⟨rightCoerced, rightCoerces, -⟩ :=
    DataType.coerceValue_returns platform _ rightAdmits fromRight
  simp only [applyToCheckedNumericHelper, getUnifyingType_numeric, Option.bind_eq_bind,
    Option.bind_some]
  cases leftValue.isNull || rightValue.isNull with
  | true => exact ⟨_, if_pos rfl, rfl, rfl⟩
  | false =>
    obtain ⟨value, applied, resultId, notNull⟩ := applyFunctor_eq overload leftCoerced rightCoerced
    refine ⟨value, ?_, by rw [resultId, typeId, NumericType.getTypeID_type], notNull⟩
    rw [if_neg (by simp), leftCoerces, rightCoerces, NumericType.numericType?_type]
    exact applied

theorem makeNumeric_eq {opFunctor : OpFunctor} {left right : NumericType}
    (leftNullable rightNullable : Bool) {functor : BinaryFunctor (.number left) (.number right)}
    (overload : opFunctor (.number left) (.number right) = some functor) :
    ∃ store, makeNumericBinaryOperatorOuterHelper platform opFunctor (left.type leftNullable)
        (right.type rightNullable) =
      some (arithmeticUncheckedBinaryOperator functor (.number (numericTypeUnifier left right))
        leftNullable rightNullable store) := by
  simp only [makeNumericBinaryOperatorOuterHelper, NumericType.numericType?_type, overload,
    Option.map_some, NumericType.isNullable_type]
  exact ⟨_, rfl⟩

theorem unifier_of_promotesToDouble {operation : BinaryOperation} {left right : NumericType}
    {leftNullable rightNullable : Bool}
    (promotes : operation.promotesToDouble (left.type leftNullable) (right.type rightNullable) =
      true) : numericTypeUnifier left right = .float := by
  cases left <;> cases right <;> first | rfl | (cases operation <;> cases promotes)

/-- Numbers of two types, by one functor template on both paths. -/
theorem typedAt_numeric {operation : BinaryOperation} {opFunctor : OpFunctor}
    {left right : NumericType} {leftNullable rightNullable : Bool}
    {functor : BinaryFunctor (.number left) (.number right)}
    {unified : BinaryFunctor (.number (numericTypeUnifier left right))
      (.number (numericTypeUnifier left right))}
    (announced : operation.resultTypeForArgumentTypes (left.type leftNullable)
      (right.type rightNullable) =
        TypeFactory.getUnifyingType (left.type leftNullable) (right.type rightNullable))
    (checked : ∀ leftValue rightValue,
      operation.applyToChecked platform leftValue (left.type leftNullable) rightValue
          (right.type rightNullable) =
        applyToCheckedNumericHelper platform opFunctor leftValue (left.type leftNullable) rightValue
          (right.type rightNullable))
    (unchecked : operation.makeUncheckedBinaryOperatorForTypes platform (left.type leftNullable)
        (right.type rightNullable) =
      makeNumericBinaryOperatorOuterHelper platform opFunctor (left.type leftNullable)
        (right.type rightNullable))
    (overload : opFunctor (.number left) (.number right) = some functor)
    (unifiedOverload : opFunctor _ _ = some unified)
    (unifiedId : unified.result.typeId = (numericTypeUnifier left right).typeId)
    (typeId : functor.result.typeId =
      if operation.promotesToDouble (left.type leftNullable) (right.type rightNullable) then .double
      else (numericTypeUnifier left right).typeId) :
    ∃ resultType, operation.TypedAt platform (left.type leftNullable) (right.type rightNullable)
      resultType := by
  refine ⟨(numericTypeUnifier left right).type (leftNullable || rightNullable), ?_, ?_, ?_, ?_, ?_⟩
  · rw [announced, getUnifyingType_numeric]
  · simp
  · intro promotes
    rw [NumericType.getTypeID_type, unifier_of_promotesToDouble promotes]
    rfl
  · intro leftValue rightValue leftAdmits rightAdmits
    rw [checked]
    exact applyToCheckedNumericHelper_returns unifiedOverload unifiedId leftAdmits rightAdmits
  · obtain ⟨store, made⟩ := makeNumeric_eq leftNullable rightNullable overload
    refine ⟨_, unchecked.trans made, fun leftValue rightValue leftNull rightNull => ?_⟩
    rw [NumericType.isNullable_type] at leftNull rightNull
    have returns := arithmeticUnchecked_returns functor
      (.number (numericTypeUnifier left right)) store leftNull rightNull
    refine ⟨returns.1, returns.2.trans ?_⟩
    rw [typeId, NumericType.getTypeID_type]
    cases leftValue.isNull || rightValue.isNull <;> simp [CppType.typeId]

/-- A date or interval operator, by one functor on both paths. -/
theorem typedAt_date {operation : BinaryOperation} {left right resultType : DataType}
    (opFunctor : OpFunctor) (leftType rightType : CppType)
    {functor : BinaryFunctor leftType rightType}
    (overload : opFunctor leftType rightType = some functor)
    (announced : operation.resultTypeForArgumentTypes left right = some resultType)
    (nullable : resultType.isNullable = (left.isNullable || right.isNullable))
    (typeId : functor.result.typeId = resultType.getTypeID)
    (checked : ∀ leftValue rightValue, ∃ value,
      operation.applyToChecked platform leftValue left rightValue right = some value ∧
        resultType.Returns (leftValue.isNull || rightValue.isNull) value)
    (unchecked : operation.makeUncheckedBinaryOperatorForTypes platform left right =
      makeDateBinaryOperatorOuterHelper opFunctor functor.result leftType rightType left right)
    (asAnnounced : operation.promotesToDouble left right = false) :
    operation.TypedAt platform left right resultType := by
  refine ⟨announced, nullable, ?_, fun leftValue rightValue _ _ =>
    checked leftValue rightValue, ?_⟩
  · intro promotes
    rw [asAnnounced] at promotes
    cases promotes
  · rw [makeDateBinaryOperatorOuterHelper, overload] at unchecked
    refine ⟨_, unchecked, fun leftValue rightValue leftNull rightNull => ?_⟩
    have returns := arithmeticUnchecked_returns functor functor.result (.ofLiteral functor.result)
      leftNull rightNull
    refine ⟨returns.1, returns.2.trans ?_⟩
    rw [ite_self, typeId, asAnnounced]
    rfl

theorem typedAt_numbers (operation : BinaryOperation) (left right : NumericType)
    (leftNullable rightNullable : Bool) :
    ∃ resultType, operation.TypedAt platform (left.type leftNullable) (right.type rightNullable)
      resultType := by
  cases operation <;> cases left <;> cases right <;>
    exact typedAt_numeric rfl (fun _ _ => rfl) rfl rfl rfl rfl rfl

theorem DataType.number_or_other (type : DataType) :
    (∃ numeric nullable, type = NumericType.type numeric nullable) ∨ type.numericType? = none := by
  cases isNumeric : type.numericType? with
  | none => exact .inr rfl
  | some numeric => exact .inl ⟨numeric, _, eq_type_of_numericType? isNumeric⟩

theorem add_typedAt {left right : DataType}
    (can : BinaryOperation.add.canApplyToTypes left right = true) (other : left.numericType? = none) :
    ∃ resultType, BinaryOperation.add.TypedAt platform left right resultType := by
  cases left with
  | datetime leftNullable =>
    cases right with
    | datetimeInterval rightNullable =>
      exact ⟨_, typedAt_date (addFunctor platform) .datetimeLit .datetimeIntervalLit rfl rfl rfl rfl
        (applyToCheckedDate_returns rfl rfl rfl) rfl rfl⟩
    | yearMonthInterval rightNullable =>
      exact ⟨_, typedAt_date (addFunctor platform) .datetimeLit .yearMonthIntervalLit rfl rfl rfl rfl
        (applyToCheckedDate_returns rfl rfl rfl) rfl rfl⟩
    | _ => cases can
  | datetimeInterval leftNullable =>
    cases right with
    | datetime rightNullable =>
      exact ⟨_, typedAt_date (addFunctor platform) .datetimeIntervalLit .datetimeLit rfl rfl rfl rfl
        (applyToCheckedDate_returns rfl rfl rfl) rfl rfl⟩
    | datetimeInterval rightNullable =>
      exact ⟨_, typedAt_date (addFunctor platform) .datetimeIntervalLit .datetimeIntervalLit rfl rfl rfl rfl
        (applyToCheckedDate_returns rfl rfl rfl) rfl rfl⟩
    | _ => cases can
  | yearMonthInterval leftNullable =>
    cases right with
    | datetime rightNullable =>
      exact ⟨_, typedAt_date (addFunctor platform) .yearMonthIntervalLit .datetimeLit rfl rfl rfl rfl
        (applyToCheckedDate_returns rfl rfl rfl) rfl rfl⟩
    | yearMonthInterval rightNullable =>
      exact ⟨_, typedAt_date (addFunctor platform) .yearMonthIntervalLit .yearMonthIntervalLit rfl rfl rfl rfl
        (applyToCheckedDate_returns rfl rfl rfl) rfl rfl⟩
    | _ => cases can
  | int | long | float | double => cases other
  | char | varChar | date | nullType => cases can

theorem subtract_typedAt {left right : DataType}
    (can : BinaryOperation.subtract.canApplyToTypes left right = true) (other : left.numericType? = none) :
    ∃ resultType, BinaryOperation.subtract.TypedAt platform left right resultType := by
  cases left with
  | datetime leftNullable =>
    cases right with
    | datetime rightNullable =>
      exact ⟨_, typedAt_date (subtractFunctor platform) .datetimeLit .datetimeLit rfl rfl rfl rfl
        (applyToCheckedDate_returns rfl rfl rfl) rfl rfl⟩
    | datetimeInterval rightNullable =>
      exact ⟨_, typedAt_date (subtractFunctor platform) .datetimeLit .datetimeIntervalLit rfl rfl rfl rfl
        (applyToCheckedDate_returns rfl rfl rfl) rfl rfl⟩
    | yearMonthInterval rightNullable =>
      exact ⟨_, typedAt_date (subtractFunctor platform) .datetimeLit .yearMonthIntervalLit rfl rfl rfl rfl
        (applyToCheckedDate_returns rfl rfl rfl) rfl rfl⟩
    | _ => cases can
  | datetimeInterval leftNullable =>
    cases right with
    | datetimeInterval rightNullable =>
      exact ⟨_, typedAt_date (subtractFunctor platform) .datetimeIntervalLit .datetimeIntervalLit rfl rfl rfl rfl
        (applyToCheckedDate_returns rfl rfl rfl) rfl rfl⟩
    | _ => cases can
  | yearMonthInterval leftNullable =>
    cases right with
    | yearMonthInterval rightNullable =>
      exact ⟨_, typedAt_date (subtractFunctor platform) .yearMonthIntervalLit .yearMonthIntervalLit rfl rfl rfl rfl
        (applyToCheckedDate_returns rfl rfl rfl) rfl rfl⟩
    | _ => cases can
  | int | long | float | double => cases other
  | char | varChar | date | nullType => cases can

theorem multiply_typedAt {left right : DataType}
    (can : BinaryOperation.multiply.canApplyToTypes left right = true) (other : left.numericType? = none) :
    ∃ resultType, BinaryOperation.multiply.TypedAt platform left right resultType := by
  cases left with
  | datetimeInterval leftNullable =>
    obtain ⟨number, rightNullable, rfl⟩ | notNumber := right.number_or_other
    · cases number <;> exact ⟨_, typedAt_date (multiplyFunctor platform) .datetimeIntervalLit (.number _) rfl rfl rfl
        rfl (applyToCheckedDate_returns rfl rfl rfl) rfl rfl⟩
    · cases right <;> first | (cases can; done) | cases notNumber
  | yearMonthInterval leftNullable =>
    obtain ⟨number, rightNullable, rfl⟩ | notNumber := right.number_or_other
    · cases number <;> exact ⟨_, typedAt_date (multiplyFunctor platform) .yearMonthIntervalLit (.number _) rfl rfl rfl
        rfl (applyToCheckedDate_returns rfl rfl rfl) rfl rfl⟩
    · cases right <;> first | (cases can; done) | cases notNumber
  | int | long | float | double => cases other
  | char | varChar | date | datetime | nullType => cases can

theorem divide_typedAt {left right : DataType}
    (can : BinaryOperation.divide.canApplyToTypes left right = true) (other : left.numericType? = none) :
    ∃ resultType, BinaryOperation.divide.TypedAt platform left right resultType := by
  cases left with
  | datetimeInterval leftNullable =>
    obtain ⟨number, rightNullable, rfl⟩ | notNumber := right.number_or_other
    · cases number <;> exact ⟨_, typedAt_date (divideFunctor platform) .datetimeIntervalLit (.number _) rfl rfl rfl
        rfl (applyToCheckedDate_returns rfl rfl rfl) rfl rfl⟩
    · cases right <;> first | (cases can; done) | cases notNumber
  | yearMonthInterval leftNullable =>
    obtain ⟨number, rightNullable, rfl⟩ | notNumber := right.number_or_other
    · cases number <;> exact ⟨_, typedAt_date (divideFunctor platform) .yearMonthIntervalLit (.number _) rfl rfl rfl
        rfl (applyToCheckedDate_returns rfl rfl rfl) rfl rfl⟩
    · cases right <;> first | (cases can; done) | cases notNumber
  | int | long | float | double => cases other
  | char | varChar | date | datetime | nullType => cases can

theorem applyToCheckedMultiply_returns {resultType : DataType} {intervalType : CppType}
    {number : NumericType} {functor : BinaryFunctor intervalType (.number number)}
    (overload : multiplyFunctor platform intervalType (.number number) = some functor)
    (isNullId : intervalType.typeId = resultType.getTypeID)
    (typeId : functor.result.typeId = resultType.getTypeID) (value interval : TypedValue) :
    ∃ product, applyToCheckedDate (multiplyFunctor platform) intervalType.typeId intervalType
        (.number number) interval value = some product ∧
      resultType.Returns (value.isNull || interval.isNull) product := by
  rw [Bool.or_comm]
  exact applyToCheckedDate_returns overload isNullId typeId interval value

theorem multiply_number_typedAt (number : NumericType) (nullable : Bool) {right : DataType}
    (can : BinaryOperation.multiply.canApplyToTypes (number.type nullable) right = true)
    (other : right.numericType? = none) :
    ∃ resultType, BinaryOperation.multiply.TypedAt platform (number.type nullable) right
      resultType := by
  cases right with
  | datetimeInterval rightNullable =>
    cases number <;> exact ⟨_, typedAt_date (multiplyFunctor platform) (.number _)
      .datetimeIntervalLit rfl rfl rfl rfl (applyToCheckedMultiply_returns rfl rfl rfl) rfl rfl⟩
  | yearMonthInterval rightNullable =>
    cases number <;> exact ⟨_, typedAt_date (multiplyFunctor platform) (.number _)
      .yearMonthIntervalLit rfl rfl rfl rfl (applyToCheckedMultiply_returns rfl rfl rfl) rfl rfl⟩
  | int | long | float | double => cases other
  | char | varChar | date | datetime | nullType => cases number <;> cases can

/-- **Binary operations return their result type**, but for the modulo of an int and a float. -/
theorem BinaryOperation.typedAt (operation : BinaryOperation) {left right : DataType}
    (can : operation.canApplyToTypes left right = true) :
    ∃ resultType, operation.TypedAt platform left right resultType := by
  obtain ⟨leftNumber, leftNullable, rfl⟩ | leftOther := left.number_or_other
  · obtain ⟨rightNumber, rightNullable, rfl⟩ | rightOther := right.number_or_other
    · exact typedAt_numbers operation leftNumber rightNumber leftNullable rightNullable
    · cases operation with
      | multiply => exact multiply_number_typedAt leftNumber leftNullable can rightOther
      | add | subtract | divide | modulo =>
        -- these take a number with numbers only
        cases leftNumber <;> cases right <;> first | (cases can; done) | cases rightOther
  · cases operation with
    | add => exact add_typedAt can leftOther
    | subtract => exact subtract_typedAt can leftOther
    | multiply => exact multiply_typedAt can leftOther
    | divide => exact divide_typedAt can leftOther
    | modulo => cases left <;> first | cases can | cases leftOther

end Binary

/-! ## The methods of the operations -/

/-- The unary and binary operations of the source, with the comparisons of `comparisons`. -/
def operations (platform : Platform) (comparisons : Operations) : Operations :=
  { comparisons with
    canApplyToType := UnaryOperation.canApplyToType
    resultTypeForArgumentType := UnaryOperation.resultTypeForArgumentType
    applyToCheckedUnary := fun operation argument type =>
      (operation.applyToChecked platform argument type).getD default
    makeUncheckedUnaryOperatorForType := fun operation type =>
      (operation.makeUncheckedUnaryOperatorForType platform type).getD (defaultUnaryOperator id)
    canApplyToTypes := BinaryOperation.canApplyToTypes
    resultTypeForArgumentTypes := BinaryOperation.resultTypeForArgumentTypes
    applyToCheckedBinary := fun operation left leftType right rightType =>
      (operation.applyToChecked platform left leftType right rightType).getD default
    makeUncheckedBinaryOperatorForTypes := fun operation left right =>
      (operation.makeUncheckedBinaryOperatorForTypes platform left right).getD
        (defaultBinaryOperator fun left _ => left) }

section Operations

variable {platform : Platform} {comparisons : Operations}

theorem operations_resultTypeForArgumentType {operation : UnaryOperation} {type resultType : DataType}
    (announced : operation.resultTypeForArgumentType type = some resultType) :
    (operations platform comparisons).resultTypeForArgumentType operation type = some resultType :=
  announced

theorem operations_applyToCheckedUnary {operation : UnaryOperation} {argument value : TypedValue}
    {type : DataType} (applied : operation.applyToChecked platform argument type = some value) :
    (operations platform comparisons).applyToCheckedUnary operation argument type = value :=
  congrArg (Option.getD · default) applied

theorem operations_makeUncheckedUnaryOperator {operation : UnaryOperation} {type : DataType}
    {fastOperator : UncheckedUnaryOperator}
    (made : operation.makeUncheckedUnaryOperatorForType platform type = some fastOperator) :
    (operations platform comparisons).makeUncheckedUnaryOperatorForType operation type =
      fastOperator :=
  congrArg (Option.getD · (defaultUnaryOperator id)) made

theorem operations_resultTypeForArgumentTypes {operation : BinaryOperation}
    {left right resultType : DataType}
    (announced : operation.resultTypeForArgumentTypes left right = some resultType) :
    (operations platform comparisons).resultTypeForArgumentTypes operation left right =
      some resultType :=
  announced

theorem operations_applyToCheckedBinary {operation : BinaryOperation}
    {left right value : TypedValue} {leftType rightType : DataType}
    (applied : operation.applyToChecked platform left leftType right rightType = some value) :
    (operations platform comparisons).applyToCheckedBinary operation left leftType right rightType =
      value :=
  congrArg (Option.getD · default) applied

theorem operations_makeUncheckedBinaryOperator {operation : BinaryOperation} {left right : DataType}
    {fastOperator : UncheckedBinaryOperator}
    (made : operation.makeUncheckedBinaryOperatorForTypes platform left right = some fastOperator) :
    (operations platform comparisons).makeUncheckedBinaryOperatorForTypes operation left right =
      fastOperator :=
  congrArg (Option.getD · (defaultBinaryOperator fun left _ => left)) made

end Operations

end Quickstep.Types
