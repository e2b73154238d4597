import Quickstep.Types.OperationTyping

/-!
# Agreement of the operators

The vectorised entry points of the unary operators repeat the one for single values. So do those of
the binary operators, except that the modulo of an INT and a FLOAT stores a float where single values
get a double. A NULL operand makes both NULL.
-/

namespace Quickstep.Types

section Unary

variable {platform : Platform} {comparisons : Operations}

/-- An operator that the source makes, as a loop over a function on single values. -/
theorem UnaryOperation.made_agrees {operation : UnaryOperation} {type : DataType}
    {fastOperator : UncheckedUnaryOperator}
    (made : operation.makeUncheckedUnaryOperatorForType platform type = some fastOperator) :
    fastOperator.Agrees := by
  cases operation with
  | negate =>
    obtain ⟨functor, -, rfl⟩ := Option.map_eq_some_iff.mp made
    exact defaultUnaryOperator_agrees _
  | numericCast targetType =>
    change NumericCastOperation.makeUncheckedUnaryOperatorForType platform targetType type = _ at made
    unfold NumericCastOperation.makeUncheckedUnaryOperatorForType at made
    split at made
    · cases made
      exact defaultUnaryOperator_agrees _
    · cases made
  | dateExtract unit =>
    cases made
    exact defaultUnaryOperator_agrees _
  | substring startPosition substringLength =>
    obtain ⟨resultType, -, rfl⟩ := Option.map_eq_some_iff.mp made
    exact defaultUnaryOperator_agrees _

theorem operations_unary_agrees (operation : UnaryOperation) (type : DataType) :
    ((operations platform comparisons).makeUncheckedUnaryOperatorForType operation type).Agrees := by
  change ((operation.makeUncheckedUnaryOperatorForType platform type).getD
    (defaultUnaryOperator id)).Agrees
  cases made : operation.makeUncheckedUnaryOperatorForType platform type with
  | none => exact defaultUnaryOperator_agrees id
  | some fastOperator => exact UnaryOperation.made_agrees made

end Unary

section Binary

variable {platform : Platform}

/-- A NULL of a nullable type, for which the operators check. -/
def hasNullOperand (left right : DataType) (leftValue rightValue : TypedValue) : Bool :=
  (left.isNullable && leftValue.isNull) || (right.isNullable && rightValue.isNull)

/-- They agree where they store what the constructor of `TypedValue` takes. -/
theorem arithmeticUncheckedBinaryOperator_loopsOver {left right : CppType}
    (functor : BinaryFunctor left right) (resultType : CppType) (leftNullable rightNullable : Bool)
    (store : functor.result.Value → TypedValue) :
    let op := arithmeticUncheckedBinaryOperator functor resultType leftNullable rightNullable store
    ∃ f, op.LoopsOver f ∧ (store = .ofLiteral functor.result → f = op.applyToTypedValues) := by
  refine ⟨_, defaultBinaryOperator_loopsOver _ _, ?_⟩
  rintro rfl
  rfl

/-- Where they store another value, only a NULL operand makes them agree. -/
theorem arithmeticUncheckedBinaryOperator_stores {leftType rightType : CppType}
    (functor : BinaryFunctor leftType rightType) (resultType : CppType) (left right : DataType)
    (store : functor.result.Value → TypedValue)
    (other : ∀ result, store result ≠ .ofLiteral functor.result result) :
    let op := arithmeticUncheckedBinaryOperator functor resultType left.isNullable right.isNullable
      store
    ∃ f, op.LoopsOver f ∧ ∀ leftValue rightValue,
      f leftValue rightValue = op.applyToTypedValues leftValue rightValue ↔
        hasNullOperand left right leftValue rightValue = true := by
  refine ⟨_, defaultBinaryOperator_loopsOver _ _, ?_⟩
  intro leftValue rightValue
  unfold arithmeticUncheckedBinaryOperator
  cases null : hasNullOperand left right leftValue rightValue with
  | true =>
    unfold hasNullOperand at null
    simp [null]
  | false =>
    unfold hasNullOperand at null
    simp [null, other]

theorem staticCast_self (type : NumericType) (value : type.Value) :
    staticCast platform type type value = value := by
  cases type <;> rfl

/-- An overload that returns the unifying type of its arguments. -/
def UnifiesAt (opFunctor : OpFunctor) (left right : NumericType) : Prop :=
  ∀ functor, opFunctor (.number left) (.number right) = some functor →
    functor.result = .number (numericTypeUnifier left right)

theorem makeNumericBinaryOperatorOuterHelper_loopsOver {opFunctor : OpFunctor} {left right : DataType}
    {op : UncheckedBinaryOperator}
    (made : makeNumericBinaryOperatorOuterHelper platform opFunctor left right = some op) :
    ∃ f, op.LoopsOver f ∧
      ((∀ leftType rightType, left.numericType? = some leftType →
        right.numericType? = some rightType → UnifiesAt opFunctor leftType rightType) →
          f = op.applyToTypedValues) := by
  unfold makeNumericBinaryOperatorOuterHelper at made
  split at made
  · rename_i leftType rightType isLeft isRight
    obtain ⟨functor, overload, rfl⟩ := Option.map_eq_some_iff.mp made
    obtain ⟨f, loops, same⟩ := arithmeticUncheckedBinaryOperator_loopsOver functor _ _ _ _
    refine ⟨f, loops, ?_⟩
    intro unifies
    have result := unifies leftType rightType isLeft isRight functor overload
    obtain ⟨resultType, apply⟩ := functor
    obtain rfl : resultType = .number (numericTypeUnifier leftType rightType) := result
    apply same
    funext value
    exact congrArg (TypedValue.ofLiteral _) (staticCast_self _ value)
  · cases made

/-! The functors of numbers return the unifying type, all but `std::fmod`. -/

theorem addFunctor_unifies (left right : NumericType) : UnifiesAt (addFunctor platform) left right := by
  intro functor overload
  cases left <;> cases right <;> cases overload <;> rfl

theorem subtractFunctor_unifies (left right : NumericType) :
    UnifiesAt (subtractFunctor platform) left right := by
  intro functor overload
  cases left <;> cases right <;> cases overload <;> rfl

theorem multiplyFunctor_unifies (left right : NumericType) :
    UnifiesAt (multiplyFunctor platform) left right := by
  intro functor overload
  cases left <;> cases right <;> cases overload <;> rfl

theorem divideFunctor_unifies (left right : NumericType) :
    UnifiesAt (divideFunctor platform) left right := by
  intro functor overload
  cases left <;> cases right <;> cases overload <;> rfl

theorem integerModuloFunctor_unifies (left right : NumericType) :
    UnifiesAt (integerModuloFunctor platform) left right := by
  intro functor overload
  cases left <;> cases right <;> cases overload <;> rfl

theorem floatModuloFunctor_unifies {left right : DataType} {leftType rightType : NumericType}
    (isLeft : left.numericType? = some leftType) (isRight : right.numericType? = some rightType)
    (asAnnounced : BinaryOperation.modulo.promotesToDouble left right = false)
    (notIntegers : ModuloBinaryOperation.bothIntegers left right = false) :
    UnifiesAt (floatModuloFunctor platform) leftType rightType := by
  intro functor overload
  cases overload
  cases left <;> cases isLeft <;> cases right <;> cases isRight <;> first
    | rfl
    | (cases asAnnounced; done)
    | cases notIntegers

/-- An operator loops over a function, which is the one on single values if `agrees` holds. -/
def UncheckedBinaryOperator.LoopsWhere (op : UncheckedBinaryOperator) (agrees : Prop) : Prop :=
  ∃ f, op.LoopsOver f ∧ (agrees → f = op.applyToTypedValues)

section Branches

variable {opFunctor : OpFunctor} {left right : DataType} {op : UncheckedBinaryOperator} {agrees : Prop}

theorem makeDateBinaryOperatorOuterHelper_loopsWhere {resultType leftType rightType : CppType}
    (made : makeDateBinaryOperatorOuterHelper opFunctor resultType leftType rightType left right =
      some op) : op.LoopsWhere agrees := by
  obtain ⟨functor, overload, rfl⟩ := Option.map_eq_some_iff.mp made
  obtain ⟨f, loops, same⟩ := arithmeticUncheckedBinaryOperator_loopsOver functor resultType
    left.isNullable right.isNullable (.ofLiteral functor.result)
  exact ⟨f, loops, fun _ => same rfl⟩

/-- The right operand of an interval has to be a number. -/
theorem makeInterval_loopsWhere {resultType leftType : CppType} {rightType : NumericType → CppType}
    (made : right.numericType?.bind (fun type => makeDateBinaryOperatorOuterHelper opFunctor resultType
      leftType (rightType type) left right) = some op) : op.LoopsWhere agrees := by
  obtain ⟨type, _, made⟩ := Option.bind_eq_some_iff.mp made
  exact makeDateBinaryOperatorOuterHelper_loopsWhere made

theorem makeNumericBinaryOperatorOuterHelper_loopsWhere
    (unifies : ∀ leftType rightType, UnifiesAt opFunctor leftType rightType)
    (made : makeNumericBinaryOperatorOuterHelper platform opFunctor left right = some op) :
    op.LoopsWhere agrees := by
  obtain ⟨f, loops, same⟩ := makeNumericBinaryOperatorOuterHelper_loopsOver made
  exact ⟨f, loops, fun _ => same fun leftType rightType _ _ => unifies leftType rightType⟩

theorem makeIntegerBinaryOperatorOuterHelper_loopsWhere
    (unifies : ∀ leftType rightType, UnifiesAt opFunctor leftType rightType)
    (made : makeIntegerBinaryOperatorOuterHelper platform opFunctor left right = some op) :
    op.LoopsWhere agrees := by
  unfold makeIntegerBinaryOperatorOuterHelper at made
  split at made
  iterate 4 exact makeNumericBinaryOperatorOuterHelper_loopsWhere unifies made
  cases made

/-- The modulo goes to the functor for integers, or to `fmod`. -/
theorem makeModulo_loopsWhere
    (made : (if ModuloBinaryOperation.bothIntegers left right then
        makeIntegerBinaryOperatorOuterHelper platform (integerModuloFunctor platform) left right
      else if right.getSuperTypeID = .numeric then
        makeNumericBinaryOperatorOuterHelper platform (floatModuloFunctor platform) left right
      else none) = some op) :
    op.LoopsWhere (BinaryOperation.modulo.promotesToDouble left right = false) := by
  split_ifs at made with integers
  · exact makeIntegerBinaryOperatorOuterHelper_loopsWhere integerModuloFunctor_unifies made
  · obtain ⟨f, loops, same⟩ := makeNumericBinaryOperatorOuterHelper_loopsOver made
    exact ⟨f, loops, fun asAnnounced => same fun leftType rightType isLeft isRight =>
      floatModuloFunctor_unifies isLeft isRight asAnnounced (Bool.eq_false_iff.mpr integers)⟩

/-- Each branch of the switches makes a numeric operator or one on dates and intervals. -/
theorem BinaryOperation.made_loopsWhere {operation : BinaryOperation}
    (made : operation.makeUncheckedBinaryOperatorForTypes platform left right = some op) :
    op.LoopsWhere (operation.promotesToDouble left right = false) := by
  cases operation with
  | add =>
    unfold makeUncheckedBinaryOperatorForTypes
      AddBinaryOperation.makeUncheckedBinaryOperatorForTypes at made
    dsimp only at made
    split at made
    iterate 4
      exact makeNumericBinaryOperatorOuterHelper_loopsWhere addFunctor_unifies
        (Option.ite_none_right_eq_some.mp made).2
    iterate 6 exact makeDateBinaryOperatorOuterHelper_loopsWhere made
    cases made
  | subtract =>
    unfold makeUncheckedBinaryOperatorForTypes
      SubtractBinaryOperation.makeUncheckedBinaryOperatorForTypes at made
    dsimp only at made
    split at made
    iterate 4
      exact makeNumericBinaryOperatorOuterHelper_loopsWhere subtractFunctor_unifies
        (Option.ite_none_right_eq_some.mp made).2
    iterate 5 exact makeDateBinaryOperatorOuterHelper_loopsWhere made
    cases made
  | multiply =>
    unfold makeUncheckedBinaryOperatorForTypes
      MultiplyBinaryOperation.makeUncheckedBinaryOperatorForTypes at made
    dsimp only at made
    split at made
    · split_ifs at made
      · exact makeNumericBinaryOperatorOuterHelper_loopsWhere multiplyFunctor_unifies made
      · exact makeDateBinaryOperatorOuterHelper_loopsWhere made
      · exact makeDateBinaryOperatorOuterHelper_loopsWhere made
    · exact makeInterval_loopsWhere made
    · exact makeInterval_loopsWhere made
    · cases made
  | divide =>
    unfold makeUncheckedBinaryOperatorForTypes
      DivideBinaryOperation.makeUncheckedBinaryOperatorForTypes at made
    dsimp only at made
    split at made
    iterate 4
      exact makeNumericBinaryOperatorOuterHelper_loopsWhere divideFunctor_unifies
        (Option.ite_none_right_eq_some.mp made).2
    iterate 2 exact makeInterval_loopsWhere made
    cases made
  | modulo =>
    unfold makeUncheckedBinaryOperatorForTypes
      ModuloBinaryOperation.makeUncheckedBinaryOperatorForTypes at made
    dsimp only at made
    split at made
    iterate 4 exact makeModulo_loopsWhere made
    cases made

end Branches

/-- The modulo of an INT and a FLOAT. -/
theorem BinaryOperation.made_promoting {operation : BinaryOperation} {left right : DataType}
    (promotes : operation.promotesToDouble left right = true) :
    ∃ op, operation.makeUncheckedBinaryOperatorForTypes platform left right = some op ∧
      ∃ f, op.LoopsOver f ∧ ∀ leftValue rightValue,
        f leftValue rightValue = op.applyToTypedValues leftValue rightValue ↔
          hasNullOperand left right leftValue rightValue = true := by
  have float {leftType rightType : NumericType} :=
    let functor := numericFunctor platform .modulo leftType rightType .double
    arithmeticUncheckedBinaryOperator_stores functor (.number .float) left right
      (fun result => .ofLiteral (.number .float) (staticCast platform .double .float result)) nofun
  cases operation <;> cases left <;> cases right <;> first
    | (cases promotes; done)
    | exact ⟨_, rfl, float⟩

/-- **What the operations make** loops over a function. It is that on single values, except for the
types that promote: there it differs wherever no operand is NULL. -/
theorem operations_loopsOver {comparisons : Operations} (operation : BinaryOperation)
    (left right : DataType) :
    let op := (operations platform comparisons).makeUncheckedBinaryOperatorForTypes operation left
      right
    ∃ f, op.LoopsOver f ∧ ∀ leftValue rightValue,
      f leftValue rightValue = op.applyToTypedValues leftValue rightValue ↔
        (operation.promotesToDouble left right = true →
          hasNullOperand left right leftValue rightValue = true) := by
  simp only [operations]
  cases promotes : operation.promotesToDouble left right with
  | false =>
    simp only [Bool.false_eq_true, false_imp_iff, iff_true]
    cases made : operation.makeUncheckedBinaryOperatorForTypes platform left right with
    | none => exact ⟨_, defaultBinaryOperator_agrees _, fun _ _ => rfl⟩
    | some op =>
      obtain ⟨f, loops, same⟩ := BinaryOperation.made_loopsWhere made
      exact ⟨f, loops, fun _ _ => by rw [same promotes, Option.getD_some]⟩
  | true =>
    obtain ⟨op, made, differs⟩ := @BinaryOperation.made_promoting platform _ _ _ promotes
    rw [made]
    simpa using differs

end Binary

end Quickstep.Types
