import Quickstep.Types.ArithmeticBinaryOperators
import Quickstep.Types.OperationTyping

/-!
# The loops of the arithmetic operators

On integers, datetimes and intervals a result is stored as it is returned, and the checked form of an
operation computes what its operator computes. Every loop appends one result for each position.
-/

namespace Quickstep.Types
open Quickstep.Lib Quickstep.Utility

/-! ## Exact types -/

/-- Integers, datetimes and intervals. -/
def DataType.isExact : DataType → Bool
  | .int _ | .long _ | .datetime _ | .datetimeInterval _ | .yearMonthInterval _ => true
  | .float _ | .double _ | .char _ _ | .varChar _ _ | .date _ | .nullType => false

/-- What is known of the instance for two types: the results are stored as the functor returns them, and
a literal of the left argument is read back from the value made of it. -/
structure ArithmeticUncheckedBinaryOperator.SuitsTypes (op : ArithmeticUncheckedBinaryOperator)
    (leftType rightType : DataType) : Prop where
  left : op.leftCppType.typeId = leftType.getTypeID
  right : op.rightCppType.typeId = rightType.getTypeID
  leftNullable : op.leftNullable = leftType.isNullable
  rightNullable : op.rightNullable = rightType.isNullable
  toResult : ∀ result, TypedValue.ofLiteral op.resultCppType (op.toResult result) =
    .ofLiteral op.opFunctor.result result
  getLiteral : ∀ value, (TypedValue.ofLiteral op.leftCppType value).getLiteral op.leftCppType = value

theorem getLiteral_int (value : BitVec 32) :
    (TypedValue.ofLiteral (.number .int) value).getLiteral (.number .int) = value := by
  simp [TypedValue.ofLiteral, TypedValue.getLiteral, TypedValue.valueUnion]

theorem BinaryOperation.arithmeticOperator_suits (platform : Platform) (operation : BinaryOperation)
    {left right : DataType} (leftExact : left.isExact = true) (rightExact : right.isExact = true)
    (can : operation.canApplyToTypes left right = true) :
    ∃ op, operation.arithmeticOperator platform left right = some op ∧ op.SuitsTypes left right := by
  cases operation
  all_goals
    cases left <;> cases leftExact <;> cases right <;> cases rightExact <;>
      first
      | cases can; done
      | exact ⟨_, rfl, rfl, rfl, rfl, rfl, fun _ => rfl, fun _ => rfl⟩
      | exact ⟨_, rfl, rfl, rfl, rfl, rfl, fun _ => rfl, getLiteral_int⟩

/-- The column vectors have the result type that the operation announces. -/
theorem BinaryOperation.resultType_eq {platform : Platform} {operation : BinaryOperation}
    {left right : DataType} {op : ArithmeticUncheckedBinaryOperator} (leftExact : left.isExact = true)
    (rightExact : right.isExact = true)
    (made : operation.arithmeticOperator platform left right = some op) :
    operation.resultTypeForArgumentTypes left right = some op.resultType := by
  rcases left.number_or_other with ⟨leftType, leftNullable, rfl⟩ | leftOther
  · rcases right.number_or_other with ⟨rightType, rightNullable, rfl⟩ | rightOther
    · cases leftType <;> cases rightType <;> cases operation <;> cases made <;>
        exact getUnifyingType_numeric _ _ leftNullable rightNullable
    · cases leftType <;> cases right <;>
        first
        | cases rightExact; done
        | cases rightOther; done
        | cases operation <;> cases made <;> rfl
  · cases left <;>
      first
      | cases leftExact; done
      | cases leftOther; done
      | cases right <;>
          first
          | cases rightExact; done
          | cases operation <;> cases made <;> rfl

/-! ## The checked form -/

section Checked

variable {platform : Platform} {op : ArithmeticUncheckedBinaryOperator} {left right : DataType}
  {leftValue rightValue : TypedValue}

/-- A NULL is checked for where there can be one. -/
theorem DataType.Admits.nullable_and {type : DataType} {value : TypedValue} (admits : type.Admits value) :
    (type.isNullable && value.isNull) = value.isNull := by
  cases null : value.isNull with
  | true => rw [admits.nullable null, Bool.and_self]
  | false => rw [Bool.and_false]

theorem ArithmeticUncheckedBinaryOperator.SuitsTypes.applyToTypedValues_eq
    (suits : op.SuitsTypes left right) (leftAdmits : left.Admits leftValue)
    (rightAdmits : right.Admits rightValue) :
    op.applyToTypedValues leftValue rightValue =
      if leftValue.isNull || rightValue.isNull then .null op.resultCppType.typeId
      else .ofLiteral op.opFunctor.result
        (op.opFunctor.apply (leftValue.getLiteral op.leftCppType)
          (rightValue.getLiteral op.rightCppType)) := by
  unfold ArithmeticUncheckedBinaryOperator.applyToTypedValues
  rw [suits.leftNullable, suits.rightNullable, leftAdmits.nullable_and, rightAdmits.nullable_and]

/-- A branch on dates and intervals, by the functor of the operator. -/
theorem applyToCheckedDate_eq {opFunctor : OpFunctor}
    (overload : opFunctor op.leftCppType op.rightCppType = some op.opFunctor)
    (suits : op.SuitsTypes left right) (leftAdmits : left.Admits leftValue)
    (rightAdmits : right.Admits rightValue) :
    applyToCheckedDate opFunctor op.resultCppType.typeId op.leftCppType op.rightCppType leftValue
        rightValue =
      some (op.applyToTypedValues leftValue rightValue) := by
  unfold applyToCheckedDate applyFunctor
  rw [suits.applyToTypedValues_eq leftAdmits rightAdmits, overload]
  split <;> rfl

/-- Of integers, both forms extend the narrower one. -/
theorem applyToChecked_integers (operation : BinaryOperation) {left right : NumericType}
    (leftInteger : left = .int ∨ left = .long) (rightInteger : right = .int ∨ right = .long)
    {leftNullable rightNullable : Bool}
    (made : operation.arithmeticOperator platform (left.type leftNullable) (right.type rightNullable) =
      some op)
    (suits : op.SuitsTypes (left.type leftNullable) (right.type rightNullable))
    (leftAdmits : (left.type leftNullable).Admits leftValue)
    (rightAdmits : (right.type rightNullable).Admits rightValue) :
    operation.applyToChecked platform leftValue (left.type leftNullable) rightValue
        (right.type rightNullable) =
      some (op.applyToTypedValues leftValue rightValue) := by
  have helper : operation.applyToChecked platform leftValue (left.type leftNullable) rightValue
      (right.type rightNullable) =
      applyToCheckedNumericHelper platform
        (operation.opFunctor platform (left.type leftNullable) (right.type rightNullable)) leftValue
        (left.type leftNullable) rightValue (right.type rightNullable) := by
    rcases leftInteger with rfl | rfl <;> rcases rightInteger with rfl | rfl <;> cases operation <;> rfl
  have resultType : op.resultCppType = .number (numericTypeUnifier left right) := by
    rcases leftInteger with rfl | rfl <;> rcases rightInteger with rfl | rfl <;> cases operation <;>
      cases made <;> rfl
  rw [helper]
  simp only [applyToCheckedNumericHelper, getUnifyingType_numeric, Option.bind_eq_bind,
    Option.bind_some]
  cases null : leftValue.isNull || rightValue.isNull with
  | true =>
    rw [suits.applyToTypedValues_eq leftAdmits rightAdmits, null, if_pos rfl, if_pos rfl,
      NumericType.getTypeID_type, resultType]
    rfl
  | false =>
    obtain ⟨leftNotNull, rightNotNull⟩ := Bool.or_eq_false_iff.mp null
    have leftLiteral := @TypedValue.ofLiteral_getLiteral leftValue (.number left)
      (leftAdmits.typeId.trans (NumericType.getTypeID_type left leftNullable)) leftNotNull
    have rightLiteral := @TypedValue.ofLiteral_getLiteral rightValue (.number right)
      (rightAdmits.typeId.trans (NumericType.getTypeID_type right rightNullable)) rightNotNull
    rw [if_neg Bool.false_ne_true, ← leftLiteral, ← rightLiteral]
    generalize leftValue.getLiteral (.number left) = leftResult
    generalize rightValue.getLiteral (.number right) = rightResult
    rcases leftInteger with rfl | rfl <;> rcases rightInteger with rfl | rfl <;> cases operation <;>
      cases made
    all_goals cases leftNullable <;> cases rightNullable <;> rfl

/-- A number times an interval is checked with the interval first. -/
theorem applyToChecked_numberTimesInterval {number : NumericType} {intervalType : CppType}
    {apply : number.Value → intervalType.Value → intervalType.Value} {leftNullable : Bool}
    (functor : op = ⟨.number number, intervalType, intervalType, (number.type leftNullable).isNullable,
      right.isNullable, ⟨intervalType, apply⟩, id⟩)
    (overload : multiplyFunctor platform intervalType (.number number) =
      some ⟨intervalType, fun interval factor => apply factor interval⟩)
    (suits : op.SuitsTypes (number.type leftNullable) right)
    (leftAdmits : (number.type leftNullable).Admits leftValue) (rightAdmits : right.Admits rightValue) :
    MultiplyBinaryOperation.applyToCheckedIntervalMultiplyNumericHelper platform intervalType rightValue
        leftValue (number.type leftNullable) =
      some (op.applyToTypedValues leftValue rightValue) := by
  unfold MultiplyBinaryOperation.applyToCheckedIntervalMultiplyNumericHelper applyFunctor
  rw [suits.applyToTypedValues_eq leftAdmits rightAdmits, NumericType.numericType?_type,
    Option.bind_some, overload, Bool.or_comm]
  subst functor
  split <;> rfl

/-- **The checked form** of an operation computes what its operator computes. -/
theorem applyToChecked_eq (operation : BinaryOperation) (leftExact : left.isExact = true)
    (rightExact : right.isExact = true)
    (made : operation.arithmeticOperator platform left right = some op)
    (suits : op.SuitsTypes left right) (leftAdmits : left.Admits leftValue)
    (rightAdmits : right.Admits rightValue) :
    operation.applyToChecked platform leftValue left rightValue right =
      some (op.applyToTypedValues leftValue rightValue) := by
  have number {type : NumericType} {nullable : Bool} (exact : (type.type nullable).isExact = true) :
      type = .int ∨ type = .long := by
    cases type with
    | int => exact .inl rfl
    | long => exact .inr rfl
    | float => cases exact
    | double => cases exact
  rcases left.number_or_other with ⟨leftType, leftNullable, rfl⟩ | leftOther
  · rcases right.number_or_other with ⟨rightType, rightNullable, rfl⟩ | rightOther
    · exact applyToChecked_integers operation (number leftExact) (number rightExact) made suits leftAdmits
        rightAdmits
    · obtain rfl | rfl := number leftExact
      all_goals
        cases right <;>
          first
          | cases rightExact; done
          | cases rightOther; done
          | cases operation <;>
              first
              | cases made; done
              | cases made
                exact applyToChecked_numberTimesInterval rfl rfl suits leftAdmits rightAdmits
  · cases left <;>
      first
      | cases leftExact; done
      | cases leftOther; done
      | cases right <;>
          first
          | cases rightExact; done
          | cases operation <;>
              first
              | cases made; done
              | cases made
                exact applyToCheckedDate_eq rfl suits leftAdmits rightAdmits

end Checked

/-! ## One position -/

@[simp] theorem CppType.getTypeID_typeInstance (type : CppType) (nullable : Bool) :
    (type.typeInstance nullable).getTypeID = type.typeId := by
  rcases type with (_ | _ | _ | _) | _ | _ | _ <;> rfl

@[simp] theorem CppType.isNullable_typeInstance (type : CppType) (nullable : Bool) :
    (type.typeInstance nullable).isNullable = nullable := by
  rcases type with (_ | _ | _ | _) | _ | _ | _ <;> rfl

namespace ArithmeticUncheckedBinaryOperator

variable {op : ArithmeticUncheckedBinaryOperator} {leftType rightType : DataType}

theorem getTypeID_resultType : op.resultType.getTypeID = op.resultCppType.typeId :=
  CppType.getTypeID_typeInstance _ _

theorem isNullable_resultType : op.resultType.isNullable = (op.leftNullable || op.rightNullable) :=
  CppType.isNullable_typeInstance _ _

/-- What the loops append for two values. -/
def appended (op : ArithmeticUncheckedBinaryOperator) (left right : TypedValue) :
    NativeColumnVector.Value :=
  if (op.leftNullable && left.isNull) || (op.rightNullable && right.isNull) then .null
  else .directWrite (op.resultCppType.bytes (op.toResult
    (op.opFunctor.apply (left.getLiteral op.leftCppType) (right.getLiteral op.rightCppType))))

/-- It can be put into the result, and means what the operator returns for the values. -/
theorem SuitsTypes.appended_spec (suits : op.SuitsTypes leftType rightType) (left right : TypedValue) :
    NativeColumnVector.Placeable op.resultType (op.appended left right) ∧
      (op.appended left right).meaning op.resultType = op.applyToTypedValues left right := by
  unfold appended applyToTypedValues
  split
  · next null =>
    refine ⟨CppType.placeable_null getTypeID_resultType ?_, congrArg TypedValue.null getTypeID_resultType⟩
    rw [isNullable_resultType]
    rcases Bool.or_eq_true_iff.mp null with null | null
    · rw [(Bool.and_eq_true_iff.mp null).1, Bool.true_or]
    · rw [(Bool.and_eq_true_iff.mp null).1, Bool.or_true]
  · refine ⟨CppType.placeable_bytes getTypeID_resultType _, ?_⟩
    exact (CppType.makeValue_bytes getTypeID_resultType _).trans (suits.toResult _)

/-- Two values that are NULL only on a nullable side. -/
structure Takes (op : ArithmeticUncheckedBinaryOperator) (left right : TypedValue) : Prop where
  left : left.isNull = true → op.leftNullable = true
  right : right.isNull = true → op.rightNullable = true

theorem SuitsTypes.takes (suits : op.SuitsTypes leftType rightType) {left right : TypedValue}
    (leftAdmits : leftType.Admits left) (rightAdmits : rightType.Admits right) : op.Takes left right where
  left null := suits.leftNullable.trans (leftAdmits.nullable null)
  right null := suits.rightNullable.trans (rightAdmits.nullable null)

/-- Where a check finds no NULL, there is none. -/
theorem notNull_of_check {nullable : Bool} {value : TypedValue}
    (nulls : value.isNull = true → nullable = true) (check : (nullable && value.isNull) = false) :
    value.isNull = false := by
  cases null : value.isNull with
  | false => rfl
  | true => rw [nulls null, null] at check; cases check

section Positions

variable {left right : TypedValue} {reserved_length_ : Nat}
  {result : NativeColumnVector op.resultType reserved_length_}

theorem castAndApply_eq (argumentsInOrder : Bool) {first second : TypedValue}
    (firstNotNull : first.isNull = false) (secondNotNull : second.isNull = false) :
    op.castAndApply argumentsInOrder (some first) (some second) =
      .ok (op.toResult (op.opFunctor.apply
        ((if argumentsInOrder then first else second).getLiteral op.leftCppType)
        ((if argumentsInOrder then second else first).getLiteral op.rightCppType))) := by
  unfold castAndApply
  cases argumentsInOrder <;>
    simp [DataPtr.deref_some firstNotNull, DataPtr.deref_some secondNotNull, Exec.ok_bind]

/-- Of the left and the right value, the one that stands on some side. -/
def valueOn (onLeft : Bool) (left right : TypedValue) : TypedValue := if onLeft then left else right

theorem applyToTypedValues_of_null {onLeft : Bool}
    (null : (op.nullableOn onLeft && (valueOn onLeft left right).isNull) = true) :
    op.applyToTypedValues left right = op.resultType.makeNullValue := by
  unfold applyToTypedValues DataType.makeNullValue
  rw [getTypeID_resultType]
  cases onLeft with
  | true =>
    have leftNull : (op.leftNullable && left.isNull) = true := null
    rw [leftNull, Bool.true_or, if_pos rfl]
  | false =>
    have rightNull : (op.rightNullable && right.isNull) = true := null
    rw [rightNull, Bool.or_true, if_pos rfl]

theorem appended_of_null {onLeft : Bool}
    (null : (op.nullableOn onLeft && (valueOn onLeft left right).isNull) = true) :
    op.appended left right = .null := by
  unfold appended
  cases onLeft with
  | true =>
    have leftNull : (op.leftNullable && left.isNull) = true := null
    rw [leftNull, Bool.true_or, if_pos rfl]
  | false =>
    have rightNull : (op.rightNullable && right.isNull) = true := null
    rw [rightNull, Bool.or_true, if_pos rfl]

/-- Two values that are checked and not NULL. -/
theorem castAndApply_appendResult (onLeft : Bool) (takes : op.Takes left right)
    (first : (op.nullableOn onLeft && (valueOn onLeft left right).isNull) = false)
    (second : (op.nullableOn (!onLeft) && (valueOn (!onLeft) left right).isNull) = false) :
    (do
      let applied ← op.castAndApply onLeft (some (valueOn onLeft left right))
        (some (valueOn (!onLeft) left right))
      op.appendResult result applied) =
      result.appendChecked (op.appended left right) := by
  have checks : (op.leftNullable && left.isNull) = false ∧ (op.rightNullable && right.isNull) = false := by
    cases onLeft with
    | true => exact ⟨first, second⟩
    | false => exact ⟨second, first⟩
  have leftNotNull := notNull_of_check takes.left checks.1
  have rightNotNull := notNull_of_check takes.right checks.2
  have applied : op.castAndApply onLeft (some (valueOn onLeft left right))
      (some (valueOn (!onLeft) left right)) =
      .ok (op.toResult (op.opFunctor.apply (left.getLiteral op.leftCppType)
        (right.getLiteral op.rightCppType))) := by
    cases onLeft with
    | true => exact castAndApply_eq true leftNotNull rightNotNull
    | false => exact castAndApply_eq false rightNotNull leftNotNull
  unfold appended
  rw [applied, Exec.ok_bind, checks.1, checks.2]
  rfl

/-- The body of the loops over two values, the first of which stands on some side. -/
theorem applyToBoth_eq (firstOnLeft : Bool) (takes : op.Takes left right) :
    op.applyToBoth firstOnLeft result
        (.ok ((valueOn firstOnLeft left right).untyped (op.nullableOn firstOnLeft)))
        (.ok ((valueOn (!firstOnLeft) left right).untyped (op.nullableOn (!firstOnLeft)))) =
      result.appendChecked (op.appended left right) := by
  unfold applyToBoth
  simp only [Exec.ok_bind, DataPtrComparator.isNone_untyped]
  split
  · next null => rw [appended_of_null null]
  · next first =>
    have first := Bool.eq_false_iff.mpr first
    split
    · next null => rw [appended_of_null null]
    · next second =>
      have second := Bool.eq_false_iff.mpr second
      rw [DataPtrComparator.untyped_eq first, DataPtrComparator.untyped_eq second]
      exact castAndApply_appendResult firstOnLeft takes first second

/-- The body of the loops next to a literal that is not NULL. -/
theorem applyNextToLiteral_eq (valueOnLeft : Bool) (takes : op.Takes left right)
    (literal : (op.nullableOn (!valueOnLeft) && (valueOn (!valueOnLeft) left right).isNull) = false) :
    op.applyNextToLiteral valueOnLeft (valueOn (!valueOnLeft) left right) result
        ((valueOn valueOnLeft left right).untyped (op.nullableOn valueOnLeft)) =
      result.appendChecked (op.appended left right) := by
  unfold applyNextToLiteral
  rw [DataPtrComparator.isNone_untyped]
  split
  · next null => rw [appended_of_null null]
  · next value =>
    have value := Bool.eq_false_iff.mpr value
    rw [DataPtrComparator.untyped_eq value]
    exact castAndApply_appendResult valueOnLeft takes value literal

end Positions

/-! ## The loops -/

section Loops

variable {α : Type} {items : List α} {leftAt rightAt : α → TypedValue} {reserved_length_ : Nat}

/-- **A loop** that appends one result for each item. -/
theorem SuitsTypes.loop_exactly (suits : op.SuitsTypes leftType rightType)
    {body : NativeColumnVector op.resultType reserved_length_ → α →
      Exec (NativeColumnVector op.resultType reserved_length_)}
    (step : ∀ item ∈ items, ∀ result, body result item =
      result.appendChecked (op.appended (leftAt item) (rightAt item)))
    (room : items.length ≤ reserved_length_) (values_ : WordMemory 8)
    (bits : BitVector false reserved_length_) :
    NativeColumnVector.Exactly (items.foldlM body (op.newResult values_ bits))
      (items.map fun item => op.applyToTypedValues (leftAt item) (rightAt item)) := by
  rw [NativeColumnVector.foldlM_eq_appendAll step]
  apply (NativeColumnVector.appendAll_exactly_iff _ _ values_ bits).mpr room
  · intro item _
    exact (suits.appended_spec _ _).1
  · intro item _ read same
    rwa [(suits.appended_spec _ _).2] at same

/-- **A loop next to a static value**: all results are NULL if that is NULL. -/
theorem SuitsTypes.withStaticValue_exactly (suits : op.SuitsTypes leftType rightType)
    (valuesOnLeft : Bool) {staticValue : TypedValue} {valueAt : α → TypedValue}
    (takes : ∀ item ∈ items, op.Takes (valueOn valuesOnLeft (valueAt item) staticValue)
      (valueOn (!valuesOnLeft) (valueAt item) staticValue))
    {loop : NativeColumnVector op.resultType reserved_length_ →
      Exec (NativeColumnVector op.resultType reserved_length_)}
    {body : NativeColumnVector op.resultType reserved_length_ → α →
      Exec (NativeColumnVector op.resultType reserved_length_)}
    (loops : ∀ result, loop result = items.foldlM body result)
    (step : ∀ item ∈ items, ∀ result, body result item =
      op.applyNextToLiteral valuesOnLeft staticValue result
        ((valueAt item).untyped (op.nullableOn valuesOnLeft)))
    (room : items.length = reserved_length_) (values_ : WordMemory 8)
    (bits : BitVector false reserved_length_) :
    NativeColumnVector.Exactly (op.withStaticValue valuesOnLeft staticValue loop values_ bits)
      (items.map fun item => op.applyToTypedValues (valueOn valuesOnLeft (valueAt item) staticValue)
        (valueOn (!valuesOnLeft) (valueAt item) staticValue)) := by
  have onOwnSide (item : α) : valueOn valuesOnLeft (valueOn valuesOnLeft (valueAt item) staticValue)
      (valueOn (!valuesOnLeft) (valueAt item) staticValue) = valueAt item := by
    cases valuesOnLeft <;> rfl
  have onOtherSide (item : α) : valueOn (!valuesOnLeft) (valueOn valuesOnLeft (valueAt item) staticValue)
      (valueOn (!valuesOnLeft) (valueAt item) staticValue) = staticValue := by
    cases valuesOnLeft <;> rfl
  unfold withStaticValue
  split
  · next null =>
    have nullable : op.resultType.isNullable = true := by
      rw [isNullable_resultType]
      have nullable := (Bool.and_eq_true_iff.mp null).1
      cases valuesOnLeft with
      | true => rw [show op.rightNullable = true from nullable, Bool.or_true]
      | false => rw [show op.leftNullable = true from nullable, Bool.true_or]
    have nulls : (items.map fun item => op.applyToTypedValues (valueOn valuesOnLeft (valueAt item) staticValue)
        (valueOn (!valuesOnLeft) (valueAt item) staticValue)) =
          List.replicate reserved_length_ op.resultType.makeNullValue := by
      rw [← room]
      apply List.map_eq_replicate_iff.mpr
      intro item _
      rw [← onOtherSide item] at null
      exact applyToTypedValues_of_null null
    rw [nulls]
    exact NativeColumnVector.fillWithNulls_exactly (CppType.usable_of_typeId getTypeID_resultType) nullable
      values_ bits
  · next literal =>
    rw [loops]
    apply suits.loop_exactly _ room.le
    intro item mem result
    have literal : (op.nullableOn (!valuesOnLeft) && staticValue.isNull) = false :=
      Bool.eq_false_iff.mpr literal
    rw [step item mem result]
    rw [← onOtherSide item] at literal
    have applied := @applyNextToLiteral_eq op _ _ _ result valuesOnLeft (takes item mem) literal
    rwa [onOwnSide item, onOtherSide item] at applied

/-- A value of a column as the loops read it. -/
theorem getUntypedValue_of_lt {columnVector : ColumnVector} {pos : Nat} (inside : pos < columnVector.length)
    (checkNull : Bool) :
    columnVector.getUntypedValue checkNull pos =
      .ok ((columnVector.getD pos default).untyped checkNull) := by
  unfold ColumnVector.getUntypedValue
  rw [readAt_of_lt inside, List.getD_eq_getElem?_getD, List.getElem?_eq_getElem inside]
  rfl

/-- The pairs of two columns, position by position. -/
theorem map_range_getD_zip {β : Type} (left right : ColumnVector) (sameSize : left.length = right.length)
    (f : TypedValue → TypedValue → β) :
    (List.range left.length).map (fun pos => f (left.getD pos default) (right.getD pos default)) =
      (left.zip right).map fun pair => f pair.1 pair.2 := by
  apply List.ext_getElem
  · simp [sameSize]
  · intro pos within within'
    simp at within within'
    simp [within, within'.2]

theorem getD_mem_zip {left right : ColumnVector} (sameSize : left.length = right.length) {pos : Nat}
    (inside : pos < left.length) :
    (left.getD pos default, right.getD pos default) ∈ left.zip right := by
  have within : pos < (left.zip right).length := by
    simp [inside, ← sameSize]
  have pair : (left.zip right)[pos] = (left.getD pos default, right.getD pos default) := by
    simp [inside, ← sameSize]
  rw [← pair]
  exact List.getElem_mem within

end Loops

section EntryPoints

variable {n : Nat}

theorem SuitsTypes.applyToColumnVectors_exactly (suits : op.SuitsTypes leftType rightType)
    {left right : ColumnVector} (sameSize : left.length = right.length)
    (takes : ∀ pair ∈ left.zip right, op.Takes pair.1 pair.2) (values_ : WordMemory 8)
    (bits : BitVector false left.length) :
    NativeColumnVector.Exactly (op.applyToColumnVectors left right values_ bits)
      ((left.zip right).map fun pair => op.applyToTypedValues pair.1 pair.2) := by
  rw [← map_range_getD_zip left right sameSize op.applyToTypedValues]
  apply suits.loop_exactly
  · intro pos mem result
    have inside := List.mem_range.mp mem
    rw [getUntypedValue_of_lt inside, getUntypedValue_of_lt (inside.trans_eq sameSize)]
    exact applyToBoth_eq true (takes _ (getD_mem_zip sameSize inside))
  · simp

theorem SuitsTypes.applyToColumnVectorAndStaticValueHelper_exactly (suits : op.SuitsTypes leftType rightType)
    (columnVectorOnLeft : Bool) {columnVector : ColumnVector} {staticValue : TypedValue}
    (takes : ∀ value ∈ columnVector, op.Takes (valueOn columnVectorOnLeft value staticValue)
      (valueOn (!columnVectorOnLeft) value staticValue))
    (values_ : WordMemory 8) (bits : BitVector false columnVector.length) :
    NativeColumnVector.Exactly
      (op.applyToColumnVectorAndStaticValueHelper columnVectorOnLeft columnVector staticValue values_ bits)
      (columnVector.map fun value => op.applyToTypedValues (valueOn columnVectorOnLeft value staticValue)
        (valueOn (!columnVectorOnLeft) value staticValue)) := by
  have asRange : columnVector.map (fun value => op.applyToTypedValues
      (valueOn columnVectorOnLeft value staticValue)
      (valueOn (!columnVectorOnLeft) value staticValue)) =
      (List.range columnVector.length).map fun pos => op.applyToTypedValues
        (valueOn columnVectorOnLeft (columnVector.getD pos default) staticValue)
        (valueOn (!columnVectorOnLeft) (columnVector.getD pos default) staticValue) := by
    apply List.ext_getElem
    · simp
    · intro pos within within'
      simp at within
      simp [within]
  rw [asRange]
  apply suits.withStaticValue_exactly columnVectorOnLeft _ (fun _ => rfl)
  · intro pos mem result
    rw [getUntypedValue_of_lt (List.mem_range.mp mem)]
    rfl
  · simp
  · intro pos mem
    have inside := List.mem_range.mp mem
    apply takes
    simp [inside]

theorem SuitsTypes.applyToSingleValueAccessor_exactly (suits : op.SuitsTypes leftType rightType)
    {accessor : ValueAccessor n} {leftId rightId : Nat}
    (takes : ∀ tid ∈ accessor.positions,
      op.Takes (accessor.getTypedValueAtAbsolutePosition leftId tid)
        (accessor.getTypedValueAtAbsolutePosition rightId tid))
    (values_ : WordMemory 8) (bits : BitVector false accessor.getNumTuples) :
    NativeColumnVector.Exactly (op.applyToSingleValueAccessor accessor leftId rightId values_ bits)
      (accessor.positions.map fun tid =>
        op.applyToTypedValues (accessor.getTypedValueAtAbsolutePosition leftId tid)
          (accessor.getTypedValueAtAbsolutePosition rightId tid)) := by
  apply suits.loop_exactly
  · intro tid mem result
    exact applyToBoth_eq true (takes tid mem)
  · simp

theorem SuitsTypes.applyToValueAccessorAndStaticValueHelper_exactly
    (suits : op.SuitsTypes leftType rightType) (valueAccessorOnLeft : Bool)
    {valueAccessor : ValueAccessor n} {valueAccessorAttrId : Nat} {staticValue : TypedValue}
    (takes : ∀ value ∈ valueAccessor.column valueAccessorAttrId,
      op.Takes (valueOn valueAccessorOnLeft value staticValue)
        (valueOn (!valueAccessorOnLeft) value staticValue))
    (values_ : WordMemory 8) (bits : BitVector false valueAccessor.getNumTuples) :
    NativeColumnVector.Exactly
      (op.applyToValueAccessorAndStaticValueHelper valueAccessorOnLeft valueAccessor valueAccessorAttrId
        staticValue values_ bits)
      ((valueAccessor.column valueAccessorAttrId).map fun value =>
        op.applyToTypedValues (valueOn valueAccessorOnLeft value staticValue)
          (valueOn (!valueAccessorOnLeft) value staticValue)) := by
  unfold ValueAccessor.column at takes ⊢
  rw [List.map_map]
  apply suits.withStaticValue_exactly valueAccessorOnLeft _ (fun _ => rfl)
  · intro tid mem result
    rfl
  · simp
  · intro tid mem
    exact takes _ (List.mem_map_of_mem mem)

theorem SuitsTypes.applyToColumnVectorAndValueAccessorHelper_exactly
    (suits : op.SuitsTypes leftType rightType) (columnVectorOnLeft : Bool)
    {columnVector : ColumnVector} {valueAccessor : ValueAccessor n} {valueAccessorAttrId : Nat}
    (sameSize : columnVector.length = valueAccessor.getNumTuples)
    (takes : ∀ pair ∈ columnVector.zip (valueAccessor.column valueAccessorAttrId),
      op.Takes (valueOn columnVectorOnLeft pair.1 pair.2) (valueOn (!columnVectorOnLeft) pair.1 pair.2))
    (values_ : WordMemory 8) (bits : BitVector false columnVector.length) :
    NativeColumnVector.Exactly
      (op.applyToColumnVectorAndValueAccessorHelper columnVectorOnLeft columnVector valueAccessor
        valueAccessorAttrId values_ bits)
      ((columnVector.zip (valueAccessor.column valueAccessorAttrId)).map fun pair =>
        op.applyToTypedValues (valueOn columnVectorOnLeft pair.1 pair.2)
          (valueOn (!columnVectorOnLeft) pair.1 pair.2)) := by
  have length : columnVector.length = valueAccessor.positions.length := by simp [sameSize]
  have asEntries : columnVector.zip (valueAccessor.column valueAccessorAttrId) =
      valueAccessor.positions.zipIdx.map fun entry => (columnVector.getD entry.2 default,
        valueAccessor.getTypedValueAtAbsolutePosition valueAccessorAttrId entry.1) := by
    unfold ValueAccessor.column
    apply List.ext_getElem
    · simp [sameSize]
    · intro pos within within'
      have inside : pos < columnVector.length := by
        simp at within
        exact within.1
      simp [inside]
  rw [asEntries] at takes ⊢
  rw [List.map_map]
  apply suits.loop_exactly
  · intro entry mem result
    have inside : entry.2 < columnVector.length := by
      rw [length]
      exact List.snd_lt_of_mem_zipIdx mem
    rw [getUntypedValue_of_lt inside]
    have taken := takes _ (List.mem_map_of_mem mem)
    have applied := @applyToBoth_eq op _ _ _ result columnVectorOnLeft taken
    cases columnVectorOnLeft with
    | true => exact applied
    | false => exact applied
  · simp [sameSize]

end EntryPoints

/-! ## Accumulating -/

section Accumulate

variable {same : op.leftCppType = op.resultCppType} {α : Type} {items : List α} {valueAt : α → TypedValue}

/-- The values of a column that are not NULL. -/
def nonNullValues (values : ColumnVector) : List TypedValue := values.filter fun value => !value.isNull

theorem ofLiteral_cast {left right : CppType} (same : left = right) (value : right.Value) :
    TypedValue.ofLiteral left (same ▸ value) = .ofLiteral right value := by
  subst same
  rfl

theorem accumulateValue_of_null {accumulated : op.leftCppType.Value × Nat} {value : TypedValue}
    (nullable : op.rightNullable = true) (null : value.isNull = true) :
    op.accumulateValue same accumulated (value.untyped op.rightNullable) = .ok accumulated := by
  unfold accumulateValue TypedValue.untyped
  rw [nullable, null]
  rfl

/-- One value more. -/
theorem SuitsTypes.accumulateValue_of_notNull (suits : op.SuitsTypes leftType rightType)
    {accumulated : op.leftCppType.Value × Nat} {value : TypedValue} (notNull : value.isNull = false) :
    ∃ accumulated', op.accumulateValue same accumulated (value.untyped op.rightNullable) =
        .ok (accumulated', accumulated.2 + 1) ∧
      TypedValue.ofLiteral op.leftCppType accumulated' =
        op.applyToTypedValues (.ofLiteral op.leftCppType accumulated.1) value := by
  have present : value.untyped op.rightNullable = some value :=
    DataPtrComparator.untyped_eq (by rw [notNull, Bool.and_false])
  refine ⟨same ▸ op.toResult
    (op.opFunctor.apply accumulated.1 (value.getLiteral op.rightCppType)), ?_, ?_⟩
  · unfold accumulateValue
    rw [present, DataPtr.deref_some notNull]
    cases op.rightNullable <;> rfl
  · unfold applyToTypedValues
    rw [ofLiteral_cast same, suits.toResult, TypedValue.isNull_ofLiteral, notNull, suits.getLiteral]
    simp

/-- **The loop** folds the operator over the values that are not NULL, and counts them. -/
theorem SuitsTypes.accumulate_loop (suits : op.SuitsTypes leftType rightType)
    {body : op.leftCppType.Value × Nat → α → Exec (op.leftCppType.Value × Nat)}
    (nullable : ∀ item ∈ items, (valueAt item).isNull = true → op.rightNullable = true)
    (step : ∀ item ∈ items, ∀ accumulated, body accumulated item =
      op.accumulateValue same accumulated ((valueAt item).untyped op.rightNullable))
    (accumulated : op.leftCppType.Value × Nat) :
    ∃ accumulated', items.foldlM body accumulated =
        .ok (accumulated', accumulated.2 + (nonNullValues (items.map valueAt)).length) ∧
      TypedValue.ofLiteral op.leftCppType accumulated' =
        (nonNullValues (items.map valueAt)).foldl op.applyToTypedValues
          (.ofLiteral op.leftCppType accumulated.1) := by
  induction items generalizing accumulated with
  | nil => exact ⟨accumulated.1, rfl, rfl⟩
  | cons item items ih =>
    obtain ⟨firstNullable, othersNullable⟩ := List.forall_mem_cons.mp nullable
    obtain ⟨first, others⟩ := List.forall_mem_cons.mp step
    have ih := ih othersNullable others
    rw [List.foldlM_cons, first, List.map_cons]
    unfold nonNullValues at ih ⊢
    cases null : (valueAt item).isNull with
    | true =>
      rw [accumulateValue_of_null (firstNullable null) null, Exec.ok_bind,
        List.filter_cons_of_neg (by rw [null]; exact Bool.false_ne_true)]
      exact ih accumulated
    | false =>
      obtain ⟨accumulated', applied, same'⟩ := suits.accumulateValue_of_notNull null
      obtain ⟨last, run, folded⟩ := ih (accumulated', accumulated.2 + 1)
      rw [applied, Exec.ok_bind, List.filter_cons_of_pos (by rw [null]; rfl), List.foldl_cons, ← same']
      refine ⟨last, ?_, folded⟩
      rw [run, List.length_cons, Nat.add_assoc, Nat.add_comm 1]

/-- A NULL stays NULL, whatever it is applied to. -/
theorem foldl_null {values : List TypedValue} {current : TypedValue} (nullable : op.leftNullable = true)
    (null : current = .null op.resultCppType.typeId) :
    values.foldl op.applyToTypedValues current = current := by
  induction values with
  | nil => rfl
  | cons value values ih =>
    have stays : op.applyToTypedValues current value = current := by
      unfold applyToTypedValues
      rw [null, nullable]
      rfl
    rw [List.foldl_cons, stays, ih]

/-- **What the helpers return**: the fold of the operator, and the number of values it was applied to. -/
theorem SuitsTypes.accumulateWith_eq (suits : op.SuitsTypes leftType rightType)
    (same : op.leftCppType = op.resultCppType) {current : TypedValue} (admits : leftType.Admits current)
    {values : ColumnVector}
    {loop : op.leftCppType.Value × Nat → Exec (op.leftCppType.Value × Nat)}
    (folds : ∀ accumulated, ∃ accumulated',
      loop accumulated = .ok (accumulated', accumulated.2 + (nonNullValues values).length) ∧
        TypedValue.ofLiteral op.leftCppType accumulated' =
          (nonNullValues values).foldl op.applyToTypedValues (.ofLiteral op.leftCppType accumulated.1)) :
    op.accumulateWith current loop =
      .ok ((nonNullValues values).foldl op.applyToTypedValues current,
        if current.isNull then 0 else (nonNullValues values).length) := by
  unfold accumulateWith
  rw [suits.leftNullable, admits.nullable_and]
  cases null : current.isNull with
  | true =>
    have isNull : current = .null op.resultCppType.typeId := by
      rw [← same, suits.left, ← admits.typeId]
      cases current <;> first | rfl | cases null
    rw [if_pos rfl, if_pos rfl,
      foldl_null (suits.leftNullable.trans (admits.nullable null)) isNull, isNull]
    unfold DataType.makeNullValue
    rw [CppType.getTypeID_typeInstance]
  | false =>
    obtain ⟨accumulated, run, folded⟩ := folds (current.getLiteral op.leftCppType, 0)
    rw [if_neg Bool.false_ne_true, if_neg Bool.false_ne_true, run, Exec.ok_bind, folded,
      TypedValue.ofLiteral_getLiteral (admits.typeId.trans suits.left.symm) null, Nat.zero_add]
    rfl

end Accumulate

end ArithmeticUncheckedBinaryOperator

end Quickstep.Types
