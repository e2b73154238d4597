import Quickstep.Lib.SelectingFold
import Quickstep.Types.AsciiStringComparators
import Quickstep.Types.LiteralComparators

/-!
# Minimum and maximum

`accumulateColumnVector` and `accumulateValueAccessor` hold a value and replace it by every value that
compares. Fed batch by batch they end with a value that no other is better than.
-/

namespace Quickstep.Types
open Quickstep.Lib Quickstep.Common CString

/-- The constructors of `TypedValue` from a literal, of a date too. -/
def TypedValue.ofComparedLiteral : (type : ComparedType) → type.Value → TypedValue
  | .literal type, value => .ofLiteral type value
  | .dateLit, value => .date value.year value.month value.day

namespace LiteralUncheckedComparator

variable (platform : Platform) (comparator : LiteralUncheckedComparator)

/-- The body of the loops. The literal that is held is a pointer, null at first if it is NULL. -/
def accumulateValue (currentLiteral value : DataPtr) : Exec DataPtr :=
  if comparator.leftNullable && value.isNone then pure currentLiteral
  else if currentLiteral.isNone then pure value
  else do
    let replaces ← (comparator.dataPtrComparator platform).compareDataPtrsHelper true value
      currentLiteral
    pure (if replaces then value else currentLiteral)

/-- What is returned for the pointer at the end. -/
def accumulated (current : TypedValue) (currentLiteral : DataPtr) : Exec TypedValue :=
  if currentLiteral.isSome then do
    let literal ← literalAt comparator.leftCppType currentLiteral
    pure (.ofComparedLiteral comparator.leftCppType literal)
  else pure (.null current.getTypeID)

def accumulateColumnVector (current : TypedValue) (columnVector : ColumnVector) : Exec TypedValue := do
  let currentLiteral ← columnVector.foldlM (fun currentLiteral value =>
      comparator.accumulateValue platform currentLiteral (value.untyped comparator.leftNullable))
    (if current.isNull then none else some current)
  comparator.accumulated current currentLiteral

def accumulateValueAccessor (current : TypedValue) {n : Nat} (accessor : ValueAccessor n)
    (valueAccessorId : Nat) : Exec TypedValue := do
  let currentLiteral ← accessor.positions.foldlM (fun currentLiteral tid =>
      comparator.accumulateValue platform currentLiteral
        (accessor.getUntypedValueAtAbsolutePosition comparator.leftNullable valueAccessorId tid))
    (if current.isNull then none else some current)
  comparator.accumulated current currentLiteral

end LiteralUncheckedComparator

namespace AsciiStringUncheckedComparator

variable (functor : ComparisonFunctor) (comparator : AsciiStringUncheckedComparator)

/-- The body of the loops. -/
def accumulateValue (newValue value : TypedValue) : Exec TypedValue :=
  if comparator.leftNullable && value.isNull then pure newValue
  else if newValue.isNull then pure value
  else do
    let replaces ← comparator.compareTypedValues functor value newValue
    pure (if replaces then value else newValue)

def accumulateColumnVector (current : TypedValue) (columnVector : ColumnVector) : Exec TypedValue :=
  columnVector.foldlM (comparator.accumulateValue functor) current

def accumulateValueAccessor (current : TypedValue) {n : Nat} (accessor : ValueAccessor n)
    (valueAccessorId : Nat) : Exec TypedValue :=
  accessor.positions.foldlM (fun newValue tid => comparator.accumulateValue functor newValue
    (accessor.getTypedValueAtAbsolutePosition valueAccessorId tid)) current

end AsciiStringUncheckedComparator

/-- A comparator that `BasicComparison` makes. -/
inductive BasicComparator where
  | literal (comparator : LiteralUncheckedComparator)
  | string (functor : ComparisonFunctor) (comparator : AsciiStringUncheckedComparator)
  deriving DecidableEq, Repr

/-- `none` where the exception `OperationInapplicableToType` is thrown. -/
def BasicComparison.makeUncheckedComparatorForTypesHelper (functor : ComparisonFunctor)
    (left right : DataType) : Option BasicComparator :=
  match makeLiteralComparatorForTypes functor left right with
  | some comparator => some (.literal comparator)
  | none => (makeStringComparatorOuterHelper left right).map (.string functor)

/-- The values of one call: a column, or an attribute of an accessor. -/
inductive Batch where
  | columnVector (columnVector : ColumnVector)
  | valueAccessor {n : Nat} (accessor : ValueAccessor n) (valueAccessorId : Nat)

def Batch.values : Batch → ColumnVector
  | columnVector column => column
  | valueAccessor accessor valueAccessorId => accessor.column valueAccessorId

namespace BasicComparator

variable (platform : Platform)

def compareTypedValues : BasicComparator → TypedValue → TypedValue → Exec Bool
  | literal comparator => comparator.compareTypedValues platform
  | string functor comparator => comparator.compareTypedValues functor

/-- One call. -/
def accumulate (comparator : BasicComparator) (current : TypedValue) (batch : Batch) :
    Exec TypedValue :=
  match comparator, batch with
  | literal comparator, .columnVector columnVector =>
    comparator.accumulateColumnVector platform current columnVector
  | literal comparator, .valueAccessor accessor valueAccessorId =>
    comparator.accumulateValueAccessor platform current accessor valueAccessorId
  | string functor comparator, .columnVector columnVector =>
    comparator.accumulateColumnVector functor current columnVector
  | string functor comparator, .valueAccessor accessor valueAccessorId =>
    comparator.accumulateValueAccessor functor current accessor valueAccessorId

/-- Calls that each pass their result on to the next one. -/
def run (comparator : BasicComparator) (current : TypedValue) (batches : List Batch) :
    Exec TypedValue :=
  batches.foldlM (comparator.accumulate platform) current

end BasicComparator

/-! ## Which value is better -/

namespace ComparisonFunctor

/-- The functor without ties, of those that order. -/
def strict? : ComparisonFunctor → Option ComparisonFunctor
  | less | lessEqual => some less
  | greater | greaterEqual => some greater
  | equalTo | notEqualTo => none

/-- The functor with ties. -/
def reflexive? : ComparisonFunctor → Option ComparisonFunctor
  | less | lessEqual => some lessEqual
  | greater | greaterEqual => some greaterEqual
  | equalTo | notEqualTo => none

end ComparisonFunctor

section Keys

/-- An order that compares keys, where both sides have one. -/
def Keyed {α β : Type} [LinearOrder β] (order : α → α → Option Ordering) (key : α → Option β) : Prop :=
  ∀ a b, order a b = (key a).bind fun x => (key b).map (compare x)

variable {α β : Type} [LinearOrder β] {order : α → α → Option Ordering} {key : α → Option β}
  {functor strict reflexive : ComparisonFunctor}

/-- A functor that orders holds on the keys. -/
theorem Keyed.apply_iff (keyed : Keyed order key) (orders : functor.strict?.isSome = true) {a b : α} :
    functor.apply (order a b) = true ↔
      ∃ x y, key a = some x ∧ key b = some y ∧ functor.Holds x y := by
  have unordered : functor.apply none = false := by
    cases functor <;> first | rfl | cases orders
  rw [keyed a b]
  cases left : key a with
  | none => simp [unordered]
  | some x =>
    cases right : key b with
    | none => simp [unordered]
    | some y =>
      have holds := @ComparisonFunctor.apply_iff_holds β β _ _ functor x y x y Iff.rfl Iff.rfl
      simpa using holds

/-- **Replacing** by a functor that orders is a preference. -/
theorem Keyed.preference (keyed : Keyed order key) (isStrict : functor.strict? = some strict) :
    Preference (fun a b => functor.apply (order a b)) fun a b => strict.apply (order a b) = true := by
  have orders : functor.strict?.isSome = true := by rw [isStrict]; rfl
  have strictOrders : strict.strict?.isSome = true := by
    cases functor <;> cases isStrict <;> rfl
  constructor
  · intro a holds
    obtain ⟨x, y, left, right, less⟩ := (keyed.apply_iff strictOrders).mp holds
    obtain rfl := Option.some.inj (left.symm.trans right)
    cases functor <;> cases isStrict <;> exact lt_irrefl x less
  · intro a b holds
    obtain ⟨x, y, left, right, less⟩ := (keyed.apply_iff strictOrders).mp holds
    apply (keyed.apply_iff orders).mpr
    refine ⟨x, y, left, right, ?_⟩
    cases functor <;> cases isStrict <;> first | exact less | exact le_of_lt less
  · intro a b c holds better
    obtain ⟨x, y, left, middle, less⟩ := (keyed.apply_iff strictOrders).mp holds
    obtain ⟨y', z, middle', right, holds'⟩ := (keyed.apply_iff orders).mp better
    obtain rfl := Option.some.inj (middle.symm.trans middle')
    apply (keyed.apply_iff strictOrders).mpr
    refine ⟨x, z, left, right, ?_⟩
    cases functor <;> cases isStrict
    · exact lt_trans less holds'
    · exact lt_of_lt_of_le less holds'
    · exact lt_trans holds' less
    · exact lt_of_le_of_lt holds' less

/-- What no value is strictly better than comes first, or the two are not ordered. -/
theorem Keyed.first_or_unordered (keyed : Keyed order key) (isStrict : functor.strict? = some strict)
    (isReflexive : functor.reflexive? = some reflexive) {best value : α}
    (notBetter : ¬strict.apply (order value best) = true) :
    reflexive.apply (order best value) = true ∨
      reflexive.apply (order best value) = false ∧ reflexive.apply (order value best) = false := by
  have strictOrders : strict.strict?.isSome = true := by
    cases functor <;> cases isStrict <;> rfl
  have reflexiveOrders : reflexive.strict?.isSome = true := by
    cases functor <;> cases isReflexive <;> rfl
  have keys : reflexive.apply (order best value) = true ∨
      reflexive.apply (order value best) = true →
      ∃ x y, key best = some x ∧ key value = some y := by
    rintro (first | last)
    · obtain ⟨x, y, left, right, -⟩ := (keyed.apply_iff reflexiveOrders).mp first
      exact ⟨x, y, left, right⟩
    · obtain ⟨y, x, right, left, -⟩ := (keyed.apply_iff reflexiveOrders).mp last
      exact ⟨x, y, left, right⟩
  by_cases ordered : reflexive.apply (order best value) = true ∨
      reflexive.apply (order value best) = true
  · obtain ⟨x, y, left, right⟩ := keys ordered
    left
    apply (keyed.apply_iff reflexiveOrders).mpr
    refine ⟨x, y, left, right, ?_⟩
    rw [keyed.apply_iff strictOrders] at notBetter
    have notLess : ¬strict.Holds y x := fun less => notBetter ⟨y, x, right, left, less⟩
    cases functor <;> cases isStrict <;> cases isReflexive <;> exact le_of_not_gt notLess
  · obtain ⟨notFirst, notLast⟩ := not_or.mp ordered
    exact .inr ⟨Bool.eq_false_iff.mpr notFirst, Bool.eq_false_iff.mpr notLast⟩

end Keys

/-! ## The orders of literals and of strings have keys -/

section Orders

theorem compare_eq_compare {α β : Type} [LinearOrder α] [LinearOrder β] {a b : α} {x y : β}
    (less : x < y → a < b) (same : x = y → a = b) (greater : y < x → b < a) :
    compare a b = compare x y := by
  rcases lt_trichotomy x y with lt | eq | gt
  · rw [compare_lt_iff_lt.mpr lt, compare_lt_iff_lt.mpr (less lt)]
  · rw [compare_eq_iff_eq.mpr eq, compare_eq_iff_eq.mpr (same eq)]
  · rw [compare_gt_iff_gt.mpr gt, compare_gt_iff_gt.mpr (greater gt)]

/-- The fields of a date in one number. -/
def DateLit.key (date : DateLit) : Int :=
  (date.year.toInt * 256 + date.month.toNat) * 256 + date.day.toNat

theorem DateLit.order_eq (left right : DateLit) : left.order right = compare left.key right.key := by
  have leftMonth := left.month.isLt
  have rightMonth := right.month.isLt
  have leftDay := left.day.isLt
  have rightDay := right.day.isLt
  unfold order key
  split
  · rename_i year
    have differ : left.year.toInt ≠ right.year.toInt := mt BitVec.eq_of_toInt_eq year
    apply (compare_eq_compare ?_ ?_ ?_).symm <;> omega
  · rename_i year
    rw [not_not.mp year]
    split
    · rename_i month
      have differ : left.month.toNat ≠ right.month.toNat := mt BitVec.eq_of_toNat_eq month
      apply (compare_eq_compare ?_ ?_ ?_).symm <;> omega
    · rename_i month
      rw [not_not.mp month]
      apply (compare_eq_compare ?_ ?_ ?_).symm <;> omega

/-- The key of a number: a NaN has none. -/
def NumericType.key : (type : NumericType) → type.Value → Option Int
  | int, value | long, value => some value.toInt
  | float, value => if isNaN 0x7F800000#32 value then none else some (ieeeValue value)
  | double, value => if isNaN 0x7FF0000000000000#64 value then none else some (ieeeValue value)

def ComparedType.key : (type : ComparedType) → type.Value → Option Int
  | literal (.number type), value => type.key value
  | literal .datetimeLit, value | literal .datetimeIntervalLit, value
  | literal .yearMonthIntervalLit, value => some (BitVec.toInt value)
  | dateLit, value => some value.key

theorem ieeeOrder_eq {w : Nat} (infinity left right : BitVec w) :
    ieeeOrder infinity left right =
      (if isNaN infinity left then none else some (ieeeValue left)).bind fun x =>
        (if isNaN infinity right then none else some (ieeeValue right)).map (compare x) := by
  unfold ieeeOrder
  cases isNaN infinity left <;> cases isNaN infinity right <;> rfl

theorem NumericType.order_eq (type : NumericType) (left right : type.Value) :
    type.order left right = (type.key left).bind fun x => (type.key right).map (compare x) := by
  cases type with
  | int | long => rfl
  | float => exact ieeeOrder_eq _ _ _
  | double => exact ieeeOrder_eq _ _ _

/-- Literals of one type are compared by their keys. -/
theorem literalOrder_keyed (platform : Platform) (type : ComparedType) :
    Keyed (literalOrder platform type type) type.key := by
  intro left right
  rcases type with (type | _ | _ | _) | _
  · have order := NumericType.order_eq type left right
    cases type <;> exact order
  · rfl
  · rfl
  · rfl
  · exact congrArg some (DateLit.order_eq left right)

/-- Strings are their own keys. -/
theorem orderSign_keyed : Keyed (fun x y : List Nat => some (compare (orderSign x y) 0)) some := by
  intro x y
  apply congrArg some
  apply compare_eq_compare
  · exact orderSign_neg_iff.mpr
  · exact orderSign_eq_zero.mpr
  · intro greater
    have swapped := orderSign_swap x y
    have negative := orderSign_neg_iff.mpr greater
    omega

end Orders

/-! ## Both entry points fold -/

/-- The values of a type other than NULL. -/
def DataType.HasValue (type : DataType) (value : TypedValue) : Prop :=
  match type with
  | .char _ _ | .varChar _ _ => type.Stores value
  | .int _ | .long _ | .float _ | .double _ | .date _ | .datetime _ | .datetimeInterval _
  | .yearMonthInterval _ | .nullType => value.isNull = false ∧ value.getTypeID = type.getTypeID

/-- The values in a column of a type. -/
def DataType.HoldsValue (type : DataType) (value : TypedValue) : Prop :=
  value.isNull = true ∧ type.isNullable = true ∨ type.HasValue value

theorem DataType.HasValue.isNull {type : DataType} {value : TypedValue} (has : type.HasValue value) :
    value.isNull = false := by
  cases type with
  | char _ _ | varChar _ _ => exact Stores.isNull has
  | int _ | long _ | float _ | double _ | date _ | datetime _ | datetimeInterval _
  | yearMonthInterval _ | nullType => exact has.1

theorem DataType.HoldsValue.nullable {type : DataType} {value : TypedValue}
    (holds : type.HoldsValue value) (null : value.isNull = true) : type.isNullable = true := by
  rcases holds with ⟨-, nullable⟩ | has
  · exact nullable
  · rw [has.isNull] at null
    cases null

section Literals

variable (platform : Platform) {comparator : LiteralUncheckedComparator}

def ComparedType.typeId : ComparedType → TypeID
  | literal type => type.typeId
  | dateLit => .date

/-- The fields of a date lie side by side in the union. -/
theorem TypedValue.getComparedLiteral_date (year : BitVec 32) (month day : BitVec 8) :
    (TypedValue.date year month day).getComparedLiteral .dateLit = ⟨year, month, day⟩ := by
  have yearField : (TypedValue.date year month day).valueUnion.extractLsb' 0 32 = year := by
    ext i inside
    simp [valueUnion]
    grind
  have monthField : (TypedValue.date year month day).valueUnion.extractLsb' 32 8 = month := by
    ext i inside
    simp [valueUnion]
    grind
  have dayField : (TypedValue.date year month day).valueUnion.extractLsb' 40 8 = day := by
    ext i inside
    simp [valueUnion]
    grind
  exact congr (congr (congrArg DateLit.mk yearField) monthField) dayField

/-- A literal is read back as the constructor stored it. -/
theorem TypedValue.ofComparedLiteral_getComparedLiteral {value : TypedValue} {type : ComparedType}
    (same : value.getTypeID = type.typeId) (notNull : value.isNull = false) :
    ofComparedLiteral type (value.getComparedLiteral type) = value := by
  cases type with
  | literal type => exact ofLiteral_getLiteral same notNull
  | dateLit =>
    cases value with
    | null _ => cases notNull
    | date year month day =>
      rw [getComparedLiteral_date]
      rfl
    | int _ | long _ | float _ | double _ | char _ | varChar _ | datetime _ | datetimeInterval _
    | yearMonthInterval _ => cases same

/-- The pointer to the literal that is held. -/
def TypedValue.literalPtr (value : TypedValue) : DataPtr := if value.isNull then none else some value

def TypedValue.literalOrder (platform : Platform) (type : ComparedType) (left right : TypedValue) :
    Option Ordering :=
  Types.literalOrder platform type type (left.getComparedLiteral type)
    (right.getComparedLiteral type)

theorem literalPtr_of_present {value : TypedValue} (present : value.isNull = false) :
    value.literalPtr = some value := if_neg (Bool.eq_false_iff.mp present)

theorem literalPtr_of_null {value : TypedValue} (null : value.isNull = true) :
    value.literalPtr = none := if_pos null

/-- The entry points do the same with the same values. -/
theorem LiteralUncheckedComparator.accumulateValueAccessor_eq (current : TypedValue) {n : Nat}
    (accessor : ValueAccessor n) (valueAccessorId : Nat) :
    comparator.accumulateValueAccessor platform current accessor valueAccessorId =
      comparator.accumulateColumnVector platform current (accessor.column valueAccessorId) := by
  unfold accumulateValueAccessor accumulateColumnVector ValueAccessor.column
  rw [List.foldlM_map]
  rfl

/-- The comparison of two literals that are present. -/
theorem LiteralUncheckedComparator.compareData_eq {functor : ComparisonFunctor} {type : ComparedType}
    {leftNullable rightNullable : Bool} {left right : TypedValue} (leftPresent : left.isNull = false)
    (rightPresent : right.isNull = false) :
    (⟨functor, type, leftNullable, type, rightNullable⟩ :
        LiteralUncheckedComparator).compareData platform (some left) (some right) =
      .ok (functor.apply (TypedValue.literalOrder platform type left right)) := by
  unfold compareData literalAt
  rw [DataPtr.deref_some leftPresent, DataPtr.deref_some rightPresent]
  rfl

/-- The body of the loop on the pointer to the value that is held. -/
theorem LiteralUncheckedComparator.accumulateValue_eq {functor : ComparisonFunctor}
    {type : ComparedType} {leftNullable rightNullable : Bool} {held value : TypedValue}
    (nullable : value.isNull = true → leftNullable = true) :
    (⟨functor, type, leftNullable, type, rightNullable⟩ :
        LiteralUncheckedComparator).accumulateValue platform held.literalPtr
          (value.untyped leftNullable) =
      .ok (keepBest TypedValue.isNull (fun value current =>
        functor.apply (TypedValue.literalOrder platform type value current)) held value).literalPtr := by
  unfold accumulateValue
  rw [DataPtrComparator.isNone_untyped]
  cases null : value.isNull with
  | true =>
    rw [nullable null, keepBest_absent null]
    rfl
  | false =>
    have unchecked : (leftNullable && value.isNull) = false := by rw [null, Bool.and_false]
    rw [DataPtrComparator.untyped_eq unchecked, Bool.and_false]
    cases heldNull : held.isNull with
    | true =>
      rw [literalPtr_of_null heldNull, keepBest_replaced null (Bool.or_eq_true_iff.mpr (.inl heldNull)),
        literalPtr_of_present null]
      rfl
    | false =>
      have compared := @compareData_eq platform functor type leftNullable rightNullable value held null
        heldNull
      rw [literalPtr_of_present heldNull]
      change (do
        let replaces ← compareData platform _ (some value) (some held)
        pure (if replaces then some value else some held)) = _
      rw [compared, Exec.ok_bind]
      cases replaces : functor.apply (TypedValue.literalOrder platform type value held) with
      | true =>
        rw [keepBest_replaced null (Bool.or_eq_true_iff.mpr (.inr replaces)),
          literalPtr_of_present null]
        rfl
      | false =>
        rw [keepBest_kept (Bool.or_eq_false_iff.mpr ⟨heldNull, replaces⟩),
          literalPtr_of_present heldNull]
        rfl

theorem TypedValue.null_getTypeID {value : TypedValue} (null : value.isNull = true) :
    .null value.getTypeID = value := by
  cases value with
  | null _ => rfl
  | int _ | long _ | float _ | double _ | char _ | varChar _ | date _ _ _ | datetime _
  | datetimeInterval _ | yearMonthInterval _ => cases null

/-- What is returned is the value that is held. -/
theorem LiteralUncheckedComparator.accumulated_eq {current held : TypedValue}
    (typed : held.isNull = false → held.getTypeID = comparator.leftCppType.typeId)
    (untouched : held.isNull = true → held = current) :
    comparator.accumulated current held.literalPtr = .ok held := by
  unfold accumulated
  cases null : held.isNull with
  | true =>
    obtain rfl := untouched null
    rw [literalPtr_of_null null]
    exact congrArg Except.ok (TypedValue.null_getTypeID null)
  | false =>
    have read := TypedValue.ofComparedLiteral_getComparedLiteral (typed null) null
    rw [literalPtr_of_present null]
    unfold literalAt
    rw [Option.isSome_some, if_pos rfl, DataPtr.deref_some null]
    exact congrArg Except.ok read

end Literals

/-- What is held between two calls: NULL, or a value of the type. -/
def DataType.KeepsValue (type : DataType) (current : TypedValue) : Prop :=
  current.isNull = true ∨ type.HasValue current

theorem DataType.HoldsValue.keepsValue {type : DataType} {value : TypedValue}
    (holds : type.HoldsValue value) : type.KeepsValue value := holds.imp_left And.left

theorem DataType.KeepsValue.has {type : DataType} {value : TypedValue} (kept : type.KeepsValue value)
    (present : value.isNull = false) : type.HasValue value :=
  kept.resolve_left (Bool.eq_false_iff.mp present)

/-- What a call returns can be passed on. -/
theorem DataType.keepsValue_foldBest {type : DataType}
    {better : TypedValue → TypedValue → Bool} {current : TypedValue}
    {values : List TypedValue} (currentKept : type.KeepsValue current)
    (valuesHeld : ∀ value ∈ values, type.HoldsValue value) :
    type.KeepsValue (foldBest TypedValue.isNull better current values) := by
  rcases foldBest_mem current values with same | ⟨mem, -⟩
  · rwa [same]
  · exact (valuesHeld _ mem).keepsValue

/-- A comparator whose two sides are one type: it compares by an order, and each call keeps the best
value. -/
structure Accumulates (platform : Platform) (comparator : BasicComparator) (type : DataType)
    (better : TypedValue → TypedValue → Bool) : Prop where
  compares : ∀ left right, type.HasValue left → type.HasValue right →
    comparator.compareTypedValues platform left right = .ok (better left right)
  accumulates : ∀ current batch, type.KeepsValue current →
    (∀ value ∈ batch.values, type.HoldsValue value) →
    comparator.accumulate platform current batch =
      .ok (foldBest TypedValue.isNull better current batch.values)

section LiteralFamily

variable (platform : Platform) {functor : ComparisonFunctor} {leftType rightType : DataType}

/-- The values of a type that is compared as a literal are told by their `TypeID`. -/
theorem DataType.hasValue_iff {type : DataType} {literal : ComparedType}
    (sameId : literal.typeId = type.getTypeID) {value : TypedValue} :
    type.HasValue value ↔ value.isNull = false ∧ value.getTypeID = literal.typeId := by
  rw [sameId]
  cases type with
  | char _ _ | varChar _ _ => rcases literal with ((_ | _ | _ | _) | _ | _ | _) | _ <;> cases sameId
  | int _ | long _ | float _ | double _ | date _ | datetime _ | datetimeInterval _
  | yearMonthInterval _ | nullType => exact Iff.rfl

theorem DataType.HasValue.admits {type : DataType} {literal : ComparedType}
    (sameId : literal.typeId = type.getTypeID) {value : TypedValue} (has : type.HasValue value) :
    type.Admits value := by
  obtain ⟨present, typed⟩ := (hasValue_iff sameId).mp has
  refine ⟨typed.trans sameId, ?_⟩
  intro null
  rw [present] at null
  cases null

/-- Two types that differ in nullability only have the same values. -/
theorem DataType.hasValue_congr (sameType : leftType.getNullableVersion = rightType.getNullableVersion)
    {value : TypedValue} (has : leftType.HasValue value) : rightType.HasValue value := by
  cases leftType with
  | int _ | long _ | float _ | double _ | date _ | datetime _ | datetimeInterval _
  | yearMonthInterval _ | nullType =>
    cases rightType <;> cases sameType
    exact has
  | char length _ =>
    cases rightType <;> cases sameType
    cases has with
    | char short ends => exact .char short ends
  | varChar length _ =>
    cases rightType <;> cases sameType
    cases has with
    | varChar ends short => exact .varChar ends short

/-- One call on a column. -/
theorem LiteralUncheckedComparator.accumulateColumnVector_eq {type : ComparedType}
    (sameId : type.typeId = leftType.getTypeID) {rightNullable : Bool} {current : TypedValue}
    {columnVector : ColumnVector} (currentKept : leftType.KeepsValue current)
    (valuesHeld : ∀ value ∈ columnVector, leftType.HoldsValue value) :
    (⟨functor, type, leftType.isNullable, type, rightNullable⟩ :
        LiteralUncheckedComparator).accumulateColumnVector platform current columnVector =
      .ok (foldBest TypedValue.isNull (fun value current =>
        functor.apply (TypedValue.literalOrder platform type value current)) current columnVector) := by
  have loop := @foldlM_eq_foldBest TypedValue TypedValue.isNull
    (fun value current => functor.apply (TypedValue.literalOrder platform type value current)) _
    (fun currentLiteral value => (⟨functor, type, leftType.isNullable, type, rightNullable⟩ :
      LiteralUncheckedComparator).accumulateValue platform currentLiteral
        (value.untyped leftType.isNullable)) TypedValue.literalPtr (fun _ => True) current columnVector
    (fun held _ value mem => accumulateValue_eq platform (valuesHeld value mem).nullable) trivial
    fun _ _ => trivial
  unfold accumulateColumnVector
  change (columnVector.foldlM _ current.literalPtr >>= _) = _
  rw [loop, Exec.ok_bind]
  apply accumulated_eq
  · intro present
    have kept := @DataType.keepsValue_foldBest leftType (fun value current =>
      functor.apply (TypedValue.literalOrder platform type value current)) _ _ currentKept valuesHeld
    exact ((DataType.hasValue_iff sameId).mp (kept.has present)).2
  · exact eq_of_foldBest_absent

theorem literalComparator_accumulates {type : ComparedType}
    (sameId : type.typeId = leftType.getTypeID)
    (sameType : leftType.getNullableVersion = rightType.getNullableVersion) :
    Accumulates platform
      (.literal ⟨functor, type, leftType.isNullable, type, rightType.isNullable⟩) leftType
      fun value current => functor.apply (TypedValue.literalOrder platform type value current) := by
  have sameRight : type.typeId = rightType.getTypeID := by
    rw [sameId]
    cases leftType <;> cases rightType <;> cases sameType <;> rfl
  constructor
  · intro left right leftHas rightHas
    have rightHas := DataType.hasValue_congr sameType rightHas
    have compared := @LiteralUncheckedComparator.compareTypedValues_eq platform
      ⟨functor, type, leftType.isNullable, type, rightType.isNullable⟩ leftType rightType rfl rfl left
      right (leftHas.admits sameId) (rightHas.admits sameRight)
    rw [leftHas.isNull, rightHas.isNull] at compared
    exact compared
  · intro current batch currentKept valuesHeld
    cases batch with
    | columnVector columnVector =>
      exact LiteralUncheckedComparator.accumulateColumnVector_eq platform sameId currentKept valuesHeld
    | valueAccessor accessor valueAccessorId =>
      apply (LiteralUncheckedComparator.accumulateValueAccessor_eq platform current accessor
        valueAccessorId).trans
      exact LiteralUncheckedComparator.accumulateColumnVector_eq platform sameId currentKept valuesHeld

end LiteralFamily

section StringFamily

variable (platform : Platform) {functor : ComparisonFunctor} {leftType rightType : DataType}
  {comparator : AsciiStringUncheckedComparator}

/-- The order of strings. -/
def TypedValue.stringOrder (left right : TypedValue) : Option Ordering :=
  some (compare (orderSign left.characters right.characters) 0)

/-- The values of a string type are those it stores. -/
theorem DataType.hasValue_iff_stores {type : DataType} {terminated : Bool}
    (kind : nullTerminated? type = some terminated) {value : TypedValue} :
    type.HasValue value ↔ type.Stores value := by
  cases type with
  | char _ _ | varChar _ _ => exact Iff.rfl
  | int _ | long _ | float _ | double _ | date _ | datetime _ | datetimeInterval _
  | yearMonthInterval _ | nullType => cases kind

theorem AsciiStringUncheckedComparator.accumulateValueAccessor_eq (current : TypedValue) {n : Nat}
    (accessor : ValueAccessor n) (valueAccessorId : Nat) :
    comparator.accumulateValueAccessor functor current accessor valueAccessorId =
      comparator.accumulateColumnVector functor current (accessor.column valueAccessorId) := by
  unfold accumulateValueAccessor accumulateColumnVector ValueAccessor.column
  rw [List.foldlM_map]

/-- Comparisons of values that are present. -/
theorem Compares.compareTypedValues_eq (compares : Compares comparator leftType rightType)
    {left right : TypedValue} (leftStores : leftType.Stores left)
    (rightStores : rightType.Stores right) :
    comparator.compareTypedValues functor left right =
      .ok (functor.apply (TypedValue.stringOrder left right)) := by
  unfold AsciiStringUncheckedComparator.compareTypedValues DataPtrComparator.compareTypedValuesInl
  rw [leftStores.isNull, rightStores.isNull, Bool.and_false, Bool.and_false]
  exact compares.compareData_eq leftStores rightStores

/-- The body of the loop. -/
theorem Compares.accumulateValue_eq (compares : Compares comparator leftType rightType)
    (sameStores : ∀ value, leftType.Stores value → rightType.Stores value) {held value : TypedValue}
    (heldKept : held.isNull = true ∨ leftType.Stores held)
    (valueHeld : leftType.HoldsString value) :
    comparator.accumulateValue functor held value =
      .ok (keepBest TypedValue.isNull (fun value current =>
        functor.apply (TypedValue.stringOrder value current)) held value) := by
  unfold AsciiStringUncheckedComparator.accumulateValue
  rw [compares.leftNullable]
  rcases valueHeld with ⟨null, nullable⟩ | stores
  · rw [null, nullable, keepBest_absent null]
    rfl
  · have present := stores.isNull
    rw [present, Bool.and_false]
    cases heldNull : held.isNull with
    | true =>
      rw [keepBest_replaced present (Bool.or_eq_true_iff.mpr (.inl heldNull))]
      rfl
    | false =>
      have heldStores := heldKept.resolve_left (Bool.eq_false_iff.mp heldNull)
      have compared := @Compares.compareTypedValues_eq functor leftType rightType comparator compares
        value held stores (sameStores held heldStores)
      simp only [Bool.false_eq_true, if_false, compared, Exec.ok_bind]
      cases replaces : functor.apply (TypedValue.stringOrder value held) with
      | true =>
        rw [keepBest_replaced present (Bool.or_eq_true_iff.mpr (.inr replaces))]
        rfl
      | false =>
        rw [keepBest_kept (Bool.or_eq_false_iff.mpr ⟨heldNull, replaces⟩)]
        rfl

theorem stringComparator_accumulates {terminated : Bool}
    (kind : nullTerminated? leftType = some terminated)
    (sameType : leftType.getNullableVersion = rightType.getNullableVersion)
    (compares : Compares comparator leftType rightType) :
    Accumulates platform (.string functor comparator) leftType
      fun value current => functor.apply (TypedValue.stringOrder value current) := by
  have stores {value : TypedValue} : leftType.HasValue value ↔ leftType.Stores value :=
    DataType.hasValue_iff_stores kind
  have sameStores : ∀ value, leftType.Stores value → rightType.Stores value := by
    intro value leftStores
    have rightKind : nullTerminated? rightType = some terminated := by
      cases leftType <;> cases rightType <;> cases sameType <;> exact kind
    exact (DataType.hasValue_iff_stores rightKind).mp
      (DataType.hasValue_congr sameType (stores.mpr leftStores))
  have column : ∀ current (columnVector : ColumnVector), leftType.KeepsValue current →
      (∀ value ∈ columnVector, leftType.HoldsValue value) →
      comparator.accumulateColumnVector functor current columnVector =
        .ok (foldBest TypedValue.isNull (fun value current =>
          functor.apply (TypedValue.stringOrder value current)) current columnVector) := by
    intro current columnVector currentKept valuesHeld
    apply @foldlM_eq_foldBest TypedValue TypedValue.isNull _ _ _ id leftType.KeepsValue
    · intro held heldKept value mem
      exact compares.accumulateValue_eq sameStores (heldKept.imp_right stores.mp)
        ((valuesHeld value mem).imp_right stores.mp)
    · exact currentKept
    · exact fun value mem => (valuesHeld value mem).keepsValue
  constructor
  · intro left right leftHas rightHas
    exact compares.compareTypedValues_eq (stores.mp leftHas) (sameStores right (stores.mp rightHas))
  · intro current batch currentKept valuesHeld
    cases batch with
    | columnVector columnVector => exact column current columnVector currentKept valuesHeld
    | valueAccessor accessor valueAccessorId =>
      apply (AsciiStringUncheckedComparator.accumulateValueAccessor_eq current accessor
        valueAccessorId).trans
      exact column current (accessor.column valueAccessorId) currentKept valuesHeld

end StringFamily

/-! ## Runs -/

/-- **A value that comes first** among the ones seen, by a comparator without and one with ties. Only
values that are not ordered, such as a NaN, do not compare with it. -/
structure ComesFirst (platform : Platform) (strict reflexive : BasicComparator) (current : TypedValue)
    (values : List TypedValue) (final : TypedValue) : Prop where
  seen : final = current ∨ final ∈ values ∧ final.isNull = false
  isNull_iff : final.isNull = true ↔ current.isNull = true ∧ ∀ value ∈ values, value.isNull = true
  notAfter : ∀ value, value = current ∨ value ∈ values → value.isNull = false →
    strict.compareTypedValues platform value final = .ok false
  first : ∀ value, value = current ∨ value ∈ values → value.isNull = false →
    reflexive.compareTypedValues platform final value = .ok true ∨
      reflexive.compareTypedValues platform final value = .ok false ∧
        reflexive.compareTypedValues platform value final = .ok false

section Runs

variable {platform : Platform} {type : DataType} {comparator : BasicComparator}

/-- A run folds the values of its batches. -/
theorem Accumulates.run_eq {better : TypedValue → TypedValue → Bool}
    (accumulates : Accumulates platform comparator type better) {current : TypedValue}
    (currentKept : type.KeepsValue current) {batches : List Batch}
    (valuesHeld : ∀ batch ∈ batches, ∀ value ∈ batch.values, type.HoldsValue value) :
    comparator.run platform current batches =
      .ok (foldBest TypedValue.isNull better current (batches.flatMap Batch.values)) := by
  unfold BasicComparator.run
  induction batches generalizing current with
  | nil => rfl
  | cons batch batches ih =>
    have here := valuesHeld batch List.mem_cons_self
    rw [List.foldlM_cons, accumulates.accumulates current batch currentKept here, Exec.ok_bind,
      ih (DataType.keepsValue_foldBest currentKept here)
        fun later mem => valuesHeld later (List.mem_cons_of_mem batch mem)]
    unfold foldBest
    rw [List.flatMap_cons, List.foldl_append]

variable {β : Type} [LinearOrder β] {order : TypedValue → TypedValue → Option Ordering}
  {key : TypedValue → Option β} {functor strict reflexive : ComparisonFunctor}
  {strictComparator reflexiveComparator : BasicComparator}

/-- The fold comes first. -/
theorem foldBest_comesFirst (keyed : Keyed order key) (isStrict : functor.strict? = some strict)
    (isReflexive : functor.reflexive? = some reflexive)
    (byStrict : Accumulates platform strictComparator type fun a b => strict.apply (order a b))
    (byReflexive : Accumulates platform reflexiveComparator type fun a b => reflexive.apply (order a b))
    {current : TypedValue} {values : List TypedValue} (currentKept : type.KeepsValue current)
    (valuesHeld : ∀ value ∈ values, type.HoldsValue value) :
    ComesFirst platform strictComparator reflexiveComparator current values
      (foldBest TypedValue.isNull (fun a b => functor.apply (order a b)) current values) := by
  have isBest := @foldBest_isBest TypedValue TypedValue.isNull _ _ (keyed.preference isStrict) current
    values
  have mem := @foldBest_mem TypedValue TypedValue.isNull (fun a b => functor.apply (order a b)) current
    values
  have finalKept := @DataType.keepsValue_foldBest type (fun a b => functor.apply (order a b)) current
    values currentKept valuesHeld
  generalize foldBest TypedValue.isNull (fun a b => functor.apply (order a b)) current values = final
    at isBest mem finalKept
  have seenHas : ∀ value, value = current ∨ value ∈ values → value.isNull = false →
      type.HasValue value := by
    rintro value (rfl | mem) present
    · exact currentKept.has present
    · exact (valuesHeld value mem).keepsValue.has present
  have finalHas : ∀ value, value = current ∨ value ∈ values → value.isNull = false →
      type.HasValue final := by
    intro value seen present
    apply finalKept.has
    rw [Bool.eq_false_iff]
    intro null
    obtain ⟨currentNull, valuesNull⟩ := isBest.absent_iff.mp null
    rcases seen with rfl | mem
    · rw [present] at currentNull
      cases currentNull
    · rw [valuesNull value mem] at present
      cases present
  refine ⟨mem, isBest.absent_iff, ?_, ?_⟩
  · intro value seen present
    rw [byStrict.compares value final (seenHas value seen present) (finalHas value seen present)]
    exact congrArg Except.ok (Bool.eq_false_iff.mpr (isBest.notBetter value seen present))
  · intro value seen present
    have valueHas := seenHas value seen present
    have finalHas := finalHas value seen present
    rw [byReflexive.compares final value finalHas valueHas,
      byReflexive.compares value final valueHas finalHas]
    apply (keyed.first_or_unordered isStrict isReflexive (isBest.notBetter value seen present)).imp
    · exact congrArg Except.ok
    · rintro ⟨notFirst, notLast⟩
      exact ⟨congrArg Except.ok notFirst, congrArg Except.ok notLast⟩

end Runs

section Factories

variable {functor : ComparisonFunctor} {leftType rightType : DataType}

/-- The comparators of literals of one type are alike for all functors. -/
theorem BasicComparison.makeLiteralComparatorForTypes_sameType
    (sameType : leftType.getNullableVersion = rightType.getNullableVersion)
    (made : (makeLiteralComparatorForTypes functor leftType rightType).isSome = true) :
    ∃ type : ComparedType, type.typeId = leftType.getTypeID ∧
      ∀ functor, makeLiteralComparatorForTypes functor leftType rightType =
        some ⟨functor, type, leftType.isNullable, type, rightType.isNullable⟩ := by
  cases leftType <;> cases rightType <;> cases sameType <;> first
    | cases made
      done
    | refine ⟨_, ?_, fun _ => rfl⟩
      rfl

/-- There is one for all functors or for none. -/
theorem BasicComparison.makeLiteralComparatorForTypes_isSome (other : ComparisonFunctor) :
    (makeLiteralComparatorForTypes functor leftType rightType).isSome =
      (makeLiteralComparatorForTypes other leftType rightType).isSome := by
  cases leftType <;> cases rightType <;> rfl

theorem BasicComparison.nullTerminated_of_made {comparator : AsciiStringUncheckedComparator}
    (made : makeStringComparatorOuterHelper leftType rightType = some comparator) :
    ∃ leftTerminated rightTerminated, nullTerminated? leftType = some leftTerminated ∧
      nullTerminated? rightType = some rightTerminated := by
  cases leftType <;> cases rightType <;> first
    | exact ⟨_, _, rfl, rfl⟩
    | cases made

/-- Each comparator whose sides are one type accumulates by an order with keys, one order for all
functors. -/
theorem exists_accumulates (platform : Platform) {comparator : BasicComparator}
    (sameType : leftType.getNullableVersion = rightType.getNullableVersion)
    (made : BasicComparison.makeUncheckedComparatorForTypesHelper functor leftType rightType =
      some comparator) :
    ∃ (β : Type) (_ : LinearOrder β) (order : TypedValue → TypedValue → Option Ordering)
      (key : TypedValue → Option β), Keyed order key ∧
        ∀ functor, ∃ comparator,
          BasicComparison.makeUncheckedComparatorForTypesHelper functor leftType rightType =
            some comparator ∧
          Accumulates platform comparator leftType fun a b => functor.apply (order a b) := by
  cases literals : (BasicComparison.makeLiteralComparatorForTypes functor leftType rightType).isSome with
  | true =>
    obtain ⟨type, sameId, each⟩ :=
      BasicComparison.makeLiteralComparatorForTypes_sameType sameType literals
    refine ⟨Int, inferInstance, TypedValue.literalOrder platform type,
      fun value => type.key (value.getComparedLiteral type),
      fun a b => literalOrder_keyed platform type _ _, fun functor => ?_⟩
    refine ⟨_, ?_, literalComparator_accumulates platform sameId sameType⟩
    unfold BasicComparison.makeUncheckedComparatorForTypesHelper
    rw [each]
  | false =>
    have strings : ∀ functor,
        BasicComparison.makeUncheckedComparatorForTypesHelper functor leftType rightType =
          (BasicComparison.makeStringComparatorOuterHelper leftType rightType).map
            (BasicComparator.string functor) := by
      intro other
      have noLiterals : BasicComparison.makeLiteralComparatorForTypes other leftType rightType = none := by
        rw [← Option.isNone_iff_eq_none, ← Option.isSome_eq_false_iff,
          BasicComparison.makeLiteralComparatorForTypes_isSome functor]
        exact literals
      unfold BasicComparison.makeUncheckedComparatorForTypesHelper
      rw [noLiterals]
    rw [strings] at made
    obtain ⟨stringComparator, stringsMade, rfl⟩ := Option.map_eq_some_iff.mp made
    obtain ⟨_, _, leftKind, rightKind⟩ := BasicComparison.nullTerminated_of_made stringsMade
    obtain ⟨stringComparator, stringsMade, compares⟩ :=
      makeStringComparatorOuterHelper_compares leftKind rightKind
    refine ⟨List Nat, inferInstance, TypedValue.stringOrder, fun value => some value.characters,
      fun a b => orderSign_keyed _ _, fun functor => ?_⟩
    refine ⟨_, ?_, stringComparator_accumulates platform leftKind sameType compares⟩
    rw [strings, stringsMade]
    rfl

end Factories

/-- **Accumulating** by the comparators that order, for two sides that are one type up to nullability.
However the values are cut into batches, and whichever way each batch comes, the final value is the
same and comes first among the current value and the values that are not NULL. -/
theorem accumulate_comesFirst (platform : Platform) {functor strict reflexive : ComparisonFunctor}
    (isStrict : functor.strict? = some strict) (isReflexive : functor.reflexive? = some reflexive)
    {leftType rightType : DataType} {comparator : BasicComparator}
    (sameType : leftType.getNullableVersion = rightType.getNullableVersion)
    (made : BasicComparison.makeUncheckedComparatorForTypesHelper functor leftType rightType =
      some comparator) :
    ∃ strictComparator reflexiveComparator,
      BasicComparison.makeUncheckedComparatorForTypesHelper strict leftType rightType =
        some strictComparator ∧
      BasicComparison.makeUncheckedComparatorForTypesHelper reflexive leftType rightType =
        some reflexiveComparator ∧
      ∀ current, leftType.KeepsValue current →
        ∀ values, (∀ value ∈ values, leftType.HoldsValue value) →
          ∃ final, ComesFirst platform strictComparator reflexiveComparator current values final ∧
            ∀ batches : List Batch, batches.flatMap Batch.values = values →
              comparator.run platform current batches = .ok final := by
  obtain ⟨β, _, order, key, keyed, each⟩ := exists_accumulates platform sameType made
  obtain ⟨strictComparator, strictMade, byStrict⟩ := each strict
  obtain ⟨reflexiveComparator, reflexiveMade, byReflexive⟩ := each reflexive
  obtain ⟨comparator', made', accumulates⟩ := each functor
  obtain rfl := Option.some.inj (made'.symm.trans made)
  refine ⟨strictComparator, reflexiveComparator, strictMade, reflexiveMade, ?_⟩
  intro current currentKept values valuesHeld
  refine ⟨_, foldBest_comesFirst keyed isStrict isReflexive byStrict byReflexive currentKept
    valuesHeld, ?_⟩
  rintro batches rfl
  apply accumulates.run_eq currentKept
  intro batch mem value inBatch
  exact valuesHeld value (List.mem_flatMap.mpr ⟨batch, mem, inBatch⟩)

theorem accumulate_comesFirst_nullThreeOne :
    ∃ comparator strictComparator reflexiveComparator final,
      BasicComparison.makeUncheckedComparatorForTypesHelper .less (.int true) (.int false) =
        some comparator ∧
      ComesFirst integerPlatform strictComparator reflexiveComparator (.null .int)
        [.null .int, .int 3, .int 1] final ∧
      comparator.run integerPlatform (.null .int)
        [.columnVector [.null .int, .int 3], .columnVector [.int 1]] = .ok final := by
  obtain ⟨strictComparator, reflexiveComparator, -, -, accumulates⟩ :=
    @accumulate_comesFirst integerPlatform .less .less .lessEqual rfl rfl (.int true) (.int false) _ rfl
      rfl
  have valuesHeld : ∀ value ∈ [TypedValue.null .int, .int 3, .int 1],
      (DataType.int true).HoldsValue value := by
    simp [DataType.HoldsValue, DataType.HasValue, TypedValue.isNull, TypedValue.getTypeID,
      DataType.getTypeID, DataType.isNullable]
  obtain ⟨final, first, runs⟩ := accumulates (.null .int) (.inl rfl) _ valuesHeld
  exact ⟨_, strictComparator, reflexiveComparator, final, rfl, first,
    runs [.columnVector [.null .int, .int 3], .columnVector [.int 1]] rfl⟩

/-- A NaN. -/
def nan : TypedValue := .ofLiteral (.number .double) 0x7FF8000000000000#64

def one : TypedValue := .ofLiteral (.number .double) 0x3FF0000000000000#64

/-- The minimum of a NaN and 1.0 is the NaN, which is not below 1.0. The minimum of no 32-bit integers
and a 64-bit one is read back as a 32-bit integer. -/
theorem not_accumulate_least :
    (∃ comparator reflexiveComparator,
      BasicComparison.makeUncheckedComparatorForTypesHelper .less (.double true) (.double true) =
        some comparator ∧
      BasicComparison.makeUncheckedComparatorForTypesHelper .lessEqual (.double true) (.double true) =
        some reflexiveComparator ∧
      comparator.run integerPlatform (.null .double) [.columnVector [nan, one]] = .ok nan ∧
      reflexiveComparator.compareTypedValues integerPlatform nan one = .ok false) ∧
    ∃ comparator,
      BasicComparison.makeUncheckedComparatorForTypesHelper .less (.int true) (.long true) =
        some comparator ∧
      comparator.run integerPlatform (.long 0x100000000#64) [.columnVector []] = .ok (.int 0) := by
  refine ⟨⟨_, _, rfl, rfl, ?_, ?_⟩, _, rfl, ?_⟩
  · decide
  · decide
  · decide

end Quickstep.Types
