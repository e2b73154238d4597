import Quickstep.Types.ComparatorLoops

/-!
# Comparators on data pointers

The entry points that the comparators of literals and of strings share, and the default
implementations. They check for null pointers on the sides that are nullable, and then compare what
the pointers point to.
-/

namespace Quickstep.Types
open Quickstep.Lib Quickstep.Common TupleIdSequence

/-- A pointer to the data of a value, or the null pointer. -/
abbrev DataPtr := Option TypedValue

/-- There is no data behind a null pointer, nor in a NULL value. -/
def DataPtr.deref : DataPtr → Exec TypedValue
  | some value => if value.isNull then .error .undefinedBehaviour else .ok value
  | none => .error .undefinedBehaviour

theorem DataPtr.deref_some {value : TypedValue} (present : value.isNull = false) :
    DataPtr.deref (some value) = .ok value := if_neg (Bool.eq_false_iff.mp present)

theorem DataPtr.notNull_of_deref {value read : TypedValue}
    (found : DataPtr.deref (some value) = .ok read) : value.isNull = false := by
  cases null : value.isNull with
  | false => rfl
  | true =>
    have fault : DataPtr.deref (some value) = .error .undefinedBehaviour := if_pos null
    rw [fault] at found
    cases found

/-- `getUntypedValue<check_null>` of a value. -/
def TypedValue.untyped (checkNull : Bool) (value : TypedValue) : DataPtr :=
  if checkNull && value.isNull then none else some value

def ColumnVector.getUntypedValue (checkNull : Bool) (columnVector : ColumnVector) (position : Nat) :
    Exec DataPtr := do
  let value ← readAt columnVector position
  pure (value.untyped checkNull)

def ValueAccessor.getUntypedValueAtAbsolutePosition {n : Nat} (checkNull : Bool)
    (accessor : ValueAccessor n) (attributeId : Nat) (tid : Fin n) : DataPtr :=
  (accessor.getTypedValueAtAbsolutePosition attributeId tid).untyped checkNull

/-- `compareData` is the comparison functor on what two pointers point to. -/
structure DataPtrComparator where
  leftNullable : Bool
  rightNullable : Bool
  compareData : DataPtr → DataPtr → Exec Bool

namespace DataPtrComparator

variable (comparator : DataPtrComparator)

def compareTypedValuesInl (left right : TypedValue) : Exec Bool :=
  if comparator.leftNullable && left.isNull || comparator.rightNullable && right.isNull then .ok false
  else comparator.compareData (some left) (some right)

def compareDataPtrsInl (left right : DataPtr) : Exec Bool :=
  if comparator.leftNullable && left.isNone || comparator.rightNullable && right.isNone then .ok false
  else comparator.compareData left right

def compareDataPtrsHelper (argumentsInOrder : Bool) (left right : DataPtr) : Exec Bool :=
  comparator.compareData (if argumentsInOrder then left else right)
    (if argumentsInOrder then right else left)

/-- The argument on the left if it is the column or the accessor. -/
def nullable (onLeft : Bool) : Bool :=
  if onLeft then comparator.leftNullable else comparator.rightNullable

variable {n : Nat}

def compareColumnVectors (build : Build) (left right : ColumnVector)
    (filter existenceMap : Option (TupleIdSequence n)) : Exec (TupleIdSequence n) :=
  let compareAt (position : Nat) : Exec Bool := do
    comparator.compareDataPtrsInl (← left.getUntypedValue comparator.leftNullable position)
      (← right.getUntypedValue comparator.rightNullable position)
  columnVectorLoop false build filter existenceMap (positionBits left.length compareAt)
    fun position _ => compareAt position

def compareColumnVectorAndStaticValueHelper (columnVectorOnLeft : Bool) (build : Build)
    (columnVector : ColumnVector) (staticValue : TypedValue)
    (filter existenceMap : Option (TupleIdSequence n)) : Exec (TupleIdSequence n) :=
  let cvNullable := comparator.nullable columnVectorOnLeft
  let staticValueNullable := comparator.nullable (!columnVectorOnLeft)
  let compareAt (position : Nat) : Exec Bool := do
    let cvValue ← columnVector.getUntypedValue cvNullable position
    guarded (!(cvNullable && cvValue.isNone))
      (comparator.compareDataPtrsHelper columnVectorOnLeft cvValue (some staticValue))
  if staticValueNullable && staticValue.isNull then .ok (.create n)
  else
    columnVectorLoop true build filter existenceMap (positionBits columnVector.length compareAt)
      fun position _ => compareAt position

def compareSingleValueAccessor (build : Build) (accessor : ValueAccessor n) (leftId rightId : Nat)
    (filter : Option (TupleIdSequence n)) : Exec (TupleIdSequence n) :=
  valueAccessorLoop build accessor filter fun tid =>
    let leftValue :=
      accessor.getUntypedValueAtAbsolutePosition comparator.leftNullable leftId tid
    let rightValue :=
      accessor.getUntypedValueAtAbsolutePosition comparator.rightNullable rightId tid
    guarded (!(comparator.leftNullable && leftValue.isNone ||
        comparator.rightNullable && rightValue.isNone))
      (comparator.compareDataPtrsHelper true leftValue rightValue)

def compareValueAccessorAndStaticValueHelper (valueAccessorOnLeft : Bool) (build : Build)
    (accessor : ValueAccessor n) (valueAccessorAttrId : Nat) (staticValue : TypedValue)
    (filter : Option (TupleIdSequence n)) : Exec (TupleIdSequence n) :=
  let vaNullable := comparator.nullable valueAccessorOnLeft
  let staticValueNullable := comparator.nullable (!valueAccessorOnLeft)
  if staticValueNullable && staticValue.isNull then .ok (.create n)
  else
    valueAccessorLoop build accessor filter fun tid =>
      let vaValue := accessor.getUntypedValueAtAbsolutePosition vaNullable valueAccessorAttrId tid
      guarded (!(vaNullable && vaValue.isNone))
        (comparator.compareDataPtrsHelper valueAccessorOnLeft vaValue (some staticValue))

def compareColumnVectorAndValueAccessorHelper (columnVectorOnLeft : Bool) (build : Build)
    (columnVector : ColumnVector) (accessor : ValueAccessor n) (valueAccessorAttrId : Nat)
    (filter existenceMap : Option (TupleIdSequence n)) : Exec (TupleIdSequence n) :=
  let cvNullable := comparator.nullable columnVectorOnLeft
  let vaNullable := comparator.nullable (!columnVectorOnLeft)
  let compareAt (position : Nat) (tid : Fin n) : Exec Bool := do
    let cvValue ← columnVector.getUntypedValue cvNullable position
    let vaValue := accessor.getUntypedValueAtAbsolutePosition vaNullable valueAccessorAttrId tid
    guarded (!(cvNullable && cvValue.isNone || vaNullable && vaValue.isNone))
      (comparator.compareDataPtrsHelper columnVectorOnLeft cvValue vaValue)
  -- Without an existence map the bits are set at the positions in the column.
  columnVectorLoop true build filter existenceMap
    (accessor.positions.zipIdx.map fun entry => (entry.2, compareAt entry.2 entry.1)) compareAt

/-- The entry points of the comparators of literals. -/
def vectorised : VectorisedComparator where
  compareColumnVectors build _ left right filter existenceMap :=
    comparator.compareColumnVectors build left right filter existenceMap
  compareColumnVectorAndStaticValue build _ left right filter existenceMap :=
    comparator.compareColumnVectorAndStaticValueHelper true build left right filter existenceMap
  compareStaticValueAndColumnVector build _ left right filter existenceMap :=
    comparator.compareColumnVectorAndStaticValueHelper false build right left filter existenceMap
  compareSingleValueAccessor build _ accessor leftId rightId filter :=
    comparator.compareSingleValueAccessor build accessor leftId rightId filter
  compareValueAccessorAndStaticValue build _ accessor leftId right filter :=
    comparator.compareValueAccessorAndStaticValueHelper true build accessor leftId right filter
  compareStaticValueAndValueAccessor build _ left accessor rightId filter :=
    comparator.compareValueAccessorAndStaticValueHelper false build accessor rightId left filter
  compareColumnVectorAndValueAccessor build _ left accessor rightId filter existenceMap :=
    comparator.compareColumnVectorAndValueAccessorHelper true build left accessor rightId filter
      existenceMap
  compareValueAccessorAndColumnVector build _ accessor leftId right filter existenceMap :=
    comparator.compareColumnVectorAndValueAccessorHelper false build right accessor leftId filter
      existenceMap

/-! ## Default implementations

They leave the checks to `compareDataPtrs`, `compareTypedValueWithDataPtr` and
`compareDataPtrWithTypedValue`, which all end in `compareDataPtrsInl`. The one of `compareColumnVectors`
is the loop above. -/

def compareStaticValueAndColumnVectorDefaultImpl (build : Build) (left : TypedValue)
    (right : ColumnVector) (filter existenceMap : Option (TupleIdSequence n)) :
    Exec (TupleIdSequence n) :=
  let compareAt (position : Nat) : Exec Bool := do
    comparator.compareDataPtrsInl (some left)
      (← right.getUntypedValue comparator.rightNullable position)
  if comparator.leftNullable && left.isNull then .ok (.create n)
  else
    columnVectorLoop false build filter existenceMap (positionBits right.length compareAt)
      fun position _ => compareAt position

def compareSingleValueAccessorDefaultImpl (build : Build) (accessor : ValueAccessor n)
    (leftId rightId : Nat) (filter : Option (TupleIdSequence n)) : Exec (TupleIdSequence n) :=
  valueAccessorLoop build accessor filter fun tid =>
    comparator.compareDataPtrsInl
      (accessor.getUntypedValueAtAbsolutePosition comparator.leftNullable leftId tid)
      (accessor.getUntypedValueAtAbsolutePosition comparator.rightNullable rightId tid)

def compareStaticValueAndValueAccessorDefaultImpl (build : Build) (left : TypedValue)
    (accessor : ValueAccessor n) (rightId : Nat) (filter : Option (TupleIdSequence n)) :
    Exec (TupleIdSequence n) :=
  if comparator.leftNullable && left.isNull then .ok (.create n)
  else
    valueAccessorLoop build accessor filter fun tid =>
      comparator.compareDataPtrsInl (some left)
        (accessor.getUntypedValueAtAbsolutePosition comparator.rightNullable rightId tid)

/-- The loops over a column next to an accessor, with either of them on the left. -/
def compareColumnVectorAndValueAccessorDefaultImpl (columnVectorOnLeft : Bool) (build : Build)
    (columnVector : ColumnVector) (accessor : ValueAccessor n) (attributeId : Nat)
    (filter existenceMap : Option (TupleIdSequence n)) : Exec (TupleIdSequence n) :=
  let compareAt (position : Nat) (tid : Fin n) : Exec Bool := do
    let cvValue ← columnVector.getUntypedValue (comparator.nullable columnVectorOnLeft) position
    let vaValue := accessor.getUntypedValueAtAbsolutePosition
      (comparator.nullable (!columnVectorOnLeft)) attributeId tid
    comparator.compareDataPtrsInl (if columnVectorOnLeft then cvValue else vaValue)
      (if columnVectorOnLeft then vaValue else cvValue)
  columnVectorLoop false build filter existenceMap
    (accessor.positions.zipIdx.map fun entry => (entry.1.val, compareAt entry.2 entry.1)) compareAt

/-! ## What the entry points compare -/

section Judges

theorem isNone_untyped (checkNull : Bool) (value : TypedValue) :
    (checkNull && (value.untyped checkNull).isNone) = (checkNull && value.isNull) := by
  unfold TypedValue.untyped
  cases checkNull with
  | false => rfl
  | true => cases value.isNull <;> rfl

theorem untyped_eq {checkNull : Bool} {value : TypedValue}
    (present : (checkNull && value.isNull) = false) : value.untyped checkNull = some value := by
  unfold TypedValue.untyped
  rw [present]
  rfl

/-- The comparison behind a check of both sides. -/
theorem guarded_compareData (left right : TypedValue) :
    guarded (!(comparator.leftNullable && (left.untyped comparator.leftNullable).isNone ||
        comparator.rightNullable && (right.untyped comparator.rightNullable).isNone))
      (comparator.compareData (left.untyped comparator.leftNullable)
        (right.untyped comparator.rightNullable)) = comparator.compareTypedValuesInl left right := by
  unfold compareTypedValuesInl
  rw [isNone_untyped, isNone_untyped]
  cases leftNull : comparator.leftNullable && left.isNull with
  | true => rfl
  | false =>
    cases rightNull : comparator.rightNullable && right.isNull with
    | true => rfl
    | false =>
      rw [untyped_eq leftNull, untyped_eq rightNull]
      rfl

theorem compareDataPtrsInl_untyped (left right : TypedValue) :
    comparator.compareDataPtrsInl (left.untyped comparator.leftNullable)
      (right.untyped comparator.rightNullable) = comparator.compareTypedValuesInl left right := by
  rw [← guarded_compareData]
  unfold compareDataPtrsInl
  cases comparator.leftNullable && (left.untyped comparator.leftNullable).isNone ||
    comparator.rightNullable && (right.untyped comparator.rightNullable).isNone <;> rfl

/-- The comparison with a constant on the right behind a check of the left side. -/
theorem guarded_staticRight {right : TypedValue}
    (present : (comparator.rightNullable && right.isNull) = false) (left : TypedValue) :
    guarded (!(comparator.leftNullable && (left.untyped comparator.leftNullable).isNone))
      (comparator.compareData (left.untyped comparator.leftNullable) (some right)) =
        comparator.compareTypedValuesInl left right := by
  rw [← guarded_compareData, isNone_untyped comparator.rightNullable, present, Bool.or_false,
    untyped_eq present]

theorem guarded_staticLeft {left : TypedValue}
    (present : (comparator.leftNullable && left.isNull) = false) (right : TypedValue) :
    guarded (!(comparator.rightNullable && (right.untyped comparator.rightNullable).isNone))
      (comparator.compareData (some left) (right.untyped comparator.rightNullable)) =
        comparator.compareTypedValuesInl left right := by
  rw [← guarded_compareData, isNone_untyped comparator.leftNullable, present, Bool.false_or,
    untyped_eq present]

/-- A column at the position of a tuple. -/
theorem getUntypedValue_of_getElem? {ids : List (Fin n)} {position : Nat} {id : Fin n}
    (place : ids[position]? = some id) (checkNull : Bool) (value : Fin n → TypedValue) :
    ColumnVector.getUntypedValue checkNull (ids.map value) position =
      .ok ((value id).untyped checkNull) := by
  unfold ColumnVector.getUntypedValue readAt
  rw [List.getElem?_map, place]
  rfl

/-- The bits of a loop over a column without an existence map. -/
theorem positionBits_eq {judge : Fin n → Exec Bool} {compareAt : Nat → Exec Bool}
    {existenceMap : Option (TupleIdSequence n)} {value : Fin n → TypedValue}
    (aligned : ∀ position id, (iterated existenceMap)[position]? = some id →
      compareAt position = judge id) (none : existenceMap = none) :
    positionBits ((iterated existenceMap).map value).length compareAt =
      (iterated existenceMap).map fun id => (id.val, judge id) := by
  subst none
  unfold positionBits
  rw [List.length_map]
  apply List.ext_getElem
  · simp
  · intro position bound _
    simp only [List.length_map, List.length_range] at bound
    simp only [List.getElem_map, List.getElem_range]
    rw [aligned position _ (List.getElem?_eq_getElem bound)]
    simp [iterated]

/-- Where the constant is NULL nothing is compared. -/
theorem runs_of_null {execution : Exec (TupleIdSequence n)} {visited candidate : Fin n → Prop}
    {judge : Fin n → Exec Bool} {null : Bool}
    (rejects : null = true → ∀ t, judge t = .ok false)
    (runs : null = false → Runs execution visited candidate judge) :
    Runs (if null then .ok (.create n) else execution) visited candidate judge := by
  cases null with
  | false => exact runs rfl
  | true =>
    refine ⟨iff_of_true ⟨_, rfl⟩ fun t _ => ⟨false, rejects rfl t⟩, fun result run t => ?_⟩
    cases run
    rw [rejects rfl t]
    simp

theorem compareTypedValuesInl_nullRight {left right : TypedValue}
    (null : (comparator.rightNullable && right.isNull) = true) :
    comparator.compareTypedValuesInl left right = .ok false := by
  unfold compareTypedValuesInl
  rw [null, Bool.or_true]
  rfl

theorem compareTypedValuesInl_nullLeft {left right : TypedValue}
    (null : (comparator.leftNullable && left.isNull) = true) :
    comparator.compareTypedValuesInl left right = .ok false := by
  unfold compareTypedValuesInl
  rw [null, Bool.true_or]
  rfl

variable {build : Build} {filter existenceMap : Option (TupleIdSequence n)}

theorem compareColumnVectors_runs (left right : Fin n → TypedValue)
    (within : Within filter existenceMap) :
    Runs (comparator.compareColumnVectors build ((iterated existenceMap).map left)
        ((iterated existenceMap).map right) filter existenceMap)
      (Visited build filter existenceMap) (Candidate filter existenceMap)
      fun t => comparator.compareTypedValuesInl (left t) (right t) := by
  have aligned : ∀ position id, (iterated existenceMap)[position]? = some id →
      (do comparator.compareDataPtrsInl
            (← ColumnVector.getUntypedValue comparator.leftNullable
              ((iterated existenceMap).map left) position)
            (← ColumnVector.getUntypedValue comparator.rightNullable
              ((iterated existenceMap).map right) position)) =
        comparator.compareTypedValuesInl (left id) (right id) := by
    intro position id place
    rw [getUntypedValue_of_getElem? place, getUntypedValue_of_getElem? place, Exec.ok_bind,
      Exec.ok_bind, compareDataPtrsInl_untyped]
  exact columnVectorLoop_runs within aligned (positionBits_eq aligned)

theorem compareColumnVectorAndStaticValueHelper_left (left : Fin n → TypedValue) (right : TypedValue)
    (within : Within filter existenceMap) :
    Runs (comparator.compareColumnVectorAndStaticValueHelper true build
        ((iterated existenceMap).map left) right filter existenceMap)
      (Visited build filter existenceMap) (Candidate filter existenceMap)
      fun t => comparator.compareTypedValuesInl (left t) right := by
  refine runs_of_null (fun null t => comparator.compareTypedValuesInl_nullRight null) ?_
  intro present
  have aligned : ∀ position id, (iterated existenceMap)[position]? = some id →
      (do let cvValue ← ColumnVector.getUntypedValue comparator.leftNullable
            ((iterated existenceMap).map left) position
          guarded (!(comparator.leftNullable && cvValue.isNone))
            (comparator.compareDataPtrsHelper true cvValue (some right))) =
        comparator.compareTypedValuesInl (left id) right := by
    intro position id place
    rw [getUntypedValue_of_getElem? place, Exec.ok_bind]
    exact comparator.guarded_staticRight present (left id)
  exact columnVectorLoop_runs within aligned (positionBits_eq aligned)

theorem compareColumnVectorAndStaticValueHelper_right (left : TypedValue) (right : Fin n → TypedValue)
    (within : Within filter existenceMap) :
    Runs (comparator.compareColumnVectorAndStaticValueHelper false build
        ((iterated existenceMap).map right) left filter existenceMap)
      (Visited build filter existenceMap) (Candidate filter existenceMap)
      fun t => comparator.compareTypedValuesInl left (right t) := by
  refine runs_of_null (fun null t => comparator.compareTypedValuesInl_nullLeft null) ?_
  intro present
  have aligned : ∀ position id, (iterated existenceMap)[position]? = some id →
      (do let cvValue ← ColumnVector.getUntypedValue comparator.rightNullable
            ((iterated existenceMap).map right) position
          guarded (!(comparator.rightNullable && cvValue.isNone))
            (comparator.compareDataPtrsHelper false cvValue (some left))) =
        comparator.compareTypedValuesInl left (right id) := by
    intro position id place
    rw [getUntypedValue_of_getElem? place, Exec.ok_bind]
    exact comparator.guarded_staticLeft present (right id)
  exact columnVectorLoop_runs within aligned (positionBits_eq aligned)

variable {accessor : ValueAccessor n}

theorem compareSingleValueAccessor_runs (leftId rightId : Nat)
    (within : Within filter accessor.tupleIdSequence) :
    Runs (comparator.compareSingleValueAccessor build accessor leftId rightId filter)
      (Visited build filter accessor.tupleIdSequence) (Candidate filter accessor.tupleIdSequence)
      fun t => comparator.compareTypedValuesInl (accessor.getTypedValueAtAbsolutePosition leftId t)
        (accessor.getTypedValueAtAbsolutePosition rightId t) := by
  simp only [← guarded_compareData]
  exact valueAccessorLoop_runs within

theorem compareValueAccessorAndStaticValueHelper_left (leftId : Nat) (right : TypedValue)
    (within : Within filter accessor.tupleIdSequence) :
    Runs (comparator.compareValueAccessorAndStaticValueHelper true build accessor leftId right filter)
      (Visited build filter accessor.tupleIdSequence) (Candidate filter accessor.tupleIdSequence)
      fun t => comparator.compareTypedValuesInl (accessor.getTypedValueAtAbsolutePosition leftId t)
        right := by
  refine runs_of_null (fun null t => comparator.compareTypedValuesInl_nullRight null) ?_
  intro present
  simp only [← comparator.guarded_staticRight present]
  exact valueAccessorLoop_runs within

theorem compareValueAccessorAndStaticValueHelper_right (left : TypedValue) (rightId : Nat)
    (within : Within filter accessor.tupleIdSequence) :
    Runs (comparator.compareValueAccessorAndStaticValueHelper false build accessor rightId left filter)
      (Visited build filter accessor.tupleIdSequence) (Candidate filter accessor.tupleIdSequence)
      fun t => comparator.compareTypedValuesInl left
        (accessor.getTypedValueAtAbsolutePosition rightId t) := by
  refine runs_of_null (fun null t => comparator.compareTypedValuesInl_nullLeft null) ?_
  intro present
  simp only [← comparator.guarded_staticLeft present]
  exact valueAccessorLoop_runs within

/-- The bits of a loop over an accessor that counts the positions in a column. -/
theorem accessorBits_eq {judge : Fin n → Exec Bool} {compareAt : Nat → Fin n → Exec Bool}
    (describes : accessor.Describes existenceMap)
    (aligned : ∀ position id, (iterated existenceMap)[position]? = some id →
      compareAt position id = judge id) (none : existenceMap = none) :
    (accessor.positions.zipIdx.map fun entry => (entry.2, compareAt entry.2 entry.1)) =
      (iterated existenceMap).map fun id => (id.val, judge id) := by
  rw [describes.positions, ← zipIdx_map_eq]
  refine List.map_congr_left fun entry mem => ?_
  have place := List.mem_zipIdx_iff_getElem?.mp mem
  rw [compareAt_of_mem_zipIdx aligned mem]
  subst none
  have same : entry.1.val = entry.2 := by
    obtain ⟨bound, same⟩ := List.getElem?_eq_some_iff.mp place
    rw [← same]
    simp [iterated]
  rw [same]

theorem compareColumnVectorAndValueAccessorHelper_left (left : Fin n → TypedValue) (rightId : Nat)
    (describes : accessor.Describes existenceMap) (within : Within filter existenceMap) :
    Runs (comparator.compareColumnVectorAndValueAccessorHelper true build
        ((iterated existenceMap).map left) accessor rightId filter existenceMap)
      (Visited build filter existenceMap) (Candidate filter existenceMap)
      fun t => comparator.compareTypedValuesInl (left t)
        (accessor.getTypedValueAtAbsolutePosition rightId t) := by
  have aligned : ∀ position id, (iterated existenceMap)[position]? = some id →
      (do let cvValue ← ColumnVector.getUntypedValue comparator.leftNullable
            ((iterated existenceMap).map left) position
          let vaValue := accessor.getUntypedValueAtAbsolutePosition comparator.rightNullable rightId id
          guarded (!(comparator.leftNullable && cvValue.isNone ||
              comparator.rightNullable && vaValue.isNone))
            (comparator.compareDataPtrsHelper true cvValue vaValue)) =
        comparator.compareTypedValuesInl (left id)
          (accessor.getTypedValueAtAbsolutePosition rightId id) := by
    intro position id place
    rw [getUntypedValue_of_getElem? place, Exec.ok_bind]
    exact comparator.guarded_compareData (left id) _
  exact columnVectorLoop_runs within aligned (accessorBits_eq describes aligned)

theorem compareColumnVectorAndValueAccessorHelper_right (leftId : Nat) (right : Fin n → TypedValue)
    (describes : accessor.Describes existenceMap) (within : Within filter existenceMap) :
    Runs (comparator.compareColumnVectorAndValueAccessorHelper false build
        ((iterated existenceMap).map right) accessor leftId filter existenceMap)
      (Visited build filter existenceMap) (Candidate filter existenceMap)
      fun t => comparator.compareTypedValuesInl (accessor.getTypedValueAtAbsolutePosition leftId t)
        (right t) := by
  have aligned : ∀ position id, (iterated existenceMap)[position]? = some id →
      (do let cvValue ← ColumnVector.getUntypedValue comparator.rightNullable
            ((iterated existenceMap).map right) position
          let vaValue := accessor.getUntypedValueAtAbsolutePosition comparator.leftNullable leftId id
          guarded (!(comparator.rightNullable && cvValue.isNone ||
              comparator.leftNullable && vaValue.isNone))
            (comparator.compareDataPtrsHelper false cvValue vaValue)) =
        comparator.compareTypedValuesInl (accessor.getTypedValueAtAbsolutePosition leftId id)
          (right id) := by
    intro position id place
    rw [getUntypedValue_of_getElem? place, Exec.ok_bind, ← comparator.guarded_compareData, Bool.or_comm]
    rfl
  exact columnVectorLoop_runs within aligned (accessorBits_eq describes aligned)

theorem compareDataPtrsInl_staticLeft {left : TypedValue}
    (present : (comparator.leftNullable && left.isNull) = false) (right : TypedValue) :
    comparator.compareDataPtrsInl (some left) (right.untyped comparator.rightNullable) =
      comparator.compareTypedValuesInl left right := by
  rw [← compareDataPtrsInl_untyped, untyped_eq present]

theorem compareStaticValueAndColumnVectorDefaultImpl_runs (left : TypedValue)
    (right : Fin n → TypedValue) (within : Within filter existenceMap) :
    Runs (comparator.compareStaticValueAndColumnVectorDefaultImpl build left
        ((iterated existenceMap).map right) filter existenceMap)
      (Visited build filter existenceMap) (Candidate filter existenceMap)
      fun t => comparator.compareTypedValuesInl left (right t) := by
  refine runs_of_null (fun null t => comparator.compareTypedValuesInl_nullLeft null) ?_
  intro present
  have aligned : ∀ position id, (iterated existenceMap)[position]? = some id →
      (do comparator.compareDataPtrsInl (some left)
            (← ColumnVector.getUntypedValue comparator.rightNullable
              ((iterated existenceMap).map right) position)) =
        comparator.compareTypedValuesInl left (right id) := by
    intro position id place
    rw [getUntypedValue_of_getElem? place, Exec.ok_bind,
      comparator.compareDataPtrsInl_staticLeft present]
  exact columnVectorLoop_runs within aligned (positionBits_eq aligned)

theorem compareSingleValueAccessorDefaultImpl_runs (leftId rightId : Nat)
    (within : Within filter accessor.tupleIdSequence) :
    Runs (comparator.compareSingleValueAccessorDefaultImpl build accessor leftId rightId filter)
      (Visited build filter accessor.tupleIdSequence) (Candidate filter accessor.tupleIdSequence)
      fun t => comparator.compareTypedValuesInl (accessor.getTypedValueAtAbsolutePosition leftId t)
        (accessor.getTypedValueAtAbsolutePosition rightId t) := by
  simp only [← compareDataPtrsInl_untyped]
  exact valueAccessorLoop_runs within

theorem compareStaticValueAndValueAccessorDefaultImpl_runs (left : TypedValue) (rightId : Nat)
    (within : Within filter accessor.tupleIdSequence) :
    Runs (comparator.compareStaticValueAndValueAccessorDefaultImpl build left accessor rightId filter)
      (Visited build filter accessor.tupleIdSequence) (Candidate filter accessor.tupleIdSequence)
      fun t => comparator.compareTypedValuesInl left
        (accessor.getTypedValueAtAbsolutePosition rightId t) := by
  refine runs_of_null (fun null t => comparator.compareTypedValuesInl_nullLeft null) ?_
  intro present
  simp only [← comparator.compareDataPtrsInl_staticLeft present]
  exact valueAccessorLoop_runs within

/-- The bits of a loop over an accessor that are set at its positions. -/
theorem accessorBits_eq_of_positions {judge : Fin n → Exec Bool} {compareAt : Nat → Fin n → Exec Bool}
    (describes : accessor.Describes existenceMap)
    (aligned : ∀ position id, (iterated existenceMap)[position]? = some id →
      compareAt position id = judge id) :
    (accessor.positions.zipIdx.map fun entry => (entry.1.val, compareAt entry.2 entry.1)) =
      (iterated existenceMap).map fun id => (id.val, judge id) := by
  rw [describes.positions, ← zipIdx_map_eq]
  refine List.map_congr_left fun entry mem => ?_
  rw [compareAt_of_mem_zipIdx aligned mem]

theorem compareColumnVectorAndValueAccessorDefaultImpl_left (left : Fin n → TypedValue) (rightId : Nat)
    (describes : accessor.Describes existenceMap) (within : Within filter existenceMap) :
    Runs (comparator.compareColumnVectorAndValueAccessorDefaultImpl true build
        ((iterated existenceMap).map left) accessor rightId filter existenceMap)
      (Visited build filter existenceMap) (Candidate filter existenceMap)
      fun t => comparator.compareTypedValuesInl (left t)
        (accessor.getTypedValueAtAbsolutePosition rightId t) := by
  have aligned : ∀ position id, (iterated existenceMap)[position]? = some id →
      (do let cvValue ← ColumnVector.getUntypedValue comparator.leftNullable
            ((iterated existenceMap).map left) position
          comparator.compareDataPtrsInl cvValue
            (accessor.getUntypedValueAtAbsolutePosition comparator.rightNullable rightId id)) =
        comparator.compareTypedValuesInl (left id)
          (accessor.getTypedValueAtAbsolutePosition rightId id) := by
    intro position id place
    rw [getUntypedValue_of_getElem? place, Exec.ok_bind]
    exact comparator.compareDataPtrsInl_untyped (left id) _
  exact columnVectorLoop_runs within aligned fun _ => accessorBits_eq_of_positions describes aligned

theorem compareColumnVectorAndValueAccessorDefaultImpl_right (leftId : Nat)
    (right : Fin n → TypedValue) (describes : accessor.Describes existenceMap)
    (within : Within filter existenceMap) :
    Runs (comparator.compareColumnVectorAndValueAccessorDefaultImpl false build
        ((iterated existenceMap).map right) accessor leftId filter existenceMap)
      (Visited build filter existenceMap) (Candidate filter existenceMap)
      fun t => comparator.compareTypedValuesInl (accessor.getTypedValueAtAbsolutePosition leftId t)
        (right t) := by
  have aligned : ∀ position id, (iterated existenceMap)[position]? = some id →
      (do let cvValue ← ColumnVector.getUntypedValue comparator.rightNullable
            ((iterated existenceMap).map right) position
          comparator.compareDataPtrsInl
            (accessor.getUntypedValueAtAbsolutePosition comparator.leftNullable leftId id) cvValue) =
        comparator.compareTypedValuesInl (accessor.getTypedValueAtAbsolutePosition leftId id)
          (right id) := by
    intro position id place
    rw [getUntypedValue_of_getElem? place, Exec.ok_bind]
    exact comparator.compareDataPtrsInl_untyped _ (right id)
  exact columnVectorLoop_runs within aligned fun _ => accessorBits_eq_of_positions describes aligned

end Judges

/-- **The vectorised entry points** compare like `compareTypedValues`. -/
theorem vectorised_judges {call : VectorisedCall n} (wellFormed : call.WellFormed) (build : Build) :
    call.Judges comparator.vectorised build comparator.compareTypedValuesInl := by
  obtain ⟨within, describes⟩ := wellFormed
  cases call with
  | columnVectors left right filter existenceMap =>
    exact comparator.compareColumnVectors_runs left right within
  | columnVectorAndStaticValue left right filter existenceMap =>
    exact comparator.compareColumnVectorAndStaticValueHelper_left left right within
  | staticValueAndColumnVector left right filter existenceMap =>
    exact comparator.compareColumnVectorAndStaticValueHelper_right left right within
  | singleValueAccessor accessor leftId rightId filter =>
    exact comparator.compareSingleValueAccessor_runs leftId rightId within
  | valueAccessorAndStaticValue accessor leftId right filter =>
    exact comparator.compareValueAccessorAndStaticValueHelper_left leftId right within
  | staticValueAndValueAccessor left accessor rightId filter =>
    exact comparator.compareValueAccessorAndStaticValueHelper_right left rightId within
  | columnVectorAndValueAccessor left accessor rightId filter existenceMap =>
    exact comparator.compareColumnVectorAndValueAccessorHelper_left left rightId describes within
  | valueAccessorAndColumnVector accessor leftId right filter existenceMap =>
    exact comparator.compareColumnVectorAndValueAccessorHelper_right leftId right describes within

/-- A comparison that is undefined on NULL holds only on values. -/
theorem notNull_of_compareTypedValuesInl {left right : TypedValue}
    (faults : ∀ holds, comparator.compareData (some left) (some right) = .ok holds →
      left.isNull = false ∧ right.isNull = false)
    (holds : comparator.compareTypedValuesInl left right = .ok true) :
    left.isNull = false ∧ right.isNull = false := by
  unfold compareTypedValuesInl at holds
  split at holds
  · cases holds
  · exact faults true holds

/-- **Selection**, where every comparison of existing tuples has a result and none has one on NULL. -/
theorem selects_of_returns {call : VectorisedCall n} {vectorised : VectorisedComparator}
    (wellFormed : call.WellFormed) {build : Build}
    (judges : call.Judges vectorised build comparator.compareTypedValuesInl)
    (faults : ∀ left right holds, comparator.compareData (some left) (some right) = .ok holds →
      left.isNull = false ∧ right.isNull = false)
    (returns : ∀ t, Candidate none call.existenceMap t →
      ∃ holds, comparator.compareTypedValuesInl (call.left t) (call.right t) = .ok holds) :
    call.Selects vectorised build fun left right =>
      comparator.compareTypedValuesInl left right = .ok true := by
  rw [judges.selects_iff]
  refine ⟨fun t visited => returns t (visited.exists_of_within wellFormed.1), fun t _ => ?_⟩
  constructor
  · intro holds
    obtain ⟨leftPresent, rightPresent⟩ := comparator.notNull_of_compareTypedValuesInl
      (faults (call.left t) (call.right t)) holds
    exact ⟨leftPresent, rightPresent, holds⟩
  · rintro ⟨-, -, holds⟩
    exact holds

end DataPtrComparator

end Quickstep.Types
