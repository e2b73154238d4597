import Quickstep.Types.Operations

/-!
# Default vectorised implementations

The default implementations of the entry points of `UncheckedComparator`, which loop over the
existence map, the filter or the accessor and set one bit per tuple, and the loops of the arithmetic
operators. They agree with the per-value entry points they call.
-/

namespace Quickstep.Types
open Quickstep.Common TupleIdSequence

/-! ## Comparison loops -/

section Loops

variable {n : Nat}

/-- Set the listed bits of a new sequence one after the other. -/
def setEach (bits : List (Fin n × Bool)) : TupleIdSequence n :=
  bits.foldl (fun result bit => result.set bit.1 bit.2) (.create n)

theorem mem_foldl_set {ids : List (Fin n)} {holds : Fin n → Bool} {start : TupleIdSequence n}
    {t : Fin n} :
    t ∈ (ids.map fun id => (id, holds id)).foldl (fun result bit => result.set bit.1 bit.2) start ↔
      if t ∈ ids then holds t = true else t ∈ start := by
  induction ids generalizing start with
  | nil => simp
  | cons id ids ih =>
    rw [List.map_cons, List.foldl_cons, ih]
    by_cases later : t ∈ ids
    · simp [later]
    · by_cases here : t = id
      · simp [here]
      · simp [later, here]

theorem mem_setEach {ids : List (Fin n)} {holds : Fin n → Bool} {t : Fin n} :
    t ∈ setEach (ids.map fun id => (id, holds id)) ↔ t ∈ ids ∧ holds t = true := by
  unfold setEach
  rw [mem_foldl_set]
  simp

/-- The bits of a loop over ids that counts the position in the column next to them. -/
def columnBits (ids : List (Fin n)) (compareAt : Nat → Fin n → Bool) : List (Fin n × Bool) :=
  ids.zipIdx.map fun entry => (entry.1, compareAt entry.2 entry.1)

/-- The ids of the values of a column. -/
def columnIds (existenceMap : Option (TupleIdSequence n)) (unmapped : List (Fin n)) : List (Fin n) :=
  match existenceMap with
  | some existenceMap => existenceMap.ids
  | none => unmapped

/-- A column loop. The comparison sees the position in the column and the tuple id; without an
existence map the ids are those of `unmapped`. -/
def columnLoop (build : Build) (filter existenceMap : Option (TupleIdSequence n))
    (unmapped : List (Fin n)) (compareAt : Nat → Fin n → Bool) : TupleIdSequence n :=
  match build.vectorPredicateShortCircuit, filter, existenceMap with
  | true, some filter, some existenceMap =>
    setEach (columnBits existenceMap.ids fun position id => filter.get id && compareAt position id)
  | true, some filter, none => setEach (filter.ids.map fun id => (id, compareAt id id))
  | _, filter, existenceMap =>
    let result := setEach (columnBits (columnIds existenceMap unmapped) compareAt)
    match filter with
    | some filter => result.intersectWith filter
    | none => result

/-- A loop over the attributes of an accessor. -/
def accessorLoop (build : Build) (accessor : ValueAccessor n) (filter : Option (TupleIdSequence n))
    (compareAt : Fin n → Bool) : TupleIdSequence n :=
  match build.vectorPredicateShortCircuit, filter with
  | true, some filter => setEach (filter.ids.map fun id => (id, compareAt id))
  | _, filter =>
    let result := setEach (accessor.positions.map fun id => (id, compareAt id))
    match filter with
    | some filter => result.intersectWith filter
    | none => result

/-- Positions count the listed ids. -/
theorem columnBits_eq {ids : List (Fin n)} {compareAt : Nat → Fin n → Bool} {holds : Fin n → Bool}
    (aligned : ∀ position id, ids[position]? = some id → compareAt position id = holds id) :
    columnBits ids compareAt = ids.map fun id => (id, holds id) := by
  unfold columnBits
  apply List.ext_getElem
  · simp
  · intro position bound bound'
    simp only [List.length_map, List.length_zipIdx] at bound
    simp only [List.getElem_map, List.getElem_zipIdx, Nat.zero_add, Prod.mk.injEq, true_and]
    exact aligned position _ (List.getElem?_eq_getElem bound)

theorem mem_columnLoop {build : Build} {filter existenceMap : Option (TupleIdSequence n)}
    {unmapped : List (Fin n)} {compareAt : Nat → Fin n → Bool} (holds : Fin n → Bool)
    (ids : columnIds existenceMap unmapped = iterated existenceMap)
    (within : Within filter existenceMap)
    (aligned : ∀ position id, (iterated existenceMap)[position]? = some id →
      compareAt position id = holds id) (t : Fin n) :
    t ∈ columnLoop build filter existenceMap unmapped compareAt ↔
      Candidate filter existenceMap t ∧ holds t = true := by
  have plain : t ∈ setEach (columnBits (columnIds existenceMap unmapped) compareAt) ↔
      Candidate none existenceMap t ∧ holds t = true := by
    rw [ids, columnBits_eq aligned, mem_setEach, mem_iterated]
  unfold columnLoop
  cases filter with
  | none => cases build.vectorPredicateShortCircuit <;> exact plain
  | some filter =>
    have existing (inside : t ∈ filter) : Candidate none existenceMap t :=
      Candidate.exists_of_within (candidate_filter.mpr inside) within
    cases build.vectorPredicateShortCircuit with
    | false =>
      simp only
      rw [mem_intersectWith, plain, candidate_filter]
      constructor
      · rintro ⟨⟨_, holds⟩, inside⟩
        exact ⟨inside, holds⟩
      · rintro ⟨inside, holds⟩
        exact ⟨⟨existing inside, holds⟩, inside⟩
    | true =>
      cases existenceMap with
      | none =>
        have bits : (filter.ids.map fun id : Fin n => (id, compareAt id id)) =
            filter.ids.map fun id => (id, holds id) := by
          refine List.map_congr_left fun id _ => ?_
          rw [aligned id id (by simp [iterated])]
        simp only
        rw [bits, mem_setEach, mem_ids, candidate_filter]
      | some existenceMap =>
        have filtered : columnBits existenceMap.ids
              (fun position id => filter.get id && compareAt position id) =
            existenceMap.ids.map fun id => (id, filter.get id && holds id) :=
          columnBits_eq fun position id place => by rw [aligned position id place]
        simp only
        rw [filtered, mem_setEach, mem_ids, Bool.and_eq_true]
        constructor
        · rintro ⟨_, inside, holds⟩
          exact ⟨inside, holds⟩
        · rintro ⟨inside, holds⟩
          exact ⟨existing inside, inside, holds⟩

theorem mem_accessorLoop {build : Build} {accessor : ValueAccessor n}
    {filter : Option (TupleIdSequence n)} {compareAt : Fin n → Bool}
    (within : Within filter accessor.tupleIdSequence) (t : Fin n) :
    t ∈ accessorLoop build accessor filter compareAt ↔
      Candidate filter accessor.tupleIdSequence t ∧ compareAt t = true := by
  have plain : t ∈ setEach (accessor.positions.map fun id => (id, compareAt id)) ↔
      Candidate none accessor.tupleIdSequence t ∧ compareAt t = true := by
    rw [mem_setEach, ← mem_iterated]
    rfl
  unfold accessorLoop
  cases filter with
  | none => cases build.vectorPredicateShortCircuit <;> exact plain
  | some filter =>
    cases build.vectorPredicateShortCircuit with
    | true =>
      simp only
      rw [mem_setEach, mem_ids, candidate_filter]
    | false =>
      simp only
      rw [mem_intersectWith, plain, candidate_filter]
      constructor
      · rintro ⟨⟨_, holds⟩, inside⟩
        exact ⟨inside, holds⟩
      · rintro ⟨inside, holds⟩
        have candidate : Candidate (some filter) accessor.tupleIdSequence t := inside
        exact ⟨⟨candidate.exists_of_within within, holds⟩, inside⟩

end Loops

/-! ## Operators -/

/-- The comparator whose entry points all are default implementations. A NULL on its own compares to
nothing. -/
def defaultComparator (compareTypedValues : TypedValue → TypedValue → Bool) :
    UncheckedComparator where
  compareTypedValues := compareTypedValues
  compareColumnVectors build n left right filter existenceMap :=
    columnLoop build filter existenceMap (List.finRange n) fun position _ =>
      compareTypedValues (left.getD position default) (right.getD position default)
  compareColumnVectorAndStaticValue build n left right filter existenceMap :=
    if right.isNull then .create n
    else columnLoop build filter existenceMap (List.finRange n) fun position _ =>
      compareTypedValues (left.getD position default) right
  compareStaticValueAndColumnVector build n left right filter existenceMap :=
    if left.isNull then .create n
    else columnLoop build filter existenceMap (List.finRange n) fun position _ =>
      compareTypedValues left (right.getD position default)
  compareSingleValueAccessor build _ accessor leftId rightId filter :=
    accessorLoop build accessor filter fun id =>
      compareTypedValues (accessor.getTypedValueAtAbsolutePosition leftId id)
        (accessor.getTypedValueAtAbsolutePosition rightId id)
  compareValueAccessorAndStaticValue build n accessor leftId right filter :=
    if right.isNull then .create n
    else accessorLoop build accessor filter fun id =>
      compareTypedValues (accessor.getTypedValueAtAbsolutePosition leftId id) right
  compareStaticValueAndValueAccessor build n left accessor rightId filter :=
    if left.isNull then .create n
    else accessorLoop build accessor filter fun id =>
      compareTypedValues left (accessor.getTypedValueAtAbsolutePosition rightId id)
  compareColumnVectorAndValueAccessor build _ left accessor rightId filter existenceMap :=
    columnLoop build filter existenceMap accessor.positions fun position id =>
      compareTypedValues (left.getD position default)
        (accessor.getTypedValueAtAbsolutePosition rightId id)
  compareValueAccessorAndColumnVector build _ accessor leftId right filter existenceMap :=
    columnLoop build filter existenceMap accessor.positions fun position id =>
      compareTypedValues (accessor.getTypedValueAtAbsolutePosition leftId id)
        (right.getD position default)

/-- The value of a column at the position of a tuple. -/
theorem getD_map_of_getElem? {n : Nat} {ids : List (Fin n)} {position : Nat} {id : Fin n}
    (place : ids[position]? = some id) (value : Fin n → TypedValue) :
    (ids.map value).getD position default = value id := by
  rw [List.getD_eq_getElem?_getD, List.getElem?_map, place]
  rfl

theorem columnIds_finRange {n : Nat} (existenceMap : Option (TupleIdSequence n)) :
    columnIds existenceMap (List.finRange n) = iterated existenceMap := by
  cases existenceMap <;> rfl

theorem columnIds_positions {n : Nat} {accessor : ValueAccessor n}
    {existenceMap : Option (TupleIdSequence n)} (describes : accessor.Describes existenceMap) :
    columnIds existenceMap accessor.positions = iterated existenceMap := by
  rw [describes.positions]
  cases existenceMap <;> rfl

/-- A constant NULL leaves the result empty. -/
theorem mem_unless_null {n : Nat} {t : Fin n} {null holds : Bool} {candidate : Prop}
    {result : TupleIdSequence n} (rejects : null = true → holds = false)
    (loop : t ∈ result ↔ candidate ∧ holds = true) :
    (t ∈ if null then .create n else result) ↔ candidate ∧ holds = true := by
  cases null with
  | false => exact loop
  | true => simp [rejects rfl]

/-- **Default implementations** agree with a per-value comparison that no NULL satisfies. -/
theorem defaultComparator_agrees {compareTypedValues : TypedValue → TypedValue → Bool}
    (nullLeft : ∀ left right, left.isNull = true → compareTypedValues left right = false)
    (nullRight : ∀ left right, right.isNull = true → compareTypedValues left right = false) :
    (defaultComparator compareTypedValues).Agrees where
  columnVectors build n left right filter existenceMap t within :=
    mem_columnLoop (fun t => compareTypedValues (left t) (right t)) (columnIds_finRange _) within
      (fun position id place => by rw [getD_map_of_getElem? place, getD_map_of_getElem? place]) t
  columnVectorAndStaticValue build n left right filter existenceMap t within :=
    mem_unless_null (nullRight _ right) (mem_columnLoop (fun t => compareTypedValues (left t) right)
      (columnIds_finRange _) within
      (fun position id place => by rw [getD_map_of_getElem? place]) t)
  staticValueAndColumnVector build n left right filter existenceMap t within :=
    mem_unless_null (nullLeft left _) (mem_columnLoop (fun t => compareTypedValues left (right t))
      (columnIds_finRange _) within
      (fun position id place => by rw [getD_map_of_getElem? place]) t)
  singleValueAccessor build n accessor leftId rightId filter t within := mem_accessorLoop within t
  valueAccessorAndStaticValue build n accessor leftId right filter t within :=
    mem_unless_null (nullRight _ right) (mem_accessorLoop within t)
  staticValueAndValueAccessor build n left accessor rightId filter t within :=
    mem_unless_null (nullLeft left _) (mem_accessorLoop within t)
  columnVectorAndValueAccessor build n left accessor rightId filter existenceMap t describes within :=
    mem_columnLoop
      (fun t => compareTypedValues (left t) (accessor.getTypedValueAtAbsolutePosition rightId t))
      (columnIds_positions describes) within
      (fun position id place => by rw [getD_map_of_getElem? place]) t
  valueAccessorAndColumnVector build n accessor leftId right filter existenceMap t describes within :=
    mem_columnLoop
      (fun t => compareTypedValues (accessor.getTypedValueAtAbsolutePosition leftId t) (right t))
      (columnIds_positions describes) within
      (fun position id place => by rw [getD_map_of_getElem? place]) t

/-- The loops of the unary operators. -/
def defaultUnaryOperator (applyToTypedValue : TypedValue → TypedValue) : UncheckedUnaryOperator where
  applyToTypedValue := applyToTypedValue
  applyToColumnVector argument := argument.map applyToTypedValue
  applyToValueAccessor accessor attributeId := (accessor.column attributeId).map applyToTypedValue

theorem defaultUnaryOperator_agrees (applyToTypedValue : TypedValue → TypedValue) :
    (defaultUnaryOperator applyToTypedValue).Agrees where
  columnVector _ := rfl
  valueAccessor _ _ := rfl

/-- The loops of the binary operators. -/
def defaultBinaryOperator (applyToTypedValues : TypedValue → TypedValue → TypedValue) :
    UncheckedBinaryOperator where
  applyToTypedValues := applyToTypedValues
  applyToColumnVectors left right := left.zipWith applyToTypedValues right
  applyToColumnVectorAndStaticValue left right := left.map fun value => applyToTypedValues value right
  applyToStaticValueAndColumnVector left right := right.map (applyToTypedValues left)
  applyToSingleValueAccessor accessor leftId rightId :=
    (accessor.column leftId).zipWith applyToTypedValues (accessor.column rightId)
  applyToValueAccessorAndStaticValue accessor leftId right :=
    (accessor.column leftId).map fun value => applyToTypedValues value right
  applyToStaticValueAndValueAccessor left accessor rightId :=
    (accessor.column rightId).map (applyToTypedValues left)
  applyToColumnVectorAndValueAccessor left accessor rightId :=
    left.zipWith applyToTypedValues (accessor.column rightId)
  applyToValueAccessorAndColumnVector accessor leftId right :=
    (accessor.column leftId).zipWith applyToTypedValues right

/-- They are loops also where single values are treated in another way. -/
theorem defaultBinaryOperator_loopsOver (f applyToTypedValues : TypedValue → TypedValue → TypedValue) :
    ({ defaultBinaryOperator f with applyToTypedValues } : UncheckedBinaryOperator).LoopsOver f where
  columnVectors _ _ _ := rfl
  columnVectorAndStaticValue _ _ := rfl
  staticValueAndColumnVector _ _ := rfl
  singleValueAccessor _ _ _ := rfl
  valueAccessorAndStaticValue _ _ _ := rfl
  staticValueAndValueAccessor _ _ _ _ := rfl
  columnVectorAndValueAccessor _ _ _ _ _ := rfl
  valueAccessorAndColumnVector _ _ _ _ := rfl

theorem defaultBinaryOperator_agrees (applyToTypedValues : TypedValue → TypedValue → TypedValue) :
    (defaultBinaryOperator applyToTypedValues).Agrees :=
  defaultBinaryOperator_loopsOver applyToTypedValues applyToTypedValues

/-! ## Operations on INT -/

def compareInts (comparison : ComparisonID) : TypedValue → TypedValue → Bool
  | .int left, .int right =>
    match comparison with
    | .equal => left == right
    | .notEqual => left != right
    | .less => left.slt right
    | .lessOrEqual => left.sle right
    | .greater => right.slt left
    | .greaterOrEqual => right.sle left
    | .like | .notLike | .regexMatch | .notRegexMatch => false
  | _, _ => false

def applyToInt : UnaryOperation → TypedValue → TypedValue
  | .negate, .int value => .int (-value)
  | _, _ => .null .int

def applyToInts (operation : BinaryOperation) : TypedValue → TypedValue → TypedValue
  | .int left, .int right =>
    match operation with
    | .add => .int (left + right)
    | .subtract => .int (left - right)
    | .multiply => .int (left * right)
    | .divide => .int (left.sdiv right)
    | .modulo => .int (left.srem right)
  | _, _ => .null .int

/-- The operations on INT, with default implementations throughout. -/
def intOperations : Operations where
  canCompareTypes _ left right := left matches .int _ && right matches .int _
  compareTypedValuesChecked comparison left _ right _ := compareInts comparison left right
  makeUncheckedComparatorForTypes comparison _ _ := defaultComparator (compareInts comparison)
  canApplyToType operation type := operation matches .negate && type matches .int _
  resultTypeForArgumentType operation type :=
    match operation, type with
    | .negate, .int nullable => some (.int nullable)
    | _, _ => none
  applyToCheckedUnary operation argument _ := applyToInt operation argument
  makeUncheckedUnaryOperatorForType operation _ := defaultUnaryOperator (applyToInt operation)
  canApplyToTypes _ left right := left matches .int _ && right matches .int _
  resultTypeForArgumentTypes _ left right :=
    match left, right with
    | .int leftNullable, .int rightNullable => some (.int (leftNullable || rightNullable))
    | _, _ => none
  applyToCheckedBinary operation left _ right _ := applyToInts operation left right
  makeUncheckedBinaryOperatorForTypes operation _ _ := defaultBinaryOperator (applyToInts operation)

theorem intOperations_agrees : intOperations.Agrees where
  comparator comparison _ _ := defaultComparator_agrees
    (fun left right null => by cases left <;> first | rfl | cases null)
    (fun left right null => by cases right <;> first | cases left <;> rfl | cases null)
  unary operation _ := defaultUnaryOperator_agrees (applyToInt operation)
  binary operation _ _ := defaultBinaryOperator_agrees (applyToInts operation)

end Quickstep.Types
