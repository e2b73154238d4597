import Quickstep.StreamingOperators.StreamingSelectOperator

/-!
# The two projection paths

A select list of plain attributes may be given as attribute ids or as `ScalarAttribute`s. The first
path copies references to the values of the input, the second builds a column for each attribute.
-/

namespace Quickstep.StreamingOperators
open Quickstep.Common Quickstep.Types Quickstep.Expressions TupleIdSequence

/-! ## The columns of attributes -/

/-- A `NativeColumnVector`: the values whose bytes were copied, and the bitmap of the NULLs if the type
is nullable. -/
structure NativeColumnVector where
  type : DataType
  values : List TypedValue
  nullBitmap : Option (List Bool)

namespace NativeColumnVector

def create (type : DataType) (reservedLength : Nat) : NativeColumnVector where
  type := type
  values := []
  nullBitmap := if type.isNullable then some (List.replicate reservedLength false) else none

def appendUntypedValue (column : NativeColumnVector) (value : TypedValue) : NativeColumnVector :=
  { column with values := column.values ++ [value] }

/-- The bytes of the slot stay uninitialised. -/
def appendNullValue (column : NativeColumnVector) : NativeColumnVector :=
  { column with
    values := column.values ++ [default]
    nullBitmap := column.nullBitmap.map fun bits => bits.set column.values.length true }

/-- Whether the position is marked in the bitmap. -/
def isNull (column : NativeColumnVector) (position : Nat) : Bool :=
  column.nullBitmap.any fun bits => bits.getD position false

def getTypedValue (column : NativeColumnVector) (position : Nat) : TypedValue :=
  if column.isNull position then .null column.type.getTypeID else column.values.getD position default

/-- One round of the loops of `ScalarAttribute::getAllValues` over a native column. -/
def appendAttribute (column : NativeColumnVector) (value : TypedValue) : NativeColumnVector :=
  if column.type.isNullable then
    if value.isNull then column.appendNullValue else column.appendUntypedValue value
  else column.appendUntypedValue value

end NativeColumnVector

/-- `ScalarAttribute::getAllValues`, with the layout of its column: the values read back. -/
def attributeColumn (attr : CatalogAttribute) {n : Nat} (accessor : ValueAccessor n) : List TypedValue :=
  if attr.type.isVariableLength then
    accessor.positions.map (accessor.getTypedValueAtAbsolutePosition attr.id)
  else
    let column := accessor.positions.foldl
      (fun column t => column.appendAttribute (accessor.getTypedValueAtAbsolutePosition attr.id t))
      (NativeColumnVector.create attr.type accessor.getNumTuples)
    (List.range column.values.length).map column.getTypedValue

/-- A native column holds the values, has room, and no bit is set behind the values. -/
structure Holds (column : NativeColumnVector) (columnType : DataType) (values : List TypedValue)
    (reservedLength : Nat) : Prop where
  type : column.type = columnType
  length : column.values.length = values.length
  bitmap : columnType.isNullable = true → ∃ bits, column.nullBitmap = some bits ∧ bits.length = reservedLength
  unset : ∀ k, values.length ≤ k → column.isNull k = false
  read : ∀ k, k < values.length → column.getTypedValue k = values.getD k default

theorem holds_create (columnType : DataType) (reservedLength : Nat) :
    Holds (.create columnType reservedLength) columnType [] reservedLength where
  type := rfl
  length := rfl
  bitmap nullable := ⟨List.replicate reservedLength false, by
    unfold NativeColumnVector.create
    rw [nullable]
    exact ⟨rfl, List.length_replicate⟩⟩
  unset k _ := by
    unfold NativeColumnVector.isNull NativeColumnVector.create
    cases columnType.isNullable with
    | false => rfl
    | true =>
      show (List.replicate reservedLength false).getD k false = false
      rw [List.getD_eq_getElem?_getD, List.getElem?_replicate]
      split <;> rfl
  read k inside := absurd inside (Nat.not_lt_zero k)

section Append

variable {column : NativeColumnVector} {columnType : DataType} {values : List TypedValue}
  {reservedLength : Nat}

theorem isNull_appendNullValue {bits : List Bool} (bitmap : column.nullBitmap = some bits)
    (room : column.values.length < bits.length) (k : Nat) :
    column.appendNullValue.isNull k = (decide (k = column.values.length) || column.isNull k) := by
  unfold NativeColumnVector.appendNullValue NativeColumnVector.isNull
  rw [bitmap]
  show (bits.set column.values.length true).getD k false = (_ || bits.getD k false)
  rw [List.getD_eq_getElem?_getD, List.getElem?_set]
  by_cases here : column.values.length = k
  · simp [here ▸ room, here]
  · simp [here, Ne.symm here]

/-- What a slot holds after one more value was appended. -/
theorem getD_append_singleton {slots : List TypedValue} {value : TypedValue} {k : Nat}
    (inside : k ≤ slots.length) :
    (slots ++ [value]).getD k default = if k = slots.length then value else slots.getD k default := by
  by_cases last : k = slots.length
  · simp [last]
  · rw [if_neg last, List.getD_append _ _ _ _ (by omega)]

theorem Holds.appendUntypedValue (holds : Holds column columnType values reservedLength)
    (value : TypedValue) :
    Holds (column.appendUntypedValue value) columnType (values ++ [value]) reservedLength where
  type := holds.type
  length := by simp [NativeColumnVector.appendUntypedValue, holds.length]
  bitmap := holds.bitmap
  unset k behind := by
    apply holds.unset k
    rw [List.length_append] at behind
    omega
  read k inside := by
    have bound : k ≤ values.length := by
      rw [List.length_append, List.length_singleton] at inside
      omega
    have same : (column.appendUntypedValue value).isNull k = column.isNull k := rfl
    have slot : (column.appendUntypedValue value).values.getD k default =
        if k = values.length then value else column.values.getD k default := by
      rw [← holds.length]
      exact getD_append_singleton (holds.length ▸ bound)
    unfold NativeColumnVector.getTypedValue
    rw [same, slot, getD_append_singleton bound]
    by_cases last : k = values.length
    · rw [holds.unset k (Nat.le_of_eq last.symm), if_pos last, if_pos last]
      rfl
    · rw [if_neg last, if_neg last]
      exact holds.read k (by omega)

theorem Holds.appendNullValue (holds : Holds column columnType values reservedLength)
    (room : values.length < reservedLength) (nullable : columnType.isNullable = true) :
    Holds column.appendNullValue columnType (values ++ [.null columnType.getTypeID]) reservedLength := by
  obtain ⟨bits, bitmap, size⟩ := holds.bitmap nullable
  have marks (k : Nat) := isNull_appendNullValue bitmap (by rw [holds.length, size]; exact room) k
  refine ⟨holds.type, ?_, ?_, ?_, ?_⟩
  · simp [NativeColumnVector.appendNullValue, holds.length]
  · intro _
    refine ⟨bits.set column.values.length true, ?_, by simp [size]⟩
    unfold NativeColumnVector.appendNullValue
    rw [bitmap]
    rfl
  · intro k behind
    rw [List.length_append, List.length_singleton] at behind
    rw [marks, holds.length, holds.unset k (by omega)]
    simp only [Bool.or_false, decide_eq_false_iff_not]
    omega
  · intro k inside
    rw [List.length_append, List.length_singleton] at inside
    unfold NativeColumnVector.getTypedValue
    rw [marks, holds.length, getD_append_singleton (by omega)]
    by_cases last : k = values.length
    · rw [if_pos last, decide_eq_true last, Bool.true_or, if_pos rfl]
      exact congrArg TypedValue.null (congrArg DataType.getTypeID holds.type)
    · have slot : column.appendNullValue.values.getD k default = column.values.getD k default :=
        List.getD_append _ _ _ _ (by rw [holds.length]; omega)
      rw [if_neg last, decide_eq_false last, Bool.false_or, slot]
      exact holds.read k (by omega)

/-- One round appends the value of the attribute, if it is a value of the type. -/
theorem Holds.appendAttribute (holds : Holds column columnType values reservedLength)
    (room : values.length < reservedLength) {value : TypedValue} (admits : columnType.Admits value) :
    Holds (column.appendAttribute value) columnType (values ++ [value]) reservedLength := by
  unfold NativeColumnVector.appendAttribute
  rw [holds.type]
  cases null : value.isNull with
  | false =>
    rw [if_neg Bool.false_ne_true, ite_self]
    exact holds.appendUntypedValue value
  | true =>
    have nullable := admits.nullable null
    have same : value = .null columnType.getTypeID := by
      cases value with
      | null typeId => exact congrArg TypedValue.null admits.typeId
      | _ => cases null
    rw [if_pos nullable, if_pos rfl, same]
    exact holds.appendNullValue room nullable

/-- The loop appends the values of the tuples, one after the other. -/
theorem Holds.foldl {α : Type} {ts : List α} {value : α → TypedValue}
    (holds : Holds column columnType values reservedLength)
    (room : values.length + ts.length ≤ reservedLength)
    (typed : ∀ t ∈ ts, columnType.Admits (value t)) :
    Holds (ts.foldl (fun column t => column.appendAttribute (value t)) column) columnType
      (values ++ ts.map value) reservedLength := by
  induction ts generalizing column values with
  | nil => simpa using holds
  | cons t ts ih =>
    rw [List.length_cons] at room
    have appended := holds.appendAttribute (by omega) (typed t List.mem_cons_self)
    have rest := ih appended (by rw [List.length_append, List.length_singleton]; omega)
      fun u isLater => typed u (List.mem_cons_of_mem _ isLater)
    rw [List.append_assoc] at rest
    exact rest

end Append

/-- **The column of an attribute**, in either layout, holds the values of the iteration. -/
theorem attributeColumn_eq (attr : CatalogAttribute) {n : Nat} (accessor : ValueAccessor n)
    (typed : ∀ t ∈ accessor.positions,
      attr.type.Admits (accessor.getTypedValueAtAbsolutePosition attr.id t)) :
    attributeColumn attr accessor = accessor.column attr.id := by
  unfold attributeColumn
  split
  · rfl
  · have holds := (holds_create attr.type accessor.getNumTuples).foldl
      (by rw [List.length_nil, Nat.zero_add, accessor.length_positions]) typed
    rw [List.nil_append] at holds
    apply List.ext_getElem
    · rw [List.length_map, List.length_range, holds.length]
      rfl
    · intro k bound bound'
      rw [List.getElem_map, List.getElem_range, holds.read k bound']
      exact List.getD_eq_getElem _ _ bound'

/-! ## Agreement -/

/-- The select list of the expression path. -/
def scalarAttributes (selectAttributes : List CatalogAttribute) : List Scalar :=
  selectAttributes.map .ofAttribute

/-- **The two paths agree** on a batch exactly if every string that is selected comes from an attribute
of variable length, so no CHAR is selected. -/
theorem projection_paths_agree_iff (ops : Operations) (build : Build) (predicates : List Predicate)
    {selectAttributes : List CatalogAttribute} (nonempty : selectAttributes ≠ []) (input : Batch) :
    selectFrom ops build (.ofAttributes predicates (selectAttributes.map CatalogAttribute.id)) input =
        selectFrom ops build (.ofExpressions predicates (scalarAttributes selectAttributes)) input ↔
      ∀ result, filterResult ops build input.accessor predicates none = .ok result →
        ∀ t ∈ iterated result, ∀ attr ∈ selectAttributes,
          (input.accessor.getTypedValueAtAbsolutePosition attr.id t).hasOutOfLineData = true →
          attr.type.isVariableLength = true := by
  cases filtered : filterResult ops build input.accessor predicates none with
  | error fault =>
    -- Neither path gets beyond the predicates.
    apply iff_of_true _ (by rintro _ ⟨⟩)
    unfold selectFrom
    simp only [SelectSpec.predicates, filtered]
    rfl
  | ok result =>
    have agree : ∀ e ∈ scalarAttributes selectAttributes, (e.methods ops).AgreesOn build
        (readSingleTuple input.accessor) (iterated result) := by
      intro e isExpression
      obtain ⟨attr, _, rfl⟩ := List.mem_map.mp isExpression
      exact scalarAttribute_agrees attr
    have nonempty' : scalarAttributes selectAttributes ≠ [] := by simpa [scalarAttributes] using nonempty
    rw [selectFrom_ofAttributes filtered, selectFrom_ofExpressions filtered nonempty' agree,
      Except.ok.injEq, Batch.inPlace, List.map_map, List.map_inj_left]
    simp only [Except.ok.injEq, forall_eq']
    apply forall_congr'
    intro t
    apply imp_congr_right
    intro _
    unfold scalarAttributes
    rw [Function.comp_apply, List.map_map, List.map_map, List.map_map, List.map_inj_left]
    apply forall_congr'
    intro attr
    apply imp_congr_right
    intro _
    rw [eq_comm]
    exact releasedValue_eq_some_iff

/-- Two attributes of integers, one of them twice. -/
def intAttributes : List CatalogAttribute := [⟨0, 1, .int true⟩, ⟨0, 0, .int true⟩, ⟨0, 1, .int true⟩]

theorem projection_paths_agree_repeated :
    selectFrom intOperations ⟨true, true⟩ (.ofAttributes [] [1, 0, 1]) [[.int 1, .null .int]] =
      selectFrom intOperations ⟨true, true⟩ (.ofExpressions [] (scalarAttributes intAttributes))
        [[.int 1, .null .int]] := by
  have nonempty : intAttributes ≠ [] := List.cons_ne_nil _ _
  refine (projection_paths_agree_iff intOperations ⟨true, true⟩ [] nonempty _).mpr ?_
  intro result filtered
  cases filtered
  decide

def charAttribute : CatalogAttribute := ⟨0, 0, .char 2 true⟩

/-- One CHAR value: the first path refers to the input, the second to a column that is gone. -/
theorem not_projection_paths_agree_char :
    selectFrom intOperations ⟨true, true⟩ (.ofAttributes [] [0]) [[.char [97, 98]]] ≠
      selectFrom intOperations ⟨true, true⟩ (.ofExpressions [] (scalarAttributes [charAttribute]))
        [[.char [97, 98]]] := by
  intro same
  have released : selectFrom intOperations ⟨true, true⟩
      (.ofExpressions [] (scalarAttributes [charAttribute])) [[.char [97, 98]]] = .ok [[none]] := rfl
  cases same.trans released

end Quickstep.StreamingOperators
