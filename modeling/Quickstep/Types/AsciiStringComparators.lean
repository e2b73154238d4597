import Quickstep.Types.DataPtrComparators
import Quickstep.Types.StringComparison

/-!
# Comparators of strings

The vectorised entry points of `AsciiStringUncheckedComparator`. They are those of the literals,
except that one loop over an accessor checks the right side for NULL in the wrong place.
-/

namespace Quickstep.Types
open Quickstep.Lib Quickstep.Common TupleIdSequence CString

namespace AsciiStringUncheckedComparator

variable (functor : ComparisonFunctor) (comparator : AsciiStringUncheckedComparator)

def compareData (left right : DataPtr) : Exec Bool := do
  let left ← left.deref
  let right ← right.deref
  let res ← comparator.strcmpHelper left.getOutOfLineData right.getOutOfLineData
  pure (functor.apply (some (compare res 0)))

def dataPtrComparator : DataPtrComparator where
  leftNullable := comparator.leftNullable
  rightNullable := comparator.rightNullable
  compareData := comparator.compareData functor

def compareTypedValues (left right : TypedValue) : Exec Bool :=
  (comparator.dataPtrComparator functor).compareTypedValuesInl left right

/-- Only the loop over the filter checks both sides. -/
def compareSingleValueAccessor (build : Build) {n : Nat} (accessor : ValueAccessor n)
    (leftId rightId : Nat) (filter : Option (TupleIdSequence n)) : Exec (TupleIdSequence n) :=
  let leftValue := accessor.getUntypedValueAtAbsolutePosition comparator.leftNullable leftId
  let rightValue := accessor.getUntypedValueAtAbsolutePosition comparator.rightNullable rightId
  let compareAt (tid : Fin n) : Exec Bool :=
    (comparator.dataPtrComparator functor).compareDataPtrsHelper true (leftValue tid) (rightValue tid)
  match build.vectorPredicateShortCircuit, filter with
  | true, some filter =>
    setCompared (filter.ids.map fun tid : Fin n =>
      (tid.val, guarded (!(comparator.leftNullable && (leftValue tid).isNone ||
        comparator.rightNullable && (rightValue tid).isNone)) (compareAt tid)))
  | _, filter => do
    let result ← setCompared (accessor.positions.map fun tid =>
      (tid.val, guarded (!(comparator.leftNullable && (leftValue tid).isNone) ||
        comparator.rightNullable && (rightValue tid).isNone) (compareAt tid)))
    pure (intersectWithFilter filter result)

def vectorised : VectorisedComparator :=
  { (comparator.dataPtrComparator functor).vectorised with
    compareSingleValueAccessor := fun build _ accessor leftId rightId filter =>
      comparator.compareSingleValueAccessor functor build accessor leftId rightId filter }

end AsciiStringUncheckedComparator

/-- The values in a column of a string type. -/
def DataType.HoldsString (type : DataType) (value : TypedValue) : Prop :=
  value.isNull = true ∧ type.isNullable = true ∨ type.Stores value

/-! ## Comparisons of stored strings -/

section Stored

theorem DataType.Stores.isNull {type : DataType} {value : TypedValue} (stores : type.Stores value) :
    value.isNull = false := by
  cases stores <;> rfl

/-- A value is present where the comparator does not check for NULL. -/
theorem DataType.HoldsString.stores {type : DataType} {value : TypedValue}
    (holdsString : type.HoldsString value) (unchecked : (type.isNullable && value.isNull) = false) :
    type.Stores value := by
  rcases holdsString with ⟨null, nullable⟩ | stores
  · rw [null, nullable] at unchecked
    cases unchecked
  · exact stores

variable {functor : ComparisonFunctor} {comparator : AsciiStringUncheckedComparator}

/-- A comparison reads both sides. -/
theorem exists_deref_of_compareData {left right : DataPtr} {holds : Bool}
    (compared : comparator.compareData functor left right = .ok holds) :
    ∃ leftValue rightValue, left.deref = .ok leftValue ∧ right.deref = .ok rightValue := by
  obtain ⟨leftValue, leftRead, rest⟩ := Exec.bind_ok compared
  obtain ⟨rightValue, rightRead, _⟩ := Exec.bind_ok rest
  exact ⟨leftValue, rightValue, leftRead, rightRead⟩

variable {leftType rightType : DataType}

/-- What the factory promises of a comparator. -/
structure Compares (comparator : AsciiStringUncheckedComparator) (leftType rightType : DataType) :
    Prop where
  leftNullable : comparator.leftNullable = leftType.isNullable
  rightNullable : comparator.rightNullable = rightType.isNullable
  follows : ∀ left right, leftType.Stores left → rightType.Stores right →
    comparator.strcmpHelper left.getOutOfLineData right.getOutOfLineData =
      .ok (orderSign left.characters right.characters)

theorem makeStringComparatorOuterHelper_compares {leftTerminated rightTerminated : Bool}
    (leftKind : nullTerminated? leftType = some leftTerminated)
    (rightKind : nullTerminated? rightType = some rightTerminated) :
    ∃ comparator, BasicComparison.makeStringComparatorOuterHelper leftType rightType =
      some comparator ∧ Compares comparator leftType rightType := by
  refine ⟨_, makeStringComparatorOuterHelper_eq leftKind rightKind, ?_, ?_, ?_⟩
  · unfold BasicComparison.makeStringComparatorInnerHelper
    split
    · rfl
    · split <;> rfl
  · unfold BasicComparison.makeStringComparatorInnerHelper
    split
    · rfl
    · split <;> rfl
  · intro left right leftStores rightStores
    exact makeStringComparatorInnerHelper_spec _ _ (leftStores.fitsSide leftKind)
      (rightStores.fitsSide rightKind)

theorem Compares.compareData_eq (compares : Compares comparator leftType rightType)
    {left right : TypedValue} (leftStores : leftType.Stores left)
    (rightStores : rightType.Stores right) :
    comparator.compareData functor (some left) (some right) =
      .ok (functor.apply (some (compare (orderSign left.characters right.characters) 0))) := by
  unfold AsciiStringUncheckedComparator.compareData
  rw [DataPtr.deref_some leftStores.isNull, DataPtr.deref_some rightStores.isNull, Exec.ok_bind,
    Exec.ok_bind, compares.follows left right leftStores rightStores]
  rfl

/-- `compareTypedValues` has a result on the values of the columns. -/
theorem Compares.compareTypedValues_returns (compares : Compares comparator leftType rightType)
    {left right : TypedValue} (leftHolds : leftType.HoldsString left)
    (rightHolds : rightType.HoldsString right) :
    ∃ holds, comparator.compareTypedValues functor left right = .ok holds := by
  unfold AsciiStringUncheckedComparator.compareTypedValues DataPtrComparator.compareTypedValuesInl
  change ∃ holds, (if comparator.leftNullable && left.isNull ||
    comparator.rightNullable && right.isNull then _
    else comparator.compareData functor (some left) (some right)) = .ok holds
  rw [compares.leftNullable, compares.rightNullable]
  cases leftNull : leftType.isNullable && left.isNull with
  | true => exact ⟨false, rfl⟩
  | false =>
    cases rightNull : rightType.isNullable && right.isNull with
    | true => exact ⟨false, rfl⟩
    | false =>
      exact ⟨_, compares.compareData_eq (leftHolds.stores leftNull) (rightHolds.stores rightNull)⟩

theorem notNull_of_compareData {left right : TypedValue} {holds : Bool}
    (compared : comparator.compareData functor (some left) (some right) = .ok holds) :
    left.isNull = false ∧ right.isNull = false := by
  obtain ⟨_, _, leftRead, rightRead⟩ := exists_deref_of_compareData compared
  exact ⟨DataPtr.notNull_of_deref leftRead, DataPtr.notNull_of_deref rightRead⟩

end Stored

/-! ## The loop over an accessor -/

section SingleValueAccessor

variable {functor : ComparisonFunctor} {comparator : AsciiStringUncheckedComparator}
  {leftType rightType : DataType} {n : Nat} {build : Build}

/-- The entry points other than the one for two attributes of one accessor. -/
theorem judges_of_not_singleValueAccessor {call : VectorisedCall n} (wellFormed : call.WellFormed)
    (other : ∀ accessor leftId rightId filter,
      call ≠ .singleValueAccessor accessor leftId rightId filter) :
    call.Judges (comparator.vectorised functor) build (comparator.compareTypedValues functor) := by
  have judges := (comparator.dataPtrComparator functor).vectorised_judges wellFormed build
  cases call with
  | singleValueAccessor accessor leftId rightId filter => exact absurd rfl (other _ _ _ _)
  | columnVectors _ _ _ _ | columnVectorAndStaticValue _ _ _ _ | staticValueAndColumnVector _ _ _ _
  | valueAccessorAndStaticValue _ _ _ _ | staticValueAndValueAccessor _ _ _ _
  | columnVectorAndValueAccessor _ _ _ _ _ | valueAccessorAndColumnVector _ _ _ _ _ => exact judges

variable {accessor : ValueAccessor n} {leftId rightId : Nat} {filter : Option (TupleIdSequence n)}

/-- The comparison of the loop over the accessor. -/
def AsciiStringUncheckedComparator.compareLeftChecked (comparator : AsciiStringUncheckedComparator)
    (functor : ComparisonFunctor) (left right : TypedValue) : Exec Bool :=
  guarded (!(comparator.leftNullable && (left.untyped comparator.leftNullable).isNone) ||
      comparator.rightNullable && (right.untyped comparator.rightNullable).isNone)
    (comparator.compareData functor (left.untyped comparator.leftNullable)
      (right.untyped comparator.rightNullable))

/-- Which comparison the entry point makes. -/
def AsciiStringUncheckedComparator.compareAccessor (comparator : AsciiStringUncheckedComparator)
    (functor : ComparisonFunctor) (filtered : Bool) : TypedValue → TypedValue → Exec Bool :=
  if filtered then comparator.compareTypedValues functor else comparator.compareLeftChecked functor

theorem compareSingleValueAccessor_eq :
    comparator.compareSingleValueAccessor functor build accessor leftId rightId filter =
      valueAccessorLoop build accessor filter fun tid =>
        comparator.compareAccessor functor (build.vectorPredicateShortCircuit && filter.isSome)
          (accessor.getTypedValueAtAbsolutePosition leftId tid)
          (accessor.getTypedValueAtAbsolutePosition rightId tid) := by
  have checked (left right : TypedValue) :=
    (comparator.dataPtrComparator functor).guarded_compareData left right
  unfold AsciiStringUncheckedComparator.compareSingleValueAccessor valueAccessorLoop
    AsciiStringUncheckedComparator.compareAccessor
  cases build.vectorPredicateShortCircuit with
  | false => cases filter <;> rfl
  | true =>
    cases filter with
    | none => rfl
    | some filter =>
      simp only [Option.isSome_some, Bool.and_true, if_true,
        AsciiStringUncheckedComparator.compareTypedValues, ← checked]
      rfl

theorem singleValueAccessor_judges (within : Within filter accessor.tupleIdSequence) :
    (VectorisedCall.singleValueAccessor accessor leftId rightId filter).Judges
      (comparator.vectorised functor) build
      (comparator.compareAccessor functor
        (build.vectorPredicateShortCircuit && filter.isSome)) := by
  have runs := @valueAccessorLoop_runs n (fun tid =>
    comparator.compareAccessor functor (build.vectorPredicateShortCircuit && filter.isSome)
      (accessor.getTypedValueAtAbsolutePosition leftId tid)
      (accessor.getTypedValueAtAbsolutePosition rightId tid)) build accessor filter within
  rw [← compareSingleValueAccessor_eq] at runs
  exact runs

/-- With a value on the right both comparisons are the same. -/
theorem compareLeftChecked_of_present {left right : TypedValue} (present : right.isNull = false) :
    comparator.compareLeftChecked functor left right = comparator.compareTypedValues functor left right := by
  have unchecked : (comparator.rightNullable && right.isNull) = false := by
    rw [present, Bool.and_false]
  unfold AsciiStringUncheckedComparator.compareLeftChecked
  rw [DataPtrComparator.isNone_untyped comparator.rightNullable, unchecked, Bool.or_false,
    DataPtrComparator.untyped_eq unchecked]
  exact (comparator.dataPtrComparator functor).guarded_staticRight unchecked left

/-- With NULL on the right the comparison reads through a null pointer. -/
theorem not_returns_of_null {left right : TypedValue} (nullable : comparator.rightNullable = true)
    (null : right.isNull = true) :
    ¬∃ holds, comparator.compareLeftChecked functor left right = .ok holds := by
  rintro ⟨holds, compared⟩
  unfold AsciiStringUncheckedComparator.compareLeftChecked at compared
  rw [DataPtrComparator.isNone_untyped comparator.rightNullable, nullable, null, Bool.and_true,
    Bool.or_true, guarded_true] at compared
  obtain ⟨_, _, -, rightRead⟩ := exists_deref_of_compareData compared
  have nullPointer : right.untyped true = none := by
    unfold TypedValue.untyped
    rw [null]
    rfl
  rw [nullPointer] at rightRead
  cases rightRead

/-- The calls that reach the misplaced check with a NULL on the right: those over an accessor, unless
short circuit goes through the filter. -/
def ReachesNullRight (call : VectorisedCall n) (build : Build) : Prop :=
  match call with
  | .singleValueAccessor accessor _ rightId filter =>
    (build.vectorPredicateShortCircuit && filter.isSome) = false ∧
      ∃ t ∈ accessor.positions, (accessor.getTypedValueAtAbsolutePosition rightId t).isNull = true
  | _ => False

theorem Compares.selects_of_judges (compares : Compares comparator leftType rightType)
    {call : VectorisedCall n} (wellFormed : call.WellFormed)
    (reads : call.Reads leftType.HoldsString rightType.HoldsString)
    (judges : call.Judges (comparator.vectorised functor) build
      (comparator.compareTypedValues functor)) :
    call.Selects (comparator.vectorised functor) build fun left right =>
      comparator.compareTypedValues functor left right = .ok true :=
  (comparator.dataPtrComparator functor).selects_of_returns wellFormed judges
    (fun _ _ _ compared => notNull_of_compareData compared) fun t existing =>
      compares.compareTypedValues_returns (reads t existing).1 (reads t existing).2

/-- Without a NULL on the right the loop over the accessor is right. -/
theorem Compares.singleValueAccessor_selects (compares : Compares comparator leftType rightType)
    (wellFormed : (VectorisedCall.singleValueAccessor accessor leftId rightId filter).WellFormed)
    (reads : (VectorisedCall.singleValueAccessor accessor leftId rightId filter).Reads
      leftType.HoldsString rightType.HoldsString)
    (regular : ¬ReachesNullRight (.singleValueAccessor accessor leftId rightId filter) build) :
    (VectorisedCall.singleValueAccessor accessor leftId rightId filter).Selects
      (comparator.vectorised functor) build fun left right =>
        comparator.compareTypedValues functor left right = .ok true := by
  have within : Within filter accessor.tupleIdSequence := wellFormed.1
  have runs := @singleValueAccessor_judges functor comparator n build accessor leftId rightId filter
    within
  refine compares.selects_of_judges wellFormed reads
    (runs.congr_judge (fun t => visited_of_candidate within) fun t visited => ?_)
  unfold AsciiStringUncheckedComparator.compareAccessor
  cases filtered : build.vectorPredicateShortCircuit && filter.isSome with
  | true => rfl
  | false =>
    have present : (accessor.getTypedValueAtAbsolutePosition rightId t).isNull = false := by
      rw [Bool.eq_false_iff]
      intro null
      exact regular ⟨filtered, t, mem_iterated.mpr (visited.exists_of_within within), null⟩
    exact (compareLeftChecked_of_present present).symm

/-- With a NULL on the right it is undefined. -/
theorem Compares.not_singleValueAccessor_selects (compares : Compares comparator leftType rightType)
    (wellFormed : (VectorisedCall.singleValueAccessor accessor leftId rightId filter).WellFormed)
    (reads : (VectorisedCall.singleValueAccessor accessor leftId rightId filter).Reads
      leftType.HoldsString rightType.HoldsString)
    (reaches : ReachesNullRight (.singleValueAccessor accessor leftId rightId filter) build)
    (holds : TypedValue → TypedValue → Prop) :
    ¬(VectorisedCall.singleValueAccessor accessor leftId rightId filter).Selects
      (comparator.vectorised functor) build holds := by
  have within : Within filter accessor.tupleIdSequence := wellFormed.1
  obtain ⟨unfiltered, t, position, null⟩ := reaches
  have existing : Candidate none accessor.tupleIdSequence t := mem_iterated.mp position
  have visited : Visited build filter accessor.tupleIdSequence t := by
    unfold Visited
    split
    · rename_i shortCircuit
      rw [shortCircuit, Bool.true_and, Option.isSome_eq_false_iff, Option.isNone_iff_eq_none]
        at unfiltered
      rwa [unfiltered]
    · exact existing
  have nullable : comparator.rightNullable = true := by
    rw [compares.rightNullable]
    rcases (reads t existing).2 with ⟨-, nullable⟩ | stores
    · exact nullable
    · exact absurd null (Bool.eq_false_iff.mp stores.isNull)
  intro selects
  obtain ⟨returns, -⟩ := (singleValueAccessor_judges within).selects_iff.mp selects
  have compared := returns t visited
  rw [unfiltered] at compared
  exact not_returns_of_null nullable null compared

/-- **The comparators of strings** return the candidates that compare, for every call but those over an
accessor that reach a NULL on the right without short circuit through a filter. -/
theorem stringComparators_exact_iff (functor : ComparisonFunctor) {leftType rightType : DataType}
    (leftKind : (nullTerminated? leftType).isSome = true)
    (rightKind : (nullTerminated? rightType).isSome = true) :
    ∃ comparator, BasicComparison.makeStringComparatorOuterHelper leftType rightType =
        some comparator ∧
      ∀ {n : Nat} (call : VectorisedCall n) (build : Build), call.WellFormed →
        call.Reads leftType.HoldsString rightType.HoldsString →
        (call.Selects (comparator.vectorised functor) build (fun left right =>
          comparator.compareTypedValues functor left right = .ok true) ↔
            ¬ReachesNullRight call build) := by
  obtain ⟨leftTerminated, leftKind⟩ := Option.isSome_iff_exists.mp leftKind
  obtain ⟨rightTerminated, rightKind⟩ := Option.isSome_iff_exists.mp rightKind
  obtain ⟨comparator, made, compares⟩ :=
    makeStringComparatorOuterHelper_compares leftKind rightKind
  refine ⟨comparator, made, fun call build wellFormed reads => ?_⟩
  cases call with
  | singleValueAccessor accessor leftId rightId filter =>
    constructor
    · intro selects reaches
      exact compares.not_singleValueAccessor_selects wellFormed reads reaches _ selects
    · exact compares.singleValueAccessor_selects wellFormed reads
  | columnVectors _ _ _ _ | columnVectorAndStaticValue _ _ _ _ | staticValueAndColumnVector _ _ _ _
  | valueAccessorAndStaticValue _ _ _ _ | staticValueAndValueAccessor _ _ _ _
  | columnVectorAndValueAccessor _ _ _ _ _ | valueAccessorAndColumnVector _ _ _ _ _ =>
    exact iff_of_true (compares.selects_of_judges wellFormed reads
      (judges_of_not_singleValueAccessor wellFormed fun _ _ _ _ same => nomatch same)) not_false

/-- One tuple of `"a"` and NULL. -/
def stringAndNull : ValueAccessor 1 where
  store := .tupleVector #v[[.char [97], .null .char]]
  tupleIdSequence := none

/-- The first attribute of `stringAndNull` compared with itself. -/
def stringAndItself : VectorisedCall 1 := .singleValueAccessor stringAndNull 0 0 none

theorem stringComparators_exact_iff_stringAndItself :
    ∃ comparator, BasicComparison.makeStringComparatorOuterHelper (.char 1 false) (.char 1 false) =
        some comparator ∧
      (stringAndItself.Selects (comparator.vectorised .equalTo) ⟨true, true⟩ (fun left right =>
        comparator.compareTypedValues .equalTo left right = .ok true) ↔
          ¬ReachesNullRight stringAndItself ⟨true, true⟩) := by
  have wellFormed : stringAndItself.WellFormed := ⟨nofun, trivial⟩
  have stores : (DataType.char 1 false).HoldsString (.char [97]) :=
    .inr (.char (by decide) (.inl rfl))
  have reads : stringAndItself.Reads (DataType.char 1 false).HoldsString
      (DataType.char 1 false).HoldsString := by
    intro t _
    obtain rfl := Subsingleton.elim t 0
    exact ⟨stores, stores⟩
  obtain ⟨comparator, made, exact⟩ :=
    @stringComparators_exact_iff .equalTo (.char 1 false) (.char 1 false) rfl rfl
  exact ⟨comparator, made, exact stringAndItself ⟨true, true⟩ wellFormed reads⟩

/-- The first attribute compared with the second one. -/
def stringAndNullRight : VectorisedCall 1 := .singleValueAccessor stringAndNull 0 1 none

theorem not_stringComparators_exact :
    ∃ comparator, BasicComparison.makeStringComparatorOuterHelper (.char 1 false) (.char 1 true) =
        some comparator ∧
      stringAndNullRight.WellFormed ∧
      stringAndNullRight.Reads (DataType.char 1 false).HoldsString
        (DataType.char 1 true).HoldsString ∧
      stringAndNullRight.run (comparator.vectorised .equalTo) ⟨true, true⟩ =
        .error .undefinedBehaviour ∧
      ¬stringAndNullRight.Selects (comparator.vectorised .equalTo) ⟨true, true⟩ fun left right =>
        comparator.compareTypedValues .equalTo left right = .ok true := by
  have wellFormed : stringAndNullRight.WellFormed := ⟨nofun, trivial⟩
  have reads : stringAndNullRight.Reads (DataType.char 1 false).HoldsString
      (DataType.char 1 true).HoldsString := by
    intro t _
    obtain rfl := Subsingleton.elim t 0
    exact ⟨.inr (.char (by decide) (.inl rfl)), .inl ⟨rfl, rfl⟩⟩
  have faults : stringAndNullRight.run ((⟨false, false, false, true, false, false, 1, 1⟩ :
      AsciiStringUncheckedComparator).vectorised .equalTo) ⟨true, true⟩ =
        .error .undefinedBehaviour := rfl
  refine ⟨_, rfl, wellFormed, reads, faults, ?_⟩
  rintro ⟨result, run, -⟩
  cases faults.symm.trans run

end SingleValueAccessor

end Quickstep.Types
