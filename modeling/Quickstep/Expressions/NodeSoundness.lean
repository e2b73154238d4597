import Quickstep.Expressions.ExpressionNodes
import Quickstep.Types.DefaultOperators

/-!
# Vectorised evaluation of single nodes

A scalar agrees on some tuples when its column is the list of its values for them, a predicate when its
matches are the candidates it holds for. Each class is given on which tuples a node agrees whose operands
agree on the tuples that they are evaluated on, on each of its vectorised paths and in every build. Where
the evaluation of a node has a result, so have the evaluations of its operands.
-/

namespace Quickstep.Expressions
open Quickstep.Common Quickstep.Types Quickstep.Lib TupleIdSequence

/-- A static value, and an attribute that is read in place, are the value of every tuple. -/
structure ScalarMethods.Caches (s : ScalarMethods) : Prop where
  static : ∀ value, s.staticValue = some value → ∀ read, s.valueFor read = value
  elided : ∀ id, s.attributeIdForValueAccessor = some id → ∀ {n : Nat} (accessor : ValueAccessor n)
    tuple, s.getValueForSingleTuple accessor tuple =
      accessor.getTypedValueAtAbsolutePosition id tuple

/-- A static result is what the predicate yields for every tuple. -/
def PredicateMethods.KeepsStaticResult (p : PredicateMethods) : Prop :=
  ∀ result, p.staticResult = some result → ∀ read, p.matchesFor read = result

/-- An operand is evaluated as a column unless it is static or read in place. -/
def ScalarMethods.Evaluated (operand : ScalarMethods) (build : Build) : Prop :=
  operand.staticValue = none ∧ operand.elidedAttribute build = none

/-! ## Calls of the vectorised methods -/

section Calls

variable {n : Nat}

/-- An accessor that iterates over some tuples. -/
structure Iterates (read : Fin n → AttributeReader) (tuples : List (Fin n))
    (accessor : ValueAccessor n) : Prop where
  reads : readSingleTuple accessor = read
  positions : accessor.positions = tuples

/-- Arguments that select some candidates among the tuples of an accessor. An existence map is given
exactly for an adapter, and a filter names existing tuples. -/
structure Selects (read : Fin n → AttributeReader) (tuples candidates : List (Fin n))
    (accessor : ValueAccessor n) (filter existenceMap : Option (TupleIdSequence n)) : Prop extends
    Iterates read tuples accessor where
  describes : accessor.Describes existenceMap
  within : Within filter existenceMap
  selected : (assignFromCandidates filter existenceMap).ids = candidates

/-- The column has the value of every tuple at its place. -/
def ScalarMethods.AgreesOn (s : ScalarMethods) (build : Build) (read : Fin n → AttributeReader)
    (tuples : List (Fin n)) : Prop :=
  ∀ accessor, Iterates read tuples accessor →
    s.getAllValues build accessor = .ok (tuples.map fun t => s.valueFor (read t))

/-- The matches are the candidates that the predicate holds for. -/
def PredicateMethods.AgreesOn (p : PredicateMethods) (build : Build) (read : Fin n → AttributeReader)
    (tuples candidates : List (Fin n)) : Prop :=
  ∀ accessor filter existenceMap, Selects read tuples candidates accessor filter existenceMap →
    ∃ result, p.getAllMatches build accessor filter existenceMap = .ok result ∧
      ∀ t, t ∈ result ↔ t ∈ candidates ∧ p.matchesFor (read t) = true

@[simp] theorem mem_assignFromCandidates {filter existenceMap : Option (TupleIdSequence n)}
    {t : Fin n} : t ∈ assignFromCandidates filter existenceMap ↔ Candidate filter existenceMap t := by
  unfold assignFromCandidates Candidate
  cases filter with
  | some f => exact Iff.rfl
  | none =>
    cases existenceMap with
    | some e => exact Iff.rfl
    | none => simp

/-- Without a filter the candidates are the tuples that exist. -/
theorem ids_assignFromCandidates (existenceMap : Option (TupleIdSequence n)) :
    (assignFromCandidates none existenceMap).ids = iterated existenceMap := by
  cases existenceMap with
  | some e => rfl
  | none => exact List.filter_eq_self.mpr fun t _ => mem_iff_get.mp (mem_setAll.mpr rfl)

variable {read : Fin n → AttributeReader} {tuples candidates : List (Fin n)}
  {accessor : ValueAccessor n} {filter existenceMap : Option (TupleIdSequence n)}

theorem Selects.mem (selects : Selects read tuples candidates accessor filter existenceMap)
    {t : Fin n} : t ∈ candidates ↔ Candidate filter existenceMap t := by
  rw [← selects.selected, mem_ids, mem_assignFromCandidates]

/-- Every call selects some candidates among some tuples. -/
theorem selects_self (describes : accessor.Describes existenceMap)
    (within : Within filter existenceMap) :
    Selects (readSingleTuple accessor) accessor.positions
      (assignFromCandidates filter existenceMap).ids accessor filter existenceMap :=
  ⟨⟨rfl, rfl⟩, describes, within, rfl⟩

/-- An adapter over some of the tuples. -/
theorem Iterates.adapter (iterates : Iterates read tuples accessor) {sequence : TupleIdSequence n}
    {holds : Fin n → Bool} (chooses : ∀ t, t ∈ sequence ↔ t ∈ tuples ∧ holds t = true) :
    Iterates read (tuples.filter holds)
      (accessor.createSharedTupleIdSequenceAdapter sequence) where
  reads := iterates.reads
  positions := by
    have ordered : tuples = (assignFromCandidates none accessor.tupleIdSequence).ids :=
      iterates.positions.symm.trans (ids_assignFromCandidates _).symm
    have subset : ∀ t, t ∈ sequence → t ∈ assignFromCandidates none accessor.tupleIdSequence := by
      intro t mem
      rw [← mem_ids, ← ordered]
      exact ((chooses t).mp mem).1
    rw [ValueAccessor.positions_adapter, ids_of_subset subset, ← ordered]
    refine List.filter_congr fun t mem => Bool.eq_iff_iff.mpr ?_
    exact (chooses t).trans (and_iff_right mem)

/-- A filter for some of the candidates. -/
theorem Selects.restrict (selects : Selects read tuples candidates accessor filter existenceMap)
    {sequence : TupleIdSequence n} {holds : Fin n → Bool}
    (chooses : ∀ t, t ∈ sequence ↔ t ∈ candidates ∧ holds t = true) :
    Selects read tuples (candidates.filter holds) accessor (some sequence) existenceMap where
  toIterates := selects.toIterates
  describes := selects.describes
  within := by
    intro f e isFilter isMap t mem
    cases isFilter
    have candidate := selects.mem.mp ((chooses t).mp mem).1
    have within := selects.within
    rw [isMap] at candidate within
    exact candidate.exists_of_within within
  selected := by
    have subset : ∀ t, t ∈ sequence → t ∈ assignFromCandidates filter existenceMap := by
      intro t mem
      rw [← mem_ids, selects.selected]
      exact ((chooses t).mp mem).1
    show sequence.ids = _
    rw [ids_of_subset subset, selects.selected]
    refine List.filter_congr fun t mem => Bool.eq_iff_iff.mpr ?_
    exact (chooses t).trans (and_iff_right mem)

/-- The candidates themselves may be given as the filter. -/
theorem Selects.asFilter (selects : Selects read tuples candidates accessor filter existenceMap) :
    Selects read tuples candidates accessor (some (assignFromCandidates filter existenceMap))
      existenceMap where
  toIterates := selects.toIterates
  describes := selects.describes
  within := by
    intro f e isFilter isMap t mem
    cases isFilter
    have candidate := mem_assignFromCandidates.mp mem
    have within := selects.within
    rw [isMap] at candidate within
    exact candidate.exists_of_within within
  selected := selects.selected

/-- There are an adapter, and a filter, for any of the tuples. -/
theorem Iterates.exists_adapter (iterates : Iterates read tuples accessor) (holds : Fin n → Bool) :
    ∃ adapter, Iterates read (tuples.filter holds) adapter :=
  ⟨_, iterates.adapter fun _ => mem_setEach⟩

theorem Selects.exists_restrict
    (selects : Selects read tuples candidates accessor filter existenceMap) (holds : Fin n → Bool) :
    ∃ sequence, Selects read tuples (candidates.filter holds) accessor (some sequence) existenceMap :=
  ⟨_, selects.restrict fun _ => mem_setEach⟩

theorem candidate_iff_of_describes (describes : accessor.Describes existenceMap) {t : Fin n} :
    Candidate filter accessor.tupleIdSequence t ↔ Candidate filter existenceMap t := by
  cases filter with
  | some f => exact Iff.rfl
  | none => rw [← mem_iterated, ← mem_iterated, ← describes.positions]; exact Iff.rfl

theorem within_of_describes (describes : accessor.Describes existenceMap)
    (within : Within filter existenceMap) : Within filter accessor.tupleIdSequence := by
  intro f e isFilter isSequence t mem
  have candidate : Candidate filter existenceMap t := by rwa [isFilter]
  have visited := (candidate_iff_of_describes describes).mpr (candidate.exists_of_within within)
  rwa [isSequence] at visited

/-- The tuples that a comparison computes columns for. -/
def columnTuples (build : Build) (tuples candidates : List (Fin n)) : List (Fin n) :=
  if build.vectorPredicateShortCircuit then candidates else tuples

/-- The accessor, filter and existence map for columns select the same candidates. -/
theorem selects_columnView (build : Build)
    (selects : Selects read tuples candidates accessor filter existenceMap) :
    let view := columnView build accessor filter existenceMap
    Selects read (columnTuples build tuples candidates) candidates view.1 view.2.1 view.2.2 := by
  unfold columnView columnTuples
  cases build.vectorPredicateShortCircuit with
  | false => exact selects
  | true =>
    cases filter with
    | none =>
      refine { selects with positions := ?_ }
      rw [if_pos rfl, selects.describes.positions, ← selects.selected, ids_assignFromCandidates]
    | some f =>
      exact
        { reads := selects.reads
          positions := selects.selected
          describes := fun t => Iff.rfl
          within := nofun
          selected := selects.selected }

end Calls

/-! ## Scalars -/

/-- What a node reads in place is its value. -/
theorem ScalarMethods.Caches.elidedAttribute {s : ScalarMethods} (caches : s.Caches) {build : Build}
    {id : Nat} (elided : s.elidedAttribute build = some id) {n : Nat} {read : Fin n → AttributeReader}
    {accessor : ValueAccessor n} (reads : readSingleTuple accessor = read) (t : Fin n) :
    accessor.getTypedValueAtAbsolutePosition id t = s.valueFor (read t) := by
  unfold ScalarMethods.elidedAttribute at elided
  split at elided
  · rw [← reads]
    exact (caches.elided id elided accessor t).symm
  · cases elided

theorem ScalarMethods.Caches.column {s : ScalarMethods} (caches : s.Caches) {build : Build} {id : Nat}
    (elided : s.elidedAttribute build = some id) {n : Nat} {read : Fin n → AttributeReader}
    {tuples : List (Fin n)} {accessor : ValueAccessor n} (iterates : Iterates read tuples accessor) :
    accessor.column id = tuples.map fun t => s.valueFor (read t) := by
  rw [ValueAccessor.column, iterates.positions]
  exact List.map_congr_left fun t _ => caches.elidedAttribute elided iterates.reads t

/-- A vector of one value is the column of a scalar that always has it. -/
theorem makeVectorOfValue_eq {n : Nat} {read : Fin n → AttributeReader} {tuples : List (Fin n)}
    {accessor : ValueAccessor n} (iterates : Iterates read tuples accessor) (value : TypedValue) :
    ColumnVector.makeVectorOfValue value accessor.getNumTuples = tuples.map fun _ => value := by
  rw [ColumnVector.makeVectorOfValue, List.map_const', ← ValueAccessor.length_positions,
    iterates.positions]

theorem binaryStaticValue_eq_none_iff {ops : Operations} {operation : BinaryOperation}
    {left right : ScalarMethods} :
    binaryStaticValue ops operation left right = none ↔
      left.staticValue = none ∨ right.staticValue = none := by
  unfold binaryStaticValue
  cases left.staticValue <;> cases right.staticValue <;> simp

section Scalars

variable {ops : Operations} {build : Build} {n : Nat} {read : Fin n → AttributeReader}
  {tuples : List (Fin n)}

theorem scalarLiteral_agrees (value : TypedValue) (type : DataType) :
    (scalarLiteral value type).AgreesOn build read tuples :=
  fun _ iterates => congrArg Except.ok (makeVectorOfValue_eq iterates value)

theorem scalarAttribute_agrees (attr : CatalogAttribute) :
    (scalarAttribute attr).AgreesOn build read tuples := by
  rintro accessor ⟨rfl, rfl⟩
  rfl

/-- A unary expression over an operand that agrees. -/
theorem scalarUnaryExpression_agrees {operation : UnaryOperation} {operand : ScalarMethods}
    (fast : (ops.makeUncheckedUnaryOperatorForType operation operand.type).Agrees)
    (caches : operand.Caches)
    (agrees : operand.Evaluated build → operand.AgreesOn build read tuples) :
    (scalarUnaryExpression ops operation operand).AgreesOn build read tuples := by
  intro accessor iterates
  unfold scalarUnaryExpression
  cases static : operand.staticValue with
  | some value => exact congrArg Except.ok (makeVectorOfValue_eq iterates _)
  | none =>
    cases elided : operand.elidedAttribute build with
    | some id =>
      simp only [elided, fast.valueAccessor, caches.column elided iterates, List.map_map]
      rfl
    | none =>
      simp only [elided, agrees ⟨static, elided⟩ accessor iterates, Exec.ok_bind, fast.columnVector,
        List.map_map]
      rfl

theorem scalarUnaryExpression_returns {operation : UnaryOperation} {operand : ScalarMethods}
    {accessor : ValueAccessor n}
    (returns : ((scalarUnaryExpression ops operation operand).getAllValues build accessor).Returns)
    (evaluated : operand.Evaluated build) : (operand.getAllValues build accessor).Returns := by
  unfold scalarUnaryExpression at returns
  simp only [evaluated.1, evaluated.2] at returns
  obtain ⟨column, ran, _⟩ := returns.of_bind
  exact ⟨column, ran⟩

/-- The paths of a binary expression yield one column, that of the function they loop over. -/
theorem binaryGetAllValues_eq {fastOperator : UncheckedBinaryOperator}
    {f : TypedValue → TypedValue → TypedValue} (loops : fastOperator.LoopsOver f)
    {left right : ScalarMethods} (leftCaches : left.Caches) (rightCaches : right.Caches)
    (dynamic : left.staticValue = none ∨ right.staticValue = none)
    (leftAgrees : left.Evaluated build → left.AgreesOn build read tuples)
    (rightAgrees : right.Evaluated build → right.AgreesOn build read tuples)
    {accessor : ValueAccessor n} (iterates : Iterates read tuples accessor) :
    binaryGetAllValues fastOperator left right build accessor =
      .ok (tuples.map fun t => f (left.valueFor (read t)) (right.valueFor (read t))) := by
  have length (g : Fin n → TypedValue) : (tuples.map g).length = accessor.getNumTuples := by
    rw [List.length_map, ← ValueAccessor.length_positions, iterates.positions]
  have leftColumn {id} (elided : left.elidedAttribute build = some id) :=
    leftCaches.column elided iterates
  have rightColumn {id} (elided : right.elidedAttribute build = some id) :=
    rightCaches.column elided iterates
  unfold binaryGetAllValues
  cases staticLeft : left.staticValue with
  | some leftValue =>
    have leftValues (t) : left.valueFor (read t) = leftValue :=
      leftCaches.static leftValue staticLeft _
    have staticRight := dynamic.resolve_left (by simp [staticLeft])
    cases elidedRight : right.elidedAttribute build with
    | some rightId =>
      have looped := loops.staticValueAndValueAccessor leftValue accessor rightId
      simp only [looped, rightColumn elidedRight, List.map_map, leftValues]
      rfl
    | none =>
      have looped := loops.staticValueAndColumnVector leftValue
      simp only [rightAgrees ⟨staticRight, elidedRight⟩ accessor iterates, Exec.ok_bind, looped,
        List.map_map, leftValues]
      rfl
  | none =>
    cases staticRight : right.staticValue with
    | some rightValue =>
      have rightValues (t) : right.valueFor (read t) = rightValue :=
        rightCaches.static rightValue staticRight _
      cases elidedLeft : left.elidedAttribute build with
      | some leftId =>
        have looped := loops.valueAccessorAndStaticValue accessor leftId rightValue
        simp only [looped, leftColumn elidedLeft, List.map_map, rightValues]
        rfl
      | none =>
        have looped (column) := loops.columnVectorAndStaticValue column rightValue
        simp only [leftAgrees ⟨staticLeft, elidedLeft⟩ accessor iterates, Exec.ok_bind, looped,
          List.map_map, rightValues]
        rfl
    | none =>
      cases elidedLeft : left.elidedAttribute build with
      | some leftId =>
        cases elidedRight : right.elidedAttribute build with
        | some rightId =>
          have looped := loops.singleValueAccessor accessor leftId rightId
          simp only [looped, leftColumn elidedLeft, rightColumn elidedRight, List.zipWith_map,
            List.zipWith_self]
        | none =>
          have looped (g) := loops.valueAccessorAndColumnVector accessor leftId _ (length g)
          simp only [rightAgrees ⟨staticRight, elidedRight⟩ accessor iterates, Exec.ok_bind, looped,
            leftColumn elidedLeft, List.zipWith_map, List.zipWith_self]
          rfl
      | none =>
        have leftValues := leftAgrees ⟨staticLeft, elidedLeft⟩ accessor iterates
        cases elidedRight : right.elidedAttribute build with
        | some rightId =>
          have looped (g) := loops.columnVectorAndValueAccessor _ accessor rightId (length g)
          simp only [leftValues, Exec.ok_bind, looped, rightColumn elidedRight, List.zipWith_map,
            List.zipWith_self]
          rfl
        | none =>
          have looped (g h) := loops.columnVectors _ _ ((length g).trans (length h).symm)
          simp only [leftValues, rightAgrees ⟨staticRight, elidedRight⟩ accessor iterates,
            Exec.ok_bind, looped, List.zipWith_map, List.zipWith_self]
          rfl

/-- A binary expression over operands that agree, by an operator that loops over a function. -/
theorem scalarBinaryExpression_agrees_iff {operation : BinaryOperation} {left right : ScalarMethods}
    {f : TypedValue → TypedValue → TypedValue}
    (loops : (ops.makeUncheckedBinaryOperatorForTypes operation left.type right.type).LoopsOver f)
    (leftCaches : left.Caches) (rightCaches : right.Caches)
    (leftAgrees : left.Evaluated build → left.AgreesOn build read tuples)
    (rightAgrees : right.Evaluated build → right.AgreesOn build read tuples)
    (realised : ∃ accessor, Iterates read tuples accessor) :
    (scalarBinaryExpression ops operation left right).AgreesOn build read tuples ↔
      (left.staticValue = none ∨ right.staticValue = none → ∀ t ∈ tuples,
        f (left.valueFor (read t)) (right.valueFor (read t)) =
          (ops.makeUncheckedBinaryOperatorForTypes operation left.type
            right.type).applyToTypedValues (left.valueFor (read t)) (right.valueFor (read t))) := by
  unfold ScalarMethods.AgreesOn scalarBinaryExpression
  cases static : binaryStaticValue ops operation left right with
  | some value =>
    have notDynamic : ¬ (left.staticValue = none ∨ right.staticValue = none) := by
      rw [← @binaryStaticValue_eq_none_iff ops operation, static]
      exact Option.some_ne_none value
    exact iff_of_true (fun _ iterates => congrArg Except.ok (makeVectorOfValue_eq iterates value))
      (fun dynamic => absurd dynamic notDynamic)
  | none =>
    have dynamic := binaryStaticValue_eq_none_iff.mp static
    have column {accessor : ValueAccessor n} (iterates : Iterates read tuples accessor) :=
      binaryGetAllValues_eq loops leftCaches rightCaches dynamic leftAgrees rightAgrees iterates
    rw [forall_prop_of_true dynamic]
    constructor
    · intro agrees
      obtain ⟨accessor, iterates⟩ := realised
      have same := (column iterates).symm.trans (agrees accessor iterates)
      exact List.map_inj_left.mp (Except.ok.inj same)
    · intro exact accessor iterates
      exact (column iterates).trans (congrArg Except.ok (List.map_inj_left.mpr exact))

end Scalars

/-- Where a binary expression has a result, so have the operands it evaluates. -/
theorem binaryGetAllValues_returns {fastOperator : UncheckedBinaryOperator}
    {left right : ScalarMethods} {build : Build} {n : Nat} {accessor : ValueAccessor n}
    (returns : (binaryGetAllValues fastOperator left right build accessor).Returns) :
    (left.Evaluated build → (left.getAllValues build accessor).Returns) ∧
    (right.Evaluated build → (right.getAllValues build accessor).Returns) := by
  unfold binaryGetAllValues at returns
  constructor
  · rintro ⟨static, elided⟩
    simp only [static, elided] at returns
    cases staticRight : right.staticValue with
    | some rightValue =>
      simp only [staticRight] at returns
      obtain ⟨column, ran, _⟩ := returns.of_bind
      exact ⟨column, ran⟩
    | none =>
      cases elidedRight : right.elidedAttribute build <;>
        simp only [staticRight, elidedRight] at returns
      all_goals
        obtain ⟨column, ran, _⟩ := returns.of_bind
        exact ⟨column, ran⟩
  · rintro ⟨static, elided⟩
    cases staticLeft : left.staticValue with
    | some leftValue =>
      simp only [staticLeft, elided] at returns
      obtain ⟨column, ran, _⟩ := returns.of_bind
      exact ⟨column, ran⟩
    | none =>
      cases elidedLeft : left.elidedAttribute build with
      | some leftId =>
        simp only [staticLeft, static, elided, elidedLeft] at returns
        obtain ⟨column, ran, _⟩ := returns.of_bind
        exact ⟨column, ran⟩
      | none =>
        simp only [staticLeft, static, elided, elidedLeft] at returns
        obtain ⟨_, _, later⟩ := returns.of_bind
        obtain ⟨column, ran, _⟩ := later.of_bind
        exact ⟨column, ran⟩

theorem scalarBinaryExpression_returns {ops : Operations} {operation : BinaryOperation}
    {left right : ScalarMethods} {build : Build} {n : Nat} {accessor : ValueAccessor n}
    (dynamic : left.staticValue = none ∨ right.staticValue = none)
    (returns : ((scalarBinaryExpression ops operation left right).getAllValues build
      accessor).Returns) :
    (binaryGetAllValues (ops.makeUncheckedBinaryOperatorForTypes operation left.type right.type) left
      right build accessor).Returns := by
  unfold scalarBinaryExpression at returns
  simpa only [binaryStaticValue_eq_none_iff.mpr dynamic] using returns

/-! ## Predicates -/

@[simp] theorem mem_generateSequenceForStaticResult {n : Nat}
    {filter existenceMap : Option (TupleIdSequence n)} {t : Fin n} {result : Bool} :
    t ∈ generateSequenceForStaticResult filter existenceMap result ↔
      Candidate filter existenceMap t ∧ result = true := by
  unfold generateSequenceForStaticResult
  cases result with
  | true => simp
  | false => simp

theorem mem_intersectWithOptional {n : Nat} {s : TupleIdSequence n}
    {other : Option (TupleIdSequence n)} {t : Fin n} :
    t ∈ intersectWithOptional s other ↔ t ∈ s ∧ ∀ o, other = some o → t ∈ o := by
  unfold intersectWithOptional
  cases other with
  | none => simp
  | some o => simp

section Predicates

variable {build : Build} {n : Nat} {read : Fin n → AttributeReader}
  {tuples candidates : List (Fin n)} {accessor : ValueAccessor n}
  {filter existenceMap : Option (TupleIdSequence n)}

/-- A static result is generated for the candidates alone. -/
theorem static_allMatches (selects : Selects read tuples candidates accessor filter existenceMap)
    {holds : Fin n → Bool} {result : Bool} (same : ∀ t, holds t = result) :
    ∃ sequence, Except.ok (generateSequenceForStaticResult filter existenceMap result) =
        (Except.ok sequence : Exec (TupleIdSequence n)) ∧
      ∀ t, t ∈ sequence ↔ t ∈ candidates ∧ holds t = true := by
  refine ⟨_, rfl, fun t => ?_⟩
  rw [mem_generateSequenceForStaticResult, selects.mem, same]

theorem trivialPredicate_agrees (result : Bool) :
    (trivialPredicate result).AgreesOn build read tuples candidates :=
  fun _ _ _ selects => static_allMatches selects fun _ => rfl

/-! A comparison is exact if its comparator is, given the columns of its operands. -/

/-- The operand, with the column of its single values. -/
def ScalarMethods.idealised (s : ScalarMethods) : ScalarMethods :=
  { s with
    getAllValues := fun _ _ accessor =>
      .ok (accessor.positions.map (s.getValueForSingleTuple accessor)) }

/-- Given the columns of the operands, the comparator selects the candidates for which their single
values compare. -/
def ComparesOn (fastComparator : UncheckedComparator) (left right : ScalarMethods) (build : Build)
    (read : Fin n → AttributeReader) (tuples candidates : List (Fin n)) : Prop :=
  ∀ accessor filter existenceMap, Selects read tuples candidates accessor filter existenceMap →
    ∃ result, comparisonGetAllMatches fastComparator left.idealised right.idealised build accessor
        filter existenceMap = .ok result ∧
      ∀ t, t ∈ result ↔ t ∈ candidates ∧
        fastComparator.compareTypedValues (left.valueFor (read t)) (right.valueFor (read t)) = true

theorem ScalarMethods.AgreesOn.idealised {s : ScalarMethods} (agrees : s.AgreesOn build read tuples)
    (iterates : Iterates read tuples accessor) :
    s.getAllValues build accessor = s.idealised.getAllValues build accessor := by
  obtain ⟨rfl, rfl⟩ := iterates
  exact agrees accessor ⟨rfl, rfl⟩

/-- Operands that agree may be taken for their idealised ones. -/
theorem comparisonGetAllMatches_idealised {fastComparator : UncheckedComparator}
    {left right : ScalarMethods}
    (dynamic : left.staticValue = none ∨ right.staticValue = none)
    (leftAgrees : left.Evaluated build →
      left.AgreesOn build read (columnTuples build tuples candidates))
    (rightAgrees : right.Evaluated build →
      right.AgreesOn build read (columnTuples build tuples candidates))
    (selects : Selects read tuples candidates accessor filter existenceMap) :
    comparisonGetAllMatches fastComparator left right build accessor filter existenceMap =
      comparisonGetAllMatches fastComparator left.idealised right.idealised build accessor filter
        existenceMap := by
  have view := (selects_columnView build selects).toIterates
  have leftColumn (evaluated : left.Evaluated build) := (leftAgrees evaluated).idealised view
  have rightColumn (evaluated : right.Evaluated build) := (rightAgrees evaluated).idealised view
  have elided (s : ScalarMethods) : s.idealised.elidedAttribute build = s.elidedAttribute build := rfl
  have static (s : ScalarMethods) : s.idealised.staticValue = s.staticValue := rfl
  unfold comparisonGetAllMatches
  simp only [elided, static]
  cases staticLeft : left.staticValue with
  | some leftValue =>
    have staticRight := dynamic.resolve_left (by simp [staticLeft])
    cases elidedRight : right.elidedAttribute build with
    | some rightId => rfl
    | none => simp only [rightColumn ⟨staticRight, elidedRight⟩]
  | none =>
    cases staticRight : right.staticValue with
    | some rightValue =>
      cases elidedLeft : left.elidedAttribute build with
      | some leftId => rfl
      | none => simp only [leftColumn ⟨staticLeft, elidedLeft⟩]
    | none =>
      cases elidedLeft : left.elidedAttribute build with
      | some leftId =>
        cases elidedRight : right.elidedAttribute build with
        | some rightId => rfl
        | none => simp only [rightColumn ⟨staticRight, elidedRight⟩]
      | none =>
        cases elidedRight : right.elidedAttribute build with
        | some rightId => simp only [leftColumn ⟨staticLeft, elidedLeft⟩]
        | none =>
          simp only [leftColumn ⟨staticLeft, elidedLeft⟩, rightColumn ⟨staticRight, elidedRight⟩]

theorem comparisonStaticResult_eq_none_iff {ops : Operations} {comparison : ComparisonID}
    {left right : ScalarMethods} :
    comparisonStaticResult ops comparison left right = none ↔
      left.staticValue = none ∨ right.staticValue = none := by
  unfold comparisonStaticResult
  cases left.staticValue <;> cases right.staticValue <;> simp

/-- A comparison over operands that agree. -/
theorem comparisonPredicate_agrees_iff {ops : Operations} {comparison : ComparisonID}
    {left right : ScalarMethods}
    (leftAgrees : left.Evaluated build →
      left.AgreesOn build read (columnTuples build tuples candidates))
    (rightAgrees : right.Evaluated build →
      right.AgreesOn build read (columnTuples build tuples candidates)) :
    (comparisonPredicate ops comparison left right).AgreesOn build read tuples candidates ↔
      (left.staticValue = none ∨ right.staticValue = none →
        ComparesOn (ops.makeUncheckedComparatorForTypes comparison left.type right.type) left right
          build read tuples candidates) := by
  unfold PredicateMethods.AgreesOn comparisonPredicate
  cases static : comparisonStaticResult ops comparison left right with
  | some result =>
    have notDynamic : ¬ (left.staticValue = none ∨ right.staticValue = none) := by
      rw [← @comparisonStaticResult_eq_none_iff ops comparison, static]
      exact Option.some_ne_none result
    exact iff_of_true (fun _ _ _ selects => static_allMatches selects fun _ => rfl)
      (fun dynamic => absurd dynamic notDynamic)
  | none =>
    have dynamic := comparisonStaticResult_eq_none_iff.mp static
    rw [forall_prop_of_true dynamic]
    refine forall_congr' fun accessor => forall_congr' fun filter => forall_congr' fun existenceMap =>
      forall_congr' fun selects => ?_
    simp only [comparisonGetAllMatches_idealised dynamic leftAgrees rightAgrees selects]

/-- Where a comparison has a result, so have the operands it evaluates. -/
theorem comparisonPredicate_returns {ops : Operations} {comparison : ComparisonID}
    {left right : ScalarMethods}
    (returns : ((comparisonPredicate ops comparison left right).getAllMatches build accessor filter
      existenceMap).Returns) :
    let columnAccessor := (columnView build accessor filter existenceMap).1
    (left.Evaluated build → (left.getAllValues build columnAccessor).Returns) ∧
    (right.Evaluated build → (right.getAllValues build columnAccessor).Returns) := by
  have ran (dynamic : left.staticValue = none ∨ right.staticValue = none) :
      (comparisonGetAllMatches (ops.makeUncheckedComparatorForTypes comparison left.type right.type)
        left right build accessor filter existenceMap).Returns := by
    have static := (@comparisonStaticResult_eq_none_iff ops comparison _ _).mpr dynamic
    unfold comparisonPredicate at returns
    simpa only [static] using returns
  unfold comparisonGetAllMatches at ran
  constructor
  · rintro ⟨static, elided⟩
    have returns := ran (.inl static)
    simp only [static, elided] at returns
    cases staticRight : right.staticValue with
    | some rightValue =>
      simp only [staticRight] at returns
      obtain ⟨column, ran, _⟩ := returns.of_bind
      exact ⟨column, ran⟩
    | none =>
      cases elidedRight : right.elidedAttribute build <;>
        simp only [staticRight, elidedRight] at returns
      all_goals
        obtain ⟨column, ran, _⟩ := returns.of_bind
        exact ⟨column, ran⟩
  · rintro ⟨static, elided⟩
    have returns := ran (.inr static)
    cases staticLeft : left.staticValue with
    | some leftValue =>
      simp only [staticLeft, elided] at returns
      obtain ⟨column, ran, _⟩ := returns.of_bind
      exact ⟨column, ran⟩
    | none =>
      cases elidedLeft : left.elidedAttribute build with
      | some leftId =>
        simp only [staticLeft, static, elided, elidedLeft] at returns
        obtain ⟨column, ran, _⟩ := returns.of_bind
        exact ⟨column, ran⟩
      | none =>
        simp only [staticLeft, static, elided, elidedLeft] at returns
        obtain ⟨_, _, later⟩ := returns.of_bind
        obtain ⟨column, ran, _⟩ := later.of_bind
        exact ⟨column, ran⟩

/-- A comparator whose vectorised entry points agree with the one for single values is exact. -/
theorem comparesOn_of_agrees {fastComparator : UncheckedComparator} (fast : fastComparator.Agrees)
    {left right : ScalarMethods} (leftCaches : left.Caches) (rightCaches : right.Caches) :
    ComparesOn fastComparator left right build read tuples candidates := by
  intro accessor filter existenceMap selects
  have inPlace := within_of_describes selects.describes selects.within
  have here (t) : Candidate filter accessor.tupleIdSequence t ↔ t ∈ candidates :=
    (candidate_iff_of_describes selects.describes).trans selects.mem.symm
  have view := selects_columnView build selects
  unfold comparisonGetAllMatches
  generalize columnView build accessor filter existenceMap = columns at view
  obtain ⟨columnAccessor, columnFilter, columnExistence⟩ := columns
  simp only at view
  have chosen (t) : Candidate columnFilter columnExistence t ↔ t ∈ candidates := view.mem.symm
  have column (s : ScalarMethods) : s.idealised.getAllValues build columnAccessor =
      .ok ((iterated columnExistence).map fun t => s.valueFor (read t)) := by
    rw [← view.describes.positions, ← view.reads]
    rfl
  have leftInPlace {id} (elided : left.idealised.elidedAttribute build = some id) :=
    leftCaches.elidedAttribute elided selects.reads
  have rightInPlace {id} (elided : right.idealised.elidedAttribute build = some id) :=
    rightCaches.elidedAttribute elided selects.reads
  cases staticLeft : left.idealised.staticValue with
  | some leftValue =>
    have leftValues (t) : left.valueFor (read t) = leftValue :=
      leftCaches.static leftValue staticLeft _
    cases elidedRight : right.idealised.elidedAttribute build with
    | some rightId =>
      refine ⟨_, rfl, fun t => ?_⟩
      rw [fast.staticValueAndValueAccessor _ _ _ _ _ _ inPlace, here, rightInPlace elidedRight,
        leftValues]
    | none =>
      simp only [column, Exec.ok_bind]
      refine ⟨_, rfl, fun t => ?_⟩
      rw [fast.staticValueAndColumnVector _ _ _ _ _ _ view.within, chosen, leftValues]
  | none =>
    cases staticRight : right.idealised.staticValue with
    | some rightValue =>
      have rightValues (t) : right.valueFor (read t) = rightValue :=
        rightCaches.static rightValue staticRight _
      cases elidedLeft : left.idealised.elidedAttribute build with
      | some leftId =>
        refine ⟨_, rfl, fun t => ?_⟩
        rw [fast.valueAccessorAndStaticValue _ _ _ _ _ _ inPlace, here, leftInPlace elidedLeft,
          rightValues]
      | none =>
        simp only [column, Exec.ok_bind]
        refine ⟨_, rfl, fun t => ?_⟩
        rw [fast.columnVectorAndStaticValue _ _ _ _ _ _ view.within, chosen, rightValues]
    | none =>
      cases elidedLeft : left.idealised.elidedAttribute build with
      | some leftId =>
        cases elidedRight : right.idealised.elidedAttribute build with
        | some rightId =>
          refine ⟨_, rfl, fun t => ?_⟩
          rw [fast.singleValueAccessor _ _ _ _ _ _ inPlace, here, leftInPlace elidedLeft,
            rightInPlace elidedRight]
        | none =>
          simp only [column, Exec.ok_bind]
          refine ⟨_, rfl, fun t => ?_⟩
          rw [fast.valueAccessorAndColumnVector _ _ _ _ _ _ _ view.describes view.within, chosen,
            leftCaches.elidedAttribute elidedLeft view.reads]
      | none =>
        cases elidedRight : right.idealised.elidedAttribute build with
        | some rightId =>
          simp only [column, Exec.ok_bind]
          refine ⟨_, rfl, fun t => ?_⟩
          rw [fast.columnVectorAndValueAccessor _ _ _ _ _ _ _ view.describes view.within, chosen,
            rightCaches.elidedAttribute elidedRight view.reads]
        | none =>
          simp only [column, Exec.ok_bind]
          refine ⟨_, rfl, fun t => ?_⟩
          rw [fast.columnVectors _ _ _ _ _ _ view.within, chosen]

/-- A negation over an operand that agrees. -/
theorem negationPredicate_agrees {operand : PredicateMethods}
    (agrees : operand.staticResult = none → operand.AgreesOn build read tuples candidates) :
    (negationPredicate operand).AgreesOn build read tuples candidates := by
  intro accessor filter existenceMap selects
  unfold negationPredicate
  cases static : operand.staticResult with
  | some result => exact static_allMatches selects fun _ => rfl
  | none =>
    obtain ⟨operandMatches, ran, exact⟩ := agrees static accessor filter existenceMap selects
    simp only [ran, Exec.ok_bind]
    refine ⟨_, rfl, fun t => ?_⟩
    -- Both sequences together select the candidates, as the filter lies within the existence map.
    have selected : t ∈ candidates ↔
        (∀ f, filter = some f → t ∈ f) ∧ ∀ e, existenceMap = some e → t ∈ e := by
      have within := selects.within
      rw [selects.mem]
      cases filter with
      | none => cases existenceMap <;> simp [Candidate]
      | some f =>
        cases existenceMap with
        | none => simp
        | some e => simpa using within f e rfl rfl t
    rw [mem_intersectWithOptional, mem_intersectWithOptional, mem_invert, exact, selected,
      Bool.not_eq_true']
    constructor
    · rintro ⟨⟨unmatched, inFilter⟩, inExistence⟩
      refine ⟨⟨inFilter, inExistence⟩, ?_⟩
      exact Bool.eq_false_iff.mpr fun holds => unmatched ⟨⟨inFilter, inExistence⟩, holds⟩
    · rintro ⟨⟨inFilter, inExistence⟩, fails⟩
      refine ⟨⟨?_, inFilter⟩, inExistence⟩
      rintro ⟨_, holds⟩
      exact Bool.false_ne_true (fails.symm.trans holds)

theorem negationPredicate_returns {operand : PredicateMethods} (dynamic : operand.staticResult = none)
    (returns : ((negationPredicate operand).getAllMatches build accessor filter
      existenceMap).Returns) : (operand.getAllMatches build accessor filter existenceMap).Returns := by
  unfold negationPredicate at returns
  simp only [dynamic] at returns
  obtain ⟨operandMatches, ran, _⟩ := returns.of_bind
  exact ⟨operandMatches, ran⟩

end Predicates

end Quickstep.Expressions
