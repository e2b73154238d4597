import Quickstep.Lib.WhileLoop
import Quickstep.Types.Operations

/-!
# The classes of scalars and predicates

Each class of `expressions/scalar/` and `expressions/predicate/` as a function from the methods of
its operands to its own methods. What a constructor caches is computed from the operands. A vectorised
method has no result where the code runs into undefined behaviour.
-/

namespace Quickstep.Expressions
open Quickstep.Common Quickstep.Types Quickstep.Lib

structure CatalogAttribute where
  relationId : Nat
  id : Nat
  type : DataType
  deriving DecidableEq

/-- `getValueForSingleTuple` and `getValueForJoinedTuples`, and likewise the two
`matchesForSingleTuple` and `matchesForJoinedTuples`, differ only in how they read an attribute. -/
abbrev AttributeReader := CatalogAttribute → TypedValue

def readSingleTuple {n : Nat} (accessor : ValueAccessor n) (tuple : Fin n) : AttributeReader :=
  fun attr => accessor.getTypedValueAtAbsolutePosition attr.id tuple

/-- The relation of the attribute decides which of the two tuples is read. -/
def readJoinedTuples {n m : Nat} (leftAccessor : ValueAccessor n) (leftRelationId : Nat)
    (leftTupleId : Fin n) (rightAccessor : ValueAccessor m) (rightTupleId : Fin m) :
    AttributeReader := fun attr =>
  if attr.relationId = leftRelationId then
    leftAccessor.getTypedValueAtAbsolutePosition attr.id leftTupleId
  else rightAccessor.getTypedValueAtAbsolutePosition attr.id rightTupleId

/-- The methods of a `Scalar`. The attribute id is `none` where the source returns -1. The columns of
`getAllValues` are laid out by the type they are made with. -/
structure ScalarMethods where
  type : DataType
  columnType : DataType
  staticValue : Option TypedValue
  attributeIdForValueAccessor : Option Nat
  valueFor : AttributeReader → TypedValue
  getAllValues : Build → {n : Nat} → ValueAccessor n → Exec ColumnVector

/-- The methods of a `Predicate`. -/
structure PredicateMethods where
  staticResult : Option Bool
  matchesFor : AttributeReader → Bool
  getAllMatches : Build → {n : Nat} → ValueAccessor n → Option (TupleIdSequence n) →
    Option (TupleIdSequence n) → Exec (TupleIdSequence n)

namespace ScalarMethods

def getValueForSingleTuple (s : ScalarMethods) {n : Nat} (accessor : ValueAccessor n)
    (tuple : Fin n) : TypedValue :=
  s.valueFor (readSingleTuple accessor tuple)

def getValueForJoinedTuples (s : ScalarMethods) {n m : Nat} (leftAccessor : ValueAccessor n)
    (leftRelationId : Nat) (leftTupleId : Fin n) (rightAccessor : ValueAccessor m)
    (rightTupleId : Fin m) : TypedValue :=
  s.valueFor (readJoinedTuples leftAccessor leftRelationId leftTupleId rightAccessor rightTupleId)

/-- The attribute a node may read straight from the accessor under copy elision. -/
def elidedAttribute (s : ScalarMethods) (build : Build) : Option Nat :=
  if build.vectorCopyElisionSelection then s.attributeIdForValueAccessor else none

end ScalarMethods

namespace PredicateMethods

def matchesForSingleTuple (p : PredicateMethods) {n : Nat} (accessor : ValueAccessor n)
    (tuple : Fin n) : Bool :=
  p.matchesFor (readSingleTuple accessor tuple)

def matchesForJoinedTuples (p : PredicateMethods) {n m : Nat} (leftAccessor : ValueAccessor n)
    (leftRelationId : Nat) (leftTupleId : Fin n) (rightAccessor : ValueAccessor m)
    (rightTupleId : Fin m) : Bool :=
  p.matchesFor (readJoinedTuples leftAccessor leftRelationId leftTupleId rightAccessor rightTupleId)

end PredicateMethods

/-! ## Scalars -/

def scalarLiteral (value : TypedValue) (type : DataType) : ScalarMethods where
  type := type
  columnType := type
  staticValue := some value
  attributeIdForValueAccessor := none
  valueFor _ := value
  getAllValues _ _ accessor := .ok (.makeVectorOfValue value accessor.getNumTuples)

def scalarAttribute (attr : CatalogAttribute) : ScalarMethods where
  type := attr.type
  columnType := attr.type
  staticValue := none
  attributeIdForValueAccessor := some attr.id
  valueFor read := read attr
  getAllValues _ _ accessor := .ok (accessor.column attr.id)

section Operations

variable (ops : Operations)

/-- The constructor throws where the operation does not apply to the type of the operand. -/
def scalarUnaryExpression (operation : UnaryOperation) (operand : ScalarMethods) :
    ScalarMethods where
  type := (ops.resultTypeForArgumentType operation operand.type).getD .nullType
  columnType := (ops.resultTypeForArgumentType operation operand.type).getD .nullType
  staticValue := operand.staticValue.map fun value =>
    ops.applyToCheckedUnary operation value operand.type
  attributeIdForValueAccessor := none
  valueFor read :=
    match operand.staticValue with
    | some value => ops.applyToCheckedUnary operation value operand.type
    | none =>
      let fastOperator := ops.makeUncheckedUnaryOperatorForType operation operand.type
      fastOperator.applyToTypedValue (operand.valueFor read)
  getAllValues build _ accessor :=
    match operand.staticValue with
    | some value =>
      .ok (.makeVectorOfValue (ops.applyToCheckedUnary operation value operand.type)
        accessor.getNumTuples)
    | none =>
      let fastOperator := ops.makeUncheckedUnaryOperatorForType operation operand.type
      match operand.elidedAttribute build with
      | some attributeId => .ok (fastOperator.applyToValueAccessor accessor attributeId)
      | none => do
        let operandResult ← operand.getAllValues build accessor
        pure (fastOperator.applyToColumnVector operandResult)

/-- The value of a binary expression over two static operands. -/
def binaryStaticValue (operation : BinaryOperation) (left right : ScalarMethods) :
    Option TypedValue :=
  match left.staticValue, right.staticValue with
  | some leftValue, some rightValue =>
    some (ops.applyToCheckedBinary operation leftValue left.type rightValue right.type)
  | some _, none | none, some _ | none, none => none

/-- The vectorised paths of a binary expression: a static operand on one side, attributes read in
place, or two columns. -/
def binaryGetAllValues (fastOperator : UncheckedBinaryOperator) (left right : ScalarMethods)
    (build : Build) {n : Nat} (accessor : ValueAccessor n) : Exec ColumnVector :=
  match left.staticValue, right.staticValue with
  | some leftValue, _ =>
    match right.elidedAttribute build with
    | some rightId =>
      .ok (fastOperator.applyToStaticValueAndValueAccessor leftValue accessor rightId)
    | none => do
      let rightResult ← right.getAllValues build accessor
      pure (fastOperator.applyToStaticValueAndColumnVector leftValue rightResult)
  | none, some rightValue =>
    match left.elidedAttribute build with
    | some leftId =>
      .ok (fastOperator.applyToValueAccessorAndStaticValue accessor leftId rightValue)
    | none => do
      let leftResult ← left.getAllValues build accessor
      pure (fastOperator.applyToColumnVectorAndStaticValue leftResult rightValue)
  | none, none =>
    match left.elidedAttribute build, right.elidedAttribute build with
    | some leftId, some rightId =>
      .ok (fastOperator.applyToSingleValueAccessor accessor leftId rightId)
    | some leftId, none => do
      let rightResult ← right.getAllValues build accessor
      pure (fastOperator.applyToValueAccessorAndColumnVector accessor leftId rightResult)
    | none, some rightId => do
      let leftResult ← left.getAllValues build accessor
      pure (fastOperator.applyToColumnVectorAndValueAccessor leftResult accessor rightId)
    | none, none => do
      let leftResult ← left.getAllValues build accessor
      let rightResult ← right.getAllValues build accessor
      pure (fastOperator.applyToColumnVectors leftResult rightResult)

def scalarBinaryExpression (operation : BinaryOperation) (left right : ScalarMethods) :
    ScalarMethods where
  type := (ops.resultTypeForArgumentTypes operation left.type right.type).getD .nullType
  columnType := (ops.resultTypeForArgumentTypes operation left.type right.type).getD .nullType
  staticValue := binaryStaticValue ops operation left right
  attributeIdForValueAccessor := none
  valueFor read :=
    match binaryStaticValue ops operation left right with
    | some value => value
    | none =>
      let fastOperator := ops.makeUncheckedBinaryOperatorForTypes operation left.type right.type
      fastOperator.applyToTypedValues (left.valueFor read) (right.valueFor read)
  getAllValues build _ accessor :=
    match binaryStaticValue ops operation left right with
    | some value => .ok (.makeVectorOfValue value accessor.getNumTuples)
    | none =>
      let fastOperator := ops.makeUncheckedBinaryOperatorForTypes operation left.type right.type
      binaryGetAllValues fastOperator left right build accessor

end Operations

/-! ## Predicates -/

/-- A sequence assigned from the filter, else from the existence map, else with every slot set. -/
def assignFromCandidates {n : Nat} (filter existenceMap : Option (TupleIdSequence n)) :
    TupleIdSequence n :=
  match filter, existenceMap with
  | some filter, _ => filter
  | none, some existenceMap => existenceMap
  | none, none => (TupleIdSequence.create n).setAll true

/-- `GenerateSequenceForStaticResult`. -/
def generateSequenceForStaticResult {n : Nat} (filter existenceMap : Option (TupleIdSequence n))
    (staticResult : Bool) : TupleIdSequence n :=
  if staticResult then assignFromCandidates filter existenceMap else .create n

/-- `TruePredicate` and `FalsePredicate`. -/
def trivialPredicate (result : Bool) : PredicateMethods where
  staticResult := some result
  matchesFor _ := result
  getAllMatches _ _ _ filter existenceMap :=
    .ok (generateSequenceForStaticResult filter existenceMap result)

/-- The result of a comparison of two static operands. -/
def comparisonStaticResult (ops : Operations) (comparison : ComparisonID)
    (left right : ScalarMethods) : Option Bool :=
  match left.staticValue, right.staticValue with
  | some leftValue, some rightValue =>
    some (ops.compareTypedValuesChecked comparison leftValue left.type rightValue right.type)
  | some _, none | none, some _ | none, none => none

/-- The accessor a comparison computes columns over, with the filter and the existence map that go
with them. Under short circuit that is an adapter over the filter, which then is the existence map. -/
def columnView (build : Build) {n : Nat} (accessor : ValueAccessor n)
    (filter existenceMap : Option (TupleIdSequence n)) :
    ValueAccessor n × Option (TupleIdSequence n) × Option (TupleIdSequence n) :=
  match build.vectorPredicateShortCircuit, filter with
  | true, some filter => (accessor.createSharedTupleIdSequenceAdapter filter, none, some filter)
  | true, none => (accessor, none, existenceMap)
  | false, filter => (accessor, filter, existenceMap)

/-- The vectorised paths of a comparison. Attributes on their own are compared over the accessor
itself, columns over the view of the candidates. -/
def comparisonGetAllMatches (fastComparator : UncheckedComparator) (left right : ScalarMethods)
    (build : Build) {n : Nat} (accessor : ValueAccessor n)
    (filter existenceMap : Option (TupleIdSequence n)) : Exec (TupleIdSequence n) :=
  let (columnAccessor, columnFilter, columnExistence) :=
    columnView build accessor filter existenceMap
  match left.staticValue, right.staticValue with
  | some leftValue, _ =>
    match right.elidedAttribute build with
    | some rightId =>
      .ok (fastComparator.compareStaticValueAndValueAccessor build leftValue accessor rightId filter)
    | none => do
      let rightValues ← right.getAllValues build columnAccessor
      pure (fastComparator.compareStaticValueAndColumnVector build leftValue rightValues columnFilter
        columnExistence)
  | none, some rightValue =>
    match left.elidedAttribute build with
    | some leftId =>
      .ok (fastComparator.compareValueAccessorAndStaticValue build accessor leftId rightValue filter)
    | none => do
      let leftValues ← left.getAllValues build columnAccessor
      pure (fastComparator.compareColumnVectorAndStaticValue build leftValues rightValue columnFilter
        columnExistence)
  | none, none =>
    match left.elidedAttribute build, right.elidedAttribute build with
    | some leftId, some rightId =>
      .ok (fastComparator.compareSingleValueAccessor build accessor leftId rightId filter)
    | some leftId, none => do
      let rightValues ← right.getAllValues build columnAccessor
      pure (fastComparator.compareValueAccessorAndColumnVector build columnAccessor leftId rightValues
        columnFilter columnExistence)
    | none, some rightId => do
      let leftValues ← left.getAllValues build columnAccessor
      pure (fastComparator.compareColumnVectorAndValueAccessor build leftValues columnAccessor rightId
        columnFilter columnExistence)
    | none, none => do
      let leftValues ← left.getAllValues build columnAccessor
      let rightValues ← right.getAllValues build columnAccessor
      pure (fastComparator.compareColumnVectors build leftValues rightValues columnFilter
        columnExistence)

/-- The constructor throws where the comparison does not take the types of the operands. -/
def comparisonPredicate (ops : Operations) (comparison : ComparisonID)
    (left right : ScalarMethods) : PredicateMethods where
  staticResult := comparisonStaticResult ops comparison left right
  matchesFor read :=
    match comparisonStaticResult ops comparison left right with
    | some result => result
    | none =>
      let fastComparator := ops.makeUncheckedComparatorForTypes comparison left.type right.type
      fastComparator.compareTypedValues (left.valueFor read) (right.valueFor read)
  getAllMatches build _ accessor filter existenceMap :=
    match comparisonStaticResult ops comparison left right with
    | some result => .ok (generateSequenceForStaticResult filter existenceMap result)
    | none =>
      let fastComparator := ops.makeUncheckedComparatorForTypes comparison left.type right.type
      comparisonGetAllMatches fastComparator left right build accessor filter existenceMap

def intersectWithOptional {n : Nat} (s : TupleIdSequence n) (other : Option (TupleIdSequence n)) :
    TupleIdSequence n :=
  match other with
  | some other => s.intersectWith other
  | none => s

def negationPredicate (operand : PredicateMethods) : PredicateMethods where
  staticResult := operand.staticResult.map not
  matchesFor read :=
    match operand.staticResult with
    | some result => !result
    | none => !operand.matchesFor read
  getAllMatches build _ accessor filter existenceMap :=
    match operand.staticResult with
    | some result => .ok (generateSequenceForStaticResult filter existenceMap !result)
    | none => do
      let operandMatches ← operand.getAllMatches build accessor filter existenceMap
      pure (intersectWithOptional (intersectWithOptional operandMatches.invert filter) existenceMap)

/-- `PredicateWithList` caches whether its result is static, and which one it is. -/
structure StaticState where
  hasStaticResult : Bool
  staticResult : Bool
  deriving DecidableEq

def StaticState.result? (cached : StaticState) : Option Bool :=
  if cached.hasStaticResult then some cached.staticResult else none

/-- The loop of a conjunction: each operand filters what the ones before it left. -/
def conjunctionLoop (build : Build) {n : Nat} (accessor : ValueAccessor n)
    (existenceMap : Option (TupleIdSequence n)) :
    List PredicateMethods → TupleIdSequence n → Exec (TupleIdSequence n)
  | [], currentFilter => .ok currentFilter
  | operand :: operands, currentFilter =>
    if currentFilter.empty then .ok currentFilter
    else do
      let operandResult ← operand.getAllMatches build accessor (some currentFilter) existenceMap
      conjunctionLoop build accessor existenceMap operands (currentFilter.intersectWith operandResult)

def conjunctionPredicate (cached : StaticState) (dynamicOperandList : List PredicateMethods) :
    PredicateMethods where
  staticResult := cached.result?
  matchesFor read :=
    match cached.result? with
    | some result => result
    | none => dynamicOperandList.all fun operand => operand.matchesFor read
  getAllMatches build _ accessor filter existenceMap :=
    match cached.result? with
    | some result => .ok (generateSequenceForStaticResult filter existenceMap result)
    | none =>
      conjunctionLoop build accessor existenceMap dynamicOperandList
        (assignFromCandidates filter existenceMap)

/-- The loop of a disjunction. Only under short circuit is the current filter what the operands
get; they then see the candidates that no operand before them matched. -/
def disjunctionLoop (build : Build) {n : Nat} (accessor : ValueAccessor n)
    (filter existenceMap : Option (TupleIdSequence n)) :
    List PredicateMethods → TupleIdSequence n → TupleIdSequence n → Exec (TupleIdSequence n)
  | [], unionResult, _ => .ok unionResult
  | operand :: operands, unionResult, currentFilter => do
    let operandFilter := if build.vectorPredicateShortCircuit then some currentFilter else filter
    let operandResult ← operand.getAllMatches build accessor operandFilter existenceMap
    disjunctionLoop build accessor filter existenceMap operands
      (unionResult.unionWith operandResult) (currentFilter.intersectWith operandResult.invert)

def disjunctionPredicate (cached : StaticState) (dynamicOperandList : List PredicateMethods) :
    PredicateMethods where
  staticResult := cached.result?
  matchesFor read :=
    match cached.result? with
    | some result => result
    | none => dynamicOperandList.any fun operand => operand.matchesFor read
  getAllMatches build n accessor filter existenceMap :=
    match cached.result? with
    | some result => .ok (generateSequenceForStaticResult filter existenceMap result)
    | none =>
      disjunctionLoop build accessor filter existenceMap dynamicOperandList (.create n)
        (assignFromCandidates filter existenceMap)

end Quickstep.Expressions
