import Quickstep.Expressions.CaseSemantics
import Quickstep.Lib.WhileLoop

/-!
# Scalars over joined tuples

The join methods of each class of scalars as functions of those of its operands. The values for a list
of pairs come as one column; CASE checks its WHEN predicates pair by pair, evaluates each branch on
its own pairs and multiplexes the columns of the branches back into one.
-/

namespace Quickstep.Expressions
open Quickstep.Common Quickstep.Types Quickstep.Lib TupleIdSequence

/-- The compile-time switches `QUICKSTEP_ENABLE_VECTOR_COPY_ELISION_JOIN` and
`QUICKSTEP_ENABLE_VECTOR_COPY_ELISION_JOIN_WITH_BINARY_EXPRESSIONS`. -/
structure JoinBuild where
  vectorCopyElisionJoin : Bool
  vectorCopyElisionJoinWithBinaryExpressions : Bool

/-- The accessors of a join. `InvokeOnValueAccessorNotAdapter` demands that they are no adapters; the
id of the right relation is looked at by assertions only. -/
structure JoinSides (n m : Nat) where
  leftRelationId : Nat
  leftAccessor : ValueAccessor n
  rightAccessor : ValueAccessor m
  leftNotAdapter : leftAccessor.tupleIdSequence = none
  rightNotAdapter : rightAccessor.tupleIdSequence = none

abbrev JoinedTupleIds (n m : Nat) := List (Fin n × Fin m)

/-- An attribute that is read straight from the accessor of one side. -/
structure JoinedAttribute where
  usingLeftRelation : Bool
  attributeId : Nat

namespace JoinSides

variable {n m : Nat} (join : JoinSides n m)

def read (pair : Fin n × Fin m) : AttributeReader :=
  readJoinedTuples join.leftAccessor join.leftRelationId pair.1 join.rightAccessor pair.2

def getNumTuples (usingLeftRelation : Bool) : Nat :=
  if usingLeftRelation then join.leftAccessor.getNumTuples else join.rightAccessor.getNumTuples

def valueAt (attr : JoinedAttribute) (pair : Fin n × Fin m) : TypedValue :=
  if attr.usingLeftRelation then
    join.leftAccessor.getTypedValueAtAbsolutePosition attr.attributeId pair.1
  else join.rightAccessor.getTypedValueAtAbsolutePosition attr.attributeId pair.2

/-- The values at the pairs, as the loops read them. -/
def column (attr : JoinedAttribute) (joinedTupleIds : JoinedTupleIds n m) : ColumnVector :=
  joinedTupleIds.map (join.valueAt attr)

end JoinSides

/-! ## Operators -/

/-- Values appended to a column that has room for `reservedLength`. -/
def appendAll (reservedLength : Nat) (values : ColumnVector) : Exec ColumnVector :=
  values.foldlM (fun column value =>
    if column.length < reservedLength then .ok (column ++ [value]) else .error .undefinedBehaviour) []

/-- The room in the result of `applyToValueAccessorForJoin`: the substring operator takes the number
of tuples of the accessor for the number of pairs. -/
def reservedLengthForJoin {n m : Nat} (operation : UnaryOperation) (join : JoinSides n m)
    (attr : JoinedAttribute) (joinedTupleIds : JoinedTupleIds n m) : Nat :=
  match operation with
  | .negate | .numericCast _ | .dateExtract _ => joinedTupleIds.length
  | .substring _ _ => join.getNumTuples attr.usingLeftRelation

/-! The loops over the pairs treat the values they read as the loops over columns do. -/

def applyToValueAccessorForJoin {n m : Nat} (operation : UnaryOperation)
    (fastOperator : UncheckedUnaryOperator) (join : JoinSides n m) (attr : JoinedAttribute)
    (joinedTupleIds : JoinedTupleIds n m) : Exec ColumnVector :=
  appendAll (reservedLengthForJoin operation join attr joinedTupleIds)
    (fastOperator.applyToColumnVector (join.column attr joinedTupleIds))

section BinaryOperators

variable {n m : Nat} (fastOperator : UncheckedBinaryOperator) (join : JoinSides n m)

def applyToStaticValueAndValueAccessorForJoin (left : TypedValue) (right : JoinedAttribute)
    (joinedTupleIds : JoinedTupleIds n m) : ColumnVector :=
  fastOperator.applyToStaticValueAndColumnVector left (join.column right joinedTupleIds)

def applyToValueAccessorAndStaticValueForJoin (left : JoinedAttribute) (right : TypedValue)
    (joinedTupleIds : JoinedTupleIds n m) : ColumnVector :=
  fastOperator.applyToColumnVectorAndStaticValue (join.column left joinedTupleIds) right

def applyToValueAccessorAndColumnVectorForJoin (left : JoinedAttribute) (right : ColumnVector)
    (joinedTupleIds : JoinedTupleIds n m) : ColumnVector :=
  fastOperator.applyToColumnVectors (join.column left joinedTupleIds) right

def applyToColumnVectorAndValueAccessorForJoin (left : ColumnVector) (right : JoinedAttribute)
    (joinedTupleIds : JoinedTupleIds n m) : ColumnVector :=
  fastOperator.applyToColumnVectors left (join.column right joinedTupleIds)

def applyToValueAccessorsForJoin (left right : JoinedAttribute)
    (joinedTupleIds : JoinedTupleIds n m) : ColumnVector :=
  fastOperator.applyToColumnVectors (join.column left joinedTupleIds)
    (join.column right joinedTupleIds)

end BinaryOperators

/-! ## The classes -/

/-- The methods of a `Scalar` with those for joins. The relation id is `none` where the source returns
-1. The columns of `getAllValuesForJoin` are laid out by a type of their own. -/
structure ScalarJoinMethods extends ScalarMethods where
  relationIdForValueAccessor : Option Nat
  joinColumnType : DataType
  getAllValuesForJoin : JoinBuild → {n m : Nat} → JoinSides n m → JoinedTupleIds n m →
    Exec ColumnVector

namespace ScalarJoinMethods

variable {n m : Nat}

/-- The attribute a node may read straight from an accessor of the join. -/
def elided (s : ScalarJoinMethods) (build : JoinBuild) (join : JoinSides n m) :
    Option JoinedAttribute :=
  if build.vectorCopyElisionJoin then
    s.attributeIdForValueAccessor.map fun attributeId =>
      ⟨s.relationIdForValueAccessor = some join.leftRelationId, attributeId⟩
  else none

/-- The right operand of a binary expression, whose left operand may be read from an accessor too. -/
def elidedBeside (right left : ScalarJoinMethods) (build : JoinBuild) (join : JoinSides n m) :
    Option JoinedAttribute :=
  if (left.elided build join).isSome && !build.vectorCopyElisionJoinWithBinaryExpressions then none
  else right.elided build join

end ScalarJoinMethods

def joinLiteral (value : TypedValue) (type : DataType) : ScalarJoinMethods :=
  { scalarLiteral value type with
    relationIdForValueAccessor := none
    joinColumnType := type
    getAllValuesForJoin := fun _ _ _ _ joinedTupleIds =>
      .ok (.makeVectorOfValue value joinedTupleIds.length) }

def joinAttribute (attr : CatalogAttribute) : ScalarJoinMethods :=
  { scalarAttribute attr with
    relationIdForValueAccessor := some attr.relationId
    joinColumnType := attr.type
    getAllValuesForJoin := fun _ _ _ join joinedTupleIds =>
      .ok (join.column ⟨attr.relationId = join.leftRelationId, attr.id⟩ joinedTupleIds) }

section Operations

variable (ops : Operations)

def joinUnaryExpression (operation : UnaryOperation) (operand : ScalarJoinMethods) :
    ScalarJoinMethods :=
  { scalarUnaryExpression ops operation operand.toScalarMethods with
    relationIdForValueAccessor := none
    joinColumnType := (scalarUnaryExpression ops operation operand.toScalarMethods).type
    getAllValuesForJoin := fun build _ _ join joinedTupleIds =>
      match operand.staticValue with
      | some value =>
        .ok (.makeVectorOfValue (ops.applyToCheckedUnary operation value operand.type)
          joinedTupleIds.length)
      | none =>
        let fastOperator := ops.makeUncheckedUnaryOperatorForType operation operand.type
        match operand.elided build join with
        | some attr =>
          applyToValueAccessorForJoin operation fastOperator join attr joinedTupleIds
        | none => do
          let operandResult ← operand.getAllValuesForJoin build join joinedTupleIds
          pure (fastOperator.applyToColumnVector operandResult) }

/-- The paths of a binary expression that is not static. -/
def binaryGetAllValuesForJoin (fastOperator : UncheckedBinaryOperator)
    (left right : ScalarJoinMethods) (build : JoinBuild) {n m : Nat} (join : JoinSides n m)
    (joinedTupleIds : JoinedTupleIds n m) : Exec ColumnVector :=
  match left.staticValue, right.staticValue with
  | some leftValue, _ =>
    match right.elided build join with
    | some attr =>
      .ok (applyToStaticValueAndValueAccessorForJoin fastOperator join leftValue attr joinedTupleIds)
    | none => do
      let rightResult ← right.getAllValuesForJoin build join joinedTupleIds
      pure (fastOperator.applyToStaticValueAndColumnVector leftValue rightResult)
  | none, some rightValue =>
    match left.elided build join with
    | some attr =>
      .ok (applyToValueAccessorAndStaticValueForJoin fastOperator join attr rightValue joinedTupleIds)
    | none => do
      let leftResult ← left.getAllValuesForJoin build join joinedTupleIds
      pure (fastOperator.applyToColumnVectorAndStaticValue leftResult rightValue)
  | none, none =>
    match left.elided build join, right.elidedBeside left build join with
    | some leftAttr, some rightAttr =>
      .ok (applyToValueAccessorsForJoin fastOperator join leftAttr rightAttr joinedTupleIds)
    | some leftAttr, none => do
      let rightResult ← right.getAllValuesForJoin build join joinedTupleIds
      pure (applyToValueAccessorAndColumnVectorForJoin fastOperator join leftAttr rightResult
        joinedTupleIds)
    | none, some rightAttr => do
      let leftResult ← left.getAllValuesForJoin build join joinedTupleIds
      pure (applyToColumnVectorAndValueAccessorForJoin fastOperator join leftResult rightAttr
        joinedTupleIds)
    | none, none => do
      let leftResult ← left.getAllValuesForJoin build join joinedTupleIds
      let rightResult ← right.getAllValuesForJoin build join joinedTupleIds
      pure (fastOperator.applyToColumnVectors leftResult rightResult)

def joinBinaryExpression (operation : BinaryOperation) (left right : ScalarJoinMethods) :
    ScalarJoinMethods :=
  { scalarBinaryExpression ops operation left.toScalarMethods right.toScalarMethods with
    relationIdForValueAccessor := none
    joinColumnType :=
      (scalarBinaryExpression ops operation left.toScalarMethods right.toScalarMethods).type
    getAllValuesForJoin := fun build _ _ join joinedTupleIds =>
      match binaryStaticValue ops operation left.toScalarMethods right.toScalarMethods with
      | some value => .ok (.makeVectorOfValue value joinedTupleIds.length)
      | none =>
        binaryGetAllValuesForJoin
          (ops.makeUncheckedBinaryOperatorForTypes operation left.type right.type) left right build
          join joinedTupleIds }

end Operations

section Case

variable {n m : Nat} (join : JoinSides n m) (joinedTupleIds : JoinedTupleIds n m)

/-- The loop over the positions that are left, for one WHEN predicate: the positions and the pairs
that match. -/
def checkPairs (casePredicate : PredicateMethods)
    (elsePositions : TupleIdSequence joinedTupleIds.length) :
    TupleIdSequence joinedTupleIds.length × JoinedTupleIds n m :=
  elsePositions.ids.foldl (fun current pos =>
    let checkPair := joinedTupleIds.get pos
    if casePredicate.matchesForJoinedTuples join.leftAccessor join.leftRelationId checkPair.1
        join.rightAccessor checkPair.2 then
      (current.1.set pos true, current.2 ++ [checkPair])
    else current) (.create _, [])

/-- The positions and the pairs of a branch, with its result expression. -/
structure CasePairs (n m length : Nat) where
  positions : TupleIdSequence length
  pairs : JoinedTupleIds n m
  result : ScalarJoinMethods

/-- The loop over the WHEN predicates, which ends early when no position is left. -/
def caseMatchesForJoin : List (PredicateMethods × ScalarJoinMethods) →
    TupleIdSequence joinedTupleIds.length →
    List (CasePairs n m joinedTupleIds.length) × TupleIdSequence joinedTupleIds.length
  | [], elsePositions => ([], elsePositions)
  | (casePredicate, result) :: branches, elsePositions =>
    if elsePositions.empty then ([], elsePositions)
    else
      let current := checkPairs join joinedTupleIds casePredicate elsePositions
      let later := caseMatchesForJoin branches (elsePositions.intersectWithComplement current.1)
      (⟨current.1, current.2, result⟩ :: later.1, later.2)

/-- The column of a result expression over the pairs of its branch. -/
def branchColumnForJoin (build : JoinBuild) (result : ScalarJoinMethods) (pairs : JoinedTupleIds n m) :
    Exec TypedColumn := do
  let values ← result.getAllValuesForJoin build join pairs
  pure ⟨result.joinColumnType, values⟩

/-- `getAllValuesForJoin` of a CASE. Unlike the other entry points it does not look for a fixed
branch. -/
def caseGetAllValuesForJoin (type : DataType) (branches : List (PredicateMethods × ScalarJoinMethods))
    (elseResultExpression : ScalarJoinMethods) (build : JoinBuild) : Exec ColumnVector := do
  let split :=
    caseMatchesForJoin join joinedTupleIds branches ((TupleIdSequence.create _).setAll true)
  let caseResults ← split.1.mapM fun case => do
    let caseResult ← branchColumnForJoin join build case.result case.pairs
    pure (case.positions, caseResult)
  let elseMatches := split.2.ids.map joinedTupleIds.get
  let elseResult ←
    if split.2.empty then pure none
    else some <$> branchColumnForJoin join build elseResultExpression elseMatches
  multiplexColumnVectors type joinedTupleIds.length none caseResults split.2 elseResult

end Case

def joinCaseExpression (resultType : DataType)
    (branches : List (PredicateMethods × ScalarJoinMethods))
    (elseResultExpression : ScalarJoinMethods) : ScalarJoinMethods :=
  { scalarCaseExpression resultType (branches.map (Prod.map id ScalarJoinMethods.toScalarMethods))
      elseResultExpression.toScalarMethods with
    relationIdForValueAccessor :=
      (fixedBranch branches elseResultExpression).bind ScalarJoinMethods.relationIdForValueAccessor
    joinColumnType := resultType
    getAllValuesForJoin := fun build _ _ join joinedTupleIds =>
      caseGetAllValuesForJoin join joinedTupleIds resultType branches elseResultExpression build }

end Quickstep.Expressions
