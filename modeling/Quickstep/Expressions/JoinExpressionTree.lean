import Mathlib.Logic.Relation
import Quickstep.Expressions.JoinEvaluation
import Quickstep.Expressions.TupleEvaluation
import Quickstep.Types.LiteralComparators

/-!
# Scalar trees over joined tuples

The evaluation of a tree over a list of pairs evaluates operands over the same list, and the branches
of a CASE over the pairs of each. A tree agrees with the value of every pair when no node that the
evaluation reaches goes wrong: a CASE may not take another branch than the constructor fixed, nor one whose
column is of another class, a modulo of an INT and a FLOAT not get two values, and a substring not get more
pairs than it has room for.
-/

namespace Quickstep.Expressions
open Quickstep.Common Quickstep.Types Quickstep.Lib

section Methods

variable (ops : Operations)

mutual

def Scalar.joinMethods : Scalar → ScalarJoinMethods
  | .literal value type => joinLiteral value type
  | .ofAttribute attr => joinAttribute attr
  | .unaryExpression operation operand => joinUnaryExpression ops operation operand.joinMethods
  | .binaryExpression operation leftOperand rightOperand =>
    joinBinaryExpression ops operation leftOperand.joinMethods rightOperand.joinMethods
  | .caseExpression resultType branches elseResultExpression =>
    joinCaseExpression resultType (branchesJoinMethods branches) elseResultExpression.joinMethods

def Branch.joinMethods : Branch → PredicateMethods × ScalarJoinMethods
  | .mk whenPredicate resultExpression => (whenPredicate.methods ops, resultExpression.joinMethods)

def branchesJoinMethods : List Branch → List (PredicateMethods × ScalarJoinMethods)
  | [] => []
  | branch :: branches => branch.joinMethods :: branchesJoinMethods branches

end

/-! The other methods are those of the tree. -/

mutual

theorem Scalar.toScalarMethods_joinMethods :
    ∀ s : Scalar, (s.joinMethods ops).toScalarMethods = s.methods ops
  | .literal _ _ | .ofAttribute _ => rfl
  | .unaryExpression operation operand => by
    unfold Scalar.joinMethods Scalar.methods
    rw [← operand.toScalarMethods_joinMethods]
    rfl
  | .binaryExpression operation leftOperand rightOperand => by
    unfold Scalar.joinMethods Scalar.methods
    rw [← leftOperand.toScalarMethods_joinMethods, ← rightOperand.toScalarMethods_joinMethods]
    rfl
  | .caseExpression resultType branches elseResultExpression => by
    unfold Scalar.joinMethods Scalar.methods
    rw [← elseResultExpression.toScalarMethods_joinMethods, ← branchesJoinMethods_map branches]
    rfl

theorem Branch.toScalarMethods_joinMethods : ∀ branch : Branch,
    Prod.map id ScalarJoinMethods.toScalarMethods (branch.joinMethods ops) = branch.methods ops
  | .mk whenPredicate resultExpression => by
    unfold Branch.joinMethods Branch.methods
    rw [← resultExpression.toScalarMethods_joinMethods]
    rfl

theorem branchesJoinMethods_map : ∀ branches : List Branch,
    (branchesJoinMethods ops branches).map (Prod.map id ScalarJoinMethods.toScalarMethods) =
      branchesMethods ops branches
  | [] => rfl
  | branch :: branches => by
    unfold branchesJoinMethods branchesMethods
    rw [List.map_cons, branch.toScalarMethods_joinMethods, branchesJoinMethods_map branches]

end

end Methods

/-! ## What the nodes cache -/

section Caches

variable {ops : Operations}

theorem Scalar.joinMethods_static (s : Scalar) {value : TypedValue}
    (static : (s.joinMethods ops).staticValue = some value) (read : AttributeReader) :
    (s.joinMethods ops).valueFor read = value := by
  rw [s.toScalarMethods_joinMethods] at static ⊢
  exact s.valueFor_static static read

theorem not_elided {s : ScalarJoinMethods} (none : s.attributeIdForValueAccessor = none)
    {build : JoinBuild} {n m : Nat} {join : JoinSides n m} : s.elided build join = .none := by
  unfold ScalarJoinMethods.elided
  rw [none]
  split <;> rfl

/-- A CASE may be read in place if its fixed branch may. -/
theorem joinCaseExpression_elided {resultType : DataType}
    {branches : List (PredicateMethods × ScalarJoinMethods)}
    {elseResultExpression : ScalarJoinMethods} {build : JoinBuild} {n m : Nat}
    {join : JoinSides n m} :
    (joinCaseExpression resultType branches elseResultExpression).elided build join =
      (fixedBranch branches elseResultExpression).bind fun fixed => fixed.elided build join := by
  unfold ScalarJoinMethods.elided joinCaseExpression scalarCaseExpression
  simp only [fixedBranch_map]
  cases fixedBranch branches elseResultExpression with
  | none => cases build.vectorCopyElisionJoin <;> rfl
  | some fixed => rfl

theorem branchesJoinMethods_scalars (branches : List Branch) : branchesJoinMethods ops branches =
    (branches.map (Branch.scalar ops)).map (Prod.map id (Scalar.joinMethods ops)) := by
  induction branches with
  | nil => rfl
  | cons branch branches ih =>
    obtain ⟨whenPredicate, resultExpression⟩ := branch
    rw [branchesJoinMethods, ih]
    rfl

/-- What is read in place is the value of the node. -/
theorem Scalar.joinMethods_elided (s : Scalar) {build : JoinBuild} {n m : Nat} {join : JoinSides n m}
    {attr : JoinedAttribute} (elided : (s.joinMethods ops).elided build join = some attr)
    (pair : Fin n × Fin m) : join.valueAt attr pair = (s.joinMethods ops).valueFor (join.read pair) := by
  cases s with
  | literal _ _ | unaryExpression _ _ | binaryExpression _ _ _ =>
    rw [not_elided rfl] at elided
    cases elided
  | ofAttribute attr =>
    unfold Scalar.joinMethods ScalarJoinMethods.elided joinAttribute at elided
    split at elided
    · cases elided
      simp only [Option.some.injEq]
      exact valueAt_joinAttribute attr pair
    · cases elided
  | caseExpression type branches elseResultExpression =>
    unfold Scalar.joinMethods at elided
    rw [joinCaseExpression_elided, branchesJoinMethods_scalars, fixedBranch_map, Option.bind_map]
      at elided
    obtain ⟨fixed, resolved, fixedElided⟩ := Option.bind_eq_some_iff.mp elided
    rw [Scalar.toScalarMethods_joinMethods, caseExpression_valueFor_fixed resolved,
      ← Scalar.toScalarMethods_joinMethods]
    have smaller := @sizeOf_result ops _ _ _ (fixedBranch_mem resolved) type
    exact fixed.joinMethods_elided fixedElided pair
termination_by sizeOf s

theorem Scalar.joinCaches (s : Scalar) : (s.joinMethods ops).Caches where
  static _ same := s.joinMethods_static same
  elided _ _ _ _ _ same := s.joinMethods_elided same

end Caches

/-! ## The evaluation of a tree -/

section Evaluation

variable {n m : Nat}

section Definitions

variable (ops : Operations) (build : JoinBuild) (join : JoinSides n m)

/-- What the evaluation of a node over some pairs evaluates in turn. -/
inductive EvaluatesForJoin : Scalar × JoinedTupleIds n m → Scalar × JoinedTupleIds n m → Prop where
  | operand {operation : UnaryOperation} {operand : Scalar} {pairs : JoinedTupleIds n m}
      (evaluated : (operand.joinMethods ops).Evaluated build join) :
      EvaluatesForJoin (.unaryExpression operation operand, pairs) (operand, pairs)
  | leftOperand {operation : BinaryOperation} {left right : Scalar} {pairs : JoinedTupleIds n m}
      (evaluated : (left.joinMethods ops).Evaluated build join) :
      EvaluatesForJoin (.binaryExpression operation left right, pairs) (left, pairs)
  | rightOperand {operation : BinaryOperation} {left right : Scalar} {pairs : JoinedTupleIds n m}
      (evaluated : (right.joinMethods ops).EvaluatedBeside (left.joinMethods ops) build join) :
      EvaluatesForJoin (.binaryExpression operation left right, pairs) (right, pairs)
  | result {resultType : DataType} {branches : List Branch} {elseResultExpression : Scalar}
      {pairs : JoinedTupleIds n m} {number : Nat} {whenPredicate : Predicate} {result : Scalar}
      (isBranch : branches[number]? = some (.mk whenPredicate result)) :
      EvaluatesForJoin (.caseExpression resultType branches elseResultExpression, pairs)
        (result, pairsOfBranch join (whenPredicates ops branches) number pairs)
  | elseResult {resultType : DataType} {branches : List Branch} {elseResultExpression : Scalar}
      {pairs : JoinedTupleIds n m} :
      EvaluatesForJoin (.caseExpression resultType branches elseResultExpression, pairs)
        (elseResultExpression,
          pairsOfBranch join (whenPredicates ops branches) branches.length pairs)

/-- What the evaluation evaluates in the end. -/
def ReachesForJoin : Scalar × JoinedTupleIds n m → Scalar × JoinedTupleIds n m → Prop :=
  Relation.ReflTransGen (EvaluatesForJoin ops build join)

/-- The branches that the pairs choose yield columns of the class that a CASE demands. -/
def KeepsLayoutForJoin (type : DataType) (branches : List Branch) (elseResultExpression : Scalar)
    (pairs : JoinedTupleIds n m) : Prop :=
  ∀ pair ∈ pairs, SameLayout ((firstMatch (join.read pair) (branches.map (Branch.scalar ops))
    elseResultExpression).joinMethods ops).joinColumnType type

/-- A node that does not go wrong itself. -/
def Scalar.NodeSafe : Scalar → JoinedTupleIds n m → Prop
  | .literal _ _, _ | .ofAttribute _, _ => True
  | .unaryExpression operation operand, pairs =>
    HasRoomForJoin operation (operand.joinMethods ops) build join pairs
  | .binaryExpression operation left right, pairs =>
    (left.methods ops).staticValue = none ∨ (right.methods ops).staticValue = none →
      ∀ pair ∈ pairs,
        operation.promotesToDouble (left.methods ops).type (right.methods ops).type = true →
        hasNullOperand (left.methods ops).type (right.methods ops).type
          ((left.methods ops).valueFor (join.read pair))
          ((right.methods ops).valueFor (join.read pair)) = true
  | .caseExpression type branches elseResultExpression, pairs =>
    KeepsLayoutForJoin ops join type branches elseResultExpression pairs ∧
      ∀ pair ∈ pairs, NoneHoldsBefore (join.read pair) (whenPredicates ops branches)

/-- No node that is reached goes wrong. -/
def Scalar.JoinSafe (s : Scalar) (joinedTupleIds : JoinedTupleIds n m) : Prop :=
  ∀ node, ReachesForJoin ops build join (s, joinedTupleIds) node →
    node.1.NodeSafe ops build join node.2

/-- One value for each pair, that of `getValueForJoinedTuples` for the pair at its place. -/
def Scalar.JoinAgrees (s : Scalar) (joinedTupleIds : JoinedTupleIds n m) : Prop :=
  ∃ column, (s.joinMethods ops).getAllValuesForJoin build join joinedTupleIds = .ok column ∧
    column.length = joinedTupleIds.length ∧
    ∀ (k : Nat) (pair : Fin n × Fin m), joinedTupleIds[k]? = some pair →
      column[k]? = some ((s.methods ops).getValueForJoinedTuples join.leftAccessor
        join.leftRelationId pair.1 join.rightAccessor pair.2)

/-- A CASE whose branches have different values for every pair. -/
def Scalar.BranchesDiffer : Scalar → JoinedTupleIds n m → Prop
  | .caseExpression _ branches elseResultExpression, pairs =>
    ∀ pair ∈ pairs, ∀ i ≤ branches.length, ∀ j ≤ branches.length,
      (resultAt (branchesMethods ops branches) (elseResultExpression.methods ops) i).valueFor
          (join.read pair) =
        (resultAt (branchesMethods ops branches) (elseResultExpression.methods ops) j).valueFor
          (join.read pair) → i = j
  | .literal _ _, _ | .ofAttribute _, _ | .unaryExpression _ _, _ | .binaryExpression _ _ _, _ => True

end Definitions

/-! Where the evaluation is defined. -/

section Definedness

variable (platform : Platform) (comparisons : Operations) (build : JoinBuild) (join : JoinSides n m)

/-- What is read from the column of an operand is its single value. -/
def Scalar.ColumnReadsAsValue (pair : Fin n × Fin m) (operand : Scalar) : Prop :=
  ¬ StoresNegativeZero platform comparisons firstMatch (join.read pair) operand

/-- What a node evaluates itself for a pair is defined: beside its value, that is the column of its
operands, and the WHENs of a CASE that has a fixed branch. -/
def Scalar.EvaluatesDefined (pair : Fin n × Fin m) : Scalar → Prop
  | .literal _ _ | .ofAttribute _ => True
  | .unaryExpression _ operand =>
    (operand.joinMethods (operations platform comparisons)).Evaluated build join →
      operand.ColumnReadsAsValue platform comparisons join pair
  | .binaryExpression _ left right =>
    let leftMethods := left.joinMethods (operations platform comparisons)
    let rightMethods := right.joinMethods (operations platform comparisons)
    (leftMethods.Evaluated build join → left.ColumnReadsAsValue platform comparisons join pair) ∧
      (rightMethods.EvaluatedBeside leftMethods build join →
        right.ColumnReadsAsValue platform comparisons join pair)
  | .caseExpression _ branches _ =>
    definedUntil (fun whenPredicate => whenPredicate.matchesFor (join.read pair))
      ((branchesDefinedFor platform comparisons (join.read pair) branches).map
        (Prod.map id Prod.fst)) = true

/-- All nodes that are reached are defined. -/
def Scalar.JoinDefined (s : Scalar) (joinedTupleIds : JoinedTupleIds n m) : Prop :=
  ∀ node, ReachesForJoin (operations platform comparisons) build join (s, joinedTupleIds) node →
    ∀ pair ∈ node.2, node.1.isDefinedFor platform comparisons (join.read pair) = true ∧
      node.1.EvaluatesDefined platform comparisons build join pair

end Definedness

variable {ops : Operations} {build : JoinBuild} {join : JoinSides n m}
  {joinedTupleIds : JoinedTupleIds n m}

theorem Scalar.joinAgrees_iff {s : Scalar} :
    s.JoinAgrees ops build join joinedTupleIds ↔
      (s.joinMethods ops).AgreesForJoin build join joinedTupleIds := by
  unfold ScalarJoinMethods.AgreesForJoin
  rw [s.toScalarMethods_joinMethods]
  constructor
  · rintro ⟨column, returned, length, values⟩
    rw [returned]
    congr 1
    apply List.ext_getElem?
    intro k
    rw [List.getElem?_map]
    cases place : joinedTupleIds[k]? with
    | none =>
      rw [List.getElem?_eq_none_iff] at place
      rw [Option.map_none, List.getElem?_eq_none_iff, length]
      exact place
    | some pair => exact values k pair place
  · intro returned
    refine ⟨_, returned, List.length_map .., ?_⟩
    intro k pair place
    rw [List.getElem?_map, place]
    rfl

/-! One node, over operands that agree. -/

section Nodes

theorem branchesJoinMethods_eq (branches : List Branch) :
    branchesJoinMethods ops branches = branches.map (Branch.joinMethods ops) := by
  induction branches with
  | nil => rfl
  | cons branch branches ih =>
    unfold branchesJoinMethods
    rw [ih, List.map_cons]

theorem branchesJoinMethods_fst (branches : List Branch) :
    (branchesJoinMethods ops branches).map Prod.fst = whenPredicates ops branches := by
  rw [whenPredicates, ← branchesJoinMethods_map, List.map_map]
  rfl

theorem firstMatch_joinScalars (branches : List Branch) (elseResultExpression : Scalar)
    (read : AttributeReader) :
    firstMatch read (branchesJoinMethods ops branches) (elseResultExpression.joinMethods ops) =
      (firstMatch read (branches.map (Branch.scalar ops)) elseResultExpression).joinMethods ops := by
  rw [branchesJoinMethods_scalars, firstMatch_map]

/-- The first branch that holds, as the join chooses it. -/
theorem firstMatch_joinMethods (branches : List Branch) (elseResultExpression : Scalar)
    (read : AttributeReader) :
    ((firstMatch read (branches.map (Branch.scalar ops)) elseResultExpression).joinMethods
      ops).toScalarMethods = firstHoldingResult ops branches elseResultExpression read := by
  rw [Scalar.toScalarMethods_joinMethods, ← firstMatch_scalars, firstMatch_eq]
  rfl

theorem joinCase_agrees_iff {type : DataType} {branches : List Branch}
    {elseResultExpression : Scalar}
    (evaluated : ∀ node, EvaluatesForJoin ops build join
      (.caseExpression type branches elseResultExpression, joinedTupleIds) node →
        (node.1.joinMethods ops).AgreesForJoin build join node.2) :
    ((Scalar.caseExpression type branches elseResultExpression).joinMethods
        ops).AgreesForJoin build join joinedTupleIds ↔
      KeepsLayoutForJoin ops join type branches elseResultExpression joinedTupleIds ∧
      ∀ pair ∈ joinedTupleIds,
        (firstHoldingResult ops branches elseResultExpression
          (join.read pair)).valueFor (join.read pair) =
        ((Scalar.caseExpression type branches elseResultExpression).methods
          ops).valueFor (join.read pair) := by
  have agree : ResultsAgree build join (branchesJoinMethods ops branches) joinedTupleIds := by
    intro number branch isBranch
    rw [branchesJoinMethods_eq, List.getElem?_map] at isBranch
    obtain ⟨source, isSource, rfl⟩ := Option.map_eq_some_iff.mp isBranch
    obtain ⟨whenPredicate, result⟩ := source
    rw [branchesJoinMethods_fst]
    exact evaluated _ (.result isSource)
  have elseAgrees : (elseResultExpression.joinMethods ops).AgreesForJoin build join
      (pairsOfBranch join ((branchesJoinMethods ops branches).map Prod.fst)
        (branchesJoinMethods ops branches).length joinedTupleIds) := by
    rw [branchesJoinMethods_fst, branchesJoinMethods_eq, List.length_map]
    exact evaluated _ .elseResult
  have column : ((Scalar.caseExpression type branches elseResultExpression).joinMethods
      ops).getAllValuesForJoin build join joinedTupleIds = _ :=
    caseGetAllValuesForJoin_eq agree elseAgrees
  simp only [firstMatch_joinScalars, firstMatch_joinMethods, List.all_eq_true, decide_eq_true_eq]
    at column
  unfold ScalarJoinMethods.AgreesForJoin
  rw [column, Scalar.toScalarMethods_joinMethods]
  unfold KeepsLayoutForJoin
  split
  · rename_i layouts
    rw [Except.ok.injEq, List.map_inj_left, and_iff_right layouts]
  · rename_i differs
    exact iff_of_false (by rintro ⟨⟩) fun both => differs both.1

/-! The operators are those of the operations. -/

section Operators

variable {platform : Platform} {comparisons : Operations}

theorem joinUnary_agrees_iff {operation : UnaryOperation} {operand : Scalar}
    (evaluated : ∀ node, EvaluatesForJoin (operations platform comparisons) build join
      (.unaryExpression operation operand, joinedTupleIds) node →
        (node.1.joinMethods (operations platform comparisons)).AgreesForJoin build join node.2) :
    ((Scalar.unaryExpression operation operand).joinMethods
        (operations platform comparisons)).AgreesForJoin build join joinedTupleIds ↔
      (Scalar.unaryExpression operation operand).NodeSafe (operations platform comparisons) build join
        joinedTupleIds := by
  apply joinUnaryExpression_agrees_iff
  · exact operations_unary_agrees operation _
  · exact operand.joinCaches
  · exact fun isEvaluated => evaluated _ (.operand isEvaluated)

theorem joinBinary_agrees_iff {operation : BinaryOperation} {left right : Scalar}
    (evaluated : ∀ node, EvaluatesForJoin (operations platform comparisons) build join
      (.binaryExpression operation left right, joinedTupleIds) node →
        (node.1.joinMethods (operations platform comparisons)).AgreesForJoin build join node.2) :
    ((Scalar.binaryExpression operation left right).joinMethods
        (operations platform comparisons)).AgreesForJoin build join joinedTupleIds ↔
      (Scalar.binaryExpression operation left right).NodeSafe (operations platform comparisons) build
        join joinedTupleIds := by
  obtain ⟨f, loops, same⟩ := @operations_loopsOver platform comparisons operation
    (left.joinMethods (operations platform comparisons)).type
    (right.joinMethods (operations platform comparisons)).type
  have agrees := joinBinaryExpression_agrees_iff loops left.joinCaches right.joinCaches
    (fun isEvaluated => evaluated _ (.leftOperand isEvaluated))
    (fun isEvaluated => evaluated _ (.rightOperand isEvaluated))
  simp only [same] at agrees
  simp only [Scalar.toScalarMethods_joinMethods] at agrees
  exact agrees

theorem whenPredicates_length (branches : List Branch) :
    (whenPredicates ops branches).length = branches.length := by
  rw [← branchesJoinMethods_fst, branchesJoinMethods_eq, List.length_map, List.length_map]

variable {s : Scalar} (evaluated : ∀ node,
  EvaluatesForJoin (operations platform comparisons) build join (s, joinedTupleIds) node →
    (node.1.joinMethods (operations platform comparisons)).AgreesForJoin build join node.2)
include evaluated

/-- A node that does not go wrong itself agrees where what it evaluates does. -/
theorem Scalar.node_agrees
    (safe : s.NodeSafe (operations platform comparisons) build join joinedTupleIds) :
    (s.joinMethods (operations platform comparisons)).AgreesForJoin build join joinedTupleIds := by
  cases s with
  | literal value type => exact joinLiteral_agrees value type
  | ofAttribute attr => exact joinAttribute_agrees attr
  | unaryExpression operation operand => exact (joinUnary_agrees_iff evaluated).mpr safe
  | binaryExpression operation left right => exact (joinBinary_agrees_iff evaluated).mpr safe
  | caseExpression resultType branches elseResultExpression =>
    refine (joinCase_agrees_iff evaluated).mpr ⟨safe.1, fun pair isPair => ?_⟩
    symm
    apply caseExpression_valueFor
    exact (chosenNumber_iff whenPredicates_keeps).mpr (safe.2 pair isPair)

/-- Where it agrees it does not go wrong, unless two branches of a CASE have the same value. -/
theorem Scalar.node_safe
    (differ : s.BranchesDiffer (operations platform comparisons) join joinedTupleIds)
    (agrees : (s.joinMethods (operations platform comparisons)).AgreesForJoin build join
      joinedTupleIds) :
    s.NodeSafe (operations platform comparisons) build join joinedTupleIds := by
  cases s with
  | literal value type => trivial
  | ofAttribute attr => trivial
  | unaryExpression operation operand => exact (joinUnary_agrees_iff evaluated).mp agrees
  | binaryExpression operation left right => exact (joinBinary_agrees_iff evaluated).mp agrees
  | caseExpression resultType branches elseResultExpression =>
    obtain ⟨keepsLayout, values⟩ := (joinCase_agrees_iff evaluated).mp agrees
    refine ⟨keepsLayout, fun pair isPair => ?_⟩
    apply (chosenNumber_iff whenPredicates_keeps).mp
    have value := values pair isPair
    rw [caseExpression_valueFor_chosen] at value
    have length := @whenPredicates_length (operations platform comparisons) branches
    symm
    apply differ pair isPair _ _ _ _ value
    · rw [← length]
      exact List.findIdx_le_length
    · rw [← length]
      exact chosenNumber_le whenPredicates_keeps

end Operators

end Nodes

/-! ## Whole trees -/

theorem EvaluatesForJoin.sizeOf_lt {node next : Scalar × JoinedTupleIds n m}
    (evaluates : EvaluatesForJoin ops build join node next) : sizeOf next.1 < sizeOf node.1 := by
  cases evaluates with
  | operand _ | leftOperand _ | rightOperand _ | elseResult =>
    simp
    try omega
  | result isBranch =>
    have smaller := List.sizeOf_lt_of_mem (List.mem_of_getElem? isBranch)
    simp at smaller ⊢
    omega

theorem Scalar.joinSafe_iff {s : Scalar} :
    s.JoinSafe ops build join joinedTupleIds ↔
      s.NodeSafe ops build join joinedTupleIds ∧
        ∀ node, EvaluatesForJoin ops build join (s, joinedTupleIds) node →
          node.1.JoinSafe ops build join node.2 := by
  constructor
  · intro safe
    exact ⟨safe _ .refl, fun node evaluates next reaches => safe next (.head evaluates reaches)⟩
  · rintro ⟨safe, rest⟩ node reaches
    rcases Relation.ReflTransGen.cases_head_iff.mp reaches with rfl | ⟨next, evaluates, reaches⟩
    · exact safe
    · exact rest next evaluates node reaches

section Operators

variable {platform : Platform} {comparisons : Operations}

/-- From one node to a tree: what is evaluated is smaller. -/
theorem Scalar.agreesForJoin (s : Scalar) (joinedTupleIds : JoinedTupleIds n m)
    (safe : s.JoinSafe (operations platform comparisons) build join joinedTupleIds) :
    (s.joinMethods (operations platform comparisons)).AgreesForJoin build join joinedTupleIds := by
  obtain ⟨nodeSafe, rest⟩ := Scalar.joinSafe_iff.mp safe
  refine Scalar.node_agrees ?_ nodeSafe
  rintro ⟨operand, pairs⟩ evaluates
  have smaller := evaluates.sizeOf_lt
  exact operand.agreesForJoin pairs (rest _ evaluates)
termination_by sizeOf s

end Operators

/-! A CASE over literals. -/

section Overlapping

/-- CASE WHEN a = 1 THEN 10 WHEN TRUE THEN 20 ELSE 30 END. -/
def overlappingCase : Scalar :=
  .caseExpression (.int false) overlappingBranches (.literal (.int 30) (.int false))

def oneAndTwoJoin : JoinSides 2 2 where
  leftRelationId := 0
  leftAccessor := oneAndTwo
  rightAccessor := oneAndTwo
  leftNotAdapter := rfl
  rightNotAdapter := rfl

theorem EvaluatesForJoin.of_overlappingCase {joinedTupleIds : JoinedTupleIds n m}
    {node : Scalar × JoinedTupleIds n m}
    (evaluates : EvaluatesForJoin ops build join (overlappingCase, joinedTupleIds) node) :
    ∃ value, node.1 = .literal (.int value) (.int false) := by
  cases evaluates with
  | result isBranch =>
    have branch := List.mem_of_getElem? isBranch
    simp only [overlappingBranches, List.mem_cons, Branch.mk.injEq, List.not_mem_nil, or_false]
      at branch
    rcases branch with ⟨-, rfl⟩ | ⟨-, rfl⟩
    · exact ⟨_, rfl⟩
    · exact ⟨_, rfl⟩
  | elseResult => exact ⟨_, rfl⟩

/-- Beside the CASE only literals are reached. -/
theorem ReachesForJoin.of_overlappingCase {joinedTupleIds : JoinedTupleIds n m}
    {node : Scalar × JoinedTupleIds n m}
    (reaches : ReachesForJoin ops build join (overlappingCase, joinedTupleIds) node) :
    node = (overlappingCase, joinedTupleIds) ∨ ∃ value, node.1 = .literal (.int value) (.int false) := by
  rcases Relation.ReflTransGen.cases_head_iff.mp reaches with same | ⟨next, evaluates, rest⟩
  · exact .inl same.symm
  · obtain ⟨value, isLiteral⟩ := evaluates.of_overlappingCase
    obtain ⟨operand, left⟩ := next
    subst isLiteral
    rcases Relation.ReflTransGen.cases_head_iff.mp rest with rfl | ⟨_, further, -⟩
    · exact .inr ⟨value, rfl⟩
    · cases further

theorem overlappingCase_defined (pairs : JoinedTupleIds 2 2) :
    overlappingCase.JoinDefined integerPlatform intOperations build oneAndTwoJoin pairs := by
  intro node reaches pair _
  obtain ⟨operand, left⟩ := node
  rcases reaches.of_overlappingCase with same | ⟨value, isLiteral⟩
  · cases same
    refine ⟨rfl, ?_⟩
    simp [overlappingCase, overlappingBranches, Scalar.EvaluatesDefined, branchesDefinedFor, isOne,
      intAttribute, Predicate.isDefinedFor, Scalar.isDefinedFor, definedUntil]
  · obtain rfl : operand = _ := isLiteral
    exact ⟨rfl, trivial⟩

theorem overlappingCase_differs {pairs : JoinedTupleIds 2 2} {node : Scalar × JoinedTupleIds 2 2}
    (reaches : ReachesForJoin (operations integerPlatform intOperations) build oneAndTwoJoin
      (overlappingCase, pairs) node) :
    node.1.BranchesDiffer (operations integerPlatform intOperations) oneAndTwoJoin node.2 := by
  obtain ⟨operand, left⟩ := node
  rcases reaches.of_overlappingCase with same | ⟨value, isLiteral⟩
  · cases same
    intro pair _ i iBound j jBound same
    have two : overlappingBranches.length = 2 := rfl
    obtain rfl | rfl | rfl : i = 0 ∨ i = 1 ∨ i = 2 := by omega
    all_goals
      obtain rfl | rfl | rfl : j = 0 ∨ j = 1 ∨ j = 2 := by omega
      all_goals first
        | rfl
        | exact absurd (TypedValue.int.inj same) (by decide)
  · obtain rfl : operand = _ := isLiteral
    trivial

/-- All its branches have columns of one class. -/
theorem overlappingCase_keepsLayout (pairs : JoinedTupleIds n m) :
    KeepsLayoutForJoin ops join (.int false) overlappingBranches (.literal (.int 30) (.int false))
      pairs := by
  intro pair _
  simp only [overlappingBranches, List.map_cons, List.map_nil, Branch.scalar, firstMatch]
  split_ifs <;> rfl

end Overlapping

end Evaluation

end Quickstep.Expressions
