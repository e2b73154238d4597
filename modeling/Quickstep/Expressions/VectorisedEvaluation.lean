import Mathlib.Logic.Relation
import Quickstep.Expressions.ExpressionTree
import Quickstep.Types.OperatorAgreement

/-!
# Vectorised evaluation of trees

The vectorised evaluation of a tree calls the vectorised methods of its nodes, each on some of the
tuples. What it evaluates in turn is a relation between such calls. A call agrees with the evaluation
tuple by tuple when no call that it reaches goes wrong.
-/

namespace Quickstep.Expressions
open Quickstep.Common Quickstep.Types Quickstep.Lib TupleIdSequence

/-- A call of a vectorised method: `getAllValues` for some tuples, or `getAllMatches` for candidates among
them. -/
inductive Evaluation (n : Nat) where
  | values (s : Scalar) (tuples : List (Fin n))
  | matching (p : Predicate) (tuples candidates : List (Fin n))

def whenPredicates (ops : Operations) (branches : List Branch) : List PredicateMethods :=
  (branchesMethods ops branches).map Prod.fst

section Definitions

variable (ops : Operations) (build : Build) {n : Nat} (read : Fin n → AttributeReader)

/-- What an evaluation evaluates in turn, and on which tuples. -/
inductive Evaluates : Evaluation n → Evaluation n → Prop where
  | operand {operation : UnaryOperation} {operand : Scalar} {tuples : List (Fin n)}
      (evaluated : (operand.methods ops).Evaluated build) :
      Evaluates (.values (.unaryExpression operation operand) tuples) (.values operand tuples)
  | leftOperand {operation : BinaryOperation} {left right : Scalar} {tuples : List (Fin n)}
      (evaluated : (left.methods ops).Evaluated build) :
      Evaluates (.values (.binaryExpression operation left right) tuples) (.values left tuples)
  | rightOperand {operation : BinaryOperation} {left right : Scalar} {tuples : List (Fin n)}
      (evaluated : (right.methods ops).Evaluated build) :
      Evaluates (.values (.binaryExpression operation left right) tuples) (.values right tuples)
  | fixedResult {type : DataType} {branches : List Branch} {elseResultExpression fixed : Scalar}
      {tuples : List (Fin n)}
      (resolved : fixedBranch (branches.map (Branch.scalar ops)) elseResultExpression = some fixed)
      (dynamic : (fixed.methods ops).staticValue = none) :
      Evaluates (.values (.caseExpression type branches elseResultExpression) tuples)
        (.values fixed tuples)
  | whenPredicate {type : DataType} {branches : List Branch} {elseResultExpression : Scalar}
      {tuples : List (Fin n)} {number : Nat} {whenPredicate : Predicate} {result : Scalar}
      (unresolved : fixedBranch (branches.map (Branch.scalar ops)) elseResultExpression = none)
      (isBranch : branches[number]? = some (.mk whenPredicate result))
      (nonempty : whenCandidates read (whenPredicates ops branches) number tuples ≠ []) :
      Evaluates (.values (.caseExpression type branches elseResultExpression) tuples)
        (.matching whenPredicate tuples
          (whenCandidates read (whenPredicates ops branches) number tuples))
  | result {type : DataType} {branches : List Branch} {elseResultExpression : Scalar}
      {tuples : List (Fin n)} {number : Nat} {whenPredicate : Predicate} {result : Scalar}
      (unresolved : fixedBranch (branches.map (Branch.scalar ops)) elseResultExpression = none)
      (isBranch : branches[number]? = some (.mk whenPredicate result))
      (nonempty : whenCandidates read (whenPredicates ops branches) number tuples ≠ []) :
      Evaluates (.values (.caseExpression type branches elseResultExpression) tuples)
        (.values result (branchTuples read (whenPredicates ops branches) number tuples))
  | elseResult {type : DataType} {branches : List Branch} {elseResultExpression : Scalar}
      {tuples : List (Fin n)}
      (unresolved : fixedBranch (branches.map (Branch.scalar ops)) elseResultExpression = none)
      (nonempty : branchTuples read (whenPredicates ops branches) branches.length tuples ≠ []) :
      Evaluates (.values (.caseExpression type branches elseResultExpression) tuples)
        (.values elseResultExpression
          (branchTuples read (whenPredicates ops branches) branches.length tuples))
  | leftComparand {comparison : ComparisonID} {left right : Scalar} {tuples candidates : List (Fin n)}
      (evaluated : (left.methods ops).Evaluated build) :
      Evaluates (.matching (.comparison comparison left right) tuples candidates)
        (.values left (columnTuples build tuples candidates))
  | rightComparand {comparison : ComparisonID} {left right : Scalar} {tuples candidates : List (Fin n)}
      (evaluated : (right.methods ops).Evaluated build) :
      Evaluates (.matching (.comparison comparison left right) tuples candidates)
        (.values right (columnTuples build tuples candidates))
  | negated {operand : Predicate} {tuples candidates : List (Fin n)}
      (dynamic : (operand.methods ops).staticResult = none) :
      Evaluates (.matching (.negation operand) tuples candidates)
        (.matching operand tuples candidates)
  | conjunct {cached : StaticState} {staticOperandList dynamicOperandList : List Predicate}
      {tuples candidates : List (Fin n)} {number : Nat} {operand : Predicate}
      (dynamic : cached.result? = none) (isOperand : dynamicOperandList[number]? = some operand)
      (nonempty : conjunctCandidates read (operandsMethods ops dynamicOperandList) number candidates ≠
        []) :
      Evaluates (.matching (.conjunction cached staticOperandList dynamicOperandList) tuples candidates)
        (.matching operand tuples
          (conjunctCandidates read (operandsMethods ops dynamicOperandList) number candidates))
  | disjunct {cached : StaticState} {fresh : Bool} {staticOperandList dynamicOperandList : List Predicate}
      {tuples candidates : List (Fin n)} {number : Nat} {operand : Predicate}
      (dynamic : cached.result? = none) (isOperand : dynamicOperandList[number]? = some operand) :
      Evaluates
        (.matching (.disjunction cached fresh staticOperandList dynamicOperandList) tuples candidates)
        (.matching operand tuples
          (disjunctCandidates build read (operandsMethods ops dynamicOperandList) number candidates))

/-- What an evaluation evaluates in the end. -/
def Reaches : Evaluation n → Evaluation n → Prop := Relation.ReflTransGen (Evaluates ops build read)

/-- The result of the call is that of the evaluation tuple by tuple. -/
def Evaluation.Agrees : Evaluation n → Prop
  | .values s tuples => (s.methods ops).AgreesOn build read tuples
  | .matching p tuples candidates => (p.methods ops).AgreesOn build read tuples candidates

/-- Some accessor, filter and existence map make the call. -/
def Evaluation.Realised : Evaluation n → Prop
  | .values _ tuples => ∃ accessor, Iterates read tuples accessor
  | .matching _ tuples candidates =>
    ∃ accessor filter existenceMap, Selects read tuples candidates accessor filter existenceMap

/-- Some call has a result. -/
def Evaluation.Returned : Evaluation n → Prop
  | .values s tuples =>
    ∃ accessor, Iterates read tuples accessor ∧ ((s.methods ops).getAllValues build accessor).Returns
  | .matching p tuples candidates =>
    ∃ accessor filter existenceMap, Selects read tuples candidates accessor filter existenceMap ∧
      ((p.methods ops).getAllMatches build accessor filter existenceMap).Returns

/-- A condition on the values that a binary operation gets. -/
abbrev BinaryCondition := BinaryOperation → DataType → DataType → TypedValue → TypedValue → Prop

/-- The values that a binary expression gets meet a condition. -/
def Evaluation.Meets (condition : BinaryCondition) : Evaluation n → Prop
  | .values (.binaryExpression operation left right) tuples =>
    (left.methods ops).staticValue = none ∨ (right.methods ops).staticValue = none → ∀ t ∈ tuples,
      condition operation (left.methods ops).type (right.methods ops).type
        ((left.methods ops).valueFor (read t)) ((right.methods ops).valueFor (read t))
  | .values (.literal _ _) _ | .values (.ofAttribute _) _ | .values (.unaryExpression _ _) _
  | .values (.caseExpression _ _ _) _ | .matching _ _ _ => True

/-- The branch that a CASE chooses for a tuple yields a column of the class that the CASE demands. -/
def Evaluation.KeepsLayout : Evaluation n → Prop
  | .values (.caseExpression type branches elseResultExpression) tuples =>
    fixedBranch (branches.map (Branch.scalar ops)) elseResultExpression = none → ∀ t ∈ tuples,
      SameLayout ((firstMatch (read t) (branches.map (Branch.scalar ops))
        elseResultExpression).methods ops).columnType type
  | .values (.literal _ _) _ | .values (.ofAttribute _) _ | .values (.unaryExpression _ _) _
  | .values (.binaryExpression _ _ _) _ | .matching _ _ _ => True

/-- The comparator of a comparison selects the tuples whose single values compare. -/
def Evaluation.Compares : Evaluation n → Prop
  | .matching (.comparison comparison left right) tuples candidates =>
    (left.methods ops).staticValue = none ∨ (right.methods ops).staticValue = none →
      ComparesOn (ops.makeUncheckedComparatorForTypes comparison (left.methods ops).type
          (right.methods ops).type) (left.methods ops) (right.methods ops) build read tuples candidates
  | .values _ _ | .matching .truePredicate _ _ | .matching .falsePredicate _ _
  | .matching (.negation _) _ _ | .matching (.conjunction _ _ _) _ _
  | .matching (.disjunction _ _ _ _) _ _ => True

/-- The node that is called does not go wrong itself. -/
structure Evaluation.NodeExact (condition : BinaryCondition) (evaluation : Evaluation n) : Prop where
  meets : evaluation.Meets ops read condition
  keepsLayout : evaluation.KeepsLayout ops read
  compares : evaluation.Compares ops build read

/-- No node that is reached goes wrong. -/
def Evaluation.Exact (condition : BinaryCondition) (evaluation : Evaluation n) : Prop :=
  ∀ next, Reaches ops build read evaluation next → next.NodeExact ops build read condition

/-- The loops of the unary operators repeat the entry points for single values, those of the binary
operators exactly where a condition holds. -/
structure LoopExactly (condition : BinaryCondition) : Prop where
  unary : ∀ operation type, (ops.makeUncheckedUnaryOperatorForType operation type).Agrees
  binary : ∀ operation left right,
    let op := ops.makeUncheckedBinaryOperatorForTypes operation left right
    ∃ f, op.LoopsOver f ∧ ∀ leftValue rightValue,
      f leftValue rightValue = op.applyToTypedValues leftValue rightValue ↔
        condition operation left right leftValue rightValue

end Definitions

/-- Operators that agree are exact everywhere. -/
theorem loopExactly_of_agrees {ops : Operations} (agrees : ops.Agrees) :
    LoopExactly ops fun _ _ _ _ _ => True where
  unary := agrees.unary
  binary operation left right := ⟨_, agrees.binary operation left right, fun _ _ => by simp⟩

/-- A modulo of an INT and a FLOAT has a NULL operand. -/
def Unpromoted : BinaryCondition := fun operation left right leftValue rightValue =>
  operation.promotesToDouble left right = true → hasNullOperand left right leftValue rightValue = true

/-- The operators of the operations are exact except for that modulo. -/
theorem operations_loopExactly {platform : Platform} {comparisons : Operations} :
    LoopExactly (operations platform comparisons) Unpromoted where
  unary := operations_unary_agrees
  binary := operations_loopsOver

section Steps

variable {ops : Operations} {build : Build} {n : Nat} {read : Fin n → AttributeReader}
  {condition : BinaryCondition}

/-- The size of the tree whose method is called. -/
noncomputable def Evaluation.size : Evaluation n → Nat
  | .values s _ => sizeOf s
  | .matching p _ _ => sizeOf p

section Sizes

variable {cached : StaticState} {fresh : Bool} {staticOperandList operands : List Predicate}
  {number : Nat} {operand : Predicate} (isOperand : operands[number]? = some operand)
include isOperand

theorem sizeOf_conjunct :
    sizeOf operand < sizeOf (Predicate.conjunction cached staticOperandList operands) := by
  have smaller := List.sizeOf_lt_of_mem (List.mem_of_getElem? isOperand)
  simp
  omega

theorem sizeOf_disjunct :
    sizeOf operand < sizeOf (Predicate.disjunction cached fresh staticOperandList operands) := by
  have smaller := List.sizeOf_lt_of_mem (List.mem_of_getElem? isOperand)
  simp
  omega

end Sizes

/-- What is evaluated in turn is smaller. -/
theorem Evaluates.size_lt {evaluation next : Evaluation n}
    (evaluates : Evaluates ops build read evaluation next) : next.size < evaluation.size := by
  cases evaluates with
  | operand _ | leftOperand _ | rightOperand _ | elseResult _ _ | leftComparand _ | rightComparand _
  | negated _ =>
    simp [Evaluation.size]
    try omega
  | fixedResult resolved _ => exact sizeOf_result (fixedBranch_mem resolved) _
  | whenPredicate _ isBranch _ => exact (sizeOf_branch (List.mem_of_getElem? isBranch) _).1
  | result _ isBranch _ => exact (sizeOf_branch (List.mem_of_getElem? isBranch) _).2
  | conjunct _ isOperand _ => exact sizeOf_conjunct isOperand
  | disjunct _ isOperand => exact sizeOf_disjunct isOperand

/-- What is evaluated in turn can be called. -/
theorem Evaluates.realised {evaluation next : Evaluation n}
    (evaluates : Evaluates ops build read evaluation next) (realised : evaluation.Realised read) :
    next.Realised read := by
  cases evaluates with
  | operand _ | leftOperand _ | rightOperand _ | fixedResult _ _ | negated _ => exact realised
  | whenPredicate _ _ _ =>
    obtain ⟨accessor, iterates⟩ := realised
    obtain ⟨sequence, selects⟩ := iterates.selects.exists_restrict _
    exact ⟨accessor, _, _, selects⟩
  | result _ _ _ | elseResult _ _ =>
    obtain ⟨accessor, iterates⟩ := realised
    exact iterates.exists_adapter _
  | leftComparand _ | rightComparand _ =>
    obtain ⟨accessor, filter, existenceMap, selects⟩ := realised
    exact ⟨_, (selects_columnView build selects).toIterates⟩
  | conjunct _ _ _ =>
    obtain ⟨accessor, filter, existenceMap, selects⟩ := realised
    obtain ⟨sequence, restricted⟩ := selects.exists_restrict _
    exact ⟨accessor, _, _, restricted⟩
  | disjunct _ _ =>
    obtain ⟨accessor, filter, existenceMap, selects⟩ := realised
    change ∃ accessor filter existenceMap, Selects read _ (disjunctCandidates ..) accessor filter _
    unfold disjunctCandidates
    split
    · obtain ⟨sequence, restricted⟩ := selects.exists_restrict _
      exact ⟨accessor, _, _, restricted⟩
    · exact ⟨accessor, filter, existenceMap, selects⟩

theorem Reaches.realised {evaluation next : Evaluation n}
    (reaches : Reaches ops build read evaluation next) (realised : evaluation.Realised read) :
    next.Realised read := by
  induction reaches with
  | refl => exact realised
  | tail _ evaluates ih => exact evaluates.realised ih

/-! One node, over calls that agree. -/

section Nodes

variable {type : DataType} {branches : List Branch} {elseResultExpression : Scalar}
  {tuples : List (Fin n)}

theorem branchesMethods_getElem? {number : Nat} {branch : PredicateMethods × ScalarMethods} :
    (branchesMethods ops branches)[number]? = some branch ↔
      ∃ whenPredicate result, branches[number]? = some (.mk whenPredicate result) ∧
        (whenPredicate.methods ops, result.methods ops) = branch := by
  rw [branchesMethods_eq, List.getElem?_map, Option.map_eq_some_iff]
  constructor
  · rintro ⟨⟨whenPredicate, result⟩, isBranch, same⟩
    exact ⟨whenPredicate, result, isBranch, same⟩
  · rintro ⟨whenPredicate, result, isBranch, same⟩
    exact ⟨_, isBranch, same⟩

theorem operandsMethods_getElem? {operands : List Predicate} {number : Nat}
    {methods : PredicateMethods} :
    (operandsMethods ops operands)[number]? = some methods ↔
      ∃ operand, operands[number]? = some operand ∧ operand.methods ops = methods := by
  rw [operandsMethods_eq, List.getElem?_map, Option.map_eq_some_iff]

theorem branchesMethods_length : (branchesMethods ops branches).length = branches.length := by
  rw [branchesMethods_eq, List.length_map]

/-- What the evaluation of a CASE evaluates in turn agrees. -/
theorem branchesAgree_of_evaluates
    (unresolved : fixedBranch (branches.map (Branch.scalar ops)) elseResultExpression = none)
    (children : ∀ next, Evaluates ops build read
      (.values (.caseExpression type branches elseResultExpression) tuples) next →
        next.Agrees ops build read) :
    BranchesAgree build read tuples (branchesMethods ops branches)
      (elseResultExpression.methods ops) where
  whenPredicate number branch isMethods nonempty := by
    obtain ⟨whenPredicate, result, isBranch, rfl⟩ := branchesMethods_getElem?.mp isMethods
    exact children _ (.whenPredicate unresolved isBranch nonempty)
  result number branch isMethods nonempty := by
    obtain ⟨whenPredicate, result, isBranch, rfl⟩ := branchesMethods_getElem?.mp isMethods
    exact children _ (.result unresolved isBranch nonempty)
  elseResult nonempty := by
    rw [branchesMethods_length] at nonempty ⊢
    exact children _ (.elseResult unresolved nonempty)

theorem caseExpression_agrees_iff
    (children : ∀ next, Evaluates ops build read
      (.values (.caseExpression type branches elseResultExpression) tuples) next →
        next.Agrees ops build read)
    (realised : ∃ accessor, Iterates read tuples accessor) :
    ((Scalar.caseExpression type branches elseResultExpression).methods ops).AgreesOn build read
        tuples ↔
      (fixedBranch (branches.map (Branch.scalar ops)) elseResultExpression = none → ∀ t ∈ tuples,
        SameLayout ((firstMatch (read t) (branches.map (Branch.scalar ops))
          elseResultExpression).methods ops).columnType type) := by
  cases resolved : fixedBranch (branches.map (Branch.scalar ops)) elseResultExpression with
  | some fixed =>
    refine iff_of_true ?_ (by rintro ⟨⟩)
    have isFixed : fixedBranch (branchesMethods ops branches) (elseResultExpression.methods ops) =
        some (fixed.methods ops) := by rw [fixedBranch_scalars, resolved]; rfl
    exact scalarCaseExpression_agrees_fixed isFixed fun dynamic =>
      children _ (.fixedResult resolved dynamic)
  | none =>
    have unresolved : fixedBranch (branchesMethods ops branches) (elseResultExpression.methods ops) =
        none := by rw [fixedBranch_scalars, resolved]; rfl
    have agree := branchesAgree_of_evaluates resolved children
    have agrees := @scalarCaseExpression_agrees_iff _ _ _ _ type _ _ unresolved agree realised
    simp only [firstMatch_scalars] at agrees
    rw [forall_prop_of_true rfl]
    exact agrees

theorem Evaluation.nodeExact_iff {evaluation : Evaluation n} :
    evaluation.NodeExact ops build read condition ↔
      evaluation.Meets ops read condition ∧ evaluation.KeepsLayout ops read ∧
        evaluation.Compares ops build read :=
  ⟨fun exact => ⟨exact.meets, exact.keepsLayout, exact.compares⟩,
    fun exact => ⟨exact.1, exact.2.1, exact.2.2⟩⟩

/-- **One node**: over calls that agree it agrees exactly if it does not go wrong itself. -/
theorem Evaluation.agrees_iff (loops : LoopExactly ops condition) {evaluation : Evaluation n}
    (children : ∀ next, Evaluates ops build read evaluation next → next.Agrees ops build read)
    (realised : evaluation.Realised read) :
    evaluation.Agrees ops build read ↔ evaluation.NodeExact ops build read condition := by
  rw [Evaluation.nodeExact_iff]
  have always {agrees : Prop} (holds : agrees) : agrees ↔ True ∧ True ∧ True := by simpa using holds
  cases evaluation with
  | values s tuples =>
    cases s with
    | literal value type => exact always (scalarLiteral_agrees value type)
    | ofAttribute attr => exact always (scalarAttribute_agrees attr)
    | unaryExpression operation operand =>
      exact always (scalarUnaryExpression_agrees (loops.unary operation _) operand.caches
        fun evaluated => children _ (.operand evaluated))
    | binaryExpression operation left right =>
      obtain ⟨f, loopsOver, exact⟩ :=
        loops.binary operation (left.methods ops).type (right.methods ops).type
      have agrees := scalarBinaryExpression_agrees_iff loopsOver left.caches right.caches
        (fun evaluated => children _ (.leftOperand evaluated))
        (fun evaluated => children _ (.rightOperand evaluated)) realised
      simp only [exact] at agrees
      exact agrees.trans (and_iff_left ⟨trivial, trivial⟩).symm
    | caseExpression type branches elseResultExpression =>
      exact (caseExpression_agrees_iff children realised).trans
        (by simp [Evaluation.Meets, Evaluation.KeepsLayout, Evaluation.Compares])
  | matching p tuples candidates =>
    cases p with
    | truePredicate => exact always (trivialPredicate_agrees true)
    | falsePredicate => exact always (trivialPredicate_agrees false)
    | comparison comparison left right =>
      exact (comparisonPredicate_agrees_iff (fun evaluated => children _ (.leftComparand evaluated))
        (fun evaluated => children _ (.rightComparand evaluated))).trans
        (by simp [Evaluation.Meets, Evaluation.KeepsLayout, Evaluation.Compares])
    | negation operand =>
      exact always (negationPredicate_agrees fun dynamic => children _ (.negated dynamic))
    | conjunction cached staticOperandList dynamicOperandList =>
      refine always (conjunctionPredicate_agrees ?_)
      intro dynamic number methods isMethods nonempty
      obtain ⟨operand, isOperand, rfl⟩ := operandsMethods_getElem?.mp isMethods
      exact children _ (.conjunct dynamic isOperand nonempty)
    | disjunction cached fresh staticOperandList dynamicOperandList =>
      refine always (disjunctionPredicate_agrees ?_)
      intro dynamic number methods isMethods
      obtain ⟨operand, isOperand, rfl⟩ := operandsMethods_getElem?.mp isMethods
      exact children _ (.disjunct dynamic isOperand)

end Nodes

/-! ## Whole trees -/

theorem Evaluation.Exact.next {evaluation next : Evaluation n}
    (exact : evaluation.Exact ops build read condition)
    (evaluates : Evaluates ops build read evaluation next) : next.Exact ops build read condition :=
  fun _ reaches => exact _ (.head evaluates reaches)

/-- From one node to a tree. -/
theorem Evaluation.agrees_of_exact (loops : LoopExactly ops condition) (evaluation : Evaluation n)
    (realised : evaluation.Realised read) (exact : evaluation.Exact ops build read condition) :
    evaluation.Agrees ops build read := by
  refine (Evaluation.agrees_iff loops ?_ realised).mpr (exact _ .refl)
  intro next evaluates
  have smaller := evaluates.size_lt
  exact next.agrees_of_exact loops (evaluates.realised realised) (exact.next evaluates)
termination_by evaluation.size

/-- All calls that are reached agree exactly if none of them goes wrong. -/
theorem Evaluation.reached_agree_iff (loops : LoopExactly ops condition) {evaluation : Evaluation n}
    (realised : evaluation.Realised read) :
    (∀ next, Reaches ops build read evaluation next → next.Agrees ops build read) ↔
      evaluation.Exact ops build read condition := by
  constructor
  · intro agree next reaches
    refine (Evaluation.agrees_iff loops ?_ (reaches.realised realised)).mp (agree next reaches)
    exact fun later evaluates => agree later (reaches.tail evaluates)
  · intro exact next reaches
    refine next.agrees_of_exact loops (reaches.realised realised) ?_
    exact fun later further => exact later (reaches.trans further)

end Steps

/-! ## Calls with a result -/

section Returned

variable {ops : Operations} {build : Build} {n : Nat} {read : Fin n → AttributeReader}

/-- A call that agrees has a result. -/
theorem Evaluation.Agrees.returned {evaluation : Evaluation n}
    (agrees : evaluation.Agrees ops build read) (realised : evaluation.Realised read) :
    evaluation.Returned ops build read := by
  cases evaluation with
  | values s tuples =>
    obtain ⟨accessor, iterates⟩ := realised
    exact ⟨accessor, iterates, _, agrees accessor iterates⟩
  | matching p tuples candidates =>
    obtain ⟨accessor, filter, existenceMap, selects⟩ := realised
    obtain ⟨result, ran, _⟩ := agrees accessor filter existenceMap selects
    exact ⟨accessor, filter, existenceMap, selects, result, ran⟩

theorem Evaluation.Returned.realised {evaluation : Evaluation n}
    (returned : evaluation.Returned ops build read) : evaluation.Realised read := by
  cases evaluation with
  | values s tuples =>
    obtain ⟨accessor, iterates, _⟩ := returned
    exact ⟨accessor, iterates⟩
  | matching p tuples candidates =>
    obtain ⟨accessor, filter, existenceMap, selects, _⟩ := returned
    exact ⟨accessor, filter, existenceMap, selects⟩

/-- What a CASE with a result evaluates agrees, if smaller calls with a result do. -/
theorem branchesAgree_of_returned {type : DataType} {branches : List Branch}
    {elseResultExpression : Scalar} {tuples : List (Fin n)}
    (unresolved : fixedBranch (branches.map (Branch.scalar ops)) elseResultExpression = none)
    (smallerAgree : ∀ next : Evaluation n,
      next.size < sizeOf (Scalar.caseExpression type branches elseResultExpression) →
      next.Returned ops build read → next.Agrees ops build read)
    (returned : Evaluation.Returned ops build read
      (.values (.caseExpression type branches elseResultExpression) tuples)) :
    BranchesAgree build read tuples (branchesMethods ops branches)
      (elseResultExpression.methods ops) := by
  obtain ⟨accessor, iterates, returns⟩ := returned
  have isUnresolved : fixedBranch (branchesMethods ops branches) (elseResultExpression.methods ops) =
      none := by rw [fixedBranch_scalars, unresolved]; rfl
  have ran : (caseGetAllValues type (branchesMethods ops branches) (elseResultExpression.methods ops)
      build accessor).Returns := by
    rw [← scalarCaseExpression_dynamic isUnresolved]
    exact returns
  refine caseGetAllValues_returns iterates ?_ ?_ ?_ ran
  · intro number branch isMethods filter selects returns
    obtain ⟨whenPredicate, result, isBranch, rfl⟩ := branchesMethods_getElem?.mp isMethods
    refine smallerAgree (.matching whenPredicate _ _) ?_ ⟨accessor, _, _, selects, returns⟩
    exact (sizeOf_branch (List.mem_of_getElem? isBranch) type).1
  · intro number branch isMethods adapter iterates returns
    obtain ⟨whenPredicate, result, isBranch, rfl⟩ := branchesMethods_getElem?.mp isMethods
    refine smallerAgree (.values result _) ?_ ⟨adapter, iterates, returns⟩
    exact (sizeOf_branch (List.mem_of_getElem? isBranch) type).2
  · intro adapter iterates returns
    refine smallerAgree (.values elseResultExpression _) ?_ ⟨adapter, iterates, returns⟩
    exact @sizeOf_result ops _ _ _ (.inl rfl) type

/-- Of a call with a result, what it evaluates in turn has results too, so it agrees if smaller calls
with a result do. -/
theorem Evaluation.Returned.children_agree {evaluation : Evaluation n}
    (smallerAgree : ∀ next : Evaluation n, next.size < evaluation.size →
      next.Returned ops build read → next.Agrees ops build read)
    (returned : evaluation.Returned ops build read) :
    ∀ next, Evaluates ops build read evaluation next → next.Agrees ops build read := by
  intro next evaluates
  have agreesIf := smallerAgree next evaluates.size_lt
  cases evaluates with
  | operand evaluated =>
    obtain ⟨accessor, iterates, returns⟩ := returned
    exact agreesIf ⟨accessor, iterates, scalarUnaryExpression_returns returns evaluated⟩
  | leftOperand evaluated =>
    obtain ⟨accessor, iterates, returns⟩ := returned
    have returns := scalarBinaryExpression_returns (.inl evaluated.1) returns
    exact agreesIf ⟨accessor, iterates, (binaryGetAllValues_returns returns).1 evaluated⟩
  | rightOperand evaluated =>
    obtain ⟨accessor, iterates, returns⟩ := returned
    have returns := scalarBinaryExpression_returns (.inr evaluated.1) returns
    exact agreesIf ⟨accessor, iterates, (binaryGetAllValues_returns returns).2 evaluated⟩
  | fixedResult resolved dynamic =>
    obtain ⟨accessor, iterates, returns⟩ := returned
    refine agreesIf ⟨accessor, iterates, scalarCaseExpression_returns_fixed ?_ dynamic returns⟩
    rw [fixedBranch_scalars, resolved]
    rfl
  | whenPredicate unresolved isBranch nonempty =>
    have agree := branchesAgree_of_returned unresolved smallerAgree returned
    exact agree.whenPredicate _ _ (branchesMethods_getElem?.mpr ⟨_, _, isBranch, rfl⟩) nonempty
  | result unresolved isBranch nonempty =>
    have agree := branchesAgree_of_returned unresolved smallerAgree returned
    exact agree.result _ _ (branchesMethods_getElem?.mpr ⟨_, _, isBranch, rfl⟩) nonempty
  | elseResult unresolved nonempty =>
    have agree := (branchesAgree_of_returned unresolved smallerAgree returned).elseResult
    rw [branchesMethods_length] at agree
    exact agree nonempty
  | leftComparand evaluated =>
    obtain ⟨accessor, filter, existenceMap, selects, returns⟩ := returned
    exact agreesIf ⟨_, (selects_columnView build selects).toIterates,
      (comparisonPredicate_returns returns).1 evaluated⟩
  | rightComparand evaluated =>
    obtain ⟨accessor, filter, existenceMap, selects, returns⟩ := returned
    exact agreesIf ⟨_, (selects_columnView build selects).toIterates,
      (comparisonPredicate_returns returns).2 evaluated⟩
  | negated dynamic =>
    obtain ⟨accessor, filter, existenceMap, selects, returns⟩ := returned
    exact agreesIf ⟨accessor, filter, existenceMap, selects, negationPredicate_returns dynamic returns⟩
  | conjunct dynamic isOperand nonempty =>
    obtain ⟨accessor, filter, existenceMap, selects, returns⟩ := returned
    refine conjunctionPredicate_returns dynamic selects ?_ returns _ _
      (operandsMethods_getElem?.mpr ⟨_, isOperand, rfl⟩) nonempty
    intro number methods isMethods operandFilter selects returns
    obtain ⟨operand, isOperand, rfl⟩ := operandsMethods_getElem?.mp isMethods
    refine smallerAgree (.matching operand _ _) ?_ ⟨accessor, _, _, selects, returns⟩
    exact sizeOf_conjunct isOperand
  | disjunct dynamic isOperand =>
    obtain ⟨accessor, filter, existenceMap, selects, returns⟩ := returned
    refine disjunctionPredicate_returns dynamic selects ?_ returns _ _
      (operandsMethods_getElem?.mpr ⟨_, isOperand, rfl⟩)
    intro number methods isMethods operandFilter selects returns
    obtain ⟨operand, isOperand, rfl⟩ := operandsMethods_getElem?.mp isMethods
    refine smallerAgree (.matching operand _ _) ?_ ⟨accessor, _, _, selects, returns⟩
    exact sizeOf_disjunct isOperand

/-- The node of a call with a result does not go wrong. -/
theorem Evaluation.Returned.keepsLayout {evaluation : Evaluation n}
    (children : ∀ next, Evaluates ops build read evaluation next → next.Agrees ops build read)
    (returned : evaluation.Returned ops build read) : evaluation.KeepsLayout ops read := by
  cases evaluation with
  | matching _ _ _ => trivial
  | values s tuples =>
    cases s with
    | literal _ _ | ofAttribute _ | unaryExpression _ _ | binaryExpression _ _ _ => trivial
    | caseExpression type branches elseResultExpression =>
      intro unresolved
      obtain ⟨accessor, iterates, column, ran⟩ := returned
      have isUnresolved : fixedBranch (branchesMethods ops branches)
          (elseResultExpression.methods ops) = none := by rw [fixedBranch_scalars, unresolved]; rfl
      change (scalarCaseExpression ..).getAllValues build accessor = _ at ran
      rw [scalarCaseExpression_dynamic isUnresolved,
        caseGetAllValues_eq iterates (branchesAgree_of_evaluates unresolved children)] at ran
      by_contra layouts
      simp only [firstMatch_scalars] at ran
      rw [if_neg layouts] at ran
      cases ran

/-- Comparators that agree compare any tuples. -/
theorem Evaluation.compares_of_agree
    (comparators : ∀ comparison left right,
      (ops.makeUncheckedComparatorForTypes comparison left right).Agrees)
    (evaluation : Evaluation n) : evaluation.Compares ops build read := by
  cases evaluation with
  | values _ _ => trivial
  | matching p tuples candidates =>
    cases p with
    | comparison comparison left right =>
      exact fun _ => comparesOn_of_agrees (comparators ..) left.caches right.caches
    | truePredicate | falsePredicate | negation _ | conjunction _ _ _ | disjunction _ _ _ _ => trivial

variable (operatorsAgree : ops.Agrees)
include operatorsAgree

/-- Over operators that agree only the layouts can go wrong. -/
theorem Evaluation.nodeExact_of_keepsLayout {evaluation : Evaluation n}
    (keepsLayout : evaluation.KeepsLayout ops read) :
    evaluation.NodeExact ops build read fun _ _ _ _ _ => True where
  meets := by
    cases evaluation with
    | matching _ _ _ => trivial
    | values s tuples =>
      cases s with
      | literal _ _ | ofAttribute _ | unaryExpression _ _ | caseExpression _ _ _ => trivial
      | binaryExpression _ _ _ => exact fun _ _ _ => trivial
  keepsLayout := keepsLayout
  compares := evaluation.compares_of_agree operatorsAgree.comparator

/-- A call with a result agrees. -/
theorem Evaluation.Returned.agrees (evaluation : Evaluation n)
    (returned : evaluation.Returned ops build read) : evaluation.Agrees ops build read := by
  have children := returned.children_agree fun next smaller returned =>
    Evaluation.Returned.agrees next returned
  exact (Evaluation.agrees_iff (loopExactly_of_agrees operatorsAgree) children returned.realised).mpr
    (Evaluation.nodeExact_of_keepsLayout operatorsAgree (returned.keepsLayout children))
termination_by evaluation.size

/-- **A call has a result** exactly if every CASE that it reaches keeps the layout. -/
theorem Evaluation.returned_iff {evaluation : Evaluation n} (realised : evaluation.Realised read) :
    evaluation.Returned ops build read ↔
      ∀ next, Reaches ops build read evaluation next → next.KeepsLayout ops read := by
  constructor
  · intro returned next reaches
    have children {evaluation : Evaluation n} (returned : evaluation.Returned ops build read) :=
      returned.children_agree fun next _ returned => Evaluation.Returned.agrees operatorsAgree next returned
    have nextReturned : next.Returned ops build read := by
      induction reaches with
      | refl => exact returned
      | tail _ evaluates ih =>
        exact (children ih _ evaluates).returned (evaluates.realised ih.realised)
    exact nextReturned.keepsLayout (children nextReturned)
  · intro keepLayouts
    have agrees := evaluation.agrees_of_exact (loopExactly_of_agrees operatorsAgree) realised
      fun next reaches => Evaluation.nodeExact_of_keepsLayout operatorsAgree (keepLayouts next reaches)
    exact agrees.returned realised

end Returned

end Quickstep.Expressions
