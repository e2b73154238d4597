import Quickstep.Expressions.CaseColumns

/-!
# Expression trees

Trees of scalars and predicates, with the methods of every node. What the constructors cache, a static
value or an attribute that may be read in place, is the value of the node for every tuple.
-/

namespace Quickstep.Expressions
open Quickstep.Common Quickstep.Types TupleIdSequence

mutual

/-- The subclasses of `Scalar`. -/
inductive Scalar where
  | literal (value : TypedValue) (type : DataType)
  | ofAttribute (attr : CatalogAttribute)
  | unaryExpression (operation : UnaryOperation) (operand : Scalar)
  | binaryExpression (operation : BinaryOperation) (leftOperand rightOperand : Scalar)
  | caseExpression (resultType : DataType) (branches : List Branch) (elseResultExpression : Scalar)

/-- A WHEN predicate with its result expression. -/
inductive Branch where
  | mk (whenPredicate : Predicate) (resultExpression : Scalar)

/-- The subclasses of `Predicate`. Lists of operands are kept apart by whether the operand has a
static result. -/
inductive Predicate where
  | truePredicate
  | falsePredicate
  | comparison (comparison : ComparisonID) (leftOperand rightOperand : Scalar)
  | negation (operand : Predicate)
  | conjunction (cached : StaticState) (staticOperandList dynamicOperandList : List Predicate)
  | disjunction (cached : StaticState) (fresh : Bool)
      (staticOperandList dynamicOperandList : List Predicate)

end

section Methods

variable (ops : Operations)

mutual

def Scalar.methods : Scalar → ScalarMethods
  | .literal value type => scalarLiteral value type
  | .ofAttribute attr => scalarAttribute attr
  | .unaryExpression operation operand => scalarUnaryExpression ops operation operand.methods
  | .binaryExpression operation leftOperand rightOperand =>
    scalarBinaryExpression ops operation leftOperand.methods rightOperand.methods
  | .caseExpression resultType branches elseResultExpression =>
    scalarCaseExpression resultType (branchesMethods branches) elseResultExpression.methods

def Branch.methods : Branch → PredicateMethods × ScalarMethods
  | .mk whenPredicate resultExpression => (whenPredicate.methods, resultExpression.methods)

def Predicate.methods : Predicate → PredicateMethods
  | .truePredicate => trivialPredicate true
  | .falsePredicate => trivialPredicate false
  | .comparison comparison leftOperand rightOperand =>
    comparisonPredicate ops comparison leftOperand.methods rightOperand.methods
  | .negation operand => negationPredicate operand.methods
  | .conjunction cached _ dynamicOperandList =>
    conjunctionPredicate cached (operandsMethods dynamicOperandList)
  | .disjunction cached _ _ dynamicOperandList =>
    disjunctionPredicate cached (operandsMethods dynamicOperandList)

def branchesMethods : List Branch → List (PredicateMethods × ScalarMethods)
  | [] => []
  | branch :: branches => branch.methods :: branchesMethods branches

def operandsMethods : List Predicate → List PredicateMethods
  | [] => []
  | operand :: operands => operand.methods :: operandsMethods operands

end

end Methods

section Static

variable {ops : Operations}

/-- A static result is the result for every tuple. -/
theorem Predicate.matchesFor_static (p : Predicate) {result : Bool}
    (static : (p.methods ops).staticResult = some result) (read : AttributeReader) :
    (p.methods ops).matchesFor read = result := by
  cases p with
  | truePredicate | falsePredicate =>
    cases static
    rfl
  | comparison comparison leftOperand rightOperand =>
    unfold Predicate.methods comparisonPredicate at static ⊢
    simp only at static ⊢
    rw [static]
  | negation operand =>
    unfold Predicate.methods negationPredicate at static ⊢
    simp only at static ⊢
    obtain ⟨r, operandStatic, same⟩ := Option.map_eq_some_iff.mp static
    rw [operandStatic]
    exact same
  | conjunction cached staticOperandList dynamicOperandList =>
    unfold Predicate.methods conjunctionPredicate at static ⊢
    simp only at static ⊢
    rw [static]
  | disjunction cached fresh staticOperandList dynamicOperandList =>
    unfold Predicate.methods disjunctionPredicate at static ⊢
    simp only at static ⊢
    rw [static]

/-- A static value is the value for every tuple. -/
theorem Scalar.valueFor_static (s : Scalar) {value : TypedValue}
    (static : (s.methods ops).staticValue = some value) (read : AttributeReader) :
    (s.methods ops).valueFor read = value := by
  cases s with
  | literal _ _ =>
    cases static
    rfl
  | ofAttribute _ => cases static
  | unaryExpression operation operand =>
    unfold Scalar.methods scalarUnaryExpression at static ⊢
    obtain ⟨operandValue, operandStatic, same⟩ := Option.map_eq_some_iff.mp static
    simp only [operandStatic]
    exact same
  | binaryExpression operation leftOperand rightOperand =>
    unfold Scalar.methods scalarBinaryExpression at static ⊢
    simp only at static ⊢
    rw [static]
  | caseExpression resultType branches elseResultExpression =>
    unfold Scalar.methods scalarCaseExpression at static ⊢
    obtain ⟨fixed, resolved, fixedStatic⟩ := Option.bind_eq_some_iff.mp static
    simp only [resolved, fixedStatic]

end Static

/-! ## The branches of a CASE -/

section Branches

variable {ops : Operations} {branches : List Branch} {elseResultExpression : Scalar}

theorem branchesMethods_eq : branchesMethods ops branches = branches.map (Branch.methods ops) := by
  induction branches with
  | nil => rfl
  | cons branch branches ih => rw [branchesMethods, ih, List.map_cons]

theorem operandsMethods_eq {operands : List Predicate} :
    operandsMethods ops operands = operands.map (Predicate.methods ops) := by
  induction operands with
  | nil => rfl
  | cons operand operands ih => rw [operandsMethods, ih, List.map_cons]

/-- A branch that holds its result expression itself. -/
def Branch.scalar (ops : Operations) : Branch → PredicateMethods × Scalar
  | .mk whenPredicate resultExpression => (whenPredicate.methods ops, resultExpression)

theorem branchesMethods_scalars : branchesMethods ops branches =
    (branches.map (Branch.scalar ops)).map (Prod.map id (Scalar.methods ops)) := by
  rw [branchesMethods_eq, List.map_map]
  exact List.map_congr_left fun ⟨_, _⟩ _ => rfl

/-- The constructor fixes a branch by the WHEN predicates alone. -/
theorem fixedBranch_scalars :
    fixedBranch (branchesMethods ops branches) (elseResultExpression.methods ops) =
      (fixedBranch (branches.map (Branch.scalar ops)) elseResultExpression).map
        (Scalar.methods ops) := by
  rw [branchesMethods_scalars, fixedBranch_map]

theorem firstMatch_scalars (read : AttributeReader) :
    firstMatch read (branchesMethods ops branches) (elseResultExpression.methods ops) =
      (firstMatch read (branches.map (Branch.scalar ops)) elseResultExpression).methods ops := by
  rw [branchesMethods_scalars, firstMatch_map]

theorem sizeOf_branch {whenPredicate : Predicate} {result : Scalar}
    (isBranch : .mk whenPredicate result ∈ branches) (type : DataType) :
    sizeOf whenPredicate < sizeOf (Scalar.caseExpression type branches elseResultExpression) ∧
      sizeOf result < sizeOf (Scalar.caseExpression type branches elseResultExpression) := by
  have smaller := List.sizeOf_lt_of_mem isBranch
  simp at smaller ⊢
  omega

theorem sizeOf_result {result : Scalar}
    (isResult : result = elseResultExpression ∨
      ∃ branch ∈ branches.map (Branch.scalar ops), branch.2 = result) (type : DataType) :
    sizeOf result < sizeOf (Scalar.caseExpression type branches elseResultExpression) := by
  rcases isResult with rfl | ⟨_, isScalar, rfl⟩
  · simp
  · obtain ⟨⟨whenPredicate, result⟩, isBranch, rfl⟩ := List.mem_map.mp isScalar
    exact (sizeOf_branch isBranch type).2

/-- The value of a CASE is that of the branch that is chosen. -/
theorem caseExpression_valueFor_chosenBranch (type : DataType) (read : AttributeReader) :
    ((Scalar.caseExpression type branches elseResultExpression).methods ops).valueFor read =
      ((chosenBranch read (branches.map (Branch.scalar ops)) elseResultExpression).methods
        ops).valueFor read := by
  refine (scalarCaseExpression_valueFor type read ?_).trans ?_
  · intro fixed value isFixed static
    rw [fixedBranch_scalars] at isFixed
    obtain ⟨s, _, rfl⟩ := Option.map_eq_some_iff.mp isFixed
    exact s.valueFor_static static read
  · rw [branchesMethods_scalars, chosenBranch_map]

/-- The value of a CASE with a fixed branch. -/
theorem caseExpression_valueFor_fixed {type : DataType} {fixed : Scalar}
    (resolved : fixedBranch (branches.map (Branch.scalar ops)) elseResultExpression = some fixed)
    (read : AttributeReader) :
    ((Scalar.caseExpression type branches elseResultExpression).methods ops).valueFor read =
      (fixed.methods ops).valueFor read := by
  rw [caseExpression_valueFor_chosenBranch, chosenBranch, resolved]
  rfl

end Branches

section Caches

variable {ops : Operations}

/-- What may be read in place is the value of the node. -/
theorem Scalar.valueFor_elided (s : Scalar) {id : Nat}
    (elided : (s.methods ops).attributeIdForValueAccessor = some id) {n : Nat}
    (accessor : ValueAccessor n) (tuple : Fin n) :
    (s.methods ops).getValueForSingleTuple accessor tuple =
      accessor.getTypedValueAtAbsolutePosition id tuple := by
  cases s with
  | literal _ _ | unaryExpression _ _ | binaryExpression _ _ _ => cases elided
  | ofAttribute attr =>
    cases elided
    rfl
  | caseExpression type branches elseResultExpression =>
    unfold Scalar.methods scalarCaseExpression at elided
    simp only [fixedBranch_scalars, Option.bind_map] at elided
    obtain ⟨fixed, resolved, fixedElided⟩ := Option.bind_eq_some_iff.mp elided
    rw [ScalarMethods.getValueForSingleTuple, caseExpression_valueFor_fixed resolved]
    have smaller := @sizeOf_result ops _ _ _ (fixedBranch_mem resolved) type
    exact fixed.valueFor_elided fixedElided accessor tuple
termination_by sizeOf s

theorem Scalar.caches (s : Scalar) : (s.methods ops).Caches where
  static _ same := s.valueFor_static same
  elided _ same _ := s.valueFor_elided same

theorem Predicate.keepsStaticResult (p : Predicate) : (p.methods ops).KeepsStaticResult :=
  fun _ static => p.matchesFor_static static

end Caches

/-! Tuples of one attribute, the last one NULL, with one of them filtered out. -/

def threeTuples : ValueAccessor 3 where
  store := .tupleVector #v[[.int 1], [.int 2], [.null .int]]
  tupleIdSequence := some (((TupleIdSequence.create 3).setAll true).set 0 false)

def intAttribute : Scalar := .ofAttribute ⟨0, 0, .int true⟩

def isOne : Predicate := .comparison .equal intAttribute (.literal (.int 1) (.int false))

end Quickstep.Expressions
