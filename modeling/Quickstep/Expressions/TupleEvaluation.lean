import Quickstep.Expressions.ExpressionTree
import Quickstep.Types.ArithmeticDomain

/-!
# Evaluation for one tuple, with its faults

Arithmetic that overflows or divides by zero is undefined behaviour. The evaluation of a tree for one
tuple has a result exactly where all arithmetic that it comes to is defined: that of the operands, of the
WHENs up to the first one that holds and of the branch that is chosen, but not that of the operands of AND
and OR behind the one that decides. What the constructors compute of static operands is part of it.
-/

namespace Quickstep.Expressions
open Quickstep.Common Quickstep.Types Quickstep.Lib

/-! ## Evaluation -/

/-- The first result whose condition holds. -/
def firstResult {α : Type} : List (Exec Bool × Exec α) → Exec α → Exec α
  | [], elseResult => elseResult
  | (condition, result) :: branches, elseResult => do
    if ← condition then result else firstResult branches elseResult

/-- The evaluation of a CASE: of the fixed branch alone if there is one. -/
def evaluateCase {α : Type} (branches : List (PredicateMethods × Exec Bool × Exec α))
    (elseResult : Exec α) : Exec α :=
  match fixedBranch (branches.map (Prod.map id Prod.snd)) elseResult with
  | some fixed => fixed
  | none => firstResult (branches.map Prod.snd) elseResult

section Evaluation

variable (platform : Platform) (comparisons : Operations) (read : AttributeReader)

mutual

/-- `getValueForSingleTuple`, and likewise `getValueForJoinedTuples`. -/
def Scalar.evaluate : Scalar → Exec TypedValue
  | .literal value _ => .ok value
  | .ofAttribute attr => .ok (read attr)
  | .unaryExpression operation operand => do
    let ops := operations platform comparisons
    let methods := operand.methods ops
    let value ← operand.evaluate
    if operation.isDefined methods.type value then
      match methods.staticValue with
      | some staticValue => pure (ops.applyToCheckedUnary operation staticValue methods.type)
      | none =>
        let fastOperator := ops.makeUncheckedUnaryOperatorForType operation methods.type
        pure (fastOperator.applyToTypedValue value)
    else .error .undefinedBehaviour
  | .binaryExpression operation leftOperand rightOperand => do
    let ops := operations platform comparisons
    let left := leftOperand.methods ops
    let right := rightOperand.methods ops
    let leftValue ← leftOperand.evaluate
    let rightValue ← rightOperand.evaluate
    if operation.isDefined platform left.type right.type leftValue rightValue then
      match binaryStaticValue ops operation left right with
      | some staticValue => pure staticValue
      | none =>
        let fastOperator := ops.makeUncheckedBinaryOperatorForTypes operation left.type right.type
        pure (fastOperator.applyToTypedValues leftValue rightValue)
    else .error .undefinedBehaviour
  | .caseExpression _ branches elseResultExpression =>
    evaluateCase (evaluateBranches branches) elseResultExpression.evaluate

def evaluateBranches : List Branch → List (PredicateMethods × Exec Bool × Exec TypedValue)
  | [] => []
  | .mk whenPredicate resultExpression :: branches =>
    (whenPredicate.methods (operations platform comparisons), whenPredicate.evaluate,
      resultExpression.evaluate) :: evaluateBranches branches

/-- `matchesForSingleTuple`, and likewise `matchesForJoinedTuples`. -/
def Predicate.evaluate : Predicate → Exec Bool
  | .truePredicate => .ok true
  | .falsePredicate => .ok false
  | .comparison comparison leftOperand rightOperand => do
    let ops := operations platform comparisons
    let left := leftOperand.methods ops
    let right := rightOperand.methods ops
    let leftValue ← leftOperand.evaluate
    let rightValue ← rightOperand.evaluate
    match comparisonStaticResult ops comparison left right with
    | some result => pure result
    | none =>
      let fastComparator := ops.makeUncheckedComparatorForTypes comparison left.type right.type
      pure (fastComparator.compareTypedValues leftValue rightValue)
  | .negation operand => do
    let result ← operand.evaluate
    pure !result
  | .conjunction cached _ dynamicOperandList =>
    match cached.result? with
    | some result => .ok result
    | none => (evaluateOperands dynamicOperandList).allM id
  | .disjunction cached _ _ dynamicOperandList =>
    match cached.result? with
    | some result => .ok result
    | none => (evaluateOperands dynamicOperandList).anyM id

def evaluateOperands : List Predicate → List (Exec Bool)
  | [] => []
  | operand :: operands => operand.evaluate :: evaluateOperands operands

end

end Evaluation

/-! ## Definedness -/

/-- The operands up to the first one that stops the evaluation are defined. -/
def definedUntil (stops : PredicateMethods → Bool) : List (PredicateMethods × Bool) → Bool
  | [] => true
  | (operand, isDefined) :: operands => isDefined && (stops operand || definedUntil stops operands)

section Definedness

variable (platform : Platform) (comparisons : Operations) (read : AttributeReader)

/-- The WHENs up to the first one that holds are defined, unless a branch is fixed, and so is the branch
that is chosen. -/
def caseIsDefined (branches : List (PredicateMethods × Bool × Bool)) (elseIsDefined : Bool) : Bool :=
  let results := branches.map (Prod.map id Prod.snd)
  ((fixedBranch results elseIsDefined).isSome ||
    definedUntil (fun whenPredicate => whenPredicate.matchesFor read)
      (branches.map (Prod.map id Prod.fst))) &&
    chosenBranch read results elseIsDefined

mutual

/-- All arithmetic that the evaluation comes to is defined. -/
def Scalar.isDefinedFor : Scalar → Bool
  | .literal _ _ | .ofAttribute _ => true
  | .unaryExpression operation operand =>
    let methods := operand.methods (operations platform comparisons)
    operand.isDefinedFor && operation.isDefined methods.type (methods.valueFor read)
  | .binaryExpression operation leftOperand rightOperand =>
    let left := leftOperand.methods (operations platform comparisons)
    let right := rightOperand.methods (operations platform comparisons)
    leftOperand.isDefinedFor && rightOperand.isDefinedFor &&
      operation.isDefined platform left.type right.type (left.valueFor read) (right.valueFor read)
  | .caseExpression _ branches elseResultExpression =>
    caseIsDefined read (branchesDefinedFor branches) elseResultExpression.isDefinedFor

def branchesDefinedFor : List Branch → List (PredicateMethods × Bool × Bool)
  | [] => []
  | .mk whenPredicate resultExpression :: branches =>
    (whenPredicate.methods (operations platform comparisons), whenPredicate.isDefinedFor,
      resultExpression.isDefinedFor) :: branchesDefinedFor branches

def Predicate.isDefinedFor : Predicate → Bool
  | .truePredicate | .falsePredicate => true
  | .comparison _ leftOperand rightOperand => leftOperand.isDefinedFor && rightOperand.isDefinedFor
  | .negation operand => operand.isDefinedFor
  | .conjunction cached _ dynamicOperandList =>
    cached.result?.isSome ||
      definedUntil (fun operand => !operand.matchesFor read) (operandsDefinedFor dynamicOperandList)
  | .disjunction cached _ _ dynamicOperandList =>
    cached.result?.isSome ||
      definedUntil (fun operand => operand.matchesFor read) (operandsDefinedFor dynamicOperandList)

def operandsDefinedFor : List Predicate → List (PredicateMethods × Bool)
  | [] => []
  | operand :: operands =>
    (operand.methods (operations platform comparisons), operand.isDefinedFor) ::
      operandsDefinedFor operands

end

end Definedness

/-! ## The evaluation has a result where it is defined -/

/-- A value where it is defined. -/
def valueWhere {α : Type} (isDefined : Bool) (value : α) : Exec α :=
  if isDefined then .ok value else .error .undefinedBehaviour

section Guards

variable {α β : Type}

theorem valueWhere_bind (isDefined : Bool) (value : α) (next : α → Exec β) :
    (valueWhere isDefined value >>= next) =
      if isDefined then next value else .error .undefinedBehaviour := by
  cases isDefined <;> rfl

theorem valueWhere_and (isDefined isDefined' : Bool) (value : α) :
    valueWhere (isDefined && isDefined') value =
      if isDefined then valueWhere isDefined' value else .error .undefinedBehaviour := by
  cases isDefined <;> rfl

@[simp] theorem valueWhere_eq_ok {isDefined : Bool} {value result : α} :
    valueWhere isDefined value = .ok result ↔ isDefined = true ∧ value = result := by
  cases isDefined <;> simp [valueWhere]

variable {operands : List (PredicateMethods × Bool)} {read : AttributeReader}

/-- The loop of a conjunction stops at the first operand that does not hold. -/
theorem allM_valueWhere :
    (operands.map fun operand => valueWhere operand.2 (operand.1.matchesFor read)).allM id =
      valueWhere (definedUntil (fun operand => !operand.matchesFor read) operands)
        (operands.all fun operand => operand.1.matchesFor read) := by
  induction operands with
  | nil => rfl
  | cons operand operands ih =>
    obtain ⟨operand, isDefined⟩ := operand
    rw [List.map_cons, List.allM, id, valueWhere_bind, definedUntil, List.all_cons]
    cases isDefined with
    | false => rfl
    | true =>
      cases holds : operand.matchesFor read with
      | false => rfl
      | true => simpa using ih

/-- The loop of a disjunction stops at the first operand that holds. -/
theorem anyM_valueWhere :
    (operands.map fun operand => valueWhere operand.2 (operand.1.matchesFor read)).anyM id =
      valueWhere (definedUntil (fun operand => operand.matchesFor read) operands)
        (operands.any fun operand => operand.1.matchesFor read) := by
  induction operands with
  | nil => rfl
  | cons operand operands ih =>
    obtain ⟨operand, isDefined⟩ := operand
    rw [List.map_cons, List.anyM, id, valueWhere_bind, definedUntil, List.any_cons]
    cases isDefined with
    | false => rfl
    | true =>
      cases holds : operand.matchesFor read with
      | true => rfl
      | false => simpa using ih

/-- The loop over the WHENs stops at the first one that holds. -/
theorem firstResult_valueWhere (branches : List (PredicateMethods × Bool × Bool × α))
    (elseResult : Bool × α) :
    firstResult (branches.map fun branch =>
        (valueWhere branch.2.1 (branch.1.matchesFor read), valueWhere branch.2.2.1 branch.2.2.2))
        (valueWhere elseResult.1 elseResult.2) =
      let chosen := firstMatch read (branches.map (Prod.map id Prod.snd)) elseResult
      valueWhere
        (definedUntil (fun whenPredicate => whenPredicate.matchesFor read)
          (branches.map (Prod.map id Prod.fst)) && chosen.1)
        chosen.2 := by
  induction branches with
  | nil => rfl
  | cons branch branches ih =>
    obtain ⟨whenPredicate, whenIsDefined, result⟩ := branch
    simp only [List.map_cons, firstResult, valueWhere_bind, Prod.map_apply, definedUntil, firstMatch,
      id_eq]
    cases whenIsDefined with
    | false => rfl
    | true =>
      cases holds : whenPredicate.matchesFor read with
      | true => simp
      | false => simpa using ih

/-- A CASE whose branches are defined here and there. -/
theorem evaluateCase_valueWhere (branches : List (PredicateMethods × Bool × Bool × α))
    (elseResult : Bool × α) :
    evaluateCase (branches.map fun branch =>
        (branch.1, valueWhere branch.2.1 (branch.1.matchesFor read),
          valueWhere branch.2.2.1 branch.2.2.2))
        (valueWhere elseResult.1 elseResult.2) =
      valueWhere
        (caseIsDefined read (branches.map fun branch => (branch.1, branch.2.1, branch.2.2.1))
          elseResult.1)
        (chosenBranch read (branches.map fun branch => (branch.1, branch.2.2.2)) elseResult.2) := by
  have results {β : Type} (f : Bool × α → β) :
      branches.map (fun branch => (branch.1, f branch.2.2)) =
        (branches.map (Prod.map id Prod.snd)).map (Prod.map id f) := by
    rw [List.map_map]
    rfl
  unfold evaluateCase caseIsDefined
  simp only [List.map_map, Function.comp_def, Prod.map, id_eq]
  rw [results fun result => valueWhere result.1 result.2, results Prod.fst, results Prod.snd,
    @fixedBranch_map _ _ (fun result : Bool × α => valueWhere result.1 result.2),
    @fixedBranch_map _ _ (Prod.fst : Bool × α → Bool), chosenBranch_map, chosenBranch_map, chosenBranch]
  cases fixedBranch (branches.map (Prod.map id Prod.snd)) elseResult with
  | some fixed => simp
  | none =>
    simp only [Option.map_none, Option.isSome_none, Bool.false_or, Option.getD_none]
    exact firstResult_valueWhere branches elseResult

end Guards

section Trees

variable {platform : Platform} {comparisons : Operations} {read : AttributeReader}

/-- A branch with what its WHEN and its result are for the tuple, and whether they are defined. -/
def Branch.judged (platform : Platform) (comparisons : Operations) (read : AttributeReader) :
    Branch → PredicateMethods × Bool × Bool × TypedValue
  | .mk whenPredicate result =>
    (whenPredicate.methods (operations platform comparisons),
      whenPredicate.isDefinedFor platform comparisons read,
      result.isDefinedFor platform comparisons read,
      (result.methods (operations platform comparisons)).valueFor read)

theorem branchesDefinedFor_eq (branches : List Branch) :
    branchesDefinedFor platform comparisons read branches =
      (branches.map (Branch.judged platform comparisons read)).map fun branch =>
        (branch.1, branch.2.1, branch.2.2.1) := by
  induction branches with
  | nil => rfl
  | cons branch branches ih =>
    obtain ⟨whenPredicate, result⟩ := branch
    rw [branchesDefinedFor, ih]
    rfl

theorem branchesValues_eq (branches : List Branch) :
    (branches.map (Branch.scalar (operations platform comparisons))).map
        (Prod.map id fun s => (s.methods (operations platform comparisons)).valueFor read) =
      (branches.map (Branch.judged platform comparisons read)).map fun branch =>
        (branch.1, branch.2.2.2) := by
  rw [List.map_map, List.map_map]
  exact List.map_congr_left fun ⟨_, _⟩ _ => rfl

theorem operandsDefinedFor_eq (operands : List Predicate) :
    operandsDefinedFor platform comparisons read operands = operands.map fun operand =>
      (operand.methods (operations platform comparisons),
        operand.isDefinedFor platform comparisons read) := by
  induction operands with
  | nil => rfl
  | cons operand operands ih =>
    rw [operandsDefinedFor, ih]
    rfl

mutual

/-- **The evaluation for one tuple** has a result exactly where it is defined, the value that the methods
of the node have for the tuple. -/
theorem Scalar.evaluate_eq : ∀ s : Scalar, s.evaluate platform comparisons read =
    valueWhere (s.isDefinedFor platform comparisons read)
      ((s.methods (operations platform comparisons)).valueFor read)
  | .literal _ _ | .ofAttribute _ => rfl
  | .unaryExpression operation operand => by
    rw [Scalar.evaluate, operand.evaluate_eq, valueWhere_bind, Scalar.isDefinedFor, valueWhere_and,
      Scalar.methods, scalarUnaryExpression]
    refine if_congr Iff.rfl (if_congr Iff.rfl ?_ rfl) rfl
    cases (operand.methods (operations platform comparisons)).staticValue <;> rfl
  | .binaryExpression operation leftOperand rightOperand => by
    rw [Scalar.evaluate, leftOperand.evaluate_eq, valueWhere_bind, rightOperand.evaluate_eq,
      valueWhere_bind, Scalar.isDefinedFor, Bool.and_assoc, valueWhere_and, valueWhere_and,
      Scalar.methods, scalarBinaryExpression]
    refine if_congr Iff.rfl (if_congr Iff.rfl (if_congr Iff.rfl ?_ rfl) rfl) rfl
    cases binaryStaticValue (operations platform comparisons) operation
      (leftOperand.methods (operations platform comparisons))
      (rightOperand.methods (operations platform comparisons)) <;> rfl
  | .caseExpression type branches elseResultExpression => by
    have chosen := chosenBranch_map
      (fun s : Scalar => (s.methods (operations platform comparisons)).valueFor read)
      (branches.map (Branch.scalar (operations platform comparisons))) elseResultExpression read
    rw [caseExpression_valueFor_chosenBranch, ← chosen, branchesValues_eq, Scalar.evaluate,
      elseResultExpression.evaluate_eq, evaluateBranches_eq branches, Scalar.isDefinedFor,
      branchesDefinedFor_eq]
    exact evaluateCase_valueWhere (branches.map (Branch.judged platform comparisons read))
      (elseResultExpression.isDefinedFor platform comparisons read,
        (elseResultExpression.methods (operations platform comparisons)).valueFor read)

theorem evaluateBranches_eq : ∀ branches : List Branch,
    evaluateBranches platform comparisons read branches =
      (branches.map (Branch.judged platform comparisons read)).map fun branch =>
        (branch.1, valueWhere branch.2.1 (branch.1.matchesFor read),
          valueWhere branch.2.2.1 branch.2.2.2)
  | [] => rfl
  | .mk whenPredicate result :: branches => by
    rw [evaluateBranches, whenPredicate.evaluate_eq, result.evaluate_eq, evaluateBranches_eq branches]
    rfl

theorem Predicate.evaluate_eq : ∀ p : Predicate, p.evaluate platform comparisons read =
    valueWhere (p.isDefinedFor platform comparisons read)
      ((p.methods (operations platform comparisons)).matchesFor read)
  | .truePredicate | .falsePredicate => rfl
  | .comparison comparison leftOperand rightOperand => by
    rw [Predicate.evaluate, leftOperand.evaluate_eq, valueWhere_bind, rightOperand.evaluate_eq,
      valueWhere_bind, Predicate.isDefinedFor, valueWhere_and, Predicate.methods, comparisonPredicate]
    refine if_congr Iff.rfl (if_congr Iff.rfl ?_ rfl) rfl
    cases comparisonStaticResult (operations platform comparisons) comparison
      (leftOperand.methods (operations platform comparisons))
      (rightOperand.methods (operations platform comparisons)) <;> rfl
  | .negation operand => by
    rw [Predicate.evaluate, operand.evaluate_eq, valueWhere_bind, Predicate.isDefinedFor,
      Predicate.methods, negationPredicate]
    refine if_congr Iff.rfl (congrArg Except.ok ?_) rfl
    cases static : (operand.methods (operations platform comparisons)).staticResult with
    | none => rfl
    | some result => rw [operand.matchesFor_static static]
  | .conjunction cached staticOperandList dynamicOperandList => by
    rw [Predicate.evaluate, Predicate.isDefinedFor, Predicate.methods, conjunctionPredicate]
    cases cached.result? with
    | some result => rfl
    | none =>
      rw [evaluateOperands_eq dynamicOperandList, operandsDefinedFor_eq, operandsMethods_eq]
      have evaluated := @allM_valueWhere (dynamicOperandList.map fun operand =>
        (operand.methods (operations platform comparisons),
          operand.isDefinedFor platform comparisons read)) read
      simpa [Function.comp_def] using evaluated
  | .disjunction cached fresh staticOperandList dynamicOperandList => by
    rw [Predicate.evaluate, Predicate.isDefinedFor, Predicate.methods, disjunctionPredicate]
    cases cached.result? with
    | some result => rfl
    | none =>
      rw [evaluateOperands_eq dynamicOperandList, operandsDefinedFor_eq, operandsMethods_eq]
      have evaluated := @anyM_valueWhere (dynamicOperandList.map fun operand =>
        (operand.methods (operations platform comparisons),
          operand.isDefinedFor platform comparisons read)) read
      simpa [Function.comp_def] using evaluated

theorem evaluateOperands_eq : ∀ operands : List Predicate,
    evaluateOperands platform comparisons read operands = operands.map fun operand =>
      valueWhere (operand.isDefinedFor platform comparisons read)
        ((operand.methods (operations platform comparisons)).matchesFor read)
  | [] => rfl
  | operand :: operands => by
    rw [evaluateOperands, operand.evaluate_eq, evaluateOperands_eq operands]
    rfl

end

end Trees

end Quickstep.Expressions
