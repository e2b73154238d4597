import Quickstep.Expressions.VectorisedEvaluation
import Quickstep.Types.ArithmeticDomain
import Quickstep.Types.LiteralComparators

/-!
# Exactness of vectorised evaluation

Over the operators of the source the result of a vectorised call is that of the evaluation tuple by
tuple if no call that it reaches goes wrong: its arithmetic is defined, the values it reads from a column
are those that single values have, no modulo promotes, and every CASE keeps its layout.
-/

namespace Quickstep.Expressions
open Quickstep.Common Quickstep.Types Quickstep.Lib TupleIdSequence

/-! ## Defined calls -/

/-- Which branch of a CASE is evaluated for a tuple. -/
abbrev BranchChoice := AttributeReader → List (PredicateMethods × Scalar) → Scalar → Scalar

section Definitions

variable (platform : Platform) (comparisons : Operations) (build : Build) {n : Nat}
  (read : Fin n → AttributeReader)

/-- The column of a node holds a negative zero for a tuple: a loop left it there, and a CASE passes on
what its branch holds. The constructor of a single value replaces it. -/
inductive StoresNegativeZero (choice : BranchChoice) (tuple : AttributeReader) : Scalar → Prop where
  | unaryExpression {operation : UnaryOperation} {operand : Scalar}
      (dynamic : (operand.methods (operations platform comparisons)).staticValue = none)
      (stores : operation.storesNegativeZero platform
        (operand.methods (operations platform comparisons)).type
        ((operand.methods (operations platform comparisons)).valueFor tuple) = true) :
      StoresNegativeZero choice tuple (.unaryExpression operation operand)
  | binaryExpression {operation : BinaryOperation} {left right : Scalar}
      (dynamic : (left.methods (operations platform comparisons)).staticValue = none ∨
        (right.methods (operations platform comparisons)).staticValue = none)
      (stores : operation.storesNegativeZero platform
        (left.methods (operations platform comparisons)).type
        (right.methods (operations platform comparisons)).type
        ((left.methods (operations platform comparisons)).valueFor tuple)
        ((right.methods (operations platform comparisons)).valueFor tuple) = true) :
      StoresNegativeZero choice tuple (.binaryExpression operation left right)
  | caseExpression {type : DataType} {branches : List Branch} {elseResultExpression : Scalar}
      (chosen : StoresNegativeZero choice tuple (choice tuple
        (branches.map (Branch.scalar (operations platform comparisons))) elseResultExpression)) :
      StoresNegativeZero choice tuple (.caseExpression type branches elseResultExpression)

/-- What an operator reads from the column of its operand is the single value. -/
def Scalar.ReadsAsValue (operand : Scalar) (tuple : AttributeReader) : Prop :=
  (operand.methods (operations platform comparisons)).Evaluated build →
    ¬ StoresNegativeZero platform comparisons chosenBranch tuple operand

/-- The arithmetic of an operator that is not static is defined for the values it gets, and these are
the single values. -/
def Evaluation.IsDefined : Evaluation n → Prop
  | .values (.unaryExpression operation operand) tuples =>
    let methods := operand.methods (operations platform comparisons)
    methods.staticValue = none → ∀ t ∈ tuples,
      operation.isDefined methods.type (methods.valueFor (read t)) = true ∧
        operand.ReadsAsValue platform comparisons build (read t)
  | .values (.binaryExpression operation left right) tuples =>
    let leftMethods := left.methods (operations platform comparisons)
    let rightMethods := right.methods (operations platform comparisons)
    leftMethods.staticValue = none ∨ rightMethods.staticValue = none → ∀ t ∈ tuples,
      operation.isDefined platform leftMethods.type rightMethods.type (leftMethods.valueFor (read t))
          (rightMethods.valueFor (read t)) = true ∧
        left.ReadsAsValue platform comparisons build (read t) ∧
        right.ReadsAsValue platform comparisons build (read t)
  | .values (.literal _ _) _ | .values (.ofAttribute _) _ | .values (.caseExpression _ _ _) _
  | .matching _ _ _ => True

/-- Every call that is reached is defined. -/
def Evaluation.Defined (evaluation : Evaluation n) : Prop :=
  ∀ next, Reaches (operations platform comparisons) build read evaluation next →
    next.IsDefined platform comparisons build read

/-- No call that is reached has a modulo that promotes, or a CASE that changes the layout. -/
def Evaluation.Regular (evaluation : Evaluation n) : Prop :=
  ∀ next, Reaches (operations platform comparisons) build read evaluation next →
    next.Meets (operations platform comparisons) read Unpromoted ∧
      next.KeepsLayout (operations platform comparisons) read

/-- No call that is reached goes wrong, comparisons included. -/
structure Evaluation.Safe (evaluation : Evaluation n) : Prop where
  isDefined : evaluation.Defined platform comparisons build read
  exact : evaluation.Exact (operations platform comparisons) build read Unpromoted

end Definitions

section Safe

variable {platform : Platform} {comparisons : Operations} {build : Build} {n : Nat}
  {read : Fin n → AttributeReader} {evaluation : Evaluation n}

/-- A safe call agrees with the evaluation tuple by tuple. -/
theorem Evaluation.Safe.agrees (safe : evaluation.Safe platform comparisons build read)
    (realised : evaluation.Realised read) :
    evaluation.Agrees (operations platform comparisons) build read :=
  evaluation.agrees_of_exact operations_loopExactly realised safe.exact

/-- From the calls that are made in turn. -/
theorem Evaluation.safe_of_evaluates (isDefined : evaluation.IsDefined platform comparisons build read)
    (exact : evaluation.NodeExact (operations platform comparisons) build read Unpromoted)
    (children : ∀ next, Evaluates (operations platform comparisons) build read evaluation next →
      next.Safe platform comparisons build read) :
    evaluation.Safe platform comparisons build read := by
  constructor
  · intro next reaches
    rcases Relation.ReflTransGen.cases_head_iff.mp reaches with rfl | ⟨child, evaluates, later⟩
    · exact isDefined
    · exact (children child evaluates).isDefined next later
  · intro next reaches
    rcases Relation.ReflTransGen.cases_head_iff.mp reaches with rfl | ⟨child, evaluates, later⟩
    · exact exact
    · exact (children child evaluates).exact next later

end Safe

/-! Attributes and literals alone do not go wrong. -/

section Plain

def Scalar.isPlain : Scalar → Bool
  | .literal _ _ | .ofAttribute _ => true
  | .unaryExpression _ _ | .binaryExpression _ _ _ | .caseExpression _ _ _ => false

mutual

def Predicate.isPlain : Predicate → Bool
  | .truePredicate | .falsePredicate => true
  | .comparison _ leftOperand rightOperand => leftOperand.isPlain && rightOperand.isPlain
  | .negation operand => operand.isPlain
  | .conjunction _ _ dynamicOperandList | .disjunction _ _ _ dynamicOperandList =>
    operandsPlain dynamicOperandList

def operandsPlain : List Predicate → Bool
  | [] => true
  | operand :: operands => operand.isPlain && operandsPlain operands

end

def Evaluation.isPlain {n : Nat} : Evaluation n → Bool
  | .values s _ => s.isPlain
  | .matching p _ _ => p.isPlain

theorem isPlain_of_operandsPlain {operands : List Predicate} {number : Nat} {operand : Predicate}
    (isOperand : operands[number]? = some operand) (plain : operandsPlain operands = true) :
    operand.isPlain = true := by
  induction operands generalizing number with
  | nil => simp at isOperand
  | cons first operands ih =>
    rw [operandsPlain, Bool.and_eq_true] at plain
    cases number with
    | zero =>
      cases isOperand
      exact plain.1
    | succ number => exact ih isOperand plain.2

variable {ops : Operations} {build : Build} {n : Nat} {read : Fin n → AttributeReader}

theorem Evaluates.isPlain {evaluation next : Evaluation n}
    (evaluates : Evaluates ops build read evaluation next) (plain : evaluation.isPlain = true) :
    next.isPlain = true := by
  cases evaluates with
  | operand _ | leftOperand _ | rightOperand _ | fixedResult _ _ | whenPredicate _ _ _ | result _ _ _
  | elseResult _ _ => cases plain
  | leftComparand _ => exact (Bool.and_eq_true_iff.mp plain).1
  | rightComparand _ => exact (Bool.and_eq_true_iff.mp plain).2
  | negated _ => exact plain
  | conjunct _ isOperand _ => exact isPlain_of_operandsPlain isOperand plain
  | disjunct _ isOperand => exact isPlain_of_operandsPlain isOperand plain

theorem Reaches.isPlain {evaluation next : Evaluation n}
    (reaches : Reaches ops build read evaluation next) (plain : evaluation.isPlain = true) :
    next.isPlain = true := by
  induction reaches with
  | refl => exact plain
  | tail _ evaluates ih => exact evaluates.isPlain ih

variable {platform : Platform} {comparisons : Operations}

theorem Evaluation.defined_of_isPlain {evaluation : Evaluation n} (plain : evaluation.isPlain = true) :
    evaluation.Defined platform comparisons build read := by
  intro next reaches
  have plain := reaches.isPlain plain
  cases next with
  | values s _ => cases s <;> trivial
  | matching _ _ _ => trivial

theorem Evaluation.regular_of_isPlain {evaluation : Evaluation n} (plain : evaluation.isPlain = true) :
    evaluation.Regular platform comparisons build read := by
  intro next reaches
  have plain := reaches.isPlain plain
  cases next with
  | values s _ => cases s <;> first | exact ⟨trivial, trivial⟩ | cases plain
  | matching _ _ _ => exact ⟨trivial, trivial⟩

end Plain

/-! ## Predicates -/

/-- The matches are the candidates that the predicate holds for. -/
def Predicate.MatchesExactly (p : Predicate) (ops : Operations) (build : Build) {n : Nat}
    (accessor : ValueAccessor n) (filter existenceMap : Option (TupleIdSequence n)) : Prop :=
  ∃ result, (p.methods ops).getAllMatches build accessor filter existenceMap = .ok result ∧
    ∀ t, t ∈ result ↔
      Candidate filter existenceMap t ∧ (p.methods ops).matchesForSingleTuple accessor t = true

/-- The call of `getAllMatches` for the candidates. -/
def Predicate.matchingCall (p : Predicate) {n : Nat} (accessor : ValueAccessor n)
    (filter existenceMap : Option (TupleIdSequence n)) : Evaluation n :=
  .matching p accessor.positions (assignFromCandidates filter existenceMap).ids

section Predicates

variable {ops : Operations} {build : Build} {n : Nat} {accessor : ValueAccessor n}
  {filter existenceMap : Option (TupleIdSequence n)}

theorem Predicate.realised_matchingCall (p : Predicate) (describes : accessor.Describes existenceMap)
    (within : Within filter existenceMap) :
    (p.matchingCall accessor filter existenceMap).Realised (readSingleTuple accessor) :=
  ⟨accessor, filter, existenceMap, selects_self describes within⟩

theorem Predicate.matchesExactly_of_agrees {p : Predicate} (describes : accessor.Describes existenceMap)
    (within : Within filter existenceMap)
    (agrees : (p.matchingCall accessor filter existenceMap).Agrees ops build
      (readSingleTuple accessor)) : p.MatchesExactly ops build accessor filter existenceMap := by
  have selects := selects_self describes within
  obtain ⟨result, ran, exact⟩ := agrees accessor filter existenceMap selects
  refine ⟨result, ran, fun t => ?_⟩
  rw [exact, selects.mem]
  rfl

variable {platform : Platform} {comparisons : Operations}

/-- With comparators that agree only these two conditions are left. -/
theorem Evaluation.exact_iff_regular
    (comparators : ∀ comparison left right,
      (comparisons.makeUncheckedComparatorForTypes comparison left right).Agrees)
    {read : Fin n → AttributeReader} {evaluation : Evaluation n} :
    evaluation.Exact (operations platform comparisons) build read Unpromoted ↔
      evaluation.Regular platform comparisons build read :=
  forall₂_congr fun next _ =>
    ⟨fun exact => ⟨exact.meets, exact.keepsLayout⟩,
      fun regular => ⟨regular.1, regular.2,
        @Evaluation.compares_of_agree (operations platform comparisons) _ _ _ comparators next⟩⟩

theorem Evaluation.safe_of_isPlain
    (comparators : ∀ comparison left right,
      (comparisons.makeUncheckedComparatorForTypes comparison left right).Agrees)
    {read : Fin n → AttributeReader} {evaluation : Evaluation n} (plain : evaluation.isPlain = true) :
    evaluation.Safe platform comparisons build read where
  isDefined := defined_of_isPlain plain
  exact := (exact_iff_regular comparators).mpr (regular_of_isPlain plain)

end Predicates

/-- The arithmetic of 7 and 2.5 in the IEEE formats. -/
def samplePlatform : Platform where
  floatArithmetic
    | .add, 0x40e00000#32, 0x40200000#32 => 0x41180000#32
    | .modulo, 0x40e00000#32, 0x40200000#32 => 0x40000000#32
    | _, _, _ => 0
  doubleArithmetic
    | .modulo, 0x401c000000000000#64, 0x4004000000000000#64 => 0x4000000000000000#64
    | _, _, _ => 0
  convert
    | .int, .float, value => if value = 7#32 then 0x40e00000#32 else 0#32
    | .int, .double, value => if value = 7#32 then 0x401c000000000000#64 else 0#64
    | .float, .double, value => if value = 0x40200000#32 then 0x4004000000000000#64 else 0#64
    | .double, .float, value => if value = 0x4000000000000000#64 then 0x40000000#32 else 0#32
    | _, .int, _ => 0#32
    | _, .long, _ => 0#64
    | _, .float, _ => 0#32
    | _, .double, _ => 0#64
  gmtimeR _ := ⟨70, 0, 1, 0, 0, 0⟩
  timegm _ := 0
  malloc size := List.replicate size.toNat 0

/-- A tuple of 7 and 2.5. -/
def intAndFloat : ValueAccessor 1 where
  store := .tupleVector #v[[.int 7, .ofLiteral (.number .float) 0x40200000#32]]
  tupleIdSequence := none

def ofIntAndFloat (operation : BinaryOperation) : Scalar :=
  .binaryExpression operation (.ofAttribute ⟨0, 0, .int false⟩) (.ofAttribute ⟨0, 1, .float false⟩)

/-- Numbers are compared as literals of their types, by the default implementations. -/
def numberComparisons (platform : Platform) : Operations :=
  { intOperations with
    makeUncheckedComparatorForTypes := fun comparison left right =>
      defaultComparator fun leftValue rightValue =>
        !leftValue.isNull && !rightValue.isNull &&
          match ComparisonFunctor.ofComparison? comparison, left.numericType?, right.numericType? with
          | some functor, some leftType, some rightType =>
            functor.apply (literalOrder platform (.literal (.number leftType))
              (.literal (.number rightType)) (leftValue.getLiteral (.number leftType))
              (rightValue.getLiteral (.number rightType)))
          | _, _, _ => false }

theorem numberComparisons_agree (platform : Platform) (comparison : ComparisonID)
    (left right : DataType) :
    ((numberComparisons platform).makeUncheckedComparatorForTypes comparison left right).Agrees :=
  defaultComparator_agrees (fun _ _ null => by simp [null]) (fun _ _ null => by simp [null])

/-- `a % b = 2`. -/
def remainderIsTwo : Predicate :=
  .comparison .equal (ofIntAndFloat .modulo)
    (.literal (.ofLiteral (.number .float) 0x40000000#32) (.float false))

/-- The column has one value for each tuple of the iteration, in its order. -/
def Scalar.ColumnExact (s : Scalar) (ops : Operations) (build : Build) {n : Nat}
    (accessor : ValueAccessor n) : Prop :=
  ∃ column, (s.methods ops).getAllValues build accessor = .ok column ∧
    column.length = accessor.getNumTuples ∧
    ∀ (k : Nat) (t : Fin n), accessor.positions[k]? = some t →
      column[k]? = some ((s.methods ops).getValueForSingleTuple accessor t)

/-- The call of `getAllValues` for the tuples of the iteration. -/
def Scalar.valuesCall (s : Scalar) {n : Nat} (accessor : ValueAccessor n) : Evaluation n :=
  .values s accessor.positions

section Scalars

variable {ops : Operations} {build : Build} {n : Nat} {accessor : ValueAccessor n}

theorem Scalar.realised_valuesCall (s : Scalar) :
    (s.valuesCall accessor).Realised (readSingleTuple accessor) := ⟨accessor, rfl, rfl⟩

theorem Scalar.columnExact_of_agrees {s : Scalar}
    (agrees : (s.valuesCall accessor).Agrees ops build (readSingleTuple accessor)) :
    s.ColumnExact ops build accessor := by
  refine ⟨_, agrees accessor ⟨rfl, rfl⟩, ?_, ?_⟩
  · rw [List.length_map, ValueAccessor.length_positions]
  · intro k t place
    rw [List.getElem?_map, place]
    rfl

/-- **Vectorised values are exact**, over operators that agree, exactly where every CASE that is
evaluated keeps its layout. -/
theorem getAllValues_exact (agrees : ops.Agrees) (s : Scalar) (build : Build) {n : Nat}
    (accessor : ValueAccessor n) :
    s.ColumnExact ops build accessor ↔
      ∀ next, Reaches ops build (readSingleTuple accessor) (s.valuesCall accessor) next →
        next.KeepsLayout ops (readSingleTuple accessor) := by
  have returned := @Evaluation.returned_iff _ build _ _ agrees _ (@s.realised_valuesCall _ accessor)
  constructor
  · rintro ⟨column, ran, _⟩
    exact returned.mp ⟨accessor, ⟨rfl, rfl⟩, column, ran⟩
  · intro keepLayouts
    exact Scalar.columnExact_of_agrees
      (Evaluation.Returned.agrees agrees _ (returned.mpr keepLayouts))

end Scalars

theorem getAllValues_exact_negated :
    ∃ column, ((Scalar.unaryExpression .negate intAttribute).methods intOperations).getAllValues
      ⟨true, true⟩ threeTuples = .ok column ∧ column[0]? = some (.int (-2)) := by
  have exact := (getAllValues_exact intOperations_agrees (.unaryExpression .negate intAttribute)
    ⟨true, true⟩ threeTuples).mpr ?_
  · obtain ⟨column, ran, _, values⟩ := exact
    exact ⟨column, ran, values 0 1 (by decide)⟩
  · intro next reaches
    rcases Relation.ReflTransGen.cases_head_iff.mp reaches with rfl | ⟨operand, evaluates, _⟩
    · trivial
    · cases evaluates with
      | operand evaluated => cases evaluated.2

/-- CASE WHEN a = 1 THEN 'x' ELSE '' END, a VARCHAR(1), where ELSE is a VARCHAR(0). -/
def emptyElse : Scalar :=
  .caseExpression (.varChar 1 false)
    [.mk isOne (.literal (.varChar [120, 0]) (.varChar 1 false))]
    (.literal (.varChar [0]) (.varChar 0 false))

/-- The values of a VARCHAR(0) are of fixed length, so the ELSE column is not read as what it is. -/
theorem not_getAllValues_exact_emptyElse :
    intOperations.Agrees ∧ ∀ build, ¬ emptyElse.ColumnExact intOperations build threeTuples := by
  refine ⟨intOperations_agrees, ?_⟩
  rintro build ⟨column, ran, _⟩
  have fault : (emptyElse.methods intOperations).getAllValues build threeTuples =
      .error .undefinedBehaviour := by
    rcases build with ⟨_ | _, _ | _⟩ <;> rfl
  cases fault.symm.trans ran

end Quickstep.Expressions
